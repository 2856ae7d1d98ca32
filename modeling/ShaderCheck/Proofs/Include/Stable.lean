/-
**Expanded texts.**

Nothing in an expanded text asks for anything: none of its lines is an include line or an extension
line. The pieces of an expanded text between line feeds are lines that were kept, or empty; and a
carriage return, which may be at the end of a piece and not of a line, makes no difference to either
kind of directive. So with whatever names registered for whatever files, an expanded text expands to
its own lines.

* `IsPlain`: a text without directives between its line feeds;
* `isPlain_joinLines`, `NamedSources.isPlain_of_expandBelow`: expanded texts are of this kind;
* `NamedSources.expand_stable`: expanding an expanded text again.
-/

import Mathlib.Control.Monad.Basic
import ShaderCheck.FileTree
import ShaderCheck.Proofs.Include.Graph
import ShaderCheck.Proofs.Include.Spelling
import ShaderCheck.Proofs.Text.Lines

namespace ShaderCheck

open Text

/-- Characters that are no directive. -/
def Directive.Absent (line : List Char) : Prop :=
  requestsExtension line = false ∧ requestedName? line = none

/-- No piece of the text between line feeds is a directive. -/
def IsPlain (text : String) : Prop :=
  ∀ piece ∈ splitAtEvery '\n' text.toList, Directive.Absent piece

/-! ### Texts without directives -/

theorem Directive.absent_nil : Directive.Absent [] := ⟨rfl, rfl⟩

theorem Directive.absent_append_return {line : List Char} :
    Directive.Absent (line ++ ['\r']) ↔ Directive.Absent line := by
  rw [Absent, Absent, requestsExtension_append_return, requestedName?_append_return]

theorem Directive.ofLine?_eq_none_iff {line : String} :
    Directive.ofLine? line = none ↔ Directive.Absent line.toList := by
  unfold Directive.ofLine? Directive.Absent
  cases Directive.requestsExtension line.toList <;> simp

theorem IsPlain.ofLine?_eq_none {text line : String} (plain : IsPlain text)
    (member : line ∈ splitLines text) : Directive.ofLine? line = none := by
  obtain ⟨characters, isLine, rfl⟩ := List.mem_map.mp member
  rw [Directive.ofLine?_eq_none_iff, String.toList_ofList]
  obtain ⟨piece, isPiece, rfl | rfl⟩ := exists_piece_of_mem_linesOf isLine
  · exact plain _ isPiece
  · exact Directive.absent_append_return.mp (plain _ isPiece)

/-- A line of a text that is no directive is a text without directives. -/
theorem isPlain_of_ofLine? {text line : String} (member : line ∈ splitLines text)
    (kept : Directive.ofLine? line = none) : IsPlain line := by
  obtain ⟨characters, isLine, rfl⟩ := List.mem_map.mp member
  intro piece isPiece
  rw [String.toList_ofList, splitAtEvery_of_not_mem (not_mem_of_mem_linesOf isLine),
    List.mem_singleton] at isPiece
  rw [Directive.ofLine?_eq_none_iff, String.toList_ofList] at kept
  rwa [isPiece]

theorem isPlain_joinLines {texts : List String} (plain : ∀ text ∈ texts, IsPlain text) :
    IsPlain (joinLines texts) := by
  intro piece isPiece
  by_cases none : texts = []
  · rw [none] at isPiece
    rw [List.mem_singleton.mp isPiece]
    exact Directive.absent_nil
  · rw [splitAtEvery_joinLines none] at isPiece
    obtain ⟨text, member, inText⟩ := List.mem_flatMap.mp isPiece
    exact plain text member piece inText

theorem expandLines_of_absent {lookUp : String → Except IncludeError String}
    {current : Option String} {lines : List String}
    (kept : ∀ line ∈ lines, Directive.ofLine? line = none) :
    expandLines lookUp current lines = .ok lines := by
  induction lines with
  | nil => rfl
  | cons line rest inductionStep =>
    rw [List.forall_mem_cons] at kept
    have first : expandLine lookUp current line = .ok [line] := by rw [expandLine, kept.1]
    exact expandLines_cons_eq_ok_iff.mpr ⟨[line], rest, first, inductionStep kept.2, rfl⟩

/-- Everything in expanded lines is a line that was kept or a text that was looked up. -/
theorem mem_expandLines {lookUp : String → Except IncludeError String} {current : Option String}
    {lines expanded : List String} (isOk : expandLines lookUp current lines = .ok expanded)
    {text : String} (member : text ∈ expanded) :
    (text ∈ lines ∧ Directive.ofLine? text = none) ∨ ∃ name, lookUp name = .ok text := by
  induction lines generalizing expanded with
  | nil =>
    obtain rfl := Except.ok.inj isOk
    cases member
  | cons line rest inductionStep =>
    obtain ⟨front, later, first, others, rfl⟩ := expandLines_cons_eq_ok_iff.mp isOk
    rcases List.mem_append.mp member with inFront | inLater
    · rcases expandLine_eq_ok_iff.mp first with ⟨_, rfl⟩ | ⟨_, inlined, _, found, rfl⟩ | ⟨none, rfl⟩
      · cases inFront
      · rw [List.mem_singleton.mp inFront]
        exact .inr ⟨_, found⟩
      · rw [List.mem_singleton.mp inFront]
        exact .inl ⟨List.mem_cons_self, none⟩
    · rcases inductionStep others inLater with ⟨kept, none⟩ | found
      · exact .inl ⟨List.mem_cons_of_mem _ kept, none⟩
      · exact .inr found

namespace NamedSources

variable {tree : FileTree} {sources : NamedSources} {inflating : List String}
  {text expanded : String}

/-- **An expanded text has no directives**, by induction on the names that are not under way yet. -/
theorem isPlain_of_expandBelow (isOk : sources.expandBelow tree inflating text = .ok expanded) :
    IsPlain expanded := by
  induction inflating, text using expandBelow.induct sources generalizing expanded with
  | case1 inflating text inductionStep =>
    obtain ⟨lines, expandedLines, rfl⟩ := expandBelow_eq_ok_iff.mp isOk
    refine isPlain_joinLines fun part member => ?_
    rcases mem_expandLines expandedLines member with ⟨isLine, kept⟩ | ⟨name, found⟩
    · exact isPlain_of_ofLine? isLine kept
    · obtain ⟨fresh, content, ⟨file, registered, _⟩, below⟩ := inflate_eq_ok_iff_holds.mp found
      exact inductionStep name file registered fresh content below

/-- A text without directives is expanded to its lines, whatever is registered. -/
theorem expand_of_isPlain (tree : FileTree) (sources : NamedSources) (plain : IsPlain text) :
    sources.expand tree text = .ok (joinLines (splitLines text)) :=
  expandBelow_eq_ok_iff.mpr
    ⟨splitLines text, expandLines_of_absent fun _ member => plain.ofLine?_eq_none member, rfl⟩

/-- **An expanded text is stable.** None of its lines is a directive. With any named sources in any
tree of files, it expands to its own lines, which are the text with plain line ends, without the last
one if nothing follows it. -/
theorem expand_stable (isOk : sources.expand tree text = .ok expanded) :
    (∀ line ∈ splitLines expanded, Directive.requestsExtension line.toList = false ∧
      Directive.requestedName? line.toList = none) ∧
    (∀ (otherTree : FileTree) (others : NamedSources),
      others.expand otherTree expanded = .ok (joinLines (splitLines expanded))) ∧
    joinLines (splitLines expanded) =
      String.ofList (withoutFinalFeed (plainEnds.apply expanded).toList) := by
  have plain : IsPlain expanded := isPlain_of_expandBelow isOk
  refine ⟨fun line member => ?_, fun otherTree others => expand_of_isPlain otherTree others plain,
    joinLines_splitLines expanded⟩
  exact Directive.ofLine?_eq_none_iff.mp (plain.ofLine?_eq_none member)

end NamedSources

/-- A file with a carriage return for its end. -/
def returnTree : FileTree :=
  FileTree.empty []
    |>.write (.ofText "a.glsl") "float a;\r".toUTF8

/-- The carriage return and the line feed after the file make one line end of its text, which a
second expansion puts a plain one for. -/
theorem return_stable :
    let sources : NamedSources := Table.empty.insert "/a.glsl" (.ofText "a.glsl")
    sources.expand returnTree "#include </a.glsl>\nfloat b;\n" = .ok "float a;\r\nfloat b;" ∧
      ∀ (otherTree : FileTree) (others : NamedSources),
        others.expand otherTree "float a;\r\nfloat b;" = .ok "float a;\nfloat b;" := by
  intro sources
  have isOk : sources.expand returnTree "#include </a.glsl>\nfloat b;\n" =
      .ok "float a;\r\nfloat b;" := by
    decide +kernel
  obtain ⟨_, again, _⟩ := NamedSources.expand_stable isOk
  have plainLines : joinLines (splitLines "float a;\r\nfloat b;") = "float a;\nfloat b;" := by
    decide +kernel
  refine ⟨isOk, fun otherTree others => ?_⟩
  rw [again otherTree others, plainLines]

end ShaderCheck
