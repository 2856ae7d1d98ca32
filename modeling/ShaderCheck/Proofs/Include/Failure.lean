/-
**Failing expansions.**

An expansion is given up at the first include line, depth first and from top to bottom, whose name is
not registered, is being expanded already or has no text. The error names it and is about what is there:
an error about a missing name is about a name that is missing, one about recursion is about a name that
includes itself, and one about a file is about a file without a text. And it is all about what comes
before: nothing that is put behind the text, or behind the text of a name that is being expanded when
the expansion is given up, makes any difference.

* `IncludeError.eq_of_outermost`, `IncludeError.outermost_eq_unreadable_iff`: the wording tells errors
  apart;
* `NamedSources.BearsOut`, `NamedSources.bearsOut_of_expandBelow`: what an error is about is so, and the
  text leads to it;
* `Continues`, `continues_append`: texts that go on with further lines;
* `NamedSources.expandBelow_eq_error_of_continues`: a failing expansion of a text that goes on;
* `NamedSources.KeptOrContinued`, `NamedSources.expandBelow_agree_of_continued`: the same in other files;
* `NamedSources.expand_failure`: what an error says, and what it does not depend on.
-/

import ShaderCheck.Proofs.Include.LookUps
import ShaderCheck.Proofs.Include.Spelling
import ShaderCheck.Proofs.Text.Lines

namespace ShaderCheck

open Text Relation

/-! ### What an error says -/

namespace IncludeError

variable {error : IncludeError}

/-- The wording of an error, the name in its place. -/
theorem toList_outermost (error : IncludeError) :
    error.chain.outermost.toList =
      match error with
      | .notRegistered name =>
        "Named string ".toList ++ (name.toList ++ " is not registered.".toList)
      | .recursion name =>
        "Recursion: named string ".toList ++ (name.toList ++ " already inflated.".toList)
      | .unreadable name file _ =>
        "Couldn't read ".toList ++ (file.text ++ " for named string " ++ name).toList := by
  cases error with
  | notRegistered name =>
    have worded : (notRegistered name).chain.outermost =
        "Named string " ++ name ++ " is not registered." := rfl
    rw [worded, String.toList_append, String.toList_append, List.append_assoc]
  | recursion name =>
    have worded : (recursion name).chain.outermost =
        "Recursion: named string " ++ name ++ " already inflated." := rfl
    rw [worded, String.toList_append, String.toList_append, List.append_assoc]
  | unreadable name file cause =>
    have worded : (unreadable name file cause).chain.outermost =
        "Couldn't read " ++ file.text ++ " for named string " ++ name := rfl
    have split : "Couldn't read " ++ file.text ++ " for named string " ++ name =
        "Couldn't read " ++ (file.text ++ " for named string " ++ name) := by
      simp only [String.append_assoc]
    rw [worded, split, String.toList_append]

/-- **The wording tells errors apart**, if they are not about files. -/
theorem eq_of_outermost {other : IncludeError}
    (worded : error.chain.outermost = other.chain.outermost)
    (noFile : ∀ name file cause, other ≠ .unreadable name file cause) : error = other := by
  have spelled := (toList_outermost error).symm.trans
    ((congrArg String.toList worded).trans (toList_outermost other))
  cases other with
  | notRegistered name =>
    cases error with
    | notRegistered again =>
      have rest := List.append_cancel_left spelled
      rw [String.toList_inj.mp (List.append_cancel_right rest)]
    | recursion again => simp at spelled
    | unreadable again file cause => simp at spelled
  | recursion name =>
    cases error with
    | notRegistered again => simp at spelled
    | recursion again =>
      have rest := List.append_cancel_left spelled
      rw [String.toList_inj.mp (List.append_cancel_right rest)]
    | unreadable again file cause => simp at spelled
  | unreadable name file cause => exact absurd rfl (noFile name file cause)

/-- What comes behind is the text of the path, which may be any, and the name. -/
theorem outermost_eq_unreadable_iff {behind : String} :
    error.chain.outermost = "Couldn't read " ++ behind ↔
      ∃ name file cause, error = .unreadable name file cause ∧
        behind = file.text ++ " for named string " ++ name := by
  rw [← String.toList_inj, toList_outermost, String.toList_append]
  cases error with
  | notRegistered other => simp
  | recursion other => simp
  | unreadable name file cause =>
    dsimp only
    rw [List.append_cancel_left_eq, String.toList_inj]
    constructor
    · exact fun rest => ⟨name, file, cause, rfl, rest.symm⟩
    · rintro ⟨_, _, _, same, rest⟩
      cases same
      exact rest.symm

end IncludeError

/-! ### Texts that go on -/

/-- The lines of the second text are directives as those of the first one, and there may be more. -/
def Continues (text longer : String) : Prop :=
  (splitLines text).map Directive.ofLine? <+: (splitLines longer).map Directive.ofLine?

theorem Directive.ofLine?_withoutReturn (line : List Char) :
    ofLine? (String.ofList (withoutReturn line)) = ofLine? (String.ofList line) := by
  rcases eq_withoutReturn_or line with same | returned
  · rw [← same]
  · have alike : ofLine? (String.ofList (withoutReturn line ++ ['\r'])) =
        ofLine? (String.ofList (withoutReturn line)) := by
      simp only [ofLine?, String.toList_ofList, requestsExtension_append_return,
        requestedName?_append_return]
    rw [← alike, ← returned]

/-- The last piece is no line if it is empty, and has a carriage return at its end if it is one. -/
theorem isPrefix_map_pieceLines (pieces : List (List Char)) :
    (pieceLines pieces).map (Directive.ofLine? ∘ String.ofList) <+:
      (pieces.map withoutReturn).map (Directive.ofLine? ∘ String.ofList) := by
  induction pieces with
  | nil => exact List.prefix_rfl
  | cons piece later inductionStep =>
    by_cases last : later = []
    · rw [last, pieceLines]
      split
      · exact List.nil_prefix
      · exact List.cons_prefix_cons.mpr
          ⟨(Directive.ofLine?_withoutReturn piece).symm, List.nil_prefix⟩
    · rw [pieceLines_cons last, List.map_cons, List.map_cons, List.map_cons]
      exact List.cons_prefix_cons.mpr ⟨rfl, inductionStep⟩

/-- **A text goes on** behind a line feed. -/
theorem continues_append (text later : String) : Continues text (text ++ "\n" ++ later) := by
  have longer : linesOf (text ++ "\n" ++ later).toList =
      (splitAtEvery '\n' text.toList).map withoutReturn ++ linesOf later.toList := by
    have joined : (text ++ "\n" ++ later).toList = text.toList ++ '\n' :: later.toList := by simp
    rw [joined, linesOf_eq_pieceLines, splitAtEvery_append,
      pieceLines_append splitAtEvery_ne_nil, ← linesOf_eq_pieceLines]
  rw [Continues, splitLines, splitLines, List.map_map, List.map_map, longer, List.map_append,
    linesOf_eq_pieceLines]
  exact (isPrefix_map_pieceLines _).trans (List.prefix_append _ _)

section Lines

variable {lookUp : String → Except IncludeError String} {inside : String → List LookUp}
  {inflating lines : List String} {error : IncludeError}

/-- Lines fail at an include line. -/
theorem exists_of_expandLines_eq_error
    (failed : expandLines lookUp inflating.head? lines = .error error) :
    ∃ line ∈ lines, ∃ requested, Directive.ofLine? line = some (.inclusion requested) ∧
      lookUp (Include.resolveName requested inflating.head?) = .error error := by
  induction lines with
  | nil => cases failed
  | cons line rest inductionStep =>
    rw [expandLines_cons] at failed
    cases expanded : expandLine lookUp inflating.head? line with
    | error other =>
      rw [expanded] at failed
      obtain rfl := Except.error.inj failed
      exact ⟨line, List.mem_cons_self, expandLine_eq_error_iff.mp expanded⟩
    | ok front =>
      rw [expanded] at failed
      obtain ⟨found, member, fails⟩ := inductionStep (eq_error_of_map_eq_error failed)
      exact ⟨found, List.mem_cons_of_mem _ member, fails⟩

/-- **Lines that fail** do so with any others behind them, at the same look-up. -/
theorem expandLines_eq_error_of_isPrefix {longer : List String} {place : Nat}
    (goesOn : lines.map Directive.ofLine? <+: longer.map Directive.ofLine?)
    (failed : expandLines lookUp inflating.head? lines = .error error) :
    expandLines lookUp inflating.head? longer = .error error ∧
      lookUpsInLines lookUp inside inflating place longer =
        lookUpsInLines lookUp inside inflating place lines := by
  induction lines generalizing longer place with
  | nil => cases failed
  | cons line rest inductionStep =>
    cases longer with
    | nil => exact absurd (List.prefix_nil.mp goesOn) (List.cons_ne_nil _ _)
    | cons other behind =>
      obtain ⟨same, goesOn⟩ := List.cons_prefix_cons.mp goesOn
      have failsAlike : ∀ error, expandLine lookUp inflating.head? line = .error error ↔
          expandLine lookUp inflating.head? other = .error error := fun error => by
        rw [expandLine_eq_error_iff, expandLine_eq_error_iff, same]
      rw [expandLines_cons] at failed ⊢
      rw [lookUpsInLines, lookUpsInLines, lookUpsInLine, lookUpsInLine, ← same]
      cases expanded : expandLine lookUp inflating.head? line with
      | error found =>
        rw [expanded] at failed
        rw [(failsAlike found).mp expanded]
        exact ⟨failed, rfl⟩
      | ok front =>
        rw [expanded] at failed
        cases expandedOther : expandLine lookUp inflating.head? other with
        | error found => cases expanded.symm.trans ((failsAlike found).mpr expandedOther)
        | ok otherFront =>
          obtain ⟨alsoFailed, lookUps⟩ := inductionStep goesOn (eq_error_of_map_eq_error failed)
          refine ⟨?_, congrArg (_ ++ ·) lookUps⟩
          show Except.map _ _ = _
          rw [alsoFailed]
          rfl

end Lines

namespace NamedSources

variable {tree other : FileTree} {sources others : NamedSources} {inflating : List String}
  {name text longer : String} {error : IncludeError}

/-- **An expansion that fails** does so however the text goes on, at the same look-up. -/
theorem expandBelow_eq_error_of_continues (goesOn : Continues text longer)
    (failed : sources.expandBelow tree inflating text = .error error) :
    sources.expandBelow tree inflating longer = .error error ∧
      sources.lookUpsBelow tree inflating longer = sources.lookUpsBelow tree inflating text := by
  rw [expandBelow_eq_error_iff] at failed ⊢
  rw [lookUpsBelow_eq, lookUpsBelow_eq]
  exact expandLines_eq_error_of_isPrefix goesOn failed

/-! ### What an error is about -/

/-- What the error says of the sources is so. -/
def BearsOut (tree : FileTree) (sources : NamedSources) : IncludeError → Prop
  | .notRegistered name => sources.get? name = none
  | .recursion name =>
    (∃ file, sources.get? name = some file) ∧ TransGen (sources.Includes tree) name name
  | .unreadable name file cause =>
    sources.get? name = some file ∧ tree.readText file = .error cause

/-- Of the errors of a kind about a name, only one is borne out. -/
theorem BearsOut.unique {again : IncludeError} (bearsOut : sources.BearsOut tree error)
    (bearsOutAgain : sources.BearsOut tree again) (same : error.fault = again.fault) :
    error = again := by
  cases error <;> cases again <;> cases same
  · rfl
  · rfl
  · obtain ⟨registered, unread⟩ := bearsOut
    obtain ⟨registeredAgain, unreadAgain⟩ := bearsOutAgain
    obtain rfl := Option.some.inj (registered.symm.trans registeredAgain)
    obtain rfl := Except.error.inj (unread.symm.trans unreadAgain)
    rfl

/-- **An error is about what is there**, and the text leads to it, if every name that is being expanded
includes whatever the text asks for. By induction on the names that are not under way yet. -/
theorem bearsOut_of_expandBelow
    (chain : ∀ active ∈ inflating, ∀ name, Asks inflating.head? text name →
      TransGen (sources.Includes tree) active name)
    (failed : sources.expandBelow tree inflating text = .error error) :
    sources.BearsOut tree error ∧
      sources.ReachesFrom tree inflating.head? text error.fault.name := by
  induction inflating, text using expandBelow.induct sources with
  | case1 inflating text inductionStep =>
    obtain ⟨line, isLine, requested, directive, found⟩ :=
      exists_of_expandLines_eq_error (expandBelow_eq_error_iff.mp failed)
    obtain ⟨plain, named⟩ := Directive.ofLine?_eq_inclusion_iff.mp directive
    have asks : Asks inflating.head? text (Include.resolveName requested inflating.head?) :=
      ⟨line, isLine, plain, requested, named, rfl⟩
    rcases inflate_eq_error_iff.mp found with ⟨missing, rfl⟩ | ⟨file, registered, active, rfl⟩ |
      ⟨file, cause, registered, _, unread, rfl⟩ | ⟨fresh, content, holds, deeper⟩
    · exact ⟨missing, _, asks, .refl⟩
    · exact ⟨⟨⟨file, registered⟩, chain _ active _ asks⟩, _, asks, .refl⟩
    · exact ⟨⟨registered, unread⟩, _, asks, .refl⟩
    · obtain ⟨file, registered, _⟩ := id holds
      obtain ⟨bearsOut, second, asked, rest⟩ := inductionStep _ file registered fresh content
        (transGen_of_asks_cons chain asks holds) deeper
      exact ⟨bearsOut, _, asks, .head ⟨content, holds, asked⟩ rest⟩

/-! ### Other files -/

/-- In other files the name of a look-up stands for the same; or, if it is not put in place, for a text
that goes on with further lines. -/
def KeptOrContinued (tree : FileTree) (sources : NamedSources) (other : FileTree)
    (others : NamedSources) (lookUp : LookUp) : Prop :=
  others.found? other lookUp.name = sources.found? tree lookUp.name ∨
    (∃ error, sources.inflate tree lookUp.inflating lookUp.name = .error error) ∧
      ∃ content later, sources.Holds tree lookUp.name content ∧
        others.Holds other lookUp.name (content ++ "\n" ++ later)

/-- A name that is not put in place fails alike if it stands for a text that goes on and its own text is
expanded alike. -/
theorem inflate_agree_of_continues {content : String}
    (failed : sources.inflate tree inflating name = .error error)
    (holds : sources.Holds tree name content) (holdsOther : others.Holds other name longer)
    (goesOn : Continues content longer)
    (below : name ∉ inflating →
      ExpandsAlike tree sources other others (name :: inflating) content) :
    InflatesAlike tree sources other others inflating name := by
  unfold InflatesAlike
  by_cases active : name ∈ inflating
  · obtain ⟨file, registered, _⟩ := holds
    obtain ⟨otherFile, otherRegistered, _⟩ := holdsOther
    simp only [inflate, lookUpsIn, registered, otherRegistered, if_pos active, and_self]
  · rw [inflate_of_holds holds active] at failed
    rw [inflate_of_holds holds active, inflate_of_holds holdsOther active,
      lookUpsIn_of_holds holds active, lookUpsIn_of_holds holdsOther active]
    obtain ⟨outcome, lookUps⟩ := below active
    obtain ⟨otherError, otherFailed, sameFault⟩ := exists_error_of_mapError_eq outcome failed
    obtain ⟨alsoFailed, sameLookUps⟩ := expandBelow_eq_error_of_continues goesOn otherFailed
    rw [failed, alsoFailed, sameLookUps]
    exact ⟨congrArg Except.error sameFault, lookUps⟩

/-- **A text is expanded alike** in other files in which no text is changed but behind the lines at which
it is given up. -/
theorem expandBelow_agree_of_continued
    (agree : ∀ lookUp ∈ sources.lookUpsBelow tree inflating text,
      KeptOrContinued tree sources other others lookUp) :
    ExpandsAlike tree sources other others inflating text := by
  refine expandsAlike_of (fun inflating place name looked below => ?_) agree
  rcases looked with kept | ⟨⟨error, failed⟩, content, later, holds, holdsOther⟩
  · exact inflate_agree kept below
  · exact inflate_agree_of_continues failed holds holdsOther (continues_append content later)
      (below content holds)

/-! ### The whole of a failing expansion -/

/-- **What an error says, and what it does not depend on.**

An expansion that fails does so with the same error whatever is put behind the text; and if something is
put behind the texts of the names that are not put in place, too, with an error of the same kind about
the same name.

If the error says that a name is not registered, the text leads to the name and it is not registered. If
it says that a name is inflated already, the name is registered, the text leads to it, and it includes
itself through a chain of include lines. If it says that a file could not be read for a name, the name is
registered for the file, the text leads to the name, and the file has no text. -/
theorem expand_failure (failed : sources.expand tree text = .error error) :
    (∀ later, sources.expand tree (text ++ "\n" ++ later) = .error error) ∧
    (∀ (other : FileTree) (others : NamedSources),
      (∀ lookUp ∈ sources.lookUps tree text, KeptOrContinued tree sources other others lookUp) →
      ∀ later, ∃ otherError, others.expand other (text ++ "\n" ++ later) = .error otherError ∧
        otherError.fault = error.fault) ∧
    (∀ name, error.chain.outermost = s!"Named string {name} is not registered." →
      sources.Reaches tree text name ∧ sources.get? name = none) ∧
    (∀ name, error.chain.outermost = s!"Recursion: named string {name} already inflated." →
      sources.Reaches tree text name ∧ (∃ file, sources.get? name = some file) ∧
        TransGen (sources.Includes tree) name name) ∧
    ∀ behind, error.chain.outermost = "Couldn't read " ++ behind →
      ∃ name file cause, error = .unreadable name file cause ∧
        behind = file.text ++ " for named string " ++ name ∧
        sources.Reaches tree text name ∧ sources.get? name = some file ∧
        tree.readText file = .error cause := by
  have goesOn := continues_append text
  obtain ⟨bearsOut, reached⟩ :=
    @bearsOut_of_expandBelow _ _ [] _ _ (fun active member => by cases member) failed
  refine ⟨fun later => ?_, fun other others agree later => ?_, fun name worded => ?_,
    fun name worded => ?_, fun behind worded => ?_⟩
  · exact (expandBelow_eq_error_of_continues (goesOn later) failed).1
  · obtain ⟨otherError, otherFailed, sameFault⟩ :=
      exists_error_of_mapError_eq (expandBelow_agree_of_continued agree).1 failed
    exact ⟨otherError, (expandBelow_eq_error_of_continues (goesOn later) otherFailed).1, sameFault⟩
  · obtain rfl : error = .notRegistered name := IncludeError.eq_of_outermost worded (by simp)
    exact ⟨reached, bearsOut⟩
  · obtain rfl : error = .recursion name := IncludeError.eq_of_outermost worded (by simp)
    exact ⟨reached, bearsOut⟩
  · obtain ⟨name, file, cause, rfl, rest⟩ := IncludeError.outermost_eq_unreadable_iff.mp worded
    exact ⟨name, file, cause, rfl, rest, reached, bearsOut⟩

end NamedSources

/-- Two files that include one another, and one with a text of its own. -/
def loopTree : FileTree :=
  FileTree.empty []
    |>.write (.ofText "a.glsl") "#include \"b.glsl\"".toUTF8
    |>.write (.ofText "b.glsl") "#include \"c.glsl\"\n#include \"a.glsl\"".toUTF8
    |>.write (.ofText "c.glsl") "float c;".toUTF8

/-- The same with a further line behind those at which an expansion is given up. -/
def longerLoopTree : FileTree :=
  loopTree
    |>.write (.ofText "b.glsl") "#include \"c.glsl\"\n#include \"a.glsl\"\n#include \"d.glsl\"".toUTF8

/-- A name that is put in place twice is no recursion, one that includes itself is; and what comes behind
is not looked up, neither in the text nor in a file. -/
theorem loop_expand_failure :
    let sources : NamedSources := Table.empty.insertMany
      [("/a.glsl", .ofText "a.glsl"), ("/b.glsl", .ofText "b.glsl"), ("/c.glsl", .ofText "c.glsl")]
    let text := "#include </c.glsl>\n#include </a.glsl>"
    let longer := text ++ "\n" ++ "#include </d.glsl>"
    sources.expand loopTree longer = .error (.recursion "/a.glsl") ∧
      (∃ error, sources.expand longerLoopTree longer = .error error ∧
        error.fault = .recursion "/a.glsl") ∧
      sources.Reaches loopTree text "/a.glsl" ∧
      TransGen (sources.Includes loopTree) "/a.glsl" "/a.glsl" := by
  intro sources text longer
  have failed : sources.expand loopTree text = .error (.recursion "/a.glsl") := by decide +kernel
  have kept : ∀ lookUp ∈ sources.lookUps loopTree text, lookUp = ⟨["/a.glsl"], 0, "/b.glsl"⟩ ∨
      sources.found? longerLoopTree lookUp.name = sources.found? loopTree lookUp.name := by
    decide +kernel
  have continued : NamedSources.KeptOrContinued loopTree sources longerLoopTree sources
      ⟨["/a.glsl"], 0, "/b.glsl"⟩ := by
    refine .inr ⟨⟨.recursion "/a.glsl", by decide +kernel⟩,
      "#include \"c.glsl\"\n#include \"a.glsl\"", "#include \"d.glsl\"",
      ⟨.ofText "b.glsl", rfl, by decide +kernel⟩, ⟨.ofText "b.glsl", rfl, by decide +kernel⟩⟩
  obtain ⟨stable, elsewhere, _, recursion, _⟩ := NamedSources.expand_failure failed
  obtain ⟨reached, _, cycle⟩ := recursion "/a.glsl" rfl
  refine ⟨stable _, elsewhere longerLoopTree sources (fun lookUp member => ?_) _, reached, cycle⟩
  rcases kept lookUp member with rfl | same
  · exact continued
  · exact .inl same

end ShaderCheck
