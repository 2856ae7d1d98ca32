/-
**Inlining is context free.**

An expansion keeps the names that are being expanded at hand, but they only ever end it with an error.
What takes the place of an include line is up to the name alone, wherever and below whatever names the
line is met: the text that stands for the name. These texts solve one equation for each name, which
mentions no names under way, and nothing else solves them all.

* `inlineText`: a text with given texts in the place of names;
* `NamedSources.expandBelow_of_fewer`: an expansion is the same below fewer names;
* `NamedSources.inlinedText`: the text that stands for a name;
* `NamedSources.IncludeChain`: the names under way when a text leads to a name;
* `NamedSources.eq_inlineText_of_solves`: whatever solves the equations gives the expanded text;
* `NamedSources.expand_contextFree`: an expansion puts the text of a name in its place everywhere.
-/

import Mathlib.Control.Monad.Basic
import ShaderCheck.Proofs.Include.Graph

namespace ShaderCheck

open Text Relation

/-! ### Texts in the place of names -/

/-- What stands for a line that the source `current` holds, if any does: nothing for an extension line,
the text of the name for an include line, and the line itself for any other. -/
def inlineLine (textOf : String → String) (current : Option String) (line : String) : List String :=
  match Directive.ofLine? line with
  | some .extensionRequest => []
  | some (.inclusion requested) => [textOf (Include.resolveName requested current)]
  | none => [line]

/-- The text with its lines replaced by what stands for them. -/
def inlineText (textOf : String → String) (current : Option String) (text : String) : String :=
  joinLines ((splitLines text).flatMap (inlineLine textOf current))

theorem inlineLine_of_requestsExtension {textOf : String → String} {current : Option String}
    {line : String} (requests : Directive.requestsExtension line.toList) :
    inlineLine textOf current line = [] := by
  rw [inlineLine, Directive.ofLine?, if_pos requests]

/-- An empty text stands for a text of extension lines only. -/
theorem inlineText_eq_empty {textOf : String → String} {current : Option String} {text : String}
    (dropped : ∀ line ∈ splitLines text, Directive.requestsExtension line.toList) :
    inlineText textOf current text = "" := by
  have none : (splitLines text).flatMap (inlineLine textOf current) = [] := by
    rw [List.flatMap_eq_nil_iff]
    exact fun line member => inlineLine_of_requestsExtension (dropped line member)
  rw [inlineText, none]
  rfl

section Lines

variable {lookUp other : String → Except IncludeError String} {current : Option String}

/-- Looking names up in a way that succeeds wherever another one does, with the same texts, expands
lines to the same. -/
theorem expandLines_of_extends {lines expanded : List String}
    (isOk : expandLines lookUp current lines = .ok expanded)
    (more : ∀ name inlined, lookUp name = .ok inlined → other name = .ok inlined) :
    expandLines other current lines = .ok expanded := by
  induction lines generalizing expanded with
  | nil => exact isOk
  | cons line rest inductionStep =>
    obtain ⟨front, later, first, others, rfl⟩ := expandLines_cons_eq_ok_iff.mp isOk
    refine expandLines_cons_eq_ok_iff.mpr ⟨front, later, ?_, inductionStep others, rfl⟩
    rw [expandLine_eq_ok_iff] at first ⊢
    rcases first with dropped | ⟨requested, inlined, directive, found, replaced⟩ | kept
    · exact .inl dropped
    · exact .inr (.inl ⟨requested, inlined, directive, more _ inlined found, replaced⟩)
    · exact .inr (.inr kept)

/-- Expanded lines are what stands for the lines, if the texts that were looked up stand for the
names. -/
theorem eq_flatMap_of_expandLines {textOf : String → String} {lines expanded : List String}
    (isOk : expandLines lookUp current lines = .ok expanded)
    (texts : ∀ line ∈ lines, ∀ requested, Directive.ofLine? line = some (.inclusion requested) →
      ∀ inlined, lookUp (Include.resolveName requested current) = .ok inlined →
        inlined = textOf (Include.resolveName requested current)) :
    expanded = lines.flatMap (inlineLine textOf current) := by
  induction lines generalizing expanded with
  | nil => exact (Except.ok.inj isOk).symm
  | cons line rest inductionStep =>
    rw [List.forall_mem_cons] at texts
    obtain ⟨front, later, first, others, rfl⟩ := expandLines_cons_eq_ok_iff.mp isOk
    have ofFirst : front = inlineLine textOf current line := by
      unfold inlineLine
      rcases expandLine_eq_ok_iff.mp first with ⟨directive, rfl⟩ |
        ⟨requested, inlined, directive, found, rfl⟩ | ⟨directive, rfl⟩
      · rw [directive]
      · rw [directive, texts.1 requested directive inlined found]
      · rw [directive]
    rw [List.flatMap_cons, ← ofFirst, ← inductionStep others texts.2]

end Lines

namespace NamedSources

variable {tree : FileTree} {sources : NamedSources} {inflating : List String}
  {name text expanded inlined : String}

/-! ### Names under way -/

/-- **An expansion is the same below fewer names**: the names under way end it or are not heard of, but
for the innermost one, which names are looked up next to. -/
theorem expandBelow_of_fewer {fewer : List String}
    (isOk : sources.expandBelow tree inflating text = .ok expanded)
    (among : ∀ active ∈ fewer, active ∈ inflating) (sameHead : fewer.head? = inflating.head?) :
    sources.expandBelow tree fewer text = .ok expanded := by
  induction inflating, text using expandBelow.induct sources generalizing fewer expanded with
  | case1 inflating text inductionStep =>
    obtain ⟨lines, expandedLines, rfl⟩ := expandBelow_eq_ok_iff.mp isOk
    refine expandBelow_eq_ok_iff.mpr ⟨lines, ?_, rfl⟩
    rw [sameHead]
    refine expandLines_of_extends expandedLines fun name inlined found => ?_
    obtain ⟨fresh, content, holds, below⟩ := inflate_eq_ok_iff_holds.mp found
    obtain ⟨file, registered, read⟩ := id holds
    have amongBelow : ∀ active ∈ name :: fewer, active ∈ name :: inflating := by
      intro active member
      rcases List.mem_cons.mp member with rfl | outer
      · exact List.mem_cons_self
      · exact List.mem_cons_of_mem _ (among active outer)
    exact inflate_eq_ok_iff_holds.mpr ⟨fun active => fresh (among name active), content, holds,
      inductionStep name file registered fresh content below amongBelow rfl⟩

/-- The text that stands for a name: what an include line for it is replaced by at the top of an
expansion. It is empty if there is none. -/
def inlinedText (tree : FileTree) (sources : NamedSources) (name : String) : String :=
  match sources.inflate tree [] name with
  | .ok inlined => inlined
  | .error _ => ""

/-- Whatever is put in place of an include line is the text of its name. -/
theorem eq_inlinedText_of_inflate (found : sources.inflate tree inflating name = .ok inlined) :
    inlined = sources.inlinedText tree name := by
  obtain ⟨_, content, holds, below⟩ := inflate_eq_ok_iff_holds.mp found
  have alone : sources.expandBelow tree [name] content = .ok inlined := by
    refine expandBelow_of_fewer below (fun active member => ?_) rfl
    rw [List.mem_singleton.mp member]
    exact List.mem_cons_self
  have top : sources.inflate tree [] name = .ok inlined :=
    inflate_eq_ok_iff_holds.mpr ⟨List.not_mem_nil, content, holds, alone⟩
  rw [inlinedText, top]

/-- An expanded text is the text with the texts of its names in their place. -/
theorem eq_inlineText_of_expandBelow
    (isOk : sources.expandBelow tree inflating text = .ok expanded) :
    expanded = inlineText (sources.inlinedText tree) inflating.head? text := by
  obtain ⟨lines, expandedLines, rfl⟩ := expandBelow_eq_ok_iff.mp isOk
  rw [inlineText, eq_flatMap_of_expandLines expandedLines fun _ _ _ _ _ found =>
    eq_inlinedText_of_inflate found]

/-- The names that are being expanded, the innermost one first, when the text leads to the name. -/
inductive IncludeChain (tree : FileTree) (sources : NamedSources) (text : String) :
    List String → String → Prop
  | asked {name : String} (asks : Asks none text name) : IncludeChain tree sources text [] name
  | deeper {inflating : List String} {name other : String}
      (chain : IncludeChain tree sources text inflating name)
      (includes : sources.Includes tree name other) :
      IncludeChain tree sources text (name :: inflating) other

theorem exists_chain_of_reaches (reached : sources.Reaches tree text name) :
    ∃ inflating, IncludeChain tree sources text inflating name := by
  obtain ⟨first, asks, path⟩ := reached
  induction path with
  | refl => exact ⟨[], .asked asks⟩
  | @tail between last _ includes inductionStep =>
    obtain ⟨inflating, chain⟩ := inductionStep
    exact ⟨between :: inflating, .deeper chain includes⟩

/-- In a text that has an expansion, the text of a name takes its place below whatever names. -/
theorem inflate_of_chain (isOk : sources.expand tree text = .ok expanded)
    (chain : IncludeChain tree sources text inflating name) :
    sources.inflate tree inflating name = .ok (sources.inlinedText tree name) := by
  have found : ∃ inlined, sources.inflate tree inflating name = .ok inlined := by
    induction chain with
    | asked asks => exact inflate_isOk_iff.mpr (expandBelow_isOk_iff.mp ⟨expanded, isOk⟩ _ asks)
    | deeper chain includes inductionStep =>
      obtain ⟨_, content, holds, below⟩ := inflate_isOk_iff.mp inductionStep
      exact inflate_isOk_iff.mpr (expandBelow_isOk_iff.mp below _ (includes.asks holds))
  obtain ⟨inlined, found⟩ := found
  rw [found, ← eq_inlinedText_of_inflate found]

/-! ### The equations -/

/-- The given texts are those of the names that the text leads to, with the given texts in place of
the names in them. -/
def Solves (tree : FileTree) (sources : NamedSources) (current : Option String) (text : String)
    (textOf : String → String) : Prop :=
  ∀ name content, sources.ReachesFrom tree current text name → sources.Holds tree name content →
    textOf name = inlineText textOf (some name) content

/-- What solves the equations of a text solves those of every text that it asks for. -/
theorem Solves.below {current : Option String} {textOf : String → String} {content : String}
    (solves : sources.Solves tree current text textOf) (asks : Asks current text name)
    (holds : sources.Holds tree name content) :
    sources.Solves tree (some name) content textOf := by
  rintro other otherContent ⟨first, asksFirst, path⟩ holdsOther
  exact solves other otherContent ⟨name, asks, .head ⟨content, holds, asksFirst⟩ path⟩ holdsOther

/-- **Whatever solves the equations** of a text gives its expansion. The induction is on the names
that are not under way yet. -/
theorem eq_inlineText_of_solves {textOf : String → String}
    (isOk : sources.expandBelow tree inflating text = .ok expanded)
    (solves : sources.Solves tree inflating.head? text textOf) :
    expanded = inlineText textOf inflating.head? text := by
  induction inflating, text using expandBelow.induct sources generalizing expanded with
  | case1 inflating text inductionStep =>
    obtain ⟨lines, expandedLines, rfl⟩ := expandBelow_eq_ok_iff.mp isOk
    rw [inlineText]
    refine congrArg joinLines (eq_flatMap_of_expandLines expandedLines ?_)
    intro line member requested directive inlined found
    obtain ⟨plain, named⟩ := Directive.ofLine?_eq_inclusion_iff.mp directive
    have asks : Asks inflating.head? text (Include.resolveName requested inflating.head?) :=
      ⟨line, member, plain, requested, named, rfl⟩
    obtain ⟨fresh, content, holds, below⟩ := inflate_eq_ok_iff_holds.mp found
    obtain ⟨file, registered, read⟩ := id holds
    rw [solves _ content ⟨_, asks, .refl⟩ holds]
    exact inductionStep _ file registered fresh content below (solves.below asks holds)

/-- The text of a name is what its own text gives with the texts of names in their place. -/
theorem inlinedText_eq {content : String} (isOk : sources.expand tree text = .ok expanded)
    (reached : sources.Reaches tree text name) (holds : sources.Holds tree name content) :
    sources.inlinedText tree name =
      inlineText (sources.inlinedText tree) (some name) content := by
  obtain ⟨inflating, chain⟩ := exists_chain_of_reaches reached
  obtain ⟨_, other, holdsOther, below⟩ := inflate_eq_ok_iff_holds.mp (inflate_of_chain isOk chain)
  obtain rfl := holds.unique holdsOther
  have expansion := eq_inlineText_of_expandBelow below
  exact expansion

/-- Of the texts that solve the equations of a text with an expansion, each is the text of its name. -/
theorem Solves.eq_inlinedText {textOf : String → String}
    (isOk : sources.expand tree text = .ok expanded)
    (solves : sources.Solves tree none text textOf) (reached : sources.Reaches tree text name) :
    textOf name = sources.inlinedText tree name := by
  obtain ⟨inflating, chain⟩ := exists_chain_of_reaches reached
  obtain ⟨_, content, holds, below⟩ := inflate_eq_ok_iff_holds.mp (inflate_of_chain isOk chain)
  rw [solves name content reached holds]
  obtain ⟨first, asks, path⟩ := reached
  refine (eq_inlineText_of_solves below ?_).symm
  rintro other otherContent ⟨second, asksSecond, rest⟩ holdsOther
  exact solves other otherContent
    ⟨first, asks, path.trans (.head ⟨content, holds, asksSecond⟩ rest)⟩ holdsOther

/-- **Inlining is context free.** In a text that has an expansion, the text of a name takes the place
of every include line for it: in the text itself, in the text of every name that it leads to, and
below whatever chain of names the line is met. The text of a name without anything but extension
lines is empty, and still takes the place of the line. No other texts solve the same equations. -/
theorem expand_contextFree (isOk : sources.expand tree text = .ok expanded) :
    let textOf := sources.inlinedText tree
    expanded = inlineText textOf none text ∧
      (∀ name, sources.Reaches tree text name → ∃ content, sources.Holds tree name content ∧
        textOf name = inlineText textOf (some name) content ∧
        ((∀ line ∈ splitLines content, Directive.requestsExtension line.toList) →
          textOf name = "")) ∧
      (∀ inflating name, IncludeChain tree sources text inflating name →
        sources.inflate tree inflating name = .ok (textOf name)) ∧
      (∀ other, sources.Solves tree none text other →
        ∀ name, sources.Reaches tree text name → other name = textOf name) := by
  intro textOf
  have whole : expanded = inlineText textOf none text :=
    @eq_inlineText_of_expandBelow _ _ [] _ _ isOk
  refine ⟨whole, fun name reached => ?_, fun inflating name chain => inflate_of_chain isOk chain,
    fun other solves name reached => solves.eq_inlinedText isOk reached⟩
  obtain ⟨inflating, chain⟩ := exists_chain_of_reaches reached
  obtain ⟨_, content, holds, _⟩ := inflate_eq_ok_iff_holds.mp (inflate_of_chain isOk chain)
  have equation : textOf name = inlineText textOf (some name) content :=
    inlinedText_eq isOk reached holds
  exact ⟨content, holds, equation, fun dropped => equation.trans (inlineText_eq_empty dropped)⟩

end NamedSources

/-- Two files that include a third one, of which nothing is left. -/
def diamondTree : FileTree where
  nodes :=
    [([⟨Text.bytes "a.glsl", by decide⟩], .file "#include \"common.glsl\"\nfloat a;".toUTF8),
      ([⟨Text.bytes "b.glsl", by decide⟩], .file "#include <./common.glsl>\nfloat b;".toUTF8),
      ([⟨Text.bytes "common.glsl", by decide⟩],
        .file "#extension GL_ARB_shading_language_include : require".toUTF8)]
  workingDirectory := []

/-- The three files, under names of one folder. -/
def diamondSources : NamedSources :=
  Table.empty.insertMany
    [("/lib/a.glsl", .ofText "a.glsl"), ("/lib/b.glsl", .ofText "b.glsl"),
      ("/lib/common.glsl", .ofText "common.glsl")]

/-- The third file gives an empty line in each of the others. -/
theorem diamond_contextFree :
    let text := "#include \"/lib/a.glsl\"\n#include </lib/b.glsl>"
    let textOf := diamondSources.inlinedText diamondTree
    diamondSources.expand diamondTree text = .ok "\nfloat a;\n\nfloat b;" ∧
      "\nfloat a;\n\nfloat b;" = inlineText textOf none text ∧
      textOf "/lib/common.glsl" = "" ∧
      diamondSources.inflate diamondTree ["/lib/a.glsl"] "/lib/common.glsl" = .ok "" ∧
      diamondSources.inflate diamondTree ["/lib/b.glsl"] "/lib/common.glsl" = .ok "" := by
  intro text textOf
  have isOk : diamondSources.expand diamondTree text = .ok "\nfloat a;\n\nfloat b;" := by
    decide +kernel
  obtain ⟨whole, equations, chains, _⟩ := NamedSources.expand_contextFree isOk
  have first : Asks none text "/lib/a.glsl" :=
    ⟨"#include \"/lib/a.glsl\"", by decide +kernel, by decide +kernel, "/lib/a.glsl",
      by decide +kernel, rfl⟩
  have second : Asks none text "/lib/b.glsl" :=
    ⟨"#include </lib/b.glsl>", by decide +kernel, by decide +kernel, "/lib/b.glsl",
      by decide +kernel, rfl⟩
  have firstIncludes : diamondSources.Includes diamondTree "/lib/a.glsl" "/lib/common.glsl" :=
    ⟨"#include \"common.glsl\"\nfloat a;", ⟨.ofText "a.glsl", rfl, by decide +kernel⟩,
      "#include \"common.glsl\"", by decide +kernel, by decide +kernel, "common.glsl",
      by decide +kernel, by decide +kernel⟩
  have secondIncludes : diamondSources.Includes diamondTree "/lib/b.glsl" "/lib/common.glsl" :=
    ⟨"#include <./common.glsl>\nfloat b;", ⟨.ofText "b.glsl", rfl, by decide +kernel⟩,
      "#include <./common.glsl>", by decide +kernel, by decide +kernel, "./common.glsl",
      by decide +kernel, by decide +kernel⟩
  have blank : textOf "/lib/common.glsl" = "" := by
    obtain ⟨content, ⟨file, registered, read⟩, _, dropped⟩ :=
      equations "/lib/common.glsl" ⟨_, first, .single firstIncludes⟩
    obtain rfl : Path.ofText "common.glsl" = file := Option.some.inj registered
    have known : diamondTree.readText (.ofText "common.glsl") =
        .ok "#extension GL_ARB_shading_language_include : require" := by decide +kernel
    obtain rfl := Except.ok.inj (known.symm.trans read)
    exact dropped (by decide +kernel)
  refine ⟨isOk, whole, blank, ?_, ?_⟩
  · rw [← blank]
    exact chains ["/lib/a.glsl"] _ (.deeper (.asked first) firstIncludes)
  · rw [← blank]
    exact chains ["/lib/b.glsl"] _ (.deeper (.asked second) secondIncludes)

end ShaderCheck
