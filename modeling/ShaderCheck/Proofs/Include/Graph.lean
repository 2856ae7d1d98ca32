/-
**The include graph.**

A text asks for the names on its include lines, each looked up next to the source that holds the
text; a registered name includes what the text of its file asks for. The expansion walks this graph
depth first with the names that are being expanded at hand, and gives up at the first name that is
not registered, is being expanded already or has no text.

* `Asks`, `NamedSources.Includes`, `NamedSources.Reaches`: the edges from a text, the edges between
  names, and the names that a text leads to;
* `expandLines_isOk_iff`, `NamedSources.expandBelow_isOk_iff`: one step of the walk;
* `NamedSources.reaches_of_isOk`: a walk that ends well has met every name that the text leads to,
  and none of them twice on one way;
* `NamedSources.isOk_of_reaches`: a walk ends well if those names have texts and lie on no cycle;
* `NamedSources.expand_isOk_iff`: so a text has an expansion exactly when they do.
-/

import Mathlib.Logic.Relation
import ShaderCheck.Include

namespace ShaderCheck

open Text Relation

/-! ### The edges -/

/-- The text, held by the source `current` if by any, has an include line for `name`. -/
def Asks (current : Option String) (text name : String) : Prop :=
  ∃ line ∈ splitLines text, Directive.requestsExtension line.toList = false ∧
    ∃ requested, Directive.requestedName? line.toList = some requested ∧
      Include.resolveName requested current = name

/-- A line is an include line if it names a source and does not ask for the include extension. -/
theorem Directive.ofLine?_eq_inclusion_iff {line requested : String} :
    Directive.ofLine? line = some (.inclusion requested) ↔
      Directive.requestsExtension line.toList = false ∧
        Directive.requestedName? line.toList = some requested := by
  unfold Directive.ofLine?
  cases Directive.requestsExtension line.toList <;> simp

/-! ### Expanding lines -/

/-- What takes the place of a line: nothing for an extension line, one text for an include line, and
the line itself for any other. -/
def expandLine (lookUp : String → Except IncludeError String) (current : Option String)
    (line : String) : Except IncludeError (List String) :=
  match Directive.ofLine? line with
  | some .extensionRequest => .ok []
  | some (.inclusion requested) =>
    (lookUp (Include.resolveName requested current)).map fun inlined => [inlined]
  | none => .ok [line]

section Lines

variable {lookUp : String → Except IncludeError String} {current : Option String}

/-- **What takes the place of a line**, by its kind. -/
theorem expandLine_eq_ok_iff {line : String} {front : List String} :
    expandLine lookUp current line = .ok front ↔
      (Directive.ofLine? line = some .extensionRequest ∧ front = []) ∨
        (∃ requested inlined, Directive.ofLine? line = some (.inclusion requested) ∧
          lookUp (Include.resolveName requested current) = .ok inlined ∧ front = [inlined]) ∨
        (Directive.ofLine? line = none ∧ front = [line]) := by
  unfold expandLine
  cases Directive.ofLine? line with
  | none => simp [eq_comm]
  | some directive =>
    cases directive with
    | extensionRequest => simp [eq_comm]
    | inclusion requested =>
      cases inlined : lookUp (Include.resolveName requested current) <;>
        simp [Except.map, inlined, eq_comm]

/-- Expanding a line fails only if looking its name up does. -/
theorem expandLine_eq_error_iff {line : String} {error : IncludeError} :
    expandLine lookUp current line = .error error ↔
      ∃ requested, Directive.ofLine? line = some (.inclusion requested) ∧
        lookUp (Include.resolveName requested current) = .error error := by
  unfold expandLine
  cases Directive.ofLine? line with
  | none => simp
  | some directive =>
    cases directive with
    | extensionRequest => simp
    | inclusion requested =>
      cases inlined : lookUp (Include.resolveName requested current) <;>
        simp [Except.map, inlined]

/-- Lines are expanded one by one, the first error ending the expansion. -/
theorem expandLines_cons (lookUp : String → Except IncludeError String) (current : Option String)
    (line : String) (rest : List String) :
    expandLines lookUp current (line :: rest) =
      expandLine lookUp current line >>= fun front =>
        (expandLines lookUp current rest).map (front ++ ·) := by
  rw [expandLines, expandLine]
  cases Directive.ofLine? line with
  | none => rfl
  | some directive =>
    cases directive with
    | extensionRequest => cases expandLines lookUp current rest <;> rfl
    | inclusion requested =>
      dsimp only
      cases lookUp (Include.resolveName requested current) <;> rfl

theorem expandLines_cons_eq_ok_iff {line : String} {rest expanded : List String} :
    expandLines lookUp current (line :: rest) = .ok expanded ↔
      ∃ front later, expandLine lookUp current line = .ok front ∧
        expandLines lookUp current rest = .ok later ∧ expanded = front ++ later := by
  rw [expandLines_cons]
  cases expandLine lookUp current line <;> cases expandLines lookUp current rest <;>
    simp [bind, Except.bind, Except.map, eq_comm]

/-- Something takes the place of a line unless it is an include line that fails. -/
theorem expandLine_isOk_iff {line : String} :
    (∃ front, expandLine lookUp current line = .ok front) ↔
      ∀ requested, Directive.ofLine? line = some (.inclusion requested) →
        ∃ inlined, lookUp (Include.resolveName requested current) = .ok inlined := by
  unfold expandLine
  cases Directive.ofLine? line with
  | none => simp
  | some directive =>
    cases directive with
    | extensionRequest => simp
    | inclusion requested =>
      cases inlined : lookUp (Include.resolveName requested current) <;>
        simp [Except.map, inlined]

/-- Lines can be expanded if there is something to put in place of every include line. -/
theorem expandLines_isOk_iff {lines : List String} :
    (∃ expanded, expandLines lookUp current lines = .ok expanded) ↔
      ∀ line ∈ lines, ∀ requested, Directive.ofLine? line = some (.inclusion requested) →
        ∃ inlined, lookUp (Include.resolveName requested current) = .ok inlined := by
  induction lines with
  | nil => simp [expandLines]
  | cons line rest inductionStep =>
    rw [List.forall_mem_cons, ← inductionStep, ← expandLine_isOk_iff]
    constructor
    · rintro ⟨expanded, isOk⟩
      obtain ⟨front, later, first, others, _⟩ := expandLines_cons_eq_ok_iff.mp isOk
      exact ⟨⟨front, first⟩, later, others⟩
    · rintro ⟨⟨front, first⟩, later, others⟩
      exact ⟨front ++ later, expandLines_cons_eq_ok_iff.mpr ⟨front, later, first, others, rfl⟩⟩

/-- Expanded lines hold what was put in place of each include line. -/
theorem exists_inlined_of_mem {lines expanded : List String} {line requested : String}
    (isOk : expandLines lookUp current lines = .ok expanded) (member : line ∈ lines)
    (directive : Directive.ofLine? line = some (.inclusion requested)) :
    ∃ before inlined after, expanded = before ++ inlined :: after ∧
      lookUp (Include.resolveName requested current) = .ok inlined := by
  induction lines generalizing expanded with
  | nil => cases member
  | cons first rest inductionStep =>
    obtain ⟨front, later, found, others, rfl⟩ := expandLines_cons_eq_ok_iff.mp isOk
    rcases List.mem_cons.mp member with rfl | deeper
    · rcases expandLine_eq_ok_iff.mp found with ⟨asks, _⟩ | ⟨other, text, asks, inlined, rfl⟩ | ⟨plain, _⟩
      · cases directive.symm.trans asks
      · cases directive.symm.trans asks
        exact ⟨[], text, later, rfl, inlined⟩
      · cases directive.symm.trans plain
    · obtain ⟨before, inlined, after, rfl, found⟩ := inductionStep others deeper
      exact ⟨front ++ before, inlined, after, (List.append_assoc ..).symm, found⟩

end Lines

namespace NamedSources

/-- The name is registered for a file with this text. -/
def Holds (tree : FileTree) (sources : NamedSources) (name content : String) : Prop :=
  ∃ file, sources.get? name = some file ∧ tree.readText file = .ok content

/-- The file of the first name has an include line for the second one. -/
def Includes (tree : FileTree) (sources : NamedSources) (name other : String) : Prop :=
  ∃ content, sources.Holds tree name content ∧ Asks (some name) content other

/-- The text, held by the source `current` if by any, leads to the name. -/
def ReachesFrom (tree : FileTree) (sources : NamedSources) (current : Option String)
    (text name : String) : Prop :=
  ∃ first, Asks current text first ∧ ReflTransGen (sources.Includes tree) first name

/-- A text that no source holds leads to the name. -/
def Reaches (tree : FileTree) (sources : NamedSources) (text name : String) : Prop :=
  sources.ReachesFrom tree none text name

variable {tree : FileTree} {sources : NamedSources} {inflating : List String} {name text : String}

/-- A name stands for one text at most. -/
theorem Holds.unique {first second : String} (holds : sources.Holds tree name first)
    (again : sources.Holds tree name second) : first = second := by
  obtain ⟨file, registered, read⟩ := holds
  obtain ⟨other, registeredOther, readOther⟩ := again
  obtain rfl : file = other := Option.some.inj (registered.symm.trans registeredOther)
  exact Except.ok.inj (read.symm.trans readOther)

/-- What a name includes is asked for in its text. -/
theorem Includes.asks {other content : String} (includes : sources.Includes tree name other)
    (holds : sources.Holds tree name content) : Asks (some name) content other := by
  obtain ⟨_, holdsOther, asks⟩ := includes
  rwa [holds.unique holdsOther]

/-! ### One step of the walk -/

/-- What the expansion puts in place of an include line for the name. -/
def inflate (tree : FileTree) (sources : NamedSources) (inflating : List String) (name : String) :
    Except IncludeError String :=
  match sources.get? name with
  | none => .error (.notRegistered name)
  | some file =>
    if name ∈ inflating then .error (.recursion name)
    else
      match tree.readText file with
      | .error cause => .error (.unreadable name file cause)
      | .ok content => sources.expandBelow tree (name :: inflating) content

/-- Expanding a text is expanding its lines, with `inflate` in place of include lines. -/
theorem expandBelow_eq (tree : FileTree) (sources : NamedSources) (inflating : List String)
    (text : String) :
    sources.expandBelow tree inflating text =
      (expandLines (sources.inflate tree inflating) inflating.head? (splitLines text)).map
        joinLines := by
  have joined : ∀ lookUp : String → Except IncludeError String,
      (∀ name, lookUp name = sources.inflate tree inflating name) →
        (expandLines lookUp inflating.head? (splitLines text) >>= fun lines =>
          pure (joinLines lines)) =
        (expandLines (sources.inflate tree inflating) inflating.head? (splitLines text)).map
          joinLines := by
    intro lookUp same
    obtain rfl : lookUp = sources.inflate tree inflating := funext same
    cases expandLines (sources.inflate tree inflating) inflating.head? (splitLines text) <;> rfl
  rw [expandBelow]
  refine joined _ fun name => ?_
  unfold inflate
  cases sources.get? name <;> rfl

/-- An expanded text is its expanded lines, joined. -/
theorem expandBelow_eq_ok_iff {expanded : String} :
    sources.expandBelow tree inflating text = .ok expanded ↔
      ∃ lines, expandLines (sources.inflate tree inflating) inflating.head? (splitLines text) =
        .ok lines ∧ expanded = joinLines lines := by
  rw [expandBelow_eq]
  cases expandLines (sources.inflate tree inflating) inflating.head? (splitLines text) <;>
    simp [Except.map, eq_comm]

/-- A name that has a text and is not being expanded is put in place by expanding its text below it. -/
theorem inflate_of_holds {content : String} (holds : sources.Holds tree name content)
    (fresh : name ∉ inflating) :
    sources.inflate tree inflating name = sources.expandBelow tree (name :: inflating) content := by
  obtain ⟨file, registered, read⟩ := holds
  simp only [inflate, registered, if_neg fresh, read]

/-- What takes the place of a name: the name is registered, has a text and is not being expanded, and
this is what its text expands to below it. -/
theorem inflate_eq_ok_iff_holds {inlined : String} :
    sources.inflate tree inflating name = .ok inlined ↔
      name ∉ inflating ∧ ∃ content, sources.Holds tree name content ∧
        sources.expandBelow tree (name :: inflating) content = .ok inlined := by
  unfold inflate Holds
  cases sources.get? name with
  | none => simp
  | some file =>
    by_cases active : name ∈ inflating
    · simp [active]
    · cases read : tree.readText file <;> simp [active, read]

/-- **Why nothing takes the place of a name**: it is not registered, it is being expanded, its file has
no text, or its text cannot be expanded below it. -/
theorem inflate_eq_error_iff {error : IncludeError} :
    sources.inflate tree inflating name = .error error ↔
      (sources.get? name = none ∧ error = .notRegistered name) ∨
      (∃ file, sources.get? name = some file ∧ name ∈ inflating ∧ error = .recursion name) ∨
      (∃ file cause, sources.get? name = some file ∧ name ∉ inflating ∧
        tree.readText file = .error cause ∧ error = .unreadable name file cause) ∨
      (name ∉ inflating ∧ ∃ content, sources.Holds tree name content ∧
        sources.expandBelow tree (name :: inflating) content = .error error) := by
  unfold inflate Holds
  cases sources.get? name with
  | none => simp [eq_comm]
  | some file =>
    by_cases active : name ∈ inflating
    · simp [active, eq_comm]
    · cases read : tree.readText file <;> simp [active, read, eq_comm]

/-- There is something to put in place of a name that is registered, has a text, is not being
expanded and whose text can be expanded below it. -/
theorem inflate_isOk_iff :
    (∃ inlined, sources.inflate tree inflating name = .ok inlined) ↔
      name ∉ inflating ∧ ∃ content, sources.Holds tree name content ∧
        ∃ inlined, sources.expandBelow tree (name :: inflating) content = .ok inlined := by
  constructor
  · rintro ⟨inlined, isOk⟩
    obtain ⟨fresh, content, holds, below⟩ := inflate_eq_ok_iff_holds.mp isOk
    exact ⟨fresh, content, holds, inlined, below⟩
  · rintro ⟨fresh, content, holds, inlined, below⟩
    exact ⟨inlined, inflate_eq_ok_iff_holds.mpr ⟨fresh, content, holds, below⟩⟩

/-- **One step of the walk**: a text can be expanded if every name that it asks for is new on the
way, has a text, and that text can be expanded one step deeper. -/
theorem expandBelow_isOk_iff :
    (∃ expanded, sources.expandBelow tree inflating text = .ok expanded) ↔
      ∀ name, Asks inflating.head? text name →
        name ∉ inflating ∧ ∃ content, sources.Holds tree name content ∧
          ∃ inlined, sources.expandBelow tree (name :: inflating) content = .ok inlined := by
  have lines : (∃ expanded, sources.expandBelow tree inflating text = .ok expanded) ↔
      ∃ expanded, expandLines (sources.inflate tree inflating) inflating.head?
        (splitLines text) = .ok expanded := by
    simp only [expandBelow_eq_ok_iff]
    exact ⟨fun ⟨_, lines, isOk, _⟩ => ⟨lines, isOk⟩, fun ⟨lines, isOk⟩ => ⟨_, lines, isOk, rfl⟩⟩
  rw [lines, expandLines_isOk_iff]
  constructor
  · rintro inlined name ⟨line, member, plain, requested, named, rfl⟩
    exact inflate_isOk_iff.mp
      (inlined line member requested (Directive.ofLine?_eq_inclusion_iff.mpr ⟨plain, named⟩))
  · intro asked line member requested directive
    obtain ⟨plain, named⟩ := Directive.ofLine?_eq_inclusion_iff.mp directive
    exact inflate_isOk_iff.mpr (asked _ ⟨line, member, plain, requested, named, rfl⟩)

/-! ### The whole walk -/

/-- **A walk that ends well** has met every name that the text leads to: each has a text, is not
being expanded, and does not include itself through any chain of names. -/
theorem reaches_of_isOk
    (isOk : ∃ expanded, sources.expandBelow tree inflating text = .ok expanded)
    (reached : sources.ReachesFrom tree inflating.head? text name) :
    name ∉ inflating ∧ (∃ content, sources.Holds tree name content) ∧
      ¬ TransGen (sources.Includes tree) name name := by
  induction inflating, text using expandBelow.induct sources generalizing name with
  | case1 inflating text inductionStep =>
    obtain ⟨first, asks, chain⟩ := reached
    obtain ⟨fresh, content, holds, deeper⟩ := expandBelow_isOk_iff.mp isOk first asks
    obtain ⟨file, registered, read⟩ := id holds
    have below : ∀ other, TransGen (sources.Includes tree) first other →
        other ∉ first :: inflating ∧ (∃ content, sources.Holds tree other content) ∧
          ¬ TransGen (sources.Includes tree) other other := by
      intro other path
      obtain ⟨second, includes, rest⟩ := TransGen.head'_iff.mp path
      exact inductionStep first file registered fresh content deeper
        ⟨second, includes.asks holds, rest⟩
    rcases reflTransGen_iff_eq_or_transGen.mp chain with rfl | path
    · exact ⟨fresh, ⟨content, holds⟩, fun cycle => (below name cycle).1 List.mem_cons_self⟩
    · obtain ⟨new, found⟩ := below name path
      exact ⟨fun member => new (List.mem_cons_of_mem _ member), found⟩

/-- If every name that is being expanded includes whatever a text asks for, so it is one step deeper. -/
theorem transGen_of_asks_cons {content : String}
    (chain : ∀ active ∈ inflating, ∀ other, Asks inflating.head? text other →
      TransGen (sources.Includes tree) active other)
    (asks : Asks inflating.head? text name) (holds : sources.Holds tree name content) :
    ∀ active ∈ name :: inflating, ∀ other, Asks (some name) content other →
      TransGen (sources.Includes tree) active other := by
  intro active member other asked
  have edge : sources.Includes tree name other := ⟨content, holds, asked⟩
  rcases List.mem_cons.mp member with rfl | outer
  · exact .single edge
  · exact (chain active outer name asks).tail edge

/-- **A walk ends well** if every name that the text leads to has a text and includes itself through
no chain of names, and every name that is being expanded includes whatever the text asks for. -/
theorem isOk_of_reaches
    (chain : ∀ active ∈ inflating, ∀ name, Asks inflating.head? text name →
      TransGen (sources.Includes tree) active name)
    (reached : ∀ name, sources.ReachesFrom tree inflating.head? text name →
      (∃ content, sources.Holds tree name content) ∧
        ¬ TransGen (sources.Includes tree) name name) :
    ∃ expanded, sources.expandBelow tree inflating text = .ok expanded := by
  induction inflating, text using expandBelow.induct sources with
  | case1 inflating text inductionStep =>
    refine expandBelow_isOk_iff.mpr fun name asks => ?_
    obtain ⟨⟨content, holds⟩, acyclic⟩ := reached name ⟨name, asks, .refl⟩
    obtain ⟨file, registered, read⟩ := id holds
    have fresh : name ∉ inflating := fun active => acyclic (chain name active name asks)
    refine ⟨fresh, content, holds, inductionStep name file registered fresh content
      (transGen_of_asks_cons chain asks holds) ?_⟩
    rintro other ⟨second, asked, rest⟩
    exact reached other ⟨name, asks, .head ⟨content, holds, asked⟩ rest⟩

/-- **A text has an expansion** exactly when every name that it leads to is registered for a file
with a text, and includes itself through no chain of names. -/
theorem expand_isOk_iff (tree : FileTree) (sources : NamedSources) (text : String) :
    (∃ expanded, sources.expand tree text = .ok expanded) ↔
      ∀ name, sources.Reaches tree text name →
        (∃ file, sources.get? name = some file ∧ ∃ content, tree.readText file = .ok content) ∧
          ¬ TransGen (sources.Includes tree) name name := by
  have holds : ∀ name, (∃ content, sources.Holds tree name content) ↔
      ∃ file, sources.get? name = some file ∧ ∃ content, tree.readText file = .ok content := by
    intro name
    constructor
    · rintro ⟨content, file, registered, read⟩
      exact ⟨file, registered, content, read⟩
    · rintro ⟨file, registered, content, read⟩
      exact ⟨content, file, registered, read⟩
  constructor
  · intro isOk name reached
    obtain ⟨_, found, acyclic⟩ := reaches_of_isOk isOk reached
    exact ⟨(holds name).mp found, acyclic⟩
  · intro reached
    refine isOk_of_reaches (fun active member => by cases member) fun name path => ?_
    obtain ⟨found, acyclic⟩ := reached name path
    exact ⟨(holds name).mpr found, acyclic⟩

end NamedSources

end ShaderCheck
