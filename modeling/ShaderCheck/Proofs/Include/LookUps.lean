/-
**The names that an expansion looks up.**

An expansion looks up the name of each include line that it comes to, and then the names in the text
that the name stands for, up to the first one that fails. What these names stand for is all that it
depends on: other sources in other files, in which they stand for the same, lead to the same look-ups
and to the same text, or to a failure of the same kind at the same place. So nothing that is
registered besides or written to files that are not reached changes an expansion that succeeds.

* `LookUp`, `NamedSources.lookUps`: where a name is looked up, and all look-ups of an expansion in order;
* `IncludeError.fault`: the kind of an error;
* `NamedSources.found?`: what a name stands for;
* `expandLines_agree`, `NamedSources.expandsAlike_of`: one text, and the whole of an expansion;
* `NamedSources.exists_last_lookUp`: an expansion fails at the last name that it looks up;
* `NamedSources.mem_lookUps_iff_reaches`: one that succeeds looks up what the text leads to;
* `NamedSources.expand_local`: what an expansion depends on.
-/

import Mathlib.Control.Monad.Basic
import ShaderCheck.FileTree
import ShaderCheck.Proofs.Include.Graph
import ShaderCheck.Proofs.Table

namespace ShaderCheck

open Text Relation

/-- The kind of an include error, with the name that it is about. -/
inductive IncludeFault
  | notRegistered (name : String)
  | recursion (name : String)
  | unreadable (name : String)
deriving DecidableEq, Repr

/-- The kind of an error; of a file without a text, neither which file it is nor why it has none. -/
def IncludeError.fault : IncludeError → IncludeFault
  | .notRegistered name => .notRegistered name
  | .recursion name => .recursion name
  | .unreadable name _ _ => .unreadable name

/-- The name that an error of this kind is about. -/
def IncludeFault.name : IncludeFault → String
  | .notRegistered name | .recursion name | .unreadable name => name

/-- An include line that an expansion has come to. -/
structure LookUp where
  /-- The names that are being expanded, the innermost one first. -/
  inflating : List String
  /-- The place of the line in the text of the innermost name, counted from zero. -/
  line : Nat
  /-- The name that is looked up. -/
  name : String
deriving DecidableEq, Repr

/-- The look-ups of expanding one line: that of its name, and then those within the text of the name,
which are given by `inside`. -/
def lookUpsInLine (inside : String → List LookUp) (inflating : List String) (place : Nat)
    (line : String) : List LookUp :=
  match Directive.ofLine? line with
  | some (.inclusion requested) =>
    let name := Include.resolveName requested inflating.head?
    ⟨inflating, place, name⟩ :: inside name
  | some .extensionRequest | none => []

/-- The look-ups of expanding lines from a place in a text on, up to the first line that fails. -/
def lookUpsInLines (lookUp : String → Except IncludeError String) (inside : String → List LookUp)
    (inflating : List String) : Nat → List String → List LookUp
  | _, [] => []
  | place, line :: rest =>
    lookUpsInLine inside inflating place line ++
      match expandLine lookUp inflating.head? line with
      | .ok _ => lookUpsInLines lookUp inside inflating (place + 1) rest
      | .error _ => []

namespace NamedSources

/-- The look-ups of expanding a text below the names that are being expanded. -/
def lookUpsBelow (tree : FileTree) (sources : NamedSources) (inflating : List String)
    (text : String) : List LookUp :=
  lookUpsInLines (sources.inflate tree inflating) (fun name =>
    match _registered : sources.get? name with
    | none => []
    | some file =>
      if _active : name ∈ inflating then []
      else
        match tree.readText file with
        | .error _ => []
        | .ok content => lookUpsBelow tree sources (name :: inflating) content)
    inflating 0 (splitLines text)
termination_by sources.freeNames inflating
decreasing_by exact freeNames_cons_lt _registered _active

/-- The look-ups of expanding a text, in order. -/
def lookUps (tree : FileTree) (sources : NamedSources) (text : String) : List LookUp :=
  sources.lookUpsBelow tree [] text

/-- What a name stands for: nothing, if it is not registered, and if it is, the text of its file, unless
the file has none. -/
def found? (tree : FileTree) (sources : NamedSources) (name : String) : Option (Option String) :=
  (sources.get? name).map fun file => (tree.readText file).toOption

end NamedSources

/-! ### Outcomes that differ in how an error is told -/

section Outcomes

variable {α β ε φ : Type} {tell : ε → φ} {first second : Except ε α}

theorem mapError_map (outcome : Except ε α) (change : α → β) :
    (outcome.map change).mapError tell = (outcome.mapError tell).map change := by
  cases outcome <;> rfl

theorem eq_error_of_map_eq_error {outcome : Except ε α} {change : α → β} {error : ε}
    (failed : outcome.map change = .error error) : outcome = .error error := by
  cases outcome with
  | error other => exact congrArg Except.error (Except.error.inj failed)
  | ok value => cases failed

theorem eq_ok_of_mapError_eq {value : α} (same : first.mapError tell = second.mapError tell)
    (isOk : second = .ok value) : first = .ok value := by
  rw [isOk] at same
  cases first with
  | error error => cases same
  | ok other => exact congrArg Except.ok (Except.ok.inj same)

theorem exists_error_of_mapError_eq {error : ε} (same : first.mapError tell = second.mapError tell)
    (failed : second = .error error) : ∃ other, first = .error other ∧ tell other = tell error := by
  rw [failed] at same
  cases first with
  | error other => exact ⟨other, rfl, Except.error.inj same⟩
  | ok value => cases same

end Outcomes

/-! ### One text -/

section Lines

variable {lookUp other : String → Except IncludeError String}
  {inside otherInside : String → List LookUp} {inflating : List String} {Same : LookUp → Prop}

theorem expandLine_agree
    (alike : ∀ name place, Same ⟨inflating, place, name⟩ → (∀ deeper ∈ inside name, Same deeper) →
      (other name).mapError IncludeError.fault = (lookUp name).mapError IncludeError.fault ∧
        otherInside name = inside name)
    {place : Nat} {line : String}
    (same : ∀ found ∈ lookUpsInLine inside inflating place line, Same found) :
    (expandLine other inflating.head? line).mapError IncludeError.fault =
        (expandLine lookUp inflating.head? line).mapError IncludeError.fault ∧
      lookUpsInLine otherInside inflating place line =
        lookUpsInLine inside inflating place line := by
  unfold lookUpsInLine at same ⊢
  unfold expandLine
  cases directive : Directive.ofLine? line with
  | none => exact ⟨rfl, rfl⟩
  | some kind =>
    cases kind with
    | extensionRequest => exact ⟨rfl, rfl⟩
    | inclusion requested =>
      rw [directive] at same
      dsimp only at same ⊢
      rw [List.forall_mem_cons] at same
      obtain ⟨outcome, deeper⟩ := alike _ place same.1 same.2
      rw [mapError_map, mapError_map, outcome, deeper]
      exact ⟨rfl, rfl⟩

/-- **Lines are expanded alike**, with the same look-ups, if each name that is looked up is put in place
alike. By induction on the lines: behind a line that fails there are no look-ups. -/
theorem expandLines_agree
    (alike : ∀ name place, Same ⟨inflating, place, name⟩ → (∀ deeper ∈ inside name, Same deeper) →
      (other name).mapError IncludeError.fault = (lookUp name).mapError IncludeError.fault ∧
        otherInside name = inside name)
    {place : Nat} {lines : List String}
    (same : ∀ found ∈ lookUpsInLines lookUp inside inflating place lines, Same found) :
    (expandLines other inflating.head? lines).mapError IncludeError.fault =
        (expandLines lookUp inflating.head? lines).mapError IncludeError.fault ∧
      lookUpsInLines other otherInside inflating place lines =
        lookUpsInLines lookUp inside inflating place lines := by
  induction lines generalizing place with
  | nil => exact ⟨rfl, rfl⟩
  | cons line rest inductionStep =>
    rw [lookUpsInLines] at same ⊢
    rw [List.forall_mem_append] at same
    obtain ⟨outcome, lookUps⟩ := expandLine_agree alike same.1
    rw [lookUpsInLines, lookUps, expandLines_cons, expandLines_cons]
    cases expanded : expandLine lookUp inflating.head? line with
    | error error =>
      obtain ⟨otherError, failed, sameFault⟩ := exists_error_of_mapError_eq outcome expanded
      rw [failed]
      exact ⟨congrArg Except.error sameFault, rfl⟩
    | ok front =>
      rw [expanded] at same
      obtain ⟨later, laterLookUps⟩ := inductionStep same.2
      rw [eq_ok_of_mapError_eq outcome expanded]
      dsimp only
      rw [laterLookUps]
      refine ⟨?_, rfl⟩
      show Except.mapError _ (Except.map _ _) = Except.mapError _ (Except.map _ _)
      rw [mapError_map, mapError_map, later]

/-- **Lines fail at their last look-up**, if each name does. -/
theorem exists_last_of_expandLines {error : IncludeError} {Ends : LookUp → Prop}
    (last : ∀ name place, lookUp name = .error error →
      ∃ before deepest, ⟨inflating, place, name⟩ :: inside name = before ++ [deepest] ∧ Ends deepest)
    {place : Nat} {lines : List String}
    (failed : expandLines lookUp inflating.head? lines = .error error) :
    ∃ before deepest, lookUpsInLines lookUp inside inflating place lines = before ++ [deepest] ∧
      Ends deepest := by
  induction lines generalizing place with
  | nil => cases failed
  | cons line rest inductionStep =>
    rw [expandLines_cons] at failed
    rw [lookUpsInLines]
    cases expanded : expandLine lookUp inflating.head? line with
    | error other =>
      rw [expanded] at failed
      obtain rfl := Except.error.inj failed
      obtain ⟨requested, directive, found⟩ := expandLine_eq_error_iff.mp expanded
      dsimp only
      rw [List.append_nil, lookUpsInLine, directive]
      exact last _ place found
    | ok front =>
      rw [expanded] at failed
      obtain ⟨before, deepest, split, ends⟩ := inductionStep (eq_error_of_map_eq_error failed)
      dsimp only
      rw [split, ← List.append_assoc]
      exact ⟨_, deepest, rfl, ends⟩

/-- A look-up is that of a line, or within the text that the name of a line stands for. -/
theorem exists_line_of_mem_lookUpsInLines {place : Nat} {lines : List String} {found : LookUp}
    (member : found ∈ lookUpsInLines lookUp inside inflating place lines) :
    ∃ line ∈ lines, ∃ requested, Directive.ofLine? line = some (.inclusion requested) ∧
      (found.name = Include.resolveName requested inflating.head? ∨
        found ∈ inside (Include.resolveName requested inflating.head?)) := by
  induction lines generalizing place with
  | nil => cases member
  | cons line rest inductionStep =>
    rcases List.mem_append.mp member with inLine | later
    · unfold lookUpsInLine at inLine
      split at inLine
      · rename_i requested directive
        refine ⟨line, List.mem_cons_self, requested, directive, ?_⟩
        rcases List.mem_cons.mp inLine with rfl | deeper
        · exact .inl rfl
        · exact .inr deeper
      · cases inLine
      · cases inLine
    · split at later
      · obtain ⟨other, among, found⟩ := inductionStep later
        exact ⟨other, List.mem_cons_of_mem _ among, found⟩
      · cases later

/-- If all lines can be expanded, the look-ups of each of them are made. -/
theorem exists_place_of_mem {lines expanded : List String} {line : String} (place : Nat)
    (isOk : expandLines lookUp inflating.head? lines = .ok expanded) (member : line ∈ lines) :
    ∃ own, lookUpsInLine inside inflating own line ⊆
      lookUpsInLines lookUp inside inflating place lines := by
  induction lines generalizing place expanded with
  | nil => cases member
  | cons first rest inductionStep =>
    obtain ⟨front, later, found, others, _⟩ := expandLines_cons_eq_ok_iff.mp isOk
    rw [lookUpsInLines, found]
    rcases List.mem_cons.mp member with rfl | deeper
    · exact ⟨place, List.subset_append_left ..⟩
    · obtain ⟨own, among⟩ := inductionStep (place + 1) others deeper
      exact ⟨own, List.subset_append_of_subset_right _ among⟩

end Lines

/-! ### The whole of an expansion -/

namespace NamedSources

variable {tree other : FileTree} {sources others : NamedSources} {inflating : List String}
  {name text : String}

/-- The look-ups within the text that a name stands for. -/
def lookUpsIn (tree : FileTree) (sources : NamedSources) (inflating : List String) (name : String) :
    List LookUp :=
  match sources.get? name with
  | none => []
  | some file =>
    if name ∈ inflating then []
    else
      match tree.readText file with
      | .error _ => []
      | .ok content => sources.lookUpsBelow tree (name :: inflating) content

theorem lookUpsBelow_eq (tree : FileTree) (sources : NamedSources) (inflating : List String)
    (text : String) :
    sources.lookUpsBelow tree inflating text =
      lookUpsInLines (sources.inflate tree inflating) (sources.lookUpsIn tree inflating) inflating 0
        (splitLines text) := by
  have alike : ∀ inside : String → List LookUp,
      (∀ name, inside name = sources.lookUpsIn tree inflating name) →
        lookUpsInLines (sources.inflate tree inflating) inside inflating 0 (splitLines text) =
          lookUpsInLines (sources.inflate tree inflating) (sources.lookUpsIn tree inflating)
            inflating 0 (splitLines text) :=
    fun inside same => by rw [funext same]
  rw [lookUpsBelow]
  refine alike _ fun name => ?_
  unfold lookUpsIn
  cases sources.get? name <;> rfl

/-- The look-ups within the text of a name that is not being expanded. -/
theorem lookUpsIn_of_holds {content : String} (holds : sources.Holds tree name content)
    (fresh : name ∉ inflating) :
    sources.lookUpsIn tree inflating name =
      sources.lookUpsBelow tree (name :: inflating) content := by
  obtain ⟨file, registered, read⟩ := holds
  simp only [lookUpsIn, registered, if_neg fresh, read]

/-- The text is expanded to the same in other files or fails with an error of the same kind there, with
the same look-ups. -/
def ExpandsAlike (tree : FileTree) (sources : NamedSources) (other : FileTree) (others : NamedSources)
    (inflating : List String) (text : String) : Prop :=
  (others.expandBelow other inflating text).mapError IncludeError.fault =
      (sources.expandBelow tree inflating text).mapError IncludeError.fault ∧
    others.lookUpsBelow other inflating text = sources.lookUpsBelow tree inflating text

/-- What takes the place of the name is the same in other files, and so are the look-ups within it. -/
def InflatesAlike (tree : FileTree) (sources : NamedSources) (other : FileTree) (others : NamedSources)
    (inflating : List String) (name : String) : Prop :=
  (others.inflate other inflating name).mapError IncludeError.fault =
      (sources.inflate tree inflating name).mapError IncludeError.fault ∧
    others.lookUpsIn other inflating name = sources.lookUpsIn tree inflating name

/-- **A name is put in place alike** if it stands for the same and its text is expanded alike. -/
theorem inflate_agree (same : others.found? other name = sources.found? tree name)
    (below : ∀ content, sources.Holds tree name content → name ∉ inflating →
      ExpandsAlike tree sources other others (name :: inflating) content) :
    InflatesAlike tree sources other others inflating name := by
  unfold found? at same
  unfold InflatesAlike inflate lookUpsIn
  cases registered : sources.get? name with
  | none =>
    rw [registered] at same
    rw [Option.map_eq_none_iff.mp same]
    exact ⟨rfl, rfl⟩
  | some file =>
    rw [registered] at same
    obtain ⟨otherFile, otherRegistered, sameText⟩ := Option.map_eq_some_iff.mp same
    rw [otherRegistered]
    dsimp only at sameText ⊢
    by_cases active : name ∈ inflating
    · rw [if_pos active, if_pos active, if_pos active, if_pos active]
      exact ⟨rfl, rfl⟩
    · rw [if_neg active, if_neg active, if_neg active, if_neg active]
      cases read : tree.readText file with
      | error cause =>
        rw [read] at sameText
        cases otherRead : other.readText otherFile with
        | error otherCause => exact ⟨rfl, rfl⟩
        | ok otherContent =>
          rw [otherRead] at sameText
          cases sameText
      | ok content =>
        rw [read] at sameText
        cases otherRead : other.readText otherFile with
        | error otherCause =>
          rw [otherRead] at sameText
          cases sameText
        | ok otherContent =>
          rw [otherRead] at sameText
          obtain rfl : otherContent = content := Option.some.inj sameText
          exact below otherContent ⟨file, registered, read⟩ active

/-- **A text is expanded alike** if each name that is looked up is put in place alike as soon as its text
is expanded alike. By induction on the names that are not under way yet. -/
theorem expandsAlike_of {Same : LookUp → Prop}
    (alike : ∀ inflating place name, Same ⟨inflating, place, name⟩ →
      (∀ content, sources.Holds tree name content → name ∉ inflating →
        ExpandsAlike tree sources other others (name :: inflating) content) →
      InflatesAlike tree sources other others inflating name)
    (same : ∀ lookUp ∈ sources.lookUpsBelow tree inflating text, Same lookUp) :
    ExpandsAlike tree sources other others inflating text := by
  induction inflating, text using expandBelow.induct sources with
  | case1 inflating text inductionStep =>
    unfold ExpandsAlike
    rw [lookUpsBelow_eq] at same
    rw [lookUpsBelow_eq, lookUpsBelow_eq, expandBelow_eq, expandBelow_eq, mapError_map, mapError_map]
    obtain ⟨outcome, lookUps⟩ := expandLines_agree
      (fun name place looked deeper => alike inflating place name looked fun content holds fresh => by
        rw [lookUpsIn_of_holds holds fresh] at deeper
        obtain ⟨file, registered, _⟩ := holds
        exact inductionStep name file registered fresh content deeper)
      same
    exact ⟨by rw [outcome], lookUps⟩

/-- **A text is expanded alike** if each name that is looked up stands for the same. -/
theorem expandBelow_agree
    (agree : ∀ lookUp ∈ sources.lookUpsBelow tree inflating text,
      others.found? other lookUp.name = sources.found? tree lookUp.name) :
    ExpandsAlike tree sources other others inflating text :=
  expandsAlike_of (fun _ _ _ same below => inflate_agree same below) agree

/-- **A name fails at the last look-up** that it leads to, if every text below it does. -/
theorem exists_last_of_inflate {error : IncludeError} {place : Nat}
    (below : ∀ file, sources.get? name = some file → name ∉ inflating → ∀ content,
      sources.expandBelow tree (name :: inflating) content = .error error →
        ∃ before last, sources.lookUpsBelow tree (name :: inflating) content = before ++ [last] ∧
          sources.inflate tree last.inflating last.name = .error error ∧
            error.fault.name = last.name)
    (failed : sources.inflate tree inflating name = .error error) :
    ∃ before last, ⟨inflating, place, name⟩ :: sources.lookUpsIn tree inflating name =
        before ++ [last] ∧
      sources.inflate tree last.inflating last.name = .error error ∧
        error.fault.name = last.name := by
  have atOnce : sources.lookUpsIn tree inflating name = [] → error.fault.name = name →
      ∃ before last, ⟨inflating, place, name⟩ :: sources.lookUpsIn tree inflating name =
          before ++ [last] ∧
        sources.inflate tree last.inflating last.name = .error error ∧
          error.fault.name = last.name :=
    fun none named => ⟨[], ⟨inflating, place, name⟩, by rw [none]; rfl, failed, named⟩
  rcases inflate_eq_error_iff.mp failed with ⟨missing, rfl⟩ | ⟨file, registered, active, rfl⟩ |
    ⟨file, cause, registered, fresh, unread, rfl⟩ | ⟨fresh, content, holds, deeper⟩
  · exact atOnce (by rw [lookUpsIn, missing]) rfl
  · exact atOnce (by simp only [lookUpsIn, registered, if_pos active]) rfl
  · exact atOnce (by simp only [lookUpsIn, registered, if_neg fresh, unread]) rfl
  · obtain ⟨file, registered, _⟩ := id holds
    obtain ⟨before, last, split, ends⟩ := below file registered fresh content deeper
    rw [lookUpsIn_of_holds holds fresh, split, ← List.cons_append]
    exact ⟨_, last, rfl, ends⟩

/-- An expansion fails where its lines do. -/
theorem expandBelow_eq_error_iff {error : IncludeError} :
    sources.expandBelow tree inflating text = .error error ↔
      expandLines (sources.inflate tree inflating) inflating.head? (splitLines text) =
        .error error := by
  rw [expandBelow_eq]
  exact ⟨eq_error_of_map_eq_error, fun failed => by rw [failed]; rfl⟩

/-- **An expansion fails at the last name that it looks up.** By induction on the names that are not
under way yet. -/
theorem exists_last_lookUp {error : IncludeError}
    (failed : sources.expandBelow tree inflating text = .error error) :
    ∃ before last, sources.lookUpsBelow tree inflating text = before ++ [last] ∧
      sources.inflate tree last.inflating last.name = .error error ∧
        error.fault.name = last.name := by
  induction inflating, text using expandBelow.induct sources with
  | case1 inflating text inductionStep =>
    rw [lookUpsBelow_eq]
    exact exists_last_of_expandLines
      (fun name _ found => exists_last_of_inflate
        (fun file registered active content => inductionStep name file registered active content)
        found)
      (expandBelow_eq_error_iff.mp failed)

/-- The text leads to every name that its expansion looks up. -/
theorem reachesFrom_of_mem_lookUpsBelow {lookUp : LookUp}
    (member : lookUp ∈ sources.lookUpsBelow tree inflating text) :
    sources.ReachesFrom tree inflating.head? text lookUp.name := by
  induction inflating, text using expandBelow.induct sources with
  | case1 inflating text inductionStep =>
    rw [lookUpsBelow_eq] at member
    obtain ⟨line, isLine, requested, directive, isOwn | deeper⟩ :=
      exists_line_of_mem_lookUpsInLines member
    all_goals
      obtain ⟨plain, named⟩ := Directive.ofLine?_eq_inclusion_iff.mp directive
      have asks : Asks inflating.head? text (Include.resolveName requested inflating.head?) :=
        ⟨line, isLine, plain, requested, named, rfl⟩
    · exact ⟨_, isOwn ▸ asks, .refl⟩
    · unfold lookUpsIn at deeper
      split at deeper
      · cases deeper
      · rename_i file registered
        split at deeper
        · cases deeper
        · rename_i active
          split at deeper
          · cases deeper
          · rename_i content read
            obtain ⟨second, asked, rest⟩ := inductionStep _ file registered active content deeper
            exact ⟨_, asks, .head ⟨content, ⟨file, registered, read⟩, asked⟩ rest⟩

/-- A successful expansion looks up every name that the text leads to. -/
theorem exists_lookUp_of_reachesFrom
    (isOk : ∃ expanded, sources.expandBelow tree inflating text = .ok expanded)
    (reached : sources.ReachesFrom tree inflating.head? text name) :
    ∃ lookUp ∈ sources.lookUpsBelow tree inflating text, lookUp.name = name := by
  induction inflating, text using expandBelow.induct sources with
  | case1 inflating text inductionStep =>
    obtain ⟨first, asks, chain⟩ := reached
    obtain ⟨fresh, content, holds, deeper⟩ := expandBelow_isOk_iff.mp isOk first asks
    obtain ⟨file, registered, read⟩ := id holds
    obtain ⟨line, isLine, plain, requested, named, rfl⟩ := asks
    obtain ⟨_, isOk⟩ := isOk
    obtain ⟨lines, expanded, _⟩ := expandBelow_eq_ok_iff.mp isOk
    obtain ⟨own, among⟩ := exists_place_of_mem 0 expanded isLine
    have inLine : lookUpsInLine (sources.lookUpsIn tree inflating) inflating own line =
        ⟨inflating, own, Include.resolveName requested inflating.head?⟩ ::
          sources.lookUpsBelow tree (Include.resolveName requested inflating.head? :: inflating)
            content := by
      have directive : Directive.ofLine? line = some (.inclusion requested) :=
        Directive.ofLine?_eq_inclusion_iff.mpr ⟨plain, named⟩
      rw [lookUpsInLine, directive]
      dsimp only
      rw [lookUpsIn_of_holds holds fresh]
    rw [lookUpsBelow_eq]
    rw [inLine, List.cons_subset] at among
    rcases ReflTransGen.cases_head chain with rfl | ⟨second, includes, rest⟩
    · exact ⟨_, among.1, rfl⟩
    · obtain ⟨lookUp, member, isName⟩ :=
        inductionStep _ file registered fresh content deeper ⟨second, includes.asks holds, rest⟩
      exact ⟨lookUp, among.2 member, isName⟩

/-- **A successful expansion looks up** the names that the text leads to, and no other one. -/
theorem mem_lookUps_iff_reaches {expanded : String}
    (isOk : sources.expand tree text = .ok expanded) :
    name ∈ (sources.lookUps tree text).map LookUp.name ↔ sources.Reaches tree text name := by
  rw [List.mem_map]
  constructor
  · rintro ⟨lookUp, member, rfl⟩
    exact reachesFrom_of_mem_lookUpsBelow member
  · exact fun reached => @exists_lookUp_of_reachesFrom _ _ [] _ _ ⟨expanded, isOk⟩ reached

/-! ### Two expansions -/

/-- **An expansion depends on what the names that it looks up stand for.**

With other sources in other files in which each of these names stands for the same, a text leads to
the same look-ups. It expands to the same text, or fails in both cases at the last look-up, with an
error of the same kind about the name that is looked up there.

In particular, an expansion that succeeds does so with the same text when further names are
registered, and when the files that it does not reach change. -/
theorem expand_local (tree : FileTree) (sources : NamedSources) (text : String) :
    (∀ (other : FileTree) (others : NamedSources),
      (∀ lookUp ∈ sources.lookUps tree text,
        others.found? other lookUp.name = sources.found? tree lookUp.name) →
      others.lookUps other text = sources.lookUps tree text ∧
      ((∃ expanded, sources.expand tree text = .ok expanded ∧
          others.expand other text = .ok expanded) ∨
        ∃ before last error otherError,
          sources.lookUps tree text = before ++ [last] ∧
          sources.expand tree text = .error error ∧
          others.expand other text = .error otherError ∧
          sources.inflate tree last.inflating last.name = .error error ∧
          others.inflate other last.inflating last.name = .error otherError ∧
          otherError.fault = error.fault ∧ error.fault.name = last.name)) ∧
    (∀ expanded, sources.expand tree text = .ok expanded →
      ∀ (other : FileTree) (pairs : List (String × Path)),
        (∀ pair ∈ pairs, sources.get? pair.1 = none) →
        (∀ name, sources.Reaches tree text name → ∀ file, sources.get? name = some file →
          (other.readText file).toOption = (tree.readText file).toOption) →
        NamedSources.expand other (sources.insertMany pairs) text = .ok expanded) := by
  constructor
  · intro other others agree
    obtain ⟨outcome, sameLookUps⟩ := expandBelow_agree agree
    refine ⟨sameLookUps, ?_⟩
    cases expanded : sources.expand tree text with
    | ok result => exact .inl ⟨result, rfl, eq_ok_of_mapError_eq outcome expanded⟩
    | error error =>
      obtain ⟨otherError, failed, sameFault⟩ := exists_error_of_mapError_eq outcome expanded
      obtain ⟨before, last, split, ends, named⟩ := exists_last_lookUp expanded
      obtain ⟨otherBefore, otherLast, otherSplit, otherEnds, _⟩ := exists_last_lookUp failed
      obtain ⟨_, same⟩ := List.append_inj' (otherSplit.symm.trans (sameLookUps.trans split)) rfl
      obtain rfl := (List.cons.inj same).1
      exact .inr ⟨before, otherLast, error, otherError, split, rfl, failed, ends, otherEnds,
        sameFault, named⟩
  · intro expanded isOk other pairs additional unchanged
    refine eq_ok_of_mapError_eq (expandBelow_agree fun lookUp member => ?_).1 isOk
    have reached := reachesFrom_of_mem_lookUpsBelow member
    obtain ⟨_, ⟨content, file, registered, read⟩, _⟩ := reaches_of_isOk ⟨expanded, isOk⟩ reached
    have kept : (sources.insertMany pairs).get? lookUp.name = some file := by
      rw [Table.get?_insertMany_of_not_mem, registered]
      intro value inserted
      cases registered.symm.trans (additional _ inserted)
    unfold found?
    rw [kept, registered, Option.map_some, Option.map_some, unchanged _ reached file registered]

end NamedSources

/-- A file with a text of its own, and one that includes what is not there. -/
def partlyBrokenTree : FileTree :=
  FileTree.empty []
    |>.write (.ofText "a.glsl") "float a;".toUTF8
    |>.write (.ofText "c.glsl") "#include \"e.glsl\"".toUTF8

/-- The same with the second text in another file, and something else in its place. -/
def movedTree : FileTree :=
  partlyBrokenTree
    |>.write (.ofText "c.glsl") "float c;".toUTF8
    |>.write (.ofText "d.glsl") "#include \"e.glsl\"".toUTF8

/-- Where the second text is does not matter, nor a name behind the one that is missing; and where it
is not looked up, its text does not matter either. -/
theorem moved_local :
    let sources : NamedSources :=
      Table.empty.insertMany [("/lib/a.glsl", .ofText "a.glsl"), ("/lib/c.glsl", .ofText "c.glsl")]
    let moved : NamedSources :=
      Table.empty.insertMany
        [("/lib/a.glsl", .ofText "a.glsl"), ("/lib/c.glsl", .ofText "d.glsl"),
          ("/lib/f.glsl", .ofText "a.glsl")]
    let text := "#include </lib/a.glsl>\n#include </lib/c.glsl>\n#include </lib/f.glsl>"
    moved.lookUps movedTree text =
        [⟨[], 0, "/lib/a.glsl"⟩, ⟨[], 1, "/lib/c.glsl"⟩, ⟨["/lib/c.glsl"], 0, "/lib/e.glsl"⟩] ∧
      (∃ error, moved.expand movedTree text = .error error ∧
        error.fault = .notRegistered "/lib/e.glsl") ∧
      NamedSources.expand movedTree (sources.insertMany [("/lib/f.glsl", .ofText "c.glsl")])
        "#include </lib/a.glsl>" = .ok "float a;" := by
  intro sources moved text
  have found : sources.lookUps partlyBrokenTree text =
      [⟨[], 0, "/lib/a.glsl"⟩, ⟨[], 1, "/lib/c.glsl"⟩, ⟨["/lib/c.glsl"], 0, "/lib/e.glsl"⟩] := by
    decide +kernel
  have failed : sources.expand partlyBrokenTree text = .error (.notRegistered "/lib/e.glsl") := by
    decide +kernel
  have isOk : sources.expand partlyBrokenTree "#include </lib/a.glsl>" = .ok "float a;" := by
    decide +kernel
  have onlyOne : (sources.lookUps partlyBrokenTree "#include </lib/a.glsl>").map LookUp.name =
      ["/lib/a.glsl"] := by
    decide +kernel
  obtain ⟨sameLookUps, outcome⟩ :=
    (NamedSources.expand_local partlyBrokenTree sources text).1 movedTree moved
      (by rw [found]; decide +kernel)
  refine ⟨sameLookUps.trans found, ?_, ?_⟩
  · rcases outcome with ⟨_, isOk, _⟩ | ⟨_, _, _, error, _, missing, alsoFailed, _, _, sameFault, _⟩
    · cases failed.symm.trans isOk
    · obtain rfl := Except.error.inj (failed.symm.trans missing)
      exact ⟨error, alsoFailed, sameFault⟩
  · refine (NamedSources.expand_local partlyBrokenTree sources _).2 _ isOk movedTree _ ?_ ?_
    · decide +kernel
    · intro name reached file registered
      rw [← NamedSources.mem_lookUps_iff_reaches isOk, onlyOne, List.mem_singleton] at reached
      rw [reached] at registered
      obtain rfl : Path.ofText "a.glsl" = file := Option.some.inj registered
      decide +kernel

end ShaderCheck
