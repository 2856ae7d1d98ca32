/-
**The stack of the names that are being expanded.**

The expansion is written once more as a walk that keeps one stack: a name is put on it before its text
is expanded and taken off after that. What bounds the walk is a limit on how deep texts are expanded
within one another, and a walk that comes to its limit has no outcome. The names on the stack are
registered and no two of them are the same, as a name that is on it is refused before it is put there.
So no limit above the number of registered names is come to, and the walk ends with the result of the
expansion.

* `WalkEvent`, `Walk`: what is taken down, and a walk with a stack;
* `NamedSources.walkLines`, `NamedSources.walkName`, `NamedSources.walkText`: the expansion as a walk;
* `NamedSources.IsNesting`: what the names on the stack are; no more of them are there than are
  registered (`IsNesting.length_le`);
* `Walk.Extends`, `NamedSources.walkText_extends`: a higher limit makes no difference to an outcome;
* `NamedSources.Runs`, `NamedSources.Restores`: a walk that ends, and one that leaves its stack as it was;
* `NamedSources.restores_walkName`, `NamedSources.restores_walkLines`, `NamedSources.restores_walkText`: a
  name, lines, and a text;
* `NamedSources.walk_ends`: the whole walk of a text.
-/

import Mathlib.Data.List.Perm.Subperm
import ShaderCheck.FileTree
import ShaderCheck.Proofs.Include.Graph
import ShaderCheck.Proofs.Table

namespace ShaderCheck

open Text

/-- What a walk takes down about its stack, on which the innermost name is the last one. -/
inductive WalkEvent
  /-- A text that the source `current` holds, if any does, is to be expanded with this stack. -/
  | begun (current : Option String) (stack : List String)
  /-- A text has been expanded: the stack at its beginning and the stack that it leaves. -/
  | ended (before after : List String)
  /-- A name has been expanded: the stack before it was put there and the stack that is left when it
  has been taken off. -/
  | inlined (before after : List String)
deriving DecidableEq, Repr

/-- The stack, and what has been taken down. -/
structure WalkState where
  stack : List String
  events : List WalkEvent
deriving DecidableEq, Repr

/-- Walks with a stack. They end with a value or an error and a state, or come to their limit. -/
abbrev Walk := ExceptT IncludeError (StateT WalkState Option)

namespace Walk

/-- The names that are being expanded. -/
def stack : Walk (List String) :=
  return (← get).stack

/-- Takes an event down. -/
def record (event : WalkEvent) : Walk Unit :=
  modify fun state => { state with events := state.events ++ [event] }

/-- Puts a name on the stack. -/
def push (name : String) : Walk Unit :=
  modify fun state => { state with stack := state.stack ++ [name] }

/-- Takes the last name off the stack. -/
def pop : Walk Unit :=
  modify fun state => { state with stack := state.stack.dropLast }

/-- Comes to the limit. -/
def tooDeep {α : Type} : Walk α :=
  ExceptT.mk fun _ => none

end Walk

namespace NamedSources

/-- The text of a name that is to be expanded with this stack: the name is looked up first, then looked
for on the stack, and its file is read last. -/
def opened (tree : FileTree) (sources : NamedSources) (stack : List String) (name : String) :
    Except IncludeError String :=
  match sources.get? name with
  | none => .error (.notRegistered name)
  | some file =>
    if name ∈ stack then .error (.recursion name)
    else
      match tree.readText file with
      | .error cause => .error (.unreadable name file cause)
      | .ok content => .ok content

/-- Expands the lines of a text that the source `current` holds, one by one and up to the first error,
with `inline` put in place of include lines. -/
def walkLines (inline : String → Walk String) (current : Option String) :
    List String → Walk (List String)
  | [] => return []
  | line :: rest =>
    match Directive.ofLine? line with
    | some .extensionRequest => walkLines inline current rest
    | some (.inclusion requested) => do
      let inlined ← inline (Include.resolveName requested current)
      let later ← walkLines inline current rest
      return inlined :: later
    | none => do
      let later ← walkLines inline current rest
      return line :: later

/-- Expands the text of a name by `below`, with the name on the stack. -/
def walkName (tree : FileTree) (sources : NamedSources)
    (below : Option String → String → Walk String) (name : String) : Walk String := do
  let before ← Walk.stack
  let content ← MonadExcept.ofExcept (sources.opened tree before name)
  Walk.push name
  let inlined ← below (some name) content
  Walk.pop
  let after ← Walk.stack
  Walk.record (.inlined before after)
  return inlined

/-- Expands a text that the source `current` holds, if any does, with fewer texts than the limit
within one another. -/
def walkText (tree : FileTree) (sources : NamedSources) :
    Nat → Option String → String → Walk String
  | 0, _, _ => Walk.tooDeep
  | limit + 1, current, text => do
    let before ← Walk.stack
    Walk.record (.begun current before)
    let lines ← walkLines (walkName tree sources (walkText tree sources limit)) current
      (splitLines text)
    let after ← Walk.stack
    Walk.record (.ended before after)
    return joinLines lines

end NamedSources

/-! ### Limits -/

/-- Whatever the first walk ends with, the second one ends with too. -/
def Walk.Extends {α : Type} (walk other : Walk α) : Prop :=
  ∀ start result, walk.run.run start = some result → other.run.run start = some result

theorem Walk.Extends.refl {α : Type} (walk : Walk α) : walk.Extends walk :=
  fun _ _ ended => ended

/-- One walk after another. -/
theorem Walk.Extends.bind {α β : Type} {walk other : Walk α} {next nextOther : α → Walk β}
    (first : walk.Extends other) (second : ∀ value, (next value).Extends (nextOther value)) :
    (walk >>= next).Extends (other >>= nextOther) := by
  intro start result ended
  rw [ExceptT.run_bind, StateT.run_bind] at ended ⊢
  obtain ⟨⟨outcome, middle⟩, ran, ranNext⟩ := Option.bind_eq_some_iff.mp ended
  rw [first start _ ran]
  cases outcome with
  | error error => exact ranNext
  | ok value => exact second value middle result ranNext

namespace NamedSources

section Limits

variable {tree : FileTree} {sources : NamedSources}

theorem walkLines_extends {inline other : String → Walk String} (current : Option String)
    (lines : List String) (names : ∀ name, (inline name).Extends (other name)) :
    (walkLines inline current lines).Extends (walkLines other current lines) := by
  induction lines with
  | nil => exact .refl _
  | cons line rest inductionStep =>
    rw [walkLines, walkLines]
    cases Directive.ofLine? line with
    | none => exact inductionStep.bind fun _ => .refl _
    | some directive =>
      cases directive with
      | extensionRequest => exact inductionStep
      | inclusion requested => exact (names _).bind fun _ => inductionStep.bind fun _ => .refl _

theorem walkName_extends {below other : Option String → String → Walk String} (name : String)
    (texts : ∀ current text, (below current text).Extends (other current text)) :
    (sources.walkName tree below name).Extends (sources.walkName tree other name) :=
  (Walk.Extends.refl _).bind fun _ => (Walk.Extends.refl _).bind fun _ =>
    (Walk.Extends.refl _).bind fun _ => (texts _ _).bind fun _ => .refl _

theorem walkText_extends_succ (limit : Nat) (current : Option String) (text : String) :
    (sources.walkText tree limit current text).Extends
      (sources.walkText tree (limit + 1) current text) := by
  induction limit generalizing current text with
  | zero =>
    intro start result ended
    cases ended
  | succ limit inductionStep =>
    have names : ∀ name, (sources.walkName tree (sources.walkText tree limit) name).Extends
        (sources.walkName tree (sources.walkText tree (limit + 1)) name) :=
      fun name => walkName_extends name inductionStep
    exact (Walk.Extends.refl _).bind fun _ => (Walk.Extends.refl _).bind fun _ =>
      (walkLines_extends current (splitLines text) names).bind fun _ => .refl _

/-- **A higher limit** makes no difference to a walk that does not come to its limit. -/
theorem walkText_extends {limit higher : Nat} (le : limit ≤ higher) (current : Option String)
    (text : String) :
    (sources.walkText tree limit current text).Extends
      (sources.walkText tree higher current text) := by
  induction le with
  | refl => exact .refl _
  | step _ inductionStep =>
    exact fun start result ended => walkText_extends_succ _ current text start result
      (inductionStep start result ended)

end Limits

/-! ### Stacks and events -/

/-- A stack that a text held by `current` may be expanded with: registered names, no two of them the
same, and `current` is the last one. -/
structure IsNesting (sources : NamedSources) (current : Option String) (stack : List String) :
    Prop where
  nodup : stack.Nodup
  registered : ∀ name ∈ stack, (sources.get? name).isSome
  last : stack.getLast? = current

/-- Nothing is being expanded when a text that no source holds is. -/
theorem IsNesting.nil (sources : NamedSources) : sources.IsNesting none [] :=
  ⟨.nil, fun _ member => absurd member List.not_mem_nil, rfl⟩

/-- A registered name may be put on a stack that it is not on. -/
theorem IsNesting.push {sources : NamedSources} {current : Option String} {stack : List String}
    {name : String} (nesting : sources.IsNesting current stack)
    (registered : (sources.get? name).isSome) (fresh : name ∉ stack) :
    sources.IsNesting (some name) (stack ++ [name]) where
  nodup := List.nodup_append.mpr ⟨nesting.nodup, List.pairwise_singleton _ name, by
    rintro other member _ alone rfl
    exact fresh (List.mem_singleton.mp alone ▸ member)⟩
  registered := by
    intro other member
    rcases List.mem_append.mp member with outer | alone
    · exact nesting.registered other outer
    · exact List.mem_singleton.mp alone ▸ registered
  last := List.getLast?_concat

/-- **No more names are being expanded than are registered.** -/
theorem IsNesting.length_le {sources : NamedSources} {current : Option String}
    {stack : List String} (nesting : sources.IsNesting current stack) :
    stack.length ≤ sources.size := by
  have keys : stack ⊆ sources.keys := fun name member =>
    Table.mem_keys_iff.mpr (nesting.registered name member)
  rw [Table.size_eq]
  exact (List.subperm_of_subset nesting.nodup keys).length_le

/-- An event of a walk that keeps its stack as it should. -/
def IsSound (sources : NamedSources) : WalkEvent → Prop
  | .begun current stack => sources.IsNesting current stack
  | .ended before after => after = before
  | .inlined before after => after = before

/-! ### Walks that end -/

/-- With this stack the walk ends with the outcome and the stack `after`, and takes down sound events
only. -/
def Runs {α : Type} (sources : NamedSources) (walk : Walk α) (stack : List String)
    (outcome : Except IncludeError α) (after : List String) : Prop :=
  ∀ events, (∀ event ∈ events, sources.IsSound event) →
    ∃ later, walk.run.run ⟨stack, events⟩ = some (outcome, ⟨after, later⟩) ∧
      ∀ event ∈ later, sources.IsSound event

/-- With this stack the walk ends with the outcome, and a value leaves the stack as it was. -/
def Restores {α : Type} (sources : NamedSources) (walk : Walk α) (stack : List String)
    (outcome : Except IncludeError α) : Prop :=
  ∃ after, sources.Runs walk stack outcome after ∧ ∀ value, outcome = .ok value → after = stack

section Steps

variable {sources : NamedSources} {α β : Type} {walk : Walk α} {next : α → Walk β}
  {stack middle after : List String}

theorem runs_pure (value : α) : sources.Runs (pure value) stack (.ok value) stack :=
  fun events sound => ⟨events, rfl, sound⟩

theorem runs_ofExcept (outcome : Except IncludeError α) :
    sources.Runs (MonadExcept.ofExcept outcome) stack outcome stack := by
  intro events sound
  refine ⟨events, ?_, sound⟩
  cases outcome <;> rfl

theorem runs_stack : sources.Runs Walk.stack stack (.ok stack) stack :=
  fun events sound => ⟨events, rfl, sound⟩

theorem runs_push (name : String) :
    sources.Runs (Walk.push name) stack (.ok ()) (stack ++ [name]) :=
  fun events sound => ⟨events, rfl, sound⟩

theorem runs_pop : sources.Runs Walk.pop stack (.ok ()) stack.dropLast :=
  fun events sound => ⟨events, rfl, sound⟩

theorem runs_record {event : WalkEvent} (isSound : sources.IsSound event) :
    sources.Runs (Walk.record event) stack (.ok ()) stack := by
  intro events sound
  refine ⟨events ++ [event], rfl, fun other member => ?_⟩
  rcases List.mem_append.mp member with earlier | alone
  · exact sound other earlier
  · exact List.mem_singleton.mp alone ▸ isSound

/-- One walk after another. -/
theorem Runs.bind {value : α} {outcome : Except IncludeError β}
    (first : sources.Runs walk stack (.ok value) middle)
    (second : sources.Runs (next value) middle outcome after) :
    sources.Runs (walk >>= next) stack outcome after := by
  intro events sound
  obtain ⟨between, ran, soundBetween⟩ := first events sound
  obtain ⟨later, ranNext, soundLater⟩ := second between soundBetween
  refine ⟨later, ?_, soundLater⟩
  rw [ExceptT.run_bind, StateT.run_bind, ran]
  exact ranNext

/-- What comes after an error is not walked. -/
theorem Runs.bind_error {error : IncludeError}
    (failed : sources.Runs walk stack (.error error) after) :
    sources.Runs (walk >>= next) stack (.error error) after := by
  intro events sound
  obtain ⟨later, ran, soundLater⟩ := failed events sound
  refine ⟨later, ?_, soundLater⟩
  rw [ExceptT.run_bind, StateT.run_bind, ran]
  rfl

/-- A walk that leaves the stack as it was, whatever its outcome. -/
theorem Runs.restores {outcome : Except IncludeError α}
    (ran : sources.Runs walk stack outcome stack) : sources.Restores walk stack outcome :=
  ⟨stack, ran, fun _ _ => rfl⟩

/-- One walk after another that gives a value and leaves the stack as it was. -/
theorem Runs.bind_restores {value : α} {outcome : Except IncludeError β}
    (first : sources.Runs walk stack (.ok value) stack)
    (second : sources.Restores (next value) stack outcome) :
    sources.Restores (walk >>= next) stack outcome := by
  obtain ⟨after, ran, restored⟩ := second
  exact ⟨after, first.bind ran, restored⟩

/-- One walk after another, each of which leaves the stack as it was. -/
theorem Restores.bind {outcome : Except IncludeError α} {outcomes : α → Except IncludeError β}
    (first : sources.Restores walk stack outcome)
    (second : ∀ value, outcome = .ok value →
      sources.Restores (next value) stack (outcomes value)) :
    sources.Restores (walk >>= next) stack (outcome >>= outcomes) := by
  obtain ⟨middle, ran, restored⟩ := first
  cases outcome with
  | error error => exact ⟨middle, ran.bind_error, fun value isOk => by cases isOk⟩
  | ok value =>
    obtain rfl : middle = stack := restored value rfl
    exact ran.bind_restores (second value rfl)

end Steps

section Expansion

variable {tree : FileTree} {sources : NamedSources} {inflating : List String}
  {current : Option String} {name : String}

/-- Opening a name gives a text if the name has one and is not on the stack. -/
theorem opened_eq_ok_iff {stack : List String} {content : String} :
    sources.opened tree stack name = .ok content ↔
      name ∉ stack ∧ sources.Holds tree name content := by
  unfold opened Holds
  cases sources.get? name with
  | none => simp
  | some file =>
    by_cases active : name ∈ stack
    · simp [active]
    · cases read : tree.readText file <;> simp [active, read]

/-- A name is put in place by opening it and expanding its text. The order of the stack plays no part. -/
theorem inflate_eq_bind (tree : FileTree) (sources : NamedSources) (inflating : List String)
    (name : String) :
    sources.inflate tree inflating name =
      sources.opened tree inflating.reverse name >>= sources.expandBelow tree (name :: inflating) := by
  unfold inflate opened
  simp only [List.mem_reverse]
  cases sources.get? name with
  | none => rfl
  | some file =>
    dsimp only
    split
    · rfl
    · cases tree.readText file <;> rfl

/-- **A name**: if its text is expanded with it on the stack, it is put in place and taken off again. -/
theorem restores_walkName {below : Option String → String → Walk String}
    (texts : ∀ content, sources.Holds tree name content → name ∉ inflating →
      sources.Restores (below (some name) content) (name :: inflating).reverse
        (sources.expandBelow tree (name :: inflating) content)) :
    sources.Restores (sources.walkName tree below name) inflating.reverse
      (sources.inflate tree inflating name) := by
  rw [walkName, inflate_eq_bind]
  refine runs_stack.bind_restores (Restores.bind (runs_ofExcept _).restores fun content isOpened => ?_)
  obtain ⟨fresh, holds⟩ := opened_eq_ok_iff.mp isOpened
  rw [List.mem_reverse] at fresh
  obtain ⟨after, ran, restored⟩ := texts content holds fresh
  rw [List.reverse_cons] at ran restored
  cases expanded : sources.expandBelow tree (name :: inflating) content with
  | error error =>
    rw [expanded] at ran
    exact ⟨after, (runs_push name).bind ran.bind_error, fun value isOk => by cases isOk⟩
  | ok inlined =>
    rw [expanded] at ran restored
    obtain rfl := restored inlined rfl
    have popped : sources.Runs Walk.pop (inflating.reverse ++ [name]) (.ok ())
        inflating.reverse := by
      have dropped : sources.Runs Walk.pop (inflating.reverse ++ [name]) (.ok ())
          (inflating.reverse ++ [name]).dropLast := runs_pop
      rwa [List.dropLast_concat] at dropped
    have taken : sources.Runs (Walk.record (.inlined inflating.reverse inflating.reverse))
        inflating.reverse (.ok ()) inflating.reverse := runs_record rfl
    exact ((runs_push name).bind (ran.bind (popped.bind (runs_stack.bind
      (taken.bind (runs_pure inlined)))))).restores

/-- **Lines**: if every name is put in place and taken off again, the stack is left as it was. -/
theorem restores_walkLines {inline : String → Walk String} (lines : List String)
    (names : ∀ name, sources.Restores (inline name) inflating.reverse
      (sources.inflate tree inflating name)) :
    sources.Restores (walkLines inline current lines) inflating.reverse
      (expandLines (sources.inflate tree inflating) current lines) := by
  induction lines with
  | nil => exact (runs_pure []).restores
  | cons line rest inductionStep =>
    rw [walkLines, expandLines]
    cases Directive.ofLine? line with
    | none => exact inductionStep.bind fun later _ => (runs_pure (line :: later)).restores
    | some directive =>
      cases directive with
      | extensionRequest => exact inductionStep
      | inclusion requested =>
        exact (names (Include.resolveName requested current)).bind fun inlined _ =>
          inductionStep.bind fun later _ => (runs_pure (inlined :: later)).restores

/-- **A text**: the walk ends with the result of the expansion if its limit is above the number of
registered names that are not on the stack. Every name that is put there leaves one of them less, and
the limit below it is one less too. -/
theorem restores_walkText {limit : Nat} (inflating : List String) (text : String)
    (nesting : sources.IsNesting inflating.head? inflating.reverse)
    (room : sources.size < inflating.length + limit) :
    sources.Restores (sources.walkText tree limit inflating.head? text) inflating.reverse
      (sources.expandBelow tree inflating text) := by
  induction limit generalizing inflating text with
  | zero =>
    have full := nesting.length_le
    rw [List.length_reverse] at full
    omega
  | succ limit inductionStep =>
    have names : ∀ name, sources.Restores
        (sources.walkName tree (sources.walkText tree limit) name) inflating.reverse
        (sources.inflate tree inflating name) := by
      intro name
      refine restores_walkName fun content holds fresh => ?_
      obtain ⟨file, registered, _⟩ := holds
      have pushed : sources.IsNesting (name :: inflating).head? (name :: inflating).reverse := by
        rw [List.reverse_cons]
        exact nesting.push (by rw [registered]; rfl) (by rwa [List.mem_reverse])
      exact inductionStep _ content pushed (by rw [List.length_cons]; omega)
    have begun : sources.Runs (Walk.record (.begun inflating.head? inflating.reverse))
        inflating.reverse (.ok ()) inflating.reverse := runs_record nesting
    have ended : sources.Runs (Walk.record (.ended inflating.reverse inflating.reverse))
        inflating.reverse (.ok ()) inflating.reverse := runs_record rfl
    rw [walkText, expandBelow_eq]
    refine runs_stack.bind_restores (begun.bind_restores ?_)
    exact (restores_walkLines (splitLines text) names).bind fun lines _ =>
      runs_stack.bind_restores (ended.bind_restores (runs_pure (joinLines lines)).restores)

end Expansion

/-- **The expansion of a text ends**, whatever the files include. Walked with one stack, it gives the
text or the error of `expand` under every limit above the number of registered names, and nothing else
under any limit. Whenever a text begins to be expanded, the names on the stack are registered, no two
of them are the same, the one that holds the text is the last one, and no more of them are there than
are registered; and what has been expanded leaves the stack as it was, within the text of a name and
after the name has been taken off. -/
theorem walk_ends (tree : FileTree) (sources : NamedSources) (text : String) :
    ∃ final : WalkState,
      (∀ limit, sources.size < limit →
        (sources.walkText tree limit none text).run.run ⟨[], []⟩ =
          some (sources.expand tree text, final)) ∧
      (∀ limit result, (sources.walkText tree limit none text).run.run ⟨[], []⟩ = some result →
        result = (sources.expand tree text, final)) ∧
      (∀ expanded, sources.expand tree text = .ok expanded → final.stack = []) ∧
      (∀ current stack, .begun current stack ∈ final.events →
        stack.Nodup ∧ (∀ name ∈ stack, (sources.get? name).isSome) ∧
          stack.getLast? = current ∧ stack.length ≤ sources.size) ∧
      (∀ before after, .ended before after ∈ final.events → after = before) ∧
      (∀ before after, .inlined before after ∈ final.events → after = before) := by
  have room : sources.size < ([] : List String).length + (sources.size + 1) := by
    rw [List.length_nil]
    omega
  have whole : sources.Restores (sources.walkText tree (sources.size + 1) none text) []
      (sources.expand tree text) := restores_walkText [] text (IsNesting.nil sources) room
  obtain ⟨after, ran, restored⟩ := whole
  obtain ⟨events, ended, sound⟩ := ran [] fun _ member => absurd member List.not_mem_nil
  have above : ∀ limit, sources.size < limit →
      (sources.walkText tree limit none text).run.run ⟨[], []⟩ =
        some (sources.expand tree text, ⟨after, events⟩) :=
    fun limit isAbove => walkText_extends isAbove none text _ _ ended
  refine ⟨⟨after, events⟩, above, fun limit result other => ?_, restored,
    fun current stack member => ?_, fun before after member => sound _ member,
    fun before after member => sound _ member⟩
  · have common := walkText_extends (Nat.le_max_left limit (sources.size + 1)) none text _ _ other
    rw [above (max limit (sources.size + 1)) (by omega)] at common
    exact (Option.some.inj common).symm
  · have nesting : sources.IsNesting current stack := sound _ member
    exact ⟨nesting.nodup, nesting.registered, nesting.last, nesting.length_le⟩

/-- A name that has been put in place is off the stack again. One that includes itself is not put on it
a second time, and is still there when the walk is given up. -/
example :
    let tree := FileTree.empty []
      |>.write (.ofText "a.glsl") "#include \"b.glsl\"\n#include \"a.glsl\"".toUTF8
      |>.write (.ofText "b.glsl") "float b;".toUTF8
    let sources : NamedSources :=
      Table.empty.insertMany [("/a.glsl", .ofText "a.glsl"), ("/b.glsl", .ofText "b.glsl")]
    (sources.walkText tree 3 none "#include </a.glsl>").run.run ⟨[], []⟩ =
      some (.error (.recursion "/a.glsl"), ⟨["/a.glsl"],
        [.begun none [], .begun (some "/a.glsl") ["/a.glsl"],
          .begun (some "/b.glsl") ["/a.glsl", "/b.glsl"],
          .ended ["/a.glsl", "/b.glsl"] ["/a.glsl", "/b.glsl"],
          .inlined ["/a.glsl"] ["/a.glsl"]]⟩) := by
  decide +kernel

end NamedSources

end ShaderCheck
