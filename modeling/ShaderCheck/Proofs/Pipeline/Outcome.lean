/-
**What ends a run.**

A run can end with an error for seven reasons, which are looked for in a fixed order. Neither what
the device compiles or links nor what the shaders of a program look like is among them: programs that
fail are listed in the report of a run that goes on.

* `Fault`, `Fault.order`: the reasons, and their order;
* `Fault.error?`: the error that a reason ends the run with, if it holds;
* `Builder.fault?_buildPrograms`: building goes on until a program is described wrongly;
* `Pipeline.fault?_run`: a run ends with the error of the first reason that holds;
* `SameButShaders`: program descriptions with other shaders;
* `Pipeline.run_outcome`: all of it in one place.
-/

import Mathlib.Data.List.Forall2
import Mathlib.Data.Option.Defs
import ShaderCheck.Pipeline

namespace ShaderCheck

/-- The error of an outcome, if it is one. -/
def fault? {α : Type} : Except ConfigError α → Option ConfigError
  | .error error => some error
  | .ok _ => none

theorem fault?_eq_some_iff {α : Type} {outcome : Except ConfigError α} {error : ConfigError} :
    fault? outcome = some error ↔ outcome = .error error := by
  cases outcome <;> simp [fault?]

theorem fault?_eq_none_iff {α : Type} {outcome : Except ConfigError α} :
    fault? outcome = none ↔ ∃ value, outcome = .ok value := by
  cases outcome <;> simp [fault?]

/-! ### The reasons -/

/-- What can end a run with an error. -/
inductive Fault
  /-- There is no `opengl` section. -/
  | sectionMissing
  /-- The `opengl` section describes no context. -/
  | contextRejected
  /-- There is no device for the context. -/
  | creationFailed
  /-- The device cannot be readied. -/
  | activationFailed
  /-- A folder of named strings is described wrongly, or holds no wanted file. -/
  | namedStringsRejected
  /-- There is no `programs` section. -/
  | programsMissing
  /-- A program is described wrongly. -/
  | programRejected
deriving DecidableEq, Repr

namespace Fault

/-- The reasons in the order in which they are looked for. -/
def order : List Fault :=
  [sectionMissing, contextRejected, creationFailed, activationFailed, namedStringsRejected,
    programsMissing, programRejected]

/-- Every reason has its place in the order. -/
theorem mem_order (fault : Fault) : fault ∈ order := by
  cases fault <;> decide

/-- The context that the `opengl` section describes, if there is one and it does. -/
def context? (config : Json) : Option ContextConfig :=
  match config.field? "opengl" with
  | some (.object members) => (ContextConfig.ofJson (.object members)).toOption
  | _ => none

variable {State : Type}

/-- What asking for the device of the configuration gives, if it comes to that. -/
def created? (create : ContextConfig → Creation State) (config : Json) :
    Option (Except ErrorChain State) :=
  (context? config).map fun context => (create context).result

/-- The error that a reason ends the run with, if the reason holds. -/
def error? (pipeline : Pipeline) (tree : FileTree) (activate : State → Bool × State)
    (create : ContextConfig → Creation State) (config : Json) : Fault → Option ConfigError
  | sectionMissing =>
    match config.field? "opengl" with
    | some (.object _) => none
    | _ => some (.propertyNotFoundOrNotAnObject "opengl")
  | contextRejected =>
    match config.field? "opengl" with
    | some (.object members) => fault? (ContextConfig.ofJson (.object members))
    | _ => none
  | creationFailed =>
    match created? create config with
    | some (.error chain) =>
      some (.contextCreationFailed (": ".intercalate (chain.outermost :: chain.causes)))
    | _ => none
  | activationFailed =>
    match created? create config with
    | some (.ok state) => if (activate state).1 then none else some .contextActivationFailed
    | _ => none
  | namedStringsRejected =>
    match config.field? "namedStringPaths" with
    | some (.array values) =>
      fault? (registerFolders tree pipeline.base pipeline.sources values).result
    | _ => none
  | programsMissing =>
    match (config.field? "programs").bind Json.asArray? with
    | some _ => none
    | none => some (.arrayNotFoundOrEmpty "programs")
  | programRejected =>
    match (config.field? "programs").bind Json.asArray? with
    | some values => values.findSome? fun value => fault? (ProgramDescriptor.ofJson value)
    | none => none

/-- The error of the first reason that holds. -/
def first? (pipeline : Pipeline) (tree : FileTree) (activate : State → Bool × State)
    (create : ContextConfig → Creation State) (config : Json) : Option ConfigError :=
  order.findSome? (error? pipeline tree activate create config)

end Fault

/-! ### Building goes on -/

section Building

variable {State Stage : Type}

/-- **Building programs** ends with an error at the first value that describes no program. No call
of the device ends it. -/
theorem Builder.fault?_buildPrograms (builder : Builder State Stage) (values : List Json)
    (state : BuildState State) :
    fault? (builder.buildPrograms values state).1 =
      values.findSome? fun value => fault? (ProgramDescriptor.ofJson value) := by
  induction values generalizing state with
  | nil => rfl
  | cons value rest inductionStep =>
    rw [Builder.buildPrograms, List.findSome?_cons]
    cases ProgramDescriptor.ofJson value with
    | error error => rfl
    | ok program => exact inductionStep (builder.buildProgram program state).2

namespace Pipeline

variable (pipeline : Pipeline) (tree : FileTree) (device : Device State Stage)
  (create : ContextConfig → Creation State) (config : Json)

/-- Anything but an array in place of the folders of named strings is no error. -/
theorem fault?_registerSection :
    fault? (pipeline.registerSection tree config).result =
      Fault.error? pipeline tree device.activate create config .namedStringsRejected := by
  unfold registerSection Fault.error?
  split <;> simp_all [fault?]

/-- Building the section of programs ends as its two reasons say. -/
theorem fault?_buildSection (builder : Builder State Stage) (built : BuildState State) :
    fault? (buildSection builder config built).1 =
      [.programsMissing, .programRejected].findSome?
        (Fault.error? pipeline tree device.activate create config) := by
  unfold buildSection
  rw [List.findSome?_cons, List.findSome?_singleton, Fault.error?, Fault.error?]
  cases (config.field? "programs").bind Json.asArray? with
  | none => rfl
  | some programs => exact builder.fault?_buildPrograms programs built

/-- On an activated device the three last reasons are left. -/
theorem fault?_runActive (state : State) :
    fault? (pipeline.runActive tree device config state).1 =
      [.namedStringsRejected, .programsMissing, .programRejected].findSome?
        (Fault.error? pipeline tree device.activate create config) := by
  rw [List.findSome?_cons, ← pipeline.fault?_registerSection tree device create config]
  unfold runActive
  obtain ⟨result, sources, log⟩ := pipeline.registerSection tree config
  cases result with
  | error error => rfl
  | ok names =>
    dsimp only [fault?]
    rw [← pipeline.fault?_buildSection tree device create config ⟨device, sources, pipeline.base⟩
      ⟨state, .start (device.driverInfo state), driverLog (device.driverInfo state) ++ log⟩]
    cases buildSection _ config _ with
    | mk outcome final => cases outcome <;> rfl

/-- **A run ends** with the error of the first reason that holds, and with a report if none does. -/
theorem fault?_run :
    fault? (pipeline.run tree device create config).result =
      Fault.first? pipeline tree device.activate create config := by
  have active := pipeline.fault?_runActive tree device create config
  have split : Fault.order =
      [.sectionMissing, .contextRejected, .creationFailed, .activationFailed] ++
        [.namedStringsRejected, .programsMissing, .programRejected] := rfl
  rw [Fault.first?, split, List.findSome?_append]
  generalize [Fault.namedStringsRejected, .programsMissing, .programRejected].findSome?
    (Fault.error? pipeline tree device.activate create config) = late at active ⊢
  simp only [List.findSome?_cons, List.findSome?_nil, Fault.error?, Fault.created?,
    Fault.context?, run, contextOf]
  cases config.field? "opengl" with
  | none => rfl
  | some contextSection =>
    cases contextSection with
    | object members =>
      dsimp only
      cases ContextConfig.ofJson (.object members) with
      | error error => rfl
      | ok context =>
        dsimp only [Except.toOption, Option.map, fault?]
        cases (create context).result with
        | error chain => rfl
        | ok created =>
          dsimp only
          obtain ⟨ready, state⟩ := device.activate created
          cases ready with
          | false => rfl
          | true => exact active state
    | _ => rfl

end Pipeline

end Building

/-! ### Shaders do not matter -/

/-- Two descriptions of a program are the same but for the descriptions of its shaders: they are
objects or not, have the same name, and have shaders or not. -/
structure SameButShaders (value other : Json) : Prop where
  object : value.asObject?.isSome = other.asObject?.isSome
  name : value.field? "name" = other.field? "name"
  shaders : fault? (value.nonemptyArray "shaders") = fault? (other.nonemptyArray "shaders")

/-- Two configurations are the same but for the descriptions of shaders. -/
structure SameButAnyShaders (config other : Json) : Prop where
  sections : ∀ key, key ≠ "programs" → config.field? key = other.field? key
  programs : Option.Rel (List.Forall₂ SameButShaders)
    ((config.field? "programs").bind Json.asArray?) ((other.field? "programs").bind Json.asArray?)

/-- Whether a value describes a program, and what is wrong with it if not, is not up to the
descriptions of its shaders. -/
theorem fault?_ofJson_of_sameButShaders {value other : Json} (same : SameButShaders value other) :
    fault? (ProgramDescriptor.ofJson value) = fault? (ProgramDescriptor.ofJson other) := by
  obtain ⟨object, name, shaders⟩ := same
  have requirement : value.requireObject "programs" = other.requireObject "programs" := by
    unfold Json.requireObject
    cases first : value.asObject? <;> cases second : other.asObject? <;>
      simp_all
  have text : value.requiredText "name" = other.requiredText "name" := by
    rw [Json.requiredText, Json.requiredText, name]
  unfold ProgramDescriptor.ofJson
  rw [requirement, text]
  cases other.requireObject "programs" with
  | error error => rfl
  | ok isObject =>
    cases other.requiredText "name" with
    | error error => rfl
    | ok name =>
      cases first : value.nonemptyArray "shaders" <;>
        cases second : other.nonemptyArray "shaders" <;>
          simp_all [fault?, bind, Except.bind, pure, Except.pure]

/-- The first program that is described wrongly, and how, is not up to the descriptions of
shaders. -/
theorem findSome?_ofJson_of_sameButShaders {programs others : List Json}
    (same : List.Forall₂ SameButShaders programs others) :
    (programs.findSome? fun value => fault? (ProgramDescriptor.ofJson value)) =
      others.findSome? fun value => fault? (ProgramDescriptor.ofJson value) := by
  induction same with
  | nil => rfl
  | cons first rest inductionStep =>
    rw [List.findSome?_cons, List.findSome?_cons, fault?_ofJson_of_sameButShaders first,
      inductionStep]

namespace Pipeline

variable {State Stage : Type} (pipeline : Pipeline) (tree : FileTree)
  (create : ContextConfig → Creation State)

/-- No reason is up to the descriptions of shaders. -/
theorem error?_of_sameButAnyShaders {config other : Json} (same : SameButAnyShaders config other)
    (activate : State → Bool × State) (fault : Fault) :
    Fault.error? pipeline tree activate create config fault =
      Fault.error? pipeline tree activate create other fault := by
  have context : config.field? "opengl" = other.field? "opengl" :=
    same.sections "opengl" (by decide)
  have created : Fault.created? create config = Fault.created? create other := by
    rw [Fault.created?, Fault.created?, Fault.context?, Fault.context?, context]
  have folders : config.field? "namedStringPaths" = other.field? "namedStringPaths" :=
    same.sections "namedStringPaths" (by decide)
  have programs := same.programs
  cases fault with
  | sectionMissing => rw [Fault.error?, Fault.error?, context]
  | contextRejected => rw [Fault.error?, Fault.error?, context]
  | creationFailed => rw [Fault.error?, Fault.error?, created]
  | activationFailed => rw [Fault.error?, Fault.error?, created]
  | namedStringsRejected => rw [Fault.error?, Fault.error?, folders]
  | programsMissing =>
    rw [Fault.error?, Fault.error?]
    generalize (config.field? "programs").bind Json.asArray? = first at programs ⊢
    generalize (other.field? "programs").bind Json.asArray? = second at programs ⊢
    cases programs <;> rfl
  | programRejected =>
    rw [Fault.error?, Fault.error?]
    generalize (config.field? "programs").bind Json.asArray? = first at programs ⊢
    generalize (other.field? "programs").bind Json.asArray? = second at programs ⊢
    cases programs with
    | some programs => exact findSome?_ofJson_of_sameButShaders programs
    | none => rfl

/-- **The outcome of a run**: an error exactly if one of the reasons holds, and then the error of
the first one that does. A device that compiles and links differently, or a configuration with other
shaders, makes no difference to it. -/
theorem run_outcome (device : Device State Stage) (config : Json) :
    (∀ error, (pipeline.run tree device create config).result = .error error ↔
      Fault.first? pipeline tree device.activate create config = some error) ∧
    ((∃ report, (pipeline.run tree device create config).result = .ok report) ↔
      ∀ fault, Fault.error? pipeline tree device.activate create config fault = none) ∧
    (∀ {OtherStage : Type} (other : Device State OtherStage) (variant : Json),
      other.activate = device.activate → SameButAnyShaders config variant →
        ∀ error, (pipeline.run tree other create variant).result = .error error ↔
          (pipeline.run tree device create config).result = .error error) := by
  refine ⟨fun error => ?_, ?_, fun other variant activate same error => ?_⟩
  · rw [← fault?_eq_some_iff, fault?_run]
  · rw [← fault?_eq_none_iff, fault?_run, Fault.first?, List.findSome?_eq_none_iff]
    exact ⟨fun free fault => free fault fault.mem_order, fun free fault _ => free fault⟩
  · have unchanged : Fault.first? pipeline tree other.activate create variant =
        Fault.first? pipeline tree device.activate create config := by
      rw [activate, Fault.first?, Fault.first?]
      refine congrArg (List.findSome? · Fault.order) (funext fun fault => ?_)
      exact (error?_of_sameButAnyShaders pipeline tree create same device.activate fault).symm
    rw [← fault?_eq_some_iff, ← fault?_eq_some_iff, fault?_run, fault?_run, unchanged]

end Pipeline

end ShaderCheck
