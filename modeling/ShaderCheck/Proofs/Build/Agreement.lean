/-
**Builders that go the same way.**

Building reads its state only where it calls the device, and changes it only by calls, by records in
the log and by entries in the lists of failures. So two builders whose states are related go the same
way, if calls of related devices give the same and all these changes leave the states related: they
build the same stages and end in related states. They may even be given different descriptions, as long
as these are read as the same shaders, announced by records that leave the states related. What the
calls of one device keep true of it, building keeps true as well.

If a device gives the same for the same arguments, in whatever state it is, then what building a list of
programs appends and calls is up to the programs alone: what was there before stays in front and changes
nothing. So the contribution of a list is put together from those of its parts.

* `Builder.Agreement`: what a relation has to satisfy;
* `Builder.AgreeOnShader`, `Builder.AgreeOnProgram`: descriptions that make no difference;
* `Builder.Agreement.buildStage`, `…buildStages`, `…buildProgram`, `…buildPrograms`: builders that agree
  give the same and end in related states;
* `Builder.agreement_of_invariant`: what calls keep true of a device, as a relation of this kind;
* `Device.Repeatable`, `Contribution`: results that are up to the arguments; failures and calls;
* `Builder.agreement_behind`: what stands in front stays in front and changes nothing;
* `Builder.contribution?_append`: the contribution of two lists of programs, one after the other.
-/

import Mathlib.Data.List.Forall2
import ShaderCheck.Build
import ShaderCheck.Device

namespace ShaderCheck

/-- Two readings give the same error, or things that are related. -/
inductive SameReading {α β : Type} (Same : α → β → Prop) :
    Except ConfigError α → Except ConfigError β → Prop
  | error (error : ConfigError) : SameReading Same (.error error) (.error error)
  | ok {thing : α} {other : β} (same : Same thing other) : SameReading Same (.ok thing) (.ok other)

theorem SameReading.refl {α : Type} {Same : α → α → Prop} (same : ∀ thing, Same thing thing)
    (reading : Except ConfigError α) : SameReading Same reading reading := by
  cases reading with
  | error error => exact .error error
  | ok thing => exact .ok (same thing)

theorem SameReading.imp {α β : Type} {Same Similar : α → β → Prop} {reading : Except ConfigError α}
    {otherReading : Except ConfigError β}
    (weaker : ∀ {thing other}, Same thing other → Similar thing other)
    (same : SameReading Same reading otherReading) : SameReading Similar reading otherReading := by
  cases same with
  | error error => exact .error error
  | ok same => exact .ok (weaker same)

namespace Builder

variable {State Other Stage : Type}

/-- Two builders agree, as far as a relation between their states says: they look for files in the
same folder, their devices give the same in related states, and states stay related. -/
structure Agreement (builder : Builder State Stage) (other : Builder Other Stage)
    (Related : BuildState State → BuildState Other → Prop) : Prop where
  base : builder.base = other.base
  log : ∀ {state otherState} entry, Related state otherState →
    Related { state with log := state.log ++ [entry] }
      { otherState with log := otherState.log ++ [entry] }
  failCompile : ∀ {state otherState} file, Related state otherState →
    Related (state.failCompile file) (otherState.failCompile file)
  failProgram : ∀ {state otherState} name reason, Related state otherState →
    Related (state.failProgram name reason) (otherState.failProgram name reason)
  compile : ∀ {state otherState} stageType source, Related state otherState →
    (builder.device.compile stageType source builder.sources state.device).1 =
        (other.device.compile stageType source other.sources otherState.device).1 ∧
      Related
        { state with
          device := (builder.device.compile stageType source builder.sources state.device).2 }
        { otherState with
          device := (other.device.compile stageType source other.sources otherState.device).2 }
  link : ∀ {state otherState} stages, Related state otherState →
    (builder.device.link stages state.device).1 =
        (other.device.link stages otherState.device).1 ∧
      Related { state with device := (builder.device.link stages state.device).2 }
        { otherState with device := (other.device.link stages otherState.device).2 }

/-- Two steps of building give the same and end in related states. -/
def SameOutcome {α : Type} (Related : BuildState State → BuildState Other → Prop)
    (outcome : α × BuildState State) (otherOutcome : α × BuildState Other) : Prop :=
  outcome.1 = otherOutcome.1 ∧ Related outcome.2 otherOutcome.2

/-! ### Descriptions that make no difference -/

/-- Shaders that make no difference: they are announced by records that keep states related, and are
the same otherwise. -/
structure SameShader (Related : BuildState State → BuildState Other → Prop)
    (shader otherShader : ShaderDescriptor) : Prop where
  file : shader.file = otherShader.file
  stageType : shader.stageType = otherShader.stageType
  replacements : shader.replacements = otherShader.replacements
  announced : ∀ {state otherState}, Related state otherState →
    Related { state with log := state.log ++ [shader.announcement] }
      { otherState with log := otherState.log ++ [otherShader.announcement] }

/-- The values describe shaders that make no difference, or are wrong in the same way. -/
def AgreeOnShader (builder : Builder State Stage) (other : Builder Other Stage)
    (Related : BuildState State → BuildState Other → Prop) (value otherValue : Json) : Prop :=
  SameReading (SameShader Related) (ShaderDescriptor.ofJson value builder.base)
    (ShaderDescriptor.ofJson otherValue other.base)

/-- Programs of one name, whose shaders make no difference. -/
structure SameProgram (builder : Builder State Stage) (other : Builder Other Stage)
    (Related : BuildState State → BuildState Other → Prop)
    (program otherProgram : ProgramDescriptor) : Prop where
  name : program.name = otherProgram.name
  shaders : List.Forall₂ (AgreeOnShader builder other Related) program.shaders otherProgram.shaders

/-- The values describe programs that make no difference, or are wrong in the same way. -/
def AgreeOnProgram (builder : Builder State Stage) (other : Builder Other Stage)
    (Related : BuildState State → BuildState Other → Prop) (value otherValue : Json) : Prop :=
  SameReading (SameProgram builder other Related) (ProgramDescriptor.ofJson value)
    (ProgramDescriptor.ofJson otherValue)

theorem SameShader.source {Related : BuildState State → BuildState Other → Prop}
    {shader otherShader : ShaderDescriptor} (same : SameShader Related shader otherShader) :
    shader.source = otherShader.source := by
  rw [ShaderDescriptor.source, ShaderDescriptor.source, same.file, same.replacements]

namespace Agreement

variable {builder : Builder State Stage} {other : Builder Other Stage}
  {Related : BuildState State → BuildState Other → Prop} {state : BuildState State}
  {otherState : BuildState Other}

/-- One shader. -/
theorem buildStage (agree : Agreement builder other Related) {value otherValue : Json}
    (read : AgreeOnShader builder other Related value otherValue)
    (related : Related state otherState) :
    SameOutcome Related (builder.buildStage value state)
      (other.buildStage otherValue otherState) := by
  unfold Builder.buildStage
  unfold AgreeOnShader at read
  generalize ShaderDescriptor.ofJson value builder.base = reading at read ⊢
  generalize ShaderDescriptor.ofJson otherValue other.base = otherReading at read ⊢
  cases read with
  | error error => exact ⟨rfl, related⟩
  | ok same =>
    dsimp only
    have announced := same.announced related
    rw [same.stageType, same.source, same.file]
    rename_i shader otherShader
    have compiled := agree.compile otherShader.stageType otherShader.source announced
    generalize builder.device.compile _ _ _ _ = outcome at compiled ⊢
    generalize other.device.compile _ _ _ _ = otherOutcome at compiled ⊢
    obtain ⟨result, device⟩ := outcome
    obtain ⟨otherResult, otherDevice⟩ := otherOutcome
    obtain ⟨rfl, after⟩ := compiled
    cases result with
    | ok stage => exact ⟨rfl, after⟩
    | error error => exact ⟨rfl, agree.failCompile otherShader.file after⟩

/-- The shaders of a program, by induction on them. -/
theorem buildStages (agree : Agreement builder other Related) {values otherValues : List Json}
    (read : List.Forall₂ (AgreeOnShader builder other Related) values otherValues)
    (related : Related state otherState) :
    SameOutcome Related (builder.buildStages values state)
      (other.buildStages otherValues otherState) := by
  induction read generalizing state otherState with
  | nil => exact ⟨rfl, related⟩
  | cons readFirst _ inductionStep =>
    rename_i value otherValue rest otherRest _
    unfold Builder.buildStages
    have first := agree.buildStage readFirst related
    generalize builder.buildStage value state = outcome at first ⊢
    generalize other.buildStage otherValue otherState = otherOutcome at first ⊢
    obtain ⟨result, between⟩ := outcome
    obtain ⟨otherResult, otherBetween⟩ := otherOutcome
    obtain ⟨rfl, after⟩ := first
    cases result with
    | error error => exact ⟨rfl, after⟩
    | ok stage =>
      dsimp only at after ⊢
      have later := inductionStep after
      generalize builder.buildStages rest between = outcome at later ⊢
      generalize other.buildStages otherRest otherBetween = otherOutcome at later ⊢
      obtain ⟨result, final⟩ := outcome
      obtain ⟨otherResult, otherFinal⟩ := otherOutcome
      obtain ⟨rfl, afterAll⟩ := later
      cases result with
      | error error => exact ⟨rfl, afterAll⟩
      | ok stages => exact ⟨rfl, afterAll⟩

/-- One program. -/
theorem buildProgram (agree : Agreement builder other Related)
    {program otherProgram : ProgramDescriptor}
    (same : SameProgram builder other Related program otherProgram)
    (related : Related state otherState) :
    SameOutcome Related (builder.buildProgram program state)
      (other.buildProgram otherProgram otherState) := by
  obtain ⟨name, shaders⟩ := program
  obtain ⟨_, otherShaders⟩ := otherProgram
  obtain ⟨rfl, read⟩ := same
  unfold Builder.buildProgram
  dsimp only at read ⊢
  have built := agree.buildStages read (agree.log ⟨.info, s!"Process {name}"⟩ related)
  change SameOutcome Related (builder.buildStages shaders (state.record _ _))
    (other.buildStages otherShaders (otherState.record _ _)) at built
  generalize builder.buildStages shaders (state.record _ _) = outcome at built ⊢
  generalize other.buildStages otherShaders (otherState.record _ _) = otherOutcome at built ⊢
  obtain ⟨result, between⟩ := outcome
  obtain ⟨otherResult, otherBetween⟩ := otherOutcome
  obtain ⟨rfl, after⟩ := built
  cases result with
  | error error => exact ⟨rfl, agree.failProgram name error.message after⟩
  | ok stages =>
    dsimp only at after ⊢
    have announced := agree.log ⟨.info, s!"Link {name}"⟩ after
    have linked := agree.link stages announced
    dsimp only [BuildState.record]
    generalize builder.device.link stages between.device = outcome at linked ⊢
    generalize other.device.link stages otherBetween.device = otherOutcome at linked ⊢
    obtain ⟨result, device⟩ := outcome
    obtain ⟨otherResult, otherDevice⟩ := otherOutcome
    obtain ⟨rfl, afterLink⟩ := linked
    cases result with
    | ok linked => exact ⟨rfl, afterLink⟩
    | error error => exact ⟨rfl, agree.failProgram name error.text afterLink⟩

/-- **A list of programs**, by induction on it. -/
theorem buildPrograms (agree : Agreement builder other Related) {values otherValues : List Json}
    (read : List.Forall₂ (AgreeOnProgram builder other Related) values otherValues)
    (related : Related state otherState) :
    SameOutcome Related (builder.buildPrograms values state)
      (other.buildPrograms otherValues otherState) := by
  induction read generalizing state otherState with
  | nil => exact ⟨rfl, related⟩
  | cons readFirst _ inductionStep =>
    rename_i value otherValue rest otherRest _
    unfold Builder.buildPrograms
    unfold AgreeOnProgram at readFirst
    generalize ProgramDescriptor.ofJson value = reading at readFirst ⊢
    generalize ProgramDescriptor.ofJson otherValue = otherReading at readFirst ⊢
    cases readFirst with
    | error error => exact ⟨rfl, related⟩
    | ok same => exact inductionStep (agree.buildProgram same related).2

/-- A shader makes no difference to builders that agree. -/
theorem agreeOnShader (agree : Agreement builder other Related) (value : Json) :
    AgreeOnShader builder other Related value value := by
  unfold AgreeOnShader
  rw [agree.base]
  exact .refl (fun shader => ⟨rfl, rfl, rfl, agree.log shader.announcement⟩) _

/-- Nor do programs. -/
theorem agreeOnPrograms (agree : Agreement builder other Related) (values : List Json) :
    List.Forall₂ (AgreeOnProgram builder other Related) values values :=
  List.forall₂_same.mpr fun _ _ => .refl
    (fun _ => ⟨rfl, List.forall₂_same.mpr fun shader _ => agree.agreeOnShader shader⟩) _

end Agreement

/-- A builder agrees with itself on what every call keeps true of the device. -/
theorem agreement_of_invariant {builder : Builder State Stage} {Kept : State → Prop}
    (compile : ∀ stageType source state, Kept state →
      Kept (builder.device.compile stageType source builder.sources state).2)
    (link : ∀ stages state, Kept state → Kept (builder.device.link stages state).2) :
    Agreement builder builder fun state other => state = other ∧ Kept state.device where
  base := rfl
  log := by
    rintro state _ entry ⟨rfl, kept⟩
    exact ⟨rfl, kept⟩
  failCompile := by
    rintro state _ file ⟨rfl, kept⟩
    exact ⟨rfl, kept⟩
  failProgram := by
    rintro state _ name reason ⟨rfl, kept⟩
    exact ⟨rfl, kept⟩
  compile := by
    rintro state _ stageType source ⟨rfl, kept⟩
    exact ⟨rfl, rfl, compile stageType source state.device kept⟩
  link := by
    rintro state _ stages ⟨rfl, kept⟩
    exact ⟨rfl, rfl, link stages state.device kept⟩

end Builder

/-! ### What programs contribute -/

variable {State Stage : Type}

/-- What the device compiles and links gives the same for the same arguments, in whatever state the
device is. -/
structure Device.Repeatable (device : Device State Stage) : Prop where
  compile : ∀ stageType source sources state other,
    (device.compile stageType source sources state).1 =
      (device.compile stageType source sources other).1
  link : ∀ stages state other, (device.link stages state).1 = (device.link stages other).1

/-- Whether a call compiles or links. -/
def DeviceCall.isBuilding : DeviceCall Stage → Bool
  | .compile .. | .link .. => true
  | .activate _ | .deactivate => false

/-- Files that do not compile, programs that are not built, and the calls that compile and link. -/
structure Contribution (Stage : Type) where
  compileFailures : List Path
  linkFailures : List String
  calls : List (DeviceCall Stage)

namespace Contribution

/-- No failure and no call. -/
def nothing : Contribution Stage := ⟨[], [], []⟩

/-- One contribution after the other. -/
instance : Append (Contribution Stage) where
  append first second :=
    ⟨first.compileFailures ++ second.compileFailures, first.linkFailures ++ second.linkFailures,
      first.calls ++ second.calls⟩

/-- Contributions one after the other. -/
def all (parts : List (Contribution Stage)) : Contribution Stage :=
  ⟨parts.flatMap compileFailures, parts.flatMap linkFailures, parts.flatMap calls⟩

theorem append_eq (first second : Contribution Stage) :
    first ++ second =
      ⟨first.compileFailures ++ second.compileFailures, first.linkFailures ++ second.linkFailures,
        first.calls ++ second.calls⟩ := rfl

@[simp]
theorem append_nothing (part : Contribution Stage) : part ++ nothing = part := by
  simp [append_eq, nothing]

theorem append_assoc (first second third : Contribution Stage) :
    first ++ second ++ third = first ++ (second ++ third) := by
  simp [append_eq]

theorem all_cons (part : Contribution Stage) (parts : List (Contribution Stage)) :
    all (part :: parts) = part ++ all parts := by
  simp [append_eq, all]

end Contribution

/-- What is listed and called up to a state of building. -/
def BuildState.contribution (state : BuildState (TracedState State Stage)) : Contribution Stage :=
  ⟨state.report.compileFailures, state.report.linkFailures,
    state.device.calls.filter DeviceCall.isBuilding⟩

namespace Builder

/-- What building a list of programs leaves listed and called, unless one is described wrongly. -/
def contribution? (builder : Builder (TracedState State Stage) Stage) (values : List Json)
    (state : BuildState (TracedState State Stage)) : Option (Contribution Stage) :=
  (builder.buildPrograms values state).1.toOption.map fun _ =>
    (builder.buildPrograms values state).2.contribution

/-- **What stands in front** of all that is listed and called stays in front, and nothing goes
differently for it. -/
theorem agreement_behind {device : Device State Stage} (repeatable : device.Repeatable)
    (sources : NamedSources) (base : Path) (front : Contribution Stage) :
    Agreement ⟨device.traced, sources, base⟩ ⟨device.traced, sources, base⟩
      fun state other => other.contribution = front ++ state.contribution where
  base := rfl
  log entry behind := behind
  failCompile := by
    intro state other file behind
    obtain ⟨files, programs, calls⟩ := (Contribution.mk.injEq ..).mp behind
    simp [BuildState.contribution, BuildState.failCompile, Contribution.append_eq, files, programs,
      calls]
  failProgram := by
    intro state other name reason behind
    obtain ⟨files, programs, calls⟩ := (Contribution.mk.injEq ..).mp behind
    simp [BuildState.contribution, BuildState.failProgram, BuildState.record, Contribution.append_eq,
      files, programs, calls]
  compile := by
    intro state other stageType source behind
    obtain ⟨files, programs, calls⟩ := (Contribution.mk.injEq ..).mp behind
    have same := repeatable.compile stageType source sources state.device.state other.device.state
    refine ⟨same, ?_⟩
    simp [BuildState.contribution, Device.traced, TracedState.after, Contribution.append_eq, files,
      programs, calls, same]
  link := by
    intro state other stages behind
    obtain ⟨files, programs, calls⟩ := (Contribution.mk.injEq ..).mp behind
    have same := repeatable.link stages state.device.state other.device.state
    refine ⟨same, ?_⟩
    simp [BuildState.contribution, Device.traced, TracedState.after, Contribution.append_eq, files,
      programs, calls, same]

/-- Building two lists of programs is building the second one where the first one ends. -/
theorem buildPrograms_append {Other : Type} (builder : Builder Other Stage)
    (first second : List Json) (state : BuildState Other) :
    builder.buildPrograms (first ++ second) state =
      match builder.buildPrograms first state with
      | (.error error, between) => (.error error, between)
      | (.ok (), between) => builder.buildPrograms second between := by
  induction first generalizing state with
  | nil => rfl
  | cons value rest inductionStep =>
    rw [List.cons_append, buildPrograms, buildPrograms]
    cases ProgramDescriptor.ofJson value with
    | error error => rfl
    | ok program => exact inductionStep _

section Parts

variable {device : Device State Stage} {sources : NamedSources} {base : Path}
  {start : BuildState (TracedState State Stage)} {first second : List Json}

/-- **The contribution of two lists of programs** is that of the first one, followed by that of the
second one, each from a start at which nothing is listed or called. -/
theorem contribution?_append (repeatable : device.Repeatable)
    (blank : start.contribution = .nothing) :
    contribution? ⟨device.traced, sources, base⟩ (first ++ second) start = (do
      let before ← contribution? ⟨device.traced, sources, base⟩ first start
      let after ← contribution? ⟨device.traced, sources, base⟩ second start
      return before ++ after) := by
  unfold contribution?
  rw [buildPrograms_append]
  cases buildPrograms _ first start with
  | mk result between =>
    cases result with
    | error error => rfl
    | ok built =>
      have behind : between.contribution = between.contribution ++ start.contribution := by
        rw [blank, Contribution.append_nothing]
      have agree := agreement_behind repeatable sources base between.contribution
      have later := agree.buildPrograms (agree.agreeOnPrograms second) behind
      dsimp only at later ⊢
      rw [← later.1, later.2]
      cases (buildPrograms _ second start).1 <;> rfl

end Parts

/-- A program contributes if it is described rightly. -/
theorem isSome_contribution?_singleton (builder : Builder (TracedState State Stage) Stage)
    {value : Json} {program : ProgramDescriptor}
    (described : ProgramDescriptor.ofJson value = .ok program)
    (start : BuildState (TracedState State Stage)) :
    (builder.contribution? [value] start).isSome := by
  unfold contribution?
  rw [buildPrograms, described]
  rfl

end Builder

end ShaderCheck
