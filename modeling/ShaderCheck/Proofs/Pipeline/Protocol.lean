/-
**The device protocol of a run.**

The calls of a run are those that a traced device keeps, from the moment it is created. Keeping them
changes nothing else about the run: not its result, nor what it leaves behind.

A run makes no call of its device, or one activation that is refused, or an activation, calls that
compile and link, and one deactivation at the end. However it ends, nothing is compiled or linked
outside of this span, and everything is compiled with the named sources that the run leaves behind:
all folders are registered before the first program is built.

* `Pipeline.tracedRun`, `Pipeline.calls`: the run with its calls kept, and the calls alone;
* `Pipeline.tracedRun_cases`: the four ways a run goes;
* `Pipeline.tracedRun_untraced`: the run is the same without its calls;
* `DeviceCall.Builds`: a call that compiles with given named sources, or links;
* `FollowsProtocol`: the sequences of calls that a run makes;
* `Pipeline.run_protocol`: every run follows the protocol.
-/

import ShaderCheck.Device
import ShaderCheck.Pipeline
import ShaderCheck.Proofs.Build.Agreement

namespace ShaderCheck

variable {State Other Stage : Type}

/-- A created device with no call made yet. -/
def Creation.traced (creation : Creation State) : Creation (TracedState State Stage) where
  result := creation.result.map TracedState.start
  log := creation.log

theorem Creation.traced_error {creation : Creation State} {error : ErrorChain}
    (made : creation.result = .error error) :
    (creation.traced : Creation (TracedState State Stage)).result = .error error := by
  rw [traced, made]
  rfl

theorem Creation.traced_ok {creation : Creation State} {created : State}
    (made : creation.result = .ok created) :
    (creation.traced : Creation (TracedState State Stage)).result = .ok (.start created) := by
  rw [traced, made]
  rfl

/-- Activation is the first call of a created device. -/
theorem Device.traced_activate {device : Device State Stage} {created state : State} {ready : Bool}
    (activated : device.activate created = (ready, state)) :
    device.traced.activate (.start created) = (ready, ⟨state, [.activate ready]⟩) := by
  simp only [traced, TracedState.start, activated, TracedState.after, List.nil_append]

/-- The run with only part of the state of its device. -/
def Run.mapDevice (part : State → Other) (run : Run State) : Run Other :=
  { run with device := run.device.map part }

/-- The building state of a device without its calls. -/
def BuildState.untraced (state : BuildState (TracedState State Stage)) : BuildState State :=
  { state with device := state.device.state }

/-- A builder with a traced device agrees with the builder with the device itself. -/
theorem Builder.agreement_traced (device : Device State Stage) (sources : NamedSources)
    (base : Path) :
    Agreement ⟨device.traced, sources, base⟩ ⟨device, sources, base⟩
      fun state other => state.untraced = other where
  base := rfl
  log := by
    rintro state _ entry rfl
    rfl
  failCompile := by
    rintro state _ file rfl
    rfl
  failProgram := by
    rintro state _ name reason rfl
    rfl
  compile := by
    rintro state _ stageType source rfl
    exact ⟨rfl, rfl⟩
  link := by
    rintro state _ stages rfl
    exact ⟨rfl, rfl⟩

namespace Pipeline

variable (pipeline : Pipeline) (tree : FileTree) (device : Device State Stage)
  (create : ContextConfig → Creation State) (config : Json)

/-- The run on the device that `create` makes, with the calls of the device kept. -/
def tracedRun : Run (TracedState State Stage) :=
  pipeline.run tree device.traced (fun context => (create context).traced) config

/-- The calls that a run makes of the device that `create` makes, in order. -/
def calls : List (DeviceCall Stage) :=
  match (pipeline.tracedRun tree device create config).device with
  | some final => final.calls
  | none => []

/-! ### The ways a run goes -/

section Exits

variable {pipeline tree device create config}

/-- What building starts from on an activated device. -/
def beforeBuilding (pipeline : Pipeline) (tree : FileTree) (device : Device State Stage)
    (config : Json) (state : State) : BuildState State :=
  ⟨state, .start (device.driverInfo state),
    driverLog (device.driverInfo state) ++ (pipeline.registerSection tree config).log⟩

/-- The pipeline with the folders of a configuration registered. -/
def afterRegistration (pipeline : Pipeline) (tree : FileTree) (config : Json) : Pipeline :=
  { pipeline with sources := (pipeline.registerSection tree config).sources }

/-- The builder of a run. -/
def builderOf (pipeline : Pipeline) (tree : FileTree) (device : Device State Stage)
    (config : Json) : Builder State Stage :=
  ⟨device, (pipeline.registerSection tree config).sources, pipeline.base⟩

/-- Nothing is built if a folder is rejected. -/
theorem runActive_of_rejected {state : State} {error : ConfigError}
    (rejected : (pipeline.registerSection tree config).result = .error error) :
    pipeline.runActive tree device config state =
      (.error error, pipeline.beforeBuilding tree device config state,
        pipeline.afterRegistration tree config) := by
  unfold runActive
  dsimp only
  rw [rejected]
  rfl

/-- The programs are built once all folders are registered. -/
theorem runActive_of_registered {state : State} {names : List String}
    (registered : (pipeline.registerSection tree config).result = .ok names) :
    let built := buildSection (pipeline.builderOf tree device config) config
      (pipeline.beforeBuilding tree device config state)
    pipeline.runActive tree device config state =
      (built.1.map fun _ => built.2.report, built.2, pipeline.afterRegistration tree config) := by
  unfold runActive
  dsimp only
  rw [registered]
  dsimp only [builderOf, beforeBuilding]
  cases buildSection _ config _ with
  | mk result final => cases result <;> rfl

/-- No device is asked for without a context. -/
theorem run_of_rejected {error : ConfigError} (rejected : contextOf config = .error error) :
    pipeline.run tree device create config = ⟨.error error, none, none, pipeline, []⟩ := by
  unfold run
  rw [rejected]

/-- Nothing is done without a device. -/
theorem run_of_uncreated {context : ContextConfig} {error : ErrorChain}
    (asked : contextOf config = .ok context) (uncreated : (create context).result = .error error) :
    pipeline.run tree device create config =
      ⟨.error (.contextCreationFailed error.text), some context, none, pipeline,
        (create context).log⟩ := by
  unfold run
  rw [asked]
  dsimp only
  rw [uncreated]

/-- A device that refuses activation is left alone. -/
theorem run_of_refused {context : ContextConfig} {created state : State}
    (asked : contextOf config = .ok context) (made : (create context).result = .ok created)
    (refused : device.activate created = (false, state)) :
    pipeline.run tree device create config =
      ⟨.error .contextActivationFailed, some context, some state, pipeline,
        (create context).log⟩ := by
  unfold run
  rw [asked]
  dsimp only
  rw [made]
  dsimp only
  rw [refused]

/-- An activated device is deactivated after all that is done on it. -/
theorem run_of_activated {context : ContextConfig} {created state : State}
    (asked : contextOf config = .ok context) (made : (create context).result = .ok created)
    (activated : device.activate created = (true, state)) :
    let active := pipeline.runActive tree device config state
    pipeline.run tree device create config =
      ⟨active.1, some context, some (device.deactivate active.2.1.device), active.2.2,
        (create context).log ++ active.2.1.log⟩ := by
  unfold run
  rw [asked]
  dsimp only
  rw [made]
  dsimp only
  rw [activated]

end Exits

/-! ### Keeping the calls -/

/-- Builders that agree build sections of programs that make no difference the same way. -/
theorem buildSection_sameOutcome {builder : Builder State Stage} {other : Builder Other Stage}
    {Related : BuildState State → BuildState Other → Prop} {state : BuildState State}
    {otherState : BuildState Other} {otherConfig : Json}
    (agree : Builder.Agreement builder other Related)
    (read : Option.Rel (List.Forall₂ (Builder.AgreeOnProgram builder other Related))
      ((config.field? "programs").bind Json.asArray?)
      ((otherConfig.field? "programs").bind Json.asArray?))
    (related : Related state otherState) :
    Builder.SameOutcome Related (buildSection builder config state)
      (buildSection other otherConfig otherState) := by
  unfold buildSection
  generalize (config.field? "programs").bind Json.asArray? = programs at read ⊢
  generalize (otherConfig.field? "programs").bind Json.asArray? = others at read ⊢
  cases read with
  | none => exact ⟨rfl, related⟩
  | some same => exact agree.buildPrograms same related

/-- Builders that agree build a section of programs the same way. -/
theorem buildSection_agree {builder : Builder State Stage} {other : Builder Other Stage}
    {Related : BuildState State → BuildState Other → Prop} {state : BuildState State}
    {otherState : BuildState Other} (agree : Builder.Agreement builder other Related)
    (related : Related state otherState) :
    Builder.SameOutcome Related (buildSection builder config state)
      (buildSection other config otherState) := by
  refine buildSection_sameOutcome config agree ?_ related
  cases (config.field? "programs").bind Json.asArray? with
  | none => exact .none
  | some programs => exact .some (agree.agreeOnPrograms programs)

/-- On an activated device, keeping the calls changes nothing else. -/
theorem runActive_traced (traced : TracedState State Stage) :
    let active := pipeline.runActive tree device.traced config traced
    pipeline.runActive tree device config traced.state =
      (active.1, active.2.1.untraced, active.2.2) := by
  cases registered : (pipeline.registerSection tree config).result with
  | error error =>
    rw [runActive_of_rejected registered, runActive_of_rejected registered]
    rfl
  | ok names =>
    rw [runActive_of_registered registered, runActive_of_registered registered]
    have start : (pipeline.beforeBuilding tree device.traced config traced).untraced =
        pipeline.beforeBuilding tree device config traced.state := rfl
    have same : Builder.SameOutcome (fun state other => BuildState.untraced state = other)
        (buildSection (pipeline.builderOf tree device.traced config) config
          (pipeline.beforeBuilding tree device.traced config traced))
        (buildSection (pipeline.builderOf tree device config) config
          (pipeline.beforeBuilding tree device config traced.state)) :=
      buildSection_agree config (Builder.agreement_traced device _ _) start
    dsimp only
    rw [same.1, ← same.2]
    rfl

/-- **How a run goes**, with its calls kept: there is no context to ask for, or no device for it; or the
device refuses to be activated; or it is activated and, after all that is done on it, deactivated. -/
theorem tracedRun_cases :
    (∃ error, contextOf config = .error error ∧
        pipeline.tracedRun tree device create config = ⟨.error error, none, none, pipeline, []⟩) ∨
      (∃ context error, contextOf config = .ok context ∧ (create context).result = .error error ∧
        pipeline.tracedRun tree device create config =
          ⟨.error (.contextCreationFailed error.text), some context, none, pipeline,
            (create context).log⟩) ∨
      (∃ context created state, contextOf config = .ok context ∧
        (create context).result = .ok created ∧ device.activate created = (false, state) ∧
        pipeline.tracedRun tree device create config =
          ⟨.error .contextActivationFailed, some context, some ⟨state, [.activate false]⟩, pipeline,
            (create context).log⟩) ∨
      ∃ context created state, contextOf config = .ok context ∧
        (create context).result = .ok created ∧ device.activate created = (true, state) ∧
        let active := pipeline.runActive tree device.traced config ⟨state, [.activate true]⟩
        pipeline.tracedRun tree device create config =
          ⟨active.1, some context, some (device.traced.deactivate active.2.1.device), active.2.2,
            (create context).log ++ active.2.1.log⟩ := by
  unfold tracedRun
  cases asked : contextOf config with
  | error error => exact .inl ⟨error, rfl, run_of_rejected asked⟩
  | ok context =>
    cases made : (create context).result with
    | error error =>
      exact .inr (.inl ⟨context, error, rfl, made, run_of_uncreated asked (Creation.traced_error made)⟩)
    | ok created =>
      cases activated : device.activate created with
      | mk ready state =>
        have tracedMade := @Creation.traced_ok _ Stage _ _ made
        have tracedActivated := Device.traced_activate activated
        cases ready with
        | false =>
          exact .inr (.inr (.inl ⟨context, created, state, rfl, made, activated,
            run_of_refused asked tracedMade tracedActivated⟩))
        | true =>
          exact .inr (.inr (.inr ⟨context, created, state, rfl, made, activated,
            run_of_activated asked tracedMade tracedActivated⟩))

/-- **Keeping the calls of a run** changes nothing else about it. -/
theorem tracedRun_untraced :
    (pipeline.tracedRun tree device create config).mapDevice TracedState.state =
      pipeline.run tree device create config := by
  rcases pipeline.tracedRun_cases tree device create config with ⟨error, asked, exit⟩ |
    ⟨context, error, asked, made, exit⟩ | ⟨context, created, state, asked, made, activated, exit⟩ |
    ⟨context, created, state, asked, made, activated, exit⟩
  · rw [exit, run_of_rejected asked]
    rfl
  · rw [exit, run_of_uncreated asked made]
    rfl
  · rw [exit, run_of_refused asked made activated]
    rfl
  · have active := pipeline.runActive_traced tree device config ⟨state, [.activate true]⟩
    dsimp only at active
    rw [exit, run_of_activated asked made activated, active]
    rfl

end Pipeline

/-! ### Following the protocol -/

/-- The call compiles with these named sources, or links. -/
def DeviceCall.Builds (sources : NamedSources) : DeviceCall Stage → Prop
  | .compile _ _ given _ => given = sources
  | .link _ _ => True
  | .activate _ | .deactivate => False

/-- The calls of a device that is activated: one activation that it refuses, or calls that build with
these named sources between one activation and one deactivation. -/
inductive FollowsProtocol (sources : NamedSources) : List (DeviceCall Stage) → Prop
  | refused : FollowsProtocol sources [.activate false]
  | served {building : List (DeviceCall Stage)} (builds : ∀ call ∈ building, call.Builds sources) :
    FollowsProtocol sources (.activate true :: (building ++ [.deactivate]))

/-! ### Building on an activated device -/

/-- The device is activated, and has only built since, with these named sources. -/
def TracedState.IsServing (sources : NamedSources) (traced : TracedState State Stage) : Prop :=
  ∃ building, traced.calls = .activate true :: building ∧ ∀ call ∈ building, call.Builds sources

/-- One more call that builds. -/
theorem TracedState.IsServing.after {sources : NamedSources} {traced : TracedState State Stage}
    (serving : traced.IsServing sources) {call : DeviceCall Stage} (builds : call.Builds sources)
    (state : State) : (traced.after call state).IsServing sources := by
  obtain ⟨building, calls, allBuild⟩ := serving
  refine ⟨building ++ [call], ?_, ?_⟩
  · show traced.calls ++ [call] = _
    rw [calls, List.cons_append]
  · intro other member
    rcases List.mem_append.mp member with earlier | last
    · exact allBuild other earlier
    · rw [List.mem_singleton.mp last]
      exact builds

/-- A traced device that is activated serves as long as it compiles with one table and links. -/
theorem Builder.agreement_serving (device : Device State Stage) (sources : NamedSources)
    (base : Path) :
    Agreement ⟨device.traced, sources, base⟩ ⟨device.traced, sources, base⟩
      fun state other => state = other ∧ state.device.IsServing sources :=
  agreement_of_invariant
    (fun stageType source traced serving =>
      have builds : DeviceCall.Builds sources (.compile stageType source sources
          (device.compile stageType source sources traced.state).1) := rfl
      serving.after builds _)
    (fun stages traced serving =>
      have builds : (DeviceCall.link stages (device.link stages traced.state).1).Builds sources := trivial
      serving.after builds _)

namespace Pipeline

variable {pipeline : Pipeline} {tree : FileTree} {device : Device State Stage}
  {create : ContextConfig → Creation State} {config : Json}

/-- An activated device serves until the run deactivates it; it does not build unless all folders are
registered. -/
theorem exists_calls_runActive (state : State) :
    let active := pipeline.runActive tree device.traced config ⟨state, [.activate true]⟩
    ∃ building, (device.traced.deactivate active.2.1.device).calls =
        .activate true :: (building ++ [.deactivate]) ∧
      (∀ call ∈ building, call.Builds (pipeline.registerSection tree config).sources) ∧
      active.2.2.sources = (pipeline.registerSection tree config).sources ∧
      (building ≠ [] → ∃ names, (pipeline.registerSection tree config).result = .ok names) := by
  cases registered : (pipeline.registerSection tree config).result with
  | error error =>
    rw [runActive_of_rejected registered]
    exact ⟨[], rfl, nofun, rfl, fun built => absurd rfl built⟩
  | ok names =>
    rw [runActive_of_registered registered]
    have serving : (pipeline.beforeBuilding tree device.traced config
        ⟨state, [.activate true]⟩).device.IsServing (pipeline.registerSection tree config).sources :=
      ⟨[], rfl, nofun⟩
    have kept := buildSection_agree config
      (Builder.agreement_serving device (pipeline.registerSection tree config).sources pipeline.base)
      ⟨rfl, serving⟩
    obtain ⟨building, calls, allBuild⟩ := kept.2.2
    refine ⟨building, ?_, allBuild, rfl, fun _ => ⟨names, rfl⟩⟩
    exact (congrArg (· ++ [DeviceCall.deactivate]) calls).trans (List.cons_append ..)

/-- **Every run follows the protocol.** Keeping its calls does not change it. It makes none exactly if
no device is asked for or none is created; otherwise they follow the protocol, for the named sources
after the run; and if it builds at all, these are the named sources with all folders registered. -/
theorem run_protocol :
    let run := pipeline.run tree device create config
    let calls := pipeline.calls tree device create config
    (pipeline.tracedRun tree device create config).mapDevice TracedState.state = run ∧
      (calls = [] ↔ run.context = none ∨
        ∃ context error, run.context = some context ∧ (create context).result = .error error) ∧
      (calls ≠ [] → FollowsProtocol run.pipeline.sources calls) ∧
      ((∃ call ∈ calls, call.Builds run.pipeline.sources) →
        (∃ names, (pipeline.registerSection tree config).result = .ok names) ∧
          run.pipeline.sources = (pipeline.registerSection tree config).sources) := by
  intro run calls
  have untraced : (pipeline.tracedRun tree device create config).mapDevice TracedState.state = run :=
    pipeline.tracedRun_untraced tree device create config
  have sameContext : (pipeline.tracedRun tree device create config).context = run.context := by
    rw [← untraced]
    rfl
  have samePipeline : (pipeline.tracedRun tree device create config).pipeline = run.pipeline := by
    rw [← untraced]
    rfl
  refine ⟨untraced, ?_⟩
  rw [← sameContext, ← samePipeline]
  unfold calls Pipeline.calls
  rcases pipeline.tracedRun_cases tree device create config with ⟨error, asked, exit⟩ |
    ⟨context, error, asked, made, exit⟩ | ⟨context, created, state, asked, made, activated, exit⟩ |
    ⟨context, created, state, asked, made, activated, exit⟩
  · rw [exit]
    simp
  · rw [exit]
    simp [made]
  · rw [exit]
    refine ⟨?_, fun _ => .refused, ?_⟩
    · simp [made]
    · simp [DeviceCall.Builds]
  · obtain ⟨building, allCalls, allBuild, sources, registered⟩ :=
      @exists_calls_runActive _ _ pipeline tree device config state
    rw [exit]
    dsimp only
    rw [allCalls, sources]
    refine ⟨?_, fun _ => .served allBuild, ?_⟩
    · simp [made]
    · rintro ⟨call, member, builds⟩
      refine ⟨registered ?_, rfl⟩
      -- Neither the activation nor the deactivation builds.
      rintro rfl
      simp only [List.nil_append, List.mem_cons, List.not_mem_nil, or_false] at member
      rcases member with rfl | rfl <;> exact builds

end Pipeline

end ShaderCheck
