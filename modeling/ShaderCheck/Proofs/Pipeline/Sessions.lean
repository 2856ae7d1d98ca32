/-
**Named strings from run to run.**

A run whose device is activated inserts what the folders in front of the first rejected one register,
whatever becomes of its programs; any other run leaves the named sources alone. So the named sources
after a sequence of runs are those before it with everything that the runs register inserted, in order.
The runs of a sequence have nothing in common but the pipeline: each has files, a device and a
configuration of its own.

* `RunRequest`: a run that a pipeline can be asked for;
* `RunRequest.registers`: what the run inserts;
* `Pipeline.after`: the pipeline after a sequence of runs;
* `Pipeline.after_eq`: what a sequence of runs leaves behind;
* `Pipeline.named_sources_persist`: all of it in one place.
-/

import ShaderCheck.Proofs.Pipeline.Protocol
import ShaderCheck.Proofs.Registry

namespace ShaderCheck

/-- A run that a pipeline can be asked for: the files as they are at the time, the device and how it
is created, and the configuration. -/
structure RunRequest where
  State : Type
  Stage : Type
  tree : FileTree
  device : Device State Stage
  create : ContextConfig → Creation State
  config : Json

/-- What the folders of `namedStringPaths` register, relative to `base`; nothing if there is no such
section or if it is no array. -/
def sectionPairs (tree : FileTree) (base : Path) (config : Json) : List (String × Path) :=
  match config.field? "namedStringPaths" with
  | some (.array values) => acceptedPairs tree base values
  | _ => []

theorem sectionPairs_of_array {tree : FileTree} {base : Path} {config : Json} {values : List Json}
    (listed : config.field? "namedStringPaths" = some (.array values)) :
    sectionPairs tree base config = acceptedPairs tree base values := by
  rw [sectionPairs, listed]

theorem sectionPairs_of_no_array {tree : FileTree} {base : Path} {config : Json}
    (none : ∀ values, config.field? "namedStringPaths" ≠ some (.array values)) :
    sectionPairs tree base config = [] := by
  unfold sectionPairs
  split
  · rename_i values listed
    exact absurd listed (none values)
  · rfl

namespace RunRequest

/-- The run of a request on a pipeline. -/
def runOn (request : RunRequest) (pipeline : Pipeline) : Run request.State :=
  pipeline.run request.tree request.device request.create request.config

/-- The calls that the run makes. -/
def callsOn (request : RunRequest) (pipeline : Pipeline) : List (DeviceCall request.Stage) :=
  pipeline.calls request.tree request.device request.create request.config

/-- The run gets past the activation of its device. -/
def activates (request : RunRequest) : Bool :=
  match Pipeline.contextOf request.config with
  | .error _ => false
  | .ok context =>
    match (request.create context).result with
    | .error _ => false
    | .ok created => (request.device.activate created).1

/-- What the run registers, relative to `base`. -/
def registers (request : RunRequest) (base : Path) : List (String × Path) :=
  if request.activates then sectionPairs request.tree base request.config else []

end RunRequest

namespace Pipeline

/-- The pipeline after a sequence of runs. -/
def after (pipeline : Pipeline) (requests : List RunRequest) : Pipeline :=
  requests.foldl (fun before request => (request.runOn before).pipeline) pipeline

variable {State Stage : Type} {pipeline : Pipeline} {tree : FileTree} {device : Device State Stage}
  {config : Json}

/-! ### One run -/

theorem sources_registerSection (pipeline : Pipeline) (tree : FileTree) (config : Json) :
    (pipeline.registerSection tree config).sources =
      pipeline.sources.insertMany (sectionPairs tree pipeline.base config) := by
  unfold registerSection
  split
  · rename_i values listed
    rw [sources_registerFolders, sectionPairs_of_array listed]
  · rename_i other noArray found
    have none : ∀ values, config.field? "namedStringPaths" ≠ some (.array values) :=
      fun values listed => noArray values (Option.some.inj (found.symm.trans listed))
    rw [sectionPairs_of_no_array none]
    rfl
  · rename_i found
    rw [sectionPairs_of_no_array fun values listed => nomatch found.symm.trans listed]
    rfl

/-- On an activated device the folders are registered, whatever becomes of the programs. -/
theorem pipeline_runActive (state : State) :
    (pipeline.runActive tree device config state).2.2 = pipeline.afterRegistration tree config := by
  cases registered : (pipeline.registerSection tree config).result with
  | error error => rw [runActive_of_rejected registered]
  | ok names => rw [runActive_of_registered registered]

end Pipeline

namespace RunRequest

variable (request : RunRequest) (pipeline : Pipeline)

/-- **What a run leaves behind**, for each way it ends. -/
theorem pipeline_runOn :
    (request.runOn pipeline).pipeline =
      { pipeline with sources := pipeline.sources.insertMany (request.registers pipeline.base) } := by
  have traced : (request.runOn pipeline).pipeline =
      (pipeline.tracedRun request.tree request.device request.create request.config).pipeline := by
    rw [runOn, ← Pipeline.tracedRun_untraced]
    rfl
  rw [traced]
  rcases pipeline.tracedRun_cases request.tree request.device request.create request.config with
    ⟨error, asked, exit⟩ | ⟨context, error, asked, made, exit⟩ |
    ⟨context, created, state, asked, made, activated, exit⟩ |
    ⟨context, created, state, asked, made, activated, exit⟩
  · have idle : request.activates = false := by simp [activates, asked]
    rw [exit, registers, idle]
    rfl
  · have idle : request.activates = false := by simp [activates, asked, made]
    rw [exit, registers, idle]
    rfl
  · have idle : request.activates = false := by simp [activates, asked, made, activated]
    rw [exit, registers, idle]
    rfl
  · have active : request.activates = true := by simp [activates, asked, made, activated]
    rw [exit, registers, if_pos active, ← Pipeline.sources_registerSection]
    exact Pipeline.pipeline_runActive _

/-- A run gets past activation if a successful activation is among the calls that it makes. -/
theorem activates_iff :
    request.activates = true ↔ DeviceCall.activate true ∈ request.callsOn pipeline := by
  unfold activates callsOn Pipeline.calls
  rcases pipeline.tracedRun_cases request.tree request.device request.create request.config with
    ⟨error, asked, exit⟩ | ⟨context, error, asked, made, exit⟩ |
    ⟨context, created, state, asked, made, activated, exit⟩ |
    ⟨context, created, state, asked, made, activated, exit⟩
  · rw [exit, asked]
    simp
  · rw [exit, asked]
    simp [made]
  · rw [exit, asked]
    simp [made, activated]
  · obtain ⟨building, calls, _⟩ := @Pipeline.exists_calls_runActive _ _ pipeline request.tree
      request.device request.config state
    rw [exit, asked]
    dsimp only
    rw [made, calls]
    simp [activated]

end RunRequest

namespace Pipeline

/-! ### Sequences of runs -/

theorem after_append (pipeline : Pipeline) (first second : List RunRequest) :
    pipeline.after (first ++ second) = (pipeline.after first).after second :=
  List.foldl_append

/-- **What a sequence of runs leaves behind**, by induction on it: the folder stays, and what the runs
register is inserted in order. -/
theorem after_eq (pipeline : Pipeline) (requests : List RunRequest) :
    pipeline.after requests =
      { pipeline with
        sources := pipeline.sources.insertMany
          (requests.flatMap fun request => request.registers pipeline.base) } := by
  induction requests generalizing pipeline with
  | nil => rfl
  | cons request rest inductionStep =>
    rw [after, List.foldl_cons, ← after, inductionStep, request.pipeline_runOn pipeline,
      List.flatMap_cons, Table.insertMany_append]

theorem sources_after_concat (pipeline : Pipeline) (requests : List RunRequest)
    (request : RunRequest) :
    (pipeline.after (requests ++ [request])).sources =
      (pipeline.after requests).sources.insertMany (request.registers pipeline.base) := by
  rw [after_append, after_eq (pipeline.after requests) [request], List.flatMap_singleton]
  have sameBase : (pipeline.after requests).base = pipeline.base := by rw [after_eq]
  rw [sameBase]

/-- **Named strings from run to run.** After any sequence of runs, one more run leaves the named
sources alone if it ends before or at activation, or if `namedStringPaths` is missing or no array.
Otherwise it inserts what the folders in front of the first rejected one register, whatever becomes of
its programs. So no sequence of runs takes a name away, and what a name is bound to changes only to a
file that an activated run of the sequence registers under it, for a folder that is not rejected. -/
theorem named_sources_persist (pipeline : Pipeline) (requests : List RunRequest) :
    (∀ request : RunRequest,
      let before := pipeline.after requests
      let next := pipeline.after (requests ++ [request])
      (request.activates = true ↔ DeviceCall.activate true ∈ request.callsOn before) ∧
        (request.activates = false → next.sources = before.sources) ∧
        ((∀ values, request.config.field? "namedStringPaths" ≠ some (.array values)) →
          next.sources = before.sources) ∧
        (request.activates = true →
          ∀ values, request.config.field? "namedStringPaths" = some (.array values) →
            next.sources =
              before.sources.insertMany (acceptedPairs request.tree pipeline.base values))) ∧
      (∀ name, (pipeline.sources.get? name).isSome →
        ((pipeline.after requests).sources.get? name).isSome) ∧
      (∀ name, (pipeline.after requests).sources.get? name ≠ pipeline.sources.get? name →
        ∃ request ∈ requests, request.activates = true ∧
          ∃ values, request.config.field? "namedStringPaths" = some (.array values) ∧
            ∃ file, (name, file) ∈ acceptedPairs request.tree pipeline.base values ∧
              (pipeline.after requests).sources.get? name = some file) := by
  refine ⟨fun request => ?_, fun name bound => ?_, fun name changed => ?_⟩
  · intro before next
    have step : next.sources = before.sources.insertMany (request.registers pipeline.base) :=
      pipeline.sources_after_concat requests request
    refine ⟨request.activates_iff before, fun refused => ?_, fun none => ?_,
      fun activated values listed => ?_⟩
    · rw [step, RunRequest.registers, refused]
      rfl
    · rw [step, RunRequest.registers, sectionPairs_of_no_array none, ite_self]
      rfl
    · rw [step, RunRequest.registers, if_pos activated, sectionPairs_of_array listed]
  · rw [after_eq]
    exact Table.isSome_get?_insertMany bound _
  · rw [after_eq] at changed ⊢
    obtain ⟨file, registered, found⟩ := Table.exists_mem_of_get?_insertMany_ne changed
    obtain ⟨request, member, inRequest⟩ := List.mem_flatMap.mp registered
    unfold RunRequest.registers at inRequest
    split at inRequest
    · rename_i activated
      unfold sectionPairs at inRequest
      split at inRequest
      · rename_i values listed
        exact ⟨request, member, activated, values, listed, file, inRequest, found⟩
      · cases inRequest
    · cases inRequest

end Pipeline

end ShaderCheck
