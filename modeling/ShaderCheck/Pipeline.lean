/-
**Running a configuration.**

A run asks for the context, registers the folders of named strings and builds every program. A
failure before the programs, or a program that is described wrongly, ends the run with an error;
shaders and programs that fail are listed in the report. Once a device is activated, the run
deactivates it, whichever way it ends. Named strings stay registered after a run. Without a graphics
adapter no context can be created, so a run ends with an error at creation at the latest.

* `Pipeline.run`: one run on the device that `create` makes;
* `Run`: what a run gives and leaves behind;
* `createWithoutAdapter`, `process`: asking for a device that does not exist, and a run by itself.
-/

import ShaderCheck.Build
import ShaderCheck.Config
import ShaderCheck.Registry

namespace ShaderCheck

/-- What stays from run to run: the folder that paths are relative to, and the named sources. -/
structure Pipeline where
  base : Path
  sources : NamedSources

/-- A pipeline before its first run. -/
def Pipeline.start (base : Path) : Pipeline := ⟨base, Table.empty⟩

/-- What asking for a device gives: the device's first state or an error, and the records of the
attempt. -/
structure Creation (State : Type) where
  result : Except ErrorChain State
  log : List LogRecord

/-- What a run gives and leaves behind. -/
structure Run (State : Type) where
  result : Except ConfigError BuildReport
  /-- The context that a device was asked for, if it came to that. -/
  context : Option ContextConfig
  /-- The state of the device after the run, if there was one. -/
  device : Option State
  /-- The pipeline after the run. -/
  pipeline : Pipeline
  log : List LogRecord

namespace Pipeline

variable {State Stage : Type}

/-- The context that the `opengl` section asks for. -/
def contextOf (config : Json) : Except ConfigError ContextConfig :=
  match config.field? "opengl" with
  | some (.object members) => ContextConfig.ofJson (.object members)
  | _ => .error (.propertyNotFoundOrNotAnObject "opengl")

/-- Registers the folders of `namedStringPaths`. Anything but an array is passed over. -/
def registerSection (pipeline : Pipeline) (tree : FileTree) (config : Json) : Registration :=
  match config.field? "namedStringPaths" with
  | some (.array values) => registerFolders tree pipeline.base pipeline.sources values
  | some _ =>
    ⟨.ok [], pipeline.sources, [⟨.warn, "Ignoring namedStringPaths, it is not an array"⟩]⟩
  | none => ⟨.ok [], pipeline.sources, []⟩

/-- Builds the programs of the `programs` section. -/
def buildSection (builder : Builder State Stage) (config : Json) (state : BuildState State) :
    Except ConfigError Unit × BuildState State :=
  match (config.field? "programs").bind Json.asArray? with
  | none => (.error (.arrayNotFoundOrEmpty "programs"), state)
  | some programs => builder.buildPrograms programs state

/-- The records of the driver that compiles. -/
def driverLog (driver : DriverInfo) : List LogRecord :=
  [⟨.info, "Driver: " ++ driver.vendor⟩, ⟨.info, "Renderer: " ++ driver.renderer⟩]

/-- The part of a run on an activated device: its result, the state before deactivation and the
pipeline after it. -/
def runActive (pipeline : Pipeline) (tree : FileTree) (device : Device State Stage)
    (config : Json) (state : State) :
    Except ConfigError BuildReport × BuildState State × Pipeline :=
  let driver := device.driverInfo state
  let registration := pipeline.registerSection tree config
  let registered : Pipeline := { pipeline with sources := registration.sources }
  let built : BuildState State :=
    ⟨state, .start driver, driverLog driver ++ registration.log⟩
  match registration.result with
  | .error error => (.error error, built, registered)
  | .ok _ =>
    match buildSection ⟨device, registration.sources, pipeline.base⟩ config built with
    | (.error error, final) => (.error error, final, registered)
    | (.ok (), final) => (.ok final.report, final, registered)

/-- Runs a configuration on the device that `create` makes for its context. -/
def run (pipeline : Pipeline) (tree : FileTree) (device : Device State Stage)
    (create : ContextConfig → Creation State) (config : Json) : Run State :=
  match contextOf config with
  | .error error => ⟨.error error, none, none, pipeline, []⟩
  | .ok context =>
    let creation := create context
    match creation.result with
    | .error error =>
      ⟨.error (.contextCreationFailed error.text), some context, none, pipeline, creation.log⟩
    | .ok created =>
      match device.activate created with
      | (false, state) =>
        ⟨.error .contextActivationFailed, some context, some state, pipeline, creation.log⟩
      | (true, state) =>
        let (result, final, after) := pipeline.runActive tree device config state
        ⟨result, some context, some (device.deactivate final.device), after,
          creation.log ++ final.log⟩

end Pipeline

/-! ### Without an adapter -/

/-- The calls of a device that does not exist. -/
def absentDevice : Device Empty Empty where
  activate state := nomatch state
  deactivate state := nomatch state
  driverInfo state := nomatch state
  compile _ _ _ state := nomatch state
  link _ state := nomatch state

/-- Asks for a device where there is no adapter. Shaders would be held to the core profile, which a
wish for the compatibility profile is told before anything else. -/
def createWithoutAdapter (context : ContextConfig) : Creation Empty where
  result := .error (.ofMessage "Couldn't create the adapter")
  log :=
    match context.profile with
    | .compatibility =>
      [⟨.warn, "Compatibility profile requested, shaders are validated against core GLSL"⟩]
    | .core => []

/-- Runs a configuration whose paths are relative to `base`. -/
def process (tree : FileTree) (config : Json) (base : Path) : Run Empty :=
  (Pipeline.start base).run tree absentDevice createWithoutAdapter config

end ShaderCheck
