/-
**Building programs.**

A program is built by compiling its shaders in order and linking the stages. The first shader that
fails ends the program; a failure never ends more than its program. A shader that does not compile is
listed in the report by its file, a program that is not built by its name.

* `buildStage`: one shader, read and compiled;
* `buildStages`: the shaders of a program, up to the first failure;
* `buildProgram`: a program, linked or listed as failed.
-/

import ShaderCheck.Config
import ShaderCheck.Device
import ShaderCheck.Message

namespace ShaderCheck

/-- What building changes: the device, the report and the log. -/
structure BuildState (State : Type) where
  device : State
  report : BuildReport
  log : List LogRecord

/-- Why a shader stage was not built. -/
inductive StageError
  /-- Its description is wrong. -/
  | config (error : ConfigError)
  /-- The device did not compile it. -/
  | compile (error : ErrorChain)
deriving DecidableEq, Repr

/-- The wording of a stage error. -/
def StageError.message : StageError → String
  | .config error => error.message
  | .compile error => error.text

/-- What programs are built with: the device's calls, the named sources and the folder that the
files of shaders are relative to. -/
structure Builder (State Stage : Type) where
  device : Device State Stage
  sources : NamedSources
  base : Path

/-- The record of a shader that is about to be compiled. -/
def ShaderDescriptor.announcement (descriptor : ShaderDescriptor) : LogRecord :=
  match descriptor.name with
  | some name => ⟨.info, s!"Compile {name} ('{descriptor.file.text}')"⟩
  | none => ⟨.info, s!"Compile {descriptor.file.text}"⟩

namespace BuildState

variable {State : Type}

/-- Adds a record to the log. -/
def record (state : BuildState State) (level : LogLevel) (text : String) : BuildState State :=
  { state with log := state.log ++ [⟨level, text⟩] }

/-- Lists a file that does not compile. -/
def failCompile (state : BuildState State) (file : Path) : BuildState State :=
  { state with
    report := { state.report with
      compileFailures := state.report.compileFailures ++ [file] } }

/-- Lists a program that is not built, with the reason in the log. -/
def failProgram (state : BuildState State) (name reason : String) : BuildState State :=
  let state := state.record .error s!"{name}: {reason}"
  { state with
    report := { state.report with linkFailures := state.report.linkFailures ++ [name] } }

end BuildState

variable {State Stage : Type}

namespace Builder

/-- Reads and compiles one shader. Only a failure of the device is listed in the report. -/
def buildStage (builder : Builder State Stage) (value : Json) (state : BuildState State) :
    Except StageError Stage × BuildState State :=
  match ShaderDescriptor.ofJson value builder.base with
  | .error error => (.error (.config error), state)
  | .ok descriptor =>
    let announced := { state with log := state.log ++ [descriptor.announcement] }
    match builder.device.compile descriptor.stageType descriptor.source builder.sources
      announced.device with
    | (.ok stage, device) => (.ok stage, { announced with device := device })
    | (.error error, device) =>
      (.error (.compile error),
        { announced with device := device }.failCompile descriptor.file)

/-- Builds shaders in order, up to the first failure. -/
def buildStages (builder : Builder State Stage) :
    List Json → BuildState State → Except StageError (List Stage) × BuildState State
  | [], state => (.ok [], state)
  | value :: rest, state =>
    match builder.buildStage value state with
    | (.error error, state) => (.error error, state)
    | (.ok stage, state) =>
      match builder.buildStages rest state with
      | (.error error, state) => (.error error, state)
      | (.ok stages, state) => (.ok (stage :: stages), state)

/-- Builds a program; whether it was linked. -/
def buildProgram (builder : Builder State Stage) (program : ProgramDescriptor)
    (state : BuildState State) : Bool × BuildState State :=
  match builder.buildStages program.shaders (state.record .info s!"Process {program.name}") with
  | (.error error, state) => (false, state.failProgram program.name error.message)
  | (.ok stages, state) =>
    let state := state.record .info s!"Link {program.name}"
    match builder.device.link stages state.device with
    | (.ok (), device) => (true, { state with device := device })
    | (.error error, device) =>
      (false, { state with device := device }.failProgram program.name error.text)

/-- Builds the programs that the values describe, up to the first value that describes none. -/
def buildPrograms (builder : Builder State Stage) :
    List Json → BuildState State → Except ConfigError Unit × BuildState State
  | [], state => (.ok (), state)
  | value :: rest, state =>
    match ProgramDescriptor.ofJson value with
    | .error error => (.error error, state)
    | .ok program => builder.buildPrograms rest (builder.buildProgram program state).2

end Builder

end ShaderCheck
