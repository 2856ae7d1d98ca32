/-
**Devices and reports.**

A device compiles shader stages and links them into programs. It has a state that every call may
change, so that a call may go differently each time. Compiling and linking happen between
activation and deactivation. A device can be made to keep its calls with their results, in order, without
being changed otherwise. Asking who compiles is no such call: it changes nothing, and is not kept.

A report says what the shaders were compiled by, which files did not compile and which programs did
not link, in the order of the failures.

* `BuildReport.isClean`: nothing failed;
* `BuildReport.lines`, `BuildReport.text`: the report as it is printed;
* `Device`, `DeviceCall`: the calls, and a call with its result;
* `Device.traced`: the device with its calls kept.
-/

import ShaderCheck.Include
import ShaderCheck.Path
import ShaderCheck.Shader
import ShaderCheck.Text

namespace ShaderCheck

/-! ### Reports -/

/-- Who compiles the shaders. -/
structure DriverInfo where
  vendor : String
  renderer : String
deriving DecidableEq, Repr, Inhabited

/-- The driver as a report shows it. -/
def DriverInfo.lines (driver : DriverInfo) : List String :=
  ["Driver: " ++ driver.vendor, "Renderer: " ++ driver.renderer]

/-- The outcome of a complete run. -/
structure BuildReport where
  driver : DriverInfo
  compileFailures : List Path
  linkFailures : List String
deriving DecidableEq, Repr, Inhabited

namespace BuildReport

/-- The report before anything is built. -/
def start (driver : DriverInfo) : BuildReport := ⟨driver, [], []⟩

/-- Whether nothing failed. -/
def isClean (report : BuildReport) : Bool :=
  report.compileFailures.isEmpty && report.linkFailures.isEmpty

/-- A list of failures under its heading, after an empty line; nothing for an empty list. -/
def sectionLines (heading : String) (failures : List String) : List String :=
  if failures = [] then [] else "" :: heading :: failures.map ("    " ++ ·)

/-- The lines of the printed report. -/
def lines (report : BuildReport) : List String :=
  report.driver.lines ++
    sectionLines "Compile Failures:" (report.compileFailures.map Path.text) ++
    sectionLines "Link Failures:" report.linkFailures

/-- The printed report. -/
def text (report : BuildReport) : String :=
  Text.joinLines report.lines

end BuildReport

/-! ### Devices -/

/-- The calls of a device with states `State`, whose compiled stages are of type `Stage`. -/
structure Device (State Stage : Type) where
  /-- Readies the device, or says that it cannot be. -/
  activate : State → Bool × State
  /-- Ends what a successful activation began. -/
  deactivate : State → State
  /-- Who compiles. -/
  driverInfo : State → DriverInfo
  /-- Compiles a source, include lines looked up in the named sources. -/
  compile : StageType → ShaderSource → NamedSources → State → Except ErrorChain Stage × State
  /-- Links compiled stages into a program. -/
  link : List Stage → State → Except ErrorChain Unit × State

/-! ### Traces of calls -/

/-- A call of a device that can change it, with what it gave. -/
inductive DeviceCall (Stage : Type)
  | activate (succeeded : Bool)
  | deactivate
  | compile (stageType : StageType) (source : ShaderSource) (sources : NamedSources)
      (result : Except ErrorChain Stage)
  | link (stages : List Stage) (result : Except ErrorChain Unit)

/-- The state of a device whose calls are kept, the first one first. -/
structure TracedState (State Stage : Type) where
  state : State
  calls : List (DeviceCall Stage)

namespace TracedState

variable {State Stage : Type}

/-- A state before any call. -/
def start (state : State) : TracedState State Stage := ⟨state, []⟩

/-- The state after one more call. -/
def after (traced : TracedState State Stage) (call : DeviceCall Stage) (state : State) :
    TracedState State Stage :=
  ⟨state, traced.calls ++ [call]⟩

end TracedState

namespace Device

variable {State Stage : Type}

/-- The device with its calls kept. What it answers to `driverInfo` is not kept, as the question leaves its
state as it is. -/
def traced (device : Device State Stage) : Device (TracedState State Stage) Stage where
  activate traced :=
    let (succeeded, state) := device.activate traced.state
    (succeeded, traced.after (.activate succeeded) state)
  deactivate traced := traced.after .deactivate (device.deactivate traced.state)
  driverInfo traced := device.driverInfo traced.state
  compile stageType source sources traced :=
    let (result, state) := device.compile stageType source sources traced.state
    (result, traced.after (.compile stageType source sources result) state)
  link stages traced :=
    let (result, state) := device.link stages traced.state
    (result, traced.after (.link stages result) state)

end Device

end ShaderCheck
