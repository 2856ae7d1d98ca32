/-
**Compilers.**

A front end reads the text of one shader stage into a module, judges whether the module is valid, and
tells the values that go through its entry points. A value is handed over at a location, or the machine
knows it; if nothing is said of a structure as a whole, each of its members is handed over by itself.

A stage is compiled from the expanded text of its source. A version directive starts a line, white space
before it aside: `#`, `version` and a number, with white space between them that may hold line ends. The
first one in a text is the one that counts. A text that asks for a newer version than the limit is
refused; one that asks for an older version than the front end reads is read as version 450, with the
digits of its directive changed and nothing else.

A program is one compute stage, one vertex stage, or a vertex and a fragment stage; and the fragment
stage reads nothing that the vertex stage does not write. A compiler is a device by itself: it has nothing
to activate, and every call goes the same way each time.

* `StageValue`, `StageValue.locations`: a value, and the locations that it is handed over at;
* `Frontend`: how texts become modules, and what is known of a module;
* `Frontend.inputLocations`, `Frontend.outputLocations`: the locations that a module reads and writes;
* `VersionDirective.find?`, `VersionDirective.withDigits`: the first version directive, and the text with
  other digits in its place;
* `Compiler.compile`: a compiled stage, or why there is none; `CompileError`: the reasons;
* `Compiler.link`: checks the rules of programs, in order; `LinkError`: the rule that is broken;
* `Compiler.device`: the device whose calls are a compiler's.
-/

import ShaderCheck.Device
import ShaderCheck.Include
import ShaderCheck.Shader
import ShaderCheck.Text

namespace ShaderCheck

open Text

/-! ### Front ends -/

/-- The kinds of stage that a front end reads. -/
inductive ShaderKind
  | vertex
  | fragment
  | compute
deriving DecidableEq, Repr

/-- The kind of a stage type; tessellation and geometry have none. -/
def StageType.kind? : StageType → Option ShaderKind
  | .vertex => some .vertex
  | .fragment => some .fragment
  | .compute => some .compute
  | .tessControl | .tessEvaluation | .geometry => none

/-- How a value is handed over. -/
inductive Handover
  | location (location : Nat)
  /-- The machine knows the value. -/
  | builtin
deriving DecidableEq, Repr

/-- A value that a stage takes or gives: how it is handed over, if that is said of it as a whole, and the
members of its type, if that is a structure. -/
inductive StageValue
  | value (handover : Option Handover) (members : List StageValue)

namespace StageValue

mutual

/-- The locations that a value is handed over at. -/
def locations : StageValue → List Nat
  | .value (some (.location location)) _ => [location]
  | .value (some .builtin) _ => []
  | .value none members => locationsOf members

/-- The locations that values are handed over at. -/
def locationsOf : List StageValue → List Nat
  | [] => []
  | first :: rest => first.locations ++ locationsOf rest

end

end StageValue

/-- Where a stage begins, with the values that it takes and the one that it gives back. -/
structure EntryPoint where
  kind : ShaderKind
  arguments : List StageValue
  result : Option StageValue

/-- How texts become modules, and what is known of a module. Without a module there are messages, one for
each thing that is wrong with the text; a module that is not valid has one message. -/
structure Frontend (Module : Type) where
  parse : ShaderKind → String → Except (List String) Module
  validate : Module → Except String Unit
  entryPoints : Module → List EntryPoint

namespace Frontend

variable {Module : Type} (frontend : Frontend Module)

/-- The entry points of a kind of stage. -/
def entryPointsOf (kind : ShaderKind) (module : Module) : List EntryPoint :=
  (frontend.entryPoints module).filter fun entry => entry.kind = kind

/-- The locations that a module reads as a kind of stage. -/
def inputLocations (kind : ShaderKind) (module : Module) : List Nat :=
  (frontend.entryPointsOf kind module).flatMap fun entry => StageValue.locationsOf entry.arguments

/-- The locations that a module writes as a kind of stage. -/
def outputLocations (kind : ShaderKind) (module : Module) : List Nat :=
  (frontend.entryPointsOf kind module).flatMap fun entry =>
    StageValue.locationsOf entry.result.toList

end Frontend

/-! ### The version directive -/

/-- A text cut around the digits of a version directive. -/
structure VersionDirective where
  before : List Char
  digits : List Char
  after : List Char
deriving DecidableEq, Repr

namespace VersionDirective

/-- The text that was cut. -/
def text (directive : VersionDirective) : String :=
  String.ofList (directive.before ++ directive.digits ++ directive.after)

/-- The text with other digits. -/
def withDigits (directive : VersionDirective) (digits : String) : String :=
  String.ofList (directive.before ++ digits.toList ++ directive.after)

/-- The number part of a version directive that starts here, white space aside: everything from its
first digit on. -/
def numberPart? (line : List Char) : Option (List Char) :=
  match Directive.argument? "version" line with
  | some (c :: rest) => if isDigit c then some (c :: rest) else none
  | _ => none

/-- The first version directive in `rest`, the start of a line after the characters `read`. -/
def findAfter? (read rest : List Char) : Option VersionDirective :=
  match numberPart? rest with
  | some number =>
    some ⟨read ++ rest.take (rest.length - number.length), number.takeWhile isDigit,
      number.dropWhile isDigit⟩
  | none =>
    match _split : rest.dropWhile (· ≠ '\n') with
    | [] => none
    | newline :: later =>
      findAfter? (read ++ rest.takeWhile (· ≠ '\n') ++ [newline]) later
termination_by rest.length
decreasing_by
  have := (List.dropWhile_sublist (· ≠ '\n') (l := rest)).length_le
  rw [_split, List.length_cons] at this
  omega

/-- The first version directive of a text. -/
def find? (text : String) : Option VersionDirective :=
  findAfter? [] text.toList

end VersionDirective

/-! ### Compiling -/

/-- A stage that is compiled. -/
structure CompiledStage (Module : Type) where
  stageType : StageType
  module : Module
deriving DecidableEq, Repr

/-- Why a stage is not compiled. -/
inductive CompileError
  /-- The front end reads no stages of this type. -/
  | unsupportedStage (stageType : StageType)
  /-- The shader's file has no text. -/
  | source (error : SourceError)
  /-- An include line has no expansion. -/
  | inclusion (error : IncludeError)
  /-- The number of the version directive cannot be read. -/
  | versionNumber (error : NumberError)
  /-- The version asked for is above the limit. -/
  | versionAboveLimit (version limit : Nat)
  /-- The text is no shader. -/
  | parse (path : Path) (messages : List String)
  /-- The shader is not valid. -/
  | invalid (path : Path) (message : String)
deriving DecidableEq, Repr

/-- The wording of a compile error. -/
def CompileError.chain : CompileError → ErrorChain
  | .unsupportedStage stageType =>
    .ofMessage s!"{stageType.token} is not supported by the naga GLSL frontend"
  | .source error => error.chain
  | .inclusion error => error.chain
  | .versionNumber error => .ofMessage error.message
  | .versionAboveLimit version limit =>
    .ofMessage
      s!"GLSL version {version} is not supported, the context supports up to {limit}"
  | .parse path messages =>
    .ofMessage (s!"Shader {path.text} failed to parse: " ++ "; ".intercalate messages)
  | .invalid path message => .ofMessage s!"Shader {path.text} invalid: {message}"

/-- The oldest version that the front end reads. -/
def oldestVersion : Nat := 440

/-- The digits that an older version is read as. -/
def readAsVersion : String := "450"

/-- The largest number that a version directive can have. -/
def largestVersion : Nat := 65535

/-- The text that the front end gets, for a limit on the version. -/
def gateVersion (limit : Nat) (text : String) : Except CompileError String :=
  match VersionDirective.find? text with
  | none => .ok text
  | some directive =>
    match readUnsigned largestVersion directive.digits with
    | .error error => .error (.versionNumber error)
    | .ok version =>
      if limit < version then .error (.versionAboveLimit version limit)
      else if version < oldestVersion then .ok (directive.withDigits readAsVersion)
      else .ok text

/-- A front end, and the newest version that shaders may ask for. -/
structure Compiler (Module : Type) where
  frontend : Frontend Module
  limit : Nat

namespace Compiler

variable {Module : Type}

/-- The text of a source with its include lines expanded. -/
def expandedText (tree : FileTree) (source : ShaderSource) (sources : NamedSources) :
    Except CompileError String :=
  match source.text tree with
  | .error error => .error (.source error)
  | .ok text =>
    match sources.expand tree text with
    | .error error => .error (.inclusion error)
    | .ok expanded => .ok expanded

/-- The module that the front end makes of a text. -/
def build (compiler : Compiler Module) (kind : ShaderKind) (path : Path) (text : String) :
    Except CompileError Module :=
  match compiler.frontend.parse kind text with
  | .error messages => .error (.parse path messages)
  | .ok module =>
    match compiler.frontend.validate module with
    | .error message => .error (.invalid path message)
    | .ok () => .ok module

/-- Compiles a source as a stage of the given type. -/
def compile (compiler : Compiler Module) (tree : FileTree) (stageType : StageType)
    (source : ShaderSource) (sources : NamedSources) :
    Except CompileError (CompiledStage Module) :=
  match stageType.kind? with
  | none => .error (.unsupportedStage stageType)
  | some kind => do
    let expanded ← expandedText tree source sources
    let text ← gateVersion compiler.limit expanded
    let module ← compiler.build kind source.path text
    return ⟨stageType, module⟩

end Compiler

/-! ### Linking -/

/-- Why stages form no program. -/
inductive LinkError
  /-- Two stages have one type. -/
  | repeatedStage (stageType : StageType)
  /-- A compute stage stands beside others. -/
  | computeWithGraphics
  /-- There is no stage. -/
  | noStage
  /-- There is no vertex stage. -/
  | missingVertex
  /-- The fragment stage reads a location that the vertex stage does not write. -/
  | unwrittenInput (location : Nat)
deriving DecidableEq, Repr

/-- The wording of a link error. -/
def LinkError.chain : LinkError → ErrorChain
  | .repeatedStage stageType => .ofMessage s!"More than one {stageType.token} attached"
  | .computeWithGraphics => .ofMessage "Compute shaders can't be linked with graphics stages"
  | .noStage => .ofMessage "No shader attached"
  | .missingVertex => .ofMessage "Missing vertex shader"
  | .unwrittenInput location =>
    .ofMessage s!"Fragment input at location {location} is not written by the vertex shader"

/-- The first value that is equal to one before it. -/
def firstRepeated? {α : Type} [DecidableEq α] (seen : List α) : List α → Option α
  | [] => none
  | value :: rest => if value ∈ seen then some value else firstRepeated? (value :: seen) rest

namespace Compiler

variable {Module : Type}

/-- The smallest location that the fragment module reads and the vertex module does not write. -/
def unwrittenLocation? (frontend : Frontend Module) (vertex fragment : Module) : Option Nat :=
  ((frontend.inputLocations .fragment fragment).filter
    (· ∉ frontend.outputLocations .vertex vertex)).min?

/-- The first stage of a type. -/
def stageOf? (stages : List (CompiledStage Module)) (stageType : StageType) :
    Option (CompiledStage Module) :=
  stages.find? fun stage => stage.stageType = stageType

/-- Checks the interface between the vertex stage and the fragment stage, if there is one. -/
def linkGraphics (frontend : Frontend Module) (stages : List (CompiledStage Module)) :
    Except LinkError Unit :=
  match stageOf? stages .vertex with
  | none => .error .missingVertex
  | some vertex =>
    match stageOf? stages .fragment with
    | none => .ok ()
    | some fragment =>
      match unwrittenLocation? frontend vertex.module fragment.module with
      | none => .ok ()
      | some location => .error (.unwrittenInput location)

/-- Checks that the stages form one program. -/
def link (compiler : Compiler Module) (stages : List (CompiledStage Module)) :
    Except LinkError Unit :=
  match firstRepeated? [] (stages.map CompiledStage.stageType) with
  | some stageType => .error (.repeatedStage stageType)
  | none =>
    let graphics := stages.any fun stage => stage.stageType.isGraphics
    let compute := stages.any fun stage => !stage.stageType.isGraphics
    if compute && graphics then .error .computeWithGraphics
    else if graphics then linkGraphics compiler.frontend stages
    else if compute then .ok ()
    else .error .noStage

/-! ### Checking without a graphics processor -/

/-- The device that compiles and links with a compiler, shown in reports as the given driver. -/
def device (compiler : Compiler Module) (tree : FileTree) (driver : DriverInfo) :
    Device Unit (CompiledStage Module) where
  activate _ := (true, ())
  deactivate _ := ()
  driverInfo _ := driver
  compile stageType source sources _ :=
    ((compiler.compile tree stageType source sources).mapError CompileError.chain, ())
  link stages _ := ((compiler.link stages).mapError LinkError.chain, ())

end Compiler

end ShaderCheck
