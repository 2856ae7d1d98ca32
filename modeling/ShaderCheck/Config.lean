/-
**Configurations.**

The `opengl` section asks for a context by version, profile and adapter. A version is two numbers
with a dot between them: the major number from 1 to 255, the minor number from 0 to 9. Folders of named
strings are listed, and programs; a program lists its shaders. Each is read from JSON by itself, and the
first thing wrong with it is the error: it names the key or the value at fault.

* `ConfigError.message`: the wording of an error;
* `ConfigError.isResource`: whether the environment is at fault, not the configuration;
* `ContextVersion.ofString?`, `ContextConfig.ofJson`: a version from its spelling, and a context;
* `ContextConfig.glslVersion`: the newest `#version` that the context takes;
* `SourceFolder.ofJson`: an element of `namedStringPaths`;
* `ProgramDescriptor.ofJson`, `ShaderDescriptor.ofJson`: an element of `programs`, its shaders unread, and
  an element of its `shaders`.
-/

import ShaderCheck.Json.Basic
import ShaderCheck.Ordered
import ShaderCheck.Shader
import ShaderCheck.Text

namespace ShaderCheck

open Text

/-! ### Errors -/

/-- Why a configuration cannot be run. -/
inductive ConfigError
  | propertyNotFoundOrNotAnObject (key : String)
  | arrayNotFoundOrEmpty (key : String)
  | elementNotObject (key : String)
  | propertyNotFoundOrWrongFormat (key : String)
  | elementWrongFormat (key : String)
  | propertyWrongFormat (key : String)
  | noFilesWithExtensionFound (folder : String)
  | directoryScanFailed (folder : String) (reason : String)
  | shaderTypeNotFound (token : String)
  | contextCreationFailed (reason : String)
  | contextActivationFailed
deriving DecidableEq, Repr

namespace ConfigError

/-- The wording of a configuration error. -/
def message : ConfigError → String
  | .propertyNotFoundOrNotAnObject key => s!"property \"{key}\" not found or not an object"
  | .arrayNotFoundOrEmpty key => s!"array \"{key}\" not found or empty"
  | .elementNotObject key => s!"elements of \"{key}\" must be objects"
  | .propertyNotFoundOrWrongFormat key =>
    s!"property \"{key}\" not found or has the wrong format"
  | .elementWrongFormat key => s!"elements of \"{key}\" have the wrong format"
  | .propertyWrongFormat key => s!"property \"{key}\" has the wrong format"
  | .noFilesWithExtensionFound folder =>
    s!"no files with the requested extensions found in \"{folder}\""
  | .directoryScanFailed folder reason => s!"couldn't scan \"{folder}\": {reason}"
  | .shaderTypeNotFound token => s!"unknown shader type \"{token}\""
  | .contextCreationFailed reason => s!"context creation failed: {reason}"
  | .contextActivationFailed => "context activation failed"

/-- Whether the error comes from the environment, not from the configuration. -/
def isResource : ConfigError → Bool
  | .noFilesWithExtensionFound _ | .directoryScanFailed _ _ | .contextCreationFailed _
  | .contextActivationFailed => true
  | _ => false

end ConfigError

/-! ### The context that shaders are checked against -/

/-- Which functions a context offers. -/
inductive Profile
  | core
  | compatibility
deriving DecidableEq, Repr

/-- The name of a profile. -/
def Profile.name : Profile → String
  | .core => "core"
  | .compatibility => "compatibility"

/-- The profile of a name. -/
def Profile.ofName? : String → Option Profile
  | "core" => some .core
  | "compatibility" => some .compatibility
  | _ => none

/-- The version of a context. -/
structure ContextVersion where
  major : Nat
  minor : Nat
  major_pos : 0 < major
  major_le : major ≤ 255
  minor_le : minor ≤ 9
deriving DecidableEq

namespace ContextVersion

/-- The version with these numbers, if they are in range. -/
def ofNumbers? (major minor : Nat) : Option ContextVersion :=
  if inRange : 0 < major ∧ major ≤ 255 ∧ minor ≤ 9 then
    some ⟨major, minor, inRange.1, inRange.2.1, inRange.2.2⟩
  else none

/-- The version that a text spells: the major number before the first dot, the minor after it. -/
def ofString? (text : String) : Option ContextVersion :=
  match text.toList.dropWhile (· ≠ '.') with
  | [] => none
  | _ :: minor =>
    match readUnsigned 255 (text.toList.takeWhile (· ≠ '.')), readUnsigned 255 minor with
    | .ok major, .ok minor => ofNumbers? major minor
    | _, _ => none

/-- The number of a version in a `#version` directive: 450 for 4.5. -/
def glslVersion (version : ContextVersion) : Nat :=
  version.major * 100 + version.minor * 10

end ContextVersion

/-- The context that a configuration asks for. -/
structure ContextConfig where
  version : ContextVersion
  profile : Profile
  fallbackAdapter : Bool
deriving DecidableEq

namespace ContextConfig

/-- The context when nothing is asked for: 4.5, core, on any adapter. -/
def default : ContextConfig :=
  ⟨⟨4, 5, by decide, by decide, by decide⟩, .core, false⟩

instance : Inhabited ContextConfig := ⟨default⟩

/-- The newest `#version` that the context takes. -/
def glslVersion (config : ContextConfig) : Nat :=
  config.version.glslVersion

/-- The value of an optional property: `fallback` when it is absent. -/
def property {α : Type} (object : Json) (key : String) (read : Json → Option α) (fallback : α) :
    Except ConfigError α :=
  match object.field? key with
  | none => .ok fallback
  | some value =>
    match read value with
    | some result => .ok result
    | none => .error (.propertyWrongFormat key)

/-- The context that a section asks for. -/
def ofJson (contextSection : Json) : Except ConfigError ContextConfig := do
  let version ← property contextSection "version"
    (fun value => value.asText?.bind ContextVersion.ofString?) default.version
  let profile ← property contextSection "profile"
    (fun value => value.asText?.bind Profile.ofName?) default.profile
  let fallbackAdapter ← property contextSection "fallbackAdapter" Json.asFlag?
    default.fallbackAdapter
  return ⟨version, profile, fallbackAdapter⟩

end ContextConfig

/-! ### Folders, programs and shaders -/

/-- The items of an array that has at least one. -/
def Json.nonemptyArray (value : Json) (key : String) : Except ConfigError (List Json) :=
  match (value.field? key).bind Json.asArray? with
  | some (item :: items) => .ok (item :: items)
  | _ => .error (.arrayNotFoundOrEmpty key)

/-- The text of a property that must be there. -/
def Json.requiredText (value : Json) (key : String) : Except ConfigError String :=
  match (value.field? key).bind Json.asText? with
  | some text => .ok text
  | none => .error (.propertyNotFoundOrWrongFormat key)

/-- Fails unless an element of the array `key` is an object. -/
def Json.requireObject (value : Json) (key : String) : Except ConfigError Unit :=
  match value.asObject? with
  | some _ => .ok ()
  | none => .error (.elementNotObject key)

/-- A folder whose files become named sources. -/
structure SourceFolder where
  path : Path
  /-- The wanted extensions, without dot, strictly increasing. -/
  extensions : List String
  /-- What takes the folder's place in the names, if anything does. -/
  aliasText : Option String
deriving DecidableEq, Repr

/-- The folder that an element of `namedStringPaths` names, relative to `base`. -/
def SourceFolder.ofJson (value : Json) (base : Path) : Except ConfigError SourceFolder := do
  value.requireObject "namedStringPaths"
  let path ← value.requiredText "path"
  let items ← value.nonemptyArray "extensions"
  let extensions ←
    match items.mapM Json.asText? with
    | some extensions => pure (Ordered.ofList extensions)
    | none => throw (.elementWrongFormat "extensions")
  let aliasText ←
    match value.field? "alias" with
    | none => pure none
    | some (.string aliasText) => pure (some aliasText)
    | some _ => throw (.propertyWrongFormat "alias")
  return ⟨base.join (.ofText path), extensions, aliasText⟩

/-- A program: its name and the descriptions of its shaders, which are read when they are built. -/
structure ProgramDescriptor where
  name : String
  shaders : List Json

/-- The program that an element of `programs` describes. -/
def ProgramDescriptor.ofJson (value : Json) : Except ConfigError ProgramDescriptor := do
  value.requireObject "programs"
  let name ← value.requiredText "name"
  let shaders ← value.nonemptyArray "shaders"
  return ⟨name, shaders⟩

/-- A shader of a program. -/
structure ShaderDescriptor where
  file : Path
  name : Option String
  stageType : StageType
  replacements : List Replacement
deriving DecidableEq, Repr

namespace ShaderDescriptor

/-- The replacements that the members of an object ask for, in the order of their keys. -/
def replacementsOf : List (String × Json) → Except ConfigError (List Replacement)
  | [] => .ok []
  | (placeholder, .string value) :: rest => do
    return ⟨placeholder, value⟩ :: (← replacementsOf rest)
  | (placeholder, _) :: _ => .error (.propertyWrongFormat placeholder)

/-- The shader that an element of `shaders` describes, relative to `base`. -/
def ofJson (value : Json) (base : Path) : Except ConfigError ShaderDescriptor := do
  value.requireObject "shaders"
  let file ← value.requiredText "file"
  let name := (value.field? "name").bind Json.asText?
  let token ← value.requiredText "type"
  let stageType ←
    match StageType.ofToken? token with
    | some stageType => pure stageType
    | none => throw (.shaderTypeNotFound token)
  let replacements ←
    match value.field? "replacements" with
    | none => pure []
    | some (.object members) => replacementsOf members
    | some _ => throw (.propertyWrongFormat "replacements")
  return ⟨base.join (.ofText file), name, stageType, replacements⟩

/-- The source of the shader. -/
def source (descriptor : ShaderDescriptor) : ShaderSource :=
  (ShaderSource.file descriptor.file).withReplacements descriptor.replacements

end ShaderDescriptor

end ShaderCheck
