/-
**Shader stages and their sources.**

There are six types of shader stage, each named by a token. A shader's text comes from a file, with
layers of replacements on top. Nothing is read before the text is asked for.

* `StageType.token`, `StageType.ofToken?`: from a stage type to its token and back;
* `StageType.isGraphics`: every stage type but compute;
* `ShaderSource.withReplacements`: one more layer;
* `ShaderSource.text`: the file's text with every layer applied, the innermost first.
-/

import ShaderCheck.FileTree
import ShaderCheck.Message
import ShaderCheck.Text

namespace ShaderCheck

open Text

/-! ### Stages -/

/-- The type of a shader stage. -/
inductive StageType
  | vertex
  | tessControl
  | tessEvaluation
  | geometry
  | fragment
  | compute
deriving DecidableEq, Repr

namespace StageType

/-- The stage types in the order of the pipeline, compute last. -/
def all : List StageType :=
  [.vertex, .tessControl, .tessEvaluation, .geometry, .fragment, .compute]

/-- The token that names a stage type. -/
def token : StageType → String
  | .vertex => "GL_VERTEX_SHADER"
  | .tessControl => "GL_TESS_CONTROL_SHADER"
  | .tessEvaluation => "GL_TESS_EVALUATION_SHADER"
  | .geometry => "GL_GEOMETRY_SHADER"
  | .fragment => "GL_FRAGMENT_SHADER"
  | .compute => "GL_COMPUTE_SHADER"

/-- The stage type that a token names, letter for letter. -/
def ofToken? (token : String) : Option StageType :=
  all.find? fun stageType => stageType.token = token

/-- Whether the stage is part of the graphics pipeline. -/
def isGraphics : StageType → Bool
  | .compute => false
  | _ => true

end StageType

/-! ### Sources -/

/-- A file, or a source with replacements to make in its text. -/
inductive ShaderSource
  | file (path : Path)
  | template (source : ShaderSource) (replacements : List Replacement)
deriving DecidableEq, Repr

/-- A shader's file has no text. -/
structure SourceError where
  path : Path
  cause : FileError
deriving DecidableEq, Repr

/-- The wording of a source error. -/
def SourceError.chain (error : SourceError) : ErrorChain :=
  ⟨s!"Couldn't read shader {error.path.text}", [error.cause.message]⟩

namespace ShaderSource

/-- The source with one more layer of replacements; without any it is the source itself. -/
def withReplacements (source : ShaderSource) (replacements : List Replacement) : ShaderSource :=
  if replacements = [] then source else .template source replacements

/-- The file that the text comes from. -/
def path : ShaderSource → Path
  | .file path => path
  | .template source _ => source.path

/-- The text, every layer of replacements made. -/
def text (tree : FileTree) : ShaderSource → Except SourceError String
  | .file path =>
    match tree.readText path with
    | .ok text => .ok text
    | .error cause => .error ⟨path, cause⟩
  | .template source replacements => do
    return replaceAll (← source.text tree) replacements

end ShaderSource

end ShaderCheck
