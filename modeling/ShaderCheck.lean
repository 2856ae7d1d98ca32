import ShaderCheck.Build
import ShaderCheck.Cli
import ShaderCheck.Compiler
import ShaderCheck.Config
import ShaderCheck.Device
import ShaderCheck.FileTree
import ShaderCheck.Glsl.Binary32
import ShaderCheck.Glsl.Build
import ShaderCheck.Glsl.Call
import ShaderCheck.Glsl.Constant
import ShaderCheck.Glsl.Conversion
import ShaderCheck.Glsl.Declaration
import ShaderCheck.Glsl.Expansion
import ShaderCheck.Glsl.Frontend
import ShaderCheck.Glsl.Grammar
import ShaderCheck.Glsl.Intrinsic
import ShaderCheck.Glsl.Parser
import ShaderCheck.Glsl.Program
import ShaderCheck.Glsl.Statement
import ShaderCheck.Glsl.Token
import ShaderCheck.Glsl.Type
import ShaderCheck.Glsl.Validity.Operations
import ShaderCheck.Glsl.Validity.Routines
import ShaderCheck.Glsl.Validity.Steps
import ShaderCheck.Glsl.Validity.Types
import ShaderCheck.Glsl.Value
import ShaderCheck.Include
import ShaderCheck.Json.Basic
import ShaderCheck.Json.Number
import ShaderCheck.Json.Parser
import ShaderCheck.Json.StringLiteral
import ShaderCheck.Main
import ShaderCheck.Message
import ShaderCheck.Ordered
import ShaderCheck.Path
import ShaderCheck.Pipeline
import ShaderCheck.Proofs.Build.Accounting
import ShaderCheck.Proofs.Build.Agreement
import ShaderCheck.Proofs.Build.Clean
import ShaderCheck.Proofs.Compiler.FirstDirective
import ShaderCheck.Proofs.Compiler.Linking
import ShaderCheck.Proofs.Compiler.VersionGate
import ShaderCheck.Proofs.Compiler.VersionLimit
import ShaderCheck.Proofs.Compiler.VersionPattern
import ShaderCheck.Proofs.Config.ContextVersion
import ShaderCheck.Proofs.FileTree.Walk
import ShaderCheck.Proofs.Glsl.Lexing
import ShaderCheck.Proofs.Glsl.Numeral
import ShaderCheck.Proofs.Glsl.VersionLine
import ShaderCheck.Proofs.Include.Aliased
import ShaderCheck.Proofs.Include.Detours
import ShaderCheck.Proofs.Include.Failure
import ShaderCheck.Proofs.Include.Graph
import ShaderCheck.Proofs.Include.Inlining
import ShaderCheck.Proofs.Include.LookUps
import ShaderCheck.Proofs.Include.Nesting
import ShaderCheck.Proofs.Include.Normal
import ShaderCheck.Proofs.Include.Recognition
import ShaderCheck.Proofs.Include.Sibling
import ShaderCheck.Proofs.Include.Spelling
import ShaderCheck.Proofs.Include.Stable
import ShaderCheck.Proofs.Path
import ShaderCheck.Proofs.Pipeline.Documented
import ShaderCheck.Proofs.Pipeline.Isolation
import ShaderCheck.Proofs.Pipeline.Outcome
import ShaderCheck.Proofs.Pipeline.Protocol
import ShaderCheck.Proofs.Pipeline.Sessions
import ShaderCheck.Proofs.Registry
import ShaderCheck.Proofs.Registry.FinalSlash
import ShaderCheck.Proofs.Registry.Folders
import ShaderCheck.Proofs.Report
import ShaderCheck.Proofs.Scan.Chain
import ShaderCheck.Proofs.Scan.Listing
import ShaderCheck.Proofs.Scan.Membership
import ShaderCheck.Proofs.Table
import ShaderCheck.Proofs.Text.Lines
import ShaderCheck.Proofs.Text.Pattern
import ShaderCheck.Proofs.Text.Substitution
import ShaderCheck.Proofs.Text.Utf8
import ShaderCheck.Registry
import ShaderCheck.Shader
import ShaderCheck.Text
import ShaderCheck.Text.Characters
