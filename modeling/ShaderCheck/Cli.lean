/-
**The command.**

The command takes one file and a few flags, in any order. A flag may be given once; short flags may be
put together behind one dash; `--` makes everything after it a file. The file is looked at when the
next flag comes, or at the end, so the first fault in that order is the error. An argument that the
command does not know is told at once.

The file is a text of one JSON value, a configuration. The command runs it and prints the report. It fails
when the file cannot be loaded or the configuration cannot be run, and under `--strict` also when anything
in the report failed.

* `Arguments.parse`: the arguments of a command line;
* `Arguments.logFilter`: which records the log shows;
* `Command.run`: what the command prints and the code it ends with.
-/

import ShaderCheck.FileTree
import ShaderCheck.Json.Parser
import ShaderCheck.Message
import ShaderCheck.Pipeline

namespace ShaderCheck

/-! ### Arguments -/

/-- What the command is asked to do. -/
structure Arguments where
  config : Path
  strict : Bool
  verbose : Bool
  quiet : Bool
deriving DecidableEq, Repr

/-- Why a command line asks for no run. -/
inductive ArgumentError
  /-- The file is missing. -/
  | missingRequired
  /-- The command has no such argument. -/
  | unknownArgument
  /-- The file is no configuration. -/
  | valueValidation
  /-- A flag is given twice, or with one that it excludes. -/
  | argumentConflict
  /-- A flag is given a value. -/
  | tooManyValues
  /-- The help is asked for. -/
  | displayHelp
  /-- The version is asked for. -/
  | displayVersion
deriving DecidableEq, Repr

/-- The flags of the command. -/
inductive Flag
  | strict
  | verbose
  | quiet
  | help
  | version
deriving DecidableEq, Repr

/-- The flag of a word behind two dashes. -/
def Flag.ofWord? : String → Option Flag
  | "strict" => some .strict
  | "verbose" => some .verbose
  | "quiet" => some .quiet
  | "help" => some .help
  | "version" => some .version
  | _ => none

/-- The flag of a letter behind one dash. -/
def Flag.ofLetter? : Char → Option Flag
  | 'v' => some .verbose
  | 'q' => some .quiet
  | 'h' => some .help
  | 'V' => some .version
  | _ => none

/-- Whether a text names an existing file that ends in `.json`, with something before that. -/
def isConfigFile (tree : FileTree) (text : String) : Bool :=
  5 < text.utf8ByteSize && ".json".toList.isSuffixOf text.toList && tree.isFile (.ofText text)

namespace Arguments

/-- What is known of a command line that is read in part. -/
structure Draft where
  /-- A file that is not looked at yet. -/
  pending : Option String
  /-- A file that is a configuration. -/
  config : Option Path
  strict : Bool
  verbose : Bool
  quiet : Bool

/-- Nothing is known yet. -/
def Draft.start : Draft := ⟨none, none, false, false, false⟩

namespace Draft

/-- Looks at the file that is pending. -/
def settle (tree : FileTree) (draft : Draft) : Except ArgumentError Draft :=
  match draft.pending with
  | none => .ok draft
  | some text =>
    if isConfigFile tree text then .ok { draft with pending := none, config := some (.ofText text) }
    else .error .valueValidation

/-- Takes a flag. -/
def takeFlag (tree : FileTree) (draft : Draft) (flag : Flag) : Except ArgumentError Draft := do
  let draft ← draft.settle tree
  match flag with
  | .strict => if draft.strict then throw .argumentConflict else return { draft with strict := true }
  | .verbose =>
    if draft.verbose then throw .argumentConflict else return { draft with verbose := true }
  | .quiet => if draft.quiet then throw .argumentConflict else return { draft with quiet := true }
  | .help => throw .displayHelp
  | .version => throw .displayVersion

/-- Takes a word behind two dashes; no flag has a value. -/
def takeWord (tree : FileTree) (draft : Draft) (word : List Char) : Except ArgumentError Draft :=
  match Flag.ofWord? (String.ofList (word.takeWhile (· ≠ '='))) with
  | none => .error .unknownArgument
  | some flag => if '=' ∈ word then .error .tooManyValues else draft.takeFlag tree flag

/-- Takes the letters behind one dash. -/
def takeLetters (tree : FileTree) (draft : Draft) : List Char → Except ArgumentError Draft
  | [] => .ok draft
  | letter :: letters =>
    match Flag.ofLetter? letter with
    | none => .error .unknownArgument
    | some flag => do (← draft.takeFlag tree flag).takeLetters tree letters

/-- Takes a file; there is only one. -/
def takeFile (draft : Draft) (text : String) : Except ArgumentError Draft :=
  if draft.pending.isNone && draft.config.isNone then .ok { draft with pending := some text }
  else .error .unknownArgument

/-- Takes an argument before any `--`. -/
def takeArgument (tree : FileTree) (draft : Draft) (argument : String) :
    Except ArgumentError Draft :=
  match argument.toList with
  | '-' :: '-' :: word => draft.takeWord tree word
  | '-' :: letter :: letters => draft.takeLetters tree (letter :: letters)
  | _ => draft.takeFile argument

/-- The arguments, once all are read. -/
def finish (tree : FileTree) (draft : Draft) : Except ArgumentError Arguments := do
  let draft ← draft.settle tree
  if draft.verbose && draft.quiet then throw .argumentConflict
  match draft.config with
  | none => throw .missingRequired
  | some config => return ⟨config, draft.strict, draft.verbose, draft.quiet⟩

end Draft

/-- Takes arguments in order. -/
def takeAll (tree : FileTree) (draft : Draft) : List String → Except ArgumentError Draft
  | [] => .ok draft
  | "--" :: files => files.foldlM Draft.takeFile draft
  | argument :: rest => do
    let draft ← draft.takeArgument tree argument
    takeAll tree draft rest

/-- The arguments of a command line. -/
def parse (tree : FileTree) (line : List String) : Except ArgumentError Arguments := do
  (← takeAll tree .start line).finish tree

/-- The records that the log shows: the named strings too, or only warnings and errors. -/
def logFilter (arguments : Arguments) : String :=
  if arguments.verbose then "warn,shaderbatch=debug"
  else if arguments.quiet then "warn"
  else "warn,shaderbatch=info"

end Arguments

/-! ### Configuration files -/

/-- Why a file holds no configuration. -/
inductive LoadError
  | unreadable (path : Path) (cause : FileError)
  | invalid (path : Path) (cause : JsonError)
deriving DecidableEq, Repr

/-- The wording of a load error. -/
def LoadError.chain : LoadError → ErrorChain
  | .unreadable path cause => ⟨s!"Couldn't read {path.text}", [cause.message]⟩
  | .invalid path cause => ⟨s!"Couldn't parse {path.text}", [cause.message]⟩

/-- The JSON value that a file holds. -/
def loadConfig (tree : FileTree) (path : Path) : Except LoadError Json :=
  match tree.readText path with
  | .error cause => .error (.unreadable path cause)
  | .ok text =>
    match Json.parse text with
    | .error cause => .error (.invalid path cause)
    | .ok value => .ok value

/-! ### Runs -/

namespace Command

/-- What a command prints and the code it ends with. -/
structure Outcome where
  code : Nat
  output : String
  errors : String
deriving DecidableEq, Repr

/-- The error of a configuration that cannot be run. -/
def runError (config : Path) (error : ConfigError) : ErrorChain :=
  let kind :=
    if error.isResource then "Shader environment is not usable" else "Invalid configuration"
  ⟨s!"{kind} in {config.text}", [error.message]⟩

/-- The error of a report with failures. -/
def strictError (report : BuildReport) : ErrorChain :=
  let compile := report.compileFailures.length
  let link := report.linkFailures.length
  .ofMessage
    s!"{compile} shader(s) failed to compile, {link} program(s) failed to build"

/-- The outcome of an error. -/
def failed (output : String) (error : ErrorChain) : Outcome :=
  ⟨1, output, error.report⟩

/-- The outcome of a run. -/
def conclude (arguments : Arguments) : Except ConfigError BuildReport → Outcome
  | .error error => failed "" (runError arguments.config error)
  | .ok report =>
    let output := report.text ++ "\n"
    if arguments.strict && !report.isClean then failed output (strictError report)
    else ⟨0, output, ""⟩

/-- The outcome for arguments that are understood. -/
def runWith (tree : FileTree) (arguments : Arguments) : Outcome :=
  match loadConfig tree arguments.config with
  | .error error => failed "" error.chain
  | .ok config => conclude arguments (process tree config arguments.config.parent).result

/-- The code that a command line which asks for no run ends with. -/
def refusalCode : ArgumentError → Nat
  | .displayHelp | .displayVersion => 0
  | .missingRequired | .unknownArgument | .valueValidation | .argumentConflict | .tooManyValues => 2

/-- What the command does for a command line: its outcome, or the reason why there is no run. -/
def run (tree : FileTree) (line : List String) : Except ArgumentError Outcome :=
  (Arguments.parse tree line).map (runWith tree)

end Command

end ShaderCheck
