/-
**The GLSL front end.**

The tokens of a shader text are a unit once its directives are carried out: definitions replaced, lines
left out that a condition excludes. The version may be told first of all and nowhere else. A text becomes a
module if its terms can be read, a program can be built from them, and it has a main function. The module
is valid if the program is, and the stage can do what its main function does.

* `versionOf?`: the number of the version directive that a text begins with, comments aside;
* `CompilationUnit.ofText?`: the unit of a text, if all its directives can be carried out;
* `Module.ofText?`: the module of a text;
* `frontend`: how texts become modules, and what is known of a module.
-/

import ShaderCheck.Glsl.Declaration
import ShaderCheck.Glsl.Expansion
import ShaderCheck.Glsl.Parser
import ShaderCheck.Glsl.Statement
import ShaderCheck.Glsl.Validity.Routines

namespace ShaderCheck.Glsl

/-! ### The version -/

/-- What follows the word `version` in the directive that a line is. -/
def versionLine? : List Lexeme → Option (List Token)
  | ⟨.mark "#", _, _⟩ :: ⟨.word "version", _, _⟩ :: rest => some (rest.map (·.token))
  | _ => none

/-- The number of the version directive that a text begins with, comments aside. -/
def versionOf? (text : String) : Option Nat := do
  let line ← (logicalLines text).find? fun line => !line.all (isSpace ·.1)
  match ← versionLine? (← lexemesOf? line) with
  | .integer version _ :: _ => some version
  | _ => none

/-- The versions that can be asked for. -/
def knownVersions : List Nat := [440, 450, 460]

/-- The version of a text that asks for none. -/
def defaultVersion : Nat := 440

/-- The version that the tokens after `#version` ask for. -/
def requestedVersion? : List Token → Option Nat
  | [.integer version _] | [.integer version _, .word "core"] =>
    if knownVersions.contains version then some version else none
  | _ => none

/-! ### Directives -/

namespace Source

/-- Whether the next line is read. -/
def isReading (source : Source) : Bool :=
  (source.groups.head?.map (·.isRead)).getD true

/-- Whether the condition that a line spells holds; none if it is not a condition. -/
def condition? (source : Source) (line : List Lexeme) : Option Bool :=
  (conditionValue? source.definitions line).map (· ≠ 0)

/-- Whether the one word that the tokens are is defined. -/
def wordDefined? (source : Source) : List Token → Option Bool
  | [.word name] => some (source.defines name)
  | _ => none

/-- Opens a condition. -/
def openGroup? (source : Source) (holds? : Option Bool) : Option Source :=
  holds?.map fun holds => { source with groups := ⟨holds, holds, false⟩ :: source.groups }

/-- Goes on to the next group of the innermost condition. -/
def nextGroup? (source : Source) (isLast : Bool) (holds? : Option Bool) : Option Source :=
  match source.groups with
  | [] => none
  | group :: outer =>
    if group.isLast then none
    else if group.isSettled then some { source with groups := ⟨false, true, isLast⟩ :: outer }
    else holds?.map fun holds => { source with groups := ⟨holds, holds, isLast⟩ :: outer }

/-- Makes a definition; a word has the same one or none before. -/
def define? (source : Source) (definition : Definition) : Option Source :=
  match source.definitions.find? (·.name = definition.name) with
  | some earlier => if earlier.isSame definition then some source else none
  | none => some { source with definitions := definition :: source.definitions }

/-- Whether the tokens of an extension directive are a name, a colon and what to do. -/
def isExtension : List Token → Bool
  | [.word _, .mark ":", .word behaviour] =>
    ["require", "enable", "warn", "disable"].contains behaviour
  | _ => false

/-- The word that a directive starts with. -/
def directiveWord? : List Lexeme → Option String
  | ⟨.word name, _, _⟩ :: _ => some name
  | _ => none

/-- Carries out a directive in lines that are read. -/
def carryOutRead? (source : Source) (directive : List Lexeme) : Option Source :=
  let tokens := directive.tail.map (·.token)
  match directiveWord? directive with
  | some "if" => source.openGroup? (source.condition? directive.tail)
  | some "ifdef" => source.openGroup? (source.wordDefined? tokens)
  | some "ifndef" => source.openGroup? ((source.wordDefined? tokens).map (!·))
  | some "define" => (Definition.ofLexemes? directive.tail).bind source.define?
  | some "undef" =>
    match tokens with
    | [.word name] => some { source with definitions := source.definitions.filter (·.name ≠ name) }
    | _ => none
  | some "extension" => if isExtension tokens then some source else none
  | some "line" => if isLineNumber source.definitions directive.tail then some source else none
  | some "pragma" => if tokens.contains (.mark "#") then none else some source
  | _ => none

/-- Carries out a directive in lines that are not read: what it opens is not read either. -/
def carryOutSkipped (source : Source) (directive : List Lexeme) : Source :=
  match directiveWord? directive with
  | some "if" | some "ifdef" | some "ifndef" =>
    { source with groups := ⟨false, true, false⟩ :: source.groups }
  | _ => source

/-- Closes the innermost condition. Nothing stands after the word for that, unless the condition is in lines
that are not read. -/
def closeGroup? (source : Source) (tokens : List Token) : Option Source :=
  match source.groups with
  | [] => none
  | _ :: groups =>
    let closed := { source with groups }
    if tokens = [] || !closed.isReading then some closed else none

/-- Carries out a directive of a line. -/
def carryOut? (source : Source) (directive : List Lexeme) : Option Source :=
  let tokens := directive.tail.map (·.token)
  match directiveWord? directive with
  | some "elif" => source.nextGroup? false (source.condition? directive.tail)
  | some "else" => if tokens = [] then source.nextGroup? true (some true) else none
  | some "endif" => source.closeGroup? tokens
  | _ =>
    if source.isReading then source.carryOutRead? directive
    else some (source.carryOutSkipped directive)

/-- Reads lines up to the next one with tokens for the unit. -/
def skipLines? (source : Source) : List (List Lexeme) → Option Source
  | [] => some { source with lines := [] }
  | [] :: rest => source.skipLines? rest
  | (⟨.mark "#", _, _⟩ :: directive) :: rest => do
    (← source.carryOut? directive).skipLines? rest
  | line :: rest =>
    if source.isReading then some { source with current := line, lines := rest }
    else source.skipLines? rest

end Source

/-! ### Texts -/

/-- A text of which the directives are carried out. -/
structure CompilationUnit where
  version : Nat
  tokens : List Token
deriving DecidableEq, Repr

/-- The definitions of a text that makes none. -/
def predefined : List Definition :=
  [⟨"GL_core_profile", none, [⟨.integer 1 false, true, 0⟩]⟩]

/-- The version of a text, and its lines without the directive that tells it. -/
def splitVersion? (lines : List (List Lexeme)) : Option (Nat × List (List Lexeme)) :=
  let lines := lines.dropWhile List.isEmpty
  match lines.head?.bind versionLine? with
  | none => some (defaultVersion, lines)
  | some tokens => (requestedVersion? tokens).map fun version => (version, lines.tail)

/-- The unit of a text. -/
def CompilationUnit.ofText? (text : String) : Option CompilationUnit := do
  let lines ← (logicalLines text).mapM lexemesOf?
  let (version, lines) ← splitVersion? lines
  let source : Source := ⟨[], lines, predefined, []⟩
  let goOn? (source : Source) : Option Source := source.skipLines? source.lines
  let lexemes ← Expansion.expand? goOn? Expansion.readLimit [] ⟨source, [], []⟩
  return ⟨version, lexemes.map (·.token)⟩

/-! ### Modules -/

/-- A shader stage that is read. -/
structure Module where
  kind : ShaderKind
  program : Program
  /-- What the stage runs: first values of variables, and then the main function. -/
  entry : Routine
  inputs : Interface
  outputs : Interface

namespace Build

/-- The place of the routine of the main function: one that is defined and takes nothing. -/
def mainPlace? (state : BuildState) : Option Nat := do
  let group ← state.functions.lookup "main"
  group.overloads.findSome? fun overload =>
    match overload.callee with
    | .routine place =>
      if overload.isDefined && overload.parameters.isEmpty then some place else none
    | .intrinsic _ => none

/-- What gets into the stage, or out of it. -/
def interfaceOf (state : BuildState) (isOutput : Bool) : Interface :=
  let slots := recordSlots state.program.records
  (state.passages.filter (·.isOutput = isOutput)).foldl
    (fun interface passage =>
      match state.program.globals[passage.place]? with
      | some found => interface.add slots passage.binding found.type
      | none => interface)
    .empty

/-- The program that the terms of a text come down to, with what is known at its end. -/
def build (terms : List TopTerm) : Build Unit := do
  terms.forM addTop
  flush

end Build

/-- The size of a work group of which nothing is said. -/
def defaultGroupSize : ShaderKind → List Nat
  | .compute => [1, 1, 1]
  | .vertex | .fragment => [0, 0, 0]

/-- What a stage runs, if the main function is the routine at a place. -/
def entryRoutine (state : RoutineState) (main : Nat) : Routine :=
  ⟨[], none, #[], state.nodes, state.body.reverse ++ [.call main [] none, .giveBack none]⟩

namespace Module

/-- The module of a text. -/
def ofText? (kind : ShaderKind) (text : String) : Option Module := do
  let unit ← CompilationUnit.ofText? text
  let terms ← topTermsOf? unit.tokens
  let start := BuildState.start unit.version
  let program := { start.program with groupSize := defaultGroupSize kind }
  let (_, state) ← (Build.build terms).run { start with program }
  let main ← Build.mainPlace? state
  return {
    kind
    program := state.program
    entry := entryRoutine state.routine main
    inputs := Build.interfaceOf state false
    outputs := Build.interfaceOf state true
  }

/-- The largest size of a work group in a direction. -/
def largestGroupSize : Nat := 16384

/-- Whether a kind of stage can have work groups of a size: only a compute stage has them. -/
def isValidGroupSize (kind : ShaderKind) (sizes : List Nat) : Bool :=
  match kind with
  | .compute => sizes.all fun size => 0 < size && size ≤ largestGroupSize
  | .vertex | .fragment => sizes.all (· = 0)

/-- Whether the kind of stage can do what the stage runs. -/
def isValidEntry (module : Module) (facts : RoutineFacts) : Bool :=
  match checkRoutine module.program (recordFacts module.program.records) facts module.entry with
  | some facts =>
    ((facts.kinds.back?).getD []).all (· = module.kind) &&
      module.program.allowsUses ((facts.uses.back?).getD [])
  | none => false

/-- Whether a module is valid. -/
def isValid (module : Module) : Bool :=
  match module.program.check with
  | some facts =>
    module.isValidEntry facts && isValidGroupSize module.kind module.program.groupSize &&
      (!module.program.testsEarly || module.kind = .fragment) &&
      module.inputs.isValid module.kind false && module.outputs.isValid module.kind true
  | none => false

end Module

/-- Where the stage begins. It gives back one structure of all that it writes, if that is anything. -/
def Module.entryPoint (module : Module) : EntryPoint where
  kind := module.kind
  arguments := module.inputs.values
  result := if module.outputs.values.isEmpty then none else some (.value none module.outputs.values)

/-- How GLSL texts become modules, and what is known of a module. Of what is wrong with a text or a module
nothing is told. -/
def frontend : Frontend Module where
  parse kind text :=
    match Module.ofText? kind text with
    | some module => .ok module
    | none => .error []
  validate module := if module.isValid then .ok () else .error ""
  entryPoints module := [module.entryPoint]

end ShaderCheck.Glsl
