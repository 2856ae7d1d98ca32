/-
**Building programs.**

A program is built from the terms of a text, one after the other. While a routine is built, its nodes
are put in a row, and its steps in a body. Nodes that are not worked out yet wait until a step needs
them to be. What does not fit ends the building.

* `Build`: building with what is known so far;
* `Build.addNode`, `Build.addStep`, `Build.newBody`: the parts of a routine;
* `Build.typeOf`, `Build.solve`: what is known of a node.
-/

import ShaderCheck.Glsl.Constant
import ShaderCheck.Glsl.Intrinsic
import ShaderCheck.Glsl.Program
import ShaderCheck.Glsl.Type

namespace ShaderCheck.Glsl

/-! ### What names stand for -/

/-- What a name stands for in a routine. -/
structure Reference where
  /-- The node of the variable. -/
  node : Nat
  /-- Whether the node is a place from which the value is loaded. -/
  loads : Bool
  isWritable : Bool
  /-- The constant that it is, if it is one. -/
  constant : Option Constant
deriving Repr

/-- What a name stands for in all routines. -/
inductive GlobalTarget
  | whole (place : Nat)
  /-- A member of a block. -/
  | member (place position : Nat)
  | constant (place : Nat)
deriving Repr

/-- A name that all routines know. -/
structure GlobalName where
  name : String
  target : GlobalTarget
  isWritable : Bool
deriving Repr

/-- A value that gets into the stage or out of it, through a global variable. -/
structure Passage where
  binding : Binding
  place : Nat
  isOutput : Bool
deriving Repr

/-! ### What is known -/

/-- The part of a routine that is built. -/
structure RoutineState where
  nodes : Array Node
  /-- The types of nodes that are worked out. -/
  types : Array Ty
  locals : Array LocalVariable
  arguments : List Ty
  parameters : List Parameter
  /-- The steps of the body, the last one first. -/
  body : List Step
  /-- The first node that waits to be worked out. -/
  waiting : Nat
  /-- What names stand for, in the innermost scope first. -/
  scopes : List (List (String × Reference))
  /-- The samplers that images are joined with. -/
  samplers : List (Nat × Nat)

/-- A routine of which nothing is built. -/
def RoutineState.empty : RoutineState := ⟨#[], #[], #[], [], [], [], 0, [[]], []⟩

/-- What is known of a program. -/
structure BuildState where
  version : Nat
  program : Program
  names : List GlobalName
  /-- The types that structures have, the last one first. -/
  structures : List (String × Ty)
  functions : List (String × FunctionGroup)
  passages : List Passage
  routine : RoutineState

/-- A program of which nothing is known. -/
def BuildState.start (version : Nat) : BuildState :=
  ⟨version, .empty, [], [], [], [], .empty⟩

/-- Building with what is known so far; it ends where something does not fit. -/
abbrev Build := StateT BuildState Option

namespace Build

/-! ### Parts of a program -/

/-- The program as far as it is built. -/
def program : Build Program :=
  return (← get).program

/-- Changes the program. -/
def modifyProgram (change : Program → Program) : Build Unit :=
  modify fun state => { state with program := change state.program }

/-- The routine as far as it is built. -/
def routine : Build RoutineState :=
  return (← get).routine

/-- Changes the routine. -/
def modifyRoutine (change : RoutineState → RoutineState) : Build Unit :=
  modify fun state => { state with routine := change state.routine }

/-- Gives the value that there is, or ends the building. -/
def orFail {α : Type} (value? : Option α) : Build α :=
  value?.elim failure pure

/-- Makes use of a type. -/
def useType (type : Ty) : Build Unit :=
  modifyProgram fun program => { program with types := program.types.push type }

/-- Adds a record, and gives its type. -/
def addRecordType (record : Record) : Build Ty := do
  let (records, place) := addRecord (← program).records record
  modifyProgram fun program => { program with records }
  return .record place

/-- A type as it is laid out in a block. -/
def placeType (layout : BlockLayout) (type : Ty) : Build Placed := do
  let (records, placed) ← orFail (placeType? layout layoutDepth (← program).records type)
  modifyProgram fun program => { program with records }
  return placed

/-! ### Nodes and steps -/

/-- Has the waiting nodes worked out. -/
def flush : Build Unit :=
  modifyRoutine fun routine =>
    if routine.waiting < routine.nodes.size then
      { routine with
        body := .work routine.waiting routine.nodes.size :: routine.body
        waiting := routine.nodes.size }
    else routine

/-- Adds a node that needs not be worked out. -/
def addGivenNode (node : Node) : Build Nat := do
  let place := (← routine).nodes.size
  modifyRoutine fun routine =>
    { routine with nodes := routine.nodes.push node, waiting := routine.nodes.size + 1 }
  return place

/-- Adds a node. -/
def addNode (node : Node) : Build Nat := do
  if node.isGiven then
    flush
    addGivenNode node
  else
    let place := (← routine).nodes.size
    modifyRoutine fun routine => { routine with nodes := routine.nodes.push node }
    return place

/-- Adds a step. -/
def addStep (step : Step) : Build Unit :=
  modifyRoutine fun routine => { routine with body := step :: routine.body }

/-- Adds a step after the waiting nodes are worked out. -/
def addStepAfterNodes (step : Step) : Build Unit := do
  flush
  addStep step

/-- Builds on steps, and gives all of them. -/
def withBody {α : Type} (steps : List Step) (build : Build α) : Build (List Step × α) := do
  flush
  let outer := (← routine).body
  modifyRoutine fun routine => { routine with body := steps.reverse }
  let result ← build
  flush
  let inner := (← routine).body
  modifyRoutine fun routine => { routine with body := outer }
  return (inner.reverse, result)

/-- Builds steps. -/
def newBody {α : Type} (build : Build α) : Build (List Step × α) :=
  withBody [] build

/-- The number of steps of the body. -/
def stepCount : Build Nat :=
  return (← routine).body.length

/-- Leaves out all steps but the first ones. -/
def keepSteps (count : Nat) : Build Unit :=
  modifyRoutine fun routine => { routine with body := routine.body.drop (routine.body.length - count) }

/-- Adds a variable of the call, and gives its node. -/
def addLocal (type : Ty) (value : Option Nat) : Build Nat := do
  let place := (← routine).locals.size
  modifyRoutine fun routine => { routine with locals := routine.locals.push ⟨type, value⟩ }
  addNode (.localVariable place)

/-! ### Types and constants -/

/-- What the types of nodes hang on. -/
def scope : Build TypeScope := do
  let program ← program
  let routine ← routine
  return {
    records := program.records
    constants := program.constants
    globals := program.globals
    results := program.routines.map (·.result)
    arguments := routine.arguments
    locals := routine.locals
  }

/-- The type of a node. The types of all nodes so far are worked out along with it. -/
def typeOf (place : Nat) : Build Ty := do
  let routine ← routine
  if routine.types.size ≤ place then
    let scope ← scope
    let types ← orFail <|
      (routine.nodes.extract routine.types.size).foldlM
        (fun types node => (node.type? scope types).map types.push) routine.types
    modifyRoutine fun routine => { routine with types }
    orFail types[place]?
  else orFail routine.types[place]?

/-- Works out the type of a node anew, if it is worked out. -/
def retype (place : Nat) : Build Unit := do
  let routine ← routine
  match routine.nodes[place]? with
  | some node =>
    if place < routine.types.size then
      let type ← orFail (node.type? (← scope) routine.types)
      modifyRoutine fun routine => { routine with types := routine.types.set! place type }
  | none => failure

/-- The place of the value of a node among the constant nodes, if the node is constant. -/
def solve (place : Nat) : Build (Option Nat) := do
  let program ← program
  let (constantNodes, value?) :=
    evaluate program.constants program.constantNodes (← routine).nodes place
  modifyProgram fun program => { program with constantNodes }
  return value?

/-- The integer that a constant node is, if it is not below zero. -/
def naturalOf? (place : Nat) : Build (Option Nat) := do
  let program ← program
  let node? :=
    match program.constantNodes[place]? with
    | some (.constant place) =>
      (program.constants[place]?).bind fun constant => program.constantNodes[constant.value]?
    | node? => node?
  match node? with
  | some (.literal (.uint value)) => return some value
  | some (.literal (.int value)) => return if value < 0 then none else some value.toNat
  | _ => return none

/-- Does something in a routine of its own that knows what all routines know, and leaves the routine that
is built as it is. -/
def apart {α : Type} (enter : Build Unit) (build : Build α) : Build (RoutineState × α) := do
  let outer ← routine
  modifyRoutine fun _ => .empty
  enter
  let result ← build
  let inner ← routine
  modifyRoutine fun _ => outer
  return (inner, result)

end Build

end ShaderCheck.Glsl
