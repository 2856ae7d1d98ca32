/-
**Valid routines and programs.**

A routine is valid if its arguments, its result and its variables are of types that they can be of, all
its nodes and steps are valid, and its control flow is uniform where it has to be. Routines are checked
in their order, since each calls only earlier ones.

A stage runs many times side by side. A value that is the same for all of these runs is uniform, any
other one varies. Derivatives, and images looked up at a level that hangs on them, compare neighbouring
runs. They are worked out only where all runs come: not on one side of a choice by a value that varies,
nor after some of the runs may have gone back or been discarded.

* `varyingNodes`: the nodes of a routine whose values vary;
* `flowOfSteps?`: what becomes of the runs in steps, if neighbours are compared only where all come;
* `checkRoutine`: what is known of a routine, if it is valid;
* `Program.check`: what is known of all routines, if the program is valid.
-/

import ShaderCheck.Glsl.Program
import ShaderCheck.Glsl.Validity.Steps
import ShaderCheck.Glsl.Validity.Types

namespace ShaderCheck.Glsl

/-! ### Values that vary -/

/-- What becomes of the runs in steps. -/
structure Flow where
  /-- Whether a value that is given back varies. -/
  varies : Bool
  /-- Whether some may go back from the routine while others go on. -/
  mayReturn : Bool
  /-- Whether some may be discarded while others go on. -/
  mayDiscard : Bool
deriving DecidableEq, Repr

namespace Flow

/-- All runs go on alike. -/
def even : Flow := ⟨false, false, false⟩

/-- What becomes of the runs where one of two things may. -/
def join (first second : Flow) : Flow where
  varies := first.varies || second.varies
  mayReturn := first.mayReturn || second.mayReturn
  mayDiscard := first.mayDiscard || second.mayDiscard

/-- Whether some of the runs may be gone afterwards. -/
def mayPart (flow : Flow) : Bool :=
  flow.mayReturn || flow.mayDiscard

end Flow

/-- Whether what is found there varies: what each run has of its own, what runs may write, and images and
samplers. -/
def Space.varies : Space → Bool
  | .call | .run | .handle => true
  | .storage access => access.store
  | .group | .uniform | .push => false

namespace Node

/-- Whether a node varies whatever it is made of. What becomes of the runs in earlier routines is
`flows`. -/
def variesItself (globals : Array GlobalVariable) (flows : Array Flow) : Node → Bool
  | .argument _ | .localVariable _ => true
  | .globalVariable place => (globals[place]?).any (·.space.varies)
  | .callResult routine => (flows[routine]?).any (·.varies)
  | _ => false

/-- Whether neighbouring runs are compared to work out a node. -/
def comparesNeighbours : Node → Bool
  | .derivative _ => true
  | .sample looked => (looked.level matches .automatic | .bias _)
  | _ => false

end Node

/-- Which nodes vary: those that do themselves, and those that are made of one that does. -/
def varyingNodes (globals : Array GlobalVariable) (flows : Array Flow) (nodes : Array Node) :
    Array Bool :=
  nodes.foldl
    (fun known node =>
      known.push (node.variesItself globals flows ||
        node.operands.any fun place => (known[place]?).getD false))
    #[]

/-! ### Steps -/

/-- What is known where the runs in steps are followed. -/
structure FlowScope where
  nodes : Array Node
  /-- Which of the nodes vary. -/
  varying : Array Bool
  /-- What becomes of the runs in earlier routines. -/
  flows : Array Flow

namespace FlowScope

/-- Whether a node varies. -/
def varies (scope : FlowScope) (place : Nat) : Bool :=
  (scope.varying[place]?).getD false

/-- Whether neighbours are compared to work out the nodes from one place up to another one. -/
def comparesNeighbours (scope : FlowScope) (first last : Nat) : Bool :=
  (List.range' first (last - first)).any fun place =>
    (scope.nodes[place]?).any (·.comparesNeighbours)

end FlowScope

mutual

/-- What becomes of the runs in a step, if neighbours are compared only where all come. Whether some may
not come to the step is `parted`. -/
def flowOfStep? (scope : FlowScope) (parted : Bool) : Step → Option Flow
  | .work first last => do
    guard (!(parted && scope.comparesNeighbours first last))
    return .even
  | .block body => flowOfSteps? scope parted body
  | .branch condition accept reject => do
    let parted := parted || scope.varies condition
    return (← flowOfSteps? scope parted accept).join (← flowOfSteps? scope parted reject)
  | .select selector cases =>
    let parted := parted || scope.varies selector
    flowOfCases? scope parted parted cases
  | .loop body continuing => do
    let first ← flowOfSteps? scope parted body
    return first.join (← flowOfSteps? scope (parted || first.mayPart) continuing)
  | .giveBack value => some ⟨value.any scope.varies, parted, false⟩
  | .discard => some ⟨false, false, parted⟩
  | .call routine _ _ => do
    let flow ← scope.flows[routine]?
    return { flow with mayReturn := false }
  | .leave | .continueLoop | .barrier | .store .. | .imageStore .. => some .even

/-- What becomes of the runs in steps, one after the other. -/
def flowOfSteps? (scope : FlowScope) (parted : Bool) : List Step → Option Flow
  | [] => some .even
  | first :: rest => do
    let flow ← flowOfStep? scope parted first
    return flow.join (← flowOfSteps? scope (parted || flow.mayPart) rest)

/-- What becomes of the runs in cases. Those of the one before come to a case if it goes on; `parted` says
whether some may not come then, and `start` whether some may not come to a case otherwise. -/
def flowOfCases? (scope : FlowScope) (start parted : Bool) : List Case → Option Flow
  | [] => some .even
  | .mk _ body goesOn :: rest => do
    let flow ← flowOfSteps? scope parted body
    let next := if goesOn then parted || flow.mayPart else start
    return flow.join (← flowOfCases? scope start next rest)

end

/-! ### Routines -/

/-- What is known of valid routines. -/
structure RoutineFacts where
  /-- The kinds of stage that each asks for. -/
  kinds : Array (List ShaderKind)
  /-- The uses of global variables that each makes. -/
  uses : Array (List Use)
  /-- What becomes of the runs in each. -/
  flows : Array Flow

/-- Nothing is known. -/
def RoutineFacts.empty : RoutineFacts := ⟨#[], #[], #[]⟩

/-- The types of all nodes, if all have one. -/
def nodeTypes? (scope : TypeScope) (nodes : Array Node) : Option (Array Ty) :=
  nodes.foldlM (fun types node => (node.type? scope types).map types.push) #[]

/-- Whether places that live there can be passed to a routine. -/
def canPass : Ty → Bool
  | .pointer _ space => space = .call || space = .run || space = .group
  | _ => true

namespace Routine

/-- What the types of the nodes of a routine hang on. -/
def typeScope (routine : Routine) (program : Program) : TypeScope where
  records := program.records
  constants := program.constants
  globals := program.globals
  results := program.routines.map (·.result)
  arguments := routine.arguments
  locals := routine.locals

/-- Whether arguments, result and variables are of types that they can be of. -/
def hasValidTypes (routine : Routine) (program : Program) (known : Array TypeFacts) : Bool :=
  let facts (type : Ty) : TypeFacts := type.facts program.records known
  routine.arguments.all (fun type => canPass type && (facts type).isArgument) &&
    routine.result.all (fun type => (facts type).isConstructible) &&
    routine.locals.all fun found =>
      (facts found.type).isConstructible && program.isConstantOf found.type found.value

/-- What becomes of the runs in the routine, if neighbours are compared only where all come. What becomes of
them in earlier ones is `flows`. -/
def flow? (routine : Routine) (program : Program) (flows : Array Flow) : Option Flow :=
  flowOfSteps? ⟨routine.nodes, varyingNodes program.globals flows routine.nodes, flows⟩ false routine.body

/-- The routines that values are taken from are earlier ones. -/
def takesFromEarlier (routine : Routine) (count : Nat) : Bool :=
  routine.nodes.all fun
    | .callResult place => place < count
    | _ => true

end Routine

/-- Checks a routine; what is known of earlier ones is `earlier`, and gets to be known of this one as
well. -/
def checkRoutine (program : Program) (known : Array TypeFacts) (earlier : RoutineFacts)
    (routine : Routine) : Option RoutineFacts := do
  let count := earlier.kinds.size
  guard (routine.hasValidTypes program known && routine.takesFromEarlier count)
  let types ← nodeTypes? (routine.typeScope program) routine.nodes
  let scope : NodeScope := ⟨program, known, routine, types⟩
  guard (routine.nodes.all (·.isValid scope))
  discard (checkSteps scope (program.routines.take count) .ofRoutine (.start routine.nodes)
    routine.body)
  let flow ← routine.flow? program earlier.flows
  let kinds :=
    routine.nodes.toList.flatMap (·.kinds earlier.kinds) ++
      (flattenSteps routine.body).flatMap (·.kinds earlier.kinds)
  return {
    kinds := earlier.kinds.push kinds.eraseDups
    uses := earlier.uses.push (routine.uses earlier.uses)
    flows := earlier.flows.push flow
  }

namespace Program

/-- Whether all types and records are valid. -/
def hasValidTypes (program : Program) (known : Array TypeFacts) : Bool :=
  program.types.all (fun type => (type.facts program.records known).isValid) &&
    known.all (·.isValid)

/-- Checks a program with its routines, one after the other. -/
def check (program : Program) : Option RoutineFacts := do
  let known := recordFacts program.records
  guard (program.hasValidTypes known && program.hasValidConstants known &&
    program.hasValidGlobals known)
  program.routines.foldlM (checkRoutine program known) .empty

end Program

end ShaderCheck.Glsl
