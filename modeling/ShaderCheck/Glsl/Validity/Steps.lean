/-
**Valid nodes and steps.**

A node with a type is valid if its operands are such as it takes and every part that it picks is there.
Some nodes are there in one kind of stage only. A step makes use of nodes that are worked out: before it
in its block, or before a block around it. Nothing follows a step that leaves its block. A loop can be left
from within, but not from what it does before it begins again.

A routine makes use of a global variable where it reads, writes or asks something about what the
variable holds, or calls a routine that does. What may be done hangs on where the variable lives.

* `Node.isValid`, `Node.kinds`: whether a node is valid, and the kinds of stage that it asks for;
* `checkSteps`: the nodes that are worked out after steps, if the steps are valid;
* `Step.flatten`, `Step.kinds`: all steps of a body, and the kinds of stage that a step asks for;
* `Routine.uses`, `Program.allowsUses`: the uses that a routine makes, and whether a stage may make them.
-/

import ShaderCheck.Compiler
import ShaderCheck.Glsl.Validity.Operations
import ShaderCheck.Glsl.Validity.Types

namespace ShaderCheck.Glsl

/-! ### Nodes -/

/-- What nodes are checked against. -/
structure NodeScope where
  program : Program
  /-- What holds of the records. -/
  known : Array TypeFacts
  routine : Routine
  /-- The types of all nodes. -/
  types : Array Ty

/-! ### Parts -/

/-- How many parts a value has, if any part may be asked for. -/
inductive PartCount
  | known (count : Nat)
  | unlimited
deriving DecidableEq, Repr

/-- How many parts a value, or what a place holds, has at positions that need not be known. -/
def Ty.partCount? (type : Ty) : Option PartCount :=
  match type.target with
  | .vector _ 1 => none
  | .vector _ size => some (.known size)
  | .matrix _ columns _ => some (.known columns)
  | .array _ (some size) _ => some (.known size)
  | .array _ none _ => some .unlimited
  | _ => none

/-- Whether parts of a value can be asked for only at known positions. -/
def Ty.asksForConstants : Ty → Bool
  | .matrix .. | .array .. => true
  | _ => false

/-- A position that is not below zero. -/
def Literal.position? : Literal → Option (Option Nat)
  | .int value => some (if value < 0 then none else some value.toNat)
  | .uint value => some (some value)
  | _ => none

namespace NodeScope

/-- The literal that a node is, a constant with a name looked up once. -/
def literal? (scope : NodeScope) (place : Nat) : Option Literal :=
  match scope.routine.nodes[place]? with
  | some (.literal value) => some value
  | some (.constant constant) =>
    match (scope.program.constants[constant]?).bind (scope.program.constantNodes[·.value]?) with
    | some (.literal value) => some value
    | _ => none
  | _ => none

/-- Whether a node is a literal or a constant with a name. -/
def isConstant (scope : NodeScope) (place : Nat) : Bool :=
  scope.routine.nodes[place]? matches some (.literal _) | some (.constant _)

/-- Whether a part can be asked for at the position that a node is. -/
def isValidAccess (scope : NodeScope) (base : Ty) (position : Nat) : Bool :=
  let isIndex := (scope.types[position]?).any (·.isScalarOf Scalar.isIntegral)
  let isInside (count : Nat) : Bool :=
    match (scope.literal? position).bind Literal.position? with
    | some position? => position?.any (· < count)
    | none => true
  isIndex && (!base.asksForConstants || scope.isConstant position) &&
    match base.partCount? with
    | some (.known count) => isInside count
    | some .unlimited => true
    | none => false

/-- Whether a value, or what a place holds, has a part at a known position. -/
def isValidAccessAt (scope : NodeScope) (base : Ty) (position : Nat) : Bool :=
  match base.target, base.partCount? with
  | .record place, _ => (scope.program.records[place]?).any (position < ·.members.length)
  | _, some (.known count) => position < count
  | _, some .unlimited => position < 0xffffffff
  | _, none => false

/-- The type of an image or a sampler, which is a global variable or an argument. -/
def handleType? (scope : NodeScope) (place : Nat) : Option Ty := do
  match ← scope.routine.nodes[place]? with
  | .globalVariable found => (scope.program.globals[found]?).map (·.type)
  | .argument found => scope.routine.arguments[found]?
  | _ => none

/-- The form of an image. -/
def imageForm? (scope : NodeScope) (place : Nat) : Option ImageForm := do
  match ← scope.handleType? place with
  | .image form => some form
  | _ => none

/-- Whether the value that a place holds can be loaded. -/
def canLoad (scope : NodeScope) : Ty → Bool
  | .pointer target _ =>
    let facts := target.facts scope.program.records scope.known
    facts.isData && facts.isSized
  | _ => false

end NodeScope

/-- Whether the components of a vector are there that a pattern picks. -/
def isValidPattern (size : Nat) (pattern : List Nat) : Ty → Bool
  | .vector _ 1 => false
  | .vector _ size' => (pattern.take size).all (· < size')
  | _ => false

/-- Whether the components of a value can be taken as others: converted, or with their bits as they
are. -/
def canTakeAs (keepsBits : Bool) (scalar : Scalar) (value : Ty) : Bool :=
  match value.scalar? with
  | some source => !keepsBits || source.width = scalar.width
  | none => false

namespace Node

/-- Whether a node is valid, its operands being so. -/
def isValid (scope : NodeScope) (node : Node) : Bool :=
  let holds (place : Nat) (test : Ty → Bool) : Bool := (scope.types[place]?).any test
  match node with
  | .literal _ | .constant _ | .argument _ | .globalVariable _ | .localVariable _ |
    .callResult _ => true
  | .compose type parts =>
    (parts.mapM (scope.types[·]?)).any fun parts => type.isMadeOf scope.program.records parts
  | .access base position => holds base fun base => scope.isValidAccess base position
  | .accessAt base position => holds base fun base => scope.isValidAccessAt base position
  | .splat _ value => holds value (·.isScalar)
  | .swizzle size vector pattern => holds vector (isValidPattern size pattern)
  | .load pointer => holds pointer scope.canLoad
  | .sample looked =>
    match scope.imageForm? looked.image, scope.handleType? looked.sampler with
    | some form, some (.sampler compares) =>
      looked.isValid form compares scope.program.constantType? scope.types
    | _, _ => false
  | .imageLoad image coordinate layer index level =>
    (scope.imageForm? image).any fun form =>
      isValidLoad form scope.types coordinate layer index level
  | .imageSize image level =>
    (scope.imageForm? image).any fun form => isValidSize form level
  | .imageLayers image => (scope.imageForm? image).any (·.arrayed)
  | .unary operator value => holds value operator.takes
  | .binary operator left right =>
    holds left fun left => holds right fun right => operator.takes left right
  | .select condition accept reject =>
    holds condition fun condition => holds accept fun accept => holds reject fun reject =>
      canSelect condition accept reject
  | .derivative value => holds value (·.isVectorOf Scalar.isFloating)
  | .question asked value => holds value asked.takes
  | .math function arguments => (arguments.mapM (scope.types[·]?)).any function.takes
  | .convert scalar value => holds value (canTakeAs false scalar)
  | .reinterpret scalar value => holds value (canTakeAs true scalar)
  | .arrayLength array =>
    holds array fun
      | .pointer (.array _ none _) _ => true
      | _ => false

/-- The kinds of stage that a node asks for, those that routines ask for being known. -/
def kinds (routineKinds : Array (List ShaderKind)) : Node → List ShaderKind
  | .derivative _ => [.fragment]
  | .sample looked =>
    if looked.level = .automatic then [.fragment] else []
  | .callResult routine => (routineKinds[routine]?).getD []
  | _ => []

end Node

/-! ### Steps in steps -/

mutual

/-- A step and the steps in it. -/
def Step.flatten : Step → List Step
  | .block body => .block body :: flattenSteps body
  | .branch condition accept reject =>
    .branch condition accept reject :: (flattenSteps accept ++ flattenSteps reject)
  | .select selector cases => .select selector cases :: flattenCases cases
  | .loop body continuing =>
    .loop body continuing :: (flattenSteps body ++ flattenSteps continuing)
  | step => [step]

/-- Steps and the steps in them. -/
def flattenSteps : List Step → List Step
  | [] => []
  | first :: rest => first.flatten ++ flattenSteps rest

/-- The steps of cases. -/
def flattenCases : List Case → List Step
  | [] => []
  | .mk _ body _ :: rest => flattenSteps body ++ flattenCases rest

end

/-- The kinds of stage that a step asks for itself, those that routines ask for being known. -/
def Step.kinds (routineKinds : Array (List ShaderKind)) : Step → List ShaderKind
  | .discard => [.fragment]
  | .barrier => [.compute]
  | .call routine _ _ => (routineKinds[routine]?).getD []
  | _ => []

/-! ### What steps are checked against -/

/-- Where a step may go on. -/
structure Exits where
  leave : Bool
  continueLoop : Bool
  giveBack : Bool

namespace Exits

/-- A step may go back from the routine only. -/
abbrev ofRoutine : Exits := ⟨false, false, true⟩

/-- A step may go nowhere. -/
abbrev none : Exits := ⟨false, false, false⟩

end Exits

/-- The nodes that are worked out, by their places. -/
abbrev Worked := Array Bool

namespace Worked

/-- The nodes that are there from the start. -/
def start (nodes : Array Node) : Worked :=
  nodes.map (·.isGiven)

/-- Whether a node is worked out. -/
def has (worked : Worked) (place : Nat) : Bool :=
  (worked[place]?).getD false

/-- One more node is worked out; none is so twice. -/
def add? (worked : Worked) (place : Nat) : Option Worked :=
  match worked[place]? with
  | some false => some (worked.set! place true)
  | _ => none

/-- The nodes from one place up to another one are worked out. -/
def addRange? (worked : Worked) (first last : Nat) : Option Worked :=
  (List.range' first (last - first)).foldlM add? worked

end Worked

/-- The nodes that are worked out after steps, and whether no step can follow. -/
structure Reached where
  worked : Worked
  ends : Bool

namespace NodeScope

/-- The type of a node that is worked out. -/
def typeOf? (scope : NodeScope) (worked : Worked) (place : Nat) : Option Ty :=
  if worked.has place then scope.types[place]? else none

/-! ### Storing -/

/-- Whether a place is a variable or a part of one. Places are made of earlier nodes, of which there are
so many. -/
def isVariable (scope : NodeScope) : Nat → Nat → Bool
  | 0, _ => false
  | count + 1, place =>
    (scope.types[place]?).any (·.isPointer) &&
      match scope.routine.nodes[place]? with
      | some (.access base _) | some (.accessAt base _) => scope.isVariable count base
      | some (.localVariable _) | some (.globalVariable _) | some (.argument _) => true
      | _ => false

/-- Whether values can be stored in variables that live there. -/
def canStoreIn : Space → Bool
  | .call | .run | .group => true
  | .storage access => access.store
  | .uniform | .push | .handle => false

/-- Whether a value can be stored in a place; the place need not be worked out. -/
def canStore (scope : NodeScope) (worked : Worked) (pointer value : Nat) : Bool :=
  scope.isVariable (scope.types.size + 1) pointer &&
    match scope.types[pointer]?, scope.typeOf? worked value with
    | some (.pointer target space), some type =>
      target.isSame scope.program.records type && canStoreIn space &&
        !(type matches .image _ | .sampler _)
    | _, _ => false

/-- Whether a value can be stored in a pixel of an image, which is a global variable. -/
def canStorePixel (scope : NodeScope) (worked : Worked) (image coordinate : Nat)
    (layer : Option Nat) (value : Nat) : Bool :=
  match scope.routine.nodes[image]?, scope.imageForm? image with
  | some (.globalVariable _), some form =>
    match form.content with
    | .stored format _ =>
      (scope.typeOf? worked coordinate).any (Ty.isPlaceIn form) &&
        layer.all worked.has && isValidLayer form scope.types layer &&
        (scope.typeOf? worked value).any fun type =>
          type.isOfSize (fun scalar => imageFormats.lookup format = some scalar) 4
    | _ => false
  | _, _ => false

/-! ### Calls -/

/-- The nodes that are worked out after a call of an earlier routine, if arguments and result are such
as the routine has. -/
def call? (scope : NodeScope) (worked : Worked) (routines : Array Routine) (routine : Nat)
    (arguments : List Nat) (result : Option Nat) : Option Worked := do
  let called ← routines[routine]?
  let types ← arguments.mapM (scope.typeOf? worked)
  guard (types.length = called.arguments.length)
  guard ((types.zip called.arguments).all fun (type, wanted) =>
    type.isSame scope.program.records wanted)
  match result with
  | some place =>
    guard (called.result.isSome && scope.routine.nodes[place]? = some (.callResult routine))
    worked.add? place
  | none =>
    guard called.result.isNone
    return worked

/-! ### Choices among integers -/

/-- Whether a label is of the kind of the selector. -/
def isLabelOf (scalar : Scalar) : Case → Bool
  | .mk label _ _ => label.all fun label => label.scalar = scalar

/-- The labels of cases. -/
def labels (cases : List Case) : List (Option Literal) :=
  cases.map fun | .mk label _ _ => label

/-- Whether the last case goes on with the next one. -/
def lastGoesOn (cases : List Case) : Bool :=
  match cases.getLast? with
  | some (.mk _ _ goesOn) => goesOn
  | none => false

/-- Whether cases are labelled by integers of the kind of the selector, each of them once, with a case
for all others, and end with the last one. -/
def areValidCases (scope : NodeScope) (worked : Worked) (selector : Nat) (cases : List Case) :
    Bool :=
  (((scope.typeOf? worked selector).bind (·.scalar?)).any fun scalar =>
      scalar.isIntegral && cases.all (isLabelOf scalar)) &&
    (labels cases).Nodup && (labels cases).contains none && !lastGoesOn cases

end NodeScope

/-! ### Steps -/

mutual

/-- What is reached after a step, if it is valid. -/
def checkStep (scope : NodeScope) (routines : Array Routine) (exits : Exits) (worked : Worked) :
    Step → Option Reached
  | .work first last => do return ⟨← worked.addRange? first last, false⟩
  | .block body => do
    let reached ← checkSteps scope routines exits worked body
    return ⟨worked, reached.ends⟩
  | .branch condition accept reject => do
    guard (scope.typeOf? worked condition = some .bool)
    discard (checkSteps scope routines exits worked accept)
    discard (checkSteps scope routines exits worked reject)
    return ⟨worked, false⟩
  | .select selector cases => do
    guard (scope.areValidCases worked selector cases)
    checkCases scope routines { exits with leave := true } worked cases
    return ⟨worked, false⟩
  | .loop body continuing => do
    let reached ← checkSteps scope routines ⟨true, true, exits.giveBack⟩ worked body
    discard (checkSteps scope routines .none reached.worked continuing)
    return ⟨worked, false⟩
  | .leave => do
    guard exits.leave
    return ⟨worked, true⟩
  | .continueLoop => do
    guard exits.continueLoop
    return ⟨worked, true⟩
  | .giveBack value => do
    guard exits.giveBack
    match value, scope.routine.result with
    | none, none => return ⟨worked, true⟩
    | some value, some result =>
      let type ← scope.typeOf? worked value
      guard (type.isSame scope.program.records result)
      return ⟨worked, true⟩
    | _, _ => failure
  | .discard => return ⟨worked, true⟩
  | .barrier => return ⟨worked, false⟩
  | .store pointer value => do
    guard (scope.canStore worked pointer value)
    return ⟨worked, false⟩
  | .imageStore image coordinate layer value => do
    guard (scope.canStorePixel worked image coordinate layer value)
    return ⟨worked, false⟩
  | .call routine arguments result => do
    return ⟨← scope.call? worked routines routine arguments result, false⟩

/-- What is reached after steps, if they are valid. -/
def checkSteps (scope : NodeScope) (routines : Array Routine) (exits : Exits) (worked : Worked) :
    List Step → Option Reached
  | [] => some ⟨worked, false⟩
  | [last] => checkStep scope routines exits worked last
  | first :: rest => do
    let reached ← checkStep scope routines exits worked first
    guard !reached.ends
    checkSteps scope routines exits reached.worked rest

/-- Checks the steps of cases. -/
def checkCases (scope : NodeScope) (routines : Array Routine) (exits : Exits) (worked : Worked) :
    List Case → Option Unit
  | [] => some ()
  | .mk _ body _ :: rest => do
    discard (checkSteps scope routines exits worked body)
    checkCases scope routines exits worked rest

end

/-! ### Uses of global variables -/

/-- What is done with a variable. -/
inductive UseKind
  | read
  | write
  /-- Only its size is asked for. -/
  | query
deriving DecidableEq, Repr

/-- A global variable, by its place, and what is done with it. -/
abbrev Use := Nat × UseKind

namespace Routine

/-- The variable in which each node is a place, if it is one. -/
def variablePlaces (nodes : Array Node) : Array (Option Nat) :=
  nodes.foldl
    (fun known node =>
      known.push <|
        match node with
        | .globalVariable place => some place
        | .access base _ | .accessAt base _ => (known[base]?).join
        | _ => none)
    #[]

/-- The nodes of which a node makes use, and how. -/
def nodeUses : Node → List Use
  | .access _ position => [(position, .read)]
  | .accessAt .. => []
  | .imageSize image level => (image, .query) :: level.toList.map (·, .read)
  | .imageLayers image => [(image, .query)]
  | .arrayLength array => [(array, .query)]
  | node => node.operands.map (·, .read)

/-- The nodes of which a step itself makes use, and how. -/
def stepUses : Step → List Use
  | .branch condition _ _ => [(condition, .read)]
  | .select selector _ => [(selector, .read)]
  | .giveBack value => value.toList.map (·, .read)
  | .store pointer value => [(pointer, .write), (value, .read)]
  | .imageStore image coordinate layer value =>
    (image, .write) :: ([coordinate] ++ layer.toList ++ [value]).map (·, .read)
  | .call _ arguments _ => arguments.map (·, .read)
  | _ => []

/-- The routines that steps call. -/
def callees (steps : List Step) : List Nat :=
  steps.filterMap fun
    | .call routine _ _ => some routine
    | _ => none

/-- The uses of global variables that a routine makes, those of earlier routines being known. -/
def uses (routine : Routine) (known : Array (List Use)) : List Use :=
  let places := variablePlaces routine.nodes
  let steps := flattenSteps routine.body
  let own := (routine.nodes.toList.flatMap nodeUses ++ steps.flatMap stepUses).filterMap
    fun (node, kind) => ((places[node]?).join).map (·, kind)
  let called := (callees steps).flatMap fun place => (known[place]?).getD []
  (own ++ called).eraseDups

end Routine

/-! ### What may be done -/

/-- Whether something may be done with stored values. -/
def Access.allows (access : Access) : UseKind → Bool
  | .read => access.load
  | .write => access.store
  | .query => true

/-- Whether something may be done with a global variable. -/
def GlobalVariable.allows (found : GlobalVariable) (kind : UseKind) : Bool :=
  match found.space, found.type with
  | .uniform, _ => kind ≠ .write
  | .storage access, _ => access.allows kind
  | .handle, .image ⟨_, _, .stored _ access⟩ => access.allows kind
  | .handle, _ => kind ≠ .write
  | .push, _ => kind = .read
  | .call, _ | .run, _ | .group, _ => true

namespace Program

/-- The global variables that are made use of. -/
def usedGlobals (program : Program) (uses : List Use) : List GlobalVariable :=
  (uses.map Prod.fst).eraseDups.filterMap (program.globals[·]?)

/-- Whether a stage may make some uses: each is allowed, and no two variables are handed over with the
same group and number. -/
def allowsUses (program : Program) (uses : List Use) : Bool :=
  let used := program.usedGlobals uses
  uses.all (fun (place, kind) => (program.globals[place]?).any (·.allows kind)) &&
    (used.filterMap (·.binding)).Nodup

end Program

end ShaderCheck.Glsl
