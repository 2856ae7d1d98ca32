/-
**Programs.**

What a shader text comes down to: types, constants, global variables and routines. A routine holds its
values in a row of nodes, each made of earlier ones, and does its work in steps. A run of nodes is
worked out where a step says so.

The type of a node is worked out from the types of the nodes that it is made of. A node that is made of
values that do not go together has none; whether a node with a type is valid is asked later.

* `Node`, `Step`, `Routine`, `Program`;
* `Node.type?`: the type of a node;
* `Ty.isSame`: when values of two types can stand for each other.
-/

import ShaderCheck.Glsl.Binary32
import ShaderCheck.Glsl.Grammar
import ShaderCheck.Glsl.Type

namespace ShaderCheck.Glsl

/-! ### Constants -/

/-- A value that is written down. -/
inductive Literal
  | bool (value : Bool)
  | int (value : Int)
  | uint (value : Nat)
  | float (value : Binary32)
  | double (value : Nat)
deriving DecidableEq, Repr

namespace Literal

/-- What a value is. -/
def scalar : Literal → Scalar
  | bool _ => .bool
  | int _ => .int
  | uint _ => .uint
  | float _ => .float
  | double _ => .double

/-- Zero as a value. -/
def zero : Scalar → Literal
  | .bool => bool false
  | .int => int 0
  | .uint => uint 0
  | .float => float .zero
  | .double => double 0

/-- One as a value; there is no truth value like that. -/
def one? : Scalar → Option Literal
  | .bool => none
  | .int => some (int 1)
  | .uint => some (uint 1)
  | .float => some (float .one)
  | .double => some (double 1)

end Literal

/-- A value that is known before a stage runs. -/
inductive ConstantNode
  | literal (value : Literal)
  /-- The value of a constant with a name. -/
  | constant (place : Nat)
  | compose (type : Ty) (parts : List Nat)
deriving DecidableEq, Repr

/-- A constant with a name. -/
structure Constant where
  type : Ty
  /-- The place of its value among the constant nodes. -/
  value : Nat
deriving DecidableEq, Repr

/-! ### Values of routines -/

/-- A function of numbers, by the values that it takes and gives. -/
inductive MathFunction
  | abs
  /-- The lesser or the greater one of two. -/
  | extremum
  | clamp
  /-- One number for one number with a fraction. -/
  | elementary
  | length
  | sign
  | power
  /-- One number for two numbers with a fraction. -/
  | pairwise
  | distance
  /-- A number cut in two, one of which is written to a place. -/
  | split
  | dot
  | outer
  /-- One vector for two vectors. -/
  | cross
  | refract
  | normalize
  /-- One number for three numbers with a fraction. -/
  | blend
  | mix
  | inverse
  | determinant
  | transpose
  /-- The bits of an integer counted, searched or turned around. -/
  | bits
  | insertBits
  | extractBits
  /-- Components of a vector of some size packed into an integer. -/
  | pack (size : Nat)
  | unpack (size : Nat)
deriving DecidableEq, Repr

/-- A question about a value. -/
inductive Question
  | all
  | any
  /-- What kind of number each component is. -/
  | kindOfNumber
deriving DecidableEq, Repr

/-- Which of the smaller versions of an image is looked up. -/
inductive SampleLevel
  | automatic
  | zero
  | exact (level : Nat)
  | bias (bias : Nat)
  | gradient (x y : Nat)
deriving DecidableEq, Repr

/-- A pixel of an image looked up with a sampler. -/
structure Sample where
  image : Nat
  sampler : Nat
  coordinate : Nat
  layer : Option Nat
  /-- The place of an offset among the constant nodes. -/
  offset : Option Nat
  level : SampleLevel
  /-- The depth that is compared with. -/
  depth : Option Nat
deriving DecidableEq, Repr

/-- A value of a routine, made of earlier ones. -/
inductive Node
  | literal (value : Literal)
  | constant (place : Nat)
  | compose (type : Ty) (parts : List Nat)
  /-- The part of a value at any position. -/
  | access (base position : Nat)
  /-- The part of a value at a known position. -/
  | accessAt (base position : Nat)
  | splat (size value : Nat)
  /-- Components picked from a vector, of which so many count. -/
  | swizzle (size vector : Nat) (pattern : List Nat)
  | argument (place : Nat)
  | globalVariable (place : Nat)
  | localVariable (place : Nat)
  | load (pointer : Nat)
  | sample (looked : Sample)
  | imageLoad (image coordinate : Nat) (layer index level : Option Nat)
  | imageSize (image : Nat) (level : Option Nat)
  | imageLayers (image : Nat)
  | unary (operator : UnaryOperator) (value : Nat)
  | binary (operator : BinaryOperator) (left right : Nat)
  | select (condition accept reject : Nat)
  | derivative (value : Nat)
  | question (question : Question) (value : Nat)
  | math (function : MathFunction) (arguments : List Nat)
  /-- A value converted to other components. -/
  | convert (scalar : Scalar) (value : Nat)
  /-- The same bits taken as other components. -/
  | reinterpret (scalar : Scalar) (value : Nat)
  | callResult (routine : Nat)
  | arrayLength (array : Nat)
deriving DecidableEq, Repr

namespace Node

/-- Whether a value is there from the start, and need not be worked out. -/
def isGiven : Node → Bool
  | literal _ | constant _ | argument _ | globalVariable _ | localVariable _ => true
  | _ => false

/-- The values that a value is made of. -/
def operands : Node → List Nat
  | literal _ | constant _ | argument _ | globalVariable _ | localVariable _ | callResult _ => []
  | compose _ parts => parts
  | access base position => [base, position]
  | accessAt base _ => [base]
  | splat _ value | swizzle _ value _ | load value | imageLayers value | unary _ value |
    derivative value | question _ value | convert _ value | reinterpret _ value |
    arrayLength value => [value]
  | sample looked =>
    [looked.image, looked.sampler, looked.coordinate] ++ looked.layer.toList ++ looked.depth.toList ++
      match looked.level with
      | .automatic | .zero => []
      | .exact level => [level]
      | .bias bias => [bias]
      | .gradient x y => [x, y]
  | imageLoad image coordinate layer index level =>
    [image, coordinate] ++ layer.toList ++ index.toList ++ level.toList
  | imageSize image level => image :: level.toList
  | binary _ left right => [left, right]
  | select condition accept reject => [condition, accept, reject]
  | math _ arguments => arguments

end Node

/-! ### Steps of routines -/

mutual

/-- A step of a routine. -/
inductive Step
  /-- The nodes from one place up to another one are worked out. -/
  | work (first last : Nat)
  | block (body : List Step)
  | branch (condition : Nat) (accept reject : List Step)
  | select (selector : Nat) (cases : List Case)
  | loop (body continuing : List Step)
  | leave
  | continueLoop
  | giveBack (value : Option Nat)
  | discard
  | barrier
  | store (pointer value : Nat)
  | imageStore (image coordinate : Nat) (layer : Option Nat) (value : Nat)
  | call (routine : Nat) (arguments : List Nat) (result : Option Nat)

/-- A case of a choice among integers: its label (none for all others), what is done, and whether the
next case is done after it. -/
inductive Case
  | mk (label : Option Literal) (body : List Step) (goesOn : Bool)

end

instance : Inhabited Step := ⟨.leave⟩

/-- A variable of a call. -/
structure LocalVariable where
  type : Ty
  /-- The place of its first value among the constant nodes. -/
  value : Option Nat
deriving DecidableEq, Repr

/-- A routine. -/
structure Routine where
  arguments : List Ty
  result : Option Ty
  locals : Array LocalVariable
  nodes : Array Node
  body : List Step

/-! ### Programs -/

/-- A variable outside of routines. -/
structure GlobalVariable where
  type : Ty
  space : Space
  /-- The group and the number that it is handed over with. -/
  binding : Option (Nat × Nat)
  /-- The place of its first value among the constant nodes. -/
  value : Option Nat
deriving DecidableEq, Repr

/-- A variable that the machine that runs a stage knows. -/
inductive Builtin
  | position
  | fragmentCoordinate
  | pointCoordinate
  | globalInvocation
  | groupCount
  | groupSize
  | group
  | localInvocation
  | frontFacing
  | pointSize
  | fragmentDepth
  | clipDistance
  | cullDistance
  | baseVertex
  | baseInstance
  | primitive
  | instanceIndex
  | vertexIndex
  | sampleIndex
  | localInvocationIndex
deriving DecidableEq, Repr

/-- How a value gets into a stage or out of it. -/
inductive Binding
  | builtin (builtin : Builtin)
  | location (location : Nat) (interpolation : Option Interpolation)
deriving DecidableEq, Repr

/-- A program, with what the stage itself is told. -/
structure Program where
  /-- The types that are made use of. -/
  types : Array Ty
  records : Array Record
  constantNodes : Array ConstantNode
  constants : Array Constant
  globals : Array GlobalVariable
  routines : Array Routine
  /-- The size of a work group in the three directions. -/
  groupSize : List Nat
  /-- Whether tests of fragments come before the stage. -/
  testsEarly : Bool

/-- A program before anything is known. -/
def Program.empty : Program := ⟨#[], #[], #[], #[], #[], #[], [0, 0, 0], false⟩

/-! ### Types of nodes -/

/-- Whether values of two types can stand for each other: the names of records do not count. -/
def Ty.isSame (records : Array Record) (left right : Ty) : Bool :=
  match left, right with
  | .record first, .record second =>
    match records[first]?, records[second]? with
    | some first, some second => first.members = second.members && first.span = second.span
    | _, _ => false
  | _, _ => left = right

/-- What is known where the type of a node is asked for. -/
structure TypeScope where
  records : Array Record
  constants : Array Constant
  globals : Array GlobalVariable
  /-- The result type of each routine. -/
  results : Array (Option Ty)
  arguments : List Ty
  locals : Array LocalVariable

namespace Node

/-- The type of an operation on two values. -/
def binaryType? (operator : BinaryOperator) (left right : Ty) : Option Ty :=
  match operator with
  | .multiply =>
    match left, right with
    | .matrix scalar _ rows, .matrix _ columns _ => some (.matrix scalar columns rows)
    | .vector scalar 1, .matrix _ columns rows | .matrix scalar columns rows, .vector _ 1 =>
      some (.matrix scalar columns rows)
    | .matrix scalar _ rows, .vector .. => some (.vector scalar rows)
    | .vector .., .matrix scalar columns _ => some (.vector scalar columns)
    | .vector _ 1, _ => some right
    | _, .vector _ 1 => some left
    | .vector .., .vector .. => some left
    | _, _ => none
  | operator =>
    if operator.isTest then
      match left with
      | .vector _ size => some (.vector .bool size)
      | _ => none
    else some left

/-- The type of the value of a function of numbers. -/
def mathType? (function : MathFunction) (arguments : List Ty) : Option Ty := do
  let first ← arguments.head?
  match function with
  | .abs | .extremum | .clamp | .elementary | .sign | .power | .pairwise | .split | .cross | .refract
  | .normalize | .blend | .mix => return first
  | .length | .distance =>
    match first with
    | .vector scalar _ => return .vector scalar 1
    | _ => none
  | .dot =>
    match first with
    | .vector _ 1 => none
    | .vector scalar _ => return .vector scalar 1
    | _ => none
  | .outer =>
    match first, ← arguments[1]? with
    | .vector _ 1, _ | _, .vector _ 1 => none
    | .vector scalar columns, .vector _ rows => return .matrix scalar columns rows
    | _, _ => none
  | .inverse =>
    match first with
    | .matrix _ columns rows => if columns = rows then return first else none
    | _ => none
  | .determinant =>
    match first with
    | .matrix scalar _ _ => return .vector scalar 1
    | _ => none
  | .transpose =>
    match first with
    | .matrix scalar columns rows => return .matrix scalar rows columns
    | _ => none
  | .bits | .insertBits | .extractBits =>
    match first with
    | .vector .int _ | .vector .uint _ => return first
    | _ => none
  | .pack _ => return .uint
  | .unpack size => return .vector .float size

/-- The type of a pixel of an image. -/
def pixelType? : Ty → Option Ty
  | .image form =>
    match form.content with
    | .depth _ => some .float
    | .sampled scalar _ => some (.vector scalar 4)
    | .stored format _ => (imageFormats.lookup format).map (.vector · 4)
  | _ => none

/-- The type of the size of an image. -/
def sizeType? : Ty → Option Ty
  | .image form =>
    match form.dimension with
    | .one => some .uint
    | .two | .cube => some (.vector .uint 2)
    | .three => some (.vector .uint 3)
  | _ => none

/-- A type with other components; those of a matrix have fractions whatever is asked for. -/
def withScalar? (scalar : Scalar) : Ty → Option Ty
  | .vector _ size => some (.vector scalar size)
  | .matrix _ columns rows => some (.matrix (if scalar.isIntegral then .float else scalar) columns rows)
  | _ => none

/-- The type of a node, the types of earlier ones being known. -/
def type? (scope : TypeScope) (types : Array Ty) (node : Node) : Option Ty :=
  match node with
  | .literal value => some (.vector value.scalar 1)
  | .constant place => (scope.constants[place]?).map (·.type)
  | .compose type _ => some type
  | .access base _ => do (← types[base]?).inside? Ty.element?
  | .accessAt base position => do
    (← types[base]?).inside? fun type => type.part? scope.records position
  | .splat size value => do
    match ← types[value]? with
    | .vector scalar 1 => some (.vector scalar size)
    | _ => none
  | .swizzle size vector _ => do
    match ← types[vector]? with
    | .vector _ 1 => none
    | .vector scalar _ => some (.vector scalar size)
    | _ => none
  | .argument place => scope.arguments[place]?
  | .globalVariable place => do
    let found ← scope.globals[place]?
    if found.space = .handle then return found.type else return .pointer found.type found.space
  | .localVariable place => (scope.locals[place]?).map fun found => .pointer found.type .call
  | .load pointer => do
    match ← types[pointer]? with
    | .pointer target _ => some target
    | _ => none
  | .sample looked => do pixelType? (← types[looked.image]?)
  | .imageLoad image .. => do pixelType? (← types[image]?)
  | .imageSize image _ => do sizeType? (← types[image]?)
  | .imageLayers _ => some .uint
  | .unary _ value | .derivative value => types[value]?
  | .binary operator left right => do binaryType? operator (← types[left]?) (← types[right]?)
  | .select _ accept _ => types[accept]?
  | .question .all _ | .question .any _ => some .bool
  | .question .kindOfNumber value => do
    match ← types[value]? with
    | .vector _ size => some (.vector .bool size)
    | _ => none
  | .math function arguments => do mathType? function (← arguments.mapM (types[·]?))
  | .convert scalar value | .reinterpret scalar value => do withScalar? scalar (← types[value]?)
  | .callResult routine => (scope.results[routine]?).join
  | .arrayLength _ => some .uint

end Node

end ShaderCheck.Glsl
