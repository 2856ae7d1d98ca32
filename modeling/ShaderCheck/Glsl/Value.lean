/-
**Values of expressions.**

An expression is understood once its names are looked up and its types are known, in the order in which
it is written. Then its value is built: as a place that can be written, as something to pick a part
from, or as a plain value.

* `Build.understand`, `Build.understandType`: expressions and types with their names looked up;
* `Build.lower?`: the node for the value of an expression;
* `Build.sizeOf`: the integer that a constant expression is.
-/

import ShaderCheck.Glsl.Call

namespace ShaderCheck.Glsl

/-- An expression of which the names are looked up. -/
inductive Term
  | literal (value : Literal)
  | name (reference : Reference)
  | call (function : String) (arguments : List Term)
  | construct (type : Ty) (arguments : List Term)
  | method (value : Term) (name : String) (arguments : List Term)
  | field (value : Term) (name : String)
  | index (value position : Term)
  | unary (operator : UnaryOperator) (value : Term)
  | step (operator : BinaryOperator) (givesOld : Bool) (value : Term)
  | binary (operator : BinaryOperator) (left right : Term)
  | assign (operator : Option BinaryOperator) (target value : Term)
  | choose (condition accept reject : Term)

/-- What the value of an expression is wanted for. -/
inductive Purpose
  /-- To be written. -/
  | place
  /-- To pick a part, at a position that is constant or not. -/
  | base (isConstant : Bool)
  /-- To be used. -/
  | value
deriving DecidableEq, Repr

/-- What the whole is wanted for, if a part of it at some position is. -/
def Purpose.ofBase (purpose : Purpose) (isConstant : Bool) : Purpose :=
  match purpose with
  | .place | .base false => purpose
  | _ => .base isConstant

namespace Build

/-! ### Operations -/

/-- A matrix made of what is done with each column. -/
def onColumns (scalar : Scalar) (columns rows : Nat) (build : Nat → Build Nat) : Build Nat := do
  addNode (.compose (.matrix scalar columns rows) (← (List.range columns).mapM build))

/-- An operation on two matrices. -/
def matrixOperation (operator : BinaryOperator) (scalar : Scalar) (columns rows left right : Nat) :
    Build Nat := do
  let onColumn (column : Nat) : Build Nat := do
    let first ← part left column
    let second ← part right column
    addNode (.binary operator first second)
  match operator with
  | .divide => onColumns scalar columns rows onColumn
  | .equal | .notEqual =>
    let question : Question := if operator = .equal then .all else .any
    let join : BinaryOperator := if operator = .equal then .logicalAnd else .logicalOr
    let first ← addNode (.question question (← onColumn 0))
    (List.range columns).tail.foldlM
      (fun root column => do
        let next ← addNode (.question question (← onColumn column))
        addNode (.binary join next root))
      first
  | _ => addNode (.binary operator left right)

/-- Whether a scalar beside a vector stands for a vector in an operation. -/
def splats (operator : BinaryOperator) (isRight : Bool) : Bool :=
  match operator with
  | .add | .subtract | .divide | .and | .exclusiveOr | .inclusiveOr => true
  | .shiftLeft | .shiftRight => isRight
  | _ => false

/-- An operation on a matrix and a scalar, which is on the right side or on the left one. -/
def scaleOperation (operator : BinaryOperator) (isRight : Bool) (scalar : Scalar)
    (columns rows matrix number : Nat) : Build Nat := do
  let operands (whole other : Nat) : Node :=
    if isRight then .binary operator whole other else .binary operator other whole
  match operator with
  | .add | .subtract | .divide =>
    let vector ← addNode (.splat rows number)
    onColumns scalar columns rows fun column => do addNode (operands (← part matrix column) vector)
  | _ => addNode (operands matrix number)

/-- An operation on two values of which the components are of one type. -/
def operation (operator : BinaryOperator) (left right : Nat) : Build Nat := do
  match ← typeOf left, ← typeOf right with
  | .matrix scalar columns rows, .matrix scalar' columns' rows' =>
    guard (scalar = scalar')
    guard (if operator = .multiply then columns = rows' else columns = columns' && rows = rows')
    matrixOperation operator scalar columns rows left right
  | .vector _ 1, .vector _ 1 => addNode (.binary operator left right)
  | .vector _ size, .vector _ 1 =>
    let right ← if splats operator true then addNode (.splat size right) else pure right
    addNode (.binary operator left right)
  | .vector _ 1, .vector _ size =>
    let left ← if splats operator false then addNode (.splat size left) else pure left
    addNode (.binary operator left right)
  | .vector .., .vector .. =>
    let value ← addNode (.binary operator left right)
    match operator with
    | .equal => addNode (.question .all value)
    | .notEqual => addNode (.question .any value)
    | _ => return value
  | .vector scalar' 1, .matrix scalar columns rows =>
    guard (scalar = scalar')
    scaleOperation operator false scalar columns rows right left
  | .matrix scalar columns rows, .vector scalar' 1 =>
    guard (scalar = scalar')
    scaleOperation operator true scalar columns rows left right
  | _, _ => addNode (.binary operator left right)

/-- An operation on two values, one of which is converted first if they differ. -/
def convertedOperation (operator : BinaryOperator) (left right : Nat) : Build Nat := do
  if operator.isShift then operation operator left (← widen .uint right)
  else
    let (left, right) ← widenBoth left right
    operation operator left right

/-! ### Places -/

/-- Writes a value to a place, or its components to those that are picked from one. -/
def store (place value : Nat) : Build Unit := do
  match (← routine).nodes[place]? with
  | some (.swizzle size vector pattern) =>
    let base ← placeOf vector
    for (component, position) in (pattern.take size).zipIdx do
      let target ← part base component
      let source ← part value position
      addStepAfterNodes (.store target source)
  | _ => addStepAfterNodes (.store place value)

/-- Loads a value that is used, if it is a place. -/
def loadFor (purpose : Purpose) (value : Nat) : Build Nat := do
  if purpose = .value && (← typeOf value).isPointer then addNode (.load value) else return value

/-- The positions of the components that letters pick from a vector. -/
def letterPositions? (size : Nat) (letters : List Char) : Option (List Nat) :=
  ["xyzw", "rgba", "stpq"].findSome? fun names =>
    letters.mapM fun letter => (names.toList.take size).findIdx? (· = letter)

/-- The components that letters pick from a vector; to be written, no two of them are one. -/
def pickComponents (purpose : Purpose) (size vector : Nat) (letters : List Char) : Build Nat := do
  let positions ← orFail (letterPositions? size letters)
  if purpose = .place then guard positions.Nodup
  let isPlace := (← typeOf vector).isPointer
  let pattern := positions ++ List.replicate (4 - positions.length) 0
  let (inner, pattern) :=
    match (← routine).nodes[vector]? with
    | some (.swizzle _ whole earlier) => (whole, pattern.map fun position => (earlier[position]?).getD 0)
    | _ => (vector, pattern)
  match positions with
  | [] => failure
  | [_] =>
    let base ← if purpose = .value && isPlace then addNode (.load inner) else pure inner
    part base (pattern.head?.getD 0)
  | _ =>
    guard (positions.length ≤ 4)
    let base ← if isPlace then addNode (.load inner) else pure inner
    addNode (.swizzle positions.length base pattern)

/-- The member or the components that a name picks from a value. -/
def pick (purpose : Purpose) (value : Nat) (name : String) : Build Nat := do
  match (← typeOf value).target with
  | .record place =>
    let record ← orFail (← program).records[place]?
    let position ← orFail (record.members.findIdx? (·.name = name))
    loadFor purpose (← part value position)
  | .vector _ 1 => failure
  | .vector _ size => pickComponents purpose size value name.toList
  | _ => failure

/-- The number one for each component of a type. -/
def unit (type : Ty) : Build Nat := do
  let scalar ← orFail type.scalar?
  let one ← addLiteral (← orFail (Literal.one? scalar))
  match type with
  | .vector _ 1 => return one
  | .vector _ size => addNode (.splat size one)
  | .matrix _ columns rows =>
    let column ← addNode (.splat rows one)
    addNode (.compose type (List.replicate columns column))
  | _ => failure

/-- Adds one to what a place holds, or takes it away; gives the old value or the new one. -/
def step (operator : BinaryOperator) (givesOld : Bool) (place : Nat) : Build Nat := do
  let isPicked := match (← routine).nodes[place]? with | some (.swizzle ..) => true | _ => false
  let old ← if isPicked then pure place else addNode (.load place)
  let one ← unit (← typeOf old)
  let new ← addNode (.binary operator old one)
  store place new
  return if givesOld then old else new

/-- Writes a value to a place, converted to its components. -/
def assign (place value : Nat) : Build Nat := do
  let value ← widenTo (← typeOf place).target value
  store place value
  return value

/-- One of two values, which are worked out in steps of their own. -/
def chooseValue (condition : Nat) (accept reject : List Step × Nat) : Build Nat := do
  let (acceptSteps, acceptValue) := accept
  let (rejectSteps, rejectValue) := reject
  let first := (← typeOf acceptValue).scalar?
  let second := (← typeOf rejectValue).scalar?
  let widened (steps : List Step) (value : Nat) (own other : Option Scalar) :
      Build (List Step × Nat) :=
    match own, other with
    | some own, some other =>
      if own.widensTo other then withBody steps (convert other value) else return (steps, value)
    | _, _ => return (steps, value)
  let (acceptSteps, acceptValue) ← widened acceptSteps acceptValue first second
  let (rejectSteps, rejectValue) ← widened rejectSteps rejectValue second first
  let type ← typeOf acceptValue
  useType type
  let result ← addLocal type none
  addStep (.branch condition (acceptSteps ++ [.store result acceptValue])
    (rejectSteps ++ [.store result rejectValue]))
  addNode (.load result)

/-- The number of elements of an array. -/
def arrayLength (array : Nat) : Build Nat := do
  match ← typeOf array with
  | .array _ (some size) _ => convert .int (← addLiteral (.uint size))
  | _ => convert .int (← addNode (.arrayLength array))

/-- The node of a name. -/
def lowerName (purpose : Purpose) (reference : Reference) : Build Nat := do
  match purpose with
  | .place =>
    guard reference.isWritable
    return reference.node
  | .base false =>
    match reference.constant with
    | some constant => addLocal constant.type (some constant.value)
    | none => return reference.node
  | .base true => return reference.node
  | .value => if reference.loads then addNode (.load reference.node) else return reference.node

/-! ### Expressions -/

/-- The part of a value at a position, the place of which among the constant nodes is known if it is
constant. -/
def partAt (base position : Nat) (constant? : Option Nat) : Build Nat := do
  let natural? ←
    match constant? with
    | some value => naturalOf? value
    | none => pure none
  match natural? with
  | some place => part base place
  | none => addNode (.access base position)

mutual

/-- The node for the value of an expression, if it has one. -/
def lower? (purpose : Purpose) : Term → Build (Option Nat)
  | .literal value => do
    guard (purpose ≠ .place)
    return some (← addLiteral value)
  | .name reference => do return some (← lowerName purpose reference)
  | .call function arguments => do
    guard (purpose ≠ .place)
    let values ← lowerAll arguments
    let overload ← chooseOverload function values
    let (passed, writeBacks) ← passAll overload.parameters values arguments
    match overload.callee with
    | .routine place => callRoutine place overload.givesNothing passed writeBacks
    | .intrinsic intrinsic => callIntrinsic intrinsic passed
  | .construct type arguments => do
    guard (purpose ≠ .place)
    return some (← construct type (← lowerAll arguments))
  | .method value name arguments => do
    guard (purpose ≠ .place)
    let values ← lowerAll arguments
    guard (name = "length" && values.isEmpty)
    return some (← arrayLength (← (lower? purpose value) >>= orFail))
  | .field value name => do
    return some (← pick purpose (← (lower? purpose value) >>= orFail) name)
  | .index value position => do
    let position ← (lower? .value position) >>= orFail
    let constant? ← if purpose = .place then pure none else solve position
    let base ← (lower? (purpose.ofBase constant?.isSome) value) >>= orFail
    return some (← loadFor purpose (← partAt base position constant?))
  | .unary operator value => do
    guard (purpose ≠ .place)
    return some (← addNode (.unary operator (← (lower? .value value) >>= orFail)))
  | .step operator givesOld value => do
    guard (purpose ≠ .place)
    return some (← step operator givesOld (← (lower? .place value) >>= orFail))
  | .binary operator left right => do
    guard (purpose ≠ .place)
    let left ← (lower? .value left) >>= orFail
    let right ← (lower? .value right) >>= orFail
    return some (← convertedOperation operator left right)
  | .assign operator target value => do
    guard (purpose ≠ .place)
    let place ← (lower? .place target) >>= orFail
    match operator with
    | none => return some (← assign place (← (lower? .value value) >>= orFail))
    | some operator =>
      let left ← (lower? .value target) >>= orFail
      let right ← (lower? .value value) >>= orFail
      return some (← assign place (← convertedOperation operator left right))
  | .choose condition accept reject => do
    guard (purpose ≠ .place)
    let condition ← (lower? .value condition) >>= orFail
    let accept ← newBody ((lower? purpose accept) >>= orFail)
    let reject ← newBody ((lower? purpose reject) >>= orFail)
    return some (← chooseValue condition accept reject)

/-- The nodes for the values of expressions. -/
def lowerAll : List Term → Build (List Nat)
  | [] => return []
  | first :: rest => do
    let value ← (lower? .value first) >>= orFail
    return value :: (← lowerAll rest)

/-- What is passed to the parameters of a function: values, or places for expressions that are built once
more. -/
def passAll : List Parameter → List Nat → List Term → Build (List Nat × List WriteBack)
  | parameter :: parameters, value :: values, term :: terms => do
    let (passed, writeBacks) ←
      if parameter.passing.isPlace then
        let place ← (lower? .place term) >>= orFail
        passPlace parameter place value
      else pure (← widenTo parameter.type value, [])
    let (others, later) ← passAll parameters values terms
    return (passed :: others, writeBacks ++ later)
  | _, _, _ => return ([], [])

end

/-- The node for the value of an expression. -/
def lower (purpose : Purpose) (term : Term) : Build Nat := do
  (lower? purpose term) >>= orFail

/-- Builds an expression in a routine of its own, which has to be constant, and gives the place of its
value among the constant nodes. -/
def solveApart (understood : Build Term) : Build Nat := do
  let (_, value) ← apart enterNames do orFail (← solve (← lower .value (← understood)))
  return value

/-- An integer as a literal of thirty-two bits. -/
def integerLiteral (value : Nat) (unsigned : Bool) : Literal :=
  if unsigned then .uint (Literal.wrapUint value) else .int (Literal.wrapInt value)

/-- An array of a type; its size is not zero. -/
def arrayType (element : Ty) (size : Option Nat) : Build Ty := do
  guard (size ≠ some 0)
  let type := Ty.arrayOf (← program).records element size
  useType type
  return type

/-- The type that a construction gives: an array without a size has as many elements as are given. -/
def constructedType (type : Ty) (count : Nat) : Build Ty := do
  match type with
  | .array element none stride =>
    guard (count ≠ 0)
    let type : Ty := .array element (some count) stride
    useType type
    return type
  | _ => return type

mutual

/-- An expression with its names looked up. -/
def understand : Expr → Build Term
  | .integer value unsigned => return .literal (integerLiteral value unsigned)
  | .floating value => return .literal (.float value)
  | .boolean value => return .literal (.bool value)
  | .name name => do return .name (← orFail (← reference? name))
  | .call function arguments => do return .call function (← understandAll arguments)
  | .construct type arguments => do
    let type ← orFail (← understandType type)
    let arguments ← understandAll arguments
    return .construct (← constructedType type arguments.length) arguments
  | .method value name arguments => do
    let value ← understand value
    return .method value name (← understandAll arguments)
  | .field value name => do return .field (← understand value) name
  | .index value position => do
    let value ← understand value
    return .index value (← understand position)
  | .unary operator value => do return .unary operator (← understand value)
  | .step operator givesOld value => do return .step operator givesOld (← understand value)
  | .binary operator left right => do
    let left ← understand left
    return .binary operator left (← understand right)
  | .assign operator target value => do
    let target ← understand target
    return .assign operator target (← understand value)
  | .choose condition accept reject => do
    let condition ← understand condition
    let accept ← understand accept
    return .choose condition accept (← understand reject)
  | .sequence first second => do
    discard (understand first)
    understand second

/-- Expressions with their names looked up. -/
def understandAll : List Expr → Build (List Term)
  | [] => return []
  | first :: rest => do
    let first ← understand first
    return first :: (← understandAll rest)

/-- An array of a type for each size that is written, in this order. -/
def understandSizes (type : Ty) : SizeTerms → Build Ty
  | .none => return type
  | .unsized rest => do understandSizes (← arrayType type none) rest
  | .sized size rest => do
    let size ← orFail (← naturalOf? (← solveApart (understand size)))
    understandSizes (← arrayType type (some size)) rest

/-- A type with its names looked up, if it is not that of no value. -/
def understandType : TypeTerm → Build (Option Ty)
  | .void => return none
  | .known type sizes => do
    useType type
    return some (← understandSizes type sizes)
  | .name name sizes => do
    let type ← orFail ((← get).structures.lookup name)
    return some (← understandSizes type sizes)
  | .record name members sizes => do
    let row ← understandMembers .std140 .empty members
    let type ← addRecordType (row.record (← program).records name)
    modify fun state => { state with structures := (name, type) :: state.structures }
    return some (← understandSizes type sizes)

/-- Members as they are laid out after others. -/
def understandMembers (layout : BlockLayout) (row : MemberRow) : List MemberTerm → Build MemberRow
  | [] => return row
  | .mk type name sizes :: rest => do
    let type ← orFail (← understandType type)
    let type ← understandSizes type sizes
    understandMembers layout (row.add name (← placeType layout type)) rest

end

/-- The integer that a constant expression is, which is not below zero. -/
def sizeOf (value : Expr) : Build Nat := do
  orFail (← naturalOf? (← solveApart (understand value)))

/-- The node for the value of an expression, if it has one. -/
def value? (expression : Expr) : Build (Option Nat) := do
  lower? .value (← understand expression)

/-- The node for the value of an expression. -/
def value (expression : Expr) : Build Nat := do
  orFail (← value? expression)

end Build

end ShaderCheck.Glsl
