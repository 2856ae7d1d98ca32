/-
**Values of constant expressions.**

Some nodes can be worked out before a stage runs. Their values become constant nodes, one for each
value on the way, also if the whole turns out not to be constant. Numbers wrap around, a division by
zero gives zero, and numbers with a fraction are of single precision.

* `evaluate`: the value of a node.
-/

import ShaderCheck.Glsl.Program

namespace ShaderCheck.Glsl

/-! ### Literals -/

namespace Literal

/-- An integer of thirty-two bits. -/
def wrapInt (value : Int) : Int :=
  value.bmod 0x100000000

/-- An integer of thirty-two bits that has no sign. -/
def wrapUint (value : Int) : Nat :=
  (value % 0x100000000).toNat

/-- An operation on the bits of two integers. -/
def onBits (operation : UInt32 → UInt32 → UInt32) (left right : Int) : Nat :=
  (operation (UInt32.ofInt left) (UInt32.ofInt right)).toNat

/-- The result of an operation on two integers of one type; a quotient that does not fit is zero. -/
def integer? (operator : BinaryOperator) (low high left right : Int) : Option Int :=
  match operator with
  | .add => some (left + right)
  | .subtract => some (left - right)
  | .multiply => some (left * right)
  | .divide =>
    let quotient := left.tdiv right
    some (if right = 0 ∨ quotient < low ∨ high < quotient then 0 else quotient)
  | .modulo =>
    let quotient := left.tdiv right
    some (if right = 0 ∨ quotient < low ∨ high < quotient then 0 else left.tmod right)
  | .and => some (onBits (· &&& ·) left right)
  | .exclusiveOr => some (onBits (· ^^^ ·) left right)
  | .inclusiveOr => some (onBits (· ||| ·) left right)
  | _ => none

/-- The result of moving the bits of an integer; of the places, those beyond thirty-two do not count. -/
def shift? (operator : BinaryOperator) (value : Int) (places : Nat) : Option Int :=
  let factor := Nat.pow 2 (places % 32)
  match operator with
  | .shiftLeft => some (value * factor)
  | .shiftRight => some (value.fdiv factor)
  | _ => none

/-- The result of an operation on two numbers with a fraction. -/
def fractional? (operator : BinaryOperator) (left right : Binary32) : Option Binary32 :=
  match operator with
  | .add => some (left.add right)
  | .subtract => some (left.subtract right)
  | .multiply => some (left.multiply right)
  | .divide => some (left.divide right)
  | .modulo => some (left.modulo right)
  | _ => none

/-- The place of a kind of value in the order of all kinds. -/
def kindRank : Literal → Nat
  | double _ => 0
  | float _ => 1
  | uint _ => 2
  | int _ => 3
  | bool _ => 4

/-- Whether two values are equal, and whether the first one is less and the second one is. Values of two
kinds are ordered as the kinds are. -/
def compare : Literal → Literal → Bool × Bool × Bool
  | bool left, bool right => (left = right, !left && right, left && !right)
  | int left, int right => (left = right, left < right, right < left)
  | uint left, uint right => (left = right, left < right, right < left)
  | float left, float right => (left.equal right, left.less right, right.less left)
  | double left, double right => (left = right, left < right, right < left)
  | left, right => (false, left.kindRank < right.kindRank, right.kindRank < left.kindRank)

/-- The truth value of a comparison, from what is known of two values. -/
def test? (operator : BinaryOperator) (same isLess isGreater : Bool) : Option Bool :=
  match operator with
  | .equal => some same
  | .notEqual => some !same
  | .less => some isLess
  | .lessEqual => some (isLess || same)
  | .greater => some isGreater
  | .greaterEqual => some (isGreater || same)
  | _ => none

/-- The result of an operation on two values. -/
def binary? (operator : BinaryOperator) (left right : Literal) : Option Literal :=
  if operator.isOrder || operator.isEquality then
    let (same, isLess, isGreater) := compare left right
    (test? operator same isLess isGreater).map bool
  else
    match left, right with
    | bool left, bool right =>
      match operator with
      | .logicalAnd => some (bool (left && right))
      | .logicalOr => some (bool (left || right))
      | _ => none
    | int left, int right =>
      (integer? operator (-0x80000000) 0x7fffffff left right).map fun value => int (wrapInt value)
    | uint left, uint right =>
      (integer? operator 0 0xffffffff left right <|> shift? operator left right).map fun value =>
        uint (wrapUint value)
    | int left, uint right => (shift? operator left right).map fun value => int (wrapInt value)
    | float left, float right => (fractional? operator left right).map float
    | _, _ => none

/-- The result of an operation on one value. -/
def unary? (operator : UnaryOperator) (value : Literal) : Option Literal :=
  match operator, value with
  | .negate, int value => some (int (wrapInt (-value)))
  | .negate, float value => some (float value.negate)
  | .not, bool value => some (bool !value)
  | .not, int value => some (int (-value - 1))
  | .not, uint value => some (uint (0xffffffff - value))
  | _, _ => none

/-- A value as an integer between two bounds, a fraction left out. -/
def whole? (low high : Int) : Literal → Option Int
  | bool value => some (if value then 1 else 0)
  | int value => some value
  | uint value => some value
  | float value => some (value.truncate low high)
  | double _ => none

/-- A value as one of another type. -/
def convert? (scalar : Scalar) (value : Literal) : Option Literal :=
  match scalar, value with
  | .bool, bool value => some (bool value)
  | .bool, int value => some (bool (value ≠ 0))
  | .bool, uint value => some (bool (value ≠ 0))
  | .bool, float value => some (bool !(value.equal .zero))
  | .bool, double _ => none
  | .int, value => (whole? (-0x80000000) 0x7fffffff value).map fun value => int (wrapInt value)
  | .uint, value => (whole? 0 0xffffffff value).map fun value => uint (wrapUint value)
  | .float, float value => some (float value)
  | .float, value => (whole? 0 0 value).map fun value => float (Binary32.ofInt value)
  | .double, _ => none

/-- The value of a function of numbers. -/
def math? (function : MathFunction) (arguments : List Literal) : Option Literal :=
  match function, arguments with
  | .power, [float base, float exponent] => some (float (base.power exponent))
  | .clamp, [float value, float low, float high] => some (float ((value.maximum low).minimum high))
  | .clamp, [int value, int low, int high] => some (int (min (max value low) high))
  | .clamp, [uint value, uint low, uint high] => some (uint (min (max value low) high))
  | _, _ => none

end Literal

/-! ### Constant nodes -/

/-- Works out constant values, and keeps the nodes for them. -/
abbrev Evaluate := OptionT (StateM (Array ConstantNode))

namespace Evaluate

/-- Keeps a value, and gives its place. -/
def keep (node : ConstantNode) : Evaluate Nat := do
  let nodes ← getThe (Array ConstantNode)
  set (nodes.push node)
  return nodes.size

/-- The value at a place, constants with names looked up; one may be another one, and so on. -/
def resolve? (constants : Array Constant) (nodes : Array ConstantNode) :
    Nat → Nat → Option ConstantNode
  | 0, _ => none
  | depth + 1, place =>
    match nodes[place]? with
    | some (.constant named) =>
      (constants[named]?).bind fun constant => resolve? constants nodes depth constant.value
    | node? => node?

/-- The value at a place: a literal, or a value made of parts. A constant is another one that is declared
before it, or none. -/
def look (constants : Array Constant) (place : Nat) : Evaluate ConstantNode := do
  let nodes ← getThe (Array ConstantNode)
  (resolve? constants nodes (constants.size + 1) place).elim failure pure

/-- The part of a value. -/
def part (constants : Array Constant) (place position : Nat) : Evaluate Nat := do
  match ← look constants place with
  | .compose _ parts => (parts[position]?).elim failure pure
  | _ => failure

/-- The components of a vector that a pattern picks, all four of them. -/
def swizzle (constants : Array Constant) (size place : Nat) (pattern : List Nat) : Evaluate Nat := do
  match ← look constants place with
  | .compose (.vector scalar _) parts =>
    match pattern.mapM (parts[·]?) with
    | some picked => keep (.compose (.vector scalar size) picked)
    | none => failure
  | _ => failure

/-- Does something with all components of a value, if its type admits that. The result keeps the type. -/
def onComponents (constants : Array Constant) (change : Literal → Option Literal)
    (admits : Ty → Bool) : Nat → Nat → Evaluate Nat
  | 0, _ => failure
  | depth + 1, place => do
    match ← look constants place with
    | .literal value =>
      match change value with
      | some value => keep (.literal value)
      | none => failure
    | .compose type parts => do
      guard (admits type)
      let parts ← parts.mapM (onComponents constants change admits depth)
      keep (.compose type parts)
    | .constant _ => failure

/-- The depth of a value: a matrix is made of vectors, and these of scalars. -/
def valueDepth : Nat := 0x100000000

/-- The result of an operation on two values, one of which is a scalar. -/
def binary (constants : Array Constant) (operator : BinaryOperator) (left right : Nat) :
    Evaluate Nat := do
  match ← look constants left, ← look constants right with
  | .literal first, .literal second =>
    match first.binary? operator second with
    | some value => keep (.literal value)
    | none => failure
  | .compose .., .literal second =>
    onComponents constants (fun value => value.binary? operator second) (fun _ => true) valueDepth left
  | .literal first, .compose .. =>
    onComponents constants (fun value => first.binary? operator value) (fun _ => true) valueDepth right
  | _, _ => failure

/-- Whether values of a type are made of components: vectors and matrices are. -/
def hasComponents : Ty → Bool
  | .vector .. | .matrix .. => true
  | _ => false

/-- The value of a function of scalars. -/
def math (constants : Array Constant) (function : MathFunction) (arguments : List Nat) :
    Evaluate Nat := do
  let values ← arguments.mapM fun place => do
    match ← look constants place with
    | .literal value => pure value
    | _ => failure
  match Literal.math? function values with
  | some value => keep (.literal value)
  | none => failure

/-- A vector with the same value everywhere. -/
def splat (constants : Array Constant) (size place : Nat) : Evaluate Nat := do
  match (← getThe (Array ConstantNode))[place]? with
  | some (.literal value) =>
    keep (.compose (.vector value.scalar size) (List.replicate size place))
  | some (.constant constant) =>
    match constants[constant]? with
    | some ⟨.vector scalar 1, _⟩ => keep (.compose (.vector scalar size) (List.replicate size place))
    | _ => failure
  | _ => failure

/-- The value of a node, of which earlier nodes are `nodes`; the node itself is at most so deep. -/
def node (constants : Array Constant) (nodes : Array Node) : Nat → Nat → Evaluate Nat
  | 0, _ => failure
  | depth + 1, place => do
    let value := node constants nodes depth
    match nodes[place]? with
    | some (.literal literal) => keep (.literal literal)
    | some (.constant constant) => keep (.constant constant)
    | some (.compose type parts) => do keep (.compose type (← parts.mapM value))
    | some (.splat size scalar) => do splat constants size (← value scalar)
    | some (.accessAt base position) => do part constants (← value base) position
    | some (.access base position) => do
      discard (value base)
      discard (value position)
      failure
    | some (.swizzle size vector pattern) => do swizzle constants size (← value vector) pattern
    | some (.unary operator operand) => do
      onComponents constants (Literal.unary? operator) hasComponents valueDepth (← value operand)
    | some (.binary operator left right) => do
      let first ← value left
      let second ← value right
      binary constants operator first second
    | some (.math function arguments) => do math constants function (← arguments.mapM value)
    | some (.convert scalar operand) => do
      onComponents constants (Literal.convert? scalar) hasComponents valueDepth (← value operand)
    | _ => failure

end Evaluate

/-- The constant nodes with those that the value of a node needs, and the place of that value, if the
node is constant. -/
def evaluate (constants : Array Constant) (kept : Array ConstantNode) (nodes : Array Node)
    (place : Nat) : Array ConstantNode × Option Nat :=
  let (result, kept) := (Evaluate.node constants nodes (nodes.size + 1) place).run.run kept
  (kept, result)

end ShaderCheck.Glsl
