/-
**Operations on valid operands.**

An operation takes some types only. Numbers of two types are never mixed; where a scalar may stand
beside a vector or a matrix, their components are the same. A pixel is looked up with a sampler or loaded
from its place: the image tells how many coordinates there are, whether a layer is asked for, and what
else has to be told.

* `UnaryOperator.takes`, `BinaryOperator.takes`: operations on one and on two values;
* `MathFunction.takes`: functions of numbers;
* `Sample.isValid`, `isValidLoad`, `isValidSize`: what is asked of images.
-/

import ShaderCheck.Glsl.Intrinsic
import ShaderCheck.Glsl.Program

namespace ShaderCheck.Glsl

/-! ### Operations -/

namespace Ty

/-- Whether a value is a scalar or a vector with such components. -/
def isVectorOf (admits : Scalar → Bool) : Ty → Bool
  | .vector scalar _ => admits scalar
  | _ => false

/-- Whether a value is one scalar of some kind. -/
def isScalarOf (admits : Scalar → Bool) : Ty → Bool
  | .vector scalar 1 => admits scalar
  | _ => false

/-- Whether a value is a vector, and not a scalar, with such components. -/
def isLongVectorOf (admits : Scalar → Bool) : Ty → Bool
  | .vector _ 1 => false
  | .vector scalar _ => admits scalar
  | _ => false

/-- Whether a value is a matrix with such columns and rows. -/
def isMatrixOf (admits : Nat → Nat → Bool) : Ty → Bool
  | .matrix _ columns rows => admits columns rows
  | _ => false

end Ty

namespace Scalar

/-- Whether the values are numbers. -/
def isNumber : Scalar → Bool
  | bool => false
  | _ => true

end Scalar

/-- Whether an operation takes a value; a number without a sign is not negated. -/
def UnaryOperator.takes (operator : UnaryOperator) (value : Ty) : Bool :=
  match value, operator with
  | .vector .bool _, _ | .vector .int _, _ => true
  | .vector .uint _, .not => true
  | .vector scalar _, .negate | .matrix scalar _ _, .negate => scalar.isFloating
  | _, _ => false

/-- Whether two values can be multiplied. -/
def canMultiply (left right : Ty) : Bool :=
  match left, right with
  | .vector scalar size, .vector scalar' size' =>
    scalar.isNumber && scalar = scalar' && (size = 1 || size' = 1 || size = size')
  | .vector scalar size, .matrix scalar' _ rows =>
    scalar.isFloating && scalar = scalar' && (size = 1 || size = rows)
  | .matrix scalar columns _, .vector scalar' size =>
    scalar'.isFloating && scalar = scalar' && (size = 1 || size = columns)
  | .matrix scalar columns _, .matrix scalar' _ rows => scalar = scalar' && columns = rows
  | _, _ => false

/-- Whether the bits of one value can be moved by as many places as the other one tells. -/
def canShift (left right : Ty) : Bool :=
  match left, right with
  | .vector scalar size, .vector .uint size' => scalar.isIntegral && size = size'
  | _, _ => false

/-- Whether an operation takes two values. -/
def BinaryOperator.takes (operator : BinaryOperator) (left right : Ty) : Bool :=
  match operator with
  | .add | .subtract =>
    (left.isVectorOf Scalar.isNumber || left.isMatrixOf fun _ _ => true) && left = right
  | .divide | .modulo | .less | .lessEqual | .greater | .greaterEqual =>
    left.isVectorOf Scalar.isNumber && left = right
  | .multiply => canMultiply left right
  | .equal | .notEqual => left = right
  | .and | .inclusiveOr => left.isVectorOf (fun scalar => !scalar.isFloating) && left = right
  | .exclusiveOr => left.isVectorOf Scalar.isIntegral && left = right
  | .logicalAnd | .logicalOr => left.isVectorOf (· = .bool) && left = right
  | .shiftLeft | .shiftRight => canShift left right

/-- Whether one of two values can be chosen by a condition: by one truth value, or by one for each
component. -/
def canSelect (condition accept reject : Ty) : Bool :=
  accept = reject &&
    match condition, accept with
    | .vector .bool 1, .vector .. => true
    | .vector .bool size, .vector _ size' => size = size'
    | _, _ => false

/-- Whether a question can be asked about a value. -/
def Question.takes (question : Question) (value : Ty) : Bool :=
  match question with
  | .all | .any => value.isLongVectorOf (· = .bool)
  | .kindOfNumber => value.isVectorOf Scalar.isFloating

namespace MathFunction

/-- Whether a function of one value takes it. -/
def takesOne (function : MathFunction) (value : Ty) : Bool :=
  match function with
  | .abs => value.isVectorOf Scalar.isNumber
  | .elementary | .length => value.isVectorOf Scalar.isFloating
  | .sign => value.isVectorOf fun scalar => scalar.isFloating || scalar = .int
  | .normalize => value.isLongVectorOf Scalar.isFloating
  | .inverse | .determinant => value.isMatrixOf (· = ·)
  | .transpose => value.isMatrixOf fun _ _ => true
  | .bits => value.isVectorOf Scalar.isIntegral
  | .pack size => value.isLongVectorOf Scalar.isFloating && value.components? = some size
  | .unpack _ => value.isScalarOf (· = .uint)
  | _ => false

/-- Whether a function of two values takes them. One that cuts a number in two takes a place for it. -/
def takesTwo (function : MathFunction) (left right : Ty) : Bool :=
  match function with
  | .extremum => left.isVectorOf Scalar.isNumber && left = right
  | .power | .pairwise | .distance => left.isVectorOf Scalar.isFloating && left = right
  | .split => left.isVectorOf Scalar.isFloating && right.isPointer && right.target = left
  | .dot => left.isLongVectorOf Scalar.isNumber && left = right
  | .outer | .cross => left.isLongVectorOf Scalar.isFloating && left = right
  | _ => false

/-- Whether a function of three values takes them. -/
def takesThree (function : MathFunction) (first second third : Ty) : Bool :=
  match function with
  | .clamp => first.isVectorOf Scalar.isNumber && first = second && first = third
  | .blend => first.isVectorOf Scalar.isFloating && first = second && first = third
  | .refract =>
    first.isLongVectorOf Scalar.isFloating && first = second &&
      third.isScalarOf fun scalar => first.scalar? = some scalar
  | .mix =>
    first.isVectorOf Scalar.isFloating && first = second &&
      (first = third || third.isScalarOf fun scalar => first.scalar? = some scalar)
  | .extractBits =>
    first.isVectorOf Scalar.isIntegral && second = .uint && third = .uint
  | _ => false

/-- Whether a function takes values. -/
def takes (function : MathFunction) (arguments : List Ty) : Bool :=
  match arguments with
  | [value] => function.takesOne value
  | [left, right] => function.takesTwo left right
  | [first, second, third] => function.takesThree first second third
  | [whole, part, start, count] =>
    function = .insertBits && whole.isVectorOf Scalar.isIntegral && whole = part &&
      start = .uint && count = .uint
  | _ => false

end MathFunction

/-! ### Images -/

namespace ImageForm

/-- Whether there are several samples for a pixel. -/
def isMultisampled (form : ImageForm) : Bool :=
  form.content matches .sampled _ true | .depth true

/-- Whether there are smaller versions of the image. -/
def hasLevels (form : ImageForm) : Bool :=
  form.content matches .sampled _ false | .depth false

/-- Whether a pixel can be looked up with a sampler that compares depths or does not. -/
def canSample (form : ImageForm) (compares : Bool) : Bool :=
  match form.content with
  | .sampled scalar false => scalar.isFloating && !compares
  | .depth false => true
  | _ => false

end ImageForm

namespace Ty

/-- Whether a value is a scalar, or a vector, of so many components. -/
def isOfSize (admits : Scalar → Bool) (size : Nat) : Ty → Bool
  | .vector scalar size' => admits scalar && size = size'
  | _ => false

/-- Whether a value is the place of a pixel that is loaded or stored; no pixel of a cube is. -/
def isPlaceIn (form : ImageForm) (type : Ty) : Bool :=
  form.dimension ≠ .cube && type.isOfSize Scalar.isIntegral form.dimension.coordinates

end Ty

/-- Whether a layer is told where there are layers, and nowhere else. -/
def isValidLayer (form : ImageForm) (types : Array Ty) (layer : Option Nat) : Bool :=
  match layer with
  | some layer => form.arrayed && (types[layer]?).any (·.isScalarOf Scalar.isIntegral)
  | none => !form.arrayed

/-- Whether an integer is told exactly if it has to be. -/
def isValidIndex (wanted : Bool) (types : Array Ty) (index : Option Nat) : Bool :=
  match index with
  | some index => wanted && (types[index]?).any (·.isVectorOf (· = .int))
  | none => !wanted

/-- Whether the level of an image can be told so; of a depth that is compared with it is not told. -/
def SampleLevel.isValid (size : Nat) (comparesDepth : Bool) (types : Array Ty) (level : SampleLevel) :
    Bool :=
  let isNumber (place : Nat) : Bool := (types[place]?).any (·.isScalarOf Scalar.isFloating)
  let isVector (place : Nat) : Bool := (types[place]?).any (·.isOfSize Scalar.isFloating size)
  match level with
  | .automatic | .zero => true
  | .exact value | .bias value => !comparesDepth && isNumber value
  | .gradient x y => !comparesDepth && isVector x && isVector y

namespace Sample

/-- Whether a pixel of an image of a form can be looked up so. A depth is told exactly if the sampler
compares it. -/
def isValid (form : ImageForm) (compares : Bool) (constantType? : Nat → Option Ty)
    (types : Array Ty) (looked : Sample) : Bool :=
  let size := form.dimension.coordinates
  isValidLayer form types looked.layer &&
    form.canSample compares && compares = looked.depth.isSome &&
    (types[looked.coordinate]?).any (·.isOfSize Scalar.isFloating size) &&
    looked.offset.all (fun offset => (constantType? offset).any (·.isOfSize (· = .int) size)) &&
    looked.depth.all (fun depth => (types[depth]?).any (·.isScalarOf Scalar.isFloating)) &&
    looked.level.isValid size looked.depth.isSome types

end Sample

/-- Whether a pixel of an image of a form can be loaded from a place. -/
def isValidLoad (form : ImageForm) (types : Array Ty) (coordinate : Nat)
    (layer index level : Option Nat) : Bool :=
  (types[coordinate]?).any (Ty.isPlaceIn form) && isValidLayer form types layer &&
    isValidIndex form.isMultisampled types index && isValidIndex form.hasLevels types level

/-- Whether the size of an image of a form can be asked for, at a level if there are several. -/
def isValidSize (form : ImageForm) (level : Option Nat) : Bool :=
  level.isNone || form.hasLevels

end ShaderCheck.Glsl
