/-
**Single precision numbers.**

A finite number is a count of units, a unit being the least positive number: one part in `2 ^ 149`.
Sums, products and quotients are exact counts, or fractions of such, rounded to the nearest number, a
tie to the even one. A number too large to be one is infinite.

* `Binary32.ofFraction`: the number nearest to a fraction;
* `Binary32.ofDecimal`: the number that decimal digits with an exponent denote.
-/

namespace ShaderCheck.Glsl

/-- A number of single precision. -/
inductive Binary32
  | undefined
  | infinite (negative : Bool)
  /-- So many units. -/
  | finite (negative : Bool) (units : Nat)
deriving DecidableEq, Repr

namespace Binary32

/-- A fraction rounded to a whole number, a tie to the even one. -/
def roundToEven (numerator denominator : Nat) : Nat :=
  let whole := numerator / denominator
  let rest := numerator % denominator * 2
  if rest < denominator ∨ (rest = denominator ∧ whole % 2 = 0) then whole else whole + 1

/-- How many units make one. -/
def unitsOfOne : Nat := Nat.pow 2 149

/-- The least count of units that is too large. -/
def unitsLimit : Nat := Nat.pow 2 277

/-- The number nearest to a fraction of units: one of at most twenty-four binary digits. -/
def roundUnits (negative : Bool) (numerator denominator : Nat) : Binary32 :=
  let whole := numerator / denominator
  let step := Nat.pow 2 (whole.log2 - 23)
  let units := roundToEven numerator (denominator * step) * step
  if units < unitsLimit then .finite negative units else .infinite negative

/-- The number nearest to a fraction. -/
def ofFraction (negative : Bool) (numerator denominator : Nat) : Binary32 :=
  roundUnits negative (numerator * unitsOfOne) denominator

/-- The number nearest to an integer. -/
def ofInt (value : Int) : Binary32 :=
  ofFraction (value < 0) value.natAbs 1

/-- The number nearest to digits, followed by so many zeros or with a point so many places before their
end. Exponents far outside of what a number holds are not worked out. -/
def ofDecimal (digits : Nat) (exponent : Int) : Binary32 :=
  let magnitude := exponent + digits.log2 / 3
  if digits = 0 ∨ magnitude < -100 then .finite false 0
  else if 100 < exponent then .infinite false
  else if 0 ≤ exponent then ofFraction false (digits * Nat.pow 10 exponent.toNat) 1
  else ofFraction false digits (Nat.pow 10 exponent.natAbs)

/-- The number zero. -/
def zero : Binary32 := .finite false 0

/-- The number one. -/
def one : Binary32 := .finite false unitsOfOne

/-- The number of opposite sign. -/
def negate : Binary32 → Binary32
  | undefined => undefined
  | infinite negative => infinite !negative
  | finite negative units => finite (!negative) units

/-- A count of units below or above zero. -/
def signedUnits (negative : Bool) (units : Nat) : Int :=
  if negative then -units else units

/-- The sum of two numbers. -/
def add : Binary32 → Binary32 → Binary32
  | undefined, _ | _, undefined => undefined
  | infinite left, infinite right => if left = right then infinite left else undefined
  | infinite left, finite .. => infinite left
  | finite .., infinite right => infinite right
  | finite negative units, finite negative' units' =>
    let sum := signedUnits negative units + signedUnits negative' units'
    if sum = 0 then finite (negative && negative') 0 else roundUnits (sum < 0) sum.natAbs 1

/-- The difference of two numbers. -/
def subtract (left right : Binary32) : Binary32 :=
  left.add right.negate

/-- The product of two numbers. -/
def multiply : Binary32 → Binary32 → Binary32
  | undefined, _ | _, undefined => undefined
  | infinite left, infinite right => infinite (left != right)
  | infinite left, finite right units | finite right units, infinite left =>
    if units = 0 then undefined else infinite (left != right)
  | finite negative units, finite negative' units' =>
    roundUnits (negative != negative') (units * units') unitsOfOne

/-- The quotient of two numbers. -/
def divide : Binary32 → Binary32 → Binary32
  | undefined, _ | _, undefined | infinite _, infinite _ => undefined
  | infinite left, finite right _ => infinite (left != right)
  | finite left _, infinite right => finite (left != right) 0
  | finite negative units, finite negative' units' =>
    if units' = 0 then
      if units = 0 then undefined else infinite (negative != negative')
    else ofFraction (negative != negative') units units'

/-- The greatest whole number that is not above a number. -/
def floor : Binary32 → Binary32
  | finite negative units =>
    let whole := units / unitsOfOne
    if negative && units % unitsOfOne ≠ 0 then finite true ((whole + 1) * unitsOfOne)
    else finite negative (whole * unitsOfOne)
  | value => value

/-- What is left of a number after a division to the whole number below. -/
def modulo (left right : Binary32) : Binary32 :=
  left.subtract (right.multiply (left.divide right).floor)

/-- Whether two numbers are equal; both zeros are. -/
def equal : Binary32 → Binary32 → Bool
  | undefined, _ | _, undefined => false
  | infinite left, infinite right => left = right
  | finite negative units, finite negative' units' =>
    signedUnits negative units = signedUnits negative' units'
  | _, _ => false

/-- Whether a number is less than another one. -/
def less : Binary32 → Binary32 → Bool
  | undefined, _ | _, undefined => false
  | infinite left, infinite right => left && !right
  | infinite left, finite .. => left
  | finite .., infinite right => !right
  | finite negative units, finite negative' units' =>
    signedUnits negative units < signedUnits negative' units'

/-- The greater one of two numbers: the first one unless it is less. -/
def maximum (left right : Binary32) : Binary32 :=
  if left.less right then right else left

/-- The lesser one of two numbers: the first one unless the second one is less. -/
def minimum (left right : Binary32) : Binary32 :=
  if right.less left then right else left

/-- The whole part of a number, brought between two bounds. -/
def truncate (low high : Int) : Binary32 → Int
  | undefined => 0
  | infinite negative => if negative then low else high
  | finite negative units => max low (min high (signedUnits negative (units / unitsOfOne)))

/-! ### Powers -/

/-- A number of double precision that is the same. -/
def toDouble : Binary32 → Float
  | undefined => 0.0 / 0.0
  | infinite negative => if negative then -1.0 / 0.0 else 1.0 / 0.0
  | finite negative units =>
    let magnitude := (Float.ofNat units).scaleB (-149)
    if negative then -magnitude else magnitude

/-- The number nearest to one of double precision. -/
def ofDouble (value : Float) : Binary32 :=
  if value.isNaN then undefined
  else if value.isInf then infinite (value < 0.0)
  else
    let (fraction, exponent) := value.abs.frExp
    let digits := (fraction.scaleB 53).toUInt64.toNat
    let shift := exponent + 96
    if 400 < shift then infinite (value < 0.0)
    else if 0 ≤ shift then roundUnits (value < 0.0) (digits * Nat.pow 2 shift.toNat) 1
    else roundUnits (value < 0.0) digits (Nat.pow 2 shift.natAbs)

/-- A number to the power of another one. -/
def power (base exponent : Binary32) : Binary32 :=
  ofDouble (base.toDouble.pow exponent.toDouble)

end Binary32

end ShaderCheck.Glsl
