/-
**Numbers in JSON.**

An integer that 64 bits hold is kept exactly; any other number is a binary64 value. Its digits are
gathered into an integer below 2^64 as far as they fit, further ones only move the decimal point,
and the result is scaled by one multiplication or division by a power of ten; that power is split
when it is below the range.

* `gatherDigits`: the digits that fit;
* `scaleBinary64?`: an integer times a power of ten;
* `parseNumber`: a number at the start of a text, its sign taken.
-/

import ShaderCheck.Json.Basic
import ShaderCheck.Text.Characters

namespace ShaderCheck

open Text

/-- The largest number of 64 bits. -/
def maxWord : Nat := 0xffffffffffffffff

/-- Takes digits on to a number as long as the result is at most `limit`: the number, how many
digits it took, and the digits left. -/
def gatherDigits (limit number taken : Nat) : List Char → Nat × Nat × List Char
  | [] => (number, taken, [])
  | c :: rest =>
    if limit < number * 10 + digitValue c then (number, taken, c :: rest)
    else gatherDigits limit (number * 10 + digitValue c) (taken + 1) rest

/-- The largest power of ten that a value is scaled by at once. -/
def maxScale : Nat := 308

/-- The power of ten as a binary64 value. -/
def powerOfTen (exponent : Nat) : Float :=
  Float.ofScientific 1 false exponent

/-- The value divided by a power of ten, in steps that the range has room for. -/
def divideByPower (value : Float) (exponent : Nat) : Float :=
  if exponent ≤ maxScale then value / powerOfTen exponent
  else if value == 0.0 then value
  else divideByPower (value / powerOfTen maxScale) (exponent - maxScale)
termination_by exponent
decreasing_by
  unfold maxScale at *
  omega

/-- The integer times a power of ten, unless that is above the range. -/
def scaleBinary64? (significand : Nat) (exponent : Int) : Option Float :=
  let value := (UInt64.ofNat significand).toFloat
  match exponent with
  | .ofNat power =>
    if power ≤ maxScale then
      let scaled := value * powerOfTen power
      if scaled.isInf then none else some scaled
    else if value == 0.0 then some value else none
  | .negSucc power => some (divideByPower value (power + 1))

/-- The bits of a value with the wanted sign. -/
def signedNumber (positive : Bool) (value : Float) : JsonNumber :=
  .binary64 (if positive then value else -value).toBits

/-- The number that digits, scaled by a power of ten, make. -/
def finishNumber (positive : Bool) (significand : Nat) (exponent : Int) (rest : List Char) :
    Except JsonStop (JsonNumber × List Char) :=
  match scaleBinary64? significand exponent with
  | some value => .ok (signedNumber positive value, rest)
  | none => .error (.here .numberOutOfRange rest)

/-- The largest exponent that is computed with. -/
def maxExponent : Nat := 0x7fffffff

/-- Reads an exponent after its letter. -/
def parseExponent (positive : Bool) (significand : Nat) (exponent : Int) (text : List Char) :
    Except JsonStop (JsonNumber × List Char) :=
  let (raises, unsigned) :=
    match text with
    | '+' :: rest => (true, rest)
    | '-' :: rest => (false, rest)
    | _ => (true, text)
  match unsigned with
  | [] => .error (.here .eofInValue [])
  | c :: _ =>
    if !isAsciiDigit c then .error ⟨.invalidNumber, unsigned, 1⟩
    else
      let rest := unsigned.dropWhile isAsciiDigit
      let (power, _, unread) := gatherDigits maxExponent 0 0 (unsigned.takeWhile isAsciiDigit)
      match unread with
      | [] =>
        finishNumber positive significand (if raises then exponent + power else exponent - power)
          rest
      | _ :: skipped =>
        if significand ≠ 0 ∧ raises then .error (.here .numberOutOfRange (skipped ++ rest))
        else .ok (signedNumber positive 0.0, rest)

/-- Reads what may follow the digits of a number that is not kept exactly: an exponent. -/
def parseScale (positive : Bool) (significand : Nat) (exponent : Int) (text : List Char) :
    Except JsonStop (JsonNumber × List Char) :=
  match text with
  | 'e' :: rest | 'E' :: rest => parseExponent positive significand exponent rest
  | _ => finishNumber positive significand exponent text

/-- Reads the digits after a decimal point. -/
def parseFraction (positive : Bool) (significand : Nat) (exponent : Int) (text : List Char) :
    Except JsonStop (JsonNumber × List Char) :=
  let digits := text.takeWhile isAsciiDigit
  let rest := text.dropWhile isAsciiDigit
  match digits, rest with
  | [], [] => .error (.here .eofInValue [])
  | [], _ => .error (.beforeNext .invalidNumber rest)
  | _, _ =>
    let (significand, taken, _) := gatherDigits maxWord significand 0 digits
    parseScale positive significand (exponent - taken) rest

/-- The number of an integer that 64 bits hold. -/
def exactNumber (positive : Bool) (value : Nat) : JsonNumber :=
  if positive then .natural value
  else if 0 < value ∧ value ≤ 0x8000000000000000 then .negative value
  else signedNumber false (UInt64.ofNat value).toFloat

/-- Reads a number whose sign is taken. -/
def parseNumber (positive : Bool) (text : List Char) : Except JsonStop (JsonNumber × List Char) :=
  let digits := text.takeWhile isAsciiDigit
  let rest := text.dropWhile isAsciiDigit
  match digits with
  | [] =>
    match text with
    | [] => .error (.here .eofInValue [])
    | _ => .error ⟨.invalidNumber, text, 1⟩
  | '0' :: next :: more => .error ⟨.invalidNumber, next :: more ++ rest, 1⟩
  | _ =>
    let (significand, _, unread) := gatherDigits maxWord 0 0 digits
    match rest with
    | '.' :: fraction => parseFraction positive significand unread.length fraction
    | 'e' :: exponent | 'E' :: exponent =>
      parseExponent positive significand unread.length exponent
    | _ =>
      if unread = [] then .ok (exactNumber positive significand, rest)
      else finishNumber positive significand unread.length rest

/-! ### What is left is shorter -/

theorem rest_of_finishNumber {positive : Bool} {significand : Nat} {exponent : Int}
    {text rest : List Char} {number : JsonNumber}
    (parsed : finishNumber positive significand exponent text = .ok (number, rest)) :
    rest = text := by
  unfold finishNumber at parsed
  split at parsed
  · simp only [Except.ok.injEq, Prod.mk.injEq] at parsed
    exact parsed.2.symm
  · cases parsed

theorem length_of_parseExponent {positive : Bool} {significand : Nat} {exponent : Int}
    {text rest : List Char} {number : JsonNumber}
    (parsed : parseExponent positive significand exponent text = .ok (number, rest)) :
    rest.length ≤ text.length := by
  have unsignedBound : ∀ unsigned : List Char,
      (unsigned.dropWhile isAsciiDigit).length ≤ unsigned.length := fun unsigned =>
    (List.dropWhile_sublist isAsciiDigit).length_le
  unfold parseExponent at parsed
  split at parsed
  rename_i raises unsigned signed
  have bound : unsigned.length ≤ text.length := by
    split at signed <;> simp only [Prod.mk.injEq] at signed <;> rw [← signed.2] <;> simp
  split at parsed
  · cases parsed
  · rename_i c tail
    split at parsed
    · cases parsed
    · simp only at parsed
      split at parsed
      · have := rest_of_finishNumber parsed
        rw [this]
        exact Nat.le_trans (unsignedBound _) bound
      · split at parsed
        · cases parsed
        · simp only [Except.ok.injEq, Prod.mk.injEq] at parsed
          rw [← parsed.2]
          exact Nat.le_trans (unsignedBound _) bound

theorem length_of_parseScale {positive : Bool} {significand : Nat} {exponent : Int}
    {text rest : List Char} {number : JsonNumber}
    (parsed : parseScale positive significand exponent text = .ok (number, rest)) :
    rest.length ≤ text.length := by
  unfold parseScale at parsed
  split at parsed
  · have := length_of_parseExponent parsed
    simp only [List.length_cons]
    omega
  · have := length_of_parseExponent parsed
    simp only [List.length_cons]
    omega
  · exact Nat.le_of_eq (congrArg List.length (rest_of_finishNumber parsed))

theorem length_of_parseFraction {positive : Bool} {significand : Nat} {exponent : Int}
    {text rest : List Char} {number : JsonNumber}
    (parsed : parseFraction positive significand exponent text = .ok (number, rest)) :
    rest.length ≤ text.length := by
  unfold parseFraction at parsed
  simp only at parsed
  split at parsed
  · cases parsed
  · cases parsed
  · have := length_of_parseScale parsed
    have := (List.dropWhile_sublist isAsciiDigit (l := text)).length_le
    omega

/-- A number takes at least one character. -/
theorem length_of_parseNumber {positive : Bool} {text rest : List Char} {number : JsonNumber}
    (parsed : parseNumber positive text = .ok (number, rest)) : rest.length < text.length := by
  have whole : (text.takeWhile isAsciiDigit).length + (text.dropWhile isAsciiDigit).length =
      text.length := by
    rw [← List.length_append, List.takeWhile_append_dropWhile]
  unfold parseNumber at parsed
  simp only at parsed
  split at parsed
  · split at parsed <;> cases parsed
  · cases parsed
  · rename_i digits notEmpty _
    have someDigit : 0 < (text.takeWhile isAsciiDigit).length :=
      List.length_pos_iff.mpr notEmpty
    split at parsed
    · rename_i fraction split
      have := length_of_parseFraction parsed
      rw [split, List.length_cons] at whole
      omega
    · rename_i exponent split
      have := length_of_parseExponent parsed
      rw [split, List.length_cons] at whole
      omega
    · rename_i exponent split
      have := length_of_parseExponent parsed
      rw [split, List.length_cons] at whole
      omega
    · split at parsed
      · simp only [Except.ok.injEq, Prod.mk.injEq] at parsed
        rw [← parsed.2]
        omega
      · rw [rest_of_finishNumber parsed]
        omega

end ShaderCheck
