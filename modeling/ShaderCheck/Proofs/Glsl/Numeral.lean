/-
**Numbers as the tokens read them.**

The same digits can denote two numbers: a decimal one, and the integer of a token, which has eight
as its base if it begins with a zero. The integer of a token is never the larger one, and more
digits make it larger by a factor of its base at least.

* `baseOf`, `integer?_of_number?`: the integer that digits are read as;
* `baseNumber?_le_decimalNumber`: it is at most the decimal number;
* `exists_mul_le_of_baseNumber?_append`: with more digits behind, it is a multiple;
* `readUnsigned_eq_ok_iff`: the decimal number, as it is read with a limit.
-/

import Mathlib.Data.List.Induction
import ShaderCheck.Proofs.Glsl.Lexing
import ShaderCheck.Text

namespace ShaderCheck.Glsl

open Text

/-! ### Values of digits -/

section Values

variable {base : Nat} {digits more : List Char} {value : Nat}

/-- The value of a digit is the same in every base up to ten. -/
theorem baseDigit?_eq_some {c : Char} {digit : Nat} (ten : base ≤ 10)
    (found : baseDigit? base c = some digit) : digit = digitValue c ∧ digit < base := by
  unfold baseDigit? at found
  dsimp only at found
  by_cases ascii : isAsciiDigit c
  · rw [if_pos ascii, Option.ite_none_right_eq_some] at found
    obtain ⟨below, same⟩ := found
    rw [← Option.some.inj same]
    exact ⟨rfl, below⟩
  · rw [if_neg ascii, Option.ite_none_right_eq_some] at found
    obtain ⟨below, _⟩ := found
    -- A letter is worth ten or more.
    split at below
    · omega
    · split at below <;> omega

/-- Digits are read one after the other. -/
theorem baseNumber?_concat {c : Char} :
    baseNumber? base (digits ++ [c]) = some value ↔
      ∃ number digit, baseNumber? base digits = some number ∧ baseDigit? base c = some digit ∧
        number * base + digit = value := by
  unfold baseNumber?
  rw [List.foldlM_append]
  cases digits.foldlM (fun number c => (baseDigit? base c).map (number * base + ·)) 0 <;> simp

theorem decimalNumber_concat {c : Char} :
    decimalNumber (digits ++ [c]) = decimalNumber digits * 10 + digitValue c := by
  unfold decimalNumber
  rw [List.foldl_append]
  rfl

/-- **The integer of digits** is at most the decimal number that they spell. -/
theorem baseNumber?_le_decimalNumber (ten : base ≤ 10)
    (read : baseNumber? base digits = some value) : value ≤ decimalNumber digits := by
  induction digits using List.reverseRecOn generalizing value with
  | nil =>
    obtain rfl : 0 = value := by simpa [baseNumber?] using read
    exact Nat.zero_le _
  | append_singleton digits c inductionStep =>
    obtain ⟨number, digit, front, last, rfl⟩ := baseNumber?_concat.mp read
    have bound := inductionStep front
    rw [decimalNumber_concat, (baseDigit?_eq_some ten last).1]
    exact Nat.add_le_add_right (Nat.mul_le_mul bound ten) _

/-- In base ten it is the decimal number. -/
theorem eq_decimalNumber_of_baseNumber? (read : baseNumber? 10 digits = some value) :
    value = decimalNumber digits := by
  induction digits using List.reverseRecOn generalizing value with
  | nil =>
    obtain rfl : 0 = value := by simpa [baseNumber?] using read
    rfl
  | append_singleton digits c inductionStep =>
    obtain ⟨number, digit, front, last, rfl⟩ := baseNumber?_concat.mp read
    rw [decimalNumber_concat, inductionStep front, (baseDigit?_eq_some (by decide) last).1]

/-- Digits of ASCII spell a number in base ten. -/
theorem baseNumber?_of_ascii (ascii : ∀ c ∈ digits, isAsciiDigit c) :
    baseNumber? 10 digits = some (decimalNumber digits) := by
  induction digits using List.reverseRecOn with
  | nil => rfl
  | append_singleton digits c inductionStep =>
    obtain ⟨front, last⟩ := List.forall_mem_append.mp ascii
    have digit : isAsciiDigit c := last c (List.mem_singleton.mpr rfl)
    have value : baseDigit? 10 c = some (digitValue c) := by
      have zero : '0'.toNat = 48 := rfl
      have bounds := isAsciiDigit_iff_toNat.mp digit
      unfold baseDigit?
      rw [if_pos digit]
      exact if_pos (by unfold digitValue; omega)
    exact baseNumber?_concat.mpr ⟨_, _, inductionStep front, value, decimalNumber_concat.symm⟩

/-- An integer of one or two digits in base eight is a decimal number of as many digits. -/
theorem decimalNumber_lt_of_octal (read : baseNumber? 8 digits = some value) :
    (value < 8 → decimalNumber digits < 10) ∧ (value < 64 → decimalNumber digits < 100) := by
  have exact : (value = 0 → decimalNumber digits = 0) ∧ (value < 8 → decimalNumber digits < 10) ∧
      (value < 64 → decimalNumber digits < 100) := by
    induction digits using List.reverseRecOn generalizing value with
    | nil => simp [decimalNumber]
    | append_singleton digits c inductionStep =>
      obtain ⟨number, digit, front, last, rfl⟩ := baseNumber?_concat.mp read
      have bounds := inductionStep front
      have worth := baseDigit?_eq_some (by decide) last
      rw [decimalNumber_concat]
      omega
  exact exact.2

/-- **More digits** make an integer larger by a factor of its base at least. -/
theorem exists_mul_le_of_baseNumber?_append (filled : more ≠ []) (positive : 0 < base)
    (read : baseNumber? base (digits ++ more) = some value) :
    ∃ number, baseNumber? base digits = some number ∧ number * base ≤ value := by
  induction more using List.reverseRecOn generalizing value with
  | nil => exact absurd rfl filled
  | append_singleton more c inductionStep =>
    rw [← List.append_assoc] at read
    obtain ⟨before, digit, front, last, rfl⟩ := baseNumber?_concat.mp read
    by_cases first : more = []
    · rw [first, List.append_nil] at front
      exact ⟨before, front, Nat.le_add_right _ _⟩
    · obtain ⟨number, read, bound⟩ := inductionStep first front
      refine ⟨number, read, Nat.le_trans bound ?_⟩
      calc before = before * 1 := (Nat.mul_one before).symm
        _ ≤ before * base := Nat.mul_le_mul_left before positive
        _ ≤ before * base + digit := Nat.le_add_right _ _

end Values

/-! ### Numbers with a limit -/

/-- Digits that are read on from a number are digits of ASCII, and are added behind it. -/
theorem readDigits_eq_ok {limit number value : Nat} {digits : List Char}
    (read : readDigits limit number digits = .ok value) :
    (∀ c ∈ digits, isAsciiDigit c) ∧
      digits.foldl (fun number c => number * 10 + digitValue c) number = value := by
  induction digits generalizing number with
  | nil => exact ⟨List.forall_mem_nil _, Except.ok.inj read⟩
  | cons c digits inductionStep =>
    rw [readDigits] at read
    by_cases ascii : isAsciiDigit c
    · rw [ascii, if_neg (by decide)] at read
      split at read
      · cases read
      · obtain ⟨others, same⟩ := inductionStep read
        exact ⟨List.forall_mem_cons.mpr ⟨ascii, others⟩, same⟩
    · simp [ascii] at read

/-- Without a sign, all characters are digits. -/
theorem readUnsigned_cons {limit : Nat} {c : Char} {digits : List Char} (unsigned : c ≠ '+') :
    readUnsigned limit (c :: digits) = readDigits limit 0 (c :: digits) := by
  unfold readUnsigned
  split
  · rename_i nothing
    cases nothing
  · rename_i sign
    exact absurd (List.cons.inj sign).1 unsigned
  · rename_i sign
    exact absurd (List.cons.inj sign).1 unsigned
  · rfl

/-- **A number that is read** without a sign is the decimal number of its digits. -/
theorem readUnsigned_eq_ok {limit value : Nat} {c : Char} {digits : List Char} (unsigned : c ≠ '+')
    (read : readUnsigned limit (c :: digits) = .ok value) :
    (∀ d ∈ c :: digits, isAsciiDigit d) ∧ decimalNumber (c :: digits) = value :=
  readDigits_eq_ok (readUnsigned_cons unsigned ▸ read)

/-- Reading on never makes a number smaller. -/
theorem le_foldl_digits (digits : List Char) (number : Nat) :
    number ≤ digits.foldl (fun number c => number * 10 + digitValue c) number := by
  induction digits generalizing number with
  | nil => exact Nat.le_refl number
  | cons c digits inductionStep =>
    refine Nat.le_trans ?_ (inductionStep (number * 10 + digitValue c))
    omega

theorem readDigits_of_le {limit number : Nat} {digits : List Char}
    (ascii : ∀ c ∈ digits, isAsciiDigit c)
    (small : digits.foldl (fun number c => number * 10 + digitValue c) number ≤ limit) :
    readDigits limit number digits =
      .ok (digits.foldl (fun number c => number * 10 + digitValue c) number) := by
  induction digits generalizing number with
  | nil => rfl
  | cons c digits inductionStep =>
    rw [List.forall_mem_cons] at ascii
    have step : number * 10 + digitValue c ≤ limit := Nat.le_trans (le_foldl_digits digits _) small
    rw [readDigits, ascii.1, if_neg (by decide), if_neg (Nat.not_lt.mpr step)]
    exact inductionStep ascii.2 small

/-- Digits that spell a number within the limit are read. -/
theorem readUnsigned_of_le {limit : Nat} {digits : List Char} (filled : digits ≠ [])
    (ascii : ∀ c ∈ digits, isAsciiDigit c) (small : decimalNumber digits ≤ limit) :
    readUnsigned limit digits = .ok (decimalNumber digits) := by
  obtain ⟨c, later, rfl⟩ := List.exists_cons_of_ne_nil filled
  have unsigned : c ≠ '+' := by
    rintro rfl
    exact absurd (ascii '+' List.mem_cons_self) (by decide)
  rw [readUnsigned_cons unsigned]
  exact readDigits_of_le ascii small

/-- A number is only read up to the limit. -/
theorem readDigits_le {limit number value : Nat} {digits : List Char} (small : number ≤ limit)
    (read : readDigits limit number digits = .ok value) : value ≤ limit := by
  induction digits generalizing number with
  | nil => exact Except.ok.inj read ▸ small
  | cons c digits inductionStep =>
    rw [readDigits] at read
    split at read
    · cases read
    · split at read
      · cases read
      · rename_i within
        exact inductionStep (Nat.le_of_not_lt within) read

/-- **Which digits are read**: those of ASCII that spell a number within the limit. -/
theorem readDigits_eq_ok_iff {limit value : Nat} {digits : List Char} :
    readDigits limit 0 digits = .ok value ↔
      (∀ c ∈ digits, isAsciiDigit c) ∧ decimalNumber digits = value ∧ value ≤ limit := by
  constructor
  · intro read
    obtain ⟨ascii, same⟩ := readDigits_eq_ok read
    exact ⟨ascii, same, readDigits_le (Nat.zero_le limit) read⟩
  · rintro ⟨ascii, rfl, small⟩
    exact readDigits_of_le ascii small

/-- **Which numbers are read**: those that digits of ASCII spell and that are within the limit. -/
theorem readUnsigned_eq_ok_iff {limit value : Nat} {digits : List Char} (filled : digits ≠ [])
    (unsigned : '+' ∉ digits) :
    readUnsigned limit digits = .ok value ↔
      (∀ c ∈ digits, isAsciiDigit c) ∧ decimalNumber digits = value ∧ value ≤ limit := by
  obtain ⟨c, later, rfl⟩ := List.exists_cons_of_ne_nil filled
  have first : c ≠ '+' := fun sign => unsigned (sign ▸ List.mem_cons_self)
  rw [readUnsigned_cons first, readDigits_eq_ok_iff]

/-! ### The integer of a token -/

/-- The base of the integer that decimal digits are read as. -/
def baseOf (digits : List Char) : Nat :=
  if 1 < digits.length && digits.head? = some '0' then 8 else 10

theorem baseOf_cases (digits : List Char) : baseOf digits = 8 ∨ baseOf digits = 10 := by
  unfold baseOf
  split
  · exact .inl rfl
  · exact .inr rfl

theorem baseOf_le (digits : List Char) : baseOf digits ≤ 10 := by
  rcases baseOf_cases digits with base | base <;> omega

section Tokens

variable {digits rest after : List Char} {value : Nat} {unsigned : Bool}

/-- A number with a fraction or an exponent is no integer. -/
theorem floating?_ne_integer {whole fraction : List Char} :
    floating? whole fraction rest ≠ some (.integer value unsigned, after) := by
  intro read
  obtain ⟨⟨exponent, later⟩, _, read⟩ := Option.bind_eq_some_iff.mp read
  dsimp only at read
  split at read
  · cases read
  · cases read
  · obtain ⟨_, _, read⟩ := Option.bind_eq_some_iff.mp read
    cases read

/-- A condition lets a reader go on if it holds. -/
theorem guard_eq_some_iff {condition : Prop} [Decidable condition] {result : Unit} :
    (guard condition : Option Unit) = some result ↔ condition := by
  by_cases holds : condition
  · exact iff_of_true (if_pos holds) holds
  · refine iff_of_false (fun read => ?_) holds
    unfold guard at read
    rw [if_neg holds] at read
    cases read

/-- Whether a letter tells that a number has no sign, and what follows it. -/
def signLetter (rest : List Char) : Bool × List Char :=
  match rest with
  | 'u' :: later | 'U' :: later => (true, later)
  | _ => (false, rest)

/-- Nothing but this letter is taken. -/
theorem exists_of_signLetter (letter : signLetter rest = (unsigned, after)) :
    ∃ letters, rest = letters ++ after ∧ (letters = [] ∨ letters = ['u'] ∨ letters = ['U']) := by
  unfold signLetter at letter
  split at letter
  · exact ⟨['u'], by rw [← (Prod.mk.inj letter).2, List.singleton_append], .inr (.inl rfl)⟩
  · exact ⟨['U'], by rw [← (Prod.mk.inj letter).2, List.singleton_append], .inr (.inr rfl)⟩
  · exact ⟨[], (Prod.mk.inj letter).2, .inl rfl⟩

/-- **An integer** is the number of its digits, a letter aside, if there are digits, the number is
small enough and no other letter follows. -/
theorem integer?_eq_some_iff {base : Nat} :
    integer? base digits rest = some (.integer value unsigned, after) ↔
      signLetter rest = (unsigned, after) ∧ after.head?.any ['l', 'L', 's', 'S'].contains = false ∧
        digits ≠ [] ∧ baseNumber? base digits = some value ∧ value < integerLimit := by
  have steps : integer? base digits rest = (do
      guard !((signLetter rest).2.head?.any ['l', 'L', 's', 'S'].contains)
      guard (digits ≠ [])
      let value ← baseNumber? base digits
      guard (value < integerLimit)
      return (.integer value (signLetter rest).1, (signLetter rest).2)) := rfl
  rw [steps]
  constructor
  · intro read
    obtain ⟨_, noWidth, read⟩ := Option.bind_eq_some_iff.mp read
    obtain ⟨_, filled, read⟩ := Option.bind_eq_some_iff.mp read
    obtain ⟨number, spelled, read⟩ := Option.bind_eq_some_iff.mp read
    obtain ⟨_, small, token⟩ := Option.bind_eq_some_iff.mp read
    cases token
    exact ⟨rfl, (Bool.not_eq_true' _).mp (guard_eq_some_iff.mp noWidth),
      guard_eq_some_iff.mp filled, spelled, guard_eq_some_iff.mp small⟩
  · rintro ⟨letter, noWidth, filled, spelled, small⟩
    rw [letter]
    refine Option.bind_eq_some_iff.mpr ⟨(), guard_eq_some_iff.mpr ?_, ?_⟩
    · exact (Bool.not_eq_true' _).mpr noWidth
    refine Option.bind_eq_some_iff.mpr ⟨(), guard_eq_some_iff.mpr filled, ?_⟩
    refine Option.bind_eq_some_iff.mpr ⟨value, spelled, ?_⟩
    exact Option.bind_eq_some_iff.mpr ⟨(), guard_eq_some_iff.mpr small, rfl⟩

/-- Digits that a letter follows right after a zero are this zero. -/
theorem digits_eq_zero {letter : Char} {later : List Char} (ascii : ∀ c ∈ digits, isAsciiDigit c)
    (filled : digits ≠ []) (noDigit : isAsciiDigit letter = false)
    (split : digits ++ rest = '0' :: letter :: later) :
    digits = ['0'] ∧ rest = letter :: later := by
  obtain ⟨first, others, rfl⟩ := List.exists_cons_of_ne_nil filled
  obtain ⟨rfl, following⟩ := List.cons.inj split
  cases others with
  | nil => exact ⟨rfl, following⟩
  | cons second others =>
    obtain rfl : second = letter := (List.cons.inj following).1
    rw [ascii second (by simp)] at noDigit
    cases noDigit

/-- **An integer token** that does not go on in base sixteen is the number of all decimal digits it
begins with. -/
theorem integer?_of_number? (ascii : ∀ c ∈ digits, isAsciiDigit c) (filled : digits ≠ [])
    (ends : ∀ c ∈ rest.head?, isAsciiDigit c = false)
    (plain : digits = ['0'] → ∀ c ∈ rest.head?, c ≠ 'x' ∧ c ≠ 'X')
    (read : number? (digits ++ rest) = some (.integer value unsigned, after)) :
    integer? (baseOf digits) digits rest = some (.integer value unsigned, after) := by
  have whole := takeWhile_run ascii ends
  have behind := dropWhile_run ascii ends
  unfold number? at read
  split at read
  · rename_i split
    obtain ⟨zero, rfl⟩ := digits_eq_zero ascii filled (by decide) split
    exact absurd rfl (plain zero 'x' rfl).1
  · rename_i split
    obtain ⟨zero, rfl⟩ := digits_eq_zero ascii filled (by decide) split
    exact absurd rfl (plain zero 'X' rfl).2
  · rw [whole, behind] at read
    dsimp only at read
    split at read
    · exact absurd read floating?_ne_integer
    · exact absurd read floating?_ne_integer
    · exact absurd read floating?_ne_integer
    · exact read

/-- What is spaced does not begin with another character. -/
theorem ne_cons_of_spaced (spaced : ∀ c ∈ rest.head?, isSpace c) {c : Char} {later : List Char}
    (other : isSpace c = false) : rest ≠ c :: later := by
  rintro rfl
  rw [spaced c rfl] at other
  cases other

/-- Digits of base ten in front of white space are an integer without a letter behind it. -/
theorem integer?_of_spaced (ascii : ∀ c ∈ digits, isAsciiDigit c) (filled : digits ≠ [])
    (small : decimalNumber digits < integerLimit) (spaced : ∀ c ∈ rest.head?, isSpace c) :
    integer? 10 digits rest = some (.integer (decimalNumber digits) false, rest) := by
  have noWidth : rest.head?.any ['l', 'L', 's', 'S'].contains = false := by
    cases rest with
    | nil => rfl
    | cons c later =>
      refine Bool.eq_false_iff.mpr fun width => ?_
      have letter : c = 'l' ∨ c = 'L' ∨ c = 's' ∨ c = 'S' := by simpa using width
      have space := spaced c rfl
      rcases letter with rfl | rfl | rfl | rfl <;> exact absurd space (by decide)
  have noLetter : signLetter rest = (false, rest) := by
    unfold signLetter
    split
    · exact absurd rfl (ne_cons_of_spaced spaced (by decide))
    · exact absurd rfl (ne_cons_of_spaced spaced (by decide))
    · rfl
  exact integer?_eq_some_iff.mpr ⟨noLetter, noWidth, filled, baseNumber?_of_ascii ascii, small⟩

/-- **Digits of base ten** in front of white space are an integer token. -/
theorem number?_append (ascii : ∀ c ∈ digits, isAsciiDigit c) (filled : digits ≠ [])
    (ten : baseOf digits = 10) (small : decimalNumber digits < integerLimit)
    (spaced : ∀ c ∈ rest.head?, isSpace c) :
    number? (digits ++ rest) = some (.integer (decimalNumber digits) false, rest) := by
  have ends : ∀ c ∈ rest.head?, isAsciiDigit c = false := fun c first =>
    isAsciiDigit_eq_false_of_isBlank (isBlank_of_isSpace (spaced c first))
  have whole := takeWhile_run ascii ends
  have behind := dropWhile_run ascii ends
  unfold number?
  split
  · rename_i split
    obtain ⟨_, same⟩ := digits_eq_zero ascii filled (by decide) split
    exact absurd same (ne_cons_of_spaced spaced (by decide))
  · rename_i split
    obtain ⟨_, same⟩ := digits_eq_zero ascii filled (by decide) split
    exact absurd same (ne_cons_of_spaced spaced (by decide))
  · rw [whole, behind]
    dsimp only
    split
    · exact absurd rfl (ne_cons_of_spaced spaced (by decide))
    · exact absurd rfl (ne_cons_of_spaced spaced (by decide))
    · exact absurd rfl (ne_cons_of_spaced spaced (by decide))
    · rw [← baseOf, ten, integer?_of_spaced ascii filled small spaced]

/-- Such digits in front of a line give one token. -/
theorem tokensOf?_integer (ascii : ∀ c ∈ digits, isAsciiDigit c) (filled : digits ≠ [])
    (ten : baseOf digits = 10) (small : decimalNumber digits < integerLimit)
    (spaced : ∀ c ∈ rest.head?, isSpace c) :
    tokensOf? (digits ++ rest) =
      (tokensOf? rest).map (.integer (decimalNumber digits) false :: ·) := by
  have number := number?_append ascii filled ten small spaced
  obtain ⟨first, others, rfl⟩ := List.exists_cons_of_ne_nil filled
  have count : (first :: (others ++ rest)).length - rest.length - 1 = others.length := by
    rw [List.length_cons, List.length_append]
    omega
  rw [List.cons_append] at number ⊢
  rw [tokensOf?_digit (ascii first List.mem_cons_self), number, Option.bind_some]
  dsimp only
  rw [count, List.drop_left]

end Tokens

end ShaderCheck.Glsl
