/-
**Texts that bytes are shown as.**

The bytes of a text are shown as this text, and no other bytes are read as it. A byte of ASCII is always
a character by itself and never part of another one, whatever stands before it. So the bytes on both
sides of it are shown as they would be alone, and a character of ASCII is shown for its byte only.

* `decode_append_ascii`: bytes on both sides of one of ASCII;
* `decode_two`, `decode_three`, `decode_four`: characters of several bytes;
* `decode_utf8EncodeChar_append`, `ofBytes_bytes`: the bytes of a character, and of a text;
* `ofBytes?_eq_some_iff`: bytes that are read as a text;
* `mem_decode_iff`, `decode_eq_cons_iff`: what is shown as a character of ASCII.
-/

import Mathlib.Data.List.Basic
import ShaderCheck.Text

namespace ShaderCheck.Text

variable {opening : Option Opening} {byte : UInt8} {front rest : List UInt8} {c : Char}

theorem decode_cons : decode opening (byte :: rest) =
    (readByte opening byte).1 ++ decode (readByte opening byte).2 rest := rfl

/-! ### Bytes of ASCII -/

theorem readFirst_of_lt (ascii : byte.toNat < 0x80) :
    readFirst byte = ([Char.ofNat byte.toNat], none) :=
  if_pos ascii

/-- A character that is begun does not go on with a byte of ASCII. -/
theorem readByte_of_lt (begun : Opening) (ascii : byte.toNat < 0x80) :
    readByte (some begun) byte = ([replacement, Char.ofNat byte.toNat], none) := by
  have outside : ¬ (begun.least ≤ byte.toNat ∧ byte.toNat ≤ begun.greatest) := by
    have := begun.least_ge
    omega
  rw [readByte, if_neg outside, readFirst_of_lt ascii]

/-- **A byte of ASCII** is a character by itself, and what follows is read from the start. By induction on
the bytes before it. -/
theorem decode_append_ascii (ascii : byte.toNat < 0x80) :
    decode opening (front ++ byte :: rest) =
      decode opening front ++ Char.ofNat byte.toNat :: decode none rest := by
  induction front generalizing opening with
  | nil =>
    rw [List.nil_append, decode_cons]
    cases opening with
    | none =>
      rw [show readByte none byte = _ from readFirst_of_lt ascii]
      rfl
    | some begun =>
      rw [readByte_of_lt begun ascii]
      rfl
  | cons first others inductionStep =>
    rw [List.cons_append, decode_cons, decode_cons, inductionStep, List.append_assoc]

/-- The three bytes before a `W` begin a character of four, and are shown as one; the two bytes behind it
begin none, and are shown one by one. -/
example : decode none [0xF0, 0x90, 0x80, 0x57, 0xFF, 0xC0] =
    ['\uFFFD', 'W', '\uFFFD', '\uFFFD'] := by
  decide

/-- A character that is begun is shown, at least as a replacement. -/
theorem decode_some_ne_nil (begun : Opening) : decode (some begun) rest ≠ [] := by
  induction rest generalizing begun with
  | nil => exact List.cons_ne_nil _ _
  | cons first others inductionStep =>
    rw [decode_cons, readByte]
    split
    · unfold Opening.extend
      split
      · exact List.cons_ne_nil _ _
      · exact inductionStep _
    · exact List.cons_ne_nil _ _

/-- Something is shown for bytes, if there are any. -/
theorem decode_eq_nil_iff : decode none rest = [] ↔ rest = [] := by
  refine ⟨fun nothing => ?_, fun nothing => by rw [nothing]; rfl⟩
  cases rest with
  | nil => rfl
  | cons first others =>
    rw [decode_cons, readByte, List.append_eq_nil_iff, readFirst] at nothing
    split at nothing
    · exact absurd nothing.1 (List.cons_ne_nil _ _)
    · split at nothing
      · exact absurd nothing.2 (decode_some_ne_nil _)
      · exact absurd nothing.1 (List.cons_ne_nil _ _)

/-! ### Characters and their bytes -/

namespace Opening

section Bounds

variable {first next : Nat}

theorem ofByte?_of_lt (low : 0xC2 ≤ first) (high : first < 0xE0) :
    ofByte? first = some { value := first - 0xC0, later := 0 } := by
  rw [ofByte?, if_neg (by omega), if_pos high]

/-- The first of three bytes begins a character, and the second one is within its bounds. -/
theorem exists_ofByte?_three (low : 0xE0 ≤ first) (high : first < 0xF0)
    (least : 0x80 ≤ next ∧ (first = 0xE0 → 0xA0 ≤ next))
    (greatest : next ≤ 0xBF ∧ (first = 0xED → next ≤ 0x9F)) :
    ∃ begun, ofByte? first = some begun ∧ (begun.least ≤ next ∧ next ≤ begun.greatest) ∧
      begun.value = first - 0xE0 ∧ begun.later = 1 := by
  rw [ofByte?, if_neg (by omega), if_neg (by omega), if_pos high]
  split_ifs <;> exact ⟨_, rfl, by dsimp only; omega⟩

/-- The first of four bytes begins a character, and the second one is within its bounds. -/
theorem exists_ofByte?_four (low : 0xF0 ≤ first) (high : first ≤ 0xF4)
    (least : 0x80 ≤ next ∧ (first = 0xF0 → 0x90 ≤ next))
    (greatest : next ≤ 0xBF ∧ (first = 0xF4 → next ≤ 0x8F)) :
    ∃ begun, ofByte? first = some begun ∧ (begun.least ≤ next ∧ next ≤ begun.greatest) ∧
      begun.value = first - 0xF0 ∧ begun.later = 2 := by
  rw [ofByte?, if_neg (by omega), if_neg (by omega), if_neg (by omega), if_neg (by omega),
    if_neg (by omega)]
  split_ifs
  · exact ⟨_, rfl, by dsimp only; omega⟩
  · exact ⟨_, rfl, by dsimp only; omega⟩
  · exact ⟨_, rfl, by dsimp only; omega⟩
  · omega

end Bounds

theorem le_of_ofByte? {first : Nat} {begun : Opening} (begins : ofByte? first = some begun) :
    0xC2 ≤ first := by
  unfold ofByte? at begins
  split at begins
  · cases begins
  · omega

end Opening

/-- The first byte of a longer character begins it. -/
theorem decode_of_ofByte? {begun : Opening} (begins : Opening.ofByte? byte.toNat = some begun) :
    decode none (byte :: rest) = decode (some begun) rest := by
  have large := Opening.le_of_ofByte? begins
  rw [decode_cons, readByte, readFirst, if_neg (by omega), begins]
  rfl

section Begun

variable {begun : Opening}
  (fits : begun.least ≤ byte.toNat ∧ byte.toNat ≤ begun.greatest)

include fits

/-- The last byte of a character. -/
theorem decode_of_last (last : begun.later = 0) :
    decode (some begun) (byte :: rest) =
      Char.ofNat (begun.value * 64 + (byte.toNat - 0x80)) :: decode none rest := by
  rw [decode_cons, readByte, if_pos fits, Opening.extend, last]
  rfl

/-- A byte of a character that others follow. -/
theorem decode_of_later {later : Nat} (more : begun.later = later + 1) :
    decode (some begun) (byte :: rest) =
      decode (some { value := begun.value * 64 + (byte.toNat - 0x80), later }) rest := by
  rw [decode_cons, readByte, if_pos fits, Opening.extend, more]
  rfl

end Begun

/-! ### Characters of several bytes -/

section Longer

variable {first second third fourth : UInt8}

theorem decode_two (low : 0xC2 ≤ first.toNat) (high : first.toNat < 0xE0)
    (last : 0x80 ≤ second.toNat ∧ second.toNat ≤ 0xBF) :
    decode none (first :: second :: rest) =
      Char.ofNat ((first.toNat - 0xC0) * 64 + (second.toNat - 0x80)) :: decode none rest := by
  rw [decode_of_ofByte? (Opening.ofByte?_of_lt low high), decode_of_last last rfl]

theorem decode_three (low : 0xE0 ≤ first.toNat) (high : first.toNat < 0xF0)
    (least : 0x80 ≤ second.toNat ∧ (first.toNat = 0xE0 → 0xA0 ≤ second.toNat))
    (greatest : second.toNat ≤ 0xBF ∧ (first.toNat = 0xED → second.toNat ≤ 0x9F))
    (last : 0x80 ≤ third.toNat ∧ third.toNat ≤ 0xBF) :
    decode none (first :: second :: third :: rest) =
      Char.ofNat (((first.toNat - 0xE0) * 64 + (second.toNat - 0x80)) * 64 +
        (third.toNat - 0x80)) :: decode none rest := by
  obtain ⟨begun, begins, fits, value, more⟩ := Opening.exists_ofByte?_three low high least greatest
  rw [decode_of_ofByte? begins, decode_of_later fits more, decode_of_last last rfl, value]

theorem decode_four (low : 0xF0 ≤ first.toNat) (high : first.toNat ≤ 0xF4)
    (least : 0x80 ≤ second.toNat ∧ (first.toNat = 0xF0 → 0x90 ≤ second.toNat))
    (greatest : second.toNat ≤ 0xBF ∧ (first.toNat = 0xF4 → second.toNat ≤ 0x8F))
    (next : 0x80 ≤ third.toNat ∧ third.toNat ≤ 0xBF)
    (last : 0x80 ≤ fourth.toNat ∧ fourth.toNat ≤ 0xBF) :
    decode none (first :: second :: third :: fourth :: rest) =
      Char.ofNat ((((first.toNat - 0xF0) * 64 + (second.toNat - 0x80)) * 64 +
        (third.toNat - 0x80)) * 64 + (fourth.toNat - 0x80)) :: decode none rest := by
  obtain ⟨begun, begins, fits, value, more⟩ := Opening.exists_ofByte?_four low high least greatest
  rw [decode_of_ofByte? begins, decode_of_later fits more, decode_of_later next rfl,
    decode_of_last last rfl, value]

end Longer

/-- **The bytes of a character** are read as this character. The cases are those of its number of bytes:
each byte tells six bits of its number, and the first one what is left. -/
theorem decode_utf8EncodeChar_append (c : Char) (rest : List UInt8) :
    decode none (String.utf8EncodeChar c ++ rest) = c :: decode none rest := by
  have valid := c.valid
  have whole : Char.ofNat c.val.toNat = c := Char.ofNat_toNat c
  have byte {value : Nat} (small : value < 256) : (UInt8.ofNat value).toNat = value :=
    UInt8.toNat_ofNat_of_lt' small
  unfold String.utf8EncodeChar
  simp only [UInt32.isValidChar, Nat.isValidChar] at valid
  generalize c.val.toNat = number at valid whole
  dsimp only
  split_ifs with one two three
  · have same := @byte number (by omega)
    rw [List.singleton_append, decode_cons, readByte, readFirst_of_lt (by omega), same, whole]
    rfl
  · have first := @byte (number / 64 % 32 + 0xc0) (by omega)
    have second := @byte (number % 64 + 0x80) (by omega)
    refine (decode_two (by omega) (by omega) (by omega)).trans ?_
    rw [first, second, show (number / 64 % 32 + 0xc0 - 0xC0) * 64 + (number % 64 + 0x80 - 0x80) =
      number by omega, whole]
    rfl
  · have first := @byte (number / 4096 % 16 + 0xe0) (by omega)
    have second := @byte (number / 64 % 64 + 0x80) (by omega)
    have third := @byte (number % 64 + 0x80) (by omega)
    refine (decode_three (by omega) (by omega) (by omega) (by omega) (by omega)).trans ?_
    rw [first, second, third, show ((number / 4096 % 16 + 0xe0 - 0xE0) * 64 +
      (number / 64 % 64 + 0x80 - 0x80)) * 64 + (number % 64 + 0x80 - 0x80) = number by omega, whole]
    rfl
  · have first := @byte (number / 262144 % 8 + 0xf0) (by omega)
    have second := @byte (number / 4096 % 64 + 0x80) (by omega)
    have third := @byte (number / 64 % 64 + 0x80) (by omega)
    have fourth := @byte (number % 64 + 0x80) (by omega)
    refine (decode_four (by omega) (by omega) (by omega) (by omega) (by omega) (by omega)).trans ?_
    rw [first, second, third, fourth, show (((number / 262144 % 8 + 0xf0 - 0xF0) * 64 +
      (number / 4096 % 64 + 0x80 - 0x80)) * 64 + (number / 64 % 64 + 0x80 - 0x80)) * 64 +
      (number % 64 + 0x80 - 0x80) = number by omega, whole]
    rfl

/-- The bytes of a text are those of its characters. -/
theorem bytes_eq_flatMap (text : String) :
    bytes text = text.toList.flatMap String.utf8EncodeChar := by
  rw [bytes, String.toUTF8_eq_toByteArray, ← String.utf8Encode_toList, List.utf8Encode,
    List.data_toByteArray]

theorem bytes_append (first second : String) :
    bytes (first ++ second) = bytes first ++ bytes second := by
  rw [bytes_eq_flatMap, String.toList_append, List.flatMap_append, ← bytes_eq_flatMap,
    ← bytes_eq_flatMap]

/-- **The bytes of a text** are shown as this text. -/
theorem decode_bytes (text : String) : decode none (bytes text) = text.toList := by
  rw [bytes_eq_flatMap]
  induction text.toList with
  | nil => rfl
  | cons c chars inductionStep =>
    rw [List.flatMap_cons, decode_utf8EncodeChar_append, inductionStep]

@[simp] theorem ofBytes_bytes (text : String) : ofBytes (bytes text) = text := by
  rw [ofBytes, decode_bytes, String.ofList_toList]

/-- Bytes are read as a text only if they are its bytes. -/
theorem ofBytes?_eq_some_iff {text : String} : ofBytes? rest = some text ↔ rest = bytes text := by
  unfold ofBytes? bytes
  constructor
  · intro read
    unfold String.fromUTF8? at read
    split at read
    · obtain rfl := Option.some.inj read
      rfl
    · cases read
  · rintro rfl
    exact dif_pos text.isValidUTF8

/-! ### What is shown as a character of ASCII -/

theorem toNat_ofNat_of_lt {number : Nat} (ascii : number < 0x80) :
    (Char.ofNat number).toNat = number := by
  have valid : number.isValidChar := .inl (by omega)
  rw [Char.ofNat, dif_pos valid]
  rfl

/-- The character zero stands for a number that no character has. -/
theorem toNat_ofNat_cases (number : Nat) :
    (Char.ofNat number).toNat = number ∨ (Char.ofNat number).toNat = 0 := by
  by_cases valid : number.isValidChar
  · exact .inl (by rw [Char.ofNat, dif_pos valid]; rfl)
  · exact .inr (by rw [Char.ofNat, dif_neg valid]; rfl)

/-- The number that is told in the end is not that of a character of ASCII. -/
structure Opening.IsLong (begun : Opening) : Prop where
  next : 2 ≤ begun.value * 64 + (begun.least - 0x80)
  last : begun.later = 0 → 2 ≤ begun.value

theorem Opening.isLong_of_ofByte? {first : Nat} {begun : Opening}
    (begins : Opening.ofByte? first = some begun) : begun.IsLong := by
  unfold Opening.ofByte? at begins
  split_ifs at begins <;>
    · obtain rfl := Option.some.inj begins
      exact ⟨by dsimp only; omega, by dsimp only; omega⟩

/-- A character that is begun by a byte is a long one. -/
theorem isLong_readByte {begun : Opening} (long : ∀ begun ∈ opening, begun.IsLong)
    (begins : (readByte opening byte).2 = some begun) : begun.IsLong := by
  have first {begun : Opening} (begins : (readFirst byte).2 = some begun) : begun.IsLong := by
    unfold readFirst at begins
    split at begins
    · cases begins
    · split at begins
      · rename_i found
        obtain rfl := Option.some.inj begins
        exact Opening.isLong_of_ofByte? found
      · cases begins
  cases opening with
  | none => exact first begins
  | some earlier =>
    obtain ⟨next, _⟩ := long earlier rfl
    rw [readByte] at begins
    split at begins
    · rename_i fits
      unfold Opening.extend at begins
      split at begins
      · cases begins
      · obtain rfl := Option.some.inj begins
        exact ⟨by dsimp only; omega, fun _ => by dsimp only; omega⟩
    · exact first begins

/-- A character of ASCII that is read with a byte is this byte. -/
theorem eq_of_mem_readByte {letter : UInt8} (long : ∀ begun ∈ opening, begun.IsLong)
    (ascii : letter.toNat < 0x80) (visible : 0 < letter.toNat)
    (member : Char.ofNat letter.toNat ∈ (readByte opening byte).1) : letter = byte := by
  have number := toNat_ofNat_of_lt ascii
  have notReplacement : Char.ofNat letter.toNat ≠ replacement := by
    intro same
    rw [same] at number
    have large : replacement.toNat = 0xFFFD := rfl
    omega
  have first (member : Char.ofNat letter.toNat ∈ (readFirst byte).1) : letter = byte := by
    unfold readFirst at member
    split at member
    · rename_i small
      have same := congrArg Char.toNat (List.mem_singleton.mp member)
      rw [number, toNat_ofNat_of_lt small] at same
      exact UInt8.toNat_inj.mp same
    · split at member
      · cases member
      · exact absurd (List.mem_singleton.mp member) notReplacement
  cases opening with
  | none => exact first member
  | some begun =>
    rw [readByte] at member
    split at member
    · unfold Opening.extend at member
      split at member
      · rename_i last
        have same := congrArg Char.toNat (List.mem_singleton.mp member)
        have large := (long begun rfl).last last
        rw [number] at same
        -- The number is either none of ASCII or, if no character has it, told as zero.
        rcases toNat_ofNat_cases (begun.value * 64 + (byte.toNat - 0x80)) with told | zero <;> omega
      · cases member
    · rcases List.mem_cons.mp member with same | member
      · exact absurd same notReplacement
      · exact first member

/-- By induction on the bytes: each character of ASCII is read with one of them. -/
theorem mem_of_mem_decode {letter : UInt8} (long : ∀ begun ∈ opening, begun.IsLong)
    (ascii : letter.toNat < 0x80) (visible : 0 < letter.toNat)
    (member : Char.ofNat letter.toNat ∈ decode opening rest) : letter ∈ rest := by
  induction rest generalizing opening with
  | nil =>
    unfold decode at member
    split at member
    · have same := congrArg Char.toNat (List.mem_singleton.mp member)
      rw [toNat_ofNat_of_lt ascii] at same
      have large : replacement.toNat = 0xFFFD := rfl
      omega
    · cases member
  | cons first others inductionStep =>
    rw [decode_cons] at member
    rcases List.mem_append.mp member with member | member
    · rw [eq_of_mem_readByte long ascii visible member]
      exact List.mem_cons_self
    · exact List.mem_cons_of_mem _
        (inductionStep (fun begun begins => isLong_readByte long begins) member)

section Letters

variable {letter : UInt8} (ascii : letter.toNat < 0x80) (visible : 0 < letter.toNat)

include ascii visible

/-- **A character of ASCII** is shown only for its byte. -/
theorem mem_decode_iff : Char.ofNat letter.toNat ∈ decode none rest ↔ letter ∈ rest := by
  refine ⟨mem_of_mem_decode nofun ascii visible, fun member => ?_⟩
  obtain ⟨before, after, rfl⟩ := List.append_of_mem member
  rw [decode_append_ascii ascii]
  exact List.mem_append_right _ List.mem_cons_self

/-- What is shown begins with a character of ASCII only if the bytes begin with its byte. -/
theorem decode_eq_cons_iff {shown : List Char} :
    decode none rest = Char.ofNat letter.toNat :: shown ↔
      ∃ others, rest = letter :: others ∧ decode none others = shown := by
  constructor
  · intro same
    have shownFirst : Char.ofNat letter.toNat ∈ decode none rest := by
      rw [same]
      exact List.mem_cons_self
    have member := (mem_decode_iff ascii visible).mp shownFirst
    obtain ⟨before, after, rfl, absent⟩ := List.eq_append_cons_of_mem member
    rw [decode_append_ascii ascii] at same
    cases shownBefore : decode none before with
    | nil =>
      obtain rfl := decode_eq_nil_iff.mp shownBefore
      rw [shownBefore] at same
      exact ⟨after, rfl, (List.cons.inj same).2⟩
    | cons c others =>
      rw [shownBefore] at same
      obtain ⟨rfl, _⟩ := List.cons.inj same
      refine absurd ((mem_decode_iff ascii visible).mp ?_) absent
      rw [shownBefore]
      exact List.mem_cons_self
  · rintro ⟨others, rfl, rfl⟩
    exact @decode_append_ascii none letter [] others ascii

end Letters

end ShaderCheck.Text
