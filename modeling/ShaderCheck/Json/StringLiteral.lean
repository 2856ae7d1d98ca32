/-
**Strings in JSON.**

A string ends at the next quote that no backslash escapes, and holds no control character. A `\u`
escape is four hexadecimal digits; a character above U+FFFF is two of them, a surrogate pair.

* `parseUnicodeEscape`: the character of a `\u` escape;
* `parseString`: a string after its opening quote.
-/

import ShaderCheck.Json.Basic

namespace ShaderCheck

/-- The value of a hexadecimal digit. -/
def hexValue? (c : Char) : Option Nat :=
  if '0' ≤ c ∧ c ≤ '9' then some (c.toNat - '0'.toNat)
  else if 'a' ≤ c ∧ c ≤ 'f' then some (c.toNat - 'a'.toNat + 10)
  else if 'A' ≤ c ∧ c ≤ 'F' then some (c.toNat - 'A'.toNat + 10)
  else none

/-- The number that four hexadecimal digits spell. -/
def hexWord? (a b c d : Char) : Option Nat := do
  return (((← hexValue? a) * 16 + (← hexValue? b)) * 16 + (← hexValue? c)) * 16 + (← hexValue? d)

/-- Reads the four hexadecimal digits of an escape. They are taken together, as four bytes. -/
def parseHexWord (text : List Char) : Except JsonStop (Nat × List Char) :=
  if byteCount text < 4 then .error (.here .eofInString [])
  else
    match text with
    | a :: b :: c :: d :: rest =>
      match hexWord? a b c d with
      | some word => .ok (word, rest)
      | none => .error ⟨.invalidEscape, text, 4⟩
    | _ => .error ⟨.invalidEscape, text, 4⟩

theorem length_of_parseHexWord {text rest : List Char} {word : Nat}
    (parsed : parseHexWord text = .ok (word, rest)) : rest.length < text.length := by
  unfold parseHexWord at parsed
  split at parsed
  · simp at parsed
  · split at parsed
    · split at parsed
      · simp only [Except.ok.injEq, Prod.mk.injEq] at parsed
        rw [← parsed.2]
        simp only [List.length_cons]
        omega
      · simp at parsed
    · simp at parsed

/-- Reads the second half of a surrogate pair, after the first half `high`. -/
def parseLowSurrogate (high : Nat) (text : List Char) : Except JsonStop (Char × List Char) :=
  match text with
  | [] => .error (.here .eofInString [])
  | '\\' :: rest =>
    match rest with
    | [] => .error (.here .eofInString [])
    | 'u' :: digits => do
      let (low, rest) ← parseHexWord digits
      if 0xDC00 ≤ low ∧ low ≤ 0xDFFF then
        return (Char.ofNat ((high - 0xD800) * 0x400 + (low - 0xDC00) + 0x10000), rest)
      else throw (.here .loneSurrogate rest)
    | _ => .error ⟨.unexpectedEndOfEscape, rest, 1⟩
  | _ => .error ⟨.unexpectedEndOfEscape, text, 1⟩

theorem length_of_parseLowSurrogate {high : Nat} {text rest : List Char} {c : Char}
    (parsed : parseLowSurrogate high text = .ok (c, rest)) : rest.length < text.length := by
  unfold parseLowSurrogate at parsed
  split at parsed
  · simp at parsed
  · split at parsed
    · simp at parsed
    · rename_i digits
      cases word : parseHexWord digits with
      | error stop => rw [word] at parsed; cases parsed
      | ok pair =>
        obtain ⟨low, left⟩ := pair
        have shorter := length_of_parseHexWord word
        rw [word] at parsed
        simp only [bind, Except.bind] at parsed
        split at parsed
        · simp only [pure, Except.pure, Except.ok.injEq, Prod.mk.injEq] at parsed
          rw [← parsed.2]
          simp only [List.length_cons]
          omega
        · cases parsed
    · simp at parsed
  · simp at parsed

/-- Reads the character of a `\u` escape. A character above U+FFFF is two escapes. -/
def parseUnicodeEscape (text : List Char) : Except JsonStop (Char × List Char) :=
  match parseHexWord text with
  | .error stop => .error stop
  | .ok (word, rest) =>
    if 0xDC00 ≤ word ∧ word ≤ 0xDFFF then .error (.here .loneSurrogate rest)
    else if 0xD800 ≤ word ∧ word ≤ 0xDBFF then parseLowSurrogate word rest
    else .ok (Char.ofNat word, rest)

theorem length_of_parseUnicodeEscape {text rest : List Char} {c : Char}
    (parsed : parseUnicodeEscape text = .ok (c, rest)) : rest.length < text.length := by
  unfold parseUnicodeEscape at parsed
  split at parsed
  · cases parsed
  · rename_i word left first
    have shorter := length_of_parseHexWord first
    split at parsed
    · cases parsed
    · split at parsed
      · have := length_of_parseLowSurrogate parsed
        omega
      · simp only [Except.ok.injEq, Prod.mk.injEq] at parsed
        rw [← parsed.2]
        exact shorter

/-- The character of an escape of one letter. -/
def simpleEscape? : Char → Option Char
  | '"' => some '"'
  | '\\' => some '\\'
  | '/' => some '/'
  | 'b' => some '\x08'
  | 'f' => some '\x0c'
  | 'n' => some '\n'
  | 'r' => some '\r'
  | 't' => some '\t'
  | _ => none

/-- Reads the characters of a string and its closing quote, onto the characters before them, the
last one first. -/
def parseStringOnto (before : List Char) (text : List Char) :
    Except JsonStop (String × List Char) :=
  match text with
  | [] => .error (.here .eofInString [])
  | '"' :: rest => .ok (String.ofList before.reverse, rest)
  | '\\' :: rest =>
    match rest with
    | [] => .error (.here .eofInString [])
    | 'u' :: digits =>
      match _escaped : parseUnicodeEscape digits with
      | .error stop => .error stop
      | .ok (c, rest) => parseStringOnto (c :: before) rest
    | letter :: rest =>
      match simpleEscape? letter with
      | some c => parseStringOnto (c :: before) rest
      | none => .error ⟨.invalidEscape, letter :: rest, 1⟩
  | c :: rest =>
    if c.toNat < 0x20 then .error ⟨.controlCharacter, text, 1⟩
    else parseStringOnto (c :: before) rest
termination_by text.length
decreasing_by
  · have := length_of_parseUnicodeEscape _escaped
    simp only [List.length_cons]
    omega
  · simp only [List.length_cons]
    omega
  · simp

theorem length_of_parseStringOnto {before text rest : List Char} {value : String}
    (parsed : parseStringOnto before text = .ok (value, rest)) : rest.length < text.length := by
  fun_induction parseStringOnto before text with
  | case1 => cases parsed
  | case2 before left =>
    simp only [Except.ok.injEq, Prod.mk.injEq] at parsed
    rw [← parsed.2]
    simp
  | case3 => cases parsed
  | case4 => cases parsed
  | case5 before digits c left escaped step =>
    have := length_of_parseUnicodeEscape escaped
    have := step parsed
    simp only [List.length_cons]
    omega
  | case6 before letter left notU c escape step =>
    have := step parsed
    simp only [List.length_cons]
    omega
  | case7 => cases parsed
  | case8 => cases parsed
  | case9 before c left notQuote notEscape printable step =>
    have := step parsed
    simp only [List.length_cons]
    omega

/-- Reads a string after its opening quote. -/
def parseString : JsonReader String := fun text =>
  match parsed : parseStringOnto [] text with
  | .error stop => .error stop
  | .ok (value, rest) => .ok ⟨value, rest, length_of_parseStringOnto parsed⟩

end ShaderCheck
