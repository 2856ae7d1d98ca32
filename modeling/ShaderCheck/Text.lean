/-
**Texts.**

A line ends at a line feed, or at a carriage return directly followed by one; the text after the last
line end is a line only when it is not empty. What is inserted for one placeholder is part of the text
that the next placeholder is looked for in. A number is an optional plus sign and one or more ASCII
digits, and the first thing wrong with it, from the left, is the error.

Files are named by bytes, and messages name files by texts. A text has its bytes in UTF-8. Bytes that are
no text are shown as one all the same: wherever no character can be read, a replacement character
stands for the bytes of the character that was begun, or for one byte if none was.

* `splitLines`, `joinLines`: the lines of a text, and lines with a line feed between each two of them;
* `replaceChars`, `replaceAll`: one placeholder, and a list of them, one after the other;
* `readUnsigned`: a number up to a limit;
* `bytes`, `ofBytes?`: the bytes of a text, and the text of bytes that are one;
* `readByte`, `decode`: bytes read one after the other, with what is known of a character that is begun;
* `ofBytes`: the text that bytes are shown as.
-/

import ShaderCheck.Text.Characters

namespace ShaderCheck.Text

/-! ### Lines -/

/-- The lines of a list of characters. A carriage return that no line feed follows is kept. -/
def linesOf : List Char → List (List Char)
  | [] => []
  | '\r' :: '\n' :: rest => [] :: linesOf rest
  | '\n' :: rest => [] :: linesOf rest
  | c :: rest =>
    match linesOf rest with
    | [] => [[c]]
    | line :: lines => (c :: line) :: lines

/-- The lines of a text, without their ends. -/
def splitLines (text : String) : List String :=
  (linesOf text.toList).map String.ofList

/-- The lines with a line feed between each two of them. -/
def joinLines (lines : List String) : String :=
  "\n".intercalate lines

/-! ### Literal replacement -/

/-- A placeholder and the value that takes its place. -/
structure Replacement where
  placeholder : String
  value : String
deriving DecidableEq, Repr

/-- Copies the characters after the first `skip` ones, with every occurrence of `placeholder`
replaced by `value`. -/
def replaceChars (placeholder value : List Char) (skip : Nat) : List Char → List Char
  | [] => []
  | c :: rest =>
    match skip with
    | skip + 1 => replaceChars placeholder value skip rest
    | 0 =>
      if placeholder.isPrefixOf (c :: rest) then
        value ++ replaceChars placeholder value (placeholder.length - 1) rest
      else
        c :: replaceChars placeholder value 0 rest

/-- The text with every occurrence of the placeholder replaced. An empty placeholder occurs
nowhere. -/
def Replacement.apply (text : String) (replacement : Replacement) : String :=
  if replacement.placeholder = "" then text
  else String.ofList (replaceChars replacement.placeholder.toList replacement.value.toList 0
    text.toList)

/-- Applies the replacements one after the other. -/
def replaceAll (text : String) (replacements : List Replacement) : String :=
  replacements.foldl Replacement.apply text

/-! ### Unsigned decimal numbers -/

/-- Why a text is no number of the wanted size. -/
inductive NumberError
  /-- There is nothing to read. -/
  | empty
  /-- A character is no ASCII digit. -/
  | invalidDigit
  /-- The digits denote a number above the limit. -/
  | tooLarge
deriving DecidableEq, Repr

/-- The wording of a number error. -/
def NumberError.message : NumberError → String
  | .empty => "cannot parse integer from empty string"
  | .invalidDigit => "invalid digit found in string"
  | .tooLarge => "number too large to fit in target type"

/-- Reads digits on from a number that is already read. -/
def readDigits (limit : Nat) (number : Nat) : List Char → Except NumberError Nat
  | [] => .ok number
  | c :: rest =>
    if !isAsciiDigit c then .error .invalidDigit
    else if limit < number * 10 + digitValue c then .error .tooLarge
    else readDigits limit (number * 10 + digitValue c) rest

/-- Reads a number of at most `limit`. -/
def readUnsigned (limit : Nat) : List Char → Except NumberError Nat
  | [] => .error .empty
  | '+' :: [] => .error .invalidDigit
  | '+' :: digits => readDigits limit 0 digits
  | digits => readDigits limit 0 digits

/-! ### Texts and their bytes -/

/-- The bytes of a text in UTF-8. -/
def bytes (text : String) : List UInt8 :=
  text.toUTF8.data.toList

/-- The text that has these bytes, if there is one. -/
def ofBytes? (bytes : List UInt8) : Option String :=
  String.fromUTF8? ⟨bytes.toArray⟩

/-- What stands in a text for bytes that are no character. -/
def replacement : Char := '\uFFFD'

/-- A character that is begun. -/
structure Opening where
  /-- The number that its bytes tell so far. -/
  value : Nat
  /-- How many bytes are missing behind the next one. -/
  later : Nat
  /-- The least that its next byte can be, which is never a character by itself. -/
  least : Nat := 0x80
  /-- The greatest that its next byte can be. -/
  greatest : Nat := 0xBF
  least_ge : 0x80 ≤ least := by decide

/-- The character that a byte begins, if it can begin a longer one. Characters that have fewer bytes,
numbers of no character and numbers above all characters are ruled out by the bounds of the next byte. -/
def Opening.ofByte? (byte : Nat) : Option Opening :=
  if byte < 0xC2 then none
  else if byte < 0xE0 then some { value := byte - 0xC0, later := 0 }
  else if byte = 0xE0 then some { value := 0, later := 1, least := 0xA0 }
  else if byte = 0xED then some { value := 0xD, later := 1, greatest := 0x9F }
  else if byte < 0xF0 then some { value := byte - 0xE0, later := 1 }
  else if byte = 0xF0 then some { value := 0, later := 2, least := 0x90 }
  else if byte < 0xF4 then some { value := byte - 0xF0, later := 2 }
  else if byte = 0xF4 then some { value := 4, later := 2, greatest := 0x8F }
  else none

/-- The next byte of a character: the character if it is the last one. -/
def Opening.extend (opening : Opening) (byte : Nat) : List Char × Option Opening :=
  let value := opening.value * 64 + (byte - 0x80)
  match opening.later with
  | 0 => ([Char.ofNat value], none)
  | later + 1 => ([], some { value, later })

/-- Reads a byte that no character is begun before. -/
def readFirst (byte : UInt8) : List Char × Option Opening :=
  if byte.toNat < 0x80 then ([Char.ofNat byte.toNat], none)
  else
    match Opening.ofByte? byte.toNat with
    | some opening => ([], some opening)
    | none => ([replacement], none)

/-- Reads a byte: the characters that are read with it, and the one that is begun then. -/
def readByte : Option Opening → UInt8 → List Char × Option Opening
  | none, byte => readFirst byte
  | some opening, byte =>
    if opening.least ≤ byte.toNat ∧ byte.toNat ≤ opening.greatest then opening.extend byte.toNat
    else (replacement :: (readFirst byte).1, (readFirst byte).2)

/-- The characters that bytes are shown as, behind one that is begun or none. -/
def decode : Option Opening → List UInt8 → List Char
  | opening, [] => if opening.isSome then [replacement] else []
  | opening, byte :: rest => (readByte opening byte).1 ++ decode (readByte opening byte).2 rest

/-- The text that bytes are shown as. -/
def ofBytes (bytes : List UInt8) : String :=
  String.ofList (decode none bytes)

end ShaderCheck.Text
