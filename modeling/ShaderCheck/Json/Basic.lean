/-
**JSON values and the reading of texts.**

An object keeps its members in the order of their keys, each key once. A number is an integer of 64
bits or a binary64 value.

A reader takes a value off the front of the characters and gives what is left, which is shorter: so a
text is read to its end in finitely many steps. A fault is found with some characters left to read; the
reader may have looked at, or taken, one byte more. From what is left follow the line, counted from one,
and the column: the number of bytes since the last line feed.

* `Json.field?`: the member of an object;
* the readers `asText?`, `asFlag?`, `asArray?`, `asObject?`: a value of the wanted kind;
* `JsonStop`, `JsonStop.inText`: why and how far the reader got, and the line and column in its text;
* `JsonError.message`: the wording, with line and column.
-/

namespace ShaderCheck

/-! ### Values -/

/-- A JSON number. -/
inductive JsonNumber
  /-- A number that is not negative, below 2^64. -/
  | natural (value : Nat)
  /-- The negative of a number that is not zero, down to -2^63. -/
  | negative (magnitude : Nat)
  /-- A finite binary64 value, given by its bits. -/
  | binary64 (bits : UInt64)
deriving DecidableEq, Repr

/-- A JSON value. -/
inductive Json
  | null
  | bool (value : Bool)
  | number (value : JsonNumber)
  | string (value : String)
  | array (items : List Json)
  | object (members : List (String × Json))
deriving Inhabited

namespace Json

/-- The text of a string. -/
def asText? : Json → Option String
  | .string value => some value
  | _ => none

/-- The value of a boolean. -/
def asFlag? : Json → Option Bool
  | .bool value => some value
  | _ => none

/-- The items of an array. -/
def asArray? : Json → Option (List Json)
  | .array items => some items
  | _ => none

/-- The members of an object. -/
def asObject? : Json → Option (List (String × Json))
  | .object members => some members
  | _ => none

/-- The member of an object with the key; no other value has members. -/
def field? (value : Json) (key : String) : Option Json :=
  match value with
  | .object members => members.lookup key
  | _ => none

end Json

/-! ### Faults -/

/-- What is wrong with a text that should be JSON. -/
inductive JsonFault
  | eofInList
  | eofInObject
  | eofInString
  | eofInValue
  | expectedColon
  | expectedListCommaOrEnd
  | expectedObjectCommaOrEnd
  | expectedIdentifier
  | expectedValue
  | invalidEscape
  | invalidNumber
  | numberOutOfRange
  | controlCharacter
  | keyNotString
  | loneSurrogate
  | trailingComma
  | trailingCharacters
  | unexpectedEndOfEscape
  | nestingTooDeep
deriving DecidableEq, Repr

/-- The wording of a fault. -/
def JsonFault.message : JsonFault → String
  | .eofInList => "EOF while parsing a list"
  | .eofInObject => "EOF while parsing an object"
  | .eofInString => "EOF while parsing a string"
  | .eofInValue => "EOF while parsing a value"
  | .expectedColon => "expected `:`"
  | .expectedListCommaOrEnd => "expected `,` or `]`"
  | .expectedObjectCommaOrEnd => "expected `,` or `\x7d`"
  | .expectedIdentifier => "expected ident"
  | .expectedValue => "expected value"
  | .invalidEscape => "invalid escape"
  | .invalidNumber => "invalid number"
  | .numberOutOfRange => "number out of range"
  | .controlCharacter => "control character (\\u0000-\\u001F) found while parsing a string"
  | .keyNotString => "key must be a string"
  | .loneSurrogate => "lone leading surrogate in hex escape"
  | .trailingComma => "trailing comma"
  | .trailingCharacters => "trailing characters"
  | .unexpectedEndOfEscape => "unexpected end of hex escape"
  | .nestingTooDeep => "recursion limit exceeded"

/-- The number of bytes of characters in UTF-8. -/
def byteCount (text : List Char) : Nat :=
  text.foldl (fun count c => count + c.utf8Size) 0

/-- A fault, what was left to read, and how many bytes of that the reader had gone past. -/
structure JsonStop where
  fault : JsonFault
  rest : List Char
  ahead : Nat
deriving DecidableEq, Repr

namespace JsonStop

/-- A fault at what was taken so far. -/
def here (fault : JsonFault) (rest : List Char) : JsonStop := ⟨fault, rest, 0⟩

/-- A fault found by looking at the next byte, if there is one. -/
def beforeNext (fault : JsonFault) (rest : List Char) : JsonStop :=
  ⟨fault, rest, if rest = [] then 0 else 1⟩

end JsonStop

/-- A text is no JSON: why, and in which line and column. -/
structure JsonError where
  fault : JsonFault
  line : Nat
  column : Nat
deriving DecidableEq, Repr

/-- The wording of a JSON error. -/
def JsonError.message (error : JsonError) : String :=
  s!"{error.fault.message} at line {error.line} column {error.column}"

/-- The line and column after so many bytes of a text. -/
def positionAfter (bytes line column : Nat) : List Char → Nat × Nat
  | [] => (line, column)
  | c :: rest =>
    if bytes = 0 then (line, column)
    else if c = '\n' then positionAfter (bytes - 1) (line + 1) 0 rest
    else if bytes < c.utf8Size then (line, column + bytes)
    else positionAfter (bytes - c.utf8Size) line (column + c.utf8Size) rest

/-- The error that a stop in a text amounts to. -/
def JsonStop.inText (stop : JsonStop) (text : List Char) : JsonError :=
  let (line, column) :=
    positionAfter (byteCount text - byteCount stop.rest + stop.ahead) 1 0 text
  ⟨stop.fault, line, column⟩

/-! ### Readers -/

/-- What a reader made of the front of `text`, and what is left. -/
structure Parsed (α : Type) (text : List Char) where
  value : α
  rest : List Char
  shorter : rest.length < text.length

/-- A reader of values of a type. -/
abbrev JsonReader (α : Type) := (text : List Char) → Except JsonStop (Parsed α text)

/-- The white space of JSON. -/
def isJsonBlank (c : Char) : Bool :=
  c = ' ' || c = '\n' || c = '\t' || c = '\r'

/-- The text without its leading white space. -/
def skipBlanks (text : List Char) : List Char :=
  text.dropWhile isJsonBlank

theorem length_dropWhile_le (test : Char → Bool) (text : List Char) :
    (text.dropWhile test).length ≤ text.length :=
  (List.dropWhile_sublist test).length_le

theorem length_skipBlanks_le (text : List Char) : (skipBlanks text).length ≤ text.length :=
  length_dropWhile_le isJsonBlank text

/-- Puts a reader's result back on a longer text. -/
def Parsed.widen {α : Type} {short long : List Char} (parsed : Parsed α short)
    (bound : short.length ≤ long.length) : Parsed α long :=
  ⟨parsed.value, parsed.rest, Nat.lt_of_lt_of_le parsed.shorter bound⟩

end ShaderCheck
