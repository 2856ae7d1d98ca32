/-
**Tokens of GLSL.**

A text is first freed of spliced lines and comments, then each of its lines is cut into words, numbers
and marks. A character that starts no token, and a number that is none, make the text unreadable. Each
token keeps the number of the line in which the text has it.

* `logicalLines`: the lines of a text without comments;
* `lexemesOf?`: the tokens of a line.
-/

import ShaderCheck.Glsl.Binary32
import ShaderCheck.Text.Characters

namespace ShaderCheck.Glsl

open Text

/-- A token. -/
inductive Token
  /-- A keyword or an identifier. -/
  | word (text : String)
  /-- An integer. -/
  | integer (value : Nat) (unsigned : Bool)
  /-- A number with a fraction or an exponent. -/
  | floating (value : Binary32)
  /-- An operator or a separator. -/
  | mark (text : String)
deriving DecidableEq, Repr

/-- A token where it stands. -/
structure Lexeme where
  token : Token
  /-- Whether white space stands before it. -/
  spaced : Bool
  /-- The number of its line, from one on. -/
  line : Nat
deriving DecidableEq, Repr

/-! ### Lines without comments -/

/-- The text with every line end a line feed: a carriage return, a line feed, or both together. -/
def unifyLineEnds : List Char → List Char
  | [] => []
  | '\r' :: '\n' :: rest | '\n' :: '\r' :: rest => '\n' :: unifyLineEnds rest
  | '\r' :: rest => '\n' :: unifyLineEnds rest
  | c :: rest => c :: unifyLineEnds rest

/-- A character with the number of its line. -/
abbrev NumberedChar := Char × Nat

/-- The characters with the numbers of their lines, the first of which is given; a line feed belongs to the
line that it ends. -/
def numberLines (line : Nat) : List Char → List NumberedChar
  | [] => []
  | c :: rest => (c, line) :: numberLines (if c = '\n' then line + 1 else line) rest

/-- The text with lines that end in a backslash joined to the next ones. -/
def spliceLines : List NumberedChar → List NumberedChar
  | [] => []
  | ('\\', _) :: ('\n', _) :: rest => spliceLines rest
  | c :: rest => c :: spliceLines rest

/-- Where a reader of comments stands. -/
inductive CommentState
  | code
  | line
  | block

/-- The text with a space for every comment; one that is not closed reaches to the end. -/
def stripComments : CommentState → List NumberedChar → List NumberedChar
  | _, [] => []
  | .code, ('/', _) :: ('/', _) :: rest => stripComments .line rest
  | .code, ('/', _) :: ('*', _) :: rest => stripComments .block rest
  | .code, c :: rest => c :: stripComments .code rest
  | .line, ('\n', line) :: rest => ('\n', line) :: stripComments .code rest
  | .line, _ :: rest => stripComments .line rest
  | .block, ('*', _) :: ('/', line) :: rest => (' ', line) :: stripComments .code rest
  | .block, _ :: rest => stripComments .block rest

/-- Cuts a text at every line feed. -/
def cutLines : List NumberedChar → List (List NumberedChar)
  | [] => [[]]
  | ('\n', _) :: rest => [] :: cutLines rest
  | c :: rest =>
    match cutLines rest with
    | [] => [[c]]
    | line :: lines => (c :: line) :: lines

/-- The lines of a text, spliced and without comments. -/
def logicalLines (text : String) : List (List NumberedChar) :=
  cutLines (stripComments .code (spliceLines (numberLines 1 (unifyLineEnds text.toList))))

/-! ### Numbers -/

/-- White space inside a line. -/
def isSpace (c : Char) : Bool :=
  c = ' ' || c = '\t' || c = '\x0b' || c = '\x0c'

/-- A character that starts a word. -/
def startsWord (c : Char) : Bool :=
  c.isAlpha || c = '_' || (128 ≤ c.toNat && isIdentifierStart c)

/-- A character that continues a word. -/
def continuesWord (c : Char) : Bool :=
  c.isAlphanum || c = '_' || (128 ≤ c.toNat && isIdentifierPart c)

/-- The value of a digit in any base up to sixteen. -/
def baseDigit? (base : Nat) (c : Char) : Option Nat :=
  let value :=
    if isAsciiDigit c then digitValue c
    else if 'a' ≤ c ∧ c ≤ 'f' then c.toNat - 'a'.toNat + 10
    else if 'A' ≤ c ∧ c ≤ 'F' then c.toNat - 'A'.toNat + 10
    else 16
  if value < base then some value else none

/-- The number that digits of a base spell. -/
def baseNumber? (base : Nat) (digits : List Char) : Option Nat :=
  digits.foldlM (fun number c => (baseDigit? base c).map (number * base + ·)) 0

/-- The least number that is too large to be an integer. -/
def integerLimit : Nat := 0x10000000000000000

/-- The integer that digits of a base spell, and what follows it: a letter may tell that it has no sign,
but none can tell a width other than thirty-two bits. -/
def integer? (base : Nat) (digits rest : List Char) : Option (Token × List Char) := do
  let (unsigned, rest) :=
    match rest with
    | 'u' :: rest | 'U' :: rest => (true, rest)
    | _ => (false, rest)
  guard !(rest.head?.any ['l', 'L', 's', 'S'].contains)
  guard (digits ≠ [])
  let value ← baseNumber? base digits
  guard (value < integerLimit)
  return (.integer value unsigned, rest)

/-- The number that decimal digits spell. -/
def decimalNumber (digits : List Char) : Nat :=
  digits.foldl (fun number c => number * 10 + digitValue c) 0

/-- The exponent that is spelled next, zero if there is none, and what follows it. -/
def exponent? (text : List Char) : Option (Int × List Char) :=
  match text with
  | 'e' :: rest | 'E' :: rest => do
    let (negative, rest) :=
      match rest with
      | '+' :: rest => (false, rest)
      | '-' :: rest => (true, rest)
      | _ => (false, rest)
    let digits := rest.takeWhile isAsciiDigit
    guard (digits ≠ [])
    let magnitude : Int := decimalNumber digits
    return (if negative then -magnitude else magnitude, rest.dropWhile isAsciiDigit)
  | _ => some (0, text)

/-- The number that digits before and after a dot spell with what is next, and what follows it: a letter
may tell a width, but only one of thirty-two bits. -/
def floating? (whole fraction rest : List Char) : Option (Token × List Char) := do
  let (exponent, rest) ← exponent? rest
  let value := Binary32.ofDecimal (decimalNumber (whole ++ fraction)) (exponent - fraction.length)
  match rest with
  | 'f' :: rest | 'F' :: rest => return (.floating value, rest)
  | _ =>
    guard !(rest.head?.any ['l', 'L', 'h', 'H'].contains)
    return (.floating value, rest)

/-- A hexadecimal digit. -/
def isHexadecimalDigit (c : Char) : Bool :=
  (baseDigit? 16 c).isSome

/-- The number at the start of a text, and what follows it. An integer that begins with a zero has
eight as its base, or sixteen if an `x` comes next. The digits after an `x` are decimal ones if a dot
follows. -/
def number? (text : List Char) : Option (Token × List Char) :=
  match text with
  | '0' :: 'x' :: rest | '0' :: 'X' :: rest =>
    let digits := rest.takeWhile isHexadecimalDigit
    match rest.dropWhile isHexadecimalDigit with
    | '.' :: rest => do
      guard (digits ≠ [] && digits.all isAsciiDigit)
      floating? digits (rest.takeWhile isAsciiDigit) (rest.dropWhile isAsciiDigit)
    | rest => integer? 16 digits rest
  | _ =>
    let whole := text.takeWhile isAsciiDigit
    match text.dropWhile isAsciiDigit with
    | '.' :: rest =>
      floating? whole (rest.takeWhile isAsciiDigit) (rest.dropWhile isAsciiDigit)
    | 'e' :: rest => floating? whole [] ('e' :: rest)
    | 'E' :: rest => floating? whole [] ('E' :: rest)
    | rest => integer? (if 1 < whole.length && whole.head? = some '0' then 8 else 10) whole rest

/-! ### Lines into tokens -/

/-- The marks, longer ones before their beginnings. -/
def marks : List String :=
  ["<<=", ">>=", "++", "--", "+=", "-=", "*=", "/=", "%=", "&=", "|=", "^=", "<<", ">>", "<=", ">=",
    "==", "!=", "&&", "||", "^^", "(", ")", "[", "]", "\x7b", "\x7d", ".", ",", ":", ";", "=", "!",
    "-", "~", "+", "*", "/", "%", "<", ">", "|", "^", "&", "?", "#"]

/-- The mark that the characters start with. -/
def mark? (text : List Char) : Option String :=
  marks.find? fun mark => mark.toList.isPrefixOf text

/-- A token at the start of the characters, with its length. -/
def token? (text : List Char) : Option (Token × Nat) :=
  match text with
  | [] => none
  | c :: rest =>
    if startsWord c then
      let word := c :: rest.takeWhile continuesWord
      some (.word (String.ofList word), word.length)
    else if isAsciiDigit c || (c = '.' && (rest.head?.map isAsciiDigit).getD false) then
      (number? text).map fun (token, after) => (token, text.length - after.length)
    else (mark? text).map fun mark => (.mark mark, mark.length)

/-- Reads the tokens of a line from some character on, the next ones of which are passed over. The numbers
of the lines that the characters stand in are told beside them. -/
def lexemesFrom? (spaced : Bool) (skip : Nat) : List Char → List Nat → Option (List Lexeme)
  | [], _ => some []
  | c :: rest, numbers =>
    match skip with
    | skip + 1 => lexemesFrom? false skip rest numbers.tail
    | 0 =>
      if isSpace c then lexemesFrom? true 0 rest numbers.tail
      else
        match token? (c :: rest) with
        | some (token, length) =>
          (lexemesFrom? false (length - 1) rest numbers.tail).map
            (⟨token, spaced, numbers.headD 0⟩ :: ·)
        | none => none

/-- The tokens of the characters of a line. -/
def lexemesOf? (line : List NumberedChar) : Option (List Lexeme) :=
  lexemesFrom? false 0 (line.map Prod.fst) (line.map Prod.snd)

end ShaderCheck.Glsl
