/-
**Expansion of words, and the numbers in directives.**

A definition gives a word a replacement, with parameters if the word is to be followed by arguments.
Tokens are read from a source, line after line, with the replacements of defined words in place of the
words. No word is replaced inside of its own replacement. Some readers have to know where a replacement
ends, and where an argument in it begins and ends: there are gaps.

The number that a directive tells is an expression of integers of sixty-four bits; a result that needs
more is none. Words are replaced on the way, a word without a replacement stands for zero, and what is
defined can be asked for. Operators bind in ten degrees. The operations of a degree end where a gap comes
next, and no operand begins there: a replaced word is rarely followed by an operator that binds closely.

* `Definition.ofLexemes?`: the definition that a directive makes;
* `Definition.pair?`, `Definition.replacement`: arguments in place of parameters;
* `Source`: lines that are still to be read;
* `Expansion.next?`, `Expansion.step?`: the next token, gaps being passed over or not;
* `Expansion.expand?`: all tokens with words replaced;
* `conditionItems?`: the tokens of an expression with words replaced, and the gaps between them;
* `conditionValue?`: the value of the expression that a line spells;
* `isLineNumber`: whether a line spells the number of a line.
-/

import ShaderCheck.Glsl.Token

namespace ShaderCheck.Glsl

/-! ### Definitions -/

/-- What a word stands for. -/
structure Definition where
  name : String
  parameters : Option (List String)
  body : List Lexeme
deriving DecidableEq, Repr

namespace Definition

/-- The names between commas up to a closing bracket, and what follows it. -/
def parameterNames? : List Token → Option (List String × Nat)
  | [.word name, .mark ")"] => some ([name], 2)
  | .word name :: .mark ")" :: _ => some ([name], 2)
  | .word name :: .mark "," :: rest =>
    (parameterNames? rest).map fun (names, length) => (name :: names, length + 2)
  | _ => none

/-- A definition, if no number sign stands in its body. -/
def withBody? (name : String) (parameters : Option (List String)) (body : List Lexeme) :
    Option Definition :=
  if body.any (·.token = .mark "#") then none else some ⟨name, parameters, body⟩

/-- The definition that the tokens after `#define` make: a bracket right after the name begins
parameters, which have different names. -/
def ofLexemes? : List Lexeme → Option Definition
  | ⟨.word name, _, _⟩ :: rest =>
    match rest with
    | ⟨.mark "(", false, _⟩ :: ⟨.mark ")", _, _⟩ :: body => withBody? name (some []) body
    | ⟨.mark "(", false, _⟩ :: inner => do
      let (names, length) ← parameterNames? (inner.map (·.token))
      guard names.Nodup
      withBody? name (some names) (inner.drop length)
    | body => withBody? name none body
  | _ => none

/-- Whether two definitions are the same: equal words with white space at the same places. -/
def isSame (first second : Definition) : Bool :=
  first.name = second.name && first.parameters = second.parameters &&
    first.body.map (fun lexeme => (lexeme.token, lexeme.spaced)) =
      second.body.map fun lexeme => (lexeme.token, lexeme.spaced)

/-- Pairs parameters with arguments; a call without parameters has one empty argument. -/
def pair? {α : Type} (parameters : List String) (arguments : List (List α)) :
    Option (List (String × List α)) :=
  match parameters, arguments with
  | [], [[]] => some []
  | _, _ => if parameters.length = arguments.length then some (parameters.zip arguments) else none

/-- What stands for a word with arguments: the body with arguments in place of the parameters, all other
tokens being in the given line. There is a gap at the end, and one on each side of an argument. -/
def replacement (definition : Definition) (values : List (String × List Lexeme)) (line : Nat) :
    List (Option Lexeme) :=
  definition.body.flatMap (fun lexeme =>
    let own := [some { lexeme with line }]
    match lexeme.token with
    | .word name => ((values.lookup name).map fun value => none :: value.map some ++ [none]).getD own
    | _ => own) ++ [none]

end Definition

/-! ### Sources -/

/-- Lines between two directives of a condition. -/
structure Group where
  /-- Whether the lines are read. -/
  isRead : Bool
  /-- Whether no later group of the condition can be read. -/
  isSettled : Bool
  /-- Whether these are the lines after `#else`. -/
  isLast : Bool

/-- Lines that are still to be read, and what the directives before them have set. -/
structure Source where
  /-- What is left of a line. -/
  current : List Lexeme
  lines : List (List Lexeme)
  definitions : List Definition
  /-- The conditions around the next line, the innermost first. -/
  groups : List Group

/-- How a source goes on at the end of a line: up to a line with tokens, if there is one. -/
abbrev Continuation := Source → Option Source

/-- A token, or the number of its line in place of the word that asks for it. -/
def Lexeme.answered (lexeme : Lexeme) : Lexeme :=
  if lexeme.token = .word "__LINE__" then { lexeme with token := .integer lexeme.line true } else lexeme

namespace Source

/-- The next token, if there is one, and what follows; it is no number sign. -/
def next? (goOn? : Continuation) (source : Source) : Option (Option Lexeme × Source) := do
  let source ← if source.current = [] then goOn? source else some source
  match source.current with
  | ⟨.mark "#", _, _⟩ :: _ => none
  | lexeme :: rest => some (some lexeme.answered, { source with current := rest })
  | [] => some (none, source)

/-- Whether a word is defined. -/
def defines (source : Source) (name : String) : Bool :=
  source.definitions.any (·.name = name)

end Source

/-! ### Replacements -/

/-- A replacement of a word, as far as it is not read yet; where there is no token, there is a gap. -/
structure Frame where
  name : String
  rest : List (Option Lexeme)

/-- Tokens that are read with words replaced. -/
structure Expansion where
  source : Source
  /-- The replacements that are read before the source goes on, the innermost first. -/
  frames : List Frame
  /-- More words that are not replaced. -/
  blocked : List String

namespace Expansion

/-- The next token, if there is one and no gap comes first, and what follows. -/
def step? (goOn? : Continuation) (state : Expansion) : Option (Option Lexeme × Expansion) :=
  match state.frames.dropWhile (·.rest.isEmpty) with
  | ⟨name, item :: rest⟩ :: outer =>
    some (item.map Lexeme.answered, { state with frames := ⟨name, rest⟩ :: outer })
  | _ =>
    (state.source.next? goOn?).map fun (lexeme?, source) =>
      (lexeme?, { state with source, frames := [] })

/-- The same tokens without the gaps that come next. -/
def skipGaps (state : Expansion) : Expansion :=
  match state.frames.dropWhile (·.rest.all Option.isNone) with
  | ⟨name, rest⟩ :: outer =>
    { state with frames := ⟨name, rest.dropWhile Option.isNone⟩ :: outer }
  | [] => { state with frames := [] }

/-- The next token, if there is one, and what follows. -/
def next? (goOn? : Continuation) (state : Expansion) : Option (Option Lexeme × Expansion) :=
  state.skipGaps.step? goOn?

/-- What a word is replaced by where it stands: no word inside of its own replacement. -/
def definition? (state : Expansion) (lexeme : Lexeme) : Option Definition :=
  match lexeme.token with
  | .word name =>
    if state.blocked.contains name || state.frames.any (·.name = name) then none
    else state.source.definitions.find? (·.name = name)
  | _ => none

/-- What follows an opening bracket, if one is next. -/
def afterBracket? (goOn? : Continuation) (state : Expansion) : Option (Option Expansion) := do
  match ← state.next? goOn? with
  | (some ⟨.mark "(", _, _⟩, next) => some (some next)
  | _ => some none

/-- Arguments in brackets, and the number of the line of the closing one. -/
structure ArgumentList where
  arguments : List (List Lexeme)
  line : Nat

/-- Reads the arguments after an opening bracket: `depth` brackets are open inside the argument whose
tokens so far are `current`, in reverse, as are the arguments before it in `earlier`. -/
def arguments? (goOn? : Continuation) : Nat → Nat → List (List Lexeme) → List Lexeme → Expansion →
    Option (ArgumentList × Expansion)
  | 0, _, _, _, _ => none
  | fuel + 1, depth, earlier, current, state => do
    let (some lexeme, next) ← state.next? goOn? | none
    match lexeme.token, depth with
    | .mark ")", 0 => some (⟨(current.reverse :: earlier).reverse, lexeme.line⟩, next)
    | .mark ",", 0 => arguments? goOn? fuel 0 (current.reverse :: earlier) [] next
    | .mark ")", depth + 1 => arguments? goOn? fuel depth earlier (lexeme :: current) next
    | .mark "(", depth => arguments? goOn? fuel (depth + 1) earlier (lexeme :: current) next
    | _, _ => arguments? goOn? fuel depth earlier (lexeme :: current) next

/-- Tokens that are read alone, where the same words are not replaced. -/
def alone (state : Expansion) (lexemes : List Lexeme) : Expansion where
  source := { state.source with current := lexemes, lines := [], groups := [] }
  frames := []
  blocked := state.blocked ++ state.frames.map (·.name)

/-- Puts the replacement of a word in front of what follows. -/
def push (state : Expansion) (definition : Definition) (values : List (String × List Lexeme))
    (line : Nat) : Expansion :=
  { state with frames := ⟨definition.name, definition.replacement values line⟩ :: state.frames }

mutual

/-- All tokens with words replaced, after those that are done, in reverse. -/
def expand? (goOn? : Continuation) : Nat → List Lexeme → Expansion → Option (List Lexeme)
  | 0, _, _ => none
  | fuel + 1, done, state => do
    match ← state.next? goOn? with
    | (none, last) => if last.source.groups.isEmpty then some done.reverse else none
    | (some lexeme, next) =>
      match next.definition? lexeme with
      | none => expand? goOn? fuel (lexeme :: done) next
      | some definition =>
        match ← replace? goOn? fuel definition lexeme.line next with
        | none => expand? goOn? fuel (lexeme :: done) next
        | some replaced => expand? goOn? fuel done replaced

/-- Puts the replacement of a word of some line that is just read in front of what follows; none if
arguments are to follow and do not. What is replaced with arguments is in the line in which they end. -/
def replace? (goOn? : Continuation) :
    Nat → Definition → Nat → Expansion → Option (Option Expansion)
  | 0, _, _, _ => none
  | fuel + 1, definition, line, state =>
    match definition.parameters with
    | none => some (some (state.push definition [] line))
    | some parameters => do
      match ← state.afterBracket? goOn? with
      | none => some none
      | some inner => do
        let (found, after) ← arguments? goOn? fuel 0 [] [] inner
        let values ← Definition.pair? parameters found.arguments
        let values ← expandAll? goOn? fuel after values
        some (some (after.push definition values found.line))

/-- The arguments of parameters with words replaced. -/
def expandAll? (goOn? : Continuation) :
    Nat → Expansion → List (String × List Lexeme) → Option (List (String × List Lexeme))
  | 0, _, _ => none
  | _ + 1, _, [] => some []
  | fuel + 1, state, (name, lexemes) :: rest => do
    let expanded ← expand? goOn? fuel [] (state.alone lexemes)
    return (name, expanded) :: (← expandAll? goOn? fuel state rest)

end

/-- The most tokens that are read in one expansion, those of replacements included. -/
def readLimit : Nat := 0x100000000

end Expansion

/-! ### Operations -/

/-- An integer, if it has sixty-four bits. -/
def within64? (value : Int) : Option Int :=
  if -0x8000000000000000 ≤ value ∧ value < 0x8000000000000000 then some value else none

/-- An integer of sixty-four bits. -/
def wrap64 (value : Int) : Int :=
  value.bmod 0x10000000000000000

/-- Truth as a number. -/
def truth (holds : Bool) : Int :=
  if holds then 1 else 0

/-- An operation on the bits of two integers. -/
def bitwise (operation : UInt64 → UInt64 → UInt64) (left right : Int) : Int :=
  wrap64 (operation (UInt64.ofInt left) (UInt64.ofInt right)).toNat

/-- The result of an operation on integers; there is no remainder without a quotient. -/
def integerOperation? (operator : String) (left right : Int) : Option Int :=
  match operator with
  | "+" => within64? (left + right)
  | "-" => within64? (left - right)
  | "*" => within64? (left * right)
  | "/" => if right = 0 then none else within64? (left.tdiv right)
  | "%" => if right = 0 then none else (within64? (left.tdiv right)).map fun _ => left.tmod right
  | "<<" => if right < 0 ∨ 64 ≤ right then none else some (wrap64 (left * Nat.pow 2 right.toNat))
  | ">>" => if right < 0 ∨ 64 ≤ right then none else some (left.fdiv (Nat.pow 2 right.toNat))
  | "&" => some (bitwise (· &&& ·) left right)
  | "^" => some (bitwise (· ^^^ ·) left right)
  | "|" => some (bitwise (· ||| ·) left right)
  | "<" => some (truth (left < right))
  | ">" => some (truth (left > right))
  | "<=" => some (truth (left ≤ right))
  | ">=" => some (truth (left ≥ right))
  | "==" => some (truth (left = right))
  | "!=" => some (truth (left ≠ right))
  | "&&" => some (truth (left ≠ 0 && right ≠ 0))
  | "||" => some (truth (left ≠ 0 || right ≠ 0))
  | _ => none

/-- The operators of each degree, those that bind least first. -/
def conditionDegrees : List (List String) :=
  [["||"], ["&&"], ["|"], ["^"], ["&"], ["==", "!="], ["<", ">", "<=", ">="], ["<<", ">>"], ["+", "-"],
    ["*", "/", "%"]]

/-! ### Expressions -/

/-- A token of an expression; a gap if there is none. -/
abbrev ConditionItem := Option Token

mutual

/-- The value at the start of the items that is made with operators of the given degrees. -/
def conditionAt? : Nat → List (List String) → List ConditionItem → Option (Int × List ConditionItem)
  | 0, _, _ => none
  | fuel + 1, [], items => conditionOperand? fuel items
  | fuel + 1, operators :: closer, items => do
    let (left, rest) ← conditionAt? fuel closer items
    conditionOperations? fuel operators closer left rest

/-- The operations with some operators that follow a value; the other ones bind closer. A gap ends them,
and is passed over. -/
def conditionOperations? : Nat → List String → List (List String) → Int → List ConditionItem →
    Option (Int × List ConditionItem)
  | 0, _, _, _, _ => none
  | fuel + 1, operators, closer, left, items =>
    match items with
    | none :: rest => some (left, rest)
    | some (.mark mark) :: rest =>
      if operators.contains mark then do
        let (right, rest) ← conditionAt? fuel closer rest
        conditionOperations? fuel operators closer (← integerOperation? mark left right) rest
      else some (left, items)
    | _ => some (left, items)

/-- A number, an expression in brackets, or one of these after signs. -/
def conditionOperand? : Nat → List ConditionItem → Option (Int × List ConditionItem)
  | 0, _ => none
  | fuel + 1, items =>
    match items with
    | some (.integer value _) :: rest => some (wrap64 value, rest)
    | some (.mark "-") :: rest => do
      let (value, rest) ← conditionOperand? fuel rest
      return (← within64? (-value), rest)
    | some (.mark "+") :: rest => conditionOperand? fuel rest
    | some (.mark "!") :: rest =>
      (conditionOperand? fuel rest).map fun (value, rest) => (truth (value = 0), rest)
    | some (.mark "~") :: rest =>
      (conditionOperand? fuel rest).map fun (value, rest) => (-value - 1, rest)
    | some (.mark "(") :: rest =>
      match conditionAt? fuel conditionDegrees rest with
      | some (value, some (.mark ")") :: rest) => some (value, rest)
      | _ => none
    | _ => none

end

/-- The value at the start of the items. Each item is reached through all degrees. -/
def conditionStart? (items : List ConditionItem) : Option (Int × List ConditionItem) :=
  conditionAt? ((items.length + 1) * (conditionDegrees.length + 3)) conditionDegrees items

/-- Whether nothing more is read: the items end, or there is a gap. -/
def isConditionEnd : List ConditionItem → Bool
  | [] | none :: _ => true
  | _ => false

/-! ### Words -/

namespace Expansion

/-- A line of its own, with what is defined before it. -/
def ofLine (definitions : List Definition) (line : List Lexeme) : Expansion :=
  ⟨⟨line, [], definitions, []⟩, [], []⟩

/-- Whether there are neither tokens nor gaps in what is left of a line. -/
def isAtEnd (state : Expansion) : Bool :=
  state.source.current.isEmpty && state.frames.all (·.rest.isEmpty)

/-- Whether the name that comes next is defined, alone or in brackets, and what follows it. -/
def answer? (state : Expansion) : Option (Bool × Expansion) := do
  let (some first, next) ← state.step? some | none
  match first.token with
  | .word name => return (state.source.defines name, next)
  | .mark "(" =>
    let (some second, next) ← next.step? some | none
    let (some third, next) ← next.step? some | none
    match second.token, third.token with
    | .word name, .mark ")" => return (state.source.defines name, next)
    | _, _ => none
  | _ => none

end Expansion

/-- The items of a line. A word for which arguments are to follow and do not stands for zero, as does one
without a replacement. -/
def conditionItems? : Nat → Expansion → Option (List ConditionItem)
  | 0, _ => none
  | fuel + 1, state => do
    if state.isAtEnd then return []
    let (lexeme?, next) ← state.step? some
    match lexeme? with
    | none => return none :: (← conditionItems? fuel next)
    | some lexeme =>
      match lexeme.token with
      | .word "defined" =>
        let (isDefined, next) ← next.answer?
        return some (.integer (if isDefined then 1 else 0) false) :: (← conditionItems? fuel next)
      | .word _ =>
        let replaced? ←
          match next.definition? lexeme with
          | some definition => next.replace? some fuel definition lexeme.line
          | none => some none
        match replaced? with
        | some replaced => conditionItems? fuel replaced
        | none => return some (.integer 0 false) :: (← conditionItems? fuel next)
      | token => return some token :: (← conditionItems? fuel next)

/-- The items of a line with words replaced. -/
def conditionItemsOf? (definitions : List Definition) (line : List Lexeme) :
    Option (List ConditionItem) :=
  conditionItems? Expansion.readLimit (.ofLine definitions line)

/-- The value of the expression that a line spells. -/
def conditionValue? (definitions : List Definition) (line : List Lexeme) : Option Int := do
  let (value, rest) ← conditionStart? (← conditionItemsOf? definitions line)
  guard (isConditionEnd rest)
  return value

/-- Whether a value is the number of a line. -/
def isInLineRange (value : Int) : Bool :=
  0 ≤ value && value < 0x100000000

/-- Whether a line spells the number of a line, and perhaps one of a text. -/
def isLineNumber (definitions : List Definition) (line : List Lexeme) : Bool :=
  match (conditionItemsOf? definitions line).bind conditionStart? with
  | none => false
  | some (value, rest) =>
    isInLineRange value &&
      (isConditionEnd rest ||
        (conditionStart? rest).any fun (value, rest) => isInLineRange value && isConditionEnd rest)

end ShaderCheck.Glsl
