/-
**Reading the terms of GLSL.**

Tokens are read into terms by recursive descent: the next token tells what comes, and what does not
fit ends the reading. Every reader takes a bound on how deep it may go; the number of tokens gives
one that is never reached.

* `topTermsOf?`: what tokens spell at the top of a text.
-/

import ShaderCheck.Glsl.Grammar
import ShaderCheck.Glsl.Token

namespace ShaderCheck.Glsl

/-- What is left to read, and the structures declared so far. -/
structure Input where
  tokens : List Token
  records : List String

/-- A reader of tokens. -/
abbrev Parse := StateT Input Option

namespace Parse

/-! ### Single tokens -/

/-- The next token. -/
def peek? : Parse (Option Token) :=
  return (← get).tokens.head?

/-- The token after the next one. -/
def peekSecond? : Parse (Option Token) :=
  return (← get).tokens[1]?

/-- Passes over the next token. -/
def skip : Parse Unit :=
  modify fun input => { input with tokens := input.tokens.tail }

/-- Passes over the next token if it is the given one. -/
def take? (token : Token) : Parse Bool := do
  if (← peek?) = some token then
    skip
    return true
  else return false

/-- Passes over a mark, if it is next. -/
def mark? (mark : String) : Parse Bool :=
  take? (.mark mark)

/-- Passes over a word, if it is next. -/
def word? (word : String) : Parse Bool :=
  take? (.word word)

/-- Passes over a mark, which has to be next. -/
def expect (mark : String) : Parse Unit := do
  guard (← mark? mark)

/-- The words that name nothing. -/
def reserved : List String :=
  ["break", "buffer", "case", "centroid", "const", "continue", "default", "discard", "do", "else",
    "false", "flat", "for", "highp", "if", "in", "inout", "invariant", "layout", "lowp", "mediump",
    "noperspective", "out", "precision", "readonly", "restrict", "return", "sample", "shared", "smooth",
    "struct", "switch", "true", "uniform", "void", "while", "writeonly"]

/-- Whether a word can name something that a shader declares. -/
def isIdentifier (word : String) : Bool :=
  !reserved.contains word && (Ty.ofWord? word).isNone

/-- A name. -/
def identifier : Parse String := do
  match ← peek? with
  | some (.word word) =>
    guard (isIdentifier word)
    skip
    return word
  | _ => failure

/-- Whether a type is next. -/
def typeFollows : Parse Bool := do
  match ← peek? with
  | some (.word word) =>
    return word = "void" || word = "struct" || (Ty.ofWord? word).isSome ||
      (isIdentifier word && (← get).records.contains word)
  | _ => return false

/-! ### Repetition -/

/-- Reads items as long as there are some. -/
def many {α : Type} : Nat → Parse (Option α) → Parse (List α)
  | 0, _ => failure
  | fuel + 1, item => do
    match ← item with
    | some first => return first :: (← many fuel item)
    | none => return []

/-- Reads items with commas between them. -/
def separated {α : Type} : Nat → Parse α → Parse (List α)
  | 0, _ => failure
  | fuel + 1, item => do
    let first ← item
    if ← mark? "," then return first :: (← separated fuel item) else return [first]

/-- Reads items until a closing mark. -/
def closedBy {α : Type} (fuel : Nat) (close : String) (item : Parse α) : Parse (List α) :=
  many fuel do if ← mark? close then return none else return some (← item)

/-- Reads items with commas between them until a closing mark; there may be none. -/
def listed {α : Type} (fuel : Nat) (close : String) (item : Parse α) : Parse (List α) := do
  if ← mark? close then return []
  let items ← separated fuel item
  expect close
  return items

/-! ### Expressions -/

/-- The operation that a mark stands for between two values, and how close it binds. -/
def operator? : String → Option (BinaryOperator × Nat)
  | "*" => some (.multiply, 10)
  | "/" => some (.divide, 10)
  | "%" => some (.modulo, 10)
  | "+" => some (.add, 9)
  | "-" => some (.subtract, 9)
  | "<<" => some (.shiftLeft, 8)
  | ">>" => some (.shiftRight, 8)
  | "<" => some (.less, 7)
  | ">" => some (.greater, 7)
  | "<=" => some (.lessEqual, 7)
  | ">=" => some (.greaterEqual, 7)
  | "==" => some (.equal, 6)
  | "!=" => some (.notEqual, 6)
  | "&" => some (.and, 5)
  | "^" => some (.exclusiveOr, 4)
  | "|" => some (.inclusiveOr, 3)
  | "&&" => some (.logicalAnd, 2)
  | "^^" => some (.notEqual, 1)
  | "||" => some (.logicalOr, 0)
  | _ => none

/-- The operation that an assignment mark does first, if the mark is one. -/
def assignment? : String → Option (Option BinaryOperator)
  | "=" => some none
  | "+=" => some (some .add)
  | "-=" => some (some .subtract)
  | "*=" => some (some .multiply)
  | "/=" => some (some .divide)
  | "%=" => some (some .modulo)
  | "<<=" => some (some .shiftLeft)
  | ">>=" => some (some .shiftRight)
  | "&=" => some (some .and)
  | "|=" => some (some .inclusiveOr)
  | "^=" => some (some .exclusiveOr)
  | _ => none

/-- The operation that a mark before a value stands for, nothing done by a plus sign. -/
def sign? : String → Option (Option UnaryOperator)
  | "+" => some none
  | "-" => some (some .negate)
  | "!" | "~" => some (some .not)
  | _ => none

/-- The operation that a mark for counting up or down stands for. -/
def step? : String → Option BinaryOperator
  | "++" => some .add
  | "--" => some .subtract
  | _ => none

/-- Passes over the next mark if it has a meaning, and gives that. -/
def markWith? {α : Type} (meaning : String → Option α) : Parse (Option α) := do
  match ← peek? with
  | some (.mark mark) =>
    match meaning mark with
    | some value =>
      skip
      return some value
    | none => return none
  | _ => return none

mutual

/-- An expression. -/
def expression : Nat → Parse Expr
  | 0 => failure
  | fuel + 1 => do commas fuel (← assignment fuel)

/-- The expressions that follow one after commas. -/
def commas : Nat → Expr → Parse Expr
  | 0, _ => failure
  | fuel + 1, first => do
    if ← mark? "," then commas fuel (.sequence first (← assignment fuel)) else return first

/-- An expression without commas. -/
def assignment : Nat → Parse Expr
  | 0 => failure
  | fuel + 1 => do
    let first ← unary fuel
    match ← markWith? assignment? with
    | some operator => return .assign operator first (← assignment fuel)
    | none => conditional fuel first

/-- An expression without assignment that starts with a value. -/
def conditional : Nat → Expr → Parse Expr
  | 0, _ => failure
  | fuel + 1, first => do
    let condition ← operation fuel 0 first
    if ← mark? "?" then
      let accept ← expression fuel
      expect ":"
      return .choose condition accept (← assignment fuel)
    else return condition

/-- The operations of at least the given strength that start with a value. -/
def operation : Nat → Nat → Expr → Parse Expr
  | 0, _, _ => failure
  | fuel + 1, least, left => do
    match ← markWith? fun mark => (operator? mark).filter (least ≤ ·.2) with
    | some (operator, strength) =>
      let right ← operation fuel (strength + 1) (← unary fuel)
      operation fuel least (.binary operator left right)
    | none => return left

/-- A value with the operators before it. -/
def unary : Nat → Parse Expr
  | 0 => failure
  | fuel + 1 => do
    match ← markWith? sign? with
    | some (some operator) => return .unary operator (← unary fuel)
    | some none => unary fuel
    | none =>
      match ← markWith? step? with
      | some operator => return .step operator false (← unary fuel)
      | none => suffixed fuel (← primary fuel)

/-- A value and the parts that are picked from it. -/
def suffixed : Nat → Expr → Parse Expr
  | 0, _ => failure
  | fuel + 1, value => do
    if ← mark? "[" then
      let position ← expression fuel
      expect "]"
      suffixed fuel (.index value position)
    else if ← mark? "." then
      let name ← identifier
      if ← mark? "(" then suffixed fuel (.method value name (← listed fuel ")" (assignment fuel)))
      else suffixed fuel (.field value name)
    else
      match ← markWith? step? with
      | some operator => suffixed fuel (.step operator true value)
      | none => return value

/-- A number, a name, a call, or an expression in brackets. -/
def primary : Nat → Parse Expr
  | 0 => failure
  | fuel + 1 => do
    if ← typeFollows then
      let type ← typeTerm fuel
      expect "("
      return .construct type (← listed fuel ")" (assignment fuel))
    else
      match ← peek? with
      | some (.integer value unsigned) =>
        skip
        return .integer value unsigned
      | some (.floating value) =>
        skip
        return .floating value
      | some (.word "true") =>
        skip
        return .boolean true
      | some (.word "false") =>
        skip
        return .boolean false
      | some (.word _) =>
        let name ← identifier
        if ← mark? "(" then return .call name (← listed fuel ")" (assignment fuel))
        else return .name name
      | some (.mark "(") =>
        skip
        let value ← expression fuel
        expect ")"
        return value
      | _ => failure

/-- A type. -/
def typeTerm : Nat → Parse TypeTerm
  | 0 => failure
  | fuel + 1 => do
    if ← word? "void" then return .void
    else if ← word? "struct" then
      let name ← identifier
      expect "\x7b"
      let fields ← members fuel
      modify fun input => { input with records := name :: input.records }
      return .record name fields (← arraySizes fuel)
    else
      match ← peek? with
      | some (.word word) =>
        match Ty.ofWord? word with
        | some type =>
          skip
          return .known type (← arraySizes fuel)
        | none =>
          guard ((← get).records.contains word)
          skip
          return .name word (← arraySizes fuel)
      | _ => failure

/-- The sizes of an array, in square brackets. -/
def arraySizes : Nat → Parse SizeTerms
  | 0 => failure
  | fuel + 1 => do
    if ← mark? "[" then
      if ← mark? "]" then return .unsized (← arraySizes fuel)
      else
        let size ← constant fuel
        expect "]"
        return .sized size (← arraySizes fuel)
    else return .none

/-- An expression without commas or assignment. -/
def constant : Nat → Parse Expr
  | 0 => failure
  | fuel + 1 => do conditional fuel (← unary fuel)

/-- The members of a structure or a block, after the opening brace; there is at least one. -/
def members : Nat → Parse (List MemberTerm)
  | 0 => failure
  | fuel + 1 => do
    let type ← typeTerm fuel
    let row ← separated fuel do
      let name ← identifier
      return MemberTerm.mk type name (← arraySizes fuel)
    expect ";"
    if ← mark? "\x7d" then return row else return row ++ (← members fuel)

end

/-! ### Qualifiers -/

/-- The words of layouts that take no value. -/
def layoutWords : List String := ["std140", "std430"] ++ imageFormats.map Prod.fst

/-- An entry of a `layout`. -/
def layoutEntry (fuel : Nat) : Parse (String × Option Expr) := do
  let word ← identifier
  if !layoutWords.contains word && (← mark? "=") then return (word, some (← constant fuel))
  else return (word, none)

/-- The qualifier that a word is. -/
def qualifierOfWord? : String → Option Qualifier
  | "invariant" => some .invariant
  | "smooth" => some (.interpolation .smooth)
  | "flat" => some (.interpolation .flat)
  | "noperspective" => some (.interpolation .linear)
  | "centroid" | "sample" => some .sampling
  | "const" => some (.storage .const)
  | "in" => some (.storage .input)
  | "out" => some (.storage .output)
  | "uniform" => some (.storage .uniform)
  | "buffer" => some (.storage .buffer)
  | "shared" => some (.storage .shared)
  | "highp" | "mediump" | "lowp" => some .precision
  | "readonly" => some (.memory ⟨true, false⟩)
  | "writeonly" => some (.memory ⟨false, true⟩)
  | "restrict" => some .restrict
  | _ => none

/-- Whether a qualifier is next. -/
def qualifierFollows : Parse Bool := do
  match ← peek? with
  | some (.word word) => return word = "layout" || (qualifierOfWord? word).isSome
  | _ => return false

/-- A qualifier, if one is next. -/
def qualifier? (fuel : Nat) : Parse (Option Qualifier) := do
  match ← peek? with
  | some (.word "layout") =>
    skip
    expect "("
    let entries ← separated fuel (layoutEntry fuel)
    expect ")"
    return some (.layout entries)
  | some (.word word) =>
    match qualifierOfWord? word with
    | some qualifier =>
      skip
      return some qualifier
    | none => return none
  | _ => return none

/-- The qualifiers that come next. -/
def qualifiers (fuel : Nat) : Parse (List Qualifier) :=
  many fuel (qualifier? fuel)

/-! ### Variables and functions -/

mutual

/-- A value that a variable begins with. -/
def initializer : Nat → Parse Initializer
  | 0 => failure
  | fuel + 1 => do
    if ← mark? "\x7b" then return .parts (← initializers fuel)
    else return .value (← assignment fuel)

/-- The parts of a value, up to the closing brace, before which a comma may stand. -/
def initializers : Nat → Parse (List Initializer)
  | 0 => failure
  | fuel + 1 => do
    let first ← initializer fuel
    if ← mark? "\x7d" then return [first]
    expect ","
    if ← mark? "\x7d" then return [first] else return first :: (← initializers fuel)

end

/-- The variables declared after a type, up to the semicolon. -/
def declarators : Nat → Parse (List Declarator)
  | 0 => failure
  | fuel + 1 => do
    if ← mark? ";" then return []
    let name ← identifier
    let sizes ← arraySizes fuel
    let value ← if ← mark? "=" then some <$> initializer fuel else pure none
    if ← mark? ";" then return [⟨name, sizes, value⟩]
    expect ","
    return ⟨name, sizes, value⟩ :: (← declarators fuel)

/-- The way of an argument that a word tells. -/
def passingOfWord? : String → Option Passing
  | "in" => some .input
  | "out" => some .output
  | "inout" => some .both
  | "const" => some .const
  | _ => none

/-- Which way an argument goes: into the function, if nothing is said. -/
def passing? : Parse (Option Passing) := do
  match ← peek? with
  | some (.word word) =>
    match passingOfWord? word with
    | some passing =>
      skip
      return some passing
    | none => return none
  | _ => return none

/-- The parameters of a function, up to the closing bracket; a last one without a name does not count. -/
def parameterTerms : Nat → Parse (List ParameterTerm)
  | 0 => failure
  | fuel + 1 => do
    let passing ← passing?
    if passing.isNone && !(← typeFollows) then
      expect ")"
      return []
    let type ← typeTerm fuel
    if ← mark? "," then return ⟨passing.getD .input, type, none, .none⟩ :: (← parameterTerms fuel)
    if ← mark? ")" then return []
    let name ← identifier
    let parameter : ParameterTerm := ⟨passing.getD .input, type, some name, ← arraySizes fuel⟩
    if ← mark? "," then return parameter :: (← parameterTerms fuel)
    expect ")"
    return [parameter]

/-- The parameters of a function, after the opening bracket. -/
def parametersOf (fuel : Nat) : Parse (List ParameterTerm) := do
  if ← word? "void" then
    expect ")"
    return []
  else parameterTerms fuel

/-- The head of a function, after its type. -/
def functionTerm (fuel : Nat) (qualifiers : List Qualifier) (result : TypeTerm) :
    Parse FunctionTerm := do
  let name ← identifier
  expect "("
  return ⟨qualifiers, result, name, ← parametersOf fuel⟩

/-- Whether a name and an opening bracket are next. -/
def functionFollows : Parse Bool := do
  match ← peek? with
  | some (.word word) => return isIdentifier word && (← peekSecond?) = some (.mark "(")
  | _ => return false

/-- Variables of a type, after that. -/
def variableTerms (fuel : Nat) (qualifiers : List Qualifier) (type : TypeTerm) : Parse Declaration := do
  guard (type matches .known .. | .name .. | .record ..)
  let _ ← mark? ","
  return .variables qualifiers type (← declarators fuel)

/-- What comes after qualifiers if no type does. -/
def untyped (fuel : Nat) (qualifiers : List Qualifier) : Parse Declaration := do
  if ← mark? ";" then return .stage qualifiers
  let name ← identifier
  if ← mark? "\x7b" then
    let fields ← members fuel
    if ← mark? ";" then return .block qualifiers name fields none
    let whole ← identifier
    let sizes ← arraySizes fuel
    expect ";"
    return .block qualifiers name fields (some (whole, sizes))
  else
    expect ";"
    return .requalify qualifiers name

/-- The default precision of a type, after the word that begins it. -/
def precision (fuel : Nat) : Parse Declaration := do
  guard ((← qualifier? fuel) matches some .precision)
  let type ← typeTerm fuel
  expect ";"
  return .precision type

/-! ### Statements -/

/-- A declaration among statements. -/
def declarationTerm (fuel : Nat) : Parse Declaration := do
  let qualifiers ← qualifiers fuel
  if ← typeFollows then
    let type ← typeTerm fuel
    if ← functionFollows then
      let function ← functionTerm fuel qualifiers type
      expect ";"
      return .prototype function
    else variableTerms fuel qualifiers type
  else untyped fuel qualifiers

/-- Whether a declaration is next, and not an expression that starts with a type. -/
def declarationFollows : Parse Bool := do
  if ← qualifierFollows then return true
  else return (← typeFollows) && (← peekSecond?) ≠ some (.mark "(")

/-- An expression in brackets. -/
def bracketed (fuel : Nat) : Parse Expr := do
  expect "("
  let value ← expression fuel
  expect ")"
  return value

/-- An expression, or nothing before a closing mark. -/
def expressionBefore (fuel : Nat) (close : String) : Parse (Option Expr) := do
  if ← mark? close then return none
  let value ← expression fuel
  expect close
  return some value

/-- What is done before a loop, with its semicolon. -/
def loopStart (fuel : Nat) : Parse Stmt := do
  if (← qualifierFollows) || (← typeFollows) then return .declare (← declarationTerm fuel)
  match ← expressionBefore fuel ";" with
  | some value => return .evaluate value
  | none => return .empty

/-- What ends a loop, with its semicolon. -/
def loopCondition (fuel : Nat) : Parse LoopCondition := do
  if (← qualifierFollows) || (← typeFollows) then
    let qualifiers ← qualifiers fuel
    let type ← typeTerm fuel
    let name ← identifier
    expect "="
    let value ← initializer fuel
    expect ";"
    return .declare qualifiers type name value
  match ← expressionBefore fuel ";" with
  | some value => return .value value
  | none => return .always

mutual

/-- A statement. -/
def statement : Nat → Parse Stmt
  | 0 => failure
  | fuel + 1 => do
    if ← declarationFollows then return .declare (← declarationTerm fuel)
    else if ← mark? "\x7b" then return .block (← closedBy fuel "\x7d" (statement fuel))
    else if ← mark? ";" then return .empty
    else if ← word? "if" then
      let condition ← bracketed fuel
      let accept ← statement fuel
      if ← word? "else" then return .branch condition accept (some (← statement fuel))
      else return .branch condition accept none
    else if ← word? "while" then
      let condition ← bracketed fuel
      return .whileLoop condition (← statement fuel)
    else if ← word? "do" then
      let body ← statement fuel
      guard (← word? "while")
      return .doLoop body (← bracketed fuel)
    else if ← word? "for" then
      expect "("
      let first ← loopStart fuel
      let condition ← loopCondition fuel
      let next ← expressionBefore fuel ")"
      return .forLoop first condition next (← statement fuel)
    else if ← word? "switch" then
      let value ← bracketed fuel
      expect "\x7b"
      return .select value (← closedBy fuel "\x7d" (caseTerm fuel))
    else if ← word? "return" then return .giveBack (← expressionBefore fuel ";")
    else if ← word? "break" then
      expect ";"
      return .leave
    else if ← word? "continue" then
      expect ";"
      return .continueLoop
    else if ← word? "discard" then
      expect ";"
      return .discard
    else
      let value ← expression fuel
      expect ";"
      return .evaluate value

/-- A label of a switch and the statements up to the next one. -/
def caseTerm : Nat → Parse CaseTerm
  | 0 => failure
  | fuel + 1 => do
    let label ←
      if ← word? "default" then pure none
      else
        guard (← word? "case")
        some <$> expression fuel
    expect ":"
    let body ← many fuel do
      let next ← peek?
      if next = some (.word "case") || next = some (.word "default") || next = some (.mark "\x7d") then
        return none
      else return some (← statement fuel)
    return .mk label body

end

/-! ### The top of a text -/

/-- What comes next at the top of a text. -/
def topTerm (fuel : Nat) : Parse TopTerm := do
  if ← mark? ";" then return .empty
  if ← word? "precision" then return .declare (← precision fuel)
  let first ← qualifierFollows
  let qualifiers ← qualifiers fuel
  if ← typeFollows then
    let type ← typeTerm fuel
    if ← functionFollows then
      let function ← functionTerm fuel qualifiers type
      if ← mark? ";" then return .declare (.prototype function)
      expect "\x7b"
      return .function function (← closedBy fuel "\x7d" (statement fuel))
    else return .declare (← variableTerms fuel qualifiers type)
  else
    guard first
    return .declare (← untyped fuel qualifiers)

end Parse

/-! ### Whole texts -/

/-- A bound on the depth of reading: a reader passes over a token after fewer than sixteen steps down. -/
def depthBound (tokens : List Token) : Nat :=
  16 * (tokens.length + 2)

/-- What tokens spell at the top of a text. -/
def topTermsOf? (tokens : List Token) : Option (List TopTerm) :=
  let depth := depthBound tokens
  let next : Parse (Option TopTerm) := do
    if (← get).tokens.isEmpty then return none else return some (← Parse.topTerm depth)
  (Parse.many depth next).run' ⟨tokens, []⟩

end ShaderCheck.Glsl
