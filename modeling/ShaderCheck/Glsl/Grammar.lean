/-
**Terms of GLSL.**

What a shader text is made of: expressions, types, statements and declarations, as they are written.
Names are not looked up yet and types are not worked out.
-/

import ShaderCheck.Glsl.Binary32
import ShaderCheck.Glsl.Type

namespace ShaderCheck.Glsl

mutual

/-- An expression. -/
inductive Expr
  | integer (value : Nat) (unsigned : Bool)
  | floating (value : Binary32)
  | boolean (value : Bool)
  | name (name : String)
  /-- A function called. -/
  | call (function : String) (arguments : List Expr)
  /-- A value of a type made. -/
  | construct (type : TypeTerm) (arguments : List Expr)
  /-- A function of a value called. -/
  | method (value : Expr) (name : String) (arguments : List Expr)
  | field (value : Expr) (name : String)
  | index (value position : Expr)
  | unary (operator : UnaryOperator) (value : Expr)
  /-- One added to or taken from a variable, the value being the old one or the new one. -/
  | step (operator : BinaryOperator) (givesOld : Bool) (value : Expr)
  | binary (operator : BinaryOperator) (left right : Expr)
  /-- A value assigned, after an operation with the old value if there is one. -/
  | assign (operator : Option BinaryOperator) (target value : Expr)
  | choose (condition accept reject : Expr)
  /-- Two expressions, of which the second is the value. -/
  | sequence (first second : Expr)

/-- The sizes of arrays in the order in which they are written. -/
inductive SizeTerms
  | none
  | unsized (rest : SizeTerms)
  | sized (size : Expr) (rest : SizeTerms)

/-- A type as it is written. -/
inductive TypeTerm
  /-- The type of no value. -/
  | void
  /-- A type that needs no declaration. -/
  | known (type : Ty) (sizes : SizeTerms)
  /-- A structure that is declared before. -/
  | name (name : String) (sizes : SizeTerms)
  /-- A structure that is declared here. -/
  | record (name : String) (members : List MemberTerm) (sizes : SizeTerms)

/-- A member of a structure or a block. -/
inductive MemberTerm
  | mk (type : TypeTerm) (name : String) (sizes : SizeTerms)

end

instance : Inhabited Expr := ⟨.boolean false⟩
instance : Inhabited TypeTerm := ⟨.void⟩

/-- A value that a variable begins with. -/
inductive Initializer
  | value (value : Expr)
  /-- The parts of a value. -/
  | parts (parts : List Initializer)

/-- How a value changes between the corners of a triangle. -/
inductive Interpolation
  | smooth
  | flat
  | linear
deriving DecidableEq, Repr

/-- Where a variable gets its value from. -/
inductive Storage
  | const
  | input
  | output
  | uniform
  | buffer
  | shared
deriving DecidableEq, Repr

/-- A qualifier of a declaration. -/
inductive Qualifier
  | invariant
  | interpolation (how : Interpolation)
  | sampling
  | storage (storage : Storage)
  | precision
  /-- What may be done with stored values. -/
  | memory (access : Access)
  | restrict
  /-- The entries of a `layout`, with their values. -/
  | layout (entries : List (String × Option Expr))

/-- A variable that a declaration declares. -/
structure Declarator where
  name : String
  sizes : SizeTerms
  value : Option Initializer

/-- Which way an argument of a function goes. -/
inductive Passing
  | input
  | output
  | both
  | const
deriving DecidableEq, Repr

/-- A parameter of a function. -/
structure ParameterTerm where
  passing : Passing
  type : TypeTerm
  name : Option String
  sizes : SizeTerms

/-- The head of a function. -/
structure FunctionTerm where
  qualifiers : List Qualifier
  result : TypeTerm
  name : String
  parameters : List ParameterTerm

/-- A declaration, at the top of a text or among statements. -/
inductive Declaration
  | variables (qualifiers : List Qualifier) (type : TypeTerm) (declarators : List Declarator)
  /-- A function that is defined elsewhere. -/
  | prototype (function : FunctionTerm)
  /-- A block of variables, with the name of the whole if it has one. -/
  | block (qualifiers : List Qualifier) (name : String) (members : List MemberTerm)
      (whole : Option (String × SizeTerms))
  /-- Qualifiers for a variable that is declared before. -/
  | requalify (qualifiers : List Qualifier) (name : String)
  /-- Qualifiers of the stage itself. -/
  | stage (qualifiers : List Qualifier)
  /-- The default precision of a type, which changes nothing. -/
  | precision (type : TypeTerm)

/-- What ends a loop. -/
inductive LoopCondition
  | always
  | value (value : Expr)
  /-- A variable that is declared for a turn of the loop. -/
  | declare (qualifiers : List Qualifier) (type : TypeTerm) (name : String) (value : Initializer)

mutual

/-- A statement. -/
inductive Stmt
  | empty
  | declare (declaration : Declaration)
  | evaluate (value : Expr)
  | block (body : List Stmt)
  | branch (condition : Expr) (accept : Stmt) (reject : Option Stmt)
  | whileLoop (condition : Expr) (body : Stmt)
  | doLoop (body : Stmt) (condition : Expr)
  | forLoop (first : Stmt) (condition : LoopCondition) (next : Option Expr) (body : Stmt)
  | select (value : Expr) (cases : List CaseTerm)
  | giveBack (value : Option Expr)
  | leave
  | continueLoop
  | discard

/-- A case of a switch: its label (none for `default`) and what follows it. -/
inductive CaseTerm
  | mk (label : Option Expr) (body : List Stmt)

end

instance : Inhabited Stmt := ⟨.empty⟩

/-- What stands at the top of a text. -/
inductive TopTerm
  | declare (declaration : Declaration)
  | function (function : FunctionTerm) (body : List Stmt)
  /-- A semicolon. -/
  | empty

end ShaderCheck.Glsl
