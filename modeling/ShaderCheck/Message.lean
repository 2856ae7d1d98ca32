/-
**Errors and log records.**

An error names what could not be done, followed by what stood in its way, each cause after what it
caused. A log record is told while a check works, with its level.

* `ErrorChain.text`: an error on one line;
* `ErrorChain.report`: for a terminal, causes indented and, if there are several, numbered;
* `LogRecord`: what is told, and how grave it is.
-/

namespace ShaderCheck

/-! ### Errors with their causes -/

/-- What failed, and the causes from the nearest to the last. -/
structure ErrorChain where
  outermost : String
  causes : List String
deriving DecidableEq, Repr, Inhabited

namespace ErrorChain

/-- An error without further cause. -/
def ofMessage (message : String) : ErrorChain := ⟨message, []⟩

/-- The error and its causes on one line. -/
def text (chain : ErrorChain) : String :=
  ": ".intercalate (chain.outermost :: chain.causes)

/-- The text with `indent` before each of its lines but the first. -/
def indentFollowing (indent text : String) : String :=
  String.ofList (text.toList.flatMap fun c => if c = '\n' then c :: indent.toList else [c])

/-- One cause of several, with its number in a field of five places. -/
def numberedCause (number : Nat) (cause : String) : String :=
  let digits := toString number
  String.ofList (List.replicate (5 - digits.length) ' ') ++ digits ++ ": " ++
    indentFollowing "       " cause

/-- The causes as a terminal shows them. -/
def causeLines : List String → List String
  | [] => []
  | [cause] => ["    " ++ indentFollowing "    " cause]
  | causes => causes.mapIdx numberedCause

/-- The error as a terminal shows it. -/
def report (chain : ErrorChain) : String :=
  match chain.causes with
  | [] => "Error: " ++ chain.outermost ++ "\n"
  | causes =>
    "Error: " ++ chain.outermost ++ "\n\nCaused by:\n" ++ "\n".intercalate (causeLines causes) ++ "\n"

end ErrorChain

/-! ### Log records -/

/-- How grave a record is. -/
inductive LogLevel
  | error
  | warn
  | info
  | debug
deriving DecidableEq, Repr

/-- One record of the log. -/
structure LogRecord where
  level : LogLevel
  text : String
deriving DecidableEq, Repr

end ShaderCheck
