/-
**Statements.**

What a statement adds to the routine that is built. A statement that leaves its block ends it: steps
that follow are left out. A loop ends where the negation of its condition leaves it.

* `Build.state`: what a statement adds;
* `Build.addTop`: what stands at the top of a text.
-/

import ShaderCheck.Glsl.Declaration

namespace ShaderCheck.Glsl

namespace Build

/-- The number of steps that are kept of a block, if one leaves it: no more than so far. -/
def leaveHere (kept : Option Nat) : Build (Option Nat) := do
  match kept with
  | some count => return some count
  | none => return some (← stepCount)

/-- Adds a step that leaves the block. -/
def addLeaving (kept : Option Nat) (step : Step) : Build (Option Nat) := do
  addStep step
  leaveHere kept

/-- Adds a block, which leaves the one around it if a step in it does. -/
def addBlock (kept : Option Nat) (steps : List Step) (leaves : Bool) : Build (Option Nat) := do
  addStep (.block steps)
  if leaves then leaveHere kept else return kept

/-- Leaves out the steps after one that leaves the block. -/
def cut (kept : Option Nat) : Build Unit :=
  kept.elim (pure ()) keepSteps

/-- Builds in a scope of its own; steps after one that leaves it are left out. -/
def closing (build : Build (Option Nat)) : Build (Option Nat) :=
  inScope do
    let leaves ← build
    cut leaves
    return leaves

/-- Leaves a loop unless a value holds. -/
def leaveUnless (value : Nat) : Build Unit := do
  let negated ← addNode (.unary .not value)
  addStepAfterNodes (.branch negated [.leave] [])

/-- The condition of a loop, at its beginning. -/
def loopCondition (condition : LoopCondition) : Build Unit := do
  match condition with
  | .always => pure ()
  | .value condition => leaveUnless (← value condition)
  | .declare qualifiers type name first =>
    let set ← gather qualifiers
    let type ← orFail (← understandType type)
    let first ← firstValue type first
    let node ← declareLocal set type name none
    addStepAfterNodes (.store node first)
    leaveUnless first

/-- The label of a case of a choice by a value, which has a sign or not. What it does besides is done
before the choice. -/
def caseLabel (unsigned : Bool) (label : Expr) : Build Literal := do
  let place ← orFail (← solve (← value label))
  match (← program).constantNodes[place]? with
  | some (.literal (.int value)) =>
    return if unsigned then .uint (Literal.wrapUint value) else .int value
  | some (.literal (.uint value)) => return .uint value
  | _ => failure

/-- The steps of a case, of which those after one that leaves it are left out, and whether the next case
is done after it; a break at its end is left out as well. -/
def endCase (kept : Option Nat) : Build Bool := do
  match kept with
  | none => return true
  | some count =>
    keepSteps count
    match (← routine).body with
    | .leave :: _ =>
      keepSteps (count - 1)
      return false
    | _ => return true

/-- The cases of a choice as they are kept: the last one does something, no case is done after it, and
there is one for all other values. -/
def completeCases (cases : List Case) (hasDefault : Bool) : Build (List Case) := do
  let cases ←
    match cases.reverse with
    | .mk _ [] true :: _ => failure
    | .mk label body _ :: earlier => pure (Case.mk label body false :: earlier).reverse
    | [] => pure []
  return if hasDefault then cases else cases ++ [.mk none [] false]

mutual

/-- What a statement adds. The number of steps that are kept of its block is known if one before it
leaves the block, and is given for the ones after it. -/
def state (kept : Option Nat) : Stmt → Build (Option Nat)
  | .empty => return kept
  | .declare declaration => do
    declare false declaration
    return kept
  | .evaluate expression => do
    discard (value? expression)
    return kept
  | .block body => do
    let (steps, leaves) ← newBody (closing (stateAll none body))
    addBlock kept steps leaves.isSome
  | .branch condition accept reject => do
    let condition ← value condition
    let (accept, _) ← newBody (state none accept)
    let (reject, _) ← newBody (stateOption reject)
    addStep (.branch condition accept reject)
    return kept
  | .whileLoop condition body => do
    let (steps, _) ← newBody do
      leaveUnless (← value condition)
      state none body
    addStep (.loop steps [])
    return kept
  | .doLoop body condition => do
    let (steps, _) ← newBody do
      let leaves ← state none body
      leaveUnless (← value condition)
      cut leaves
    addStep (.loop steps [])
    return kept
  | .forLoop first condition next body => do
    inScope do
      discard (state none first)
      let (head, _) ← newBody (loopCondition condition)
      let (continuing, _) ← newBody do discard (next.mapM value?)
      let (steps, _) ← withBody head (state none body)
      addStep (.loop steps continuing)
    return kept
  | .select selector cases => do
    let selector ← value selector
    let unsigned := (← typeOf selector).scalar? = some .uint
    flush
    let (cases, hasDefault) ← stateCases unsigned cases
    addStep (.select selector (← completeCases cases hasDefault))
    return kept
  | .giveBack expression => do
    let result ← expression.mapM value
    addStepAfterNodes (.giveBack result)
    leaveHere kept
  | .leave => addLeaving kept .leave
  | .continueLoop => addLeaving kept .continueLoop
  | .discard => addLeaving kept .discard

/-- What a statement adds, if there is one. -/
def stateOption : Option Stmt → Build (Option Nat)
  | none => return none
  | some statement => state none statement

/-- What statements add, one after the other. -/
def stateAll (kept : Option Nat) : List Stmt → Build (Option Nat)
  | [] => return kept
  | first :: rest => do stateAll (← state kept first) rest

/-- The cases of a choice, and whether there is one for all other values. -/
def stateCases (unsigned : Bool) : List CaseTerm → Build (List Case × Bool)
  | [] => return ([], false)
  | .mk label body :: rest => do
    let label ← label.mapM (caseLabel unsigned)
    let (steps, goesOn) ← newBody do endCase (← stateAll none body)
    let (others, hasDefault) ← stateCases unsigned rest
    return (.mk label steps goesOn :: others, label.isNone || hasDefault)

end

/-! ### The top of a text -/

mutual

/-- Steps that go back at their end, if they come there. -/
def returning : List Step → List Step
  | [] => [.giveBack none]
  | [last] => returningStep last
  | first :: rest => first :: returning rest

/-- A last step, with one after it that goes back if it can come to its end; in nodes that are worked out
last there is none. -/
def returningStep : Step → List Step
  | .block body => [.block (returning body)]
  | .branch condition accept reject => [.branch condition (returning accept) (returning reject)]
  | .select selector cases => [.select selector (returningCases cases)]
  | .work first last => [.work first last]
  | .leave => [.leave]
  | .continueLoop => [.continueLoop]
  | .giveBack value => [.giveBack value]
  | .discard => [.discard]
  | step => [step, .giveBack none]

/-- Cases that go back at their end, unless the next one is done after them. -/
def returningCases : List Case → List Case
  | [] => []
  | .mk label body true :: rest => .mk label body true :: returningCases rest
  | .mk label body false :: rest => .mk label (returning body) false :: returningCases rest

end

/-- What stands at the top of a text; a semicolon alone may stand there from version 460 on. -/
def addTop (term : TopTerm) : Build Unit := do
  match term with
  | .empty => guard ((← get).version = 460)
  | .declare declaration => declare true declaration
  | .function function body =>
    let (parameters, added) ← buildFunction function do discard (closing (stateAll none body))
    defineFunction function.name parameters { added with body := returning added.body }

end Build

end ShaderCheck.Glsl
