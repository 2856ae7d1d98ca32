/-
**Declarations.**

What a declaration adds to a program: variables, outside of routines or in one, blocks of variables,
functions that are defined elsewhere, and what the stage itself is told. The qualifiers of a declaration
are gathered and each is used up where it has a meaning. What is left over when a variable is declared has
none, and the declaration does not fit.

What a stage reads from the stage before it, or writes for the next one, lies at numbered locations. An
array or a structure lies at as many as it has parts, counting up. Other values are known to the machine
that runs the stage.

* `Ty.slots`: the locations of a type, counted from zero, and what lies there;
* `Interface.add`: an interface with one more variable;
* `Interface.isValid`: whether a stage can have an interface as its inputs, or its outputs;
* `Build.gather`: qualifiers put together;
* `Build.takeNumber`, `Build.takeFlag`: entries of a `layout` used up;
* `Build.declare`: what a declaration adds;
* `Build.buildFunction`, `Build.defineFunction`: functions.
-/

import ShaderCheck.Compiler
import ShaderCheck.Glsl.Program
import ShaderCheck.Glsl.Value

namespace ShaderCheck.Glsl

/-! ### Locations -/

/-- A part of a value that lies at a location. -/
structure Slot where
  location : Nat
  interpolation : Option Interpolation
  type : Ty
deriving DecidableEq, Repr

/-- The slot so many locations further on. -/
def Slot.shift (offset : Nat) (slot : Slot) : Slot :=
  { slot with location := slot.location + offset }

namespace Ty

/-- The way in which a value is interpolated if nothing is said: numbers with a fraction smoothly. -/
def defaultInterpolation? (type : Ty) : Option Interpolation :=
  type.scalar?.map fun scalar => if scalar.isFloating then .smooth else .flat

/-- The slots of a type, those of records being known. Parts are interpolated as their own types are. -/
def slots (recordSlots : Array (List Slot)) (interpolation : Option Interpolation) :
    Ty → List Slot
  | .array element (some size) _ =>
    let parts := element.slots recordSlots element.defaultInterpolation?
    (List.range size).flatMap fun place => parts.map (Slot.shift place)
  | .record place => (recordSlots[place]?).getD []
  | type => [⟨0, interpolation, type⟩]

end Ty

/-- The slots of a record: its members lie one after the other, each as if it took one location. -/
def Record.slots (recordSlots : Array (List Slot)) (record : Record) : List Slot :=
  record.members.zipIdx.flatMap fun (member, place) =>
    (member.type.slots recordSlots member.type.defaultInterpolation?).map (Slot.shift place)

/-- The slots of records, each of which has only earlier ones as its members. -/
def recordSlots (records : Array Record) : Array (List Slot) :=
  records.foldl (fun known record => known.push (record.slots known)) #[]

namespace Slot

/-- Whether the value is a number or a vector; a truth value alone is not handed on. -/
def isPassable (slot : Slot) : Bool :=
  match slot.type with
  | .vector .bool 1 => false
  | .vector .. => true
  | _ => false

/-- Whether the value can be interpolated as it is said: only numbers with a fraction change between
corners, and of them it has to be said how. -/
def isInterpolable (slot : Slot) : Bool :=
  if slot.type.scalar?.any Scalar.isFloating then slot.interpolation.isSome
  else slot.interpolation = some .flat

end Slot

/-! ### Values that the machine knows -/

namespace Builtin

/-- The kind of stage that reads a value, or writes it. -/
def stage : Builtin → ShaderKind × Bool
  | position | pointSize | clipDistance | cullDistance => (.vertex, true)
  | baseVertex | baseInstance | instanceIndex | vertexIndex => (.vertex, false)
  | fragmentCoordinate | pointCoordinate | frontFacing | primitive | sampleIndex =>
    (.fragment, false)
  | fragmentDepth => (.fragment, true)
  | globalInvocation | groupCount | groupSize | group | localInvocation | localInvocationIndex =>
    (.compute, false)

end Builtin

/-! ### Interfaces -/

/-- What gets into a stage, or out of it. -/
structure Interface where
  builtins : List Builtin
  slots : List Slot
deriving DecidableEq, Repr

namespace Interface

/-- Nothing gets into a stage or out of it. -/
def empty : Interface := ⟨[], []⟩

/-- An interface with one more value. -/
def add (recordSlots : Array (List Slot)) (interface : Interface) (binding : Binding) (type : Ty) :
    Interface :=
  match binding with
  | .builtin builtin => { interface with builtins := interface.builtins ++ [builtin] }
  | .location location interpolation =>
    let slots := (type.slots recordSlots interpolation).map (Slot.shift location)
    { interface with slots := interface.slots ++ slots }

/-- The locations of what gets into a stage or out of it. -/
def locations (interface : Interface) : List Nat :=
  interface.slots.map (·.location)

/-- The values that get into a stage, or out of it, each handed over by itself. -/
def values (interface : Interface) : List StageValue :=
  interface.builtins.map (fun _ => .value (some .builtin) []) ++
    interface.slots.map fun slot => .value (some (.location slot.location)) []

/-- Whether values are interpolated on their way out of, or into, a kind of stage. -/
def interpolates (kind : ShaderKind) (isOutput : Bool) : Bool :=
  match kind with
  | .vertex => isOutput
  | .fragment => !isOutput
  | .compute => false

/-- Whether a stage can have an interface as its outputs, or else its inputs: each value can be handed
on, and no two lie at one location. A vertex stage tells its position. -/
def isValid (kind : ShaderKind) (isOutput : Bool) (interface : Interface) : Bool :=
  interface.builtins.all (fun builtin => builtin.stage = (kind, isOutput)) &&
    interface.builtins.Nodup &&
    (!(kind = .vertex && isOutput) || interface.builtins.contains .position) &&
    interface.slots.all Slot.isPassable && interface.locations.Nodup &&
    (!interpolates kind isOutput || interface.slots.all Slot.isInterpolable)

end Interface

/-! ### Qualifiers -/

/-- The qualifiers of a declaration that are not used up. -/
structure Qualification where
  isInvariant : Bool
  interpolation : Option Interpolation
  isSampled : Bool
  storage : Option Storage
  isPrecise : Bool
  access : Option Access
  layout : Option BlockLayout
  format : Option String
  /-- Other entries of a `layout`, the last one first. -/
  entries : List (String × Option Nat)

namespace Qualification

/-- No qualifiers. -/
def empty : Qualification := ⟨false, none, false, none, false, none, none, none, []⟩

/-- Whether no qualifier is left over; the storage and the precision never are. -/
def isUsedUp (set : Qualification) : Bool :=
  !set.isInvariant && set.interpolation.isNone && !set.isSampled && set.access.isNone &&
    set.layout.isNone && set.format.isNone && set.entries.isEmpty

/-- What may be done with stored values after one more qualifier, which is not said twice. -/
def restrict? (access : Option Access) (allowed : Access) : Option Access :=
  let before := access.getD .all
  if before.includes ⟨!allowed.load, !allowed.store⟩ then
    some ⟨before.load && allowed.load, before.store && allowed.store⟩
  else none

end Qualification

namespace Build

/-- Adds an entry of a `layout`, in place of an earlier one of its name. -/
def addEntry (set : Qualification) (entry : String × Option Expr) : Build Qualification := do
  match entry with
  | ("std140", _) => return { set with layout := some .std140 }
  | ("std430", _) => return { set with layout := some .std430 }
  | (name, value?) =>
    if (imageFormats.lookup name).isSome then return { set with format := some name }
    else
      let number? ← value?.mapM sizeOf
      return { set with entries := (name, number?) :: set.entries.filter (·.1 ≠ name) }

/-- Adds a qualifier to those before it; most are not said twice. -/
def addQualifier (set : Qualification) (qualifier : Qualifier) : Build Qualification := do
  match qualifier with
  | .invariant =>
    guard !set.isInvariant
    return { set with isInvariant := true }
  | .interpolation how =>
    guard set.interpolation.isNone
    return { set with interpolation := some how }
  | .sampling =>
    guard !set.isSampled
    return { set with isSampled := true }
  | .storage storage =>
    guard set.storage.isNone
    return { set with storage := some storage }
  | .precision =>
    guard !set.isPrecise
    return { set with isPrecise := true }
  | .memory allowed =>
    return { set with access := some (← orFail (Qualification.restrict? set.access allowed)) }
  | .restrict => return set
  | .layout entries => entries.foldlM addEntry set

/-- Qualifiers put together. -/
def gather (qualifiers : List Qualifier) : Build Qualification :=
  qualifiers.foldlM addQualifier .empty

/-- Uses up an entry of a `layout` that has a number. -/
def takeNumber (name : String) (set : Qualification) : Build (Option Nat × Qualification) := do
  let rest := { set with entries := set.entries.filter (·.1 ≠ name) }
  match set.entries.lookup name with
  | none => return (none, set)
  | some none => failure
  | some (some number) => return (some number, rest)

/-- Uses up an entry of a `layout` that has no number. -/
def takeFlag (name : String) (set : Qualification) : Build (Bool × Qualification) := do
  let rest := { set with entries := set.entries.filter (·.1 ≠ name) }
  match set.entries.lookup name with
  | none => return (false, set)
  | some none => return (true, rest)
  | some (some _) => failure

/-! ### First values -/

/-- The type of the part at a position of a value that is made part by part. -/
def partType (type : Ty) (position : Nat) : Build Ty := do
  match type with
  | .vector scalar _ => return .vector scalar 1
  | .matrix scalar _ rows => return .vector scalar rows
  | .array element _ _ => return element
  | .record place =>
    let record ← orFail (← program).records[place]?
    return ((record.members[position]?).map (·.type)).getD type
  | _ => return type

mutual

/-- The node for the value that a variable of a type begins with. -/
def firstValue (type : Ty) : Initializer → Build Nat
  | .value expression => do widenTo type (← value expression)
  | .parts parts => do addNode (.compose type (← firstParts type 0 parts))

/-- The nodes for the parts of a value, from some position on. -/
def firstParts (type : Ty) (position : Nat) : List Initializer → Build (List Nat)
  | [] => return []
  | first :: rest => do
    let first ← firstValue (← partType type position) first
    return first :: (← firstParts type (position + 1) rest)

end

/-! ### Global variables -/

/-- Adds a variable that a stage reads from the one before it or writes for the next one. -/
def addPassed (set : Qualification) (type : Ty) (value : Option Nat) (isOutput : Bool) :
    Build (Qualification × GlobalTarget) := do
  let (location, set) ← takeNumber "location" set
  let interpolation := set.interpolation <|> type.defaultInterpolation?
  let place ← addGlobal ⟨type, .run, none, value⟩
  addPassage ⟨.location (location.getD 0) interpolation, place, isOutput⟩
  return ({ set with interpolation := none, isSampled := false }, .whole place)

/-- Where a variable that is declared as uniform lives, and its type: images and samplers are named, and
an image that is stored to has a format. -/
def uniformSpace (set : Qualification) (type : Ty) : Build (Qualification × Ty × Space) := do
  match type with
  | .image form =>
    match form.content with
    | .stored _ access =>
      let format ← orFail set.format
      let content : ImageClass := .stored format (set.access.getD access)
      return ({ set with format := none, access := none }, .image { form with content }, .handle)
    | _ => return (set, type, .handle)
  | .sampler _ => return (set, type, .handle)
  | _ =>
    let (isPushed, set) ← takeFlag "push_constant" set
    return (set, type, if isPushed then .push else .uniform)

/-- Where a variable lives, and its type. -/
def spaceOf (set : Qualification) (type : Ty) : Build (Qualification × Ty × Space) := do
  match set.storage with
  | some .uniform => uniformSpace set type
  | some .buffer => return ({ set with access := none }, type, .storage (set.access.getD .all))
  | some .shared => return (set, type, .group)
  | _ => return (set, type, .run)

/-- The group and the number that a variable is handed over with. -/
def bindingOf (set : Qualification) (space : Space) :
    Build (Qualification × Option (Nat × Nat)) := do
  match space with
  | .uniform | .storage _ | .handle =>
    let (number, set) ← takeNumber "binding" set
    let (group, set) ← takeNumber "set" set
    return (set, some (group.getD 0, ← orFail number))
  | _ => return (set, none)

/-- Adds a variable outside of routines, with a first value if it has one. -/
def addDeclared (set : Qualification) (type : Ty) (value : Option Nat) :
    Build (Qualification × GlobalTarget) := do
  match set.storage with
  | some .input => addPassed set type value false
  | some .output => addPassed set type value true
  | some .const =>
    let place := (← program).constants.size
    let constant : Constant := ⟨type, ← orFail value⟩
    modifyProgram fun program => { program with constants := program.constants.push constant }
    return (set, .constant place)
  | _ =>
    let (set, type, space) ← spaceOf set type
    let (set, binding) ← bindingOf set space
    useType type
    return (set, .whole (← addGlobal ⟨type, space, binding, value⟩))

/-- Whether a variable that is declared outside of routines can be written. -/
def isWritable (set : Qualification) : Bool :=
  !(set.storage = some .input || set.storage = some .const)

/-- Declares a variable outside of routines; no qualifier is left over. -/
def declareGlobal (set : Qualification) (type : Ty) (name : Option String) (value : Option Nat) :
    Build (Qualification × GlobalTarget) := do
  let (rest, target) ← addDeclared set type value
  match name with
  | some name => addName ⟨name, target, isWritable set⟩
  | none => pure ()
  guard rest.isUsedUp
  return (rest, target)

/-- Declares a variable of a call, and gives its node; its name is new in its scope. -/
def declareLocal (set : Qualification) (type : Ty) (name : String) (value : Option Nat) :
    Build Nat := do
  guard (set.storage = none || set.storage = some .const)
  let node ← addLocal type value
  guard (← addScopedName name ⟨node, true, set.storage.isNone, none⟩)
  guard set.isUsedUp
  return node

/-- Declares a variable, and gives the qualifiers that are left for the next one and its node. -/
def declareVariable (isTop : Bool) (set : Qualification) (type : Ty) (name : String)
    (value : Option Nat) : Build (Qualification × Nat) := do
  if isTop then
    let (set, target) ← declareGlobal set type (some name) value
    match target with
    | .constant place => return (set, ← addNode (.constant place))
    | .whole place | .member place _ => return (set, ← addNode (.globalVariable place))
  else return (set, ← declareLocal set type name value)

/-- Declares a variable with what it begins with: a constant if it is outside of routines and the value is
constant, or else a value that is stored there. A constant outside of routines begins with a constant. -/
def declareDeclarator (isTop : Bool) (set : Qualification) (type : Ty) (declarator : Declarator) :
    Build (Qualification × Ty) := do
  let type ← understandSizes type declarator.sizes
  let value? ← declarator.value.mapM fun first => do widenTo type (← firstValue type first)
  let constant? ←
    match value? with
    | some value => if isTop then solve value else pure none
    | none => pure none
  if isTop && set.storage = some .const then guard constant?.isSome
  let (set, node) ← declareVariable isTop set type declarator.name constant?
  match value?, constant? with
  | some value, none => addStepAfterNodes (.store node value)
  | _, _ => pure ()
  return (set, type)

/-! ### Blocks -/

/-- Declares a block of variables. Its members are known by their names, also if the whole has one. -/
def declareBlock (qualifiers : List Qualifier) (name : String) (members : List MemberTerm)
    (whole : Option (String × SizeTerms)) : Build Unit := do
  let set ← gather qualifiers
  let layout := set.layout.getD (if set.storage = some .buffer then .std430 else .std140)
  let row ← understandMembers layout .empty members
  let record := row.record (← program).records name
  let type ← addRecordType record
  let type ←
    match whole with
    | some (_, sizes) => understandSizes type sizes
    | none => pure type
  let (_, target) ← declareGlobal { set with layout := none } type (whole.map Prod.fst) none
  for (member, position) in record.members.zipIdx do
    match target with
    | .whole place | .member place _ => addName ⟨member.name, .member place position, true⟩
    | .constant place => addName ⟨member.name, .constant place, true⟩

/-! ### Functions -/

/-- Adds a parameter to the routine that is built. A value that may be changed is copied to a variable of
the call. -/
def declareParameter (parameter : ParameterTerm) : Build Unit := do
  let type ← orFail (← understandType parameter.type)
  let type ← understandSizes type parameter.sizes
  let place := (← routine).arguments.length
  let isOpaque := match type with | .image _ | .sampler _ => true | _ => false
  let passed : Ty := if parameter.passing.isPlace then .pointer type .call else type
  useType passed
  modifyRoutine fun routine =>
    { routine with
      arguments := routine.arguments ++ [passed]
      parameters := routine.parameters ++ [⟨type, parameter.passing, false⟩] }
  match parameter.name with
  | none => pure ()
  | some name =>
    let node ← addNode (.argument place)
    let isWritable := parameter.passing ≠ .const && !isOpaque
    if isWritable && !parameter.passing.isPlace then
      let copy ← addLocal type none
      addStepAfterNodes (.store copy node)
      discard (addScopedName name ⟨copy, true, true, none⟩)
    else discard (addScopedName name ⟨node, parameter.passing.isPlace, isWritable, none⟩)

/-- Whether two lists of parameters are of the same types. -/
def sameParameters (records : Array Record) (first second : List Parameter) : Bool :=
  first.length = second.length &&
    (first.zip second).all fun (left, right) => Ty.isSame records left.type right.type

/-- The functions of a name before one with parameters is declared. -/
def groupBefore (name : String) (parameters : List Parameter) : Build FunctionGroup :=
  groupOf name (parameters.any fun parameter => hasDoubles parameter.type)

/-- Replaces the functions of a name. -/
def setGroup (name : String) (group : FunctionGroup) : Build Unit :=
  modify fun state =>
    { state with functions := (name, group) :: state.functions.filter (·.1 ≠ name) }

/-- Adds a routine, and gives its place. -/
def addRoutine (added : Routine) : Build Nat := do
  let place := (← program).routines.size
  modifyProgram fun program => { program with routines := program.routines.push added }
  return place

/-- Declares a function that is defined elsewhere; there is none of its name and parameters. -/
def declarePrototype (name : String) (parameters : List Parameter) (added : Routine) :
    Build Unit := do
  let group ← groupBefore name parameters
  let records := (← program).records
  guard <| group.overloads.all fun overload => !sameParameters records overload.parameters parameters
  let place ← addRoutine added
  setGroup name { group with
    overloads := group.overloads ++ [⟨parameters, .routine place, false, false, added.result.isNone⟩] }

/-- Defines a function, in place of one that is declared or needs no declaration. -/
def defineFunction (name : String) (parameters : List Parameter) (added : Routine) : Build Unit := do
  let group ← groupBefore name parameters
  let records := (← program).records
  let same (overload : Overload) : Bool := sameParameters records overload.parameters parameters
  match group.overloads.findIdx? same with
  | none =>
    let place ← addRoutine added
    setGroup name { group with
      overloads := group.overloads ++ [⟨parameters, .routine place, true, false, added.result.isNone⟩] }
  | some position =>
    let overload ← orFail group.overloads[position]?
    guard !overload.isDefined
    let place ←
      match overload.callee with
      | .routine place =>
        modifyProgram fun program => { program with routines := program.routines.set! place added }
        pure place
      | .intrinsic _ => addRoutine added
    let passed := (overload.parameters.zip parameters).map fun (old, new) => { new with type := old.type }
    let defined : Overload :=
      { overload with parameters := passed, callee := .routine place, isDefined := true }
    setGroup name { group with overloads := group.overloads.set position defined }

/-- Builds a function with a body, if it has one, as a routine. -/
def buildFunction (function : FunctionTerm) (body : Build Unit) :
    Build (List Parameter × Routine) := do
  discard (gather function.qualifiers)
  let result ← understandType function.result
  let (inner, _) ← apart enterNames do
    function.parameters.forM declareParameter
    body
    flush
  let steps := inner.body.reverse
  return (inner.parameters, ⟨inner.arguments, result, inner.locals, inner.nodes, steps⟩)

/-! ### All declarations -/

/-- Tells the stage itself the size of its work groups and when fragments are tested. -/
def declareStage (set : Qualification) : Build Unit := do
  let (x, set) ← takeNumber "local_size_x" set
  let (y, set) ← takeNumber "local_size_y" set
  let (z, set) ← takeNumber "local_size_z" set
  let (testsEarly, set) ← takeFlag "early_fragment_tests" set
  guard set.isUsedUp
  modifyProgram fun program =>
    { program with
      groupSize := (program.groupSize.zip [x, y, z]).map fun (old, new) => new.getD old
      testsEarly := program.testsEarly || testsEarly }

/-- Whether the default precision of a type can be set. -/
def hasPrecision (type : Ty) : Bool :=
  type = .float || type = .int || type = .vector .double 1

/-- What a declaration adds to a program, at the top of a text or among statements. -/
def declare (isTop : Bool) (declaration : Declaration) : Build Unit := do
  match declaration with
  | .variables qualifiers type declarators =>
    let set ← gather qualifiers
    let type ← orFail (← understandType type)
    discard <| declarators.foldlM
      (fun (set, type) declarator => declareDeclarator isTop set type declarator) (set, type)
  | .prototype function =>
    let (parameters, added) ← buildFunction function (pure ())
    declarePrototype function.name parameters { added with locals := #[], nodes := #[], body := [] }
  | .block qualifiers name members whole => declareBlock qualifiers name members whole
  | .requalify qualifiers name =>
    let set ← gather qualifiers
    guard set.isInvariant
    discard (reference? name)
    guard { set with isInvariant := false }.isUsedUp
  | .stage qualifiers => declareStage (← gather qualifiers)
  | .precision type => guard (hasPrecision (← orFail (← understandType type)))

end Build

end ShaderCheck.Glsl
