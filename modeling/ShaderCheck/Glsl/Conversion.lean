/-
**Names and conversions.**

A name stands for what is declared last in the innermost scope that knows it. The outermost scope of a
routine holds what is declared outside of routines. Some variables need no declaration: they are there
once they are named.

Numbers become numbers of a higher rank where those are expected, and scalars become vectors. A value
of a type can also be made of others: vectors and matrices of their components, arrays and structures
of their parts.

* `Build.reference?`: what a name stands for;
* `Build.addName`, `Build.addScopedName`: names that are declared;
* `Build.widen`, `Build.widenBoth`: conversions that are not asked for;
* `Build.construct`: a value of a type made of others.
-/

import ShaderCheck.Glsl.Build

namespace ShaderCheck.Glsl

/-! ### What names stand for -/

/-- A variable that needs no declaration. -/
structure BuiltinVariable where
  builtin : Builtin
  type : Ty
  isOutput : Bool
  isWritable : Bool

/-- The variables that need no declaration. -/
def builtinVariables : List (String × BuiltinVariable) :=
  [("gl_Position", ⟨.position, .vector .float 4, true, true⟩),
    ("gl_FragCoord", ⟨.fragmentCoordinate, .vector .float 4, false, false⟩),
    ("gl_PointCoord", ⟨.pointCoordinate, .vector .float 2, false, false⟩),
    ("gl_GlobalInvocationID", ⟨.globalInvocation, .vector .uint 3, false, false⟩),
    ("gl_NumWorkGroups", ⟨.groupCount, .vector .uint 3, false, false⟩),
    ("gl_WorkGroupSize", ⟨.groupSize, .vector .uint 3, false, false⟩),
    ("gl_WorkGroupID", ⟨.group, .vector .uint 3, false, false⟩),
    ("gl_LocalInvocationID", ⟨.localInvocation, .vector .uint 3, false, false⟩),
    ("gl_FrontFacing", ⟨.frontFacing, .bool, false, false⟩),
    ("gl_PointSize", ⟨.pointSize, .float, true, true⟩),
    ("gl_FragDepth", ⟨.fragmentDepth, .float, true, true⟩),
    ("gl_ClipDistance", ⟨.clipDistance, .array .float none 4, true, false⟩),
    ("gl_CullDistance", ⟨.cullDistance, .array .float none 4, true, false⟩),
    ("gl_BaseVertex", ⟨.baseVertex, .uint, false, false⟩),
    ("gl_BaseInstance", ⟨.baseInstance, .uint, false, false⟩),
    ("gl_PrimitiveID", ⟨.primitive, .uint, false, false⟩),
    ("gl_InstanceIndex", ⟨.instanceIndex, .uint, false, false⟩),
    ("gl_VertexIndex", ⟨.vertexIndex, .uint, false, false⟩),
    ("gl_SampleID", ⟨.sampleIndex, .uint, false, false⟩),
    ("gl_LocalInvocationIndex", ⟨.localInvocationIndex, .uint, false, false⟩)]

/-- Whether a global variable is a block with an array without a size at a position. -/
def Program.isUnsizedMember (program : Program) (place position : Nat) : Bool :=
  match program.globals[place]? with
  | some ⟨.record record, _, _, _⟩ =>
    match (program.records[record]?).bind (·.members[position]?) with
    | some ⟨_, .array _ none _, _⟩ => true
    | _ => false
  | _ => false

namespace Build

/-- Gives a name a meaning in the outermost scope. -/
def addRootName (name : String) (reference : Reference) : Build Unit :=
  modifyRoutine fun routine =>
    let inner := routine.scopes.dropLast
    let root := (routine.scopes.getLast?).getD []
    { routine with scopes := inner ++ [(name, reference) :: root] }

/-- Gives a name a meaning in the innermost scope, and tells whether it had none there. -/
def addScopedName (name : String) (reference : Reference) : Build Bool := do
  match (← routine).scopes with
  | [] => failure
  | inner :: outer =>
    modifyRoutine fun routine => { routine with scopes := ((name, reference) :: inner) :: outer }
    return (inner.lookup name).isNone

/-- What a name that all routines know stands for in the routine that is built. -/
def referenceOf (target : GlobalTarget) (isWritable : Bool) : Build Reference := do
  match target with
  | .whole place =>
    let found ← orFail (← program).globals[place]?
    let node ← addNode (.globalVariable place)
    return ⟨node, found.space ≠ .handle, isWritable, none⟩
  | .member place position =>
    let whole ← addNode (.globalVariable place)
    let node ← addNode (.accessAt whole position)
    return ⟨node, !(← program).isUnsizedMember place position, isWritable, none⟩
  | .constant place =>
    let constant ← orFail (← program).constants[place]?
    let node ← addNode (.constant place)
    return ⟨node, false, isWritable, some constant⟩

/-- Makes a name that all routines know known to the routine that is built, in the innermost scope. What it
stood for there is forgotten. -/
def enterName (entry : GlobalName) : Build Unit := do
  discard (addScopedName entry.name (← referenceOf entry.target entry.isWritable))

/-- Makes all names known that all routines know. -/
def enterNames : Build Unit := do
  for entry in (← get).names do enterName entry

/-- Makes a name known to all routines, this one included. -/
def addName (entry : GlobalName) : Build Unit := do
  enterName entry
  modify fun state => { state with names := state.names ++ [entry] }

/-- Adds a global variable, and gives its place. -/
def addGlobal (added : GlobalVariable) : Build Nat := do
  let place := (← program).globals.size
  modifyProgram fun program => { program with globals := program.globals.push added }
  return place

/-- Adds a way for the value of a global variable into the stage or out of it. -/
def addPassage (passage : Passage) : Build Unit :=
  modify fun state => { state with passages := state.passages ++ [passage] }

/-- Adds a variable that needs no declaration. -/
def addBuiltin (name : String) (known : BuiltinVariable) : Build Reference := do
  useType known.type
  let place ← addGlobal ⟨known.type, .run, none, none⟩
  addPassage ⟨.builtin known.builtin, place, known.isOutput⟩
  modify fun state =>
    { state with names := state.names ++ [⟨name, .whole place, known.isWritable⟩] }
  let reference ← referenceOf (.whole place) known.isWritable
  addRootName name reference
  return reference

/-- What a name stands for, if anything. -/
def reference? (name : String) : Build (Option Reference) := do
  match (← routine).scopes.findSome? (·.lookup name) with
  | some reference => return some reference
  | none =>
    match builtinVariables.lookup name with
    | some known => return some (← addBuiltin name known)
    | none => return none

/-- Builds in a scope of its own. -/
def inScope {α : Type} (build : Build α) : Build α := do
  modifyRoutine fun routine => { routine with scopes := [] :: routine.scopes }
  let result ← build
  modifyRoutine fun routine => { routine with scopes := routine.scopes.tail }
  return result

/-! ### Conversions of values -/

/-- A value converted to other components. -/
def convert (scalar : Scalar) (value : Nat) : Build Nat :=
  addNode (.convert scalar value)

/-- A value converted to components of a higher rank, if its own are of a lower one. -/
def widen (scalar : Scalar) (value : Nat) : Build Nat := do
  match (← typeOf value).scalar? with
  | some source => if source.widensTo scalar then convert scalar value else return value
  | none => return value

/-- A value converted to the components of a type, if that has components of a higher rank. -/
def widenTo (type : Ty) (value : Nat) : Build Nat :=
  match type.scalar? with
  | some scalar => widen scalar value
  | none => return value

/-- Two values of which the one with components of a lower rank is converted. -/
def widenBoth (left right : Nat) : Build (Nat × Nat) := do
  match (← typeOf left).scalar?, (← typeOf right).scalar? with
  | some first, some second =>
    if first.widensTo second then return (← convert second left, right)
    else if second.widensTo first then return (left, ← convert first right)
    else return (left, right)
  | _, _ => return (left, right)

/-- A value converted to other components, whatever its own are. -/
def force (scalar : Scalar) (value : Nat) : Build Nat := do
  match (← typeOf value).scalar? with
  | some source => if source = scalar then return value else convert scalar value
  | none => return value

/-- A scalar as a vector, if a size is given; other values as they are. -/
def splat (size : Option Nat) (value : Nat) : Build Nat := do
  match size with
  | some size => if (← typeOf value).isScalar then addNode (.splat size value) else return value
  | none => return value

/-- A vector cut to its first components. -/
def resize (size vector : Nat) : Build Nat :=
  addNode (.swizzle size vector [0, 1, 2, 3])

/-- A literal. -/
def addLiteral (value : Literal) : Build Nat :=
  addNode (.literal value)

/-- The part of a value at a known position. -/
def part (base position : Nat) : Build Nat :=
  addNode (.accessAt base position)

/-! ### Values made of others -/

/-- The components of a value: those of a matrix column by column. -/
def componentsOf (value : Nat) : Build (List Nat) := do
  match ← typeOf value with
  | .vector _ 1 => return [value]
  | .vector _ size => (List.range size).mapM (part value)
  | .matrix _ columns rows =>
    let parts ← (List.range columns).mapM fun column => do
      let vector ← part value column
      (List.range rows).mapM (part vector)
    return parts.flatten
  | _ => return [value]

/-- The first components of values, converted, until there are enough of them. -/
def takeComponents (scalar : Scalar) (size : Nat) (values : List Nat) : Build (List Nat) := do
  let components ← values.foldlM
    (fun components value => do
      let converted ← force scalar value
      if size ≤ components.length then return components
      else return components ++ (← componentsOf converted))
    []
  return components.take size

/-- A vector made of the components of values. -/
def constructVector (scalar : Scalar) (size : Nat) (values : List Nat) : Build Nat := do
  addNode (.compose (.vector scalar size) (← takeComponents scalar size values))

/-- One of two values by truth values, as a value of other components. Those of double precision are made
as ones of single precision. -/
def constructFromTruth (scalar : Scalar) (size : Option Nat) (condition : Nat) : Build Nat := do
  let scalar := if scalar = .double then .float else scalar
  let reject ← addLiteral (.zero scalar)
  let accept ← addLiteral (← orFail (Literal.one? scalar))
  let reject ← splat size reject
  let accept ← splat size accept
  addNode (.select condition accept reject)

/-- The column of the unit matrix, or of another number in place of one. -/
def unitColumn (scalar : Scalar) (rows column naught one : Nat) : Build Nat :=
  addNode (.compose (.vector scalar rows)
    ((List.range rows).map fun row => if row = column then one else naught))

/-- The column of a matrix made of another one, of which parts that it lacks are those of the unit
matrix. -/
def resizedColumn (scalar : Scalar) (rows rows' value column naught one : Nat) : Build Nat := do
  let vector ← part value column
  if rows' < rows then
    let components ← (List.range rows).mapM fun row =>
      if row < rows' then part vector row else return if row = column then one else naught
    addNode (.compose (.vector scalar rows) components)
  else if rows' = rows then return vector
  else resize rows vector

/-- A matrix made of one value: a number along the diagonal, or another matrix. -/
def constructMatrix (scalar : Scalar) (columns rows : Nat) (value : Nat) : Build Nat := do
  let value ← force scalar value
  let parts ←
    match ← typeOf value with
    | .vector _ 1 =>
      let naught ← addLiteral (.zero scalar)
      (List.range columns).mapM fun column => unitColumn scalar rows column naught value
    | .matrix _ columns' rows' =>
      let naught ← addLiteral (.zero scalar)
      let one ← addLiteral (← orFail (Literal.one? scalar))
      (List.range columns).mapM fun column =>
        if column < columns' then resizedColumn scalar rows rows' value column naught one
        else unitColumn scalar rows column naught one
    | _ => pure (List.replicate columns value)
  addNode (.compose (.matrix scalar columns rows) parts)

/-- A value of a type made of one value. -/
def constructFromOne (type : Ty) (value : Nat) : Build Nat := do
  let source ← typeOf value
  let size := match source with | .vector _ 1 => none | .vector _ size => some size | _ => none
  match type.scalar? with
  | some scalar =>
    if source.scalar? = some .bool && scalar ≠ .bool then
      constructFromTruth scalar size value
    else
      match type, size with
      | .vector scalar 1, _ =>
        match source with
        | .vector _ 1 => convert scalar value
        | .vector .. => convert scalar (← part value 0)
        | .matrix .. => convert scalar (← part (← part value 0) 0)
        | _ => convert scalar value
      | .vector scalar count, none =>
        let value ← force scalar value
        if (← typeOf value).isScalar then addNode (.splat count value)
        else constructVector scalar count [value]
      | .vector scalar count, some size =>
        convert scalar (← if size = count then pure value else resize count value)
      | .matrix scalar columns rows, _ => constructMatrix scalar columns rows value
      | _, _ => failure
  | none =>
    match type with
    | .record place =>
      let record ← orFail (← program).records[place]?
      let first? := record.members.head?.map (·.type)
      addNode (.compose type [← widenTo (first?.getD type) value])
    | .array element _ _ => addNode (.compose type [← widenTo element value])
    | _ => failure

/-- The components of which a matrix is made: those of vectors one by one. -/
def matrixComponents (scalar : Scalar) (value : Nat) : Build (List Nat) := do
  let value ← force scalar value
  match ← typeOf value with
  | .vector _ 1 => return [value]
  | .vector _ size => (List.range size).mapM (part value)
  | _ => return [value]

/-- Cuts a list into lists of some length, the last of which may be shorter. -/
def chunks {α : Type} (length : Nat) : Nat → List α → List (List α)
  | 0, _ => []
  | _ + 1, [] => []
  | count + 1, items => items.take length :: chunks length count (items.drop length)

/-- A value of a type made of several values, or of none. -/
def constructFromMany (type : Ty) (values : List Nat) : Build Nat := do
  match type with
  | .vector _ 1 => failure
  | .vector scalar size => constructVector scalar size values
  | .matrix scalar _ rows =>
    let components ← values.mapM (matrixComponents scalar)
    let components := components.flatten
    let parts ← (chunks rows components.length components).mapM fun chunk =>
      addNode (.compose (.vector scalar rows) chunk)
    addNode (.compose type parts)
  | .array element _ _ => addNode (.compose type (← values.mapM (widenTo element)))
  | .record place =>
    let record ← orFail (← program).records[place]?
    let parts ← (values.zip record.members).mapM fun (value, member) => widenTo member.type value
    addNode (.compose type parts)
  | _ => failure

/-- A value of a type made of values. -/
def construct (type : Ty) (values : List Nat) : Build Nat :=
  match values with
  | [value] => constructFromOne type value
  | _ => constructFromMany type values

end Build

end ShaderCheck.Glsl
