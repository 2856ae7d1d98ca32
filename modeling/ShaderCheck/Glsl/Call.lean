/-
**Calls of functions.**

The function that a call means is the one of that name whose parameters the arguments fit best; where
none is best, the call has no meaning. Functions that need no declaration become nodes, others are
called in a step, and what they write to a place is copied there after the call if need be.

* `Build.chooseOverload`: the function that a call means;
* `Build.callIntrinsic`, `Build.callRoutine`: what a call comes down to.
-/

import ShaderCheck.Glsl.Conversion
import ShaderCheck.Glsl.Intrinsic

namespace ShaderCheck.Glsl

namespace Build

/-! ### Images of depths -/

/-- The type of an image of which depths are compared. -/
def depthType? : Ty → Option Ty
  | .image ⟨dimension, arrayed, .sampled _ multisampled⟩ =>
    some (.image ⟨dimension, arrayed, .depth multisampled⟩)
  | .image ⟨dimension, arrayed, .depth multisampled⟩ =>
    some (.image ⟨dimension, arrayed, .depth multisampled⟩)
  | _ => none

/-- Takes an image for one of which depths are compared, wherever it is used. -/
def makeDepth (image : Nat) : Build Unit := do
  match (← routine).nodes[image]? with
  | some (.globalVariable place) =>
    let found ← orFail (← program).globals[place]?
    let type ← orFail (depthType? found.type)
    modifyProgram fun program =>
      { program with globals := program.globals.set! place { found with type } }
  | some (.argument place) =>
    let argument ← orFail (← routine).arguments[place]?
    let type ← orFail (depthType? argument)
    modifyRoutine fun routine =>
      { routine with
        arguments := routine.arguments.set place type
        parameters := routine.parameters.modify place fun parameter =>
          { parameter with type, isDepth := true } }
  | _ => failure
  retype image

/-! ### Images looked up -/

/-- The coordinates of a pixel. -/
structure Coordinates where
  position : Nat
  layer : Option Nat
  depth : Option Nat
  /-- Whether the depth is an argument of its own. -/
  usesExtra : Bool

/-- The coordinates that a vector holds, for an image. -/
def coordinatesOf (image vector : Nat) (extra : Option Nat) : Build Coordinates := do
  match ← typeOf image with
  | .image form =>
    let count := form.dimension.coordinates
    let size := match ← typeOf vector with | .vector _ size => size | _ => 1
    let position ←
      if count = 1 then if size = 1 then pure vector else part vector 0
      else if size = 1 || size = count then pure vector
      else resize count vector
    let layer ← if form.arrayed then some <$> part vector count else pure none
    let next := if form.arrayed then count + 1 else count
    match form.content with
    | .depth _ =>
      if next = 4 then return ⟨position, layer, extra, true⟩
      else return ⟨position, layer, some (← part vector next), false⟩
    | _ => return ⟨position, layer, none, false⟩
  | _ => failure

/-- Coordinates divided by the last one. -/
def project (vector : Nat) : Build Nat := do
  let size := match ← typeOf vector with | .vector _ size => size | _ => 1
  let last ← part vector (size - 1)
  if size ≤ 2 then addNode (.binary .divide (← part vector 0) last)
  else
    let divisor ← addNode (.splat (size - 1) last)
    addNode (.binary .divide (← resize (size - 1) vector) divisor)

/-- The level at which an image is looked up, as the arguments from some place on tell it, and the number
of arguments that tell it; depths are compared at the first level. -/
def levelOf (level : LevelForm) (compares : Bool) (arguments : List Nat) :
    Build (SampleLevel × Nat) := do
  match level with
  | .automatic => return (.automatic, 0)
  | .exact =>
    if compares then return (.zero, 1)
    else return (.exact (← orFail arguments[0]?), 1)
  | .gradient =>
    if compares then return (.zero, 2)
    else return (.gradient (← orFail arguments[0]?) (← orFail arguments[1]?), 2)

/-- A pixel of an image looked up; an offset has to be constant. -/
def lookUp (projects hasOffset compares : Bool) (form : LevelForm) (arguments : List Nat) :
    Build Nat := do
  let image ← orFail arguments[0]?
  let vector ← orFail arguments[1]?
  let vector ← if projects then project vector else pure vector
  let coordinates ← coordinatesOf image vector arguments[2]?
  let others := arguments.drop (if coordinates.usesExtra then 3 else 2)
  let (level, count) ← levelOf form compares others
  let others := others.drop count
  let offset ←
    if hasOffset then do
      let argument ← orFail others.head?
      some <$> orFail (← solve argument)
    else pure none
  let others := if hasOffset then others.tail else others
  let level :=
    match form, others.head? with
    | .automatic, some bias => .bias bias
    | _, _ => level
  let sampler ← orFail ((← routine).samplers.lookup image)
  let layer ← coordinates.layer.mapM (convert .int)
  addNode (.sample
    { image, sampler, layer, offset, level
      coordinate := coordinates.position, depth := coordinates.depth })

/-- The size of an image, the number of its layers last if it has such. -/
def imageSize (arrayed : Bool) (image : Nat) (level : Option Nat) : Build Nat := do
  let size ← addNode (.imageSize image level)
  let size ←
    if arrayed then do
      let components ← componentsOf size
      let layers ← addNode (.imageLayers image)
      addNode (.compose (.vector .uint (min 4 (components.length + 1))) (components ++ [layers]))
    else pure size
  convert .int size

/-! ### Functions that need no declaration -/

/-- The value of a call of a function that needs no declaration, if it gives one. -/
def callIntrinsic (intrinsic : Intrinsic) (arguments : List Nat) : Build (Option Nat) := do
  let argument (place : Nat) : Build Nat := orFail arguments[place]?
  match intrinsic with
  | .combine compares =>
    let image ← argument 0
    if compares then makeDepth image
    let sampler ← argument 1
    modifyRoutine fun routine => { routine with samplers := (image, sampler) :: routine.samplers }
    return image
  | .lookUp projects hasOffset compares level =>
    return some (← lookUp projects hasOffset compares level arguments)
  | .size arrayed => return some (← imageSize arrayed (← argument 0) arguments[1]?)
  | .imageLoad multisampled =>
    let image ← argument 0
    let coordinates ← coordinatesOf image (← argument 1) none
    let third := arguments[2]?
    return some (← addNode (.imageLoad image coordinates.position coordinates.layer
      (if multisampled then third else none) (if multisampled then none else third)))
  | .imageStore =>
    let image ← argument 0
    let coordinates ← coordinatesOf image (← argument 1) none
    addStepAfterNodes (.imageStore image coordinates.position coordinates.layer (← argument 2))
    return none
  | .math function => return some (← addNode (.math function arguments))
  | .findBit => return some (← convert .int (← addNode (.math .bits arguments)))
  | .bitfieldExtract =>
    let first ← convert .uint (← argument 1)
    let count ← convert .uint (← argument 2)
    return some (← addNode (.math .extractBits [← argument 0, first, count]))
  | .bitfieldInsert =>
    let first ← convert .uint (← argument 2)
    let count ← convert .uint (← argument 3)
    return some (← addNode (.math .insertBits [← argument 0, ← argument 1, first, count]))
  | .question question => return some (← addNode (.question question (← argument 0)))
  | .unary operator => return some (← addNode (.unary operator (← argument 0)))
  | .binary operator => return some (← addNode (.binary operator (← argument 0) (← argument 1)))
  | .modulo size =>
    let value ← argument 0
    let divisor ← splat size (← argument 1)
    let quotient ← addNode (.binary .divide value divisor)
    let whole ← addNode (.math .elementary [quotient])
    return some (← addNode (.binary .subtract value (← addNode (.binary .multiply whole divisor))))
  | .splatted function size place =>
    let splatted ← splat size (← argument place)
    return some (← addNode (.math function (arguments.set place splatted)))
  | .choose =>
    return some (← addNode (.select (← argument 2) (← argument 1) (← argument 0)))
  | .clamp size =>
    let low ← splat size (← argument 1)
    let high ← splat size (← argument 2)
    return some (← addNode (.math .clamp [← argument 0, low, high]))
  | .reinterpret scalar => return some (← addNode (.reinterpret scalar (← argument 0)))
  | .derivative => return some (← addNode (.derivative (← argument 0)))
  | .barrier =>
    addStepAfterNodes .barrier
    return none
  | .smoothStep size =>
    let low ← splat size (← argument 0)
    let high ← splat size (← argument 1)
    return some (← addNode (.math .blend [low, high, ← argument 2]))

/-! ### The function that a call means -/

/-- Whether a value of the type has components of double precision. -/
def hasDoubles (type : Ty) : Bool :=
  type.target.scalar? = some .double

/-- The functions of a name, those for double precision among them if asked for. -/
def groupOf (name : String) (doubles : Bool) : Build FunctionGroup := do
  let state ← get
  let known : FunctionGroup := (state.functions.lookup name).getD ⟨standardOverloads name, false⟩
  let group :=
    if doubles && !known.hasDoubles then
      { known with overloads := known.overloads ++ doubleOverloads name, hasDoubles := true }
    else known
  set { state with functions := (name, group) :: state.functions.filter (·.1 ≠ name) }
  return group

/-- How an argument fits a parameter; none if it does not. An image without the access that is needed
ends the building. -/
def argumentConversion (isInternal : Bool) (parameter : Parameter) (argument : Nat) :
    Build (Option Conversion) := do
  if parameter.isDepth then makeDepth argument
  let records := (← program).records
  let type ← typeOf argument
  match parameter.type, type with
  | .image ⟨dimension, arrayed, .stored format access⟩,
    .image ⟨dimension', arrayed', .stored format' access'⟩ =>
    let sameFormat :=
      format = format' || (isInternal && imageFormats.lookup format = imageFormats.lookup format')
    if dimension = dimension' && arrayed = arrayed' && sameFormat then
      guard (access'.includes access)
      return some .exact
    else return none
  | wanted, _ =>
    if Ty.isSame records wanted type then return some .exact
    else
      match parameter.passing with
      | .both => return none
      | .output => return wanted.conversion? type
      | .input | .const => return type.conversion? wanted

/-- How arguments fit parameters; none if one does not. -/
def argumentConversions (isInternal : Bool) :
    List (Parameter × Nat) → Build (Option (List Conversion))
  | [] => return some []
  | (parameter, argument) :: rest => do
    match ← argumentConversion isInternal parameter argument with
    | none => return none
    | some first => return (← argumentConversions isInternal rest).map (first :: ·)

/-- The choice among functions that arguments fit, after others; one that they fit exactly ends it. -/
def chooseAmong (arguments : List Nat) (choice : Choice) : List Overload → Build Choice
  | [] => return choice
  | overload :: rest => do
    if overload.parameters.length ≠ arguments.length then chooseAmong arguments choice rest
    else
      match ← argumentConversions overload.isInternal (overload.parameters.zip arguments) with
      | none => chooseAmong arguments choice rest
      | some conversions =>
        if conversions.all (· = .exact) then return ⟨some overload, conversions, false⟩
        else chooseAmong arguments (choice.add overload conversions) rest

/-- The function of a name that a call with arguments means. -/
def chooseOverload (name : String) (arguments : List Nat) : Build Overload := do
  let types ← arguments.mapM typeOf
  let group ← groupOf name (types.any hasDoubles)
  let start : Choice := ⟨none, arguments.map fun _ => .unknown, false⟩
  let choice ← chooseAmong arguments start group.overloads
  guard !choice.isAmbiguous
  orFail choice.overload

/-! ### Places passed to functions -/

/-- What a function wrote to a variable of its own, to be copied to a place after the call. -/
structure WriteBack where
  target : Nat
  source : Nat
  /-- The components that it is converted to. -/
  scalar : Option Scalar

/-- The place of a vector, if the value is loaded from one, or else the vector. -/
def placeOf (vector : Nat) : Build Nat := do
  match (← routine).nodes[vector]? with
  | some (.load pointer) => return pointer
  | _ => return vector

/-- Where the components are written back that a pattern picks from a vector. -/
def writeBackComponents (size vector : Nat) (pattern : List Nat) (source : Nat)
    (scalar : Option Scalar) : Build (List WriteBack) := do
  let base ← placeOf vector
  (pattern.take size).zipIdx.mapM fun (component, position) => do
    let target ← part base component
    return ⟨target, ← part source position, scalar⟩

/-- The type of the variable that stands for a place in a call, if one has to. -/
def spillType? (place : Ty) : Option Ty :=
  match place with
  | .vector scalar size => if size = 1 then none else some (.vector scalar size)
  | .pointer target space => if space = .call then none else some target
  | _ => none

/-- Passes a place to a function: itself, or a variable from which the value is written back. The value of
the same argument is `value`. -/
def passPlace (parameter : Parameter) (place value : Nat) : Build (Nat × List WriteBack) := do
  let type ← typeOf place
  let current ← if type.isPointer then addNode (.load place) else pure place
  let valueType ← typeOf value
  let converts := !Ty.isSame (← program).records valueType parameter.type
  match if converts then some parameter.type else spillType? type with
  | none => return (place, [])
  | some spilled =>
    let spill ← addLocal spilled none
    if parameter.passing = .both then addStep (.store spill current)
    let scalar := if converts then valueType.scalar? else none
    match (← routine).nodes[place]? with
    | some (.swizzle size vector pattern) =>
      return (spill, ← writeBackComponents size vector pattern spill scalar)
    | _ => return (spill, [⟨place, spill, scalar⟩])

/-- Copies what a function wrote. -/
def writeBack (written : WriteBack) : Build Unit := do
  let value ← addNode (.load written.source)
  let value ←
    match written.scalar with
    | some scalar => convert scalar value
    | none => pure value
  addStepAfterNodes (.store written.target value)

/-- The value of a call of a routine, if it gives one. -/
def callRoutine (place : Nat) (givesNothing : Bool) (arguments : List Nat)
    (writeBacks : List WriteBack) : Build (Option Nat) := do
  flush
  let result ← if givesNothing then pure none else some <$> addNode (.callResult place)
  addStep (.call place arguments result)
  modifyRoutine fun routine => { routine with waiting := routine.nodes.size }
  for written in writeBacks do writeBack written
  return result

end Build

end ShaderCheck.Glsl
