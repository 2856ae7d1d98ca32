/-
**Functions that can be called.**

A name stands for several functions that take different arguments. Some of them need no declaration and
are worked out from few operations. Most of these come in several sizes, some for numbers of double
precision as well, which count only where such numbers are used.

* `Overload`: a function of a name;
* `conversion?`: how well an argument fits a parameter of another type;
* `standardOverloads`, `doubleOverloads`: the functions of a name that need no declaration.
-/

import ShaderCheck.Glsl.Program

namespace ShaderCheck.Glsl

/-! ### Functions and their parameters -/

/-- How the level of an image is told in a call. -/
inductive LevelForm
  /-- It is worked out, and may be shifted. -/
  | automatic
  | exact
  | gradient
deriving DecidableEq, Repr

/-- A function that needs no declaration. -/
inductive Intrinsic
  /-- An image joined with a sampler, which may compare depths. -/
  | combine (compares : Bool)
  /-- A pixel looked up, with coordinates that are divided by the last one or not. -/
  | lookUp (projects hasOffset compares : Bool) (level : LevelForm)
  | size (arrayed : Bool)
  | imageLoad (multisampled : Bool)
  | imageStore
  | math (function : MathFunction)
  /-- A bit of an unsigned integer searched. -/
  | findBit
  | bitfieldExtract
  | bitfieldInsert
  | question (question : Question)
  | unary (operator : UnaryOperator)
  | binary (operator : BinaryOperator)
  /-- What is left after a division, vectors of so many components being divided by a scalar. -/
  | modulo (size : Option Nat)
  /-- A function with one argument of which a scalar stands for a vector. -/
  | splatted (function : MathFunction) (size : Option Nat) (place : Nat)
  /-- One of two values chosen for each component. -/
  | choose
  | clamp (size : Option Nat)
  | reinterpret (scalar : Scalar)
  | derivative
  | barrier
  | smoothStep (size : Option Nat)
deriving DecidableEq, Repr

/-- What is done when a function is called. -/
inductive Callee
  | routine (place : Nat)
  | intrinsic (intrinsic : Intrinsic)
deriving DecidableEq, Repr

namespace Passing

/-- Whether a place is passed, and not a value. -/
def isPlace : Passing → Bool
  | output | both => true
  | input | const => false

end Passing

/-- A parameter of a function. -/
structure Parameter where
  type : Ty
  passing : Passing
  /-- Whether it is an image of which depths are compared. -/
  isDepth : Bool
deriving DecidableEq, Repr

/-- A function of a name. -/
structure Overload where
  parameters : List Parameter
  callee : Callee
  isDefined : Bool
  /-- Whether it needs no declaration. -/
  isInternal : Bool
  givesNothing : Bool
deriving DecidableEq, Repr

/-- The functions of a name. -/
structure FunctionGroup where
  overloads : List Overload
  /-- Whether those for numbers of double precision are among them. -/
  hasDoubles : Bool

/-! ### How well arguments fit -/

/-- How an argument fits a parameter. -/
inductive Conversion
  /-- It is of the same type. -/
  | exact
  | floatToDouble
  | integerToFloat
  | integerToDouble
  | other
  /-- Nothing is known yet. -/
  | unknown
deriving DecidableEq, Repr

/-- Whether numbers of one type are of no higher rank than those of another one; truth values are of the
lowest rank. -/
def Scalar.isAtMost (source target : Scalar) : Bool :=
  match source.rank?, target.rank? with
  | none, _ => true
  | some _, none => false
  | some low, some high => low ≤ high

/-- How components are converted to others; none if they are not. -/
def Scalar.conversion? (source target : Scalar) : Option Conversion :=
  if !source.isAtMost target then none
  else
    some <|
      match target, source with
      | .double, .float => .floatToDouble
      | .float, .int | .float, .uint => .integerToFloat
      | .double, .int | .double, .uint => .integerToDouble
      | _, _ => .other

/-- How a value of one type is converted to another type of the same shape; none if it is not. -/
def Ty.conversion? (source target : Ty) : Option Conversion :=
  match source, target with
  | .vector source size, .vector target size' =>
    if size = size' then source.conversion? target else none
  | .matrix source columns rows, .matrix target columns' rows' =>
    if columns = columns' ∧ rows = rows' then source.conversion? target else none
  | _, _ => none

/-- Whether the first of two conversions is better than the second one; none if neither is. -/
def Conversion.isBetter? : Conversion → Conversion → Option Bool
  | _, exact => some false
  | _, unknown => some true
  | floatToDouble, _ => some true
  | _, floatToDouble => some false
  | integerToFloat, integerToDouble => some true
  | integerToDouble, integerToFloat => some false
  | _, _ => none

/-- What is known of a function after its parameters are compared with those of the best one so far. -/
structure Comparison where
  /-- Whether it is better; none if nothing is decided. -/
  isBetter : Option Bool
  isAmbiguous : Bool
  conversions : List Conversion

/-- A comparison goes on with the next parameter. -/
def Comparison.add (comparison : Comparison) (before now : Conversion) : Comparison :=
  if now = .exact then { comparison with conversions := comparison.conversions ++ [.exact] }
  else
    match now.isBetter? before, comparison.isBetter with
    | none, _ => { comparison with conversions := comparison.conversions ++ [.unknown] }
    | some true, some false | some false, some true =>
      { comparison with
        isAmbiguous := true, conversions := comparison.conversions ++ [.unknown] }
    | some true, _ => ⟨some true, comparison.isAmbiguous, comparison.conversions ++ [now]⟩
    | some false, _ =>
      ⟨some false, comparison.isAmbiguous, comparison.conversions ++ [.unknown]⟩

/-- The comparison of all parameters. -/
def compareConversions (before now : List Conversion) : Comparison :=
  (before.zip now).foldl (fun comparison (old, new) => comparison.add old new) ⟨none, false, []⟩

/-- The best function so far. -/
structure Choice where
  overload : Option Overload
  conversions : List Conversion
  isAmbiguous : Bool

/-- The choice once it is known how one more function fits. -/
def Choice.add (choice : Choice) (overload : Overload) (conversions : List Conversion) : Choice :=
  let comparison := compareConversions choice.conversions conversions
  let isAmbiguous := choice.isAmbiguous || comparison.isAmbiguous
  match comparison.isBetter with
  | some true => ⟨some overload, comparison.conversions, isAmbiguous⟩
  | some false => { choice with isAmbiguous }
  | none => ⟨some overload, comparison.conversions, true⟩

/-! ### Functions that need no declaration -/

/-- A function that takes values of the given types. -/
def intrinsic (parameters : List Ty) (callee : Intrinsic) : Overload where
  parameters := parameters.map fun type => ⟨type, .input, false⟩
  callee := .intrinsic callee
  isDefined := false
  isInternal := true
  givesNothing := false

/-- The sizes of scalars and vectors. -/
def allSizes : List Nat := [1, 2, 3, 4]

/-- The sizes of vectors. -/
def vectorSizes : List Nat := [2, 3, 4]

/-- The size of a vector; none for a scalar. -/
def vectorSize? (size : Nat) : Option Nat :=
  if size = 1 then none else some size

/-- Functions of one scalar or vector. -/
def onEach (sizes : List Nat) (scalar : Scalar) (callee : Intrinsic) : List Overload :=
  sizes.map fun size => intrinsic [.vector scalar size] callee

/-- Functions of several values of one type. -/
def onSame (count : Nat) (scalar : Scalar) (callee : Intrinsic) : List Overload :=
  allSizes.map fun size => intrinsic (List.replicate count (.vector scalar size)) callee

/-- Two sizes, the second of which may be that of a scalar. -/
def splatSizes : List (Nat × Nat) :=
  allSizes.map (·, 1) ++ vectorSizes.map fun size => (size, size)

/-- The lesser and the greater one of two values. -/
def extremumOverloads (scalars : List Scalar) : List Overload :=
  splatSizes.flatMap fun (size, second) =>
    scalars.map fun scalar =>
      intrinsic [.vector scalar size, .vector scalar second] (.splatted .extremum (vectorSize? size) 1)

/-- Values brought between two bounds. -/
def clampOverloads (scalars : List Scalar) : List Overload :=
  let of (splats : Bool) (size : Nat) := scalars.map fun scalar =>
    let limit : Ty := if splats then .vector scalar 1 else .vector scalar size
    intrinsic [.vector scalar size, limit, limit] (.clamp (vectorSize? size))
  ([2, 3, 4, 1].flatMap (of false)) ++ vectorSizes.flatMap (of true)

/-- Values chosen by truth values. -/
def choiceOverloads (scalars : List Scalar) : List Overload :=
  scalars.flatMap fun scalar => allSizes.map fun size =>
    intrinsic [.vector scalar size, .vector scalar size, .vector .bool size] .choose

/-- Values of some size mixed, by a value of the other size. -/
def mixOverloads (scalar : Scalar) (sizes : List (Nat × Nat)) : List Overload :=
  sizes.map fun (size, third) =>
    intrinsic [.vector scalar size, .vector scalar size, .vector scalar third]
      (.splatted .mix (vectorSize? size) 2)

/-- The comparison that a name stands for. -/
def comparisonOf? : String → Option BinaryOperator
  | "lessThan" => some .less
  | "greaterThan" => some .greater
  | "lessThanEqual" => some .lessEqual
  | "greaterThanEqual" => some .greaterEqual
  | "equal" => some .equal
  | "notEqual" => some .notEqual
  | _ => none

/-- Vectors compared by their components. -/
def comparisonOverloads (operator : BinaryOperator) (scalars : List Scalar) : List Overload :=
  scalars.flatMap fun scalar => vectorSizes.map fun size =>
    intrinsic (List.replicate 2 (.vector scalar size)) (.binary operator)

/-- The functions of a name that are there for numbers of single and of double precision. -/
def fractionalOverloads (scalar : Scalar) (name : String) : List Overload :=
  match name with
  | "ceil" | "round" | "roundEven" | "floor" | "fract" | "trunc" | "sqrt" | "inversesqrt" =>
    onEach allSizes scalar (.math .elementary)
  | "normalize" => onEach allSizes scalar (.math .normalize)
  | "length" => onEach allSizes scalar (.math .length)
  | "isinf" | "isnan" => onEach allSizes scalar (.question .kindOfNumber)
  | "dot" => onSame 2 scalar (.math .dot)
  | "reflect" => onSame 2 scalar (.math .cross)
  | "distance" => onSame 2 scalar (.math .distance)
  | "ldexp" => onSame 2 scalar (.math .split)
  | "transpose" =>
    vectorSizes.flatMap fun columns => vectorSizes.map fun rows =>
      intrinsic [.matrix scalar columns rows] (.math .transpose)
  | "inverse" => vectorSizes.map fun size => intrinsic [.matrix scalar size size] (.math .inverse)
  | "determinant" =>
    vectorSizes.map fun size => intrinsic [.matrix scalar size size] (.math .determinant)
  | "mod" =>
    splatSizes.map fun (size, second) =>
      intrinsic [.vector scalar size, .vector scalar second] (.modulo (vectorSize? size))
  | "step" =>
    splatSizes.map fun (size, second) =>
      intrinsic [.vector scalar second, .vector scalar size]
        (.splatted .pairwise (vectorSize? size) 0)
  | "modf" | "frexp" =>
    allSizes.map fun size =>
      { intrinsic [] (.math .split) with
        parameters := [⟨.vector scalar size, .input, false⟩, ⟨.vector scalar size, .output, false⟩] }
  | "cross" => [intrinsic [.vector scalar 3, .vector scalar 3] (.math .cross)]
  | "outerProduct" =>
    vectorSizes.flatMap fun columns => vectorSizes.map fun rows =>
      intrinsic [.vector scalar columns, .vector scalar rows] (.math .outer)
  | "faceforward" | "fma" => onSame 3 scalar (.math .blend)
  | "refract" =>
    allSizes.map fun size =>
      intrinsic [.vector scalar size, .vector scalar size, .vector scalar 1] (.math .refract)
  | "smoothstep" =>
    allSizes.flatMap fun size =>
      intrinsic (List.replicate 3 (.vector scalar size)) (.smoothStep (vectorSize? size)) ::
        if size = 1 then []
        else
          [intrinsic [.vector scalar 1, .vector scalar 1, .vector scalar size]
            (.smoothStep (vectorSize? size))]
  | _ => []

/-- The functions of a name for numbers of double precision. -/
def doubleOverloads (name : String) : List Overload :=
  match comparisonOf? name with
  | some operator => comparisonOverloads operator [.double]
  | none =>
    match name with
    | "abs" => onEach allSizes .double (.math .abs)
    | "sign" => onEach allSizes .double (.math .sign)
    | "min" | "max" => extremumOverloads [.double]
    | "mix" =>
      mixOverloads .double (allSizes.map (·, 1)) ++ choiceOverloads [.double] ++
        mixOverloads .double (vectorSizes.map fun size => (size, size))
    | "clamp" => clampOverloads [.double]
    | _ => fractionalOverloads .double name

/-! ### Images -/

/-- The forms of sampled images: their dimension, and whether there are layers and samples. -/
def sampledForms : List (Dimension × Bool × Bool) :=
  [(.one, false, false), (.one, true, false), (.two, false, false), (.two, true, false),
    (.three, false, false), (.cube, false, false), (.cube, true, false)]

/-- The forms of images with several samples. -/
def multisampledForms : List (Dimension × Bool × Bool) :=
  [(.two, false, true), (.two, true, true)]

/-- The components that pixels are made of. -/
def pixelScalars : List Scalar := [.float, .uint, .int]

/-- The images that can be looked up, of the given forms; depths are compared in all but spaces. -/
def lookedUpImages (forms : List (Dimension × Bool × Bool)) : List ImageForm :=
  (pixelScalars.flatMap fun scalar => forms.map fun (dimension, arrayed, multisampled) =>
      ⟨dimension, arrayed, .sampled scalar multisampled⟩) ++
    (sampledForms.filter (·.1 ≠ .three)).map fun (dimension, arrayed, _) =>
      ⟨dimension, arrayed, .depth false⟩

/-- The number of coordinates of an image, layers aside. -/
def Dimension.coordinates : Dimension → Nat
  | one => 1
  | two => 2
  | three | cube => 3

/-- The forms of looking up that a name stands for: whether coordinates are divided, whether there is an
offset, and how the level is told. -/
def lookUpOf? : String → Option (Bool × Bool × LevelForm)
  | "texture" => some (false, false, .automatic)
  | "textureGrad" => some (false, false, .gradient)
  | "textureGradOffset" => some (false, true, .gradient)
  | "textureLod" => some (false, false, .exact)
  | "textureLodOffset" => some (false, true, .exact)
  | "textureOffset" => some (false, true, .automatic)
  | "textureProj" => some (true, false, .automatic)
  | "textureProjGrad" => some (true, false, .gradient)
  | "textureProjGradOffset" => some (true, true, .gradient)
  | "textureProjLod" => some (true, false, .exact)
  | "textureProjLodOffset" => some (true, true, .exact)
  | "textureProjOffset" => some (true, true, .automatic)
  | _ => none

/-- The function that looks up a pixel of an image: perhaps with a vector of four coordinates where fewer
may do (`isWide`), and perhaps with a shift of the level. -/
def lookUpOverload? (projects hasOffset : Bool) (level : LevelForm) (image : ImageForm)
    (isWide hasBias : Bool) : Option Overload :=
  let compares := image.content matches .depth _
  let isCube := image.dimension = .cube
  let base := image.dimension.coordinates
  let isLine := image.dimension = .one && compares
  let count :=
    if compares && projects then 4
    else if isLine then 3
    else if compares then base + 1
    else if projects then if isWide then 4 else base + 1
    else base
  let count := if isLine || !image.arrayed then count else count + 1
  if isWide && (!projects || compares) then none
  else if hasBias && (level ≠ .automatic || compares) then none
  else if projects && (image.arrayed || isCube) then none
  else if isCube && hasOffset then none
  else if level = .exact && image.arrayed && compares && image.dimension = .two then none
  else if 5 ≤ count && (level ≠ .automatic || hasOffset || projects || hasBias) then none
  else
    let levelTypes : List Ty :=
      match level with
      | .automatic => []
      | .exact => [.float]
      | .gradient => List.replicate 2 (.vector .float base)
    some <| intrinsic
      ([.image image, .vector .float (min count 4)] ++ (if count = 5 then [.float] else []) ++
        levelTypes ++ (if hasOffset then [.vector .int base] else []) ++
        if hasBias then [.float] else [])
      (.lookUp projects hasOffset compares level)

/-- The functions that look up pixels. -/
def lookUpOverloads (projects hasOffset : Bool) (level : LevelForm) : List Overload :=
  (lookedUpImages sampledForms).flatMap fun image =>
    [(false, false), (true, false), (false, true), (true, true)].filterMap fun (isWide, hasBias) =>
      lookUpOverload? projects hasOffset level image isWide hasBias

/-- The forms of stored images. -/
def storedForms : List (Dimension × Bool) :=
  [(.one, false), (.one, true), (.two, false), (.two, true), (.three, false)]

/-- A format of stored images with pixels of the given components. -/
def formatOf : Scalar → String
  | .uint => "r8ui"
  | .int => "r8i"
  | _ => "r8"

/-- Functions of stored images. -/
def storedOverloads (access : Access) (callee : Bool → Intrinsic)
    (others : Scalar → Nat → List Ty) : List Overload :=
  pixelScalars.flatMap fun scalar => storedForms.map fun (dimension, arrayed) =>
    let coordinates := dimension.coordinates + if arrayed then 1 else 0
    intrinsic (.image ⟨dimension, arrayed, .stored (formatOf scalar) access⟩ :: others scalar coordinates)
      (callee arrayed)

/-- The form of the image that a name joins with a sampler, and whether depths are compared. -/
def combinationOf? : String → Option (Dimension × Bool × Bool × Bool)
  | "sampler1D" => some (.one, false, false, false)
  | "sampler1DArray" => some (.one, true, false, false)
  | "sampler2D" => some (.two, false, false, false)
  | "sampler2DArray" => some (.two, true, false, false)
  | "sampler2DMS" => some (.two, false, true, false)
  | "sampler2DMSArray" => some (.two, true, true, false)
  | "sampler3D" => some (.three, false, false, false)
  | "samplerCube" => some (.cube, false, false, false)
  | "samplerCubeArray" => some (.cube, true, false, false)
  | "sampler1DShadow" => some (.one, false, false, true)
  | "sampler1DArrayShadow" => some (.one, true, false, true)
  | "sampler2DShadow" => some (.two, false, false, true)
  | "sampler2DArrayShadow" => some (.two, true, false, true)
  | "samplerCubeShadow" => some (.cube, false, false, true)
  | "samplerCubeArrayShadow" => some (.cube, true, false, true)
  | _ => none

/-- The functions that join an image with a sampler; an image of which depths are compared becomes one of
depths. -/
def combinationOverloads (dimension : Dimension) (arrayed multisampled compares : Bool) :
    List Overload :=
  let plain := intrinsic
    [.image ⟨dimension, arrayed, .sampled .float multisampled⟩, .sampler compares] (.combine compares)
  if compares then
    [plain,
      { plain with
        parameters :=
          [⟨.image ⟨dimension, arrayed, .depth false⟩, .input, true⟩, ⟨.sampler true, .input, false⟩] }]
  else [plain]

/-- The functions that load a pixel of an image that is not stored to, perhaps with an offset. -/
def fetchOverloads (hasOffset : Bool) : List Overload :=
  pixelScalars.flatMap fun scalar =>
    ((sampledForms.filter (·.1 ≠ .cube)) ++ multisampledForms).map
      fun (dimension, arrayed, multisampled) =>
        let coordinates := dimension.coordinates + if arrayed then 1 else 0
        intrinsic
          ([.image ⟨dimension, arrayed, .sampled scalar multisampled⟩, .vector .int coordinates, .int] ++
            if hasOffset then [.vector .int dimension.coordinates] else [])
          (.imageLoad multisampled)

/-- The functions of a name that work with images. -/
def imageOverloads (name : String) : List Overload :=
  match name with
  | "textureSize" =>
    (lookedUpImages (sampledForms ++ multisampledForms)).map fun image =>
      let isSingle := !(image.content matches .sampled _ true)
      intrinsic (.image image :: if isSingle then [.int] else []) (.size image.arrayed)
  | "texelFetch" => fetchOverloads false
  | "texelFetchOffset" => fetchOverloads true
  | "imageSize" => storedOverloads ⟨false, false⟩ .size fun _ _ => []
  | "imageLoad" =>
    storedOverloads ⟨true, false⟩ (fun _ => .imageLoad false) fun _ coordinates =>
      [.vector .int coordinates]
  | "imageStore" =>
    storedOverloads ⟨false, true⟩ (fun _ => .imageStore) fun scalar coordinates =>
      [.vector .int coordinates, .vector scalar 4]
  | _ =>
    match combinationOf? name, lookUpOf? name with
    | some (dimension, arrayed, multisampled, compares), _ =>
      combinationOverloads dimension arrayed multisampled compares
    | none, some (projects, hasOffset, level) => lookUpOverloads projects hasOffset level
    | none, none => []

/-! ### All functions -/

/-- The functions of a name for numbers of single precision, integers and truth values. -/
def numberOverloads (name : String) : List Overload :=
  match name with
  | "sin" | "exp" | "exp2" | "sinh" | "cos" | "cosh" | "tan" | "tanh" | "acos" | "asin" | "log"
  | "log2" | "radians" | "degrees" | "asinh" | "acosh" | "atanh" =>
    onEach allSizes .float (.math .elementary)
  | "floatBitsToInt" => onEach allSizes .float (.reinterpret .int)
  | "floatBitsToUint" => onEach allSizes .float (.reinterpret .uint)
  | "intBitsToFloat" => onEach allSizes .int (.reinterpret .float)
  | "uintBitsToFloat" => onEach allSizes .uint (.reinterpret .float)
  | "dFdx" | "dFdxFine" | "dFdxCoarse" | "dFdy" | "dFdyFine" | "dFdyCoarse" | "fwidth" | "fwidthFine"
  | "fwidthCoarse" => onEach allSizes .float .derivative
  | "pow" => onSame 2 .float (.math .power)
  | "abs" => onEach allSizes .float (.math .abs) ++ onEach allSizes .int (.math .abs)
  | "sign" => onEach allSizes .float (.math .sign) ++ onEach allSizes .int (.math .sign)
  | "bitCount" | "bitfieldReverse" =>
    onEach allSizes .int (.math .bits) ++ onEach allSizes .uint (.math .bits)
  | "findLSB" | "findMSB" => onEach allSizes .int (.math .bits) ++ onEach allSizes .uint .findBit
  | "bitfieldExtract" =>
    [Scalar.int, .uint].flatMap fun scalar => allSizes.map fun size =>
      intrinsic [.vector scalar size, .int, .int] .bitfieldExtract
  | "bitfieldInsert" =>
    [Scalar.int, .uint].flatMap fun scalar => allSizes.map fun size =>
      intrinsic [.vector scalar size, .vector scalar size, .int, .int] .bitfieldInsert
  | "packSnorm4x8" | "packUnorm4x8" => [intrinsic [.vector .float 4] (.math (.pack 4))]
  | "packSnorm2x16" | "packUnorm2x16" | "packHalf2x16" =>
    [intrinsic [.vector .float 2] (.math (.pack 2))]
  | "unpackSnorm4x8" | "unpackUnorm4x8" => [intrinsic [.uint] (.math (.unpack 4))]
  | "unpackSnorm2x16" | "unpackUnorm2x16" | "unpackHalf2x16" => [intrinsic [.uint] (.math (.unpack 2))]
  | "atan" => onEach allSizes .float (.math .elementary) ++ onSame 2 .float (.math .pairwise)
  | "all" => onEach vectorSizes .bool (.question .all)
  | "any" => onEach vectorSizes .bool (.question .any)
  | "not" => onEach vectorSizes .bool (.unary .not)
  | "min" | "max" => extremumOverloads [.float, .int, .uint]
  | "mix" => choiceOverloads [.int, .uint, .float] ++ mixOverloads .float splatSizes
  | "clamp" => clampOverloads [.float, .int, .uint]
  | "barrier" => [intrinsic [] .barrier]
  | _ => fractionalOverloads .float name

/-- The functions of a name that need no declaration, those for double precision aside. -/
def standardOverloads (name : String) : List Overload :=
  match comparisonOf? name with
  | some operator =>
    comparisonOverloads operator
      ([.float, .int, .uint] ++ if operator.isEquality then [.bool] else [])
  | none => numberOverloads name ++ imageOverloads name

end ShaderCheck.Glsl
