/-
**Types of GLSL.**

The types that values of a shader have, and the names of those that need no declaration. A structure
or a block is known by its place among the records of a program, since two of one name may differ.
A block asks for one of two layouts, in which arrays are laid out with a stride, and structures by laying
out their members anew.

* `UnaryOperator`, `BinaryOperator`: what can be done with one or two values;
* `Ty.ofWord?`: the type that a word names;
* `Ty.element?`, `Ty.part?`: the types of parts of a value;
* `Ty.size`, `Ty.alignment`: the bytes of a value of its own;
* `placeType?`: a type as it is laid out in a block.
-/

namespace ShaderCheck.Glsl

/-! ### Operators -/

/-- An operation on one value. -/
inductive UnaryOperator
  | negate
  /-- Every bit turned over. -/
  | not
deriving DecidableEq, Repr

/-- An operation on two values. -/
inductive BinaryOperator
  | add
  | subtract
  | multiply
  | divide
  | modulo
  | equal
  | notEqual
  | less
  | lessEqual
  | greater
  | greaterEqual
  | and
  | exclusiveOr
  | inclusiveOr
  | logicalAnd
  | logicalOr
  | shiftLeft
  | shiftRight
deriving DecidableEq, Repr

namespace BinaryOperator

/-- Whether bits are moved by a number of places. -/
def isShift : BinaryOperator → Bool
  | shiftLeft | shiftRight => true
  | _ => false

/-- Whether values are compared by their order. -/
def isOrder : BinaryOperator → Bool
  | less | lessEqual | greater | greaterEqual => true
  | _ => false

/-- Whether values are asked for being equal. -/
def isEquality : BinaryOperator → Bool
  | equal | notEqual => true
  | _ => false

/-- Whether the result is a truth value. -/
def isTest : BinaryOperator → Bool
  | logicalAnd | logicalOr => true
  | operator => operator.isOrder || operator.isEquality

end BinaryOperator

/-! ### Types -/

/-- What a component of a value is. -/
inductive Scalar
  | bool
  | int
  | uint
  | float
  | double
deriving DecidableEq, Repr

namespace Scalar

/-- The place of a number type among those that values convert to; truth values have none. -/
def rank? : Scalar → Option Nat
  | bool => none
  | int => some 0
  | uint => some 1
  | float => some 2
  | double => some 3

/-- Whether the values are numbers without a fraction. -/
def isIntegral : Scalar → Bool
  | int | uint => true
  | _ => false

/-- Whether the values are numbers with a fraction. -/
def isFloating : Scalar → Bool
  | float | double => true
  | _ => false

/-- Whether numbers of this type become numbers of the other where those are expected. -/
def widensTo (source target : Scalar) : Bool :=
  match source.rank?, target.rank? with
  | some low, some high => low < high
  | _, _ => false

/-- The number of bytes of a value. -/
def width : Scalar → Nat
  | bool => 1
  | int | uint | float => 4
  | double => 8

end Scalar

/-- How an image is looked at: as a line, a plane, a space or the sides of a cube. -/
inductive Dimension
  | one
  | two
  | three
  | cube
deriving DecidableEq, Repr

/-- The formats of stored images, with the numbers that a pixel is made of. -/
def imageFormats : List (String × Scalar) :=
  (["rgba32f", "rgba16f", "rg32f", "rg16f", "r11f_g11f_b10f", "r32f", "r16f", "rgba16", "rgb10_a2",
      "rgba8", "rg16", "rg8", "r16", "r8", "rgba16_snorm", "rgba8_snorm", "rg16_snorm", "rg8_snorm",
      "r16_snorm", "r8_snorm"].map fun word => (word, .float)) ++
    (["rgba32i", "rgba16i", "rgba8i", "rg32i", "rg16i", "rg8i", "r32i", "r16i", "r8i"].map fun word =>
      (word, .int)) ++
    ["rgba32ui", "rgba16ui", "rgba8ui", "rg32ui", "rg16ui", "rg8ui", "r32ui", "r16ui", "r8ui"].map
      fun word => (word, .uint)

/-- What may be done with stored values. -/
structure Access where
  load : Bool
  store : Bool
deriving DecidableEq, Repr

namespace Access

/-- Values may be loaded and stored. -/
abbrev all : Access := ⟨true, true⟩

/-- Whether all that the second access allows is allowed. -/
def includes (access needed : Access) : Bool :=
  (access.load || !needed.load) && (access.store || !needed.store)

end Access

/-- What the pixels of an image are. -/
inductive ImageClass
  /-- They are looked up with a sampler, or one of several samples is. -/
  | sampled (scalar : Scalar) (multisampled : Bool)
  /-- They are depths to compare with. -/
  | depth (multisampled : Bool)
  /-- They are loaded and stored in a format. -/
  | stored (format : String) (access : Access)
deriving DecidableEq, Repr

/-- The form of an image. -/
structure ImageForm where
  dimension : Dimension
  /-- Whether there are several layers. -/
  arrayed : Bool
  content : ImageClass
deriving DecidableEq, Repr

/-- Where a variable lives. -/
inductive Space
  /-- In a call of a function. -/
  | call
  /-- In a run of a stage. -/
  | run
  /-- In a group of runs. -/
  | group
  /-- In a buffer that is only read. -/
  | uniform
  /-- In a buffer. -/
  | storage (access : Access)
  /-- In the few bytes that are handed over with a command. -/
  | push
  /-- Nowhere: it names an image or a sampler. -/
  | handle
deriving DecidableEq, Repr

/-- The type of a value. -/
inductive Ty
  /-- A scalar, if the size is one, or a vector. -/
  | vector (scalar : Scalar) (size : Nat)
  | matrix (scalar : Scalar) (columns rows : Nat)
  | image (form : ImageForm)
  /-- A sampler, which may compare depths. -/
  | sampler (compares : Bool)
  | record (place : Nat)
  /-- An array; without a size, as many elements as there are. -/
  | array (element : Ty) (size : Option Nat) (stride : Nat)
  /-- A place that holds a value. -/
  | pointer (target : Ty) (space : Space)
deriving DecidableEq, Repr, Inhabited

/-- A member of a record. -/
structure Member where
  name : String
  type : Ty
  /-- The number of bytes before it. -/
  offset : Nat
deriving DecidableEq, Repr

/-- A structure or a block. -/
structure Record where
  name : String
  members : List Member
  /-- The number of bytes of a value. -/
  span : Nat
  /-- What the place of a value in memory is a multiple of. -/
  alignment : Nat
deriving DecidableEq, Repr

namespace Ty

abbrev bool : Ty := .vector .bool 1
abbrev int : Ty := .vector .int 1
abbrev uint : Ty := .vector .uint 1
abbrev float : Ty := .vector .float 1

/-! ### Names -/

/-- Cuts a text at the first place where a separator stands. -/
def cutAt? (separator : List Char) : List Char → Option (List Char × List Char)
  | [] => none
  | c :: rest =>
    if separator.isPrefixOf (c :: rest) then some ([], (c :: rest).drop separator.length)
    else (cutAt? separator rest).map fun (before, after) => (c :: before, after)

/-- What stands before a separator, and what stands between it and the next one. -/
def around? (separator : String) (word : List Char) : Option (String × String) :=
  (cutAt? separator.toList word).map fun (before, after) =>
    (String.ofList before, String.ofList ((cutAt? separator.toList after).elim after Prod.fst))

/-- The component type that the first letter of a name tells. -/
def scalarOfLetter? : String → Option Scalar
  | "" => some .float
  | "b" => some .bool
  | "i" => some .int
  | "u" => some .uint
  | "d" => some .double
  | _ => none

/-- The component type that the first letter of the name of an image tells. -/
def pixelOfLetter? : String → Option Scalar
  | "" => some .float
  | "i" => some .int
  | "u" => some .uint
  | _ => none

/-- The size that a digit tells. -/
def sizeOfDigit? : String → Option Nat
  | "2" => some 2
  | "3" => some 3
  | "4" => some 4
  | _ => none

/-- The columns and rows that the end of the name of a matrix tells. -/
def shapeOfText? (text : String) : Option (Nat × Nat) :=
  match sizeOfDigit? text with
  | some size => some (size, size)
  | none =>
    match text.toList with
    | [columns, 'x', rows] => do
      return (← sizeOfDigit? columns.toString, ← sizeOfDigit? rows.toString)
    | _ => none

/-- The form that the end of the name of a texture tells. -/
def textureForm? (scalar : Scalar) : String → Option ImageForm
  | "1D" => some ⟨.one, false, .sampled scalar false⟩
  | "1DArray" => some ⟨.one, true, .sampled scalar false⟩
  | "2D" => some ⟨.two, false, .sampled scalar false⟩
  | "2DArray" => some ⟨.two, true, .sampled scalar false⟩
  | "2DMS" => some ⟨.two, false, .sampled scalar true⟩
  | "2DMSArray" => some ⟨.two, true, .sampled scalar true⟩
  | "3D" => some ⟨.three, false, .sampled scalar false⟩
  | "Cube" => some ⟨.cube, false, .sampled scalar false⟩
  | "CubeArray" => some ⟨.cube, true, .sampled scalar false⟩
  | _ => none

/-- The format of a stored image of which nothing is said. -/
def defaultFormat : String := "r8ui"

/-- The form that the end of the name of a stored image tells. -/
def storedForm? : String → Option ImageForm
  | "1D" => some ⟨.one, false, .stored defaultFormat .all⟩
  | "1DArray" => some ⟨.one, true, .stored defaultFormat .all⟩
  | "2D" => some ⟨.two, false, .stored defaultFormat .all⟩
  | "2DArray" => some ⟨.two, true, .stored defaultFormat .all⟩
  | "3D" => some ⟨.three, false, .stored defaultFormat .all⟩
  | _ => none

/-- The vector type that a word names. -/
def vectorOfWord? (word : List Char) : Option Ty := do
  let (letter, size) ← around? "vec" word
  return .vector (← scalarOfLetter? letter) (← sizeOfDigit? size)

/-- The matrix type that a word names; the components of integer matrices have fractions as well. -/
def matrixOfWord? (word : List Char) : Option Ty := do
  let (letter, shape) ← around? "mat" word
  let scalar ← scalarOfLetter? letter
  let (columns, rows) ← shapeOfText? shape
  return .matrix (if scalar.isIntegral then .float else scalar) columns rows

/-- The texture type that a word names. -/
def textureOfWord? (word : List Char) : Option Ty := do
  let (letter, shape) ← around? "texture" word
  return .image (← textureForm? (← pixelOfLetter? letter) shape)

/-- The type of stored images that a word names. -/
def storedOfWord? (word : List Char) : Option Ty := do
  let (letter, shape) ← around? "image" word
  let _ ← pixelOfLetter? letter
  return .image (← storedForm? shape)

/-- The type that a word names. -/
def ofWord? (word : String) : Option Ty :=
  match word with
  | "bool" => some bool
  | "int" => some int
  | "uint" => some uint
  | "float" => some float
  | "double" => some (.vector .double 1)
  | "sampler" => some (.sampler false)
  | "samplerShadow" => some (.sampler true)
  | _ =>
    let letters := word.toList
    vectorOfWord? letters <|> matrixOfWord? letters <|> textureOfWord? letters <|>
      storedOfWord? letters

/-! ### Parts -/

/-- What the components of a value are. -/
def scalar? : Ty → Option Scalar
  | .vector scalar _ | .matrix scalar _ _ => some scalar
  | _ => none

/-- The number of components of a value, if it consists of such. -/
def components? : Ty → Option Nat
  | .vector _ size => some size
  | .matrix _ columns rows => some (columns * rows)
  | _ => none

/-- Whether a value is a place that holds one. -/
def isPointer : Ty → Bool
  | .pointer .. => true
  | _ => false

/-- What a place holds, or the type itself. -/
def target : Ty → Ty
  | .pointer target _ => target
  | type => type

/-- Whether a value is one scalar. -/
def isScalar : Ty → Bool
  | .vector _ 1 => true
  | _ => false

/-- The type of the part of a value at any position: an element, a column or a component. -/
def element? : Ty → Option Ty
  | .array element _ _ => some element
  | .vector _ 1 => none
  | .vector scalar _ => some (.vector scalar 1)
  | .matrix scalar _ rows => some (.vector scalar rows)
  | _ => none

/-- The type of the part of a value at a known position. -/
def part? (records : Array Record) (type : Ty) (position : Nat) : Option Ty :=
  match type with
  | .record place => ((records[place]?).bind (·.members[position]?)).map (·.type)
  | .array element _ _ => some element
  | .vector scalar size => if 1 < size ∧ position < size then some (.vector scalar 1) else none
  | .matrix scalar columns rows => if position < columns then some (.vector scalar rows) else none
  | _ => none

/-- The type of the place of a part, if the whole is a place, or else of the part. -/
def inside? (part : Ty → Option Ty) : Ty → Option Ty
  | .pointer target space => (part target).map (.pointer · space)
  | type => part type

end Ty

/-! ### Values in memory -/

/-- The least multiple of an alignment that is not less than a number. -/
def roundUp (alignment value : Nat) : Nat :=
  (value + alignment - 1) / alignment * alignment

/-- The alignment of a vector: three components are aligned like four. -/
def vectorAlignment (scalar : Scalar) (size : Nat) : Nat :=
  (if size = 3 then 4 else size) * scalar.width

namespace Ty

/-- What the place of a value in memory is a multiple of. -/
def alignment (records : Array Record) : Ty → Nat
  | .vector scalar size => vectorAlignment scalar size
  | .matrix scalar _ rows => vectorAlignment scalar rows
  | .record place => ((records[place]?).map (·.alignment)).getD 1
  | .array element _ _ => element.alignment records
  | .image _ | .sampler _ | .pointer .. => 1

/-- The number of bytes of a value; an array without a size counts as one element. -/
def size (records : Array Record) : Ty → Nat
  | .vector scalar size => size * scalar.width
  | .matrix scalar columns rows => vectorAlignment scalar rows * columns
  | .record place => ((records[place]?).map (·.span)).getD 0
  | .array _ size stride => size.getD 1 * stride
  | .pointer .. => 4
  | .image _ | .sampler _ => 0

/-- An array with its elements as close together as their alignment lets them be. -/
def arrayOf (records : Array Record) (element : Ty) (size : Option Nat) : Ty :=
  .array element size (roundUp (element.alignment records) (element.size records))

end Ty

/-- How the values of a block are laid out. -/
inductive BlockLayout
  /-- Elements of arrays and columns begin at multiples of sixteen bytes. -/
  | std140
  /-- Elements of arrays are as close together as their alignment lets them be. -/
  | std430
deriving DecidableEq, Repr

/-- A type as it is laid out. -/
structure Placed where
  type : Ty
  alignment : Nat
  span : Nat

/-- Adds a record, if there is none like it. -/
def addRecord (records : Array Record) (record : Record) : Array Record × Nat :=
  match records.findIdx? (· = record) with
  | some place => (records, place)
  | none => (records.push record, records.size)

/-- Members one after the other, the first of which begins after so many bytes. -/
structure MemberRow where
  members : List Member
  span : Nat
  alignment : Nat

/-- Members before there are any. -/
def MemberRow.empty : MemberRow := ⟨[], 0, 1⟩

/-- Members with one more at their end. -/
def MemberRow.add (row : MemberRow) (name : String) (placed : Placed) : MemberRow :=
  let offset := roundUp placed.alignment row.span
  ⟨row.members ++ [⟨name, placed.type, offset⟩], offset + placed.span,
    max row.alignment placed.alignment⟩

/-- The record of members, which ends at a multiple of their alignment. -/
def MemberRow.record (row : MemberRow) (records : Array Record) (name : String) : Record :=
  ⟨name, row.members, roundUp row.alignment row.span,
    (row.members.map fun member => member.type.alignment records).foldl max 1⟩

mutual

/-- A type as it is laid out in a block, and the records with those that this makes; none if values of
the type cannot be in a block. -/
def placeType? (layout : BlockLayout) : Nat → Array Record → Ty → Option (Array Record × Placed)
  | 0, _, _ => none
  | fuel + 1, records, type =>
    match type with
    | .vector scalar size =>
      some (records, ⟨type, vectorAlignment scalar size, size * scalar.width⟩)
    | .matrix scalar columns rows =>
      let alignment := vectorAlignment scalar rows
      match layout with
      | .std430 => some (records, ⟨type, alignment, alignment * columns⟩)
      | .std140 =>
        let alignment := max alignment 16
        if rows = 2 then none else some (records, ⟨type, alignment, alignment * columns⟩)
    | .array element size _ => do
      let (records, placed) ← placeType? layout fuel records element
      let alignment :=
        match layout with
        | .std430 => placed.alignment
        | .std140 => max placed.alignment 16
      let stride := roundUp alignment placed.span
      return (records, ⟨.array placed.type size stride, alignment, size.getD 1 * stride⟩)
    | .record place => do
      let record ← records[place]?
      let (records, row) ← placeMembers? layout fuel records .empty record.members
      let placed := row.record records record.name
      let (records, place) := addRecord records placed
      return (records, ⟨.record place, row.alignment, placed.span⟩)
    | .image _ | .sampler _ | .pointer .. => none

/-- Members as they are laid out after others. -/
def placeMembers? (layout : BlockLayout) :
    Nat → Array Record → MemberRow → List Member → Option (Array Record × MemberRow)
  | 0, _, _, _ => none
  | _ + 1, records, row, [] => some (records, row)
  | fuel + 1, records, row, member :: rest => do
    let (records, placed) ← placeType? layout fuel records member.type
    placeMembers? layout fuel records (row.add member.name placed) rest

end

/-- The greatest depth of a type that is laid out, members of structures counted one after the other. -/
def layoutDepth : Nat := 0x100000000

end ShaderCheck.Glsl
