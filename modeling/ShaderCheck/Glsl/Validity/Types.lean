/-
**What values of a type may be used for.**

Not every type goes everywhere: only some values can be stored, be passed to a routine, or be handed
from stage to stage, and a buffer asks for parts that begin at multiples of their alignment. A value is
made of parts whose number and types its own type tells, be it a constant or another value. What a
variable outside of routines may be hangs on where it lives: variables that are handed over have a group
and a number, others have none.

* `Ty.facts`, `recordFacts`: what holds of a type, and of the records of a program;
* `Ty.isMadeOf`: whether parts make a value of a type;
* `Program.hasValidConstants`, `Program.hasValidGlobals`: the constants and the global variables of a
  program.
-/

import ShaderCheck.Glsl.Program
import ShaderCheck.Glsl.Type

namespace ShaderCheck.Glsl

/-! ### Facts about types -/

/-- What holds of a type. -/
structure TypeFacts where
  /-- Whether there can be such a type. -/
  isValid : Bool
  /-- Whether values are plain data. -/
  isData : Bool
  /-- Whether the size of values is known. -/
  isSized : Bool
  /-- Whether values can be handed to a device. -/
  isHostShareable : Bool
  /-- Whether values can be handed from stage to stage. -/
  isPassable : Bool
  /-- Whether values can be passed to a routine. -/
  isArgument : Bool
  /-- Whether values can be made of others. -/
  isConstructible : Bool
  /-- The alignment in a uniform buffer, if values can be there. -/
  uniform : Option Nat
  /-- The alignment in a storage buffer, if values can be there. -/
  storage : Option Nat
deriving Repr

namespace TypeFacts

/-- A type that there cannot be. -/
def invalid : TypeFacts := ⟨false, false, false, false, false, false, false, none, none⟩

/-- What holds of a type of plain data with an alignment. -/
def plain (isHostShareable isPassable : Bool) (alignment : Nat) : TypeFacts :=
  ⟨true, true, true, isHostShareable, isPassable, true, true, some alignment, some alignment⟩

/-- What holds of images and samplers. -/
def handle : TypeFacts := ⟨true, false, false, false, false, true, false, some 1, some 1⟩

end TypeFacts

/-- The least alignment in a uniform buffer of what is made of parts. -/
def uniformAlignment : Nat := 16

/-- An alignment, if it divides a number. -/
def alignmentFor? (alignment offset : Nat) : Option Nat :=
  if offset % alignment = 0 then some alignment else none

/-- What holds of an array, of which the elements are so and have an alignment of their own. -/
def arrayFacts (element : TypeFacts) (alignment stride : Nat) (hasSize : Bool) : TypeFacts where
  isValid := element.isValid && element.isData && element.isSized
  isData := element.isData
  isSized := hasSize && element.isSized
  isHostShareable := element.isHostShareable
  isPassable := false
  isArgument := hasSize && element.isArgument
  isConstructible := hasSize && element.isConstructible
  uniform := element.uniform.bind fun inner =>
    alignmentFor? (max (max inner alignment) uniformAlignment) stride
  storage := element.storage.bind fun inner => alignmentFor? (max inner alignment) stride

/-- What holds of a place that holds a value, of which so much is known. -/
def pointerFacts (target : TypeFacts) (space : Space) : TypeFacts where
  isValid := target.isValid && target.isData && (target.isSized || space matches .storage _)
  isData := false
  isSized := true
  isHostShareable := false
  isPassable := false
  isArgument := space = .call || space = .run || space = .group
  isConstructible := false
  uniform := none
  storage := none

namespace Ty

/-- What holds of a type, the records being known. -/
def facts (records : Array Record) (known : Array TypeFacts) : Ty → TypeFacts
  | .vector scalar size =>
    let isShareable := scalar ≠ .bool || size ≠ 1
    .plain isShareable isShareable (vectorAlignment scalar size)
  | .matrix scalar _ rows =>
    if scalar = .bool then .invalid else .plain true false (vectorAlignment scalar rows)
  | .image _ | .sampler _ => .handle
  | .record place => (known[place]?).getD .invalid
  | .array element size stride =>
    arrayFacts (element.facts records known) (element.alignment records) stride size.isSome
  | .pointer target space => pointerFacts (target.facts records known) space

/-- Whether values are made of members. -/
def isRecord : Ty → Bool
  | .record _ => true
  | _ => false

/-- Whether values are made of elements. -/
def isArray : Ty → Bool
  | .array .. => true
  | _ => false

end Ty

/-! ### Records -/

/-- What holds of the first members of a record. -/
structure MemberFacts where
  facts : TypeFacts
  /-- The offset and the size of the member before, if it is a record. -/
  recordBefore : Option (Nat × Nat)

/-- What holds before there is any member. -/
def MemberFacts.start : MemberFacts :=
  ⟨{ TypeFacts.plain true true 1 with uniform := some uniformAlignment }, none⟩

/-- An alignment of members so far with that of one more at an offset. -/
def joinAlignment (before now : Option Nat) (offset : Nat) : Option Nat := do
  let now ← alignmentFor? (← now) offset
  return max (← before) now

/-- What holds with one more member. What follows a record in a uniform buffer begins at a multiple of
sixteen bytes after it. -/
def MemberFacts.add (records : Array Record) (known : Array TypeFacts) (before : MemberFacts)
    (member : Member) : MemberFacts :=
  let now := member.type.facts records known
  let all := before.facts
  let follows :=
    match before.recordBefore with
    | some (offset, size) => roundUp uniformAlignment size ≤ member.offset - offset
    | none => true
  { facts :=
      { isValid := all.isValid && now.isValid && now.isData
        isData := all.isData && now.isData
        isSized := all.isSized && now.isSized
        isHostShareable := all.isHostShareable && now.isHostShareable
        isPassable := all.isPassable && now.isPassable
        isArgument := all.isArgument && now.isArgument
        isConstructible := all.isConstructible && now.isConstructible
        uniform :=
          if now.isHostShareable && follows then joinAlignment all.uniform now.uniform member.offset
          else none
        storage :=
          if now.isHostShareable then joinAlignment all.storage now.storage member.offset else none }
    recordBefore :=
      if member.type.isRecord then some (member.offset, member.type.size records) else none }

/-- Whether members have sizes that are known; the last one may be an array without one. -/
def areSized (records : Array Record) (known : Array TypeFacts) : List Member → Bool
  | [] => true
  | [last] => (last.type.facts records known).isSized || last.type.isArray
  | first :: rest => (first.type.facts records known).isSized && areSized records known rest

/-- What holds of a record, the ones before being known. There is no record without members. -/
def Record.facts (records : Array Record) (known : Array TypeFacts) (record : Record) : TypeFacts :=
  let facts := (record.members.foldl (MemberFacts.add records known) .start).facts
  let fits (layout : Option Nat) : Option Nat :=
    if record.span % record.alignment = 0 then layout else none
  { facts with
    isValid := facts.isValid && !record.members.isEmpty && areSized records known record.members
    uniform := fits facts.uniform
    storage := fits facts.storage }

/-- What holds of each record of a program. -/
def recordFacts (records : Array Record) : Array TypeFacts :=
  records.foldl (fun known record => known.push (record.facts records known)) #[]

/-! ### Values made of others -/

namespace Ty

/-- The number of components of a value, if those are so. -/
def count? (scalar : Scalar) : Ty → Option Nat
  | .vector scalar' size => if scalar' = scalar then some size else none
  | _ => none

/-- Whether values of the given types make one of a type. A vector is made of scalars and of shorter
vectors, a matrix of its columns. -/
def isMadeOf (records : Array Record) (type : Ty) (parts : List Ty) : Bool :=
  match type with
  | .vector scalar size =>
    1 < size &&
      ((parts.mapM (count? scalar)).map fun counts => counts.foldl (· + ·) 0) = some size
  | .matrix scalar columns rows =>
    parts.length = columns && parts.all (· = .vector scalar rows)
  | .array element (some size) _ => parts.length = size && parts.all (element.isSame records)
  | .record place =>
    match records[place]? with
    | some found =>
      parts.length = found.members.length &&
        (found.members.zip parts).all fun (member, part) => member.type.isSame records part
    | none => false
  | _ => false

end Ty

/-! ### Constants -/

/-- The type of a constant value. -/
def ConstantNode.type? (constants : Array Constant) : ConstantNode → Option Ty
  | .literal value => some (.vector value.scalar 1)
  | .constant place => (constants[place]?).map (·.type)
  | .compose type _ => some type

namespace Program

/-- The type of the constant value at a place. -/
def constantType? (program : Program) (place : Nat) : Option Ty :=
  (program.constantNodes[place]?).bind (·.type? program.constants)

/-- Whether the constant value at a place, if there is to be one, is of a type. -/
def isConstantOf (program : Program) (type : Ty) (place? : Option Nat) : Bool :=
  match place? with
  | none => true
  | some place => (program.constantType? place).any (type.isSame program.records)

/-- Whether a constant value that is made of parts has parts that go together. -/
def isValidConstantNode (program : Program) : ConstantNode → Bool
  | .literal _ | .constant _ => true
  | .compose type parts =>
    match parts.mapM program.constantType? with
    | some parts => type.isMadeOf program.records parts
    | none => false

/-- Whether all constant values are valid, and constants have values of their types. -/
def hasValidConstants (program : Program) (known : Array TypeFacts) : Bool :=
  program.constantNodes.all program.isValidConstantNode &&
    program.constants.all fun constant =>
      (constant.type.facts program.records known).isConstructible &&
        program.isConstantOf constant.type (some constant.value)

end Program

/-! ### Global variables -/

namespace TypeFacts

/-- Whether values are plain data of a known size that can be handed to a device. -/
def isHanded (facts : TypeFacts) : Bool :=
  facts.isData && facts.isSized && facts.isHostShareable

end TypeFacts

namespace Space

/-- Whether a variable that lives there is handed over with a group and a number. -/
def isBound : Space → Bool
  | uniform | storage _ | handle => true
  | _ => false

/-- Whether a variable of a type, of which so much is known, may live there. -/
def admits (space : Space) (type : Ty) (facts : TypeFacts) : Bool :=
  match space with
  | call => false
  | run => facts.isConstructible
  | group => facts.isData && facts.isSized
  | uniform => facts.isHanded && facts.uniform.isSome
  | storage _ => facts.isData && facts.isHostShareable && facts.storage.isSome
  | push => facts.isHanded
  | handle =>
    match type with
    | .image _ | .sampler _ => true
    | _ => false

end Space

/-- Whether all global variables may live where they do, and begin with values of their types. -/
def Program.hasValidGlobals (program : Program) (known : Array TypeFacts) : Bool :=
  program.globals.all fun found =>
    found.space.admits found.type (found.type.facts program.records known) &&
      found.space.isBound = found.binding.isSome && program.isConstantOf found.type found.value

end ShaderCheck.Glsl
