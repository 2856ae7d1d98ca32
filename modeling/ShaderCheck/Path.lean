/-
**Paths.**

A path is kept as it was spelled, byte by byte: its bytes need not be a text, and messages show them as
one. Only when a path is followed are its segments read: empty segments say nothing, `.` stays, `..` goes
up, and every other segment is the name of an entry. A slash at the end asks for a directory, as a last
`.` does.

* `Name`: what a directory can hold an entry under;
* `Path.text`, `Path.ofText`: how a path is shown, and the path that a text spells;
* `Path.join`: a path inside a folder;
* `Path.steps`: what following a path does, one step after the other;
* `Path.parent`: the folder before the last name;
* `Name.extension?`: the text after the last dot of a name.
-/

import ShaderCheck.Text

namespace ShaderCheck

/-- Cuts a list at every separator. There is one piece more than separators. -/
def splitAtEvery {α : Type} [DecidableEq α] (separator : α) : List α → List (List α)
  | [] => [[]]
  | first :: rest =>
    if first = separator then [] :: splitAtEvery separator rest
    else
      match splitAtEvery separator rest with
      | [] => [[first]]
      | piece :: pieces => (first :: piece) :: pieces

/-- The byte of a slash. -/
def slashByte : UInt8 := 0x2F

/-- The byte of a dot. -/
def dotByte : UInt8 := 0x2E

/-- Bytes that can name a directory entry: there are some, none is a slash, and they are neither `.`
nor `..`. -/
def IsName (bytes : List UInt8) : Prop :=
  bytes ≠ [] ∧ slashByte ∉ bytes ∧ bytes ≠ [dotByte] ∧ bytes ≠ [dotByte, dotByte]

instance (bytes : List UInt8) : Decidable (IsName bytes) := by
  unfold IsName
  infer_instance

/-- The name of a directory entry. -/
structure Name where
  bytes : List UInt8
  isName : IsName bytes
deriving DecidableEq

/-- A path, spelled as it was given. -/
structure Path where
  bytes : List UInt8
deriving DecidableEq, Repr, Inhabited

namespace Name

instance : LT Name := ⟨fun first second => first.bytes < second.bytes⟩

instance : DecidableLT Name := fun first second =>
  inferInstanceAs (Decidable (first.bytes < second.bytes))

/-- The name with these bytes, if they are one. -/
def ofBytes? (bytes : List UInt8) : Option Name :=
  if isName : IsName bytes then some ⟨bytes, isName⟩ else none

/-- The name as it is shown. -/
def text (name : Name) : String :=
  Text.ofBytes name.bytes

/-- The path that is this name alone. -/
def path (name : Name) : Path :=
  ⟨name.bytes⟩

/-- The text after the last dot, for a name that has a dot other than as its first character. There is
none if the bytes after the dot are no text. -/
def extension? (name : Name) : Option String :=
  match (splitAtEvery dotByte name.bytes).reverse with
  | [] | [_] | [_, []] => none
  | last :: _ => Text.ofBytes? last

end Name

/-- What one segment of a path asks for. -/
inductive Step
  /-- Stay in this directory. -/
  | current
  /-- Go to the directory that holds this one. -/
  | parent
  /-- Go to the entry of this name. -/
  | entry (name : Name)
deriving DecidableEq

/-- The step of a segment; an empty segment is none. -/
def Step.ofSegment? (segment : List UInt8) : Option Step :=
  if segment = [dotByte] then some .current
  else if segment = [dotByte, dotByte] then some .parent
  else (Name.ofBytes? segment).map .entry

namespace Path

/-- The path that a text spells. -/
def ofText (text : String) : Path :=
  ⟨Text.bytes text⟩

/-- The path as it is shown. -/
def text (path : Path) : String :=
  Text.ofBytes path.bytes

/-- Whether the path starts at the root. -/
def isAbsolute (path : Path) : Bool :=
  path.bytes.head? = some slashByte

/-- Whether the path ends with a slash. -/
def endsWithSlash (path : Path) : Bool :=
  path.bytes.getLast? = some slashByte

/-- The path `tail` inside the folder `base`. An absolute tail stands for itself, and so does any
tail inside the empty path. -/
def join (base tail : Path) : Path :=
  if tail.isAbsolute then tail
  else if base.bytes = [] then tail
  else if base.endsWithSlash then ⟨base.bytes ++ tail.bytes⟩
  else ⟨base.bytes ++ slashByte :: tail.bytes⟩

/-- The steps of a path, the demand of a final slash included. -/
def steps (path : Path) : List Step :=
  (splitAtEvery slashByte path.bytes).filterMap Step.ofSegment? ++
    if path.endsWithSlash then [.current] else []

/-- Drops slashes and `.` segments from the front of a path that is read backwards, except a slash
that is all there is. -/
private def trimReversed : List UInt8 → List UInt8
  | [] => []
  | [byte] => [byte]
  | first :: second :: rest =>
    if first = slashByte then trimReversed (second :: rest)
    else if first = dotByte ∧ second = slashByte then trimReversed (second :: rest)
    else first :: second :: rest

/-- The path without its last segment. -/
def parent (path : Path) : Path :=
  ⟨(trimReversed ((trimReversed path.bytes.reverse).dropWhile (· ≠ slashByte))).reverse⟩

end Path

end ShaderCheck
