/-
**Expansion of include lines.**

Two kinds of line mean something to the expansion, and both may be spaced with any white space: an
include line, `#include "name"` or `#include <name>`, with nothing after the name, and an extension line,
which asks for the include extension.

A name with a slash in front stands for itself. Any other name is looked up next to the named source
that asks for it: the folder part of that source's name is put in front and `.` and `..` segments
are worked out. Without a folder part to start from, the name stands for itself too.

Named sources are files registered under a name; a name that is registered again stands for the last
file. Expanding a text puts the expanded text of the named source in place of every include line and
drops every extension line. A name that is asked for while it is being expanded is an error, so an
expansion only goes deeper by a registered name that is not being expanded yet, and ends.

* `Directive.ofLine?`: the directive that a line is;
* `Include.normalize`: a name with its `.` and `..` segments worked out;
* `Include.resolveName`: the name that is looked up;
* `NamedSources`: files by name;
* `NamedSources.expand`: a text with its include lines expanded; `IncludeError`: why there is none.
-/

import ShaderCheck.FileTree
import ShaderCheck.Message
import ShaderCheck.Path
import ShaderCheck.Text
import ShaderCheck.Text.Characters

namespace ShaderCheck

open Text

/-! ### Lines that are directives -/

/-- What a line asks of the expansion. -/
inductive Directive
  /-- To put a named source in its place. -/
  | inclusion (name : String)
  /-- To be dropped: it only asks for the include extension. -/
  | extensionRequest
deriving DecidableEq, Repr

namespace Directive

/-- What follows `text`, if the characters start with it. -/
def after? (text : String) (line : List Char) : Option (List Char) :=
  if text.toList.isPrefixOf line then some (line.drop text.toList.length) else none

/-- What follows at least one white space character, the others skipped too. -/
def afterBlanks? : List Char → Option (List Char)
  | [] => none
  | c :: rest => if isBlank c then some (rest.dropWhile isBlank) else none

/-- What follows `#` and the directive's keyword and at least one white space character. -/
def argument? (keyword : String) (line : List Char) : Option (List Char) := do
  let mark ← after? "#" (line.dropWhile isBlank)
  let word ← after? keyword (mark.dropWhile isBlank)
  afterBlanks? word

/-- The name up to `closing`, if it is not empty and only white space follows. -/
def nameBefore? (closing : Char) (argument : List Char) : Option String :=
  match argument.dropWhile (· ≠ closing) with
  | [] => none
  | _ :: rest =>
    let name := argument.takeWhile (· ≠ closing)
    if name ≠ [] ∧ rest.all isBlank then some (String.ofList name) else none

/-- The name that an include line asks for. -/
def requestedName? (line : List Char) : Option String := do
  match ← argument? "include" line with
  | '"' :: rest => nameBefore? '"' rest
  | '<' :: rest => nameBefore? '>' rest
  | _ => none

/-- Whether a line asks for the include extension, as a whole word. -/
def requestsExtension (line : List Char) : Bool :=
  match argument? "extension" line with
  | none => false
  | some argument =>
    match after? "GL_ARB_shading_language_include" argument with
    | none => false
    | some [] => true
    | some (c :: _) => !isWordChar c

/-- The directive that a line is, if it is one. -/
def ofLine? (line : String) : Option Directive :=
  if requestsExtension line.toList then some .extensionRequest
  else (requestedName? line.toList).map .inclusion

end Directive

/-! ### Names that include lines ask for -/

namespace Include

/-- Adds a segment to the segments before it, the last one first. `.` adds nothing, and `..` takes
back a segment that is neither empty nor `..` itself. -/
def pushSegment (before : List (List Char)) (segment : List Char) : List (List Char) :=
  if segment = ['.'] then before
  else if segment = ['.', '.'] then
    match before with
    | last :: earlier =>
      if last ≠ [] ∧ last ≠ ['.', '.'] then earlier else segment :: before
    | [] => [segment]
  else segment :: before

/-- The segments with `.` and `..` worked out. -/
def normalizeSegments (segments : List (List Char)) : List (List Char) :=
  (segments.foldl pushSegment []).reverse

/-- The name with its `.` and `..` segments worked out. -/
def normalize (name : String) : String :=
  String.ofList (['/'].intercalate (normalizeSegments (splitAtEvery '/' name.toList)))

/-- The part of a name before its last slash. -/
def folderOf? (name : String) : Option String :=
  match name.toList.reverse.dropWhile (· ≠ '/') with
  | [] => none
  | _ :: folder => some (String.ofList folder.reverse)

/-- The name that is looked up for `requested`, when the source named `current` asks for it. -/
def resolveName (requested : String) (current : Option String) : String :=
  if requested.toList.head? = some '/' then requested
  else
    match current.bind folderOf? with
    | some folder => normalize (folder ++ "/" ++ requested)
    | none => requested

end Include

/-! ### Expansion -/

/-- Files registered under names. -/
abbrev NamedSources := Table Path

/-- Why an include line has no expansion. -/
inductive IncludeError
  /-- No file is registered under the name. -/
  | notRegistered (name : String)
  /-- The name is asked for while it is being expanded. -/
  | recursion (name : String)
  /-- The file registered under the name has no text. -/
  | unreadable (name : String) (file : Path) (cause : FileError)
deriving DecidableEq, Repr

/-- The wording of an include error. -/
def IncludeError.chain : IncludeError → ErrorChain
  | .notRegistered name => .ofMessage s!"Named string {name} is not registered."
  | .recursion name => .ofMessage s!"Recursion: named string {name} already inflated."
  | .unreadable name file cause =>
    ⟨s!"Couldn't read {file.text} for named string {name}", [cause.message]⟩

/-- The lines of a text that the source `current` holds, extension lines dropped and `inflate` put
in place of include lines, up to the first error. -/
def expandLines (inflate : String → Except IncludeError String) (current : Option String) :
    List String → Except IncludeError (List String)
  | [] => .ok []
  | line :: rest =>
    match Directive.ofLine? line with
    | some .extensionRequest => expandLines inflate current rest
    | some (.inclusion requested) => do
      let inlined ← inflate (Include.resolveName requested current)
      let later ← expandLines inflate current rest
      return inlined :: later
    | none => do
      let later ← expandLines inflate current rest
      return line :: later

namespace NamedSources

/-- The number of registered names that are not being expanded. -/
def freeNames (sources : NamedSources) (inflating : List String) : Nat :=
  (sources.keys.filter (· ∉ inflating)).length

/-- Expanding a registered name that is not being expanded leaves fewer such names. -/
theorem freeNames_cons_lt {sources : NamedSources} {inflating : List String} {name : String}
    {file : Path} (registered : sources.get? name = some file) (fresh : name ∉ inflating) :
    sources.freeNames (name :: inflating) < sources.freeNames inflating := by
  have key : name ∈ sources.keys := by
    obtain ⟨before, after, split, _⟩ := List.lookup_eq_some_iff.mp registered
    unfold Table.keys
    rw [split]
    simp
  unfold freeNames
  rw [show sources.keys.filter (fun other => other ∉ name :: inflating) =
      (sources.keys.filter (· ∉ inflating)).filter (· ≠ name) by
    rw [List.filter_filter]
    congr 1
    funext other
    simp]
  refine List.length_filter_lt_length_iff_exists.mpr ⟨name, ?_, by simp⟩
  exact List.mem_filter.mpr ⟨key, by simpa using fresh⟩

/-- Expands a text below the names that are being expanded, the innermost one first. -/
def expandBelow (tree : FileTree) (sources : NamedSources) (inflating : List String)
    (text : String) : Except IncludeError String := do
  let lines ← expandLines (fun name =>
    match _registered : sources.get? name with
    | none => .error (.notRegistered name)
    | some file =>
      if _active : name ∈ inflating then .error (.recursion name)
      else
        match tree.readText file with
        | .error cause => .error (.unreadable name file cause)
        | .ok content => expandBelow tree sources (name :: inflating) content)
    inflating.head? (splitLines text)
  return joinLines lines
termination_by sources.freeNames inflating
decreasing_by exact freeNames_cons_lt _registered _active

/-- The text with its include lines expanded. -/
def expand (tree : FileTree) (sources : NamedSources) (text : String) :
    Except IncludeError String :=
  expandBelow tree sources [] text

end NamedSources

end ShaderCheck
