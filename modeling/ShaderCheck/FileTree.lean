/-
**File trees.**

A file tree is the part of the world that a check reads: directories, files with their bytes, and
symbolic links with the path they were made with. Every node has a location, its names from the
root on, and relative paths start at the working directory.

A path is followed one step at a time. Meeting a link goes on with the link's own path, from the
directory that holds the link or from the root, and then with what is left. A resolution follows at
most forty links. Writing goes where reading would look: missing directories on the way are made, links
are followed, and a file at the end is written anew.

* `FileTree.node?`: the node at a location;
* `FileTree.entries`: the names in a directory, strictly increasing;
* `FileTree.locate`: the location that a path leads to, links followed;
* `FileTree.directory?`: the same, for a path to a directory: its canonical form;
* `FileTree.readText`: the text of the file that a path leads to; `FileError`: why it leads to no text;
* `FileTree.write`, `FileTree.link`: a file written, and a link made.
-/

import ShaderCheck.Ordered
import ShaderCheck.Path

namespace ShaderCheck

/-! ### Nodes -/

/-- The names that lead from the root to a node. -/
abbrev Location := List Name

/-- What stands at a location. -/
inductive Node
  | directory
  | file (bytes : ByteArray)
  | link (target : Path)

/-- Whether a directory was found can be told without comparing files. -/
instance (node? : Option Node) : Decidable (node? = some .directory) :=
  match node? with
  | some .directory => isTrue rfl
  | some (.file _) | some (.link _) | none => isFalse nofun

/-- Directories, files and links, and the directory that relative paths start from. The root is
always a directory. -/
structure FileTree where
  nodes : List (Location × Node)
  workingDirectory : Location

/-- Why a path leads nowhere, or to no text. -/
inductive FileError
  /-- An entry on the way is missing. -/
  | notFound
  /-- An entry on the way is a file. -/
  | notDirectory
  /-- The text of a directory was asked for. -/
  | isDirectory
  /-- More links were met than a resolution follows. -/
  | tooManyLinks
  /-- The bytes of the file are no text. -/
  | notText
deriving DecidableEq, Repr

/-- The wording of a file error. -/
def FileError.message : FileError → String
  | .notFound => "No such file or directory (os error 2)"
  | .notDirectory => "Not a directory (os error 20)"
  | .isDirectory => "Is a directory (os error 21)"
  | .tooManyLinks => "Too many levels of symbolic links (os error 40)"
  | .notText => "stream did not contain valid UTF-8"

namespace FileTree

/-- The tree that holds nothing but its working directory. -/
def empty (workingDirectory : Location) : FileTree :=
  ⟨(List.range workingDirectory.length).map fun depth =>
    (workingDirectory.take (depth + 1), .directory), workingDirectory⟩

/-- The node at a location. -/
def node? (tree : FileTree) (location : Location) : Option Node :=
  if location = [] then some .directory else tree.nodes.lookup location

/-- The locations of all directories. -/
def directories (tree : FileTree) : List Location :=
  [] :: (tree.nodes.map Prod.fst).filter fun location => tree.node? location = some .directory

/-- The names of the nodes directly below a location, strictly increasing. -/
def entries (tree : FileTree) (location : Location) : List Name :=
  Ordered.ofList ((tree.nodes.map Prod.fst).filterMap fun below =>
    if below.dropLast = location then below.getLast? else none)

/-- A directory's location is among all directories. -/
theorem mem_directories {tree : FileTree} {location : Location}
    (directory : tree.node? location = some .directory) : location ∈ tree.directories := by
  unfold directories
  by_cases root : location = []
  · simp [root]
  · refine List.mem_cons_of_mem _ (List.mem_filter.mpr ⟨?_, by simp [directory]⟩)
    unfold node? at directory
    rw [if_neg root] at directory
    obtain ⟨before, after, split, _⟩ := List.lookup_eq_some_iff.mp directory
    rw [split]
    simp

/-! ### Following paths -/

/-- The number of links that one resolution follows. -/
def linkLimit : Nat := 40

/-- Follows steps from a location, giving what is left to `onLink` at the first link: the directory
to go on from and the steps to take. -/
def walkTo (tree : FileTree) (onLink : Location → List Step → Except FileError Location) :
    Location → List Step → Except FileError Location
  | here, [] => .ok here
  | here, step :: rest =>
    if tree.node? here = some .directory then
      match step with
      | .current => walkTo tree onLink here rest
      | .parent => walkTo tree onLink here.dropLast rest
      | .entry name =>
        match tree.node? (here ++ [name]) with
        | none => .error .notFound
        | some (.link target) =>
          if target.bytes = [] then .error .notFound
          else onLink (if target.isAbsolute then [] else here) (target.steps ++ rest)
        | some _ => walkTo tree onLink (here ++ [name]) rest
    else .error .notDirectory

/-- Follows steps from a location through at most so many links. -/
def walk (tree : FileTree) : Nat → Location → List Step → Except FileError Location
  | 0 => tree.walkTo fun _ _ => .error .tooManyLinks
  | links + 1 => tree.walkTo (tree.walk links)

/-- The directory that a path starts from. -/
def start (tree : FileTree) (path : Path) : Location :=
  if path.isAbsolute then [] else tree.workingDirectory

/-- The location that a path leads to. The empty path leads nowhere. -/
def locate (tree : FileTree) (path : Path) : Except FileError Location :=
  if path.bytes = [] then .error .notFound
  else tree.walk linkLimit (tree.start path) path.steps

/-- The location of the directory that a path leads to. -/
def directory? (tree : FileTree) (path : Path) : Option Location :=
  match tree.locate path with
  | .ok location => if tree.node? location = some .directory then some location else none
  | .error _ => none

/-- Whether a path leads to a directory. -/
def isDirectory (tree : FileTree) (path : Path) : Bool :=
  (tree.directory? path).isSome

/-- Whether a path leads to a file. -/
def isFile (tree : FileTree) (path : Path) : Bool :=
  match tree.locate path with
  | .ok location =>
    match tree.node? location with
    | some (.file _) => true
    | _ => false
  | .error _ => false

/-- The text of the file that a path leads to. -/
def readText (tree : FileTree) (path : Path) : Except FileError String :=
  match tree.locate path with
  | .error error => .error error
  | .ok location =>
    match tree.node? location with
    | some .directory => .error .isDirectory
    | some (.file bytes) =>
      match String.fromUTF8? bytes with
      | some text => .ok text
      | none => .error .notText
    | _ => .error .notFound

/-- What `directory?` finds is a directory. -/
theorem node?_of_directory? {tree : FileTree} {path : Path} {location : Location}
    (found : tree.directory? path = some location) : tree.node? location = some .directory := by
  unfold directory? at found
  split at found
  · split at found
    · rename_i directory
      rw [← Option.some.inj found]
      exact directory
    · simp at found
  · simp at found

/-! ### Changing file trees -/

/-- The tree with a node at a location. -/
def put (tree : FileTree) (location : Location) (node : Node) : FileTree :=
  { tree with nodes := tree.nodes.filter (·.1 ≠ location) ++ [(location, node)] }

/-- Follows steps from a directory, making every directory that is missing. A link that leads
nowhere ends the way. -/
def makeSteps (tree : FileTree) (here : Location) : List Step → FileTree × Location
  | [] => (tree, here)
  | .current :: rest => makeSteps tree here rest
  | .parent :: rest => makeSteps tree here.dropLast rest
  | .entry name :: rest =>
    match tree.node? (here ++ [name]) with
    | none => makeSteps (tree.put (here ++ [name]) .directory) (here ++ [name]) rest
    | some (.link _) =>
      match tree.walk linkLimit here [.entry name] with
      | .ok location => makeSteps tree location rest
      | .error _ => (tree, here)
    | some _ => makeSteps tree (here ++ [name]) rest

/-- The location that a file written by these steps gets, through at most so many links. -/
def creationPlace (tree : FileTree) : Nat → Location → List Step → Option Location
  | links, start, steps =>
    match steps.getLast? with
    | some (.entry name) =>
      match tree.walk linkLimit start steps.dropLast with
      | .ok here =>
        match tree.node? (here ++ [name]), links with
        | some (.link target), links + 1 =>
          creationPlace tree links (if target.isAbsolute then [] else here) target.steps
        | some (.link _), 0 => none
        | _, _ => some (here ++ [name])
      | .error _ => none
    | _ => none

/-- The tree with the directories before the path's last name made. -/
def makeParents (tree : FileTree) (path : Path) : FileTree :=
  (tree.makeSteps (tree.start path) path.steps.dropLast).1

/-- The tree with a file of these bytes at the path, its directories made. -/
def write (tree : FileTree) (path : Path) (bytes : ByteArray) : FileTree :=
  let tree := tree.makeParents path
  match tree.creationPlace linkLimit (tree.start path) path.steps with
  | some location => tree.put location (.file bytes)
  | none => tree

/-- The location of the entry itself that a path names, links before it followed. -/
def entryPlace? (tree : FileTree) (path : Path) : Option Location :=
  match path.steps.getLast? with
  | some (.entry name) =>
    match tree.walk linkLimit (tree.start path) path.steps.dropLast with
    | .ok here => some (here ++ [name])
    | .error _ => none
  | _ => none

/-- The tree with a link at the path, its directories made. -/
def link (tree : FileTree) (path target : Path) : FileTree :=
  let tree := tree.makeParents path
  match tree.entryPlace? path with
  | some location => tree.put location (.link target)
  | none => tree

end FileTree

end ShaderCheck
