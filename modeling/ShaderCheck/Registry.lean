/-
**Registering the files of folders.**

A scan lists the files of a folder that have one of the wanted extensions, the files of its folders
included. Every path is the folder's path with the names below it joined on. Links are followed; a
folder that is being scanned already, under whatever path, is passed over. A scan only goes deeper by
a directory that it is not in yet, so it ends.

The files of a folder are registered under their own paths or, when the folder has an alias, under
the alias with the rest of the path behind it. Folders are registered in order, and the first one
that is described wrongly or holds no wanted file ends the registration; what came before it stays.

* `FileTree.scan`: what a scan meets, in order;
* `ScanEvent.files`, `ScanEvent.log`: the files found, and the records of folders passed over;
* `SourceFolder.resolve`: the files of a folder with their names;
* `registerFolders`: registers a list of folders.
-/

import ShaderCheck.Config
import ShaderCheck.FileTree
import ShaderCheck.Include
import ShaderCheck.Message

namespace ShaderCheck

/-! ### Scanning folders -/

/-- What a scan meets. -/
inductive ScanEvent
  /-- A file with a wanted extension. -/
  | file (path : Path)
  /-- A folder that is being scanned already. -/
  | loop (folder : Path)
deriving DecidableEq, Repr

namespace ScanEvent

/-- The files among the events. -/
def files (events : List ScanEvent) : List Path :=
  events.filterMap fun
    | .file path => some path
    | .loop _ => none

/-- The record of a folder that is passed over. -/
def log (events : List ScanEvent) : List LogRecord :=
  events.filterMap fun
    | .file _ => none
    | .loop folder => some ⟨.debug, s!"Skipping {folder.text}, it links back to a parent folder"⟩

end ScanEvent

namespace FileTree

/-- The number of directories outside a chain. -/
def freeDirectories (tree : FileTree) (chain : List Location) : Nat :=
  (tree.directories.filter (· ∉ chain)).length

/-- Entering a directory outside the chain leaves fewer such directories. -/
theorem freeDirectories_cons_lt {tree : FileTree} {chain : List Location} {location : Location}
    (directory : tree.node? location = some .directory) (fresh : location ∉ chain) :
    tree.freeDirectories (location :: chain) < tree.freeDirectories chain := by
  unfold freeDirectories
  rw [show tree.directories.filter (fun other => other ∉ location :: chain) =
      (tree.directories.filter (· ∉ chain)).filter (· ≠ location) by
    rw [List.filter_filter]
    congr 1
    funext other
    simp]
  refine List.length_filter_lt_length_iff_exists.mpr ⟨location, ?_, by simp⟩
  exact List.mem_filter.mpr ⟨mem_directories directory, by simpa using fresh⟩

/-- Scans a folder below the directories that are being scanned. A path that leads to no directory
holds nothing. -/
def scanBelow (tree : FileTree) (extensions : List String) (chain : List Location)
    (folder : Path) : List ScanEvent :=
  match _found : tree.directory? folder with
  | none => []
  | some location =>
    if _active : location ∈ chain then [.loop folder]
    else
      (tree.entries location).flatMap fun name =>
        let path := folder.join name.path
        if tree.isDirectory path then scanBelow tree extensions (location :: chain) path
        else
          match name.extension? with
          | some wanted => if wanted ∈ extensions then [.file path] else []
          | none => []
termination_by tree.freeDirectories chain
decreasing_by exact freeDirectories_cons_lt (node?_of_directory? _found) _active

/-- Scans a folder for files with the wanted extensions. -/
def scan (tree : FileTree) (folder : Path) (extensions : List String) : List ScanEvent :=
  tree.scanBelow extensions [] folder

end FileTree

/-! ### Registration -/

/-- A folder's files, and the names that they are registered under. -/
structure ResolvedFiles where
  files : List Path
  names : List String
deriving DecidableEq, Repr

/-- The files with their names. -/
def ResolvedFiles.pairs (resolved : ResolvedFiles) : List (String × Path) :=
  resolved.names.zip resolved.files

/-- A file's path does not start with the text of the folder that it is to be named in. -/
structure OutsideFolder where
  folder : Path
  file : Path
deriving DecidableEq, Repr

/-- The wording of a file outside its folder. -/
def OutsideFolder.message (_ : OutsideFolder) : String :=
  "Scanned file outside of its folder"

/-- The name of a file when `alias` takes the place of the folder's text in the file's path. -/
def aliasName (folder : Path) (aliasText : String) (file : Path) : Except OutsideFolder String :=
  if folder.text.toList.isPrefixOf file.text.toList then
    .ok (aliasText ++ String.ofList (file.text.toList.drop folder.text.toList.length))
  else .error ⟨folder, file⟩

/-- The names of files under an alias. -/
def aliasNames (folder : Path) (aliasText : String) (files : List Path) :
    Except OutsideFolder (List String) :=
  files.mapM (aliasName folder aliasText)

/-- The names of files registered under their own paths. -/
def pathNames (files : List Path) : List String :=
  files.map Path.text

/-- What resolving a folder gives: its files and their names, or why there are none, and the
records of the scan. -/
structure FolderResolution where
  result : Except ConfigError ResolvedFiles
  log : List LogRecord

namespace SourceFolder

/-- The names of a folder's files. -/
def namesOf (folder : SourceFolder) (files : List Path) : Except OutsideFolder (List String) :=
  match folder.aliasText with
  | some aliasText => aliasNames folder.path aliasText files
  | none => .ok (pathNames files)

/-- Scans a folder and names its files. -/
def resolve (tree : FileTree) (folder : SourceFolder) : FolderResolution :=
  let events := tree.scan folder.path folder.extensions
  let files := ScanEvent.files events
  let result :=
    if files = [] then .error (.noFilesWithExtensionFound folder.path.text)
    else
      match folder.namesOf files with
      | .ok names => .ok ⟨files, names⟩
      | .error outside => .error (.directoryScanFailed folder.path.text outside.message)
  ⟨result, ScanEvent.log events⟩

end SourceFolder

/-- What a registration gives: the names registered, in order, or the error that ended it; the named
sources after it; and its records. -/
structure Registration where
  result : Except ConfigError (List String)
  sources : NamedSources
  log : List LogRecord

/-- Registers the folders that the values describe, relative to `base`, up to the first error. -/
def registerEach (tree : FileTree) (base : Path) (sources : NamedSources) :
    List Json → Registration
  | [] => ⟨.ok [], sources, []⟩
  | value :: rest =>
    match SourceFolder.ofJson value base with
    | .error error => ⟨.error error, sources, []⟩
    | .ok folder =>
      let resolution := folder.resolve tree
      match resolution.result with
      | .error error => ⟨.error error, sources, resolution.log⟩
      | .ok resolved =>
        let later := registerEach tree base (sources.insertMany resolved.pairs) rest
        ⟨later.result.map (resolved.names ++ ·), later.sources, resolution.log ++ later.log⟩

/-- The records of the names that were registered. -/
def registeredLog : Except ConfigError (List String) → List LogRecord
  | .ok (name :: names) =>
    ⟨.debug, "Registered Named Strings:"⟩ ::
      (name :: names).map fun registered => ⟨.debug, "    " ++ registered⟩
  | _ => []

/-- Registers the folders that the values describe, relative to `base`, and records their names. -/
def registerFolders (tree : FileTree) (base : Path) (sources : NamedSources)
    (values : List Json) : Registration :=
  let registration := registerEach tree base sources values
  { registration with log := registration.log ++ registeredLog registration.result }

end ShaderCheck
