/-
**What a scan lists, and in what order.**

A scan only lists paths that lead down from its folder. It asks the file system whether a path leads to a
directory, then for the place of the directory and for what it holds. The last two can fail, which ends
the scan, and the entries come in any order. But where there is a directory neither of them fails, and the
entries are sorted before they are visited.

Every directory is visited in the order of its names, and what is found below an entry has the path of
the entry in front. So the files of a scan are in the order of their paths, component by component, and
none is listed twice. Texts are no measure for this: a slash comes behind some characters that names
can hold.

* `FileTree.scanEntry`, `FileTree.scanBelow_of_not_mem`: what a scan meets in a directory, entry by
  entry;
* `FileTree.below_of_mem_scan`: every file that a scan lists is below its folder;
* `Enumeration`, `FileTree.scanCalls`: in what order a file system gives the entries of its directories,
  and a scan that ends at the first call that fails;
* `FileTree.scanCalls_eq`: none fails, and the scan meets what `FileTree.scan` says;
* `FileTree.pairwise_scanBelow`, `FileTree.nodup_files_scan`: files are listed in the order of their
  paths, and none twice;
* `FileTree.scan_ordered`: and so in the same order, however directories are enumerated.
-/

import ShaderCheck.FileTree
import ShaderCheck.Message
import ShaderCheck.Proofs.FileTree.Walk
import ShaderCheck.Proofs.Path
import ShaderCheck.Registry

namespace ShaderCheck

/-! ### Paths below the folder -/

theorem ScanEvent.mem_files {events : List ScanEvent} {path : Path} :
    path ∈ ScanEvent.files events ↔ .file path ∈ events := by
  refine ⟨fun listed => ?_, fun member => List.mem_filterMap.mpr ⟨_, member, rfl⟩⟩
  obtain ⟨event, member, file⟩ := List.mem_filterMap.mp listed
  cases event with
  | file found => rwa [Option.some.inj file] at member
  | loop found => cases file

namespace FileTree

variable {tree : FileTree} {extensions : List String} {folder path : Path}

/-- A path to a directory has a text. -/
theorem bytes_ne_nil_of_directory? {location : Location}
    (found : tree.directory? folder = some location) : folder.bytes ≠ [] := by
  intro empty
  simp [directory?, locate, empty] at found

/-- A scan meets nothing at a path that leads to no directory. -/
theorem scanBelow_of_none {chain : List Location} (missing : tree.directory? folder = none) :
    tree.scanBelow extensions chain folder = [] := by
  rw [scanBelow]
  split
  · rfl
  · rename_i location found
    rw [missing] at found
    cases found

/-- A scan passes over a directory that is being scanned. -/
theorem scanBelow_of_mem {chain : List Location} {location : Location}
    (found : tree.directory? folder = some location) (active : location ∈ chain) :
    tree.scanBelow extensions chain folder = [.loop folder] := by
  rw [scanBelow]
  split
  · rename_i missing
    rw [found] at missing
    cases missing
  · rename_i other again
    obtain rfl : location = other := Option.some.inj (found.symm.trans again)
    rw [dif_pos active]

/-- What a scan meets at an entry of a folder: what a scan of it meets, if it is a directory, and the
entry itself if it is a file with a wanted extension. -/
def scanEntry (tree : FileTree) (extensions : List String) (chain : List Location) (folder : Path)
    (name : Name) : List ScanEvent :=
  if tree.isDirectory (folder.join name.path) then
    tree.scanBelow extensions chain (folder.join name.path)
  else
    match name.extension? with
    | some wanted => if wanted ∈ extensions then [.file (folder.join name.path)] else []
    | none => []

/-- A scan of a directory that is not being scanned meets what it meets at the entries, in order. -/
theorem scanBelow_of_not_mem {chain : List Location} {location : Location}
    (found : tree.directory? folder = some location) (fresh : location ∉ chain) :
    tree.scanBelow extensions chain folder =
      (tree.entries location).flatMap (tree.scanEntry extensions (location :: chain) folder) := by
  rw [scanBelow]
  split
  · rename_i missing
    rw [found] at missing
    cases missing
  · rename_i other again
    obtain rfl : location = other := Option.some.inj (found.symm.trans again)
    exact (dif_neg fresh).trans rfl

/-- The files met at an entry are those met in it, if it is a directory, and if not the entry itself
with a wanted extension. -/
theorem mem_scanEntry_iff {chain : List Location} {name : Name} :
    .file path ∈ tree.scanEntry extensions chain folder name ↔
      if tree.isDirectory (folder.join name.path) then
        .file path ∈ tree.scanBelow extensions chain (folder.join name.path)
      else path = folder.join name.path ∧ ∃ wanted ∈ extensions, name.extension? = some wanted := by
  unfold scanEntry
  by_cases directory : tree.isDirectory (folder.join name.path)
  · rw [if_pos directory, if_pos directory]
  · rw [if_neg directory, if_neg directory]
    cases name.extension? with
    | none => simp
    | some wanted =>
      by_cases listed : wanted ∈ extensions
      · simp [listed]
      · simp [listed]

/-- Every file that a scan lists lies below its folder. -/
theorem below_of_mem_scanBelow {chain : List Location}
    (listed : .file path ∈ tree.scanBelow extensions chain folder) :
    folder.bytes ≠ [] ∧ folder.Below path := by
  induction chain, folder using scanBelow.induct tree with
  | case1 chain folder missing =>
    rw [scanBelow_of_none missing] at listed
    cases listed
  | case2 chain folder location found active =>
    rw [scanBelow_of_mem found active] at listed
    cases List.mem_singleton.mp listed
  | case3 chain folder location found fresh inductionStep =>
    rw [scanBelow_of_not_mem found fresh] at listed
    refine ⟨bytes_ne_nil_of_directory? found, ?_⟩
    obtain ⟨name, _, met⟩ := List.mem_flatMap.mp listed
    rw [mem_scanEntry_iff] at met
    split at met
    · exact .deeper (inductionStep name met).2
    · rw [met.1]
      exact .entry folder name

/-- Every file that a scan lists lies below its folder, which has a text. -/
theorem below_of_mem_scan (listed : path ∈ ScanEvent.files (tree.scan folder extensions)) :
    folder.bytes ≠ [] ∧ folder.Below path :=
  below_of_mem_scanBelow (ScanEvent.mem_files.mp listed)

/-- The files met at an entry of a folder are on ways down that start with the entry's name. -/
theorem exists_inside_of_mem_scanEntry {chain : List Location} {name : Name}
    (listed : path ∈ ScanEvent.files (tree.scanEntry extensions chain folder name)) :
    ∃ rest, path = folder.inside (name :: rest) := by
  have met := ScanEvent.mem_files.mp listed
  rw [mem_scanEntry_iff] at met
  split at met
  · obtain ⟨dirs, last, rfl⟩ := (below_of_mem_scanBelow met).2.exists_inside
    exact ⟨dirs ++ [last], rfl⟩
  · exact ⟨[], met.1⟩

end FileTree

/-! ### Call by call -/

/-- The names that a file system gives for a directory that is read at a path: all of its entries, in
some order. -/
structure Enumeration (tree : FileTree) where
  names (folder : Path) (location : Location) : List Name
  perm (folder : Path) (location : Location) : (names folder location).Perm (tree.entries location)

instance (tree : FileTree) : Inhabited (Enumeration tree) :=
  ⟨fun _ location => tree.entries location, fun _ _ => .refl _⟩

namespace Name

/-- The name does not come behind the other one. -/
def upTo (first second : Name) : Bool :=
  !decide (second < first)

/-- The names in order, as often as they are given. -/
def sorted (names : List Name) : List Name :=
  names.mergeSort upTo

theorem upTo_iff {first second : Name} : upTo first second ↔ ¬ second < first := by
  rw [upTo, Bool.not_eq_true', decide_eq_false_iff_not]

end Name

namespace FileTree

variable {tree : FileTree} {enumeration : Enumeration tree} {folder : Path} {location : Location}

/-- Reads the directory that a path leads to. -/
def readDirectory (tree : FileTree) (enumeration : Enumeration tree) (folder : Path) :
    Except FileError (List Name) :=
  match tree.locate folder with
  | .error error => .error error
  | .ok location =>
    if tree.node? location = some .directory then .ok (enumeration.names folder location)
    else .error .notDirectory

theorem isDirectory_iff : tree.isDirectory folder ↔ ∃ location, tree.directory? folder = some location :=
  Option.isSome_iff_exists

theorem node?_of_isDirectory (directory : tree.isDirectory folder)
    (located : tree.locate folder = .ok location) : tree.node? location = some .directory := by
  obtain ⟨place, found⟩ := isDirectory_iff.mp directory
  obtain rfl : place = location :=
    Except.ok.inj ((locate_of_directory? found).symm.trans located)
  exact node?_of_directory? found

/-- Scans a folder below the directories that are being scanned, up to the first call of the file
system that fails. -/
def scanCalls (tree : FileTree) (enumeration : Enumeration tree) (extensions : List String)
    (chain : List Location) (folder : Path) : Except ErrorChain (List ScanEvent) :=
  if _directory : tree.isDirectory folder then
    match _located : tree.locate folder with
    | .error error => .error ⟨s!"Couldn't resolve {folder.text}", [error.message]⟩
    | .ok location =>
      if _active : location ∈ chain then .ok [.loop folder]
      else
        match tree.readDirectory enumeration folder with
        | .error error => .error ⟨s!"Couldn't read {folder.text}", [error.message]⟩
        | .ok names =>
          List.flatten <$> (Name.sorted names).mapM fun name =>
            let path := folder.join name.path
            if tree.isDirectory path then
              scanCalls tree enumeration extensions (location :: chain) path
            else
              match name.extension? with
              | some wanted => .ok (if wanted ∈ extensions then [.file path] else [])
              | none => .ok []
  else .ok []
termination_by tree.freeDirectories chain
decreasing_by exact freeDirectories_cons_lt (node?_of_isDirectory _directory _located) _active

/-- However the entries of a directory come, sorting puts them in their order. -/
theorem sorted_names (enumeration : Enumeration tree) (folder : Path) (location : Location) :
    Name.sorted (enumeration.names folder location) = tree.entries location := by
  have trans (first second third : Name) (below : first.upTo second) (above : second.upTo third) :
      first.upTo third := by
    rw [Name.upTo_iff] at below above ⊢
    exact List.not_lt.mpr (List.le_trans (List.not_lt.mp below) (List.not_lt.mp above))
  have total (first second : Name) : first.upTo second || second.upTo first := by
    rw [Bool.or_eq_true, Name.upTo_iff, Name.upTo_iff]
    exact not_or_of_imp fun less => List.lt_asymm less
  have ascending := List.pairwise_mergeSort trans total (enumeration.names folder location)
  have entriesAscending : (tree.entries location).Pairwise fun first second => first.upTo second :=
    (Ordered.pairwise_ofList _).imp fun below => Name.upTo_iff.mpr (List.lt_asymm below)
  refine List.Perm.eq_of_pairwise (fun first second _ _ below above => ?_) ascending entriesAscending
    ((List.mergeSort_perm _ _).trans (enumeration.perm folder location))
  exact Std.Trichotomous.trichotomous _ _ (Name.upTo_iff.mp above) (Name.upTo_iff.mp below)

theorem readDirectory_of_directory? (found : tree.directory? folder = some location) :
    tree.readDirectory enumeration folder = .ok (enumeration.names folder location) := by
  rw [readDirectory, locate_of_directory? found]
  exact if_pos (node?_of_directory? found)

/-- In a directory no call fails, and its entries are visited in their order. -/
theorem scanCalls_of_directory? {extensions : List String} {chain : List Location}
    (found : tree.directory? folder = some location) :
    tree.scanCalls enumeration extensions chain folder =
      if location ∈ chain then .ok [.loop folder]
      else
        List.flatten <$> (tree.entries location).mapM fun name =>
          if tree.isDirectory (folder.join name.path) then
            tree.scanCalls enumeration extensions (location :: chain) (folder.join name.path)
          else
            match name.extension? with
            | some wanted =>
              .ok (if wanted ∈ extensions then [.file (folder.join name.path)] else [])
            | none => .ok [] := by
  rw [scanCalls, dif_pos (isDirectory_iff.mpr ⟨_, found⟩)]
  split
  · rename_i error located
    rw [locate_of_directory? found] at located
    cases located
  · rename_i place located
    obtain rfl : location = place :=
      Except.ok.inj ((locate_of_directory? found).symm.trans located)
    by_cases active : location ∈ chain
    · rw [dif_pos active, if_pos active]
    · rw [dif_neg active, if_neg active, readDirectory_of_directory? found]
      dsimp only
      rw [sorted_names]

/-- **No call of a scan fails**, and in whatever order the entries come, it meets the same. -/
theorem scanCalls_eq (tree : FileTree) (enumeration : Enumeration tree) (extensions : List String)
    (chain : List Location) (folder : Path) :
    tree.scanCalls enumeration extensions chain folder =
      .ok (tree.scanBelow extensions chain folder) := by
  induction chain, folder using scanBelow.induct tree with
  | case1 chain folder missing =>
    rw [scanCalls, scanBelow_of_none missing, dif_neg (by simp [isDirectory, missing])]
  | case2 chain folder location found active =>
    rw [scanCalls_of_directory? found, if_pos active, scanBelow_of_mem found active]
  | case3 chain folder location found fresh inductionStep =>
    rw [scanCalls_of_directory? found, if_neg fresh, scanBelow_of_not_mem found fresh,
      List.flatMap_def]
    have visits := @List.mapM_pure (Except ErrorChain) _ _ _ _ (tree.entries location)
      (tree.scanEntry extensions (location :: chain) folder)
    refine congrArg (List.flatten <$> ·) (Eq.trans ?_ visits)
    congr 1
    funext name
    unfold scanEntry
    by_cases deeper : tree.isDirectory (folder.join name.path)
    · rw [if_pos deeper, if_pos deeper, inductionStep name]
      rfl
    · rw [if_neg deeper, if_neg deeper]
      cases name.extension? <;> rfl

end FileTree

/-! ### The order of the files -/

namespace FileTree

variable {tree : FileTree}

/-- **Files are listed in the order of their paths.** By induction on the directories that are entered:
below an entry by the hypothesis, and between entries their names decide. -/
theorem pairwise_scanBelow (tree : FileTree) (extensions : List String) (chain : List Location)
    (folder : Path) :
    (ScanEvent.files (tree.scanBelow extensions chain folder)).Pairwise (· < ·) := by
  induction chain, folder using scanBelow.induct tree with
  | case1 chain folder missing =>
    rw [scanBelow_of_none missing]
    exact .nil
  | case2 chain folder location found active =>
    rw [scanBelow_of_mem found active]
    exact .nil
  | case3 chain folder location found fresh inductionStep =>
    have filled := bytes_ne_nil_of_directory? found
    rw [scanBelow_of_not_mem found fresh, ScanEvent.files, List.filterMap_flatMap,
      List.pairwise_flatMap]
    constructor
    · intro name _
      unfold scanEntry
      split
      · exact inductionStep name
      · split
        · split
          · exact List.pairwise_singleton ..
          · exact .nil
        · exact .nil
    · refine (Ordered.pairwise_ofList _).imp fun {first second} below path listed other later => ?_
      obtain ⟨rest, rfl⟩ := exists_inside_of_mem_scanEntry listed
      obtain ⟨others, rfl⟩ := exists_inside_of_mem_scanEntry later
      exact Path.lt_of_first_lt filled below rest others

/-- No file is listed twice, since each one comes strictly behind those in front of it. -/
theorem nodup_files_scan (tree : FileTree) (folder : Path) (extensions : List String) :
    (ScanEvent.files (tree.scan folder extensions)).Nodup := by
  refine (pairwise_scanBelow tree extensions [] folder).imp fun {first second} below same => ?_
  rw [same] at below
  exact List.lt_irrefl _ below

theorem Alike.scanBelow_eq {other : FileTree} (alike : tree.Alike other) (extensions : List String)
    (chain : List Location) (folder : Path) :
    tree.scanBelow extensions chain folder = other.scanBelow extensions chain folder := by
  induction chain, folder using scanBelow.induct tree with
  | case1 chain folder missing =>
    rw [scanBelow_of_none missing, scanBelow_of_none (alike.directory?_eq folder ▸ missing)]
  | case2 chain folder location found active =>
    rw [scanBelow_of_mem found active,
      scanBelow_of_mem (alike.directory?_eq folder ▸ found) active]
  | case3 chain folder location found fresh inductionStep =>
    rw [scanBelow_of_not_mem found fresh,
      scanBelow_of_not_mem (alike.directory?_eq folder ▸ found) fresh, alike.entries_eq]
    congr 1
    funext name
    unfold scanEntry isDirectory
    rw [alike.directory?_eq, inductionStep name]

/-- **The order of a scan.** The files are listed in the order of their paths, component by component,
with names in the order of their bytes, and so none twice. In whatever order the entries of
directories are kept or enumerated, the scan is the same. -/
theorem scan_ordered (tree : FileTree) (folder : Path) (extensions : List String) :
    (ScanEvent.files (tree.scan folder extensions)).Pairwise (· < ·) ∧
      (ScanEvent.files (tree.scan folder extensions)).Nodup ∧
      (∀ other, tree.Alike other → tree.scan folder extensions = other.scan folder extensions) ∧
      ∀ enumeration : Enumeration tree,
        tree.scanCalls enumeration extensions [] folder = .ok (tree.scan folder extensions) := by
  refine ⟨pairwise_scanBelow tree extensions [] folder, nodup_files_scan tree folder extensions,
    ?_, ?_⟩
  · exact fun other alike => alike.scanBelow_eq extensions [] folder
  · exact fun enumeration => scanCalls_eq tree enumeration extensions [] folder

end FileTree

/-- Two directories that are one, with a link to the top, and a file beside them. -/
def linkedSample : FileTree :=
  FileTree.empty []
    |>.write (.ofText "/a/x.glsl") "float x;".toUTF8
    |>.link (.ofText "/a/top") (.ofText "..")
    |>.write (.ofText "/a-b.glsl") "float b;".toUTF8
    |>.link (.ofText "/c") (.ofText "a")

/-- A directory's files come before a file whose name goes on with a dash, which a text has in front of
a slash. The files of a linked directory are listed again, and the link to the top is passed over. -/
example : ScanEvent.files (linkedSample.scan (.ofText "/") ["glsl"]) =
    [.ofText "/a/x.glsl", .ofText "/a-b.glsl", .ofText "/c/x.glsl"] := by
  decide +kernel

end ShaderCheck
