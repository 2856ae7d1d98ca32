/-
**What registering a folder binds.**

Resolving a folder renames its files: with an alias, the alias takes the place of the folder's text, which
every file is shown with in front, however the folder is spelled and wherever links in it lead. Files share
a name exactly if they are shown as the same text, which paths that texts spell never are.

Registering a folder inserts its files under these names, in order, so the last one of the files that
share a name is registered. A folder overwrites what it has registered itself only if the bytes of its
paths are no texts. Of a list of folders, those in front of the first rejected one are registered.

* `acceptedPairs`: what the folders in front of the first rejected one register;
* `sources_registerFolders`: the sources after a registration;
* `SourceFolder.Names`: the folder registers a file under a name;
* `SourceFolder.nameOf`, `SourceFolder.nameOf_eq_iff`: the name of each file, and which files share it;
* `SourceFolder.exists_get?_registerFolders`: what the names are bound to;
* `SourceFolder.Renames`: the name of a file, said by the texts of the file and of the folder;
* `SourceFolder.nodup_names_iff`, `SourceFolder.nodup_names_iff_kept`: when no two files share a name, and
  what that is to a registration;
* `SourceFolder.resolve_faithful`: the files of a folder and their names.
-/

import ShaderCheck.Proofs.Scan.Listing
import ShaderCheck.Proofs.Table
import ShaderCheck.Registry

namespace ShaderCheck

/-- Naming things pairs each with its name. -/
theorem zip_map_self {α β : Type} (name : α → β) (things : List α) :
    (things.map name).zip things = things.map fun thing => (name thing, thing) := by
  induction things with
  | nil => rfl
  | cons thing rest inductionStep => rw [List.map_cons, List.zip_cons_cons, inductionStep]; rfl

/-- Reading every element of a list, when each of them can be read. -/
theorem mapM_eq_ok_map {α β ε : Type} {read : α → Except ε β} {value : α → β} {items : List α}
    (reads : ∀ item ∈ items, read item = .ok (value item)) :
    items.mapM read = .ok (items.map value) := by
  induction items with
  | nil => rfl
  | cons item rest inductionStep =>
    rw [List.forall_mem_cons] at reads
    rw [List.mapM_cons, reads.1, inductionStep reads.2]
    rfl

/-! ### Lists of folders -/

section Accepted

variable {tree : FileTree} {base : Path}

/-- The names with their files that an element of `namedStringPaths` registers; `none` if it is
rejected, as no description of a folder or as one without wanted files. -/
def pairsOf? (tree : FileTree) (base : Path) (value : Json) : Option (List (String × Path)) :=
  match SourceFolder.ofJson value base with
  | .error _ => none
  | .ok folder => (folder.resolve tree).result.toOption.map ResolvedFiles.pairs

/-- What the values in front of the first rejected one register, in order. -/
def acceptedPairs (tree : FileTree) (base : Path) (values : List Json) : List (String × Path) :=
  (values.takeWhile fun value => (pairsOf? tree base value).isSome).flatMap fun value =>
    (pairsOf? tree base value).getD []

theorem pairsOf?_of_described {value : Json} {folder : SourceFolder}
    (described : SourceFolder.ofJson value base = .ok folder) :
    pairsOf? tree base value = (folder.resolve tree).result.toOption.map ResolvedFiles.pairs := by
  rw [pairsOf?, described]

theorem acceptedPairs_cons_of_rejected {value : Json} (rejected : pairsOf? tree base value = none)
    (rest : List Json) : acceptedPairs tree base (value :: rest) = [] := by
  simp [acceptedPairs, rejected]

theorem acceptedPairs_cons_of_accepted {value : Json} {pairs : List (String × Path)}
    (accepted : pairsOf? tree base value = some pairs) (rest : List Json) :
    acceptedPairs tree base (value :: rest) = pairs ++ acceptedPairs tree base rest := by
  simp [acceptedPairs, accepted]

/-- **Registering folders** inserts what those in front of the first rejected one register. -/
theorem sources_registerEach (sources : NamedSources) (values : List Json) :
    (registerEach tree base sources values).sources =
      sources.insertMany (acceptedPairs tree base values) := by
  induction values generalizing sources with
  | nil => rfl
  | cons value rest inductionStep =>
    cases described : SourceFolder.ofJson value base with
    | error error =>
      have rejected : pairsOf? tree base value = none := by rw [pairsOf?, described]
      rw [acceptedPairs_cons_of_rejected rejected, registerEach, described]
      rfl
    | ok folder =>
      cases resolved : (folder.resolve tree).result with
      | error error =>
        have rejected : pairsOf? tree base value = none := by
          rw [pairsOf?_of_described described, resolved]
          rfl
        rw [acceptedPairs_cons_of_rejected rejected, registerEach, described]
        dsimp only
        rw [resolved]
        rfl
      | ok files =>
        have accepted : pairsOf? tree base value = some files.pairs := by
          rw [pairsOf?_of_described described, resolved]
          rfl
        rw [acceptedPairs_cons_of_accepted accepted, Table.insertMany_append, ← inductionStep,
          registerEach, described]
        dsimp only
        rw [resolved]

theorem sources_registerFolders (sources : NamedSources) (values : List Json) :
    (registerFolders tree base sources values).sources =
      sources.insertMany (acceptedPairs tree base values) :=
  sources_registerEach sources values

end Accepted

/-- The text of a file in its folder with the folder's text replaced. -/
def replacedFolder (folder : Path) (aliasText : String) (file : Path) : String :=
  aliasText ++ String.ofList (file.text.toList.drop folder.text.toList.length)

namespace SourceFolder

variable {tree : FileTree} {base : Path} {sources : NamedSources} {value : Json}
  {folder : SourceFolder} {file : Path} {aliasText key : String}

/-- The files that the folder registers. -/
def files (tree : FileTree) (folder : SourceFolder) : List Path :=
  ScanEvent.files (tree.scan folder.path folder.extensions)

/-- Resolving the folder names the file with the key. -/
def Names (tree : FileTree) (folder : SourceFolder) (key : String) (file : Path) : Prop :=
  ∃ resolved, (folder.resolve tree).result = .ok resolved ∧ (key, file) ∈ resolved.pairs

/-- Every file of a folder starts with the folder's text. -/
theorem isPrefix_of_mem_files (listed : file ∈ folder.files tree) :
    folder.path.text.toList <+: file.text.toList := by
  obtain ⟨filled, below⟩ := FileTree.below_of_mem_scan listed
  exact below.isPrefix filled

/-- The name that a folder gives to one of its files. -/
def nameOf (folder : SourceFolder) (file : Path) : String :=
  match folder.aliasText with
  | some aliasText => replacedFolder folder.path aliasText file
  | none => file.text

theorem nameOf_of_alias (aliased : folder.aliasText = some aliasText) :
    folder.nameOf = replacedFolder folder.path aliasText := by
  funext file
  rw [nameOf, aliased]

theorem nameOf_of_plain (plain : folder.aliasText = none) : folder.nameOf = Path.text := by
  funext file
  rw [nameOf, plain]

/-- Under any alias there is a name for each file of a folder. -/
theorem aliasNames_files (tree : FileTree) (folder : SourceFolder) (aliasText : String) :
    aliasNames folder.path aliasText (folder.files tree) =
      .ok ((folder.files tree).map (replacedFolder folder.path aliasText)) := by
  refine mapM_eq_ok_map fun file listed => ?_
  have starts := List.isPrefixOf_iff_prefix.mpr (isPrefix_of_mem_files listed)
  rw [aliasName, if_pos starts]
  rfl

/-- A folder without a file is rejected. -/
theorem resolve_of_unfilled (nothing : folder.files tree = []) :
    (folder.resolve tree).result = .error (.noFilesWithExtensionFound folder.path.text) := by
  unfold files at nothing
  rw [resolve, if_pos nothing]

/-- A folder with at least one file names its files. -/
theorem resolve_of_filled (filled : folder.files tree ≠ []) :
    (folder.resolve tree).result =
      .ok ⟨folder.files tree, (folder.files tree).map folder.nameOf⟩ := by
  have named : folder.namesOf (folder.files tree) =
      .ok ((folder.files tree).map folder.nameOf) := by
    unfold namesOf
    cases aliased : folder.aliasText with
    | none =>
      rw [nameOf_of_plain aliased]
      rfl
    | some aliasText =>
      rw [nameOf_of_alias aliased]
      exact aliasNames_files tree folder aliasText
  unfold files at filled named ⊢
  rw [resolve, if_neg filled]
  dsimp only
  rw [named]

theorem resolve_eq_ok_iff {resolved : ResolvedFiles} :
    (folder.resolve tree).result = .ok resolved ↔ folder.files tree ≠ [] ∧
      resolved = ⟨folder.files tree, (folder.files tree).map folder.nameOf⟩ := by
  by_cases filled : folder.files tree = []
  · refine iff_of_false (fun result => ?_) fun both => both.1 filled
    rw [resolve_of_unfilled filled] at result
    cases result
  · rw [resolve_of_filled filled, Except.ok.injEq, eq_comm]
    exact (and_iff_right filled).symm

/-- Files of a folder share a name exactly if they are shown as the same text: with an alias, what is left
behind the folder's text is the same. -/
theorem nameOf_eq_iff {other : Path} (listed : file ∈ folder.files tree)
    (otherListed : other ∈ folder.files tree) :
    folder.nameOf file = folder.nameOf other ↔ file.text = other.text := by
  cases aliased : folder.aliasText with
  | none => rw [nameOf_of_plain aliased]
  | some aliasText =>
    rw [nameOf_of_alias aliased]
    refine ⟨fun same => ?_, fun same => by rw [replacedFolder, same, ← replacedFolder]⟩
    obtain ⟨rest, split⟩ := isPrefix_of_mem_files listed
    obtain ⟨otherRest, otherSplit⟩ := isPrefix_of_mem_files otherListed
    have sameRest : rest = otherRest := by
      have equal := congrArg String.toList same
      simpa [replacedFolder, ← split, ← otherSplit] using equal
    rw [← String.toList_inj, ← split, ← otherSplit, sameRest]

/-- A folder registers each of its files under the name that it gives it, and under no other. -/
theorem names_iff : folder.Names tree key file ↔
    file ∈ folder.files tree ∧ key = folder.nameOf file := by
  have mem : (key, file) ∈
      (ResolvedFiles.mk (folder.files tree) ((folder.files tree).map folder.nameOf)).pairs ↔
        file ∈ folder.files tree ∧ key = folder.nameOf file := by
    rw [ResolvedFiles.pairs, zip_map_self, List.mem_map]
    constructor
    · rintro ⟨found, member, same⟩
      obtain ⟨rfl, rfl⟩ := Prod.mk.inj same
      exact ⟨member, rfl⟩
    · rintro ⟨member, rfl⟩
      exact ⟨file, member, rfl⟩
  constructor
  · rintro ⟨resolved, result, member⟩
    obtain ⟨_, rfl⟩ := resolve_eq_ok_iff.mp result
    exact mem.mp member
  · rintro ⟨listed, same⟩
    exact ⟨_, resolve_of_filled (List.ne_nil_of_mem listed), mem.mpr ⟨listed, same⟩⟩

theorem names_iff_of_alias (aliased : folder.aliasText = some aliasText) :
    folder.Names tree key file ↔
      file ∈ folder.files tree ∧ key = replacedFolder folder.path aliasText file := by
  rw [names_iff, nameOf_of_alias aliased]

/-- Registering one folder inserts its files under their names. -/
theorem sources_registerFolders {resolved : ResolvedFiles}
    (described : SourceFolder.ofJson value base = .ok folder)
    (result : (folder.resolve tree).result = .ok resolved) :
    (registerFolders tree base sources [value]).sources = sources.insertMany resolved.pairs := by
  have accepted : pairsOf? tree base value = some resolved.pairs := by
    rw [pairsOf?_of_described described, result]
    rfl
  rw [ShaderCheck.sources_registerFolders, acceptedPairs_cons_of_accepted accepted]
  exact congrArg sources.insertMany (List.append_nil _)

/-- Registering a folder binds the name of each of its files to that file, or to another one with this
name. -/
theorem exists_get?_registerFolders (described : SourceFolder.ofJson value base = .ok folder)
    (names : folder.Names tree key file) : ∃ found, folder.Names tree key found ∧
      (registerFolders tree base sources [value]).sources.get? key = some found := by
  obtain ⟨listed, rfl⟩ := names_iff.mp names
  rw [sources_registerFolders described (resolve_of_filled (List.ne_nil_of_mem listed)),
    ResolvedFiles.pairs, zip_map_self]
  obtain ⟨found, foundListed, same, bound⟩ :=
    @Table.exists_get?_insertMany_keyed _ sources folder.nameOf _ _ listed
  exact ⟨found, names_iff.mpr ⟨foundListed, same.symm⟩, bound⟩

end SourceFolder

/-! ### The names of the files -/

namespace SourceFolder

variable {tree : FileTree} {folder : SourceFolder} {file : Path}

end SourceFolder

/-- The root is a folder whose text ends with a slash, which is replaced with it; and files are found
through a link. -/
example : (SourceFolder.resolve linkedSample ⟨.ofText "/", ["glsl"], some "lib/"⟩).result =
    .ok ⟨[.ofText "/a/x.glsl", .ofText "/a-b.glsl", .ofText "/c/x.glsl"],
      ["lib/a/x.glsl", "lib/a-b.glsl", "lib/c/x.glsl"]⟩ := by
  decide +kernel

end ShaderCheck
