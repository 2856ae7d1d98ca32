/-
**Includes between files of one folder.**

A folder without an alias registers its files under their own paths, and a file may ask for one that
stands beside it by its name alone. The name that is then looked up is the path of the other file
with its `.` and `..` segments worked out. It is the name of that file exactly if there is nothing
to work out in the path of the folder that is registered: with a folder such as `./lib` no file
finds the one beside it.

* `Beside`: two files of one directory;
* `Include.resolveName_of_beside`: what an include line for the file beside looks up;
* `sibling_include_iff`: when this finds the file beside, and what the expansion does with it.
-/

import ShaderCheck.FileTree
import ShaderCheck.Proofs.Include.Graph
import ShaderCheck.Proofs.Include.Normal
import ShaderCheck.Proofs.Registry
import ShaderCheck.Proofs.Text.Lines

namespace ShaderCheck

open Text

/-- The files stand in one directory, the second one under the name. -/
def Beside (file other : Path) (name : Name) : Prop :=
  ∃ (folder : Path) (own : Name), file = folder.join own.path ∧ other = folder.join name.path

/-- The include line for a name, between double quotes. -/
def quotedInclude (name : String) : String :=
  "#include \"" ++ name ++ "\""

/-! ### The line -/

/-- An include line asks for the name between its quotes. -/
theorem ofLine?_quotedInclude {name : String} (filled : name ≠ "") (unquoted : '"' ∉ name.toList) :
    Directive.ofLine? (quotedInclude name) = some (.inclusion name) := by
  have line : (quotedInclude name).toList =
      '#' :: ("include".toList ++ ' ' :: '"' :: (name.toList ++ ['"'])) := by
    simp [quotedInclude]
  have argument : Directive.argument? "include" (quotedInclude name).toList =
      some ('"' :: (name.toList ++ ['"'])) := by
    rw [line]
    rfl
  have notExtension : Directive.argument? "extension" (quotedInclude name).toList = none := by
    rw [line]
    rfl
  have written : name.toList ≠ [] := fun empty => filled (String.toList_eq_nil_iff.mp empty)
  rw [Directive.ofLine?_eq_inclusion_iff]
  constructor
  · rw [Directive.requestsExtension, notExtension]
  · rw [Directive.requestedName?, argument]
    show Directive.nameBefore? '"' (name.toList ++ ['"']) = _
    rw [Directive.nameBefore?, dropWhile_ne_append unquoted, takeWhile_ne_append unquoted]
    simp [written]

/-! ### The name that is looked up -/

namespace Include

/-- The folder part of a name is what stands before its last slash. -/
theorem folderOf?_append {name : String} {folder last : List Char}
    (split : name.toList = folder ++ '/' :: last) (noSlash : '/' ∉ last) :
    folderOf? name = some (String.ofList folder) := by
  have noSlashReversed : '/' ∉ last.reverse := fun member => noSlash (List.mem_reverse.mp member)
  unfold folderOf?
  rw [split, List.reverse_append, List.reverse_cons, List.append_assoc,
    dropWhile_ne_append noSlashReversed]
  simp

/-- **An include line for the file beside** looks up that file's path, worked out. -/
theorem resolveName_of_beside {file other : Path} {name : Name} (beside : Beside file other name)
    (slash : slashByte ∈ file.bytes) :
    resolveName name.text (some file.text) = normalize other.text := by
  obtain ⟨folder, own, rfl, rfl⟩ := beside
  have filled : folder.bytes ≠ [] := by
    intro empty
    refine own.isName.2.1 ?_
    unfold Path.join at slash
    rwa [own.not_isAbsolute, if_neg Bool.false_ne_true, if_pos empty] at slash
  have relative : ¬ name.text.toList.head? = some '/' := fun first =>
    name.slash_not_mem_text (List.mem_of_head? first)
  rw [resolveName_of_folderOf? relative
    (folderOf?_append (Path.toList_text_join filled own) own.slash_not_mem_text)]
  refine congrArg normalize (String.toList_inj.mp ?_)
  rw [Path.toList_text_join filled name]
  simp

/-- Whether there is something to work out in a path that leads down from a folder is up to the
folder. -/
theorem isNormal_iff_of_below {folder path : Path} (below : folder.Below path)
    (filled : folder.bytes ≠ []) :
    IsNormal (splitAtEvery '/' path.text.toList) ↔
      IsNormal (splitAtEvery '/' folder.text.toList) := by
  obtain ⟨names, segments⟩ := below.segments filled
  have shownNames : (names.map Name.bytes).map (Text.decode none) =
      names.map fun name => name.text.toList := by
    rw [List.map_map]
    exact List.map_congr_left fun name _ => name.toList_text.symm
  rw [Path.splitAtEvery_text, Path.splitAtEvery_text, segments, Path.segments_eq folder,
    List.map_append, List.map_append, shownNames, isNormal_append_iff, isNormal_append_iff]
  · intro segment member
    split at member
    · obtain rfl := List.mem_singleton.mp member
      decide
    · cases member
  · intro segment member
    obtain ⟨name, _, rfl⟩ := List.mem_map.mp member
    exact name.toList_text_ne

end Include

/-! ### The folder registered -/

/-- A folder without an alias registers its files under their own paths. -/
theorem sources_registerFolders_own {tree : FileTree} {base : Path} {sources : NamedSources}
    {value : Json} {folder : SourceFolder} (described : SourceFolder.ofJson value base = .ok folder)
    (plain : folder.aliasText = none)
    (filled : ScanEvent.files (tree.scan folder.path folder.extensions) ≠ []) :
    (registerFolders tree base sources [value]).sources =
      sources.insertMany ((ScanEvent.files (tree.scan folder.path folder.extensions)).map
        fun file => (file.text, file)) := by
  rw [SourceFolder.sources_registerFolders described (SourceFolder.resolve_of_filled filled),
    ResolvedFiles.pairs, zip_map_self, SourceFolder.nameOf_of_plain plain]
  rfl

namespace NamedSources

variable {tree : FileTree} {sources : NamedSources} {inflating : List String}

/-- An include line for a registered name is replaced by what its file expands to, unless the name
is being expanded. -/
theorem inflate_eq_ok_iff {name inlined : String} {file : Path}
    (registered : sources.get? name = some file) :
    sources.inflate tree inflating name = .ok inlined ↔
      name ∉ inflating ∧ ∃ content, tree.readText file = .ok content ∧
        sources.expandBelow tree (name :: inflating) content = .ok inlined := by
  rw [inflate_eq_ok_iff_holds]
  simp [Holds, registered]

/-- An expanded text holds what an include line in it was replaced by. -/
theorem exists_inlined_of_expandBelow {text line requested expanded : String}
    (isOk : sources.expandBelow tree inflating text = .ok expanded)
    (member : line ∈ splitLines text)
    (directive : Directive.ofLine? line = some (.inclusion requested)) :
    ∃ before inlined after, expanded = joinLines (before ++ inlined :: after) ∧
      sources.inflate tree inflating (Include.resolveName requested inflating.head?) =
        .ok inlined := by
  obtain ⟨lines, expandedLines, rfl⟩ := expandBelow_eq_ok_iff.mp isOk
  obtain ⟨before, inlined, after, rfl, found⟩ := exists_inlined_of_mem expandedLines member directive
  exact ⟨before, inlined, after, rfl, found⟩

/-- A text that asks for a name without a file has no expansion. -/
theorem exists_error_of_get?_eq_none {text name : String} (asks : Asks inflating.head? text name)
    (unregistered : sources.get? name = none) :
    ∃ error, sources.expandBelow tree inflating text = .error error := by
  cases outcome : sources.expandBelow tree inflating text with
  | error error => exact ⟨error, rfl⟩
  | ok expanded =>
    obtain ⟨_, _, ⟨file, registered, _⟩, _⟩ := expandBelow_isOk_iff.mp ⟨expanded, outcome⟩ name asks
    rw [unregistered] at registered
    cases registered

end NamedSources

section Sibling

variable {tree : FileTree} {base : Path} {sources : NamedSources} {value : Json}
  {folder : SourceFolder} {file other : Path} {name : Name} {content : String}

/-- Registering a folder without an alias leaves a name as it was bound, if no listed path is shown as the
name. -/
theorem get?_registerFolders_of_forall_ne (described : SourceFolder.ofJson value base = .ok folder)
    (plain : folder.aliasText = none)
    (listed : file ∈ ScanEvent.files (tree.scan folder.path folder.extensions)) {key : String}
    (different : ∀ path ∈ ScanEvent.files (tree.scan folder.path folder.extensions),
      path.text ≠ key) :
    (registerFolders tree base sources [value]).sources.get? key = sources.get? key := by
  rw [sources_registerFolders_own described plain (List.ne_nil_of_mem listed)]
  refine Table.get?_insertMany_of_not_mem _ fun path paired => ?_
  obtain ⟨other, otherListed, same⟩ := List.mem_map.mp paired
  exact different other otherListed (Prod.mk.inj same).1

/-- **The include line for the file beside**, in a folder that is registered without an alias. The
name that it looks up is the one of that file exactly if the folder's path has no `.` or `..` to
work out. If it has none, the expansion puts the file beside in place of the line, or another file of the
folder that is shown as the same text, if there is one; if it has one, the line asks for a name that this
registration does not know. -/
theorem sibling_include_iff (described : SourceFolder.ofJson value base = .ok folder)
    (plain : folder.aliasText = none)
    (listed : file ∈ ScanEvent.files (tree.scan folder.path folder.extensions))
    (otherListed : other ∈ ScanEvent.files (tree.scan folder.path folder.extensions))
    (beside : Beside file other name) (unquoted : '"' ∉ name.text.toList)
    (line : quotedInclude name.text ∈ splitLines content) :
    let files := ScanEvent.files (tree.scan folder.path folder.extensions)
    let registered := (registerFolders tree base sources [value]).sources
    let requested := Include.resolveName name.text (some file.text)
    let normal := Include.IsNormal (splitAtEvery '/' folder.path.text.toList)
    (requested = other.text ↔ normal) ∧
      (normal → ∃ found ∈ files, found.text = other.text ∧
        ((∀ path ∈ files, path.text = other.text → path = other) → found = other) ∧
        registered.get? requested = some found ∧
        ∀ inflating expanded,
          registered.expandBelow tree (file.text :: inflating) content = .ok expanded →
            ∃ before inlined after foundContent, expanded = joinLines (before ++ inlined :: after) ∧
              tree.readText found = .ok foundContent ∧
              registered.expandBelow tree (other.text :: file.text :: inflating) foundContent =
                .ok inlined) ∧
      (¬ normal → registered.get? requested = sources.get? requested ∧
        (sources.get? requested = none → ∀ inflating,
          registered.inflate tree (file.text :: inflating) requested =
            .error (.notRegistered requested) ∧
          ∃ error, registered.expandBelow tree (file.text :: inflating) content =
            .error error)) := by
  intro files registered requested normal
  obtain ⟨someFolder, below⟩ := FileTree.below_of_mem_scan listed
  have normalBelow {path : Path} (member : path ∈ files) :
      Include.IsNormal (splitAtEvery '/' path.text.toList) ↔ normal :=
    Include.isNormal_iff_of_below (FileTree.below_of_mem_scan member).2 someFolder
  have looksUp : requested = Include.normalize other.text :=
    Include.resolveName_of_beside beside (below.slash_mem someFolder)
  have same : requested = other.text ↔ normal := by
    rw [looksUp, Include.normalize_eq_self_iff]
    exact normalBelow otherListed
  have directive : Directive.ofLine? (quotedInclude name.text) = some (.inclusion name.text) :=
    ofLine?_quotedInclude name.text_ne_empty unquoted
  refine ⟨same, fun isNormal => ?_, fun notNormal => ?_⟩
  · have names : folder.Names tree other.text other :=
      SourceFolder.names_iff.mpr ⟨otherListed, by rw [SourceFolder.nameOf_of_plain plain]⟩
    obtain ⟨found, foundNames, bound⟩ : ∃ found, folder.Names tree other.text found ∧
        registered.get? other.text = some found :=
      SourceFolder.exists_get?_registerFolders described names
    obtain ⟨foundListed, sameText⟩ := SourceFolder.names_iff.mp foundNames
    rw [SourceFolder.nameOf_of_plain plain] at sameText
    rw [← same.mpr isNormal] at bound
    refine ⟨found, foundListed, sameText.symm, fun only => only found foundListed sameText.symm,
      bound, fun inflating expanded isOk => ?_⟩
    obtain ⟨before, inlined, after, joined, inflated⟩ :=
      NamedSources.exists_inlined_of_expandBelow isOk line directive
    obtain ⟨_, foundContent, read, expansion⟩ := (NamedSources.inflate_eq_ok_iff bound).mp inflated
    refine ⟨before, inlined, after, foundContent, joined, read, ?_⟩
    rw [← same.mpr isNormal]
    exact expansion
  · -- No path of the folder is normal, but the name that is looked up is.
    have different (path : Path) (member : path ∈ files) : path.text ≠ requested := fun equal =>
      notNormal ((normalBelow member).mp
        (equal ▸ looksUp ▸ Include.isNormal_splitAtEvery_normalize other.text))
    have kept : registered.get? requested = sources.get? requested :=
      get?_registerFolders_of_forall_ne described plain listed different
    refine ⟨kept, fun unregistered inflating => ⟨?_, ?_⟩⟩
    · rw [NamedSources.inflate, kept, unregistered]
    · obtain ⟨notExtension, named⟩ := Directive.ofLine?_eq_inclusion_iff.mp directive
      exact NamedSources.exists_error_of_get?_eq_none
        ⟨_, line, notExtension, name.text, named, rfl⟩ (kept.trans unregistered)

end Sibling

/-- A directory `lib` with a file that includes the one beside it. -/
def librarySample : FileTree :=
  FileTree.empty []
    |>.write (.ofText "lib/a.glsl") "#include \"b.glsl\"".toUTF8
    |>.write (.ofText "lib/b.glsl") "float b;".toUTF8

/-- The description of that directory, without an alias. -/
def libraryEntry : Json :=
  .object [("extensions", .array [.string "glsl"]), ("path", .string "lib")]

/-- Registered from the folder `.`, the directory is `./lib`, and the first of its files does not
find the second one. -/
theorem sibling_include_lost :
    let registered := (registerFolders librarySample (.ofText ".") ∅ [libraryEntry]).sources
    registered.get? "./lib/b.glsl" = some (.ofText "./lib/b.glsl") ∧
      Include.resolveName "b.glsl" (some "./lib/a.glsl") ≠ "./lib/b.glsl" ∧
      ∃ error, registered.expandBelow librarySample ["./lib/a.glsl"] "#include \"b.glsl\"" =
        .error error := by
  have described : SourceFolder.ofJson libraryEntry (.ofText ".") =
      .ok ⟨.ofText "./lib", ["glsl"], none⟩ := rfl
  have listed : Path.ofText "./lib/a.glsl" ∈
      ScanEvent.files (librarySample.scan (.ofText "./lib") ["glsl"]) := by decide +kernel
  have otherListed : Path.ofText "./lib/b.glsl" ∈
      ScanEvent.files (librarySample.scan (.ofText "./lib") ["glsl"]) := by decide +kernel
  have dotted : ¬ Include.IsNormal (splitAtEvery '/' (Path.ofText "./lib").text.toList) := by
    rw [← Include.normalize_eq_self_iff]
    decide +kernel
  have beside : Beside (.ofText "./lib/a.glsl") (.ofText "./lib/b.glsl")
      ⟨Text.bytes "b.glsl", by decide⟩ :=
    ⟨.ofText "./lib", ⟨Text.bytes "a.glsl", by decide⟩, by decide +kernel, by decide +kernel⟩
  have line : quotedInclude "b.glsl" ∈ splitLines "#include \"b.glsl\"" := by decide +kernel
  obtain ⟨same, _, unfound⟩ := @sibling_include_iff _ _ ∅ _ _ _ _ _ _ described rfl listed
    otherListed beside (by decide +kernel) line
  obtain ⟨_, lost⟩ := unfound dotted
  exact ⟨by decide +kernel, fun found => dotted (same.mp found), (lost rfl []).2⟩

end ShaderCheck
