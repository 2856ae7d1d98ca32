/-
**A slash at the end of a folder's path.**

A slash at the end of a folder's path changes neither where the folder is nor the paths of what is in it,
so the same files are found, and registered under their own paths they get the same names. An alias
takes the place of the folder's text as it is spelled, though: without the slash at its end, what is left
of a file starts with a slash, and with it, not. So under an alias every file has another name.

* `Path.closed`: a path with a slash behind it;
* `FileTree.directory?_closed`, `FileTree.scan_closed`: where it leads, and what a scan finds there;
* `replacedFolder_of_bytes_eq`: the name of a file in a folder, with and without the slash;
* `SourceFolder.names_of_closed`: the names of the files of a folder that is spelled in both ways.
-/

import ShaderCheck.FileTree
import ShaderCheck.Proofs.FileTree.Walk
import ShaderCheck.Proofs.Registry

namespace ShaderCheck

namespace Path

/-- The path with a slash behind it. -/
def closed (path : Path) : Path :=
  ⟨path.bytes ++ [slashByte]⟩

variable {path base tail : Path}

theorem endsWithSlash_closed (path : Path) : path.closed.endsWithSlash = true := by
  rw [endsWithSlash, closed, List.getLast?_concat, decide_eq_true rfl]

/-- Without the slash, the path is what is left. -/
theorem trunk_closed (path : Path) : path.closed.trunk = path.bytes := by
  rw [trunk, endsWithSlash_closed, if_pos rfl, closed, List.dropLast_concat]

theorem isAbsolute_closed (filled : path.bytes ≠ []) :
    path.closed.isAbsolute = path.isAbsolute := by
  obtain ⟨first, rest, split⟩ := List.exists_cons_of_ne_nil filled
  rw [isAbsolute, isAbsolute, closed, split]
  rfl

theorem bytes_closed_ne_nil (path : Path) : path.closed.bytes ≠ [] :=
  List.concat_ne_nil _ _

/-- Closing the path inside a folder closes the whole path. -/
theorem join_closed (base : Path) (filled : tail.bytes ≠ []) :
    base.join tail.closed = (base.join tail).closed := by
  unfold join
  rw [isAbsolute_closed filled]
  split
  · rfl
  · split
    · rfl
    · split
      · exact congrArg Path.mk (List.append_assoc ..).symm
      · exact congrArg Path.mk (List.append_assoc base.bytes (slashByte :: tail.bytes) _).symm

/-- A path inside a folder ends as it does by itself. -/
theorem getLast?_join (base : Path) (filled : tail.bytes ≠ []) :
    (base.join tail).bytes.getLast? = tail.bytes.getLast? := by
  unfold join
  split
  · rfl
  · split
    · rfl
    · split
      · rw [List.getLast?_append, List.getLast?_eq_some_getLast filled, Option.some_or]
      · rw [List.getLast?_append, List.getLast?_cons_of_ne_nil filled,
          List.getLast?_eq_some_getLast filled, Option.some_or]

theorem bytes_join_tail_ne_nil (base : Path) (filled : tail.bytes ≠ []) :
    (base.join tail).bytes ≠ [] := by
  intro empty
  have last := getLast?_join base filled
  rw [empty] at last
  exact filled (List.getLast?_eq_none_iff.mp last.symm)

theorem steps_closed (unclosed : path.endsWithSlash = false) :
    path.closed.steps = path.steps ++ [.current] := by
  rw [steps_eq, steps_eq path, trunk_closed, endsWithSlash_closed, unclosed, trunk, unclosed]
  simp

/-- What is in a folder has the same path with the slash and without it. -/
theorem closed_join (filled : path.bytes ≠ []) (unclosed : path.endsWithSlash = false)
    (name : Name) : path.closed.join name.path = path.join name.path := by
  refine congrArg Path.mk ?_
  show (path.closed.join name.path).bytes = (path.join name.path).bytes
  rw [bytes_join (bytes_closed_ne_nil path), bytes_join filled, trunk_closed, trunk, unclosed,
    if_neg Bool.false_ne_true]

theorem text_closed (path : Path) : path.closed.text = path.text ++ "/" := by
  rw [← String.toList_inj, toList_text, closed, decode_append_slash, String.toList_append,
    toList_text]
  rfl

/-- What is behind a folder and a slash is shown behind the folder's text and a slash. -/
theorem text_of_bytes_eq {inside : Path} (split : path.bytes = base.bytes ++ slashByte :: inside.bytes) :
    path.text = base.text ++ "/" ++ inside.text := by
  rw [← String.toList_inj, toList_text, split, decode_append_slash, String.toList_append,
    String.toList_append, toList_text, toList_text, List.append_assoc]
  rfl

/-- The path that a text with a slash behind it spells. -/
theorem ofText_closed (tail : String) : ofText (tail ++ "/") = (ofText tail).closed :=
  congrArg Path.mk (Text.bytes_append tail "/")

end Path

namespace FileTree

variable {path : Path}

/-- A path that is closed leads to the same directory. -/
theorem directory?_closed (tree : FileTree) (filled : path.bytes ≠ [])
    (unclosed : path.endsWithSlash = false) : tree.directory? path.closed = tree.directory? path := by
  have located : tree.locate path.closed = tree.locate path >>= tree.enter := by
    rw [locate, locate, if_neg (Path.bytes_closed_ne_nil path), if_neg filled, start,
      Path.isAbsolute_closed filled, ← start, Path.steps_closed unclosed, walk_append_current]
  rw [directory?, directory?, located]
  cases tree.locate path with
  | error error => rfl
  | ok place =>
    have entered : (Except.ok place >>= tree.enter) = tree.enter place := rfl
    rw [entered]
    dsimp only
    by_cases directory : tree.node? place = some .directory
    · rw [enter, if_pos directory]
    · rw [enter, if_neg directory, if_neg directory]

/-- A scan of a folder meets the same under the path that is closed. -/
theorem scan_closed (tree : FileTree) (filled : path.bytes ≠ [])
    (unclosed : path.endsWithSlash = false) (extensions : List String) :
    tree.scan path.closed extensions = tree.scan path extensions := by
  have same := directory?_closed tree filled unclosed
  unfold scan
  cases found : tree.directory? path with
  | none => rw [scanBelow_of_none found, scanBelow_of_none (same.trans found)]
  | some location =>
    rw [scanBelow_of_not_mem found List.not_mem_nil,
      scanBelow_of_not_mem (same.trans found) List.not_mem_nil]
    congr 1
    funext name
    rw [scanEntry, scanEntry, Path.closed_join filled unclosed]

end FileTree

/-- What a path inside a folder has behind the folder and a slash. -/
def behindSlash (folder file : Path) : Path :=
  ⟨file.bytes.drop folder.closed.bytes.length⟩

/-- What a file in a folder has behind the folder and a slash. -/
theorem bytes_behindSlash {folder file : Path} (below : folder.Below file)
    (filled : folder.bytes ≠ []) (unclosed : folder.endsWithSlash = false) :
    file.bytes = folder.bytes ++ slashByte :: (behindSlash folder file).bytes := by
  obtain ⟨behind, split⟩ := below.exists_behind filled
  rw [Path.trunk, unclosed, if_neg Bool.false_ne_true, List.append_cons] at split
  have dropped : (behindSlash folder file).bytes = behind := by
    rw [behindSlash, split]
    exact List.drop_left
  rw [dropped, split, ← List.append_cons]

/-- The names of a file in a folder under an alias, by what it has behind the folder and a slash. -/
theorem replacedFolder_of_bytes_eq {folder file inside : Path}
    (split : file.bytes = folder.bytes ++ slashByte :: inside.bytes) (aliasText : String) :
    replacedFolder folder aliasText file = aliasText ++ "/" ++ inside.text ∧
      replacedFolder folder.closed aliasText file = aliasText ++ inside.text := by
  rw [replacedFolder, replacedFolder, Path.text_closed, Path.text_of_bytes_eq split]
  constructor <;>
    · rw [← String.toList_inj]
      simp

namespace SourceFolder

/-- **A slash at the end of a folder's path.** A folder that has files under a path has the same files under
the path with a slash behind it, and without an alias the same names. With an alias, the
names are made from what the files' paths have behind the folder and a slash: they have the alias and a
slash in front if there is no slash at the end of the path, and the alias alone if there is one. The
names are never the same. -/
theorem names_of_closed (tree : FileTree) (base : Path) (extensions : List String) {tail : String}
    (filled : tail ≠ "") (unclosed : (Path.ofText tail).endsWithSlash = false) :
    let plain (aliasText : Option String) : SourceFolder :=
      ⟨base.join (.ofText tail), extensions, aliasText⟩
    let closed (aliasText : Option String) : SourceFolder :=
      ⟨base.join (.ofText (tail ++ "/")), extensions, aliasText⟩
    (∀ resolved, ((plain none).resolve tree).result = .ok resolved ↔
        ((closed none).resolve tree).result = .ok resolved) ∧
      ∀ aliasText,
        ((∃ resolved, ((plain (some aliasText)).resolve tree).result = .ok resolved) ↔
          ∃ resolved, ((closed (some aliasText)).resolve tree).result = .ok resolved) ∧
        ∀ first second, ((plain (some aliasText)).resolve tree).result = .ok first →
          ((closed (some aliasText)).resolve tree).result = .ok second →
          first.files = second.files ∧ first.names ≠ second.names ∧
            ∃ insides : List Path,
              first.files = insides.map (fun inside =>
                ⟨(base.join (.ofText tail)).bytes ++ slashByte :: inside.bytes⟩) ∧
              first.names = insides.map (aliasText ++ "/" ++ ·.text) ∧
              second.names = insides.map (aliasText ++ ·.text) := by
  intro plain closed
  have tailFilled : (Path.ofText tail).bytes ≠ [] := by
    rw [Ne, ← Path.text_eq_empty_iff, Path.text_ofText]
    exact filled
  have folderFilled := Path.bytes_join_tail_ne_nil base tailFilled
  have folderUnclosed : (base.join (.ofText tail)).endsWithSlash = false := by
    rw [Path.endsWithSlash, Path.getLast?_join base tailFilled]
    exact unclosed
  have isClosed (aliasText : Option String) :
      (closed aliasText).path = (base.join (.ofText tail)).closed := by
    rw [← Path.join_closed base tailFilled, ← Path.ofText_closed]
  have sameFiles (aliasText : Option String) :
      (closed aliasText).files tree = (plain aliasText).files tree := by
    rw [files, isClosed, FileTree.scan_closed tree folderFilled folderUnclosed]
    rfl
  refine ⟨fun resolved => ?_, fun aliasText => ⟨?_, fun first second isFirst isSecond => ?_⟩⟩
  · rw [resolve_eq_ok_iff, resolve_eq_ok_iff, sameFiles, nameOf_of_plain rfl, nameOf_of_plain rfl]
  · simp only [resolve_eq_ok_iff, sameFiles, exists_and_left, exists_eq]
  · obtain ⟨listsFile, rfl⟩ := resolve_eq_ok_iff.mp isFirst
    obtain ⟨_, rfl⟩ := resolve_eq_ok_iff.mp isSecond
    let inside := behindSlash (base.join (.ofText tail))
    have behind (file : Path) (listed : file ∈ (plain aliasText).files tree) :
        file.bytes = (base.join (.ofText tail)).bytes ++ slashByte :: (inside file).bytes :=
      bytes_behindSlash (FileTree.below_of_mem_scan listed).2 folderFilled folderUnclosed
    have firstNames : ((plain aliasText).files tree).map (plain aliasText).nameOf =
        (((plain aliasText).files tree).map inside).map (aliasText ++ "/" ++ ·.text) := by
      rw [nameOf_of_alias rfl, List.map_map]
      exact List.map_congr_left fun file listed =>
        (replacedFolder_of_bytes_eq (behind file listed) aliasText).1
    have secondNames : ((closed aliasText).files tree).map (closed aliasText).nameOf =
        (((plain aliasText).files tree).map inside).map (aliasText ++ ·.text) := by
      rw [nameOf_of_alias rfl, sameFiles, isClosed, List.map_map]
      exact List.map_congr_left fun file listed =>
        (replacedFolder_of_bytes_eq (behind file listed) aliasText).2
    refine ⟨(sameFiles _).symm, fun same => ?_, _, ?_, firstNames, secondNames⟩
    · obtain ⟨file, listed⟩ := List.exists_mem_of_ne_nil _ listsFile
      have sameName := List.map_inj_left.mp (firstNames.symm.trans (same.trans secondNames)) _
        (List.mem_map_of_mem (f := inside) listed)
      -- The one name is longer than the other by the slash.
      have lengths := congrArg String.length sameName
      simp only [String.length_append] at lengths
      have slash : "/".length = 1 := rfl
      omega
    · rw [List.map_map]
      refine (List.map_id _).symm.trans (List.map_congr_left fun file listed => ?_)
      exact congrArg Path.mk (behind file listed)

end SourceFolder

/-- A directory with one shader. -/
def singleSample : FileTree :=
  FileTree.empty []
    |>.write (.ofText "include/common.glsl") "// common".toUTF8

/-- With a slash at the end of the path, no slash is left between the alias and the file. -/
theorem names_of_closed_sample :
    let folder (path : String) : SourceFolder :=
      ⟨Path.join (.ofText "") (.ofText path), ["glsl"], some "/lib"⟩
    ("include" ≠ "" ∧ (Path.ofText "include").endsWithSlash = false) ∧
      ((folder "include").resolve singleSample).result =
        .ok ⟨[.ofText "include/common.glsl"], ["/lib/common.glsl"]⟩ ∧
      ((folder "include/").resolve singleSample).result =
        .ok ⟨[.ofText "include/common.glsl"], ["/libcommon.glsl"]⟩ ∧
      ["/lib/common.glsl"] ≠ ["/libcommon.glsl"] := by
  intro folder
  have filled : "include" ≠ "" := by decide
  have unclosed : (Path.ofText "include").endsWithSlash = false := by decide
  have plain : ((folder "include").resolve singleSample).result =
      .ok ⟨[.ofText "include/common.glsl"], ["/lib/common.glsl"]⟩ := by decide +kernel
  have closed : ((folder "include/").resolve singleSample).result =
      .ok ⟨[.ofText "include/common.glsl"], ["/libcommon.glsl"]⟩ := by decide +kernel
  obtain ⟨_, aliased⟩ := SourceFolder.names_of_closed singleSample (.ofText "") ["glsl"] filled unclosed
  obtain ⟨_, different, _⟩ := (aliased "/lib").2 _ _ plain closed
  exact ⟨⟨filled, unclosed⟩, plain, closed, different⟩

end ShaderCheck
