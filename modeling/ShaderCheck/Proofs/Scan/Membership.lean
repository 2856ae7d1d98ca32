/-
**Which files a scan lists.**

A file is listed if the way down to it leads through directories, none of them twice, and its name has
a wanted extension. Links may lead anywhere: what counts is where the folders on the way are, not how
their paths are spelled.

* `Name.extension?_eq_some_iff`: what the extension of a name is;
* `FileTree.WayDown`, `FileTree.wayDown_cons_iff`: ways down through folders, entry by entry;
* `FileTree.mem_scanBelow_iff`, `FileTree.mem_scan_iff`: the files of a scan.
-/

import ShaderCheck.Proofs.Path
import ShaderCheck.Proofs.Scan.Listing

namespace ShaderCheck

/-! ### Extensions -/

/-- A name with dots has what stands behind the last one as its extension, if something stands before
it and the extension is a text. -/
theorem Name.extension?_of_dot {name : Name} {stem last : List UInt8}
    (split : name.bytes = stem ++ dotByte :: last) (plain : dotByte ∉ last) :
    name.extension? = if stem = [] then none else Text.ofBytes? last := by
  unfold extension?
  rw [split, splitAtEvery_append, splitAtEvery_of_not_mem plain, List.reverse_append]
  by_cases empty : stem = []
  · rw [if_pos empty, empty]
    rfl
  · rw [if_neg empty]
    have whole := @intercalate_splitAtEvery _ _ dotByte stem
    cases pieces : (splitAtEvery dotByte stem).reverse with
    | nil => exact absurd (List.reverse_eq_nil_iff.mp pieces) splitAtEvery_ne_nil
    | cons piece others =>
      cases piece with
      | cons byte rest => rfl
      | nil =>
        cases others with
        | cons other more => rfl
        | nil =>
          rw [List.reverse_eq_iff.mp pieces] at whole
          exact absurd whole.symm empty

/-- A text has a dot where its bytes have that of a dot. -/
theorem dotByte_mem_bytes_iff {text : String} : dotByte ∈ Text.bytes text ↔ '.' ∈ text.toList := by
  rw [← Text.decode_bytes]
  exact (@Text.mem_decode_iff _ dotByte (by decide) (by decide)).symm

/-- The extension of a name is the text behind its last dot, if that is not its first character. -/
theorem Name.extension?_eq_some_iff {name : Name} {wanted : String} :
    name.extension? = some wanted ↔
      ∃ stem, stem ≠ [] ∧ name.bytes = stem ++ dotByte :: Text.bytes wanted ∧
        '.' ∉ wanted.toList := by
  constructor
  · intro extension
    by_cases dotted : dotByte ∈ name.bytes
    · obtain ⟨last, stem, split, plain⟩ :=
        List.eq_append_cons_of_mem (List.mem_reverse.mpr dotted)
      have whole : name.bytes = stem.reverse ++ dotByte :: last.reverse := by
        rw [← List.reverse_reverse name.bytes, split]
        simp
      have unmarked := mt List.mem_reverse.mp plain
      rw [extension?_of_dot whole unmarked] at extension
      split at extension
      · cases extension
      · rename_i filled
        have isText := Text.ofBytes?_eq_some_iff.mp extension
        rw [isText] at whole unmarked
        exact ⟨stem.reverse, filled, whole, mt dotByte_mem_bytes_iff.mpr unmarked⟩
    · unfold extension? at extension
      rw [splitAtEvery_of_not_mem dotted] at extension
      cases extension
  · rintro ⟨stem, filled, split, plain⟩
    rw [extension?_of_dot split (mt dotByte_mem_bytes_iff.mp plain), if_neg filled]
    exact Text.ofBytes?_eq_some_iff.mpr rfl

namespace FileTree

variable {tree : FileTree} {extensions : List String} {chain : List Location} {folder : Path}
  {dirs : List Name} {name : Name}

/-! ### Ways down -/

/-- The folders on the way from a folder down through these entries are directories, at places that
are all different and not in the chain. -/
structure WayDown (tree : FileTree) (chain : List Location) (folder : Path) (dirs : List Name) :
    Prop where
  directory {above : List Name} (onWay : above <+: dirs) : tree.isDirectory (folder.inside above)
  distinct {above below : List Name} (onWay : above <+: dirs) (alsoOnWay : below <+: dirs)
    (same : tree.directory? (folder.inside above) = tree.directory? (folder.inside below)) :
    above = below
  fresh {above : List Name} (onWay : above <+: dirs) {location : Location}
    (found : tree.directory? (folder.inside above) = some location) : location ∉ chain

theorem wayDown_nil_iff : tree.WayDown chain folder [] ↔
    ∃ location, tree.directory? folder = some location ∧ location ∉ chain := by
  constructor
  · intro way
    obtain ⟨location, found⟩ := isDirectory_iff.mp (way.directory List.nil_prefix)
    exact ⟨location, found, way.fresh List.nil_prefix found⟩
  · rintro ⟨location, found, fresh⟩
    constructor
    · intro above onWay
      rw [List.prefix_nil.mp onWay]
      exact isDirectory_iff.mpr ⟨location, found⟩
    · intro above below onWay alsoOnWay _
      rw [List.prefix_nil.mp onWay, List.prefix_nil.mp alsoOnWay]
    · intro above onWay place same
      rw [List.prefix_nil.mp onWay] at same
      obtain rfl : location = place := Option.some.inj (found.symm.trans same)
      exact fresh

/-- A way down goes into its folder first, and on from the entry with this folder in the chain. -/
theorem wayDown_cons_iff {first : Name} {rest : List Name} :
    tree.WayDown chain folder (first :: rest) ↔
      ∃ location, tree.directory? folder = some location ∧ location ∉ chain ∧
        tree.WayDown (location :: chain) (folder.join first.path) rest := by
  constructor
  · intro way
    obtain ⟨location, found⟩ := isDirectory_iff.mp (way.directory List.nil_prefix)
    refine ⟨location, found, way.fresh List.nil_prefix found, ?_⟩
    constructor
    · intro above onWay
      exact way.directory (List.prefix_cons_inj first |>.mpr onWay)
    · intro above below onWay alsoOnWay same
      exact List.tail_eq_of_cons_eq (way.distinct (List.prefix_cons_inj first |>.mpr onWay)
        (List.prefix_cons_inj first |>.mpr alsoOnWay) same)
    · intro above onWay place placed again
      have deeper := List.prefix_cons_inj first |>.mpr onWay
      rcases List.mem_cons.mp again with rfl | active
      · exact List.cons_ne_nil _ _ (way.distinct deeper List.nil_prefix (placed.trans found.symm))
      · exact way.fresh deeper placed active
  · rintro ⟨location, found, fresh, way⟩
    have apart {above : List Name} (onWay : above <+: rest) :
        tree.directory? (folder.inside (first :: above)) ≠ tree.directory? folder := by
      intro same
      exact way.fresh onWay (same.trans found) List.mem_cons_self
    constructor
    · intro above onWay
      rcases List.prefix_cons_iff.mp onWay with rfl | ⟨above, rfl, deeper⟩
      · exact isDirectory_iff.mpr ⟨location, found⟩
      · exact way.directory deeper
    · intro above below onWay alsoOnWay same
      rcases List.prefix_cons_iff.mp onWay with rfl | ⟨above, rfl, deeper⟩ <;>
        rcases List.prefix_cons_iff.mp alsoOnWay with rfl | ⟨below, rfl, alsoDeeper⟩
      · rfl
      · exact absurd same.symm (apart alsoDeeper)
      · exact absurd same (apart deeper)
      · rw [way.distinct deeper alsoDeeper same]
    · intro above onWay place placed active
      rcases List.prefix_cons_iff.mp onWay with rfl | ⟨above, rfl, deeper⟩
      · obtain rfl : location = place := Option.some.inj (found.symm.trans placed)
        exact fresh active
      · exact way.fresh deeper placed (List.mem_cons_of_mem _ active)

/-! ### Files of a scan -/

/-- The files of a scan are met at the entries of its folder, each at the entry that its way down
starts with. -/
theorem mem_scanBelow_inside_iff {first : Name} {rest : List Name} :
    .file (folder.inside (first :: rest)) ∈ tree.scanBelow extensions chain folder ↔
      ∃ location, tree.directory? folder = some location ∧ location ∉ chain ∧
        first ∈ tree.entries location ∧ .file (folder.inside (first :: rest)) ∈
          tree.scanEntry extensions (location :: chain) folder first := by
  constructor
  · intro listed
    cases found : tree.directory? folder with
    | none =>
      rw [scanBelow_of_none found] at listed
      cases listed
    | some location =>
      by_cases active : location ∈ chain
      · rw [scanBelow_of_mem found active] at listed
        cases List.mem_singleton.mp listed
      · rw [scanBelow_of_not_mem found active] at listed
        obtain ⟨other, member, met⟩ := List.mem_flatMap.mp listed
        obtain ⟨others, same⟩ := exists_inside_of_mem_scanEntry (ScanEvent.mem_files.mpr met)
        have filled := bytes_ne_nil_of_directory? found
        obtain ⟨rfl, _⟩ := List.cons.inj (Path.inside_injective filled same)
        exact ⟨location, rfl, active, member, met⟩
  · rintro ⟨location, found, fresh, member, met⟩
    rw [scanBelow_of_not_mem found fresh]
    exact List.mem_flatMap.mpr ⟨first, member, met⟩

/-- The path of a folder leads to a directory with this entry, which is a file with a wanted
extension. -/
structure HoldsFile (tree : FileTree) (extensions : List String) (folder : Path) (name : Name) :
    Prop where
  entry : ∃ location, tree.directory? folder = some location ∧ name ∈ tree.entries location
  file : ¬ tree.isDirectory (folder.join name.path)
  extension : ∃ wanted ∈ extensions, name.extension? = some wanted

/-- **A scan lists a file if the way down to it is free.** By induction on the way: a scan of its first
folder enters the entry that the way goes on with, or lists the file if it ends here. -/
theorem mem_scanBelow_iff :
    .file (folder.inside (dirs ++ [name])) ∈ tree.scanBelow extensions chain folder ↔
      tree.WayDown chain folder dirs ∧ tree.HoldsFile extensions (folder.inside dirs) name := by
  induction dirs generalizing chain folder with
  | nil =>
    rw [List.nil_append, mem_scanBelow_inside_iff, wayDown_nil_iff]
    constructor
    · rintro ⟨location, found, fresh, member, met⟩
      have filled := Path.bytes_join_ne_nil (bytes_ne_nil_of_directory? found) name
      rw [mem_scanEntry_iff] at met
      split at met
      · -- What is met in a directory lies below it, and is not the directory.
        obtain ⟨deeper, last, same⟩ := (below_of_mem_scanBelow met).2.exists_inside
        exact absurd same.symm (Path.inside_concat_ne filled deeper last)
      · rename_i file
        exact ⟨⟨location, found, fresh⟩, ⟨location, found, member⟩, file, met.2⟩
    · rintro ⟨⟨location, found, fresh⟩, ⟨place, again, member⟩, file, extension⟩
      obtain rfl : location = place := Option.some.inj (found.symm.trans again)
      have file : ¬ tree.isDirectory (folder.join name.path) := file
      refine ⟨location, found, fresh, member, mem_scanEntry_iff.mpr ?_⟩
      rw [if_neg file]
      exact ⟨rfl, extension⟩
  | cons first rest inductionStep =>
    rw [List.cons_append, mem_scanBelow_inside_iff, wayDown_cons_iff]
    constructor
    · rintro ⟨location, found, fresh, member, met⟩
      have filled := Path.bytes_join_ne_nil (bytes_ne_nil_of_directory? found) first
      rw [mem_scanEntry_iff] at met
      split at met
      · obtain ⟨way, holds⟩ := inductionStep.mp met
        exact ⟨⟨location, found, fresh, way⟩, holds⟩
      · exact absurd met.1 (Path.inside_concat_ne filled rest name)
    · rintro ⟨⟨location, found, fresh, way⟩, holds⟩
      -- A way that leads on through an entry shows that the entry is there.
      have directory : tree.isDirectory (folder.join first.path) := way.directory List.nil_prefix
      obtain ⟨place, entered⟩ := isDirectory_iff.mp directory
      have member := mem_entries_of_locate_join found (locate_of_directory? entered)
      refine ⟨location, found, fresh, member, mem_scanEntry_iff.mpr ?_⟩
      rw [if_pos directory]
      exact inductionStep.mpr ⟨way, holds⟩

/-- **The files of a scan.** A scan always succeeds, and finds nothing where there is no directory.
Every listed file is inside the folder; and a place inside is listed if the folder and those on the way
down are directories, at places that are all different, the last one holds an entry of this name that
does not lead to a directory, and the text behind the last dot of the name, if that is not its first
character, is a wanted extension. -/
theorem mem_scan_iff (tree : FileTree) (folder : Path) (extensions : List String) :
    (∀ enumeration : Enumeration tree,
        tree.scanCalls enumeration extensions [] folder = .ok (tree.scan folder extensions)) ∧
      (tree.isDirectory folder = false → tree.scan folder extensions = []) ∧
      (∀ file ∈ ScanEvent.files (tree.scan folder extensions),
        ∃ dirs name, file = folder.inside (dirs ++ [name])) ∧
      ∀ (dirs : List Name) (name : Name),
        folder.inside (dirs ++ [name]) ∈ ScanEvent.files (tree.scan folder extensions) ↔
          (∀ above, above <+: dirs → tree.isDirectory (folder.inside above)) ∧
          (∀ above below, above <+: dirs → below <+: dirs →
            tree.directory? (folder.inside above) = tree.directory? (folder.inside below) →
              above = below) ∧
          (∃ location, tree.directory? (folder.inside dirs) = some location ∧
            (tree.node? (location ++ [name])).isSome) ∧
          tree.isDirectory (folder.inside (dirs ++ [name])) = false ∧
          ∃ wanted ∈ extensions, ∃ stem, stem ≠ [] ∧
            name.bytes = stem ++ dotByte :: Text.bytes wanted ∧ '.' ∉ wanted.toList := by
  refine ⟨fun enumeration => scanCalls_eq tree enumeration extensions [] folder, fun missing => ?_,
    fun file listed => (below_of_mem_scan listed).2.exists_inside, fun dirs name => ?_⟩
  · exact scanBelow_of_none (Option.not_isSome_iff_eq_none.mp (Bool.eq_false_iff.mp missing))
  · rw [ScanEvent.mem_files, scan, mem_scanBelow_iff]
    simp only [← Name.extension?_eq_some_iff, ← mem_entries_iff, ← Bool.not_eq_true,
      Path.inside_concat]
    constructor
    · rintro ⟨way, holds⟩
      exact ⟨fun _ => way.directory, fun _ _ => way.distinct, holds.entry, holds.file, holds.extension⟩
    · rintro ⟨directory, distinct, entry, file, extension⟩
      exact ⟨⟨directory _, distinct _ _, fun _ _ _ => List.not_mem_nil⟩, ⟨entry, file, extension⟩⟩

end FileTree

end ShaderCheck
