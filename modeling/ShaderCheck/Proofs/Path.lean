/-
**Paths, their segments and their components.**

Cutting a list at every separator and joining the pieces undo each other, as long as there is a piece
and no piece holds a separator. A path leads down from a folder if it is the folder's path, without a
slash at its end, followed by one or more names with a slash before each. Paths are compared component by
component, not byte by byte: the root is a component, so is every name and every `..`, and a `.` is one
only in front of a relative path; empty segments and other `.` say nothing. A path is shown with its
slashes and dots where it has them, and paths that are texts are told apart by how they are shown.

* `intercalate_splitAtEvery`, `splitAtEvery_intercalate`: cutting and joining;
* `Path.trunk`: what every path inside a folder starts with;
* `Path.Below`, `Path.inside`: the paths that lead down from a folder, each by names of its own;
* `Path.bytes_join`, `Path.segments_join`: the bytes of such a path, and its segments;
* `Path.components`, `Path.components_inside`: the components of a path, and of a place inside a folder;
* `Path.inside_injective`, `Path.lt_of_first_lt`: names on the way down that differ tell places apart,
  and the first ones that differ say which place comes first;
* `Path.splitAtEvery_text`, `Path.toList_text_join`: the segments of a path as it is shown;
* `Path.IsText`, `Path.IsText.eq_of_text_eq`: the paths that texts spell.
-/

import ShaderCheck.Path
import ShaderCheck.Proofs.Text.Utf8

namespace ShaderCheck

/-! ### Cutting and joining -/

section Pieces

variable {α : Type} [DecidableEq α] {separator : α} {whole first second : List α}

theorem splitAtEvery_ne_nil : splitAtEvery separator whole ≠ [] := by
  cases whole with
  | nil => simp [splitAtEvery]
  | cons c rest =>
    unfold splitAtEvery
    split
    · simp
    · split <;> simp

/-- A character that is no separator goes to the first piece. -/
theorem splitAtEvery_cons {c : α} {piece : List α} {pieces : List (List α)}
    (other : c ≠ separator) (split : splitAtEvery separator whole = piece :: pieces) :
    splitAtEvery separator (c :: whole) = (c :: piece) :: pieces := by
  rw [splitAtEvery, if_neg other, split]

/-- The first piece reaches up to the first separator. -/
theorem takeWhile_of_splitAtEvery {piece : List α} {pieces : List (List α)}
    (split : splitAtEvery separator whole = piece :: pieces) :
    piece = whole.takeWhile (· ≠ separator) := by
  induction whole generalizing piece pieces with
  | nil => exact (List.cons.inj split).1.symm
  | cons c rest inductionStep =>
    by_cases same : c = separator
    · rw [splitAtEvery, if_pos same] at split
      rw [← (List.cons.inj split).1, List.takeWhile_cons, if_neg (by simp [same])]
    · obtain ⟨first, later, cut⟩ := List.exists_cons_of_ne_nil
        (@splitAtEvery_ne_nil _ _ separator rest)
      rw [splitAtEvery_cons same cut] at split
      rw [← (List.cons.inj split).1, inductionStep cut, List.takeWhile_cons,
        if_pos (by simp [same])]

/-- A whole without separators is one piece. -/
theorem splitAtEvery_of_not_mem (absent : separator ∉ whole) :
    splitAtEvery separator whole = [whole] := by
  induction whole with
  | nil => rfl
  | cons c rest inductionStep =>
    rw [List.mem_cons, not_or] at absent
    exact splitAtEvery_cons (Ne.symm absent.1) (inductionStep absent.2)

/-- A whole is cut on both sides of a separator by itself. -/
theorem splitAtEvery_append :
    splitAtEvery separator (first ++ separator :: second) =
      splitAtEvery separator first ++ splitAtEvery separator second := by
  induction first with
  | nil => simp [splitAtEvery]
  | cons c rest inductionStep =>
    by_cases same : c = separator
    · simp [splitAtEvery, same, inductionStep]
    · obtain ⟨piece, pieces, split⟩ := List.exists_cons_of_ne_nil
        (@splitAtEvery_ne_nil _ _ separator rest)
      rw [split] at inductionStep
      rw [List.cons_append] at inductionStep
      rw [splitAtEvery_cons same split, List.cons_append, splitAtEvery_cons same inductionStep,
        List.cons_append]

/-- No piece holds a separator. -/
theorem not_mem_of_mem_splitAtEvery {piece : List α}
    (member : piece ∈ splitAtEvery separator whole) : separator ∉ piece := by
  induction whole generalizing piece with
  | nil =>
    rw [splitAtEvery, List.mem_singleton] at member
    simp [member]
  | cons c rest inductionStep =>
    by_cases same : c = separator
    · rw [splitAtEvery, if_pos same] at member
      rcases List.mem_cons.mp member with rfl | later
      · simp
      · exact inductionStep later
    · obtain ⟨head, pieces, split⟩ := List.exists_cons_of_ne_nil
        (@splitAtEvery_ne_nil _ _ separator rest)
      rw [splitAtEvery_cons same split] at member
      rw [split] at inductionStep
      rcases List.mem_cons.mp member with rfl | later
      · have := inductionStep List.mem_cons_self
        simp [Ne.symm same, this]
      · exact inductionStep (List.mem_cons_of_mem _ later)

/-- The pieces joined by the separator are the whole. -/
theorem intercalate_splitAtEvery :
    [separator].intercalate (splitAtEvery separator whole) = whole := by
  induction whole with
  | nil => rfl
  | cons c rest inductionStep =>
    by_cases same : c = separator
    · rw [splitAtEvery, if_pos same, List.intercalate_cons_of_ne_nil splitAtEvery_ne_nil,
        inductionStep, same]
      rfl
    · obtain ⟨head, pieces, split⟩ := List.exists_cons_of_ne_nil
        (@splitAtEvery_ne_nil _ _ separator rest)
      rw [split] at inductionStep
      rw [splitAtEvery_cons same split, List.intercalate_cons_cons_left, inductionStep]

/-- Pieces without separators are what their whole is cut into. -/
theorem splitAtEvery_intercalate {pieces : List (List α)} (filled : pieces ≠ [])
    (plain : ∀ piece ∈ pieces, separator ∉ piece) :
    splitAtEvery separator ([separator].intercalate pieces) = pieces := by
  induction pieces with
  | nil => exact absurd rfl filled
  | cons piece rest inductionStep =>
    rw [List.forall_mem_cons] at plain
    by_cases last : rest = []
    · subst last
      rw [List.intercalate_singleton, splitAtEvery_of_not_mem plain.1]
    · rw [List.intercalate_cons_of_ne_nil last, List.append_assoc, List.singleton_append,
        splitAtEvery_append, splitAtEvery_of_not_mem plain.1, inductionStep last plain.2]
      rfl

end Pieces

/-! ### Paths inside a folder -/

namespace Path

/-- The path of a folder without a slash at its end. -/
def trunk (folder : Path) : List UInt8 :=
  if folder.endsWithSlash then folder.bytes.dropLast else folder.bytes

/-- The path leads down from the folder by one name or more. -/
inductive Below : Path → Path → Prop
  /-- An entry of the folder. -/
  | entry (folder : Path) (name : Name) : Below folder (folder.join name.path)
  /-- A path inside an entry of the folder. -/
  | deeper {folder path : Path} {name : Name} (below : Below (folder.join name.path) path) :
    Below folder path

/-- The path of a place inside a folder, which is given by the names on the way down. -/
def inside (folder : Path) (names : List Name) : Path :=
  names.foldl (fun path name => path.join name.path) folder

end Path

/-- A name is not absolute. -/
theorem Name.not_isAbsolute (name : Name) : name.path.isAbsolute = false := by
  unfold Path.isAbsolute
  rw [decide_eq_false_iff_not]
  exact fun first => name.isName.2.1 (List.mem_of_head? first)

/-- The segment of a name asks for the entry of this name. -/
theorem Step.ofSegment?_name (name : Name) :
    Step.ofSegment? name.bytes = some (.entry name) := by
  unfold Step.ofSegment? Name.ofBytes?
  rw [if_neg name.isName.2.2.1, if_neg name.isName.2.2.2, dif_pos name.isName]
  rfl

namespace Path

variable {folder path : Path}

/-- The slash at the end of a folder comes behind its trunk. -/
theorem bytes_of_endsWithSlash (slash : folder.endsWithSlash) :
    folder.bytes = folder.trunk ++ [slashByte] := by
  have last : folder.bytes.getLast? = some slashByte := by
    simpa [endsWithSlash] using slash
  obtain ⟨before, split⟩ := List.getLast?_eq_some_iff.mp last
  rw [trunk, if_pos slash, split, List.dropLast_concat]

/-- A path inside a folder is the folder's trunk, a slash and the name. -/
theorem bytes_join (filled : folder.bytes ≠ []) (name : Name) :
    (folder.join name.path).bytes = folder.trunk ++ slashByte :: name.bytes := by
  unfold join
  rw [name.not_isAbsolute, if_neg Bool.false_ne_true, if_neg filled]
  by_cases slash : folder.endsWithSlash
  · rw [if_pos slash, bytes_of_endsWithSlash slash, List.append_assoc, List.singleton_append]
    rfl
  · rw [if_neg slash, trunk, if_neg slash]
    rfl

/-- A path inside a folder is not empty. -/
theorem bytes_join_ne_nil (filled : folder.bytes ≠ []) (name : Name) :
    (folder.join name.path).bytes ≠ [] := by
  rw [bytes_join filled name]
  exact List.append_ne_nil_of_right_ne_nil _ (List.cons_ne_nil _ _)

theorem endsWithSlash_join (filled : folder.bytes ≠ []) (name : Name) :
    (folder.join name.path).endsWithSlash = false := by
  unfold endsWithSlash
  rw [bytes_join filled, decide_eq_false_iff_not, List.getLast?_append,
    List.getLast?_cons_of_ne_nil name.isName.1]
  intro slash
  refine name.isName.2.1 (List.mem_of_getLast? ?_)
  rwa [List.getLast?_eq_some_getLast name.isName.1] at slash ⊢

/-- A path that ends in a name is its own trunk. -/
theorem trunk_join (filled : folder.bytes ≠ []) (name : Name) :
    (folder.join name.path).trunk = (folder.join name.path).bytes := by
  rw [trunk, endsWithSlash_join filled, if_neg Bool.false_ne_true]

theorem isAbsolute_join (filled : folder.bytes ≠ []) (name : Name) :
    (folder.join name.path).isAbsolute = folder.isAbsolute := by
  obtain ⟨first, rest, split⟩ := List.exists_cons_of_ne_nil filled
  unfold isAbsolute
  rw [bytes_join filled]
  by_cases slash : folder.endsWithSlash
  · rw [bytes_of_endsWithSlash slash]
    cases folder.trunk <;> rfl
  · rw [trunk, if_neg slash, split]
    rfl

/-- The segments of a folder are those of its trunk and, if it ends with a slash, an empty one. -/
theorem segments_eq (folder : Path) :
    splitAtEvery slashByte folder.bytes =
      splitAtEvery slashByte folder.trunk ++ if folder.endsWithSlash then [[]] else [] := by
  by_cases slash : folder.endsWithSlash
  · rw [bytes_of_endsWithSlash slash, splitAtEvery_append, if_pos slash]
    rfl
  · rw [if_neg slash, List.append_nil, trunk, if_neg slash]

theorem segments_join (filled : folder.bytes ≠ []) (name : Name) :
    splitAtEvery slashByte (folder.join name.path).bytes =
      splitAtEvery slashByte folder.trunk ++ [name.bytes] := by
  rw [bytes_join filled, splitAtEvery_append, splitAtEvery_of_not_mem name.isName.2.1]

/-- The segments of a path that leads down from a folder: those of the trunk, and names. -/
theorem Below.segments (below : Below folder path) (filled : folder.bytes ≠ []) :
    ∃ names : List Name, splitAtEvery slashByte path.bytes =
      splitAtEvery slashByte folder.trunk ++ names.map fun name => name.bytes := by
  induction below with
  | entry folder name =>
    exact ⟨[name], segments_join filled name⟩
  | @deeper folder path name below inductionStep =>
    obtain ⟨names, split⟩ := inductionStep (bytes_join_ne_nil filled name)
    refine ⟨name :: names, ?_⟩
    rw [split, trunk_join filled, segments_join filled, List.append_assoc]
    rfl

theorem inside_concat (folder : Path) (dirs : List Name) (name : Name) :
    folder.inside (dirs ++ [name]) = (folder.inside dirs).join name.path := by
  rw [inside, List.foldl_append, List.foldl_cons, List.foldl_nil, ← inside]

/-- A path that leads down from a folder is that of a place inside. -/
theorem Below.exists_inside (below : Below folder path) :
    ∃ dirs name, path = folder.inside (dirs ++ [name]) := by
  induction below with
  | entry folder name => exact ⟨[], name, rfl⟩
  | @deeper folder path first below inductionStep =>
    obtain ⟨dirs, name, rfl⟩ := inductionStep
    exact ⟨first :: dirs, name, rfl⟩

/-- A path that leads down from a folder goes on behind the folder's trunk and a slash. -/
theorem Below.exists_behind (below : Below folder path) (filled : folder.bytes ≠ []) :
    ∃ behind, path.bytes = folder.trunk ++ slashByte :: behind := by
  induction below with
  | entry folder name => exact ⟨name.bytes, bytes_join filled name⟩
  | @deeper folder path name below inductionStep =>
    obtain ⟨behind, split⟩ := inductionStep (bytes_join_ne_nil filled name)
    refine ⟨name.bytes ++ slashByte :: behind, ?_⟩
    rw [split, trunk_join filled, bytes_join filled, List.append_assoc, List.cons_append]

/-- A path that leads down from a folder has a slash. -/
theorem Below.slash_mem (below : Below folder path) (filled : folder.bytes ≠ []) :
    slashByte ∈ path.bytes := by
  obtain ⟨behind, split⟩ := below.exists_behind filled
  rw [split]
  exact List.mem_append_right _ List.mem_cons_self

end Path

/-! ### Components -/

/-- What a path is compared by. -/
inductive Component
  | root
  | current
  | parent
  | name (name : Name)

namespace Component

/-- The place of a kind of component. -/
def rank : Component → Nat
  | root => 0
  | current => 1
  | parent => 2
  | name _ => 3

/-- Components are ordered by their kinds, and names by their bytes. -/
inductive Before : Component → Component → Prop
  | kind {first second : Component} (below : first.rank < second.rank) : Before first second
  | name {first second : Name} (below : first.bytes < second.bytes) :
    Before (name first) (name second)

instance : LT Component := ⟨Before⟩

instance : Std.Irrefl (α := Component) (· < ·) where
  irrefl component below := by
    cases below with
    | kind below => exact Nat.lt_irrefl _ below
    | name below => exact List.lt_irrefl _ below

/-- The component of a segment behind the first one. -/
def ofSegment? (segment : List UInt8) : Option Component :=
  match Step.ofSegment? segment with
  | some .parent => some parent
  | some (.entry entry) => some (name entry)
  | some .current | none => none

end Component

namespace Path

/-- The components of a path, a `.` counted in front only. -/
def components (path : Path) : List Component :=
  let segments := splitAtEvery slashByte path.bytes
  (if path.isAbsolute then [.root]
    else if segments.head? = some [dotByte] then [.current] else []) ++
    segments.filterMap Component.ofSegment?

instance : LT Path := ⟨fun first second => first.components < second.components⟩

variable {folder : Path}

/-- A name inside a folder is one more component. -/
theorem components_join (filled : folder.bytes ≠ []) (name : Name) :
    (folder.join name.path).components = folder.components ++ [.name name] := by
  have own : Component.ofSegment? name.bytes = some (.name name) := by
    rw [Component.ofSegment?, Step.ofSegment?_name]
  have empty : (if folder.endsWithSlash then [[]] else []).filterMap Component.ofSegment? = [] := by
    split <;> rfl
  have head (more : List (List UInt8)) :
      (splitAtEvery slashByte folder.trunk ++ more).head? = (splitAtEvery slashByte folder.trunk).head? :=
    List.head?_append_of_ne_nil _ splitAtEvery_ne_nil
  unfold components
  dsimp only
  rw [segments_join filled, isAbsolute_join filled, segments_eq folder, head, head,
    List.filterMap_append, List.filterMap_append, empty, List.append_nil, List.append_assoc]
  simp [own]

/-- The components of a place inside a folder: those of the folder, and the names on the way down. -/
theorem components_inside (filled : folder.bytes ≠ []) (names : List Name) :
    (folder.inside names).components = folder.components ++ names.map .name := by
  induction names generalizing folder with
  | nil => exact (List.append_nil _).symm
  | cons name rest inductionStep =>
    show ((folder.join name.path).inside rest).components = _
    rw [inductionStep (bytes_join_ne_nil filled name), components_join filled]
    simp

/-- Places inside a folder are told apart by the names on the way down. -/
theorem inside_injective (filled : folder.bytes ≠ []) : Function.Injective folder.inside := by
  intro names others same
  have components := congrArg Path.components same
  rw [components_inside filled, components_inside filled, List.append_cancel_left_eq] at components
  refine List.map_injective_iff.mpr ?_ components
  intro first second equal
  exact Component.name.inj equal

/-- A place inside a folder is not the folder. -/
theorem inside_concat_ne (filled : folder.bytes ≠ []) (dirs : List Name) (name : Name) :
    folder.inside (dirs ++ [name]) ≠ folder := by
  intro same
  have empty : dirs ++ [name] = [] := inside_injective filled same
  exact List.concat_ne_nil _ _ empty

/-- A place comes first if the first name on the way down does. -/
theorem lt_of_first_lt (filled : folder.bytes ≠ []) {first second : Name} (below : first < second)
    (rest others : List Name) :
    folder.inside (first :: rest) < folder.inside (second :: others) := by
  show (folder.inside (first :: rest)).components < (folder.inside (second :: others)).components
  rw [components_inside filled, components_inside filled]
  refine List.append_left_lt (List.cons_lt_cons_iff.mpr (.inl ?_))
  exact .name below

end Path

/-! ### Paths as they are shown -/

/-- What stands on both sides of a slash is shown by itself. -/
theorem decode_append_slash (front rest : List UInt8) :
    Text.decode none (front ++ slashByte :: rest) =
      Text.decode none front ++ '/' :: Text.decode none rest :=
  Text.decode_append_ascii (by decide)

/-- A slash is shown for nothing else. -/
theorem slash_mem_decode_iff {segment : List UInt8} :
    '/' ∈ Text.decode none segment ↔ slashByte ∈ segment :=
  @Text.mem_decode_iff _ slashByte (by decide) (by decide)

theorem decode_intercalate (pieces : List (List UInt8)) :
    Text.decode none ([slashByte].intercalate pieces) =
      ['/'].intercalate (pieces.map (Text.decode none)) := by
  induction pieces with
  | nil => rfl
  | cons piece rest inductionStep =>
    by_cases last : rest = []
    · subst last
      rw [List.map_singleton, List.intercalate_singleton, List.intercalate_singleton]
    · have others : rest.map (Text.decode none) ≠ [] := fun none => last (List.map_eq_nil_iff.mp none)
      rw [List.map_cons, List.intercalate_cons_of_ne_nil last, List.intercalate_cons_of_ne_nil others,
        List.append_assoc, List.append_assoc, List.singleton_append, List.singleton_append,
        decode_append_slash, inductionStep]

/-- **The segments that are shown** are those of the path, each shown by itself. -/
theorem splitAtEvery_decode (whole : List UInt8) :
    splitAtEvery '/' (Text.decode none whole) =
      (splitAtEvery slashByte whole).map (Text.decode none) := by
  have shown := decode_intercalate (splitAtEvery slashByte whole)
  rw [intercalate_splitAtEvery] at shown
  rw [shown]
  refine splitAtEvery_intercalate ?_ fun piece member => ?_
  · exact fun none => splitAtEvery_ne_nil (List.map_eq_nil_iff.mp none)
  · obtain ⟨segment, isSegment, rfl⟩ := List.mem_map.mp member
    exact fun slash => not_mem_of_mem_splitAtEvery isSegment (slash_mem_decode_iff.mp slash)

/-- The segment `.` is shown for itself only. -/
theorem decode_eq_dot_iff {segment : List UInt8} :
    Text.decode none segment = ['.'] ↔ segment = [dotByte] := by
  have first := @Text.decode_eq_cons_iff segment dotByte (by decide) (by decide) []
  refine first.trans ⟨?_, fun same => ⟨[], same, rfl⟩⟩
  rintro ⟨others, rfl, nothing⟩
  rw [Text.decode_eq_nil_iff.mp nothing]

/-- The segment `..` is shown for itself only. -/
theorem decode_eq_dots_iff {segment : List UInt8} :
    Text.decode none segment = ['.', '.'] ↔ segment = [dotByte, dotByte] := by
  have first := @Text.decode_eq_cons_iff segment dotByte (by decide) (by decide) ['.']
  refine first.trans ⟨?_, fun same => ⟨[dotByte], same, rfl⟩⟩
  rintro ⟨others, rfl, last⟩
  rw [decode_eq_dot_iff.mp last]

namespace Name

theorem toList_text (name : Name) : name.text.toList = Text.decode none name.bytes :=
  String.toList_ofList

/-- A name is shown without a slash. -/
theorem slash_not_mem_text (name : Name) : '/' ∉ name.text.toList := by
  rw [toList_text, slash_mem_decode_iff]
  exact name.isName.2.1

/-- A name is not shown as nothing. -/
theorem text_ne_empty (name : Name) : name.text ≠ "" := by
  intro empty
  have nothing : Text.decode none name.bytes = [] := by
    rw [← toList_text, empty]
    rfl
  exact name.isName.1 (Text.decode_eq_nil_iff.mp nothing)

/-- A name is shown neither as the segment `.` nor as the segment `..`. -/
theorem toList_text_ne (name : Name) :
    name.text.toList ≠ ['.'] ∧ name.text.toList ≠ ['.', '.'] := by
  rw [toList_text]
  exact ⟨fun dot => name.isName.2.2.1 (decode_eq_dot_iff.mp dot),
    fun dots => name.isName.2.2.2 (decode_eq_dots_iff.mp dots)⟩

end Name

namespace Path

variable {folder path other : Path}

theorem toList_text (path : Path) : path.text.toList = Text.decode none path.bytes :=
  String.toList_ofList

@[simp] theorem text_ofText (text : String) : (ofText text).text = text :=
  Text.ofBytes_bytes text

theorem text_eq_empty_iff : path.text = "" ↔ path.bytes = [] := by
  rw [← String.toList_inj, toList_text]
  exact Text.decode_eq_nil_iff

/-- The segments of a path as it is shown. -/
theorem splitAtEvery_text (path : Path) :
    splitAtEvery '/' path.text.toList = (splitAtEvery slashByte path.bytes).map (Text.decode none) := by
  rw [toList_text, splitAtEvery_decode]

/-- A path inside a folder is shown as the folder's trunk, a slash and the name. -/
theorem toList_text_join (filled : folder.bytes ≠ []) (name : Name) :
    (folder.join name.path).text.toList =
      Text.decode none folder.trunk ++ '/' :: name.text.toList := by
  rw [toList_text, bytes_join filled, decode_append_slash, Name.toList_text]

/-- A path that leads down from a folder is shown with the folder's text in front. -/
theorem Below.isPrefix (below : Below folder path) (filled : folder.bytes ≠ []) :
    folder.text.toList <+: path.text.toList := by
  obtain ⟨behind, split⟩ := below.exists_behind filled
  rw [toList_text, toList_text, split, decode_append_slash]
  by_cases slash : folder.endsWithSlash
  · rw [bytes_of_endsWithSlash slash, decode_append_slash]
    exact (List.prefix_append_right_inj _).mpr (List.cons_prefix_cons.mpr ⟨rfl, List.nil_prefix⟩)
  · rw [trunk, if_neg slash]
    exact List.prefix_append _ _

/-- A text spells the path. -/
def IsText (path : Path) : Prop :=
  ∃ text, path = ofText text

theorem isText_iff : path.IsText ↔ ofText path.text = path := by
  refine ⟨?_, fun same => ⟨_, same.symm⟩⟩
  rintro ⟨text, rfl⟩
  rw [text_ofText]

instance : DecidablePred IsText := fun _ => decidable_of_iff _ isText_iff.symm

end Path

end ShaderCheck
