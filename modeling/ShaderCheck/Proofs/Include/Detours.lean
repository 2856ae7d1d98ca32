/-
**Detours in names, and canonical forms.**

A `.` in a name goes nowhere, and a segment with a `..` behind it goes somewhere and back. In a source
whose name has a folder part, names that differ by such detours only are looked up as one name. In a
source whose name has none, they are looked up as they are spelled, so they stay apart.

Working a name out leads to a name that is worked out already, and only by taking detours out. Since
detours are all that makes a difference, and none of them is left in the end, every name has one
canonical form, and two names have the same one exactly if they differ by detours only. The empty name
is on its own: it stands for one empty segment, and for no segment at all.

* `Include.AddsDetour`, `Include.Respelled`: one detour more, and any of them more or fewer;
* `Include.foldl_pushSegment_of_addsDetour`: a detour makes no difference to what is worked out;
* `Include.folderOf?_eq_none_iff`: the names without a folder part;
* `Include.resolveName_eq_iff_of_respelled`: when two spellings are looked up as one name;
* `Include.ofSegments`: the name with given segments;
* `Include.eqvGen_normalizeSegments`: working segments out only takes detours out;
* `Include.LeavesNothing`, `Include.normalize_eq_empty_iff`: the names that are worked out to the empty one;
* `Include.normalize_eq_normalize_iff`: when two names have one canonical form;
* `Include.normalize_canonical`: the laws of canonical forms.
-/

import Mathlib.Data.List.TakeWhile
import Mathlib.Logic.Relation
import ShaderCheck.Include
import ShaderCheck.Proofs.Include.Normal
import ShaderCheck.Proofs.Table

namespace ShaderCheck.Include

open Relation

/-- The second list of segments has one detour more than the first one. -/
inductive AddsDetour : List (List Char) → List (List Char) → Prop
  /-- A segment that stays. -/
  | stay (before after : List (List Char)) :
    AddsDetour (before ++ after) (before ++ ['.'] :: after)
  /-- A segment that goes on, and one that goes back. -/
  | thereAndBack (before after : List (List Char)) {segment : List Char} (filled : segment ≠ [])
      (notCurrent : segment ≠ ['.']) (notParent : segment ≠ ['.', '.']) :
    AddsDetour (before ++ after) (before ++ segment :: ['.', '.'] :: after)

/-- The names differ by detours only. -/
def Respelled (first second : String) : Prop :=
  EqvGen AddsDetour (splitAtEvery '/' first.toList) (splitAtEvery '/' second.toList)

/-! ### Working detours out -/

/-- Going on and back again leaves the segments before it. -/
theorem pushSegment_thereAndBack {before : List (List Char)} {segment : List Char}
    (filled : segment ≠ []) (notCurrent : segment ≠ ['.']) (notParent : segment ≠ ['.', '.']) :
    pushSegment (pushSegment before segment) ['.', '.'] = before := by
  have added : pushSegment before segment = segment :: before := by
    unfold pushSegment
    rw [if_neg notCurrent, if_neg notParent]
  have plain : segment ≠ [] ∧ segment ≠ ['.', '.'] := ⟨filled, notParent⟩
  rw [added]
  exact if_pos plain

variable {first second : List (List Char)}

/-- **A detour** makes no difference to the segments that are worked out. -/
theorem foldl_pushSegment_of_addsDetour (adds : AddsDetour first second)
    (start : List (List Char)) : second.foldl pushSegment start = first.foldl pushSegment start := by
  cases adds with
  | stay before after =>
    rw [List.foldl_append, List.foldl_append, List.foldl_cons]
    rfl
  | thereAndBack before after filled notCurrent notParent =>
    rw [List.foldl_append, List.foldl_append, List.foldl_cons, List.foldl_cons,
      pushSegment_thereAndBack filled notCurrent notParent]

theorem foldl_pushSegment_of_eqvGen (related : EqvGen AddsDetour first second)
    (start : List (List Char)) : first.foldl pushSegment start = second.foldl pushSegment start := by
  induction related with
  | rel first second adds => exact (foldl_pushSegment_of_addsDetour adds start).symm
  | refl segments => rfl
  | symm first second _ inductionStep => exact inductionStep.symm
  | trans first second third _ _ inductionFirst inductionSecond =>
    exact inductionFirst.trans inductionSecond

/-- Names that differ by detours only are worked out alike behind a folder. -/
theorem normalize_of_respelled {first second : String} (respelled : Respelled first second)
    (folder : String) : normalize (folder ++ "/" ++ first) = normalize (folder ++ "/" ++ second) := by
  have segments (name : String) : splitAtEvery '/' (folder ++ "/" ++ name).toList =
      splitAtEvery '/' folder.toList ++ splitAtEvery '/' name.toList := by
    rw [← splitAtEvery_append]
    simp
  rw [normalize, normalize, segments, segments, normalizeSegments, normalizeSegments,
    List.foldl_append, List.foldl_append, foldl_pushSegment_of_eqvGen respelled]

/-! ### Names that are looked up -/

/-- A name without a slash has no folder part. -/
theorem folderOf?_eq_none_iff {name : String} : folderOf? name = none ↔ '/' ∉ name.toList := by
  unfold folderOf?
  constructor
  · intro none
    split at none
    · rename_i nothing
      intro slash
      have other := List.dropWhile_eq_nil_iff.mp nothing '/' (List.mem_reverse.mpr slash)
      simp at other
    · cases none
  · intro absent
    have nothing : name.toList.reverse.dropWhile (· ≠ '/') = [] := by
      refine List.dropWhile_eq_nil_iff.mpr fun c member => decide_eq_true ?_
      rintro rfl
      exact absent (List.mem_reverse.mp member)
    rw [nothing]

variable {requested current : String}

/-- Next to a name without a folder part, every name stands for itself. -/
theorem resolveName_of_not_mem (noSlash : '/' ∉ current.toList) :
    resolveName requested (some current) = requested := by
  unfold resolveName
  split
  · rfl
  · rw [Option.bind_some, folderOf?_eq_none_iff.mpr noSlash]

/-- Two names are one exactly if every table binds them to the same file. -/
theorem eq_iff_forall_get?_eq {first second : String} :
    first = second ↔ ∀ sources : NamedSources, sources.get? first = sources.get? second := by
  constructor
  · rintro rfl sources
    rfl
  · intro same
    have found := same (Table.empty.insert first (.ofText ""))
    rw [Table.get?_insert, Table.get?_insert, if_pos rfl] at found
    by_cases equal : second = first
    · exact equal.symm
    · rw [if_neg equal] at found
      cases found

/-- **When spellings of a relative name are looked up as one.** In a source whose name has a slash, names
that differ by detours only are looked up as the same name and so stand for the same file in every table.
In a source whose name has no slash, this holds only of a name and itself. -/
theorem resolveName_eq_iff_of_respelled {first second : String}
    (relative : first.toList.head? ≠ some '/') (alsoRelative : second.toList.head? ≠ some '/')
    (respelled : Respelled first second) :
    (resolveName first (some current) = resolveName second (some current) ↔
        '/' ∈ current.toList ∨ first = second) ∧
      ((∀ sources : NamedSources, sources.get? (resolveName first (some current)) =
          sources.get? (resolveName second (some current))) ↔
        '/' ∈ current.toList ∨ first = second) := by
  have oneName : resolveName first (some current) = resolveName second (some current) ↔
      '/' ∈ current.toList ∨ first = second := by
    cases isFolder : folderOf? current with
    | none =>
      have noSlash := folderOf?_eq_none_iff.mp isFolder
      rw [resolveName_of_not_mem noSlash, resolveName_of_not_mem noSlash]
      exact (or_iff_right noSlash).symm
    | some folder =>
      have slash : '/' ∈ current.toList := Decidable.not_not.mp fun noSlash => by
        cases isFolder.symm.trans (folderOf?_eq_none_iff.mpr noSlash)
      rw [resolveName_of_folderOf? relative isFolder, resolveName_of_folderOf? alsoRelative isFolder]
      exact iff_of_true (normalize_of_respelled respelled folder) (.inl slash)
  exact ⟨oneName, eq_iff_forall_get?_eq.symm.trans oneName⟩

/-- The names `b.glsl` and `./b.glsl` are one next to `/lib/a.glsl`, and two next to `a.glsl`. -/
theorem respelled_apart :
    Respelled "b.glsl" "./b.glsl" ∧
      resolveName "b.glsl" (some "/lib/a.glsl") = resolveName "./b.glsl" (some "/lib/a.glsl") ∧
      resolveName "b.glsl" (some "a.glsl") ≠ resolveName "./b.glsl" (some "a.glsl") := by
  have respelled : Respelled "b.glsl" "./b.glsl" := .rel _ _ (.stay [] ["b.glsl".toList])
  have told (current : String) :
      resolveName "b.glsl" (some current) = resolveName "./b.glsl" (some current) ↔
        '/' ∈ current.toList ∨ "b.glsl" = "./b.glsl" :=
    (resolveName_eq_iff_of_respelled (by decide) (by decide) respelled).1
  refine ⟨respelled, (told "/lib/a.glsl").mpr (.inl (by decide)), fun same => ?_⟩
  exact absurd ((told "a.glsl").mp same) (by decide)

/-! ### Names by their segments -/

/-- The name with these segments. -/
def ofSegments (segments : List (List Char)) : String :=
  String.ofList (['/'].intercalate segments)

theorem splitAtEvery_ofSegments {segments : List (List Char)} (filled : segments ≠ [])
    (plain : ∀ segment ∈ segments, '/' ∉ segment) :
    splitAtEvery '/' (ofSegments segments).toList = segments := by
  rw [ofSegments, String.toList_ofList, splitAtEvery_intercalate filled plain]

/-- A name is worked out segment by segment. -/
theorem normalize_eq_ofSegments (name : String) :
    normalize name = ofSegments (normalizeSegments (splitAtEvery '/' name.toList)) := rfl

variable {segments : List (List Char)} {name other : String}

theorem normalize_ofSegments (filled : segments ≠ [])
    (plain : ∀ segment ∈ segments, '/' ∉ segment) :
    normalize (ofSegments segments) = ofSegments (normalizeSegments segments) := by
  rw [normalize_eq_ofSegments, splitAtEvery_ofSegments filled plain]

/-! ### Taking detours out -/

/-- A detour is one in front of other segments too. -/
theorem AddsDetour.append (adds : AddsDetour first second) (behind : List (List Char)) :
    AddsDetour (first ++ behind) (second ++ behind) := by
  cases adds with
  | stay before after =>
    rw [List.append_assoc, List.append_assoc]
    exact .stay before (after ++ behind)
  | thereAndBack before after filled notCurrent notParent =>
    rw [List.append_assoc, List.append_assoc]
    exact .thereAndBack before (after ++ behind) filled notCurrent notParent

theorem AddsDetour.ne_nil (adds : AddsDetour first second) : second ≠ [] := by
  cases adds <;> simp

theorem eqvGen_append (related : EqvGen AddsDetour first second) (behind : List (List Char)) :
    EqvGen AddsDetour (first ++ behind) (second ++ behind) := by
  induction related with
  | rel first second adds => exact .rel _ _ (adds.append behind)
  | refl segments => exact .refl _
  | symm first second _ inductionStep => exact inductionStep.symm
  | trans first second third _ _ inductionFirst inductionSecond =>
    exact inductionFirst.trans _ _ _ inductionSecond

/-- Behind normal segments, a segment that does not stay makes a detour. -/
theorem eqvGen_pushSegment {segment : List Char} (normal : IsNormal segments) :
    EqvGen AddsDetour (pushSegment segments.reverse segment).reverse (segments ++ [segment]) := by
  by_cases current : segment = ['.']
  · have detour := AddsDetour.stay segments []
    rw [List.append_nil] at detour
    unfold pushSegment
    rw [if_pos current, List.reverse_reverse, current]
    exact .rel _ _ detour
  · by_cases stays : Stays segments segment
    · rw [pushSegment_eq_cons_iff.mpr stays, List.reverse_cons, List.reverse_reverse]
      exact .refl _
    · have parent : segment = ['.', '.'] :=
        Decidable.not_not.mp fun notParent => stays (stays_of_ne current notParent)
      cases segments using List.reverseRecOn with
      | nil => exact absurd ⟨current, fun _ => .inl rfl⟩ stays
      | append_singleton earlier last =>
        have plain : last ≠ [] ∧ last ≠ ['.', '.'] := by
          refine not_or.mp fun same => stays ⟨current, fun _ => .inr ?_⟩
          rwa [List.getLast?_concat, Option.some_inj, Option.some_inj]
        -- What is taken back is no `.`, as normal segments have none.
        have notCurrent : last ≠ ['.'] := (isNormal_concat.mp normal).2.1
        have detour := AddsDetour.thereAndBack earlier [] plain.1 notCurrent plain.2
        rw [List.append_nil] at detour
        unfold pushSegment
        rw [if_neg current, if_pos parent, List.reverse_concat, parent, List.append_assoc]
        dsimp only
        rw [if_pos plain, List.reverse_reverse]
        exact .rel _ _ detour

/-- **Working segments out** only takes detours out. By induction on the segments, the last one coming
behind those that are worked out already. -/
theorem eqvGen_normalizeSegments (segments : List (List Char)) :
    EqvGen AddsDetour (normalizeSegments segments) segments := by
  induction segments using List.reverseRecOn with
  | nil => exact .refl _
  | append_singleton segments segment inductionStep =>
    rw [normalizeSegments_concat]
    exact (eqvGen_pushSegment isNormal_normalizeSegments).trans _ _ _
      (eqvGen_append inductionStep [segment])

/-- Segments that differ by detours only are worked out alike. -/
theorem normalizeSegments_eq_iff :
    normalizeSegments first = normalizeSegments second ↔ EqvGen AddsDetour first second := by
  constructor
  · intro same
    have back := (eqvGen_normalizeSegments first).symm
    rw [same] at back
    exact back.trans _ _ _ (eqvGen_normalizeSegments second)
  · intro related
    rw [normalizeSegments, foldl_pushSegment_of_eqvGen related, ← normalizeSegments]

/-! ### Canonical forms -/

/-- Up to detours, the name has the one segment of the empty name, or no segment at all. -/
def LeavesNothing (name : String) : Prop :=
  Respelled name "" ∨ EqvGen AddsDetour (splitAtEvery '/' name.toList) []

/-- The empty name has one empty segment or none. -/
theorem ofSegments_eq_empty_iff : ofSegments segments = "" ↔ segments = [[]] ∨ segments = [] := by
  rw [← String.toList_inj, ofSegments, String.toList_ofList]
  cases segments with
  | nil => exact iff_of_true rfl (.inr rfl)
  | cons first rest =>
    by_cases last : rest = []
    · rw [last, List.intercalate_singleton]
      simp
    · rw [List.intercalate_cons_of_ne_nil last]
      simp [last]

/-- A name is worked out to the empty one exactly if detours leave nothing of it. -/
theorem normalize_eq_empty_iff : normalize name = "" ↔ LeavesNothing name := by
  rw [normalize_eq_ofSegments, ofSegments_eq_empty_iff, LeavesNothing, Respelled,
    ← normalizeSegments_eq_iff, ← normalizeSegments_eq_iff]
  rfl

/-- **Two names have one canonical form** if they differ by detours only, or if nothing is left of
either. -/
theorem normalize_eq_normalize_iff :
    normalize name = normalize other ↔
      Respelled name other ∨ LeavesNothing name ∧ LeavesNothing other := by
  have plain (text : String) : ∀ segment ∈ normalizeSegments (splitAtEvery '/' text.toList),
      '/' ∉ segment := fun segment member =>
    not_mem_of_mem_splitAtEvery (mem_of_mem_normalizeSegments member)
  rw [Respelled, ← normalizeSegments_eq_iff, ← normalize_eq_empty_iff, ← normalize_eq_empty_iff]
  constructor
  · intro same
    by_cases none : normalizeSegments (splitAtEvery '/' name.toList) = [] ∨
        normalizeSegments (splitAtEvery '/' other.toList) = []
    · have empty : normalize name = "" := by
        rcases none with none | none
        · exact normalize_eq_ofSegments name ▸ ofSegments_eq_empty_iff.mpr (.inr none)
        · exact same.trans (normalize_eq_ofSegments other ▸ ofSegments_eq_empty_iff.mpr (.inr none))
      exact .inr ⟨empty, same ▸ empty⟩
    · obtain ⟨filled, alsoFilled⟩ := not_or.mp none
      rw [← splitAtEvery_normalize filled, ← splitAtEvery_normalize alsoFilled, same]
      exact .inl rfl
  · rintro (same | ⟨empty, alsoEmpty⟩)
    · rw [normalize_eq_ofSegments, same, ← normalize_eq_ofSegments]
    · rw [empty, alsoEmpty]

/-- A name with a detour more is worked out to the same. -/
theorem normalize_of_addsDetour (adds : AddsDetour (splitAtEvery '/' name.toList) segments)
    (plain : ∀ segment ∈ segments, '/' ∉ segment) :
    normalize (ofSegments segments) = normalize name := by
  rw [normalize_ofSegments adds.ne_nil plain, normalizeSegments, foldl_pushSegment_of_addsDetour adds]
  rfl

/-- **The canonical form of a name.** Working a name out again changes nothing. No segment of what is
worked out is `.`, and each `..` is the first segment or follows an empty one or a `..`. Put between any
two segments of a name, in front of them or behind them, a `.`, or a segment that is neither empty nor
`.` nor `..` with a `..` behind it, makes no difference. And nothing else does: names that are worked out
to the same differ by such detours only, or without these nothing is left of either. -/
theorem normalize_canonical (name : String) :
    normalize (normalize name) = normalize name ∧
      (∀ before segment after,
        splitAtEvery '/' (normalize name).toList = before ++ segment :: after →
          segment ≠ ['.'] ∧ (segment = ['.', '.'] →
            before = [] ∨ before.getLast? = some [] ∨ before.getLast? = some ['.', '.'])) ∧
      (∀ before after, splitAtEvery '/' name.toList = before ++ after →
        normalize (ofSegments (before ++ ['.'] :: after)) = normalize name ∧
        ∀ segment, segment ≠ [] → segment ≠ ['.'] → segment ≠ ['.', '.'] → '/' ∉ segment →
          normalize (ofSegments (before ++ segment :: ['.', '.'] :: after)) = normalize name) ∧
      ∀ other, normalize name = normalize other ↔
        Respelled name other ∨ LeavesNothing name ∧ LeavesNothing other := by
  have normal := isNormal_splitAtEvery_normalize name
  refine ⟨normalize_eq_self_iff.mpr normal, normal, fun before after cut => ?_,
    fun other => normalize_eq_normalize_iff⟩
  have plain : ∀ segment ∈ before ++ after, '/' ∉ segment := fun segment member =>
    not_mem_of_mem_splitAtEvery (cut ▸ member)
  rw [List.forall_mem_append] at plain
  refine ⟨normalize_of_addsDetour (cut ▸ .stay before after) ?_,
    fun segment filled notCurrent notParent slashless =>
      normalize_of_addsDetour (cut ▸ .thereAndBack before after filled notCurrent notParent) ?_⟩
  · rw [List.forall_mem_append, List.forall_mem_cons]
    exact ⟨plain.1, by decide, plain.2⟩
  · rw [List.forall_mem_append, List.forall_mem_cons, List.forall_mem_cons]
    exact ⟨plain.1, slashless, by decide, plain.2⟩

end ShaderCheck.Include
