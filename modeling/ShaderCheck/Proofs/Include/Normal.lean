/-
**Normal names.**

Segments are normal if none of them is `.` and each `..` has nothing before it that it could take
back: it is the first segment, or follows an empty one or another `..`. Working out the segments of
a name leaves it alone exactly when they are normal.

* `Include.IsNormal`: normal segments;
* `Include.normalizeSegments_eq_self_iff`: the segments that working out leaves alone;
* `Include.normalize_eq_self_iff`: the names that working out leaves alone;
* `Include.resolveName_of_folderOf?`: the names that are worked out to be looked up.
-/

import Mathlib.Data.List.Induction
import ShaderCheck.Include
import ShaderCheck.Proofs.Path

namespace ShaderCheck.Include

/-- Whether a segment stays as it is after the segments before it. -/
def Stays (before : List (List Char)) (segment : List Char) : Prop :=
  segment ≠ ['.'] ∧
    (segment = ['.', '.'] →
      before = [] ∨ before.getLast? = some [] ∨ before.getLast? = some ['.', '.'])

/-- No segment is `.`, and each `..` is the first segment or follows an empty one or a `..`. -/
def IsNormal (segments : List (List Char)) : Prop :=
  ∀ before segment after, segments = before ++ segment :: after → Stays before segment

/-! ### Normal segments -/

variable {segments before : List (List Char)} {segment : List Char}

theorem isNormal_nil : IsNormal [] := by
  intro before segment after split
  simp at split

/-- One more segment keeps segments normal if it stays after them. -/
theorem isNormal_concat :
    IsNormal (segments ++ [segment]) ↔ IsNormal segments ∧ Stays segments segment := by
  constructor
  · intro normal
    refine ⟨fun before inner after split => ?_, normal segments segment [] rfl⟩
    exact normal before inner (after ++ [segment]) (by simp [split])
  · rintro ⟨normal, stays⟩ before inner after split
    cases after using List.reverseRecOn with
    | nil =>
      obtain ⟨rfl, same⟩ := List.append_inj' split rfl
      rwa [← List.singleton_inj.mp same]
    | append_singleton after last =>
      rw [← List.cons_append, ← List.append_assoc] at split
      exact normal before inner after (List.append_inj' split rfl).1

/-- The first segments of normal segments are normal. -/
theorem isNormal_of_isPrefix (front : before <+: segments) (normal : IsNormal segments) :
    IsNormal before := by
  obtain ⟨rest, rfl⟩ := front
  intro earlier inner after split
  exact normal earlier inner (after ++ rest) (by simp [split])

/-- A segment that is neither `.` nor `..` stays anywhere. -/
theorem stays_of_ne (notCurrent : segment ≠ ['.']) (notParent : segment ≠ ['.', '.']) :
    Stays segments segment :=
  ⟨notCurrent, fun same => absurd same notParent⟩

/-- Segments that are neither `.` nor `..` may follow normal segments. -/
theorem isNormal_append_iff {names : List (List Char)}
    (plain : ∀ name ∈ names, name ≠ ['.'] ∧ name ≠ ['.', '.']) :
    IsNormal (segments ++ names) ↔ IsNormal segments := by
  induction names using List.reverseRecOn with
  | nil => rw [List.append_nil]
  | append_singleton names name inductionStep =>
    rw [← List.append_assoc, isNormal_concat,
      inductionStep fun name member => plain name (List.mem_append_left _ member)]
    have := plain name (by simp)
    exact and_iff_left (stays_of_ne this.1 this.2)

/-! ### Working segments out -/

/-- Segments are worked out from the front, the last one after all others. -/
theorem normalizeSegments_concat :
    normalizeSegments (segments ++ [segment]) =
      (pushSegment (normalizeSegments segments).reverse segment).reverse := by
  simp [normalizeSegments]

/-- A segment is added as it is exactly when it stays. -/
theorem pushSegment_eq_cons_iff :
    pushSegment segments.reverse segment = segment :: segments.reverse ↔
      Stays segments segment := by
  unfold pushSegment Stays
  by_cases current : segment = ['.']
  · simp [current]
  · by_cases parent : segment = ['.', '.']
    · cases segments using List.reverseRecOn with
      | nil => simp [parent]
      | append_singleton earlier last =>
        by_cases empty : last = []
        · simp [parent, empty]
        · by_cases again : last = ['.', '.'] <;> simp [parent, empty, again]
    · simp [current, parent]

/-- A segment that does not stay leaves some of the segments before it. -/
theorem reverse_pushSegment_isPrefix (moves : ¬ Stays segments segment) :
    (pushSegment segments.reverse segment).reverse <+: segments := by
  unfold pushSegment
  by_cases current : segment = ['.']
  · rw [if_pos current]
    exact ⟨[], by rw [List.append_nil, List.reverse_reverse]⟩
  · by_cases parent : segment = ['.', '.']
    · rw [if_neg current, if_pos parent]
      cases segments using List.reverseRecOn with
      | nil => exact absurd ⟨current, fun _ => .inl rfl⟩ moves
      | append_singleton earlier last =>
        rw [List.reverse_concat]
        by_cases plain : last ≠ [] ∧ last ≠ ['.', '.']
        · dsimp only
          rw [if_pos plain, List.reverse_reverse]
          exact List.prefix_append earlier [last]
        · refine absurd ⟨current, fun _ => .inr ?_⟩ moves
          rw [List.getLast?_concat, Option.some_inj, Option.some_inj]
          exact not_not.mp fun neither => plain (not_or.mp neither)
    · exact absurd (stays_of_ne current parent) moves

/-- A segment is added as it is, or makes no segment more. -/
theorem pushSegment_eq_cons_or_length_le :
    pushSegment segments segment = segment :: segments ∨
      (pushSegment segments segment).length ≤ segments.length := by
  unfold pushSegment
  split
  · exact .inr (Nat.le_refl _)
  · split
    · cases segments with
      | nil => rename_i parent; exact .inl (by rw [parent])
      | cons last earlier =>
        dsimp only
        split
        · exact .inr (Nat.le_succ _)
        · exact .inl rfl
    · exact .inl rfl

/-- Working segments out makes none. -/
theorem length_normalizeSegments_le : (normalizeSegments segments).length ≤ segments.length := by
  induction segments using List.reverseRecOn with
  | nil => simp [normalizeSegments]
  | append_singleton segments segment inductionStep =>
    rw [normalizeSegments_concat, List.length_reverse, List.length_append, List.length_singleton]
    rw [← List.length_reverse] at inductionStep
    rcases pushSegment_eq_cons_or_length_le with added | fewer
    · rw [added, List.length_cons]
      exact Nat.add_le_add_right inductionStep 1
    · exact Nat.le_succ_of_le (Nat.le_trans fewer inductionStep)

/-- **Working segments out leaves them alone** exactly when they are normal. -/
theorem normalizeSegments_eq_self_iff :
    normalizeSegments segments = segments ↔ IsNormal segments := by
  induction segments using List.reverseRecOn with
  | nil => exact iff_of_true rfl isNormal_nil
  | append_singleton segments segment inductionStep =>
    rw [isNormal_concat, ← inductionStep, normalizeSegments_concat, List.reverse_eq_iff,
      List.reverse_concat]
    constructor
    · intro added
      -- Nothing before the segment can be lost, for want of segments to make up for it.
      rcases pushSegment_eq_cons_or_length_le with kept | fewer
      · have same : normalizeSegments segments = segments :=
          List.reverse_inj.mp (List.cons.inj (kept.symm.trans added)).2
        rw [same] at added
        exact ⟨same, pushSegment_eq_cons_iff.mp added⟩
      · have bound := @length_normalizeSegments_le segments
        rw [added, List.length_cons, List.length_reverse, List.length_reverse] at fewer
        omega
    · rintro ⟨same, stays⟩
      rw [same]
      exact pushSegment_eq_cons_iff.mpr stays

/-- Adding a segment brings no other segments in. -/
theorem mem_pushSegment {inner : List Char} (member : inner ∈ pushSegment segments segment) :
    inner = segment ∨ inner ∈ segments := by
  unfold pushSegment at member
  split at member
  · exact .inr member
  · split at member
    · split at member
      · split at member
        · exact .inr (List.mem_cons_of_mem _ member)
        · exact List.mem_cons.mp member
      · exact .inl (List.mem_singleton.mp member)
    · exact List.mem_cons.mp member

/-- Working segments out brings no others in. -/
theorem mem_of_mem_normalizeSegments (member : segment ∈ normalizeSegments segments) :
    segment ∈ segments := by
  induction segments using List.reverseRecOn with
  | nil => simp [normalizeSegments] at member
  | append_singleton segments last inductionStep =>
    rw [normalizeSegments_concat, List.mem_reverse] at member
    rcases mem_pushSegment member with rfl | earlier
    · simp
    · exact List.mem_append_left _ (inductionStep (List.mem_reverse.mp earlier))

/-- The segments of a name that is worked out, if any are left. -/
theorem splitAtEvery_normalize {name : String}
    (filled : normalizeSegments (splitAtEvery '/' name.toList) ≠ []) :
    splitAtEvery '/' (normalize name).toList =
      normalizeSegments (splitAtEvery '/' name.toList) := by
  rw [normalize, String.toList_ofList]
  exact splitAtEvery_intercalate filled fun piece member =>
    not_mem_of_mem_splitAtEvery (mem_of_mem_normalizeSegments member)

/-- Segments that are worked out are normal. -/
theorem isNormal_normalizeSegments : IsNormal (normalizeSegments segments) := by
  induction segments using List.reverseRecOn with
  | nil => exact isNormal_nil
  | append_singleton segments segment inductionStep =>
    rw [normalizeSegments_concat]
    by_cases stays : Stays (normalizeSegments segments) segment
    · rw [pushSegment_eq_cons_iff.mpr stays, List.reverse_cons, List.reverse_reverse]
      exact isNormal_concat.mpr ⟨inductionStep, stays⟩
    · exact isNormal_of_isPrefix (reverse_pushSegment_isPrefix stays) inductionStep

/-- The segments of a name that is worked out are normal. -/
theorem isNormal_splitAtEvery_normalize (name : String) :
    IsNormal (splitAtEvery '/' (normalize name).toList) := by
  by_cases nothing : normalizeSegments (splitAtEvery '/' name.toList) = []
  · rw [normalize, nothing]
    exact isNormal_concat.mpr ⟨isNormal_nil, by decide, by decide⟩
  · rw [splitAtEvery_normalize nothing]
    exact isNormal_normalizeSegments

/-- **Working a name out leaves it alone** exactly when its segments are normal. -/
theorem normalize_eq_self_iff {name : String} :
    normalize name = name ↔ IsNormal (splitAtEvery '/' name.toList) := by
  rw [← normalizeSegments_eq_self_iff]
  constructor
  · intro same
    by_cases nothing : normalizeSegments (splitAtEvery '/' name.toList) = []
    · -- Only the empty name could be left, and its one segment stays.
      have empty : name = "" := by
        rw [← same, normalize, nothing]
        rfl
      subst empty
      rfl
    · rw [← splitAtEvery_normalize nothing, same]
  · intro same
    rw [normalize, same, intercalate_splitAtEvery, String.ofList_toList]

/-- Next to a name with a folder part, a relative name is worked out. -/
theorem resolveName_of_folderOf? {requested current folder : String}
    (relative : requested.toList.head? ≠ some '/') (isFolder : folderOf? current = some folder) :
    resolveName requested (some current) = normalize (folder ++ "/" ++ requested) := by
  rw [resolveName, if_neg relative, Option.bind_some, isFolder]

end ShaderCheck.Include
