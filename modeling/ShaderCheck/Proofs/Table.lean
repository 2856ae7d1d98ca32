/-
**Sets as increasing lists, and tables.**

Putting values in their places one by one gives the strictly increasing list of them. There is only one
such list for a set, so neither the order of the values nor how often one is given makes a difference. A
table answers with the last value that was inserted under a key, whatever else was inserted.

* `Ordered.mem_ofList`, `Ordered.pairwise_ofList`: the list holds the values, strictly increasing;
* `Ordered.ofList_congr`: lists of the same values give the same;
* `Table.get?_insert`, `Table.get?_insertMany`: after one insertion, and after any list of them;
* `Table.get?_insertMany_keyed`: after inserting values under keys of their own;
* `Table.exists_get?_insertMany_keyed`: the same, where values may share a key;
* `Table.pairwise_keys`, `Table.mem_keys_iff`: the bound keys.
-/

import Mathlib.Data.List.Sort
import Mathlib.Data.String.Basic
import ShaderCheck.Ordered

namespace ShaderCheck

/-! ### Sets -/

namespace Ordered

variable {α : Type} [LT α] [DecidableLT α] [IsStrictTotalOrder α (· < ·)]

theorem mem_insert {value other : α} {values : List α} :
    other ∈ insert value values ↔ other = value ∨ other ∈ values := by
  induction values with
  | nil => simp [insert]
  | cons head rest inductionStep =>
    unfold insert
    by_cases below : value < head
    · rw [if_pos below, List.mem_cons]
    · rw [if_neg below]
      by_cases above : head < value
      · rw [if_pos above, List.mem_cons, inductionStep, List.mem_cons, or_left_comm]
      · rw [if_neg above]
        obtain rfl : value = head := Std.Trichotomous.trichotomous _ _ below above
        simp

theorem pairwise_insert (value : α) {values : List α} (ascending : values.Pairwise (· < ·)) :
    (insert value values).Pairwise (· < ·) := by
  induction values with
  | nil => exact List.pairwise_singleton ..
  | cons head rest inductionStep =>
    obtain ⟨headFirst, restAscending⟩ := List.pairwise_cons.mp ascending
    unfold insert
    by_cases below : value < head
    · rw [if_pos below]
      refine List.pairwise_cons.mpr ⟨fun other member => ?_, ascending⟩
      rcases List.mem_cons.mp member with rfl | later
      · exact below
      · exact IsTrans.trans _ _ _ below (headFirst other later)
    · rw [if_neg below]
      by_cases above : head < value
      · rw [if_pos above]
        refine List.pairwise_cons.mpr ⟨fun other member => ?_, inductionStep restAscending⟩
        rcases mem_insert.mp member with rfl | old
        · exact above
        · exact headFirst other old
      · rwa [if_neg above]

theorem mem_ofList {value : α} {values : List α} : value ∈ ofList values ↔ value ∈ values := by
  induction values with
  | nil => rfl
  | cons first rest inductionStep =>
    rw [ofList, List.foldr_cons, ← ofList, mem_insert, inductionStep, List.mem_cons]

theorem pairwise_ofList (values : List α) : (ofList values).Pairwise (· < ·) := by
  induction values with
  | nil => exact List.Pairwise.nil
  | cons first rest inductionStep => exact pairwise_insert first inductionStep

/-- **Order and repetition** make no difference. -/
theorem ofList_congr {values others : List α} (same : ∀ value, value ∈ values ↔ value ∈ others) :
    ofList values = ofList others := by
  refine (pairwise_ofList values).eq_of_mem_iff (pairwise_ofList others) fun value => ?_
  rw [mem_ofList, mem_ofList, same]

end Ordered

/-! ### Tables -/

/-- The first entry of a list answers for its key only. -/
theorem lookup_cons_eq_ite {β : Type} (key other : String) (value : β)
    (entries : List (String × β)) :
    ((key, value) :: entries).lookup other =
      if other = key then some value else entries.lookup other := by
  rw [List.lookup_cons]
  by_cases same : other = key
  · rw [if_pos same, beq_iff_eq.mpr same]
  · rw [if_neg same, beq_eq_false_iff_ne.mpr same]

theorem lookup_insertEntry {β : Type} (key other : String) (value : β)
    (entries : List (String × β)) :
    (insertEntry key value entries).lookup other =
      if other = key then some value else entries.lookup other := by
  induction entries with
  | nil => rw [insertEntry, lookup_cons_eq_ite]
  | cons head rest inductionStep =>
    obtain ⟨first, found⟩ := head
    unfold insertEntry
    split
    · rw [lookup_cons_eq_ite]
    · split
      · rename_i above
        rw [lookup_cons_eq_ite, lookup_cons_eq_ite, inductionStep]
        by_cases atFirst : other = first
        · have different : other ≠ key := fun same =>
            String.lt_irrefl key (by rw [← atFirst, same] at above; exact above)
          rw [if_pos atFirst, if_neg different, if_pos atFirst]
        · rw [if_neg atFirst, if_neg atFirst]
      · rename_i notBelow notAbove
        obtain rfl : key = first := eq_of_not_lt notBelow notAbove
        rw [lookup_cons_eq_ite, lookup_cons_eq_ite]
        by_cases same : other = key
        · rw [if_pos same, if_pos same]
        · rw [if_neg same, if_neg same, if_neg same]

namespace Table

variable {β : Type}

/-- An insertion changes what its key is bound to and nothing else. -/
theorem get?_insert (table : Table β) (key other : String) (value : β) :
    (table.insert key value).get? other = if other = key then some value else table.get? other :=
  lookup_insertEntry key other value table.entries

/-- After a list of insertions, a key is bound to the last value inserted under it. -/
theorem get?_insertMany (table : Table β) (pairs : List (String × β)) (key : String) :
    (table.insertMany pairs).get? key = (pairs.reverse.lookup key).or (table.get? key) := by
  induction pairs generalizing table with
  | nil => rfl
  | cons pair rest inductionStep =>
    have first : [pair].lookup key = if key = pair.1 then some pair.2 else none :=
      lookup_cons_eq_ite pair.1 key pair.2 []
    rw [insertMany, List.foldl_cons, ← insertMany, inductionStep, get?_insert, List.reverse_cons,
      List.lookup_append, Option.or_assoc, first]
    by_cases same : key = pair.1
    · rw [if_pos same, if_pos same, Option.some_or]
    · rw [if_neg same, if_neg same, Option.none_or]

theorem insertMany_append (table : Table β) (first second : List (String × β)) :
    table.insertMany (first ++ second) = (table.insertMany first).insertMany second :=
  List.foldl_append

/-- Insertions leave every bound key bound. -/
theorem isSome_get?_insertMany {table : Table β} {key : String} (bound : (table.get? key).isSome)
    (pairs : List (String × β)) : ((table.insertMany pairs).get? key).isSome := by
  rw [get?_insertMany, Option.isSome_or, bound, Bool.or_true]

theorem mem_of_lookup_reverse {pairs : List (String × β)} {key : String} {value : β}
    (found : pairs.reverse.lookup key = some value) : (key, value) ∈ pairs := by
  obtain ⟨before, after, split, _⟩ := List.lookup_eq_some_iff.mp found
  refine List.mem_reverse.mp ?_
  rw [split]
  simp

/-- What a key is bound to only changes to a value that was inserted under it. -/
theorem exists_mem_of_get?_insertMany_ne {table : Table β} {pairs : List (String × β)} {key : String}
    (changed : (table.insertMany pairs).get? key ≠ table.get? key) :
    ∃ value, (key, value) ∈ pairs ∧ (table.insertMany pairs).get? key = some value := by
  rw [get?_insertMany] at changed ⊢
  cases found : pairs.reverse.lookup key with
  | none =>
    rw [found] at changed
    exact absurd (Option.none_or ..) changed
  | some value => exact ⟨value, mem_of_lookup_reverse found, Option.some_or ..⟩

/-- A key that nothing is inserted under is bound as before. -/
theorem get?_insertMany_of_not_mem (table : Table β) {pairs : List (String × β)} {key : String}
    (absent : ∀ value, (key, value) ∉ pairs) :
    (table.insertMany pairs).get? key = table.get? key := by
  rw [get?_insertMany]
  cases found : pairs.reverse.lookup key with
  | none => exact Option.none_or ..
  | some value => exact absurd (mem_of_lookup_reverse found) (absent value)

/-- Inserting values under keys of their own: a key that values have is bound to one of these. -/
theorem exists_get?_insertMany_keyed (table : Table β) {key : β → String} {values : List β}
    {value : β} (member : value ∈ values) :
    ∃ found ∈ values, key found = key value ∧
      (table.insertMany (values.map fun inserted => (key inserted, inserted))).get? (key value) =
        some found := by
  rw [get?_insertMany]
  cases last : (values.map fun inserted => (key inserted, inserted)).reverse.lookup (key value) with
  | none =>
    have absent := List.lookup_eq_none_iff.mp last (key value, value)
      (List.mem_reverse.mpr (List.mem_map_of_mem member))
    simp at absent
  | some found =>
    obtain ⟨other, isValue, same⟩ := List.mem_map.mp (mem_of_lookup_reverse last)
    obtain ⟨sameKey, rfl⟩ := Prod.mk.inj same
    exact ⟨other, isValue, sameKey, Option.some_or ..⟩

/-! ### Keys -/

theorem pairwise_keys (table : Table β) : table.keys.Pairwise (· < ·) :=
  List.pairwise_map.mpr table.ascending

theorem mem_keys_iff {table : Table β} {key : String} : key ∈ table.keys ↔ (table.get? key).isSome := by
  rw [get?, List.lookup_isSome_iff, keys, List.mem_map]
  simp only [beq_iff_eq]
  exact exists_congr fun entry => and_congr_right fun _ => eq_comm

theorem size_eq (table : Table β) : table.size = table.keys.length :=
  List.length_map _ |>.symm

end Table

end ShaderCheck
