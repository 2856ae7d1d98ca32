/-
**Strictly increasing lists and tables.**

A set of values is kept as a strictly increasing list and a finite map from texts as a list of
entries with strictly increasing keys, so that equal sets and equal maps are equal values and every
listing of them is sorted. Texts are ordered by their code points, which is also the order of their
UTF-8 bytes.

* `Ordered.insert`, `Ordered.ofList`: a value, or all values of a list, in their places;
* `Table`: a finite map from texts;
* `Table.insert`, `Table.get?`, `Table.keys`: write, look up and list it.
-/

namespace ShaderCheck

namespace Ordered

variable {α : Type} [LT α] [DecidableLT α]

/-- Puts a value in its place; a value that is there already is not repeated. -/
def insert (value : α) : List α → List α
  | [] => [value]
  | head :: rest =>
    if value < head then value :: head :: rest
    else if head < value then head :: insert value rest
    else head :: rest

/-- The values of a list in increasing order, each once. -/
def ofList (values : List α) : List α :=
  values.foldr insert []

end Ordered

/-- Puts an entry in its place, over an entry of the same key. -/
def insertEntry {β : Type} (key : String) (value : β) :
    List (String × β) → List (String × β)
  | [] => [(key, value)]
  | head :: rest =>
    if key < head.1 then (key, value) :: head :: rest
    else if head.1 < key then head :: insertEntry key value rest
    else (key, value) :: rest

/-- Entries come in the strict order of their keys. -/
def AscendingKeys {β : Type} (entries : List (String × β)) : Prop :=
  entries.Pairwise fun first second => first.1 < second.1

/-- Texts that neither is below the other are equal. -/
theorem eq_of_not_lt {first second : String} (notBelow : ¬ first < second)
    (notAbove : ¬ second < first) : first = second :=
  String.le_antisymm (String.not_lt.mp notAbove) (String.not_lt.mp notBelow)

/-- The keys after an insertion are the new key and the old ones. -/
theorem mem_insertEntry {β : Type} {key : String} {value : β} {entries : List (String × β)}
    {entry : String × β} (member : entry ∈ insertEntry key value entries) :
    entry = (key, value) ∨ entry ∈ entries := by
  induction entries with
  | nil => simpa [insertEntry] using member
  | cons head rest inductionStep =>
    unfold insertEntry at member
    split at member
    · simpa using member
    · split at member
      · rcases List.mem_cons.mp member with rfl | deeper
        · simp
        · rcases inductionStep deeper with equal | old
          · exact .inl equal
          · exact .inr (List.mem_cons_of_mem _ old)
      · rcases List.mem_cons.mp member with equal | old
        · exact .inl equal
        · exact .inr (List.mem_cons_of_mem _ old)

/-- Insertion keeps the keys strictly increasing. -/
theorem ascendingKeys_insertEntry {β : Type} (key : String) (value : β)
    {entries : List (String × β)} (ascending : AscendingKeys entries) :
    AscendingKeys (insertEntry key value entries) := by
  induction entries with
  | nil => simp [insertEntry, AscendingKeys]
  | cons head rest inductionStep =>
    obtain ⟨headFirst, restAscending⟩ := List.pairwise_cons.mp ascending
    unfold insertEntry
    split
    · rename_i below
      refine List.pairwise_cons.mpr ⟨fun entry member => ?_, ascending⟩
      rcases List.mem_cons.mp member with rfl | later
      · exact below
      · exact String.lt_trans below (headFirst entry later)
    · split
      · rename_i above
        refine List.pairwise_cons.mpr ⟨fun entry member => ?_, inductionStep restAscending⟩
        rcases mem_insertEntry member with rfl | old
        · exact above
        · exact headFirst entry old
      · rename_i notBelow notAbove
        have same : key = head.1 := eq_of_not_lt notBelow notAbove
        refine List.pairwise_cons.mpr ⟨fun entry member => ?_, restAscending⟩
        rw [same]
        exact headFirst entry member

/-- A finite map from texts, listed in the order of its keys. -/
structure Table (β : Type) where
  entries : List (String × β)
  ascending : AscendingKeys entries

namespace Table

variable {β : Type}

/-- The table without entries. -/
def empty : Table β := ⟨[], List.Pairwise.nil⟩

instance : Inhabited (Table β) := ⟨empty⟩

instance : EmptyCollection (Table β) := ⟨empty⟩

instance [DecidableEq β] : DecidableEq (Table β) := fun first second =>
  if same : first.entries = second.entries then
    .isTrue (by cases first; cases second; simp_all)
  else
    .isFalse (fun equal => same (by rw [equal]))

/-- The table with the key bound to the value; an older binding of the key is lost. -/
def insert (table : Table β) (key : String) (value : β) : Table β :=
  ⟨insertEntry key value table.entries, ascendingKeys_insertEntry key value table.ascending⟩

/-- The value bound to the key. -/
def get? (table : Table β) (key : String) : Option β :=
  table.entries.lookup key

/-- The bound keys, strictly increasing. -/
def keys (table : Table β) : List String :=
  table.entries.map Prod.fst

/-- The number of bound keys. -/
def size (table : Table β) : Nat :=
  table.entries.length

/-- Whether no key is bound. -/
def isEmpty (table : Table β) : Bool :=
  table.entries.isEmpty

/-- The table with every pair of the list inserted in order. -/
def insertMany (table : Table β) (pairs : List (String × β)) : Table β :=
  pairs.foldl (fun table pair => table.insert pair.1 pair.2) table

end Table

end ShaderCheck
