/-
**Walking down a file tree.**

Steps are followed one after the other, so whoever gets to an entry of a folder has got to the folder
first, on fewer links, and the entry is there. What a walk meets is all that it depends on: trees with
the same nodes are walked in the same way, in whatever order the nodes are kept.

* `FileTree.mem_entries_iff`: the names in a directory;
* `FileTree.exists_walk_of_append`: a walk goes through the place that its first steps lead to;
* `FileTree.walk_append_current`: a walk that stays at its end;
* `FileTree.mem_entries_of_locate_join`: a path that leads somewhere inside a folder names an entry;
* `FileTree.Alike`: trees with the same nodes, and what is the same in them.
-/

import ShaderCheck.FileTree
import ShaderCheck.Proofs.Path
import ShaderCheck.Proofs.Table

namespace ShaderCheck

/-- Names are ordered as their bytes are. -/
instance : IsStrictTotalOrder Name (· < ·) where
  trichotomous first second notBelow notAbove := by
    cases first
    cases second
    exact (Name.mk.injEq ..).mpr
      (List.le_antisymm (List.not_lt.mp notAbove) (List.not_lt.mp notBelow))
  irrefl name := List.lt_irrefl name.bytes
  trans _ _ _ := List.lt_trans

namespace FileTree

variable {tree : FileTree} {here location final : Location} {name : Name}

/-- The names in a directory are those that a node stands under. -/
theorem mem_entries_iff : name ∈ tree.entries location ↔ (tree.node? (location ++ [name])).isSome := by
  have below (place : Location) : (if place.dropLast = location then place.getLast? else none) =
      some name ↔ place = location ++ [name] := by
    constructor
    · intro last
      split at last
      · rename_i above
        rw [← above, List.dropLast_append_getLast? name last]
      · cases last
    · rintro rfl
      simp
  unfold entries node?
  rw [Ordered.mem_ofList, List.mem_filterMap, if_neg (List.concat_ne_nil _ _), List.lookup_isSome_iff]
  simp only [below, exists_eq_right, List.mem_map, beq_iff_eq]
  exact exists_congr fun node => and_congr_right' eq_comm

/-! ### Walks of more steps -/

/-- Steps are only taken from a directory. -/
theorem directory_of_walkTo {onLink : Location → List Step → Except FileError Location} {step : Step}
    {rest : List Step} (walked : tree.walkTo onLink here (step :: rest) = .ok final) :
    tree.node? here = some .directory := by
  by_contra other
  rw [walkTo.eq_def] at walked
  dsimp only at walked
  rw [if_neg other] at walked
  cases walked

/-- A walk goes through the place that its first steps lead to, if the walks that it goes on with at a
link do. By induction on the first steps. -/
theorem exists_walkTo_of_append {links : Nat}
    {onLink : Location → List Step → Except FileError Location}
    (isWalk : tree.walk links = tree.walkTo onLink)
    (onward : ∀ {start first rest}, onLink start (first ++ rest) = .ok final →
      ∃ between fewer, onLink start first = .ok between ∧ tree.walk fewer between rest = .ok final)
    {first rest : List Step} (walked : tree.walkTo onLink here (first ++ rest) = .ok final) :
    ∃ between fewer, tree.walkTo onLink here first = .ok between ∧
      tree.walk fewer between rest = .ok final := by
  induction first generalizing here with
  | nil => exact ⟨here, links, rfl, by rw [isWalk]; exact walked⟩
  | cons step later inductionStep =>
    rw [List.cons_append] at walked
    have directory := directory_of_walkTo walked
    cases step with
    | current =>
      rw [walkTo, if_pos directory] at walked ⊢
      exact inductionStep walked
    | parent =>
      rw [walkTo, if_pos directory] at walked ⊢
      exact inductionStep walked
    | entry name =>
      rw [walkTo, if_pos directory] at walked ⊢
      cases found : tree.node? (here ++ [name]) with
      | none =>
        rw [found] at walked
        cases walked
      | some node =>
        rw [found] at walked
        cases node with
        | directory => exact inductionStep walked
        | file bytes => exact inductionStep walked
        | link target =>
          dsimp only at walked ⊢
          split at walked
          · cases walked
          · rename_i filled
            -- The steps of the link come first, and what is left of both parts goes along.
            rw [if_neg filled]
            rw [← List.append_assoc] at walked
            exact onward walked

/-- **A walk goes through the place that its first steps lead to**, and goes on with fewer links. By
induction on the links. -/
theorem exists_walk_of_append {links : Nat} {first rest : List Step}
    (walked : tree.walk links here (first ++ rest) = .ok final) :
    ∃ between fewer, tree.walk links here first = .ok between ∧
      tree.walk fewer between rest = .ok final := by
  induction links generalizing here first rest with
  | zero => exact exists_walkTo_of_append (walk.eq_1 tree) nofun walked
  | succ links inductionStep => exact exists_walkTo_of_append (walk.eq_2 tree links) inductionStep walked

/-- Whatever the number of links, a walk follows steps and has some way to go on at a link. -/
theorem exists_walkTo_eq (tree : FileTree) (links : Nat) :
    ∃ onLink, tree.walk links = tree.walkTo onLink := by
  cases links with
  | zero => exact ⟨_, walk.eq_1 tree⟩
  | succ links => exact ⟨_, walk.eq_2 tree links⟩

/-- An entry that a step leads to is there. -/
theorem isSome_node?_of_walk_entry {links : Nat}
    (walked : tree.walk links here [.entry name] = .ok final) :
    (tree.node? (here ++ [name])).isSome := by
  obtain ⟨onLink, isWalk⟩ := exists_walkTo_eq tree links
  rw [isWalk] at walked
  have directory := directory_of_walkTo walked
  rw [walkTo, if_pos directory] at walked
  cases found : tree.node? (here ++ [name]) with
  | none =>
    rw [found] at walked
    cases walked
  | some node => rfl

/-- Asking for a directory at the end of a walk leaves the place as it is. -/
theorem walk_slash {links : Nat} {closed : Bool}
    (walked : tree.walk links here (if closed then [.current] else []) = .ok final) : here = final := by
  obtain ⟨onLink, isWalk⟩ := exists_walkTo_eq tree links
  rw [isWalk] at walked
  cases closed with
  | false => exact Except.ok.inj walked
  | true =>
    rw [if_pos rfl] at walked
    have directory := directory_of_walkTo walked
    rw [walkTo, if_pos directory] at walked
    exact Except.ok.inj walked

/-- Staying at a place takes a directory. -/
def enter (tree : FileTree) (location : Location) : Except FileError Location :=
  if tree.node? location = some .directory then .ok location else .error .notDirectory

theorem walkTo_append_current {onLink : Location → List Step → Except FileError Location}
    (onward : ∀ start steps, onLink start (steps ++ [.current]) = onLink start steps >>= tree.enter)
    (here : Location) (steps : List Step) :
    tree.walkTo onLink here (steps ++ [.current]) = tree.walkTo onLink here steps >>= tree.enter := by
  induction steps generalizing here with
  | nil => rfl
  | cons step rest inductionStep =>
    rw [List.cons_append, walkTo.eq_def, walkTo.eq_def tree onLink here (step :: rest)]
    dsimp only
    by_cases directory : tree.node? here = some .directory
    · rw [if_pos directory, if_pos directory]
      cases step with
      | current => exact inductionStep here
      | parent => exact inductionStep here.dropLast
      | entry name =>
        dsimp only
        cases tree.node? (here ++ [name]) with
        | none => rfl
        | some node =>
          cases node with
          | directory => exact inductionStep (here ++ [name])
          | file bytes => exact inductionStep (here ++ [name])
          | link target =>
            dsimp only
            by_cases empty : target.bytes = []
            · rw [if_pos empty, if_pos empty]
              rfl
            · rw [if_neg empty, if_neg empty, ← List.append_assoc]
              exact onward _ _
    · rw [if_neg directory, if_neg directory]
      rfl

/-- Staying at the end of a walk is staying at the place that it leads to. By induction on the links. -/
theorem walk_append_current (tree : FileTree) (links : Nat) (here : Location) (steps : List Step) :
    tree.walk links here (steps ++ [.current]) = tree.walk links here steps >>= tree.enter := by
  induction links generalizing here steps with
  | zero => exact walkTo_append_current (fun _ _ => rfl) here steps
  | succ links inductionStep => exact walkTo_append_current inductionStep here steps

end FileTree

/-! ### Entries of folders -/

namespace Path

variable {folder : Path}

/-- The steps of a folder are those of its trunk and, if it ends with a slash, one that stays. -/
theorem steps_eq (folder : Path) :
    folder.steps = (splitAtEvery slashByte folder.trunk).filterMap Step.ofSegment? ++
      if folder.endsWithSlash then [.current] else [] := by
  have nothing : (if folder.endsWithSlash then [[]] else []).filterMap Step.ofSegment? = [] := by
    split <;> rfl
  rw [steps, segments_eq, List.filterMap_append, nothing, List.append_nil]

/-- The steps to a place in a folder are those of the folder's trunk and one to the entry. -/
theorem steps_join (filled : folder.bytes ≠ []) (name : Name) :
    (folder.join name.path).steps =
      (splitAtEvery slashByte folder.trunk).filterMap Step.ofSegment? ++ [.entry name] := by
  have own : [name.bytes].filterMap Step.ofSegment? = [.entry name] :=
    List.filterMap_cons_some (Step.ofSegment?_name name)
  rw [steps, endsWithSlash_join filled, segments_join filled, List.filterMap_append, own,
    if_neg Bool.false_ne_true, List.append_nil]

end Path

namespace FileTree

variable {tree : FileTree} {folder : Path} {location final : Location} {name : Name}

theorem locate_of_directory? (found : tree.directory? folder = some location) :
    tree.locate folder = .ok location := by
  unfold directory? at found
  split at found
  · rename_i place located
    split at found
    · rw [located, Option.some.inj found]
    · cases found
  · cases found

theorem walk_of_locate (located : tree.locate folder = .ok location) :
    folder.bytes ≠ [] ∧ tree.walk linkLimit (tree.start folder) folder.steps = .ok location := by
  unfold locate at located
  split at located
  · cases located
  · rename_i filled
    exact ⟨filled, located⟩

/-- **A path that leads somewhere inside a folder names an entry of it.** The walk goes through the
folder's own place, since the folder's path has the same steps. -/
theorem mem_entries_of_locate_join (found : tree.directory? folder = some location)
    (located : tree.locate (folder.join name.path) = .ok final) : name ∈ tree.entries location := by
  obtain ⟨filled, folderWalk⟩ := walk_of_locate (locate_of_directory? found)
  obtain ⟨_, entryWalk⟩ := walk_of_locate located
  have start : tree.start (folder.join name.path) = tree.start folder := by
    rw [FileTree.start, Path.isAbsolute_join filled, ← FileTree.start]
  rw [start, Path.steps_join filled] at entryWalk
  rw [Path.steps_eq] at folderWalk
  obtain ⟨place, _, ahead, onward⟩ := exists_walk_of_append folderWalk
  obtain ⟨between, _, sameAhead, toEntry⟩ := exists_walk_of_append entryWalk
  obtain rfl := walk_slash onward
  obtain rfl : place = between := Except.ok.inj (ahead.symm.trans sameAhead)
  exact mem_entries_iff.mpr (isSome_node?_of_walk_entry toEntry)

/-! ### Trees with the same nodes -/

/-- The trees have the same nodes, in whatever order they are kept. -/
structure Alike (tree other : FileTree) : Prop where
  node? (location : Location) : tree.node? location = other.node? location
  workingDirectory : tree.workingDirectory = other.workingDirectory

namespace Alike

variable {other : FileTree}

theorem walkTo_eq (alike : tree.Alike other)
    (onLink : Location → List Step → Except FileError Location) (here : Location)
    (steps : List Step) : tree.walkTo onLink here steps = other.walkTo onLink here steps := by
  induction steps generalizing here with
  | nil => rfl
  | cons step rest inductionStep =>
    cases step <;> simp only [walkTo, alike.node?, inductionStep]

theorem walk_eq (alike : tree.Alike other) (links : Nat) : tree.walk links = other.walk links := by
  induction links with
  | zero =>
    funext here steps
    rw [walk, walk, alike.walkTo_eq]
  | succ links inductionStep =>
    funext here steps
    rw [walk, walk, inductionStep, alike.walkTo_eq]

theorem directory?_eq (alike : tree.Alike other) (path : Path) :
    tree.directory? path = other.directory? path := by
  unfold directory? locate start
  rw [alike.walk_eq, alike.workingDirectory]
  simp only [alike.node?]

theorem entries_eq (alike : tree.Alike other) (location : Location) :
    tree.entries location = other.entries location := by
  refine (Ordered.pairwise_ofList _).eq_of_mem_iff (Ordered.pairwise_ofList _) fun name => ?_
  show name ∈ tree.entries location ↔ name ∈ other.entries location
  rw [mem_entries_iff, mem_entries_iff, alike.node?]

end Alike

end FileTree

end ShaderCheck
