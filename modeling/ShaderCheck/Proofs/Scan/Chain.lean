/-
**The chain of the folders that are being scanned.**

The scan is written once more as a walk that keeps one chain: the place of a folder is put on it before
its entries are visited and taken off after that. What bounds the walk is a limit on how deep folders
are scanned within one another, and a walk that comes to its limit has no outcome. The places on the
chain are directories and no two of them are the same, as a folder whose place is on it is passed over.
So no limit above the number of directories is come to, wherever links lead, and the walk ends with
what the scan meets.

* `ScanCall`, `ScanWalk`: what is taken down, and a walk with a chain;
* `FileTree.walkEntry`, `FileTree.enterFolder`, `FileTree.walkFolder`: the scan as a walk;
* `FileTree.IsChain`: what the places on the chain are; no more of them are there than directories
  (`FileTree.IsChain.length_le`);
* `FileTree.callsBelow`, `FileTree.sound_callsBelow`: what is taken down below a chain;
* `ScanWalk.Runs`, `FileTree.runs_enterFolder`, `FileTree.runs_walkFolder`: a folder is scanned, and the
  chain is as it was;
* `FileTree.concat_iff_of_steps`: the places on a way down;
* `FileTree.loop_mem_scanBelow_iff`, `FileTree.wayDown_concat_iff`: which folders are passed over, and
  which are entered;
* `FileTree.scan_walk_ends`: the whole walk of a folder.
-/

import Mathlib.Data.List.Dedup
import Mathlib.Data.List.Perm.Subperm
import ShaderCheck.FileTree
import ShaderCheck.Proofs.Scan.Membership

namespace ShaderCheck

/-- What a walk takes down about its chain, on which the innermost place is the last one. -/
inductive ScanCall
  /-- A path is to be scanned with this chain. -/
  | begun (folder : Path) (chain : List Location)
  /-- The place of a folder has been put on the chain, which is this one now. -/
  | entered (folder : Path) (chain : List Location)
  /-- A path has been scanned: the chain at its beginning and the chain that it leaves. -/
  | ended (folder : Path) (before after : List Location)
deriving DecidableEq

/-- The chain that is taken down: at the end of a scan, the one that it leaves. -/
def ScanCall.chain : ScanCall → List Location
  | .begun _ chain => chain
  | .entered _ chain => chain
  | .ended _ _ after => after

/-- The chain, what has been met, and what has been taken down. -/
structure ScanState where
  chain : List Location
  met : List ScanEvent
  calls : List ScanCall
deriving DecidableEq

/-- Walks with a chain. They end with a value or an error and a state, or come to their limit. -/
abbrev ScanWalk := ExceptT ErrorChain (StateT ScanState Option)

namespace ScanWalk

/-- The places of the folders that are being scanned. -/
def chain : ScanWalk (List Location) :=
  return (← get).chain

/-- Takes a call down. -/
def record (call : ScanCall) : ScanWalk Unit :=
  modify fun state => { state with calls := state.calls ++ [call] }

/-- Meets a file, or a folder that is passed over. -/
def meet (event : ScanEvent) : ScanWalk Unit :=
  modify fun state => { state with met := state.met ++ [event] }

/-- Puts a place on the chain. -/
def push (location : Location) : ScanWalk Unit :=
  modify fun state => { state with chain := state.chain ++ [location] }

/-- Takes the last place off the chain. -/
def pop : ScanWalk Unit :=
  modify fun state => { state with chain := state.chain.dropLast }

/-- Comes to the limit. -/
def tooDeep {α : Type} : ScanWalk α :=
  ExceptT.mk fun _ => none

end ScanWalk

namespace FileTree

/-- The place of the folder, or that it could not be told. -/
def resolved (tree : FileTree) (folder : Path) : Except ErrorChain Location :=
  (tree.locate folder).mapError fun error =>
    ⟨s!"Couldn't resolve {folder.text}", [error.message]⟩

/-- The names in the folder, or that they could not be read. -/
def listed (tree : FileTree) (enumeration : Enumeration tree) (folder : Path) :
    Except ErrorChain (List Name) :=
  (tree.readDirectory enumeration folder).mapError fun error =>
    ⟨s!"Couldn't read {folder.text}", [error.message]⟩

/-- Visits an entry of a folder: a directory by `below`, and a file is met if its extension is
wanted. -/
def walkEntry (tree : FileTree) (extensions : List String) (below : Path → ScanWalk Unit)
    (folder : Path) (name : Name) : ScanWalk Unit :=
  if tree.isDirectory (folder.join name.path) then below (folder.join name.path)
  else
    match name.extension? with
    | some wanted =>
      if wanted ∈ extensions then ScanWalk.meet (.file (folder.join name.path)) else pure ()
    | none => pure ()

/-- Visits the entries of a folder with its place on the chain. A folder whose place is there already
is passed over, and a path that leads to no directory holds nothing. -/
def enterFolder (tree : FileTree) (enumeration : Enumeration tree) (extensions : List String)
    (below : Path → ScanWalk Unit) (folder : Path) : ScanWalk Unit :=
  if tree.isDirectory folder then do
    let location ← MonadExcept.ofExcept (tree.resolved folder)
    let chain ← ScanWalk.chain
    if chain.contains location then ScanWalk.meet (.loop folder)
    else do
      ScanWalk.push location
      let inner ← ScanWalk.chain
      ScanWalk.record (.entered folder inner)
      let names ← MonadExcept.ofExcept (tree.listed enumeration folder)
      (Name.sorted names).forM (walkEntry tree extensions below folder)
      ScanWalk.pop
  else pure ()

/-- Scans a path, with fewer paths than the limit within one another. -/
def walkFolder (tree : FileTree) (enumeration : Enumeration tree) (extensions : List String) :
    Nat → Path → ScanWalk Unit
  | 0, _ => ScanWalk.tooDeep
  | limit + 1, folder => do
    let before ← ScanWalk.chain
    ScanWalk.record (.begun folder before)
    enterFolder tree enumeration extensions (walkFolder tree enumeration extensions limit) folder
    let after ← ScanWalk.chain
    ScanWalk.record (.ended folder before after)

/-! ### Chains -/

variable {tree : FileTree} {enumeration : Enumeration tree} {extensions : List String}
  {chain : List Location} {folder path : Path} {location : Location} {dirs : List Name}
  {first last name : Name}

theorem mem_directories_iff :
    location ∈ tree.directories ↔ tree.node? location = some .directory := by
  refine ⟨fun member => ?_, mem_directories⟩
  rcases List.mem_cons.mp member with rfl | below
  · rfl
  · exact of_decide_eq_true (List.mem_filter.mp below).2

/-- The number of directories, however often they are kept. -/
def directoryCount (tree : FileTree) : Nat :=
  tree.directories.dedup.length

/-- A chain that a path may be scanned with: places of directories, no two of them the same. -/
structure IsChain (tree : FileTree) (chain : List Location) : Prop where
  nodup : chain.Nodup
  directory : ∀ location ∈ chain, tree.node? location = some .directory

/-- Nothing is being scanned when a scan begins. -/
theorem IsChain.nil (tree : FileTree) : tree.IsChain [] :=
  ⟨.nil, fun _ member => absurd member List.not_mem_nil⟩

/-- The place of a folder may be put on a chain that it is not on. -/
theorem IsChain.cons (isChain : tree.IsChain chain) (found : tree.directory? folder = some location)
    (fresh : location ∉ chain) : tree.IsChain (location :: chain) where
  nodup := List.nodup_cons.mpr ⟨fresh, isChain.nodup⟩
  directory := List.forall_mem_cons.mpr ⟨node?_of_directory? found, isChain.directory⟩

theorem IsChain.reverse (isChain : tree.IsChain chain) : tree.IsChain chain.reverse :=
  ⟨List.nodup_reverse.mpr isChain.nodup,
    fun location member => isChain.directory location (List.mem_reverse.mp member)⟩

/-- **No more places are on a chain than there are directories.** -/
theorem IsChain.length_le (isChain : tree.IsChain chain) : chain.length ≤ tree.directoryCount := by
  have places : chain ⊆ tree.directories.dedup := fun location member =>
    List.mem_dedup.mpr (mem_directories_iff.mpr (isChain.directory location member))
  exact (List.subperm_of_subset isChain.nodup places).length_le

/-! ### Calls -/

/-- What is taken down between the beginning and the end of a path's scan. -/
def callsInside (tree : FileTree) (chain : List Location) (folder : Path) : List ScanCall :=
  match _found : tree.directory? folder with
  | none => []
  | some location =>
    if _active : location ∈ chain then []
    else
      let inner := location :: chain
      .entered folder inner.reverse ::
        (tree.entries location).flatMap fun name =>
          let path := folder.join name.path
          if tree.isDirectory path then
            .begun path inner.reverse ::
              (callsInside tree inner path ++ [.ended path inner.reverse inner.reverse])
          else []
termination_by tree.freeDirectories chain
decreasing_by exact freeDirectories_cons_lt (node?_of_directory? _found) _active

/-- What is taken down when a path is scanned below the directories that are being scanned. -/
def callsBelow (tree : FileTree) (chain : List Location) (folder : Path) : List ScanCall :=
  .begun folder chain.reverse ::
    (tree.callsInside chain folder ++ [.ended folder chain.reverse chain.reverse])

/-- What is taken down at an entry of a folder. -/
def callsEntry (tree : FileTree) (chain : List Location) (folder : Path) (name : Name) :
    List ScanCall :=
  if tree.isDirectory (folder.join name.path) then tree.callsBelow chain (folder.join name.path)
  else []

theorem callsInside_of_none (missing : tree.directory? folder = none) :
    tree.callsInside chain folder = [] := by
  rw [callsInside]
  split
  · rfl
  · rename_i location found
    rw [missing] at found
    cases found

theorem callsInside_of_mem (found : tree.directory? folder = some location)
    (active : location ∈ chain) : tree.callsInside chain folder = [] := by
  rw [callsInside]
  split
  · rfl
  · rename_i other again
    obtain rfl : location = other := Option.some.inj (found.symm.trans again)
    exact dif_pos active

theorem callsInside_of_not_mem (found : tree.directory? folder = some location)
    (fresh : location ∉ chain) :
    tree.callsInside chain folder =
      .entered folder (location :: chain).reverse ::
        (tree.entries location).flatMap (tree.callsEntry (location :: chain) folder) := by
  rw [callsInside]
  split
  · rename_i missing
    rw [found] at missing
    cases missing
  · rename_i other again
    obtain rfl : location = other := Option.some.inj (found.symm.trans again)
    exact (dif_neg fresh).trans rfl

/-- A call of a walk that keeps its chain as it should: the places are those of a chain, a folder that
has been entered is the last one, and what has been scanned leaves the chain as it was. -/
def IsSound (tree : FileTree) : ScanCall → Prop
  | .begun _ chain => tree.IsChain chain
  | .entered folder chain => tree.IsChain chain ∧ chain.getLast? = tree.directory? folder
  | .ended _ before after => tree.IsChain after ∧ after = before

theorem IsSound.isChain {call : ScanCall} (sound : tree.IsSound call) : tree.IsChain call.chain := by
  cases call with
  | begun => exact sound
  | entered => exact sound.1
  | ended => exact sound.1

/-- The calls that begin and end the scan of a path are sound if those between them are. -/
theorem sound_callsBelow (folder : Path) (isChain : tree.IsChain chain)
    (inside : ∀ call ∈ tree.callsInside chain folder, tree.IsSound call) :
    ∀ call ∈ tree.callsBelow chain folder, tree.IsSound call := by
  intro call member
  rcases List.mem_cons.mp member with rfl | later
  · exact isChain.reverse
  · rcases List.mem_append.mp later with between | atEnd
    · exact inside call between
    · rw [List.mem_singleton.mp atEnd]
      exact ⟨isChain.reverse, rfl⟩

/-- **What a walk takes down is sound.** By induction on the directories that are entered: each one's
place is put on a chain that it is not on. -/
theorem sound_callsInside (folder : Path) (isChain : tree.IsChain chain) :
    ∀ call ∈ tree.callsInside chain folder, tree.IsSound call := by
  induction chain, folder using scanBelow.induct tree with
  | case1 chain folder missing =>
    rw [callsInside_of_none missing]
    exact fun _ member => absurd member List.not_mem_nil
  | case2 chain folder location found active =>
    rw [callsInside_of_mem found active]
    exact fun _ member => absurd member List.not_mem_nil
  | case3 chain folder location found fresh inductionStep =>
    have entered := isChain.cons found fresh
    rw [callsInside_of_not_mem found fresh]
    refine List.forall_mem_cons.mpr ⟨⟨entered.reverse, ?_⟩, fun call member => ?_⟩
    · rw [List.getLast?_reverse, List.head?_cons, found]
    · obtain ⟨name, _, taken⟩ := List.mem_flatMap.mp member
      unfold callsEntry at taken
      split at taken
      · exact sound_callsBelow _ entered (inductionStep name entered) call taken
      · cases taken

end FileTree

/-! ### Walks that end -/

namespace ScanWalk

variable {α β : Type} {walk : ScanWalk α} {next : α → ScanWalk β}
  {chain middle after : List Location} {events later : List ScanEvent}
  {calls laterCalls : List ScanCall}

/-- With this chain the walk ends with the value and the chain `after`, and adds these events and
calls. -/
def Runs (walk : ScanWalk α) (chain : List Location) (value : α) (after : List Location)
    (events : List ScanEvent) (calls : List ScanCall) : Prop :=
  ∀ met taken, walk.run.run ⟨chain, met, taken⟩ =
    some (.ok value, ⟨after, met ++ events, taken ++ calls⟩)

theorem runs_pure (value : α) : (pure value : ScanWalk α).Runs chain value chain [] [] := by
  intro met taken
  rw [List.append_nil, List.append_nil]
  rfl

theorem runs_ofExcept (value : α) :
    (MonadExcept.ofExcept (.ok value : Except ErrorChain α) : ScanWalk α).Runs
      chain value chain [] [] :=
  runs_pure value

theorem runs_chain : ScanWalk.chain.Runs chain chain chain [] [] := by
  intro met taken
  rw [List.append_nil, List.append_nil]
  rfl

theorem runs_record (call : ScanCall) : (record call).Runs chain () chain [] [call] := by
  intro met taken
  rw [List.append_nil]
  rfl

theorem runs_meet (event : ScanEvent) : (meet event).Runs chain () chain [event] [] := by
  intro met taken
  rw [List.append_nil]
  rfl

theorem runs_push (location : Location) :
    (push location).Runs chain () (chain ++ [location]) [] [] := by
  intro met taken
  rw [List.append_nil, List.append_nil]
  rfl

theorem runs_pop (location : Location) : pop.Runs (chain ++ [location]) () chain [] [] := by
  intro met taken
  rw [List.append_nil, List.append_nil]
  show some (Except.ok (), ScanState.mk (chain ++ [location]).dropLast met taken) = _
  rw [List.dropLast_concat]

/-- One walk after another. -/
theorem Runs.bind {value : α} {result : β} (ran : walk.Runs chain value middle events calls)
    (ranNext : (next value).Runs middle result after later laterCalls) :
    (walk >>= next).Runs chain result after (events ++ later) (calls ++ laterCalls) := by
  intro met taken
  rw [ExceptT.run_bind, StateT.run_bind, ran met taken, ← List.append_assoc, ← List.append_assoc]
  exact ranNext (met ++ events) (taken ++ calls)

/-- One walk after another that meets nothing and takes nothing down. -/
theorem Runs.bind_silent {value : α} {result : β}
    (ran : walk.Runs chain value middle events calls)
    (ranNext : (next value).Runs middle result after [] []) :
    (walk >>= next).Runs chain result after events calls := by
  have both := ran.bind ranNext
  rwa [List.append_nil, List.append_nil] at both

/-- The visits of several names, each of which leaves the chain as it was. -/
theorem runs_forM {visit : Name → ScanWalk Unit} {eventsOf : Name → List ScanEvent}
    {callsOf : Name → List ScanCall} (names : List Name)
    (each : ∀ name, (visit name).Runs chain () chain (eventsOf name) (callsOf name)) :
    (names.forM visit).Runs chain () chain (names.flatMap eventsOf) (names.flatMap callsOf) := by
  induction names with
  | nil => exact runs_pure ()
  | cons name rest inductionStep => exact (each name).bind inductionStep

end ScanWalk

namespace FileTree

section Scan

variable {tree : FileTree} {enumeration : Enumeration tree} {extensions : List String}
  {chain : List Location} {folder : Path} {location : Location}

theorem resolved_of_directory? (found : tree.directory? folder = some location) :
    tree.resolved folder = .ok location := by
  rw [resolved, locate_of_directory? found]
  rfl

theorem listed_of_directory? (found : tree.directory? folder = some location) :
    tree.listed enumeration folder = .ok (enumeration.names folder location) := by
  rw [listed, readDirectory_of_directory? found]
  rfl

/-- **An entry**: if a directory in it is scanned and the chain is as it was, then so is the entry. -/
theorem runs_walkEntry {below : Path → ScanWalk Unit} (name : Name)
    (deeper : ∀ path, (below path).Runs chain.reverse () chain.reverse
      (tree.scanBelow extensions chain path) (tree.callsBelow chain path)) :
    (tree.walkEntry extensions below folder name).Runs chain.reverse () chain.reverse
      (tree.scanEntry extensions chain folder name) (tree.callsEntry chain folder name) := by
  unfold walkEntry scanEntry callsEntry
  split
  · exact deeper _
  · cases name.extension? with
    | none => exact ScanWalk.runs_pure ()
    | some wanted =>
      by_cases listed : wanted ∈ extensions
      · simp only [listed, if_true]
        exact ScanWalk.runs_meet _
      · simp only [listed, if_false]
        exact ScanWalk.runs_pure ()

/-- **A folder**: if the paths in it are scanned with its place on the chain, then so is the folder, and
the place is taken off again. -/
theorem runs_enterFolder {below : Path → ScanWalk Unit}
    (deeper : ∀ location, tree.directory? folder = some location → location ∉ chain →
      ∀ path, (below path).Runs (location :: chain).reverse () (location :: chain).reverse
        (tree.scanBelow extensions (location :: chain) path)
        (tree.callsBelow (location :: chain) path)) :
    (tree.enterFolder enumeration extensions below folder).Runs chain.reverse () chain.reverse
      (tree.scanBelow extensions chain folder) (tree.callsInside chain folder) := by
  unfold enterFolder
  cases found : tree.directory? folder with
  | none =>
    have missing : ¬ tree.isDirectory folder := by simp [isDirectory, found]
    rw [if_neg missing, scanBelow_of_none found, callsInside_of_none found]
    exact ScanWalk.runs_pure ()
  | some location =>
    rw [if_pos (isDirectory_iff.mpr ⟨location, found⟩), resolved_of_directory? found,
      listed_of_directory? found]
    refine (ScanWalk.runs_ofExcept location).bind (ScanWalk.runs_chain.bind ?_)
    rw [List.contains_reverse]
    by_cases active : location ∈ chain
    · rw [if_pos (List.contains_iff_mem.mpr active), scanBelow_of_mem found active,
        callsInside_of_mem found active]
      exact ScanWalk.runs_meet _
    · have visits : ((tree.entries location).forM
          (walkEntry tree extensions below folder)).Runs (chain.reverse ++ [location]) ()
          (chain.reverse ++ [location]) _ _ :=
        ScanWalk.runs_forM (tree.entries location) fun name => by
          rw [← List.reverse_cons]
          exact runs_walkEntry name (deeper location found active)
      rw [if_neg (mt List.contains_iff_mem.mp active), scanBelow_of_not_mem found active,
        callsInside_of_not_mem found active, List.reverse_cons]
      refine (ScanWalk.runs_push location).bind (ScanWalk.runs_chain.bind
        ((ScanWalk.runs_record _).bind ((ScanWalk.runs_ofExcept _).bind ?_)))
      rw [sorted_names]
      exact visits.bind_silent (ScanWalk.runs_pop location)

/-- **A path**: the walk ends with what the scan meets if its limit is above the number of directories
that are not on the chain. Every place that is put there leaves one of them less, and the limit below
it is one less too. -/
theorem runs_walkFolder (enumeration : Enumeration tree) (extensions : List String) {limit : Nat}
    (folder : Path) (isChain : tree.IsChain chain)
    (room : tree.directoryCount < chain.length + limit) :
    (tree.walkFolder enumeration extensions limit folder).Runs chain.reverse () chain.reverse
      (tree.scanBelow extensions chain folder) (tree.callsBelow chain folder) := by
  induction limit generalizing chain folder with
  | zero =>
    have full := isChain.length_le
    omega
  | succ limit inductionStep =>
    have inside : (tree.enterFolder enumeration extensions
        (tree.walkFolder enumeration extensions limit) folder).Runs chain.reverse () chain.reverse
        (tree.scanBelow extensions chain folder) (tree.callsInside chain folder) :=
      runs_enterFolder fun location found fresh path =>
        inductionStep path (isChain.cons found fresh) (by rw [List.length_cons]; omega)
    rw [walkFolder, callsBelow, ← List.append_nil (tree.scanBelow extensions chain folder)]
    exact ScanWalk.runs_chain.bind ((ScanWalk.runs_record _).bind (inside.bind
      (ScanWalk.runs_chain.bind (ScanWalk.runs_record _))))

end Scan

/-! ### Folders that are passed over -/

section Loops

variable {tree : FileTree} {extensions : List String} {chain : List Location} {folder path : Path}
  {place location : Location} {dirs : List Name} {first last : Name}

/-- A scan only meets something where there is a directory. -/
theorem isDirectory_of_mem_scanBelow {event : ScanEvent}
    (met : event ∈ tree.scanBelow extensions chain folder) : tree.isDirectory folder := by
  cases found : tree.directory? folder with
  | none =>
    rw [scanBelow_of_none found] at met
    cases met
  | some location => exact isDirectory_iff.mpr ⟨location, found⟩

/-- Folders are passed over in directories only. -/
theorem loop_mem_scanEntry_iff {name : Name} :
    .loop path ∈ tree.scanEntry extensions chain folder name ↔
      .loop path ∈ tree.scanBelow extensions chain (folder.join name.path) := by
  unfold scanEntry
  split
  · rfl
  · rename_i file
    refine ⟨fun met => ?_, fun met => absurd (isDirectory_of_mem_scanBelow met) file⟩
    cases extension : name.extension? with
    | none => simp [extension] at met
    | some wanted => by_cases listed : wanted ∈ extensions <;> simp [extension, listed] at met

/-- A folder that is passed over is the one that is scanned or is inside it. -/
theorem exists_inside_of_loop_mem (met : .loop path ∈ tree.scanBelow extensions chain folder) :
    ∃ dirs, path = folder.inside dirs := by
  induction chain, folder using scanBelow.induct tree with
  | case1 chain folder missing =>
    rw [scanBelow_of_none missing] at met
    cases met
  | case2 chain folder location found active =>
    rw [scanBelow_of_mem found active] at met
    exact ⟨[], ScanEvent.loop.inj (List.mem_singleton.mp met)⟩
  | case3 chain folder location found fresh inductionStep =>
    rw [scanBelow_of_not_mem found fresh] at met
    obtain ⟨name, _, inEntry⟩ := List.mem_flatMap.mp met
    obtain ⟨rest, same⟩ := inductionStep name (loop_mem_scanEntry_iff.mp inEntry)
    exact ⟨name :: rest, same⟩

/-- The folder that is scanned is passed over if its place is on the chain. -/
theorem loop_mem_scanBelow_self_iff :
    .loop folder ∈ tree.scanBelow extensions chain folder ↔
      ∃ location, tree.directory? folder = some location ∧ location ∈ chain := by
  constructor
  · intro met
    obtain ⟨location, found⟩ := isDirectory_iff.mp (isDirectory_of_mem_scanBelow met)
    refine ⟨location, found, Decidable.byContradiction fun fresh => ?_⟩
    rw [scanBelow_of_not_mem found fresh] at met
    obtain ⟨name, _, inEntry⟩ := List.mem_flatMap.mp met
    obtain ⟨rest, same⟩ := exists_inside_of_loop_mem (loop_mem_scanEntry_iff.mp inEntry)
    have names : [] = name :: rest :=
      Path.inside_injective (bytes_ne_nil_of_directory? found) same
    cases names
  · rintro ⟨location, found, active⟩
    rw [scanBelow_of_mem found active]
    exact List.mem_cons_self

/-- A folder inside is passed over by the scan of the entry that the way down starts with. -/
theorem loop_mem_scanBelow_inside_iff {rest : List Name} :
    .loop (folder.inside (first :: rest)) ∈ tree.scanBelow extensions chain folder ↔
      ∃ location, tree.directory? folder = some location ∧ location ∉ chain ∧
        .loop ((folder.join first.path).inside rest) ∈
          tree.scanBelow extensions (location :: chain) (folder.join first.path) := by
  constructor
  · intro met
    obtain ⟨location, found⟩ := isDirectory_iff.mp (isDirectory_of_mem_scanBelow met)
    have injective := Path.inside_injective (bytes_ne_nil_of_directory? found)
    by_cases active : location ∈ chain
    · rw [scanBelow_of_mem found active] at met
      have names : first :: rest = [] :=
        injective (ScanEvent.loop.inj (List.mem_singleton.mp met))
      cases names
    · rw [scanBelow_of_not_mem found active] at met
      obtain ⟨name, _, inEntry⟩ := List.mem_flatMap.mp met
      rw [loop_mem_scanEntry_iff] at inEntry
      obtain ⟨others, same⟩ := exists_inside_of_loop_mem inEntry
      have names : first :: rest = name :: others := injective same
      obtain ⟨rfl, _⟩ := List.cons.inj names
      exact ⟨location, found, active, inEntry⟩
  · rintro ⟨location, found, fresh, met⟩
    obtain ⟨place, entered⟩ := isDirectory_iff.mp (isDirectory_of_mem_scanBelow met)
    rw [scanBelow_of_not_mem found fresh]
    exact List.mem_flatMap.mpr ⟨first,
      mem_entries_of_locate_join found (locate_of_directory? entered),
      loop_mem_scanEntry_iff.mpr met⟩

/-- The place is on the chain, or one of the folders on the way down through these entries is at it. -/
def Passes (tree : FileTree) (chain : List Location) (folder : Path) (dirs : List Name)
    (location : Location) : Prop :=
  location ∈ chain ∨ ∃ above, above <+: dirs ∧ tree.directory? (folder.inside above) = some location

theorem passes_nil_iff (found : tree.directory? folder = some place) :
    tree.Passes chain folder [] location ↔ location ∈ place :: chain := by
  simp only [Passes, List.prefix_nil, List.mem_cons]
  constructor
  · rintro (active | ⟨_, rfl, again⟩)
    · exact .inr active
    · exact .inl (Option.some.inj (again.symm.trans found))
  · rintro (rfl | active)
    · exact .inr ⟨[], rfl, found⟩
    · exact .inl active

/-- Going down into an entry puts the folder's place on the chain. -/
theorem passes_cons_iff (found : tree.directory? folder = some place) :
    tree.Passes chain folder (first :: dirs) location ↔
      tree.Passes (place :: chain) (folder.join first.path) dirs location := by
  simp only [Passes, List.mem_cons]
  constructor
  · rintro (active | ⟨above, onWay, again⟩)
    · exact .inl (.inr active)
    · rcases List.prefix_cons_iff.mp onWay with rfl | ⟨above, rfl, deeper⟩
      · exact .inl (.inl (Option.some.inj (again.symm.trans found)))
      · exact .inr ⟨above, deeper, again⟩
  · rintro ((rfl | active) | ⟨above, deeper, again⟩)
    · exact .inr ⟨[], List.nil_prefix, found⟩
    · exact .inl active
    · exact .inr ⟨first :: above, List.prefix_cons_inj first |>.mpr deeper, again⟩

/-- **Step by step down a way**: what goes down into entries as a scan does, with each folder's place
put on the chain, and asks in the end whether a place is on the chain, asks whether it is passed. By
induction on the way. -/
theorem concat_iff_of_steps (arrives : List Location → Path → List Name → Prop) (asks : Prop → Prop)
    (here : ∀ chain folder, arrives chain folder [] ↔
      ∃ location, tree.directory? folder = some location ∧ asks (location ∈ chain))
    (deeper : ∀ chain folder first rest, arrives chain folder (first :: rest) ↔
      ∃ location, tree.directory? folder = some location ∧ location ∉ chain ∧
        arrives (location :: chain) (folder.join first.path) rest) :
    arrives chain folder (dirs ++ [last]) ↔ tree.WayDown chain folder dirs ∧
      ∃ location, tree.directory? (folder.inside (dirs ++ [last])) = some location ∧
        asks (tree.Passes chain folder dirs location) := by
  induction dirs generalizing chain folder with
  | nil =>
    rw [List.nil_append, deeper, wayDown_nil_iff]
    constructor
    · rintro ⟨place, found, fresh, arrived⟩
      obtain ⟨location, entered, answer⟩ := (here _ _).mp arrived
      rw [← passes_nil_iff found] at answer
      exact ⟨⟨place, found, fresh⟩, location, entered, answer⟩
    · rintro ⟨⟨place, found, fresh⟩, location, entered, answer⟩
      rw [passes_nil_iff found] at answer
      exact ⟨place, found, fresh, (here _ _).mpr ⟨location, entered, answer⟩⟩
  | cons first rest inductionStep =>
    rw [List.cons_append, deeper, wayDown_cons_iff]
    constructor
    · rintro ⟨place, found, fresh, arrived⟩
      obtain ⟨above, location, entered, answer⟩ := inductionStep.mp arrived
      rw [← passes_cons_iff found] at answer
      exact ⟨⟨place, found, fresh, above⟩, location, entered, answer⟩
    · rintro ⟨⟨place, found, fresh, above⟩, location, entered, answer⟩
      rw [passes_cons_iff found] at answer
      exact ⟨place, found, fresh, inductionStep.mpr ⟨above, location, entered, answer⟩⟩

/-- **A way down goes on into an entry** if that leads to a directory at a place that is not passed. -/
theorem wayDown_concat_iff : tree.WayDown chain folder (dirs ++ [last]) ↔
    tree.WayDown chain folder dirs ∧
      ∃ location, tree.directory? (folder.inside (dirs ++ [last])) = some location ∧
        ¬ tree.Passes chain folder dirs location :=
  concat_iff_of_steps tree.WayDown Not (fun _ _ => wayDown_nil_iff)
    fun _ _ _ _ => wayDown_cons_iff

/-- **A folder in an entry is passed over** if the way down to the folder that holds it is free and its
place is passed. -/
theorem loop_mem_scanBelow_iff :
    .loop (folder.inside (dirs ++ [last])) ∈ tree.scanBelow extensions chain folder ↔
      tree.WayDown chain folder dirs ∧
        ∃ location, tree.directory? (folder.inside (dirs ++ [last])) = some location ∧
          tree.Passes chain folder dirs location :=
  concat_iff_of_steps
    (fun chain folder dirs => .loop (folder.inside dirs) ∈ tree.scanBelow extensions chain folder) id
    (fun _ _ => loop_mem_scanBelow_self_iff) fun _ _ _ _ => loop_mem_scanBelow_inside_iff

end Loops

/-- **A scan ends**, wherever links lead. Walked with one chain, it never fails and meets what `scan`
says under every limit above the number of directories. At every call the places on the chain are
directories, no two of them are the same, and no more of them are there than directories; a folder that
is entered is the last one, and what has been scanned leaves the chain as it was. Only folders inside
are passed over; and if the way down to a folder is free, then a folder in it is passed over if it is at
the place of one on the way, and if not its files are listed, whatever is passed over elsewhere. -/
theorem scan_walk_ends (tree : FileTree) (enumeration : Enumeration tree)
    (extensions : List String) (folder : Path) :
    ∃ calls : List ScanCall,
      (∀ limit, tree.directoryCount < limit →
        (tree.walkFolder enumeration extensions limit folder).run.run ⟨[], [], []⟩ =
          some (.ok (), ⟨[], tree.scan folder extensions, calls⟩)) ∧
      (∀ call ∈ calls, call.chain.Nodup ∧
        (∀ location ∈ call.chain, tree.node? location = some .directory) ∧
          call.chain.length ≤ tree.directoryCount) ∧
      (∀ path chain, .entered path chain ∈ calls → chain.getLast? = tree.directory? path) ∧
      (∀ path before after, .ended path before after ∈ calls → after = before) ∧
      (∀ path, .loop path ∈ tree.scan folder extensions →
        ∃ dirs last, path = folder.inside (dirs ++ [last])) ∧
      (∀ dirs last, .loop (folder.inside (dirs ++ [last])) ∈ tree.scan folder extensions ↔
        tree.WayDown [] folder dirs ∧
          ∃ location, tree.directory? (folder.inside (dirs ++ [last])) = some location ∧
            ∃ above, above <+: dirs ∧
              tree.directory? (folder.inside above) = some location) ∧
      ∀ dirs last name,
        .file (folder.inside (dirs ++ [last] ++ [name])) ∈ tree.scan folder extensions ↔
          (tree.WayDown [] folder dirs ∧
            ∃ location, tree.directory? (folder.inside (dirs ++ [last])) = some location ∧
              ¬ ∃ above, above <+: dirs ∧
                tree.directory? (folder.inside above) = some location) ∧
          tree.HoldsFile extensions (folder.inside (dirs ++ [last])) name := by
  have passes (dirs : List Name) (location : Location) : tree.Passes [] folder dirs location ↔
      ∃ above, above <+: dirs ∧ tree.directory? (folder.inside above) = some location := by
    simp [Passes]
  have sound := sound_callsBelow folder (IsChain.nil tree) (sound_callsInside folder (IsChain.nil tree))
  refine ⟨tree.callsBelow [] folder, fun limit above => ?_, fun call member => ?_,
    fun path chain member => (sound _ member).2, fun path before after member => (sound _ member).2,
    fun path met => ?_, fun dirs last => ?_, fun dirs last name => ?_⟩
  · exact runs_walkFolder enumeration extensions folder (IsChain.nil tree)
      (by simpa using above) [] []
  · have isChain := (sound call member).isChain
    exact ⟨isChain.nodup, isChain.directory, isChain.length_le⟩
  · obtain ⟨dirs, rfl⟩ := exists_inside_of_loop_mem met
    rcases List.eq_nil_or_concat dirs with rfl | ⟨above, last, rfl⟩
    · obtain ⟨_, _, active⟩ := loop_mem_scanBelow_self_iff.mp met
      cases active
    · exact ⟨above, last, by rw [List.concat_eq_append]⟩
  · rw [scan, loop_mem_scanBelow_iff]
    simp only [passes]
  · rw [scan, mem_scanBelow_iff, wayDown_concat_iff]
    simp only [passes]

/-- Two directories that hold links to each other. Each is passed over in the link that leads back to it,
and listed twice, under its own name and in the other one. -/
example :
    let tree := FileTree.empty []
      |>.write (.ofText "/a/x.glsl") "float x;".toUTF8
      |>.link (.ofText "/a/b") (.ofText "../b")
      |>.write (.ofText "/b/y.glsl") "float y;".toUTF8
      |>.link (.ofText "/b/a") (.ofText "../a")
    tree.scan (.ofText "/") ["glsl"] =
      [.loop (.ofText "/a/b/a"), .file (.ofText "/a/b/y.glsl"), .file (.ofText "/a/x.glsl"),
        .loop (.ofText "/b/a/b"), .file (.ofText "/b/a/x.glsl"), .file (.ofText "/b/y.glsl")] := by
  decide +kernel

end FileTree

end ShaderCheck
