/-
**Lists of folders.**

Folders that are all accepted are registered one after the other. Of those that produce a name, the
last one decides what it is bound to, whatever the name was bound to before, and however the folders and
their aliases overlap. Of the files that one folder pairs with a name, the last one decides.

Registration ends at the first folder that is rejected: for how it is described, or because it holds no
file with a wanted extension, and for no other reason. Its error is that of the registration. What the
folders in front of it registered stays, it adds no name of its own, and what comes behind it is not looked
at. The scans so far are recorded, and no names.

* `AcceptedAs`, `LastPairing`: the files of an accepted folder, and the last pair with a name;
* `RejectedWith`, `registerEach_cons_of_rejectedWith`: why a folder is rejected, and what it leaves;
* `registerEach_eq_ok_iff`: when a registration succeeds, and with which names;
* `registerEach_append_of_ok`, `registerEach_append_of_error`: a list that is registered in two parts;
* `registerFolders_overriding`: the names, what they are bound to, and the parts;
* `exists_first_rejected`, `exists_entries`: the folder that ends a registration, and those before it;
* `log_registerEach_append`: the records of accepted folders;
* `registerFolders_stops`: the error, the sources and the records that a rejected folder leaves.
-/

import Mathlib.Data.List.Forall2
import ShaderCheck.FileTree
import ShaderCheck.Proofs.Registry

namespace ShaderCheck

/-! ### Names that several folders produce -/

/-- The value describes a folder that has these files, under these names. -/
def AcceptedAs (tree : FileTree) (base : Path) (value : Json) (entry : ResolvedFiles) : Prop :=
  ∃ folder, SourceFolder.ofJson value base = .ok folder ∧ (folder.resolve tree).result = .ok entry

/-- The value describes no folder, or one that holds no file with a wanted extension; with the error that
says so. -/
inductive RejectedWith (tree : FileTree) (base : Path) (value : Json) : ConfigError → Prop
  | misdescribed {error : ConfigError} (described : SourceFolder.ofJson value base = .error error) :
    RejectedWith tree base value error
  | unfilled {folder : SourceFolder} (described : SourceFolder.ofJson value base = .ok folder)
    (nothing : ScanEvent.files (tree.scan folder.path folder.extensions) = []) :
    RejectedWith tree base value (.noFilesWithExtensionFound folder.path.text)

/-- The records of scanning the folder that the value describes, if it describes one. -/
def scanRecords (tree : FileTree) (base : Path) (value : Json) : List LogRecord :=
  match SourceFolder.ofJson value base with
  | .error _ => []
  | .ok folder => ScanEvent.log (tree.scan folder.path folder.extensions)

/-- The last pair with the name has this file. -/
def ResolvedFiles.Binds (entry : ResolvedFiles) (key : String) (file : Path) : Prop :=
  ∃ front back, entry.pairs = front ++ (key, file) :: back ∧ ∀ other, (key, other) ∉ back

/-- The last of the folders that has the name pairs it with this file, and with no other one behind it. -/
def LastPairing (entries : List ResolvedFiles) (key : String) (file : Path) : Prop :=
  ∃ before entry after, entries = before ++ entry :: after ∧ entry.Binds key file ∧
    ∀ later ∈ after, key ∉ later.names

theorem ResolvedFiles.mem_names_of_mem_pairs {entry : ResolvedFiles} {key : String} {file : Path}
    (paired : (key, file) ∈ entry.pairs) : key ∈ entry.names :=
  (List.of_mem_zip paired).1

/-- Inserting the pairs of a folder binds a name as the last pair with this name says. -/
theorem ResolvedFiles.Binds.get?_insertMany {entry : ResolvedFiles} {key : String} {file : Path}
    (binds : entry.Binds key file) (sources : NamedSources) :
    (sources.insertMany entry.pairs).get? key = some file := by
  obtain ⟨front, back, split, last⟩ := binds
  rw [split, List.append_cons, Table.insertMany_append, Table.get?_insertMany_of_not_mem _ last,
    Table.insertMany_append]
  exact (Table.get?_insert _ key key file).trans (if_pos rfl)

/-- A name that a pair has is in a last pair. -/
theorem exists_last_pair {pairs : List (String × Path)} {key : String} {file : Path}
    (paired : (key, file) ∈ pairs) :
    ∃ last front back, pairs = front ++ (key, last) :: back ∧ ∀ other, (key, other) ∉ back := by
  induction pairs generalizing file with
  | nil => cases paired
  | cons first rest inductionStep =>
    by_cases again : ∃ other, (key, other) ∈ rest
    · obtain ⟨other, paired⟩ := again
      obtain ⟨last, front, back, rfl, isLast⟩ := inductionStep paired
      exact ⟨last, first :: front, back, rfl, isLast⟩
    · rw [not_exists] at again
      obtain rfl := (List.mem_cons.mp paired).resolve_right (again file)
      exact ⟨file, [], rest, rfl, again⟩

namespace AcceptedAs

variable {tree : FileTree} {base : Path} {value : Json} {entry : ResolvedFiles} {key : String}

/-- An accepted folder binds each of its names. -/
theorem exists_binds (accepted : AcceptedAs tree base value entry) (named : key ∈ entry.names) :
    ∃ file, entry.Binds key file := by
  obtain ⟨folder, described, result⟩ := accepted
  obtain ⟨_, rfl⟩ := SourceFolder.resolve_eq_ok_iff.mp result
  obtain ⟨file, listed, rfl⟩ := List.mem_map.mp named
  obtain ⟨again, alsoResult, paired⟩ := SourceFolder.names_iff.mpr ⟨listed, rfl⟩
  rw [result] at alsoResult
  obtain rfl := Except.ok.inj alsoResult
  exact exists_last_pair paired

theorem pairsOf?_eq (accepted : AcceptedAs tree base value entry) :
    pairsOf? tree base value = some entry.pairs := by
  obtain ⟨folder, described, result⟩ := accepted
  rw [pairsOf?_of_described described, result]
  rfl

end AcceptedAs

section Overriding

variable {tree : FileTree} {base : Path} {values : List Json} {entries : List ResolvedFiles}

/-- Registering accepted folders inserts the files of each, in order. -/
theorem acceptedPairs_of_accepted (accepted : List.Forall₂ (AcceptedAs tree base) values entries) :
    acceptedPairs tree base values = entries.flatMap ResolvedFiles.pairs := by
  induction accepted with
  | nil => rfl
  | cons first _ inductionStep =>
    rw [acceptedPairs_cons_of_accepted first.pairsOf?_eq, inductionStep, List.flatMap_cons]

/-- An accepted folder is registered, and then the rest. -/
theorem registerEach_cons_of_accepted {value : Json} {entry : ResolvedFiles}
    (accepted : AcceptedAs tree base value entry) (sources : NamedSources) (rest : List Json) :
    (registerEach tree base sources (value :: rest)).result =
        (registerEach tree base (sources.insertMany entry.pairs) rest).result.map
          (entry.names ++ ·) ∧
      (registerEach tree base sources (value :: rest)).sources =
        (registerEach tree base (sources.insertMany entry.pairs) rest).sources := by
  obtain ⟨folder, described, result⟩ := accepted
  rw [registerEach, described]
  dsimp only
  rw [result]
  exact ⟨rfl, rfl⟩

/-- A folder is rejected exactly when it is not accepted. -/
theorem rejectedWith_iff {value : Json} : (∃ error, RejectedWith tree base value error) ↔
    ∀ entry, ¬ AcceptedAs tree base value entry := by
  constructor
  · rintro ⟨error, rejected⟩ entry ⟨folder, described, result⟩
    cases rejected with
    | misdescribed wrong =>
      rw [described] at wrong
      cases wrong
    | unfilled again nothing =>
      obtain rfl := Except.ok.inj (described.symm.trans again)
      rw [SourceFolder.resolve_of_unfilled nothing] at result
      cases result
  · intro unaccepted
    cases described : SourceFolder.ofJson value base with
    | error error => exact ⟨error, .misdescribed described⟩
    | ok folder =>
      by_cases nothing : folder.files tree = []
      · exact ⟨_, .unfilled described nothing⟩
      · exact absurd ⟨folder, described, SourceFolder.resolve_of_filled nothing⟩ (unaccepted _)

/-- A rejected folder ends the registration with its error, and leaves the sources as they are. -/
theorem registerEach_cons_of_rejectedWith {value : Json} {error : ConfigError}
    (rejected : RejectedWith tree base value error)
    (sources : NamedSources) (rest : List Json) :
    registerEach tree base sources (value :: rest) =
      ⟨.error error, sources, scanRecords tree base value⟩ := by
  rw [registerEach, scanRecords]
  cases rejected with
  | misdescribed described => rw [described]
  | unfilled described nothing =>
    rw [described]
    dsimp only
    rw [SourceFolder.resolve_of_unfilled nothing]
    rfl

theorem exists_of_registerEach_cons_eq_ok {sources : NamedSources} {value : Json} {rest : List Json}
    {names : List String}
    (registered : (registerEach tree base sources (value :: rest)).result = .ok names) :
    ∃ entry others, AcceptedAs tree base value entry ∧
      (registerEach tree base (sources.insertMany entry.pairs) rest).result = .ok others ∧
      names = entry.names ++ others := by
  by_cases accepted : ∃ entry, AcceptedAs tree base value entry
  · obtain ⟨entry, accepted⟩ := accepted
    rw [(registerEach_cons_of_accepted accepted sources rest).1] at registered
    cases later : (registerEach tree base (sources.insertMany entry.pairs) rest).result with
    | error error =>
      rw [later] at registered
      cases registered
    | ok others =>
      rw [later] at registered
      exact ⟨entry, others, accepted, later, (Except.ok.inj registered).symm⟩
  · obtain ⟨error, rejected⟩ := rejectedWith_iff.mpr (not_exists.mp accepted)
    rw [registerEach_cons_of_rejectedWith rejected] at registered
    cases registered

/-- **A registration succeeds if every folder is accepted**, and gives the names of all of them. -/
theorem registerEach_eq_ok_iff {sources : NamedSources} {names : List String} :
    (registerEach tree base sources values).result = .ok names ↔
      ∃ entries, List.Forall₂ (AcceptedAs tree base) values entries ∧
        names = entries.flatMap ResolvedFiles.names := by
  constructor
  · intro registered
    induction values generalizing sources names with
    | nil => exact ⟨[], .nil, (Except.ok.inj registered).symm⟩
    | cons value rest inductionStep =>
      obtain ⟨entry, others, accepted, later, rfl⟩ := exists_of_registerEach_cons_eq_ok registered
      obtain ⟨entries, allAccepted, rfl⟩ := inductionStep later
      exact ⟨entry :: entries, .cons accepted allAccepted, List.flatMap_cons.symm⟩
  · rintro ⟨entries, accepted, rfl⟩
    induction accepted generalizing sources with
    | nil => rfl
    | cons first _ inductionStep =>
      rw [(registerEach_cons_of_accepted first sources _).1, inductionStep]
      rfl

/-- **The last pairing decides.** By induction on the folders: what the first one inserts is what a name
is bound to before the others, and stays if none of them has it. -/
theorem get?_insertMany_flatMap (accepted : List.Forall₂ (AcceptedAs tree base) values entries)
    (sources : NamedSources) (key : String) :
    (∀ entry ∈ entries, key ∉ entry.names) ∧
        (sources.insertMany (entries.flatMap ResolvedFiles.pairs)).get? key = sources.get? key ∨
      ∃ file, LastPairing entries key file ∧
        (sources.insertMany (entries.flatMap ResolvedFiles.pairs)).get? key = some file := by
  induction accepted generalizing sources with
  | nil => exact .inl ⟨nofun, rfl⟩
  | @cons value entry values rest isAccepted _ inductionStep =>
    rw [List.flatMap_cons, Table.insertMany_append]
    rcases inductionStep (sources.insertMany entry.pairs) with
      ⟨absent, kept⟩ | ⟨file, ⟨before, last, after, rfl, binds, unnamed⟩, bound⟩
    · -- No later folder has the name, so that the first one binds it or leaves it as it was.
      rw [kept]
      by_cases named : key ∈ entry.names
      · obtain ⟨file, binds⟩ := isAccepted.exists_binds named
        exact .inr ⟨file, ⟨[], entry, rest, rfl, binds, absent⟩, binds.get?_insertMany sources⟩
      · refine .inl ⟨List.forall_mem_cons.mpr ⟨named, absent⟩, ?_⟩
        exact Table.get?_insertMany_of_not_mem _ fun file pair =>
          named (ResolvedFiles.mem_names_of_mem_pairs pair)
    · exact .inr ⟨file, ⟨entry :: before, last, after, rfl, binds, unnamed⟩, bound⟩

/-- **Registering a list in two parts**: the second part is registered upon the first one, if that is
accepted, and its names come behind. -/
theorem registerEach_append_of_ok {sources : NamedSources} {first : List Json} {names : List String}
    (registered : (registerEach tree base sources first).result = .ok names) (second : List Json) :
    let later := registerEach tree base (registerEach tree base sources first).sources second
    (registerEach tree base sources (first ++ second)).result = later.result.map (names ++ ·) ∧
      (registerEach tree base sources (first ++ second)).sources = later.sources := by
  induction first generalizing sources names with
  | nil =>
    obtain rfl := Except.ok.inj registered
    refine ⟨?_, rfl⟩
    show (registerEach tree base sources second).result =
      (registerEach tree base sources second).result.map id
    rw [Except.map_id]
    rfl
  | cons value rest inductionStep =>
    obtain ⟨entry, others, accepted, onward, rfl⟩ := exists_of_registerEach_cons_eq_ok registered
    obtain ⟨result, bound⟩ := inductionStep onward
    have first := registerEach_cons_of_accepted accepted sources rest
    have whole := registerEach_cons_of_accepted accepted sources (rest ++ second)
    rw [List.cons_append]
    dsimp only
    rw [whole.1, whole.2, first.2, result, bound]
    refine ⟨?_, rfl⟩
    cases (registerEach tree base
      (registerEach tree base (sources.insertMany entry.pairs) rest).sources second).result with
    | error error => rfl
    | ok more => exact congrArg Except.ok (List.append_assoc ..).symm

/-- If the first part is not accepted, its error ends the registration and the second part is not looked
at. -/
theorem registerEach_append_of_error {sources : NamedSources} {first : List Json}
    {error : ConfigError}
    (failed : (registerEach tree base sources first).result = .error error) (second : List Json) :
    (registerEach tree base sources (first ++ second)).result = .error error ∧
      (registerEach tree base sources (first ++ second)).sources =
        (registerEach tree base sources first).sources := by
  induction first generalizing sources with
  | nil => cases failed
  | cons value rest inductionStep =>
    rw [List.cons_append]
    by_cases accepted : ∃ entry, AcceptedAs tree base value entry
    · obtain ⟨entry, accepted⟩ := accepted
      have first := registerEach_cons_of_accepted accepted sources rest
      have whole := registerEach_cons_of_accepted accepted sources (rest ++ second)
      rw [first.1] at failed
      cases onward : (registerEach tree base (sources.insertMany entry.pairs) rest).result with
      | error other =>
        rw [onward] at failed
        obtain rfl := Except.error.inj failed
        obtain ⟨result, bound⟩ := inductionStep onward
        rw [whole.1, whole.2, first.2, result, bound]
        exact ⟨rfl, rfl⟩
      | ok others =>
        rw [onward] at failed
        cases failed
    · obtain ⟨other, rejected⟩ := rejectedWith_iff.mpr (not_exists.mp accepted)
      rw [registerEach_cons_of_rejectedWith rejected] at failed ⊢
      rw [registerEach_cons_of_rejectedWith rejected]
      exact ⟨failed, rfl⟩

/-- **Overriding.** Registering folders that are all accepted gives their names in order. A name that
none of them has stays as it was, and every other name is bound to the file that the last folder with
this name pairs it with last. The bound names are listed in order, each once, and counted; and a list can be
registered in two parts. -/
theorem registerFolders_overriding
    (accepted : List.Forall₂ (AcceptedAs tree base) values entries) (sources : NamedSources) :
    let registration := registerFolders tree base sources values
    registration.result = .ok (entries.flatMap ResolvedFiles.names) ∧
      (∀ key,
        (∀ entry ∈ entries, key ∉ entry.names) ∧
            registration.sources.get? key = sources.get? key ∨
          ∃ file, LastPairing entries key file ∧ registration.sources.get? key = some file) ∧
      (registration.sources.keys.Pairwise (· < ·) ∧
        registration.sources.size = registration.sources.keys.length ∧
        ∀ key, key ∈ registration.sources.keys ↔ (registration.sources.get? key).isSome) ∧
      ∀ first second,
        let earlier := registerFolders tree base sources first
        let later := registerFolders tree base earlier.sources second
        let whole := registerFolders tree base sources (first ++ second)
        (∀ names, earlier.result = .ok names →
            whole.result = later.result.map (names ++ ·) ∧ whole.sources = later.sources) ∧
          ∀ error, earlier.result = .error error →
            whole.result = .error error ∧ whole.sources = earlier.sources := by
  intro registration
  have bound : registration.sources =
      sources.insertMany (entries.flatMap ResolvedFiles.pairs) := by
    rw [← acceptedPairs_of_accepted accepted]
    exact sources_registerFolders sources values
  refine ⟨registerEach_eq_ok_iff.mpr ⟨entries, accepted, rfl⟩, fun key => ?_, ?_,
    fun first second => ?_⟩
  · rw [bound]
    exact get?_insertMany_flatMap accepted sources key
  · exact ⟨Table.pairwise_keys _, Table.size_eq _, fun key => Table.mem_keys_iff⟩
  · exact ⟨fun names registered => registerEach_append_of_ok registered second,
      fun error failed => registerEach_append_of_error failed second⟩

end Overriding

/-- A directory of shaders and one with another version of one of them. -/
def overridingSample : FileTree :=
  FileTree.empty []
    |>.write (.ofText "include/common.glsl") "// common".toUTF8
    |>.write (.ofText "include/lighting/phong.glsl") "// phong".toUTF8
    |>.write (.ofText "override/common.glsl") "// override".toUTF8

/-- The description of a directory under the alias `/lib`. -/
def libEntry (path : String) : Json :=
  .object [("alias", .string "/lib"), ("extensions", .array [.string "glsl"]),
    ("path", .string path)]

/-- The files of both directories under that alias. -/
def libFiles : List ResolvedFiles :=
  [⟨[.ofText "include/common.glsl", .ofText "include/lighting/phong.glsl"],
    ["/lib/common.glsl", "/lib/lighting/phong.glsl"]⟩,
  ⟨[.ofText "override/common.glsl"], ["/lib/common.glsl"]⟩]

/-- Of two directories under one alias, the second one decides what the name in both is bound to. -/
theorem registerFolders_overriding_sample :
    let registration :=
      registerFolders overridingSample (.ofText "") ∅ [libEntry "include", libEntry "override"]
    registration.result =
        .ok ["/lib/common.glsl", "/lib/lighting/phong.glsl", "/lib/common.glsl"] ∧
      LastPairing libFiles "/lib/common.glsl" (.ofText "override/common.glsl") ∧
      registration.sources.get? "/lib/common.glsl" = some (.ofText "override/common.glsl") := by
  have accepted : List.Forall₂ (AcceptedAs overridingSample (.ofText ""))
      [libEntry "include", libEntry "override"] libFiles :=
    .cons ⟨⟨.ofText "include", ["glsl"], some "/lib"⟩, rfl, by decide +kernel⟩
      (.cons ⟨⟨.ofText "override", ["glsl"], some "/lib"⟩, rfl, by decide +kernel⟩ .nil)
  have bound : (registerFolders overridingSample (.ofText "") ∅
      [libEntry "include", libEntry "override"]).sources.get? "/lib/common.glsl" =
        some (.ofText "override/common.glsl") := by decide +kernel
  obtain ⟨result, decided, _⟩ := registerFolders_overriding accepted ∅
  refine ⟨result, ?_, bound⟩
  rcases decided "/lib/common.glsl" with ⟨absent, _⟩ | ⟨file, last, found⟩
  · exact absurd List.mem_cons_self (absent _ List.mem_cons_self)
  · rw [bound] at found
    rwa [Option.some.inj found]

/-! ### The folder that ends a registration -/

section Rejection

variable {tree : FileTree} {base : Path} {value : Json} {error : ConfigError}

theorem log_registerEach_cons_of_accepted {entry : ResolvedFiles}
    (accepted : AcceptedAs tree base value entry) (sources : NamedSources) (rest : List Json) :
    (registerEach tree base sources (value :: rest)).log =
      scanRecords tree base value ++
        (registerEach tree base (sources.insertMany entry.pairs) rest).log := by
  obtain ⟨folder, described, result⟩ := accepted
  rw [registerEach, scanRecords, described]
  dsimp only
  rw [result]
  rfl

/-- Accepted folders record their scans, and then the rest its own. By induction on the folders. -/
theorem log_registerEach_append {before : List Json} {entries : List ResolvedFiles}
    (accepted : List.Forall₂ (AcceptedAs tree base) before entries) (sources : NamedSources)
    (rest : List Json) :
    (registerEach tree base sources (before ++ rest)).log =
      before.flatMap (scanRecords tree base) ++
        (registerEach tree base (registerEach tree base sources before).sources rest).log := by
  induction accepted generalizing sources with
  | nil => rfl
  | cons first _ inductionStep =>
    rw [List.cons_append, log_registerEach_cons_of_accepted first, inductionStep,
      (registerEach_cons_of_accepted first sources _).2, List.flatMap_cons, List.append_assoc]

/-- The records of a scan are of folders that it passes over. -/
theorem exists_of_mem_scanRecords {record : LogRecord}
    (recorded : record ∈ scanRecords tree base value) : ∃ folder : Path,
      record = ⟨.debug, s!"Skipping {folder.text}, it links back to a parent folder"⟩ := by
  unfold scanRecords at recorded
  split at recorded
  · cases recorded
  · obtain ⟨event, _, isRecord⟩ := List.mem_filterMap.mp recorded
    cases event with
    | file path => cases isRecord
    | loop folder => exact ⟨folder, (Option.some.inj isRecord).symm⟩

/-- Of folders that are not all accepted, one is the first to be rejected. -/
theorem exists_first_rejected {values : List Json}
    (rejected : ∃ value ∈ values, ∃ error, RejectedWith tree base value error) :
    ∃ before bad after error, values = before ++ bad :: after ∧
      (∀ value ∈ before, ¬ ∃ error, RejectedWith tree base value error) ∧
        RejectedWith tree base bad error := by
  classical
  have found : (values.find? fun value =>
      decide (∃ error, RejectedWith tree base value error)).isSome := by
    simpa using rejected
  obtain ⟨bad, isFirst⟩ := Option.isSome_iff_exists.mp found
  obtain ⟨isBad, before, after, split, earlier⟩ := List.find?_eq_some_iff_append.mp isFirst
  obtain ⟨error, isBad⟩ := of_decide_eq_true isBad
  refine ⟨before, bad, after, error, split, fun value member => ?_, isBad⟩
  simpa using earlier value member

/-- Folders none of which is rejected are all accepted. -/
theorem exists_entries {before : List Json}
    (unrejected : ∀ value ∈ before, ¬ ∃ error, RejectedWith tree base value error) :
    ∃ entries, List.Forall₂ (AcceptedAs tree base) before entries := by
  induction before with
  | nil => exact ⟨[], .nil⟩
  | cons value rest inductionStep =>
    rw [List.forall_mem_cons, rejectedWith_iff] at unrejected
    obtain ⟨entry, accepted⟩ := not_forall_not.mp unrejected.1
    obtain ⟨entries, others⟩ := inductionStep unrejected.2
    exact ⟨entry :: entries, .cons accepted others⟩

/-- **A registration stops at the first rejected folder.** It fails with the error of this folder. The
sources are those that the folders in front of it leave, which are registered without error, and any
other folders behind it make no difference. Recorded are the scans up to that of the rejected folder,
and neither a registered name nor that there are any. -/
theorem registerFolders_stops (sources : NamedSources) {values : List Json}
    (rejected : ∃ value ∈ values, ∃ error, RejectedWith tree base value error) :
    ∃ before bad after error, values = before ++ bad :: after ∧
      (∀ value ∈ before, ¬ ∃ error, RejectedWith tree base value error) ∧
      RejectedWith tree base bad error ∧
      let registration := registerFolders tree base sources values
      let earlier := registerFolders tree base sources before
      registration.result = .error error ∧
        (∃ names, earlier.result = .ok names) ∧ registration.sources = earlier.sources ∧
        (∀ others, registerFolders tree base sources (before ++ bad :: others) = registration) ∧
        registration.log = before.flatMap (scanRecords tree base) ++ scanRecords tree base bad ∧
        ∀ record ∈ registration.log,
          record.text ≠ "Registered Named Strings:" ∧ ∀ name, record.text ≠ "    " ++ name := by
  obtain ⟨before, bad, after, error, rfl, unrejected, isBad⟩ := exists_first_rejected rejected
  obtain ⟨entries, accepted⟩ := exists_entries unrejected
  have registered : (registerEach tree base sources before).result =
      .ok (entries.flatMap ResolvedFiles.names) :=
    registerEach_eq_ok_iff.mpr ⟨entries, accepted, rfl⟩
  have stopped (others : List Json) : registerFolders tree base sources (before ++ bad :: others) =
      ⟨.error error, (registerEach tree base sources before).sources,
        before.flatMap (scanRecords tree base) ++ scanRecords tree base bad⟩ := by
    obtain ⟨result, bound⟩ := registerEach_append_of_ok registered (bad :: others)
    have records := log_registerEach_append accepted sources (bad :: others)
    rw [registerEach_cons_of_rejectedWith isBad] at result bound records
    rw [registerFolders, result, bound, records]
    exact congrArg (Registration.mk _ _) (List.append_nil _)
  refine ⟨before, bad, after, error, rfl, unrejected, isBad, ?_⟩
  rw [stopped after]
  refine ⟨rfl, ⟨_, registered⟩, rfl, stopped, rfl, fun record recorded => ?_⟩
  have scanned : ∃ value, record ∈ scanRecords tree base value := by
    rcases List.mem_append.mp recorded with earlier | last
    · obtain ⟨value, _, recorded⟩ := List.mem_flatMap.mp earlier
      exact ⟨value, recorded⟩
    · exact ⟨bad, last⟩
  obtain ⟨value, recorded⟩ := scanned
  obtain ⟨folder, isRecord⟩ := exists_of_mem_scanRecords recorded
  have letter : record.text.toList.head? = some 'S' := by
    rw [isRecord]
    dsimp only
    rw [String.toList_append, String.toList_append]
    rfl
  constructor
  · intro same
    rw [same] at letter
    exact absurd letter (by decide)
  · intro name same
    rw [same, String.toList_append] at letter
    exact absurd (Option.some.inj letter) (by decide)

end Rejection

/-- A directory with a shader, and one with a shader and a link to itself. -/
def loopedSample : FileTree :=
  FileTree.empty []
    |>.write (.ofText "include/common.glsl") "// common".toUTF8
    |>.write (.ofText "override/common.glsl") "// override".toUTF8
    |>.link (.ofText "override/self") (.ofText ".")

/-- The description of the second directory with an extension that no file has. -/
def unfilledEntry : Json :=
  .object [("extensions", .array [.string "hlsl"]), ("path", .string "override")]

/-- The second of three folders is rejected after a scan of it, of which the link is recorded. The first
one stays registered, and the third one is not looked at. -/
theorem registerFolders_stops_sample :
    let values := [libEntry "include", unfilledEntry, libEntry "override"]
    let registration := registerFolders loopedSample (.ofText "") ∅ values
    (∃ value ∈ values, ∃ error, RejectedWith loopedSample (.ofText "") value error) ∧
      registration.result = .error (.noFilesWithExtensionFound "override") ∧
      registration.sources.keys = ["/lib/common.glsl"] ∧
      registration.log =
        [⟨.debug, "Skipping override/self, it links back to a parent folder"⟩] ∧
      ∃ before bad after, values = before ++ bad :: after ∧
        RejectedWith loopedSample (.ofText "") bad (.noFilesWithExtensionFound "override") ∧
        ∀ others, registerFolders loopedSample (.ofText "") ∅ (before ++ bad :: others) =
          registration := by
  intro values registration
  have described : SourceFolder.ofJson unfilledEntry (.ofText "") =
      .ok ⟨.ofText "override", ["hlsl"], none⟩ := rfl
  have unfilled : RejectedWith loopedSample (.ofText "") unfilledEntry
      (.noFilesWithExtensionFound "override") :=
    .unfilled described (by decide +kernel)
  have result : registration.result = .error (.noFilesWithExtensionFound "override") := by
    decide +kernel
  have rejected : ∃ value ∈ values, ∃ error, RejectedWith loopedSample (.ofText "") value error :=
    ⟨unfilledEntry, by simp [values], _, unfilled⟩
  obtain ⟨before, bad, after, error, split, _, isBad, ends, _, _, same, _⟩ :=
    registerFolders_stops ∅ rejected
  obtain rfl := Except.error.inj (ends.symm.trans result)
  exact ⟨rejected, result, by decide +kernel, by decide +kernel, before, bad, after, split, isBad, same⟩

end ShaderCheck
