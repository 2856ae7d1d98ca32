/-
**Relative names, worked out from a folder.**

A relative name without empty segments is a list of steps. Taken from a folder below some start, they
lead to another place below it, unless they go above the start on the way. Put behind a name that has
nothing to work out, they lead to the same place: working out the whole takes back exactly what the
steps take back.

With an alias, the files of a folder are named by their places inside the folder, the alias in front.
A relative name in one of these files then looks up the file that it leads to inside the folder, if it
does not lead out of it on the way: whether the alias is rooted, relative or empty, and however deep
the files are. The alias has to be a name that has nothing to work out. Another file is found only if both
are shown as the same text.

* `follow?`, `descent`: the place below the start that steps lead to, and its text behind that of the start;
* `Include.exists_pushSegment_follow?`: the segments that are left when one step is worked out;
* `Include.foldl_pushSegment_follow?`: the same for all steps of a name;
* `Include.resolveName_descent`: the name that is looked up;
* `Path.toList_inside`: the text of a place inside a folder;
* `aliased_include`: what a relative name finds.
-/

import ShaderCheck.FileTree
import ShaderCheck.Proofs.Include.Normal
import ShaderCheck.Proofs.Include.Sibling
import ShaderCheck.Proofs.Registry
import ShaderCheck.Proofs.Scan.Listing

namespace ShaderCheck

/-! ### Places below a start -/

/-- The place below a start that steps lead to from another place below it, each place given by the
names on the way down. There is none if the steps go above the start. -/
def follow? : List Name → List Step → Option (List Name)
  | names, [] => some names
  | names, .current :: rest => follow? names rest
  | names, .parent :: rest => if names = [] then none else follow? names.dropLast rest
  | names, .entry name :: rest => follow? (names ++ [name]) rest

/-- The names on the way down, each behind a slash. -/
def descent (names : List Name) : List Char :=
  names.flatMap fun name => '/' :: name.text.toList

/-- The segments of the names on the way down. -/
def segmentsOf (names : List Name) : List (List Char) :=
  names.map fun name => name.text.toList

variable {names dirs : List Name} {name : Name}

theorem descent_concat : descent (dirs ++ [name]) = descent dirs ++ '/' :: name.text.toList := by
  simp [descent]

theorem segmentsOf_concat :
    segmentsOf (dirs ++ [name]) = segmentsOf dirs ++ [name.text.toList] := by
  simp [segmentsOf]

/-- A text is cut before each of the names on the way down. -/
theorem splitAtEvery_append_descent (start : List Char) (names : List Name) :
    splitAtEvery '/' (start ++ descent names) = splitAtEvery '/' start ++ segmentsOf names := by
  induction names using List.reverseRecOn with
  | nil => simp [descent, segmentsOf]
  | append_singleton names name inductionStep =>
    rw [descent_concat, segmentsOf_concat, ← List.append_assoc, splitAtEvery_append, inductionStep,
      splitAtEvery_of_not_mem name.slash_not_mem_text, List.append_assoc]

/-! ### Steps of a name without empty segments -/

/-- The segment of a step, as it is shown. -/
def Step.segment : Step → List Char
  | .current => ['.']
  | .parent => ['.', '.']
  | .entry name => name.text.toList

/-- A segment that is not empty is a step. -/
theorem exists_step_of_segment {segment : List UInt8} (filled : segment ≠ [])
    (whole : slashByte ∉ segment) : ∃ step, Step.ofSegment? segment = some step := by
  unfold Step.ofSegment?
  by_cases current : segment = [dotByte]
  · exact ⟨.current, if_pos current⟩
  · by_cases parent : segment = [dotByte, dotByte]
    · exact ⟨.parent, by rw [if_neg current, if_pos parent]⟩
    · have isName : IsName segment := ⟨filled, whole, current, parent⟩
      refine ⟨.entry ⟨segment, isName⟩, ?_⟩
      rw [if_neg current, if_neg parent, Name.ofBytes?, dif_pos isName, Option.map_some]

/-- A segment that is a step is shown as the segment of that step. -/
theorem decode_of_ofSegment? {segment : List UInt8} {step : Step}
    (isStep : Step.ofSegment? segment = some step) : Text.decode none segment = step.segment := by
  unfold Step.ofSegment? at isStep
  split at isStep
  · rename_i current
    obtain rfl := Option.some.inj isStep
    exact decode_eq_dot_iff.mpr current
  · split at isStep
    · rename_i parent
      obtain rfl := Option.some.inj isStep
      exact decode_eq_dots_iff.mpr parent
    · obtain ⟨found, isFound, rfl⟩ := Option.map_eq_some_iff.mp isStep
      unfold Name.ofBytes? at isFound
      split at isFound
      · obtain rfl := Option.some.inj isFound
        exact String.toList_ofList.symm
      · cases isFound

/-- The segments of a text are those of its bytes, as they are shown. -/
theorem splitAtEvery_toList (requested : String) :
    splitAtEvery '/' requested.toList =
      (splitAtEvery slashByte (Text.bytes requested)).map (Text.decode none) := by
  rw [← splitAtEvery_decode, Text.decode_bytes]

/-- A text without empty segments has none in its bytes. -/
theorem ne_nil_of_filled {requested : String}
    (filled : ∀ segment ∈ splitAtEvery '/' requested.toList, segment ≠ []) :
    ∀ segment ∈ splitAtEvery slashByte (Text.bytes requested), segment ≠ [] := by
  intro segment member empty
  refine filled (Text.decode none segment) ?_ (Text.decode_eq_nil_iff.mpr empty)
  rw [splitAtEvery_toList]
  exact List.mem_map_of_mem member

/-- The steps of a name without empty segments are those of its segments: no slash at its end adds
one. -/
theorem steps_of_filled {requested : String}
    (filled : ∀ segment ∈ splitAtEvery '/' requested.toList, segment ≠ []) :
    (Path.ofText requested).steps =
      (splitAtEvery slashByte (Text.bytes requested)).filterMap Step.ofSegment? := by
  have unclosed : (Path.ofText requested).endsWithSlash = false := by
    rw [Bool.eq_false_iff]
    intro slash
    have split := Path.bytes_of_endsWithSlash slash
    refine ne_nil_of_filled filled [] ?_ rfl
    rw [show Text.bytes requested = (Path.ofText requested).trunk ++ [slashByte] from split,
      splitAtEvery_append]
    exact List.mem_append_right _ (by simp [splitAtEvery])
  rw [Path.steps, unclosed, if_neg Bool.false_ne_true, List.append_nil]
  rfl

namespace Include

/-! ### Working the steps out -/

variable {start : List (List Char)}

/-- Working out the segment of a step goes on from the place that the step leads to. What comes
before the names on the way down is never taken back. -/
theorem exists_pushSegment_follow? {step : Step} {rest : List Step}
    (leads : follow? dirs (step :: rest) = some names) :
    ∃ between, follow? between rest = some names ∧
      pushSegment (start ++ segmentsOf dirs).reverse step.segment =
        (start ++ segmentsOf between).reverse := by
  cases step with
  | current => exact ⟨dirs, leads, if_pos rfl⟩
  | parent =>
    rw [follow?] at leads
    split at leads
    · cases leads
    · rename_i below
      refine ⟨dirs.dropLast, leads, ?_⟩
      cases dirs using List.reverseRecOn with
      | nil => exact absurd rfl below
      | append_singleton earlier last =>
        have plain : last.text.toList ≠ [] ∧ last.text.toList ≠ ['.', '.'] :=
          ⟨fun empty => last.text_ne_empty (String.toList_eq_nil_iff.mp empty), last.toList_text_ne.2⟩
        rw [List.dropLast_concat, segmentsOf_concat, ← List.append_assoc, List.reverse_concat]
        exact if_pos plain
  | entry name =>
    refine ⟨dirs ++ [name], leads, ?_⟩
    rw [segmentsOf_concat, ← List.append_assoc, List.reverse_concat]
    unfold pushSegment
    rw [Step.segment, if_neg name.toList_text_ne.1, if_neg name.toList_text_ne.2]

/-- **Working out the segments of steps** leaves those of the place that the steps lead to. -/
theorem foldl_pushSegment_follow? {segments : List (List UInt8)}
    (filled : ∀ segment ∈ segments, segment ≠ [])
    (whole : ∀ segment ∈ segments, slashByte ∉ segment)
    (leads : follow? dirs (segments.filterMap Step.ofSegment?) = some names) :
    (segments.map (Text.decode none)).foldl pushSegment (start ++ segmentsOf dirs).reverse =
      (start ++ segmentsOf names).reverse := by
  induction segments generalizing dirs with
  | nil =>
    obtain rfl := Option.some.inj leads
    rfl
  | cons segment rest inductionStep =>
    rw [List.forall_mem_cons] at filled whole
    obtain ⟨step, isStep⟩ := exists_step_of_segment filled.1 whole.1
    rw [List.filterMap_cons_some isStep] at leads
    obtain ⟨between, onward, pushed⟩ := exists_pushSegment_follow? leads
    rw [List.map_cons, List.foldl_cons, decode_of_ofSegment? isStep, pushed]
    exact inductionStep filled.2 whole.2 onward

/-- **The name that is looked up** for a relative name, in a source below a start that has nothing to
work out: the start with the place behind it that the steps lead to. -/
theorem resolveName_descent {root requested : String} (stable : normalize root = root)
    (filled : ∀ segment ∈ splitAtEvery '/' requested.toList, segment ≠ [])
    (leads : follow? dirs (Path.ofText requested).steps = some names) :
    resolveName requested (some (root ++ String.ofList (descent (dirs ++ [name])))) =
      root ++ String.ofList (descent names) := by
  have relative : ¬ requested.toList.head? = some '/' := by
    intro absolute
    obtain ⟨rest, split⟩ := List.head?_eq_some_iff.mp absolute
    refine filled [] ?_ rfl
    rw [split, splitAtEvery, if_pos rfl]
    exact List.mem_cons_self
  have folder : folderOf? (root ++ String.ofList (descent (dirs ++ [name]))) =
      some (String.ofList (root.toList ++ descent dirs)) := by
    have split : (root ++ String.ofList (descent (dirs ++ [name]))).toList =
        (root.toList ++ descent dirs) ++ '/' :: name.text.toList := by
      rw [String.toList_append, String.toList_ofList, descent_concat, List.append_assoc]
    exact folderOf?_append split name.slash_not_mem_text
  have segments : splitAtEvery '/'
      (String.ofList (root.toList ++ descent dirs) ++ "/" ++ requested).toList =
      splitAtEvery '/' root.toList ++ segmentsOf dirs ++ splitAtEvery '/' requested.toList := by
    rw [← splitAtEvery_append_descent, ← splitAtEvery_append]
    simp
  have kept : normalizeSegments (splitAtEvery '/' root.toList) = splitAtEvery '/' root.toList :=
    normalizeSegments_eq_self_iff.mpr (normalize_eq_self_iff.mp stable)
  have plain : ∀ segment ∈ segmentsOf dirs, segment ≠ ['.'] ∧ segment ≠ ['.', '.'] := by
    intro segment member
    obtain ⟨inner, _, rfl⟩ := List.mem_map.mp member
    exact inner.toList_text_ne
  have front : normalizeSegments (splitAtEvery '/' root.toList ++ segmentsOf dirs) =
      splitAtEvery '/' root.toList ++ segmentsOf dirs :=
    normalizeSegments_eq_self_iff.mpr
      ((isNormal_append_iff plain).mpr (normalizeSegments_eq_self_iff.mp kept))
  have worked : normalizeSegments (splitAtEvery '/' root.toList ++ segmentsOf dirs ++
      splitAtEvery '/' requested.toList) = splitAtEvery '/' root.toList ++ segmentsOf names := by
    rw [normalizeSegments, List.foldl_append, ← List.reverse_reverse (List.foldl _ _ (_ ++ _)),
      ← normalizeSegments, front, List.reverse_eq_iff, splitAtEvery_toList requested]
    refine foldl_pushSegment_follow? (ne_nil_of_filled filled)
      (fun segment => not_mem_of_mem_splitAtEvery) ?_
    rw [← steps_of_filled filled]
    exact leads
  rw [resolveName_of_folderOf? relative folder, normalize, segments, worked,
    ← splitAtEvery_append_descent, intercalate_splitAtEvery, String.ofList_append,
    String.ofList_toList]

end Include

/-! ### Files of a folder with an alias -/

namespace Path

variable {folder path : Path}

/-- The text of a place inside a folder is the folder's text and the way down. -/
theorem toList_inside (filled : folder.bytes ≠ []) (unclosed : folder.endsWithSlash = false)
    (names : List Name) :
    (folder.inside names).text.toList = folder.text.toList ++ descent names := by
  induction names generalizing folder with
  | nil => exact (List.append_nil _).symm
  | cons name rest inductionStep =>
    have joined : (folder.join name.path).text.toList =
        folder.text.toList ++ '/' :: name.text.toList := by
      rw [toList_text_join filled, trunk, unclosed, if_neg Bool.false_ne_true, toList_text]
    show ((folder.join name.path).inside rest).text.toList = _
    rw [inductionStep (bytes_join_ne_nil filled name) (endsWithSlash_join filled name), joined]
    simp [descent]

end Path

/-- The text of a place inside a folder, with the folder's text replaced. -/
theorem replacedFolder_inside {folder : Path} {aliasText : String} (filled : folder.bytes ≠ [])
    (unclosed : folder.endsWithSlash = false) (names : List Name) :
    replacedFolder folder aliasText (folder.inside names) =
      aliasText ++ String.ofList (descent names) := by
  rw [replacedFolder, Path.toList_inside filled unclosed, List.drop_left]

variable {tree : FileTree} {base : Path} {sources : NamedSources} {value : Json}
  {folder : SourceFolder} {aliasText : String}

/-- **A relative name in a file of a folder with an alias** looks up the name of the file that it
leads to inside the folder. Each file of the folder has a place inside it and one name; and where a
relative name leads from the place of one file to that of another, without going above the folder, it
looks up the name of the other file. It finds this very file, unless the folder has another one that is
shown as the same text; then it finds one of those. -/
theorem aliased_include (described : SourceFolder.ofJson value base = .ok folder)
    (aliased : folder.aliasText = some aliasText)
    (stable : Include.normalize aliasText = aliasText)
    (unclosed : folder.path.endsWithSlash = false) :
    (∀ file ∈ ScanEvent.files (tree.scan folder.path folder.extensions),
      (∃ dirs name, file = folder.path.inside (dirs ++ [name])) ∧
        ∃ key, ∀ given, folder.Names tree given file ↔ given = key) ∧
      ∀ file ∈ ScanEvent.files (tree.scan folder.path folder.extensions),
        ∀ other ∈ ScanEvent.files (tree.scan folder.path folder.extensions),
          ∀ (dirs : List Name) (name : Name) (names : List Name) (requested : String),
            file = folder.path.inside (dirs ++ [name]) → other = folder.path.inside names →
            (∀ segment ∈ splitAtEvery '/' requested.toList, segment ≠ []) →
            follow? dirs (Path.ofText requested).steps = some names →
            ∀ key otherKey, folder.Names tree key file → folder.Names tree otherKey other →
              Include.resolveName requested (some key) = otherKey ∧
                ∃ found ∈ ScanEvent.files (tree.scan folder.path folder.extensions),
                  found.text = other.text ∧
                  ((∀ path ∈ ScanEvent.files (tree.scan folder.path folder.extensions),
                    path.text = other.text → path = other) → found = other) ∧
                  (registerFolders tree base sources [value]).sources.get? otherKey =
                    some found := by
  constructor
  · intro file listed
    obtain ⟨_, below⟩ := FileTree.below_of_mem_scan listed
    refine ⟨below.exists_inside, replacedFolder folder.path aliasText file, fun given => ?_⟩
    rw [SourceFolder.names_iff_of_alias aliased]
    exact and_iff_right listed
  · intro file listed other otherListed dirs name names requested place otherPlace segments leads key otherKey
      isKey isOtherKey
    obtain ⟨filled, _⟩ := FileTree.below_of_mem_scan listed
    obtain ⟨found, isFound, bound⟩ : ∃ found, folder.Names tree otherKey found ∧
        (registerFolders tree base sources [value]).sources.get? otherKey = some found :=
      SourceFolder.exists_get?_registerFolders described isOtherKey
    obtain ⟨foundListed, sameName⟩ := SourceFolder.names_iff.mp isFound
    have sameText : found.text = other.text :=
      (SourceFolder.nameOf_eq_iff foundListed otherListed).mp
        (sameName.symm.trans (SourceFolder.names_iff.mp isOtherKey).2)
    refine ⟨?_, found, foundListed, sameText, fun only => only found foundListed sameText, bound⟩
    obtain ⟨_, rfl⟩ := (SourceFolder.names_iff_of_alias aliased).mp isKey
    obtain ⟨_, rfl⟩ := (SourceFolder.names_iff_of_alias aliased).mp isOtherKey
    rw [place, otherPlace, replacedFolder_inside filled unclosed,
      replacedFolder_inside filled unclosed]
    exact Include.resolveName_descent stable segments leads

/-- A directory with the files `brdf/ggx.glsl` and `phong/lit.glsl`. -/
def lightingSample : FileTree :=
  FileTree.empty []
    |>.write (.ofText "lights/brdf/ggx.glsl") "float ggx;".toUTF8
    |>.write (.ofText "lights/phong/lit.glsl") "#include \"../brdf/./ggx.glsl\"".toUTF8

/-- The description of that directory under the alias `..//lib`. -/
def lightingEntry : Json :=
  .object [("alias", .string "..//lib"), ("extensions", .array [.string "glsl"]),
    ("path", .string "lights")]

/-- From `phong/lit.glsl`, the name `../brdf/./ggx.glsl` finds the other file, under an alias that
starts with `..` and has an empty segment. -/
theorem aliased_include_sample :
    let registered := (registerFolders lightingSample (.ofText "") ∅ [lightingEntry]).sources
    Include.resolveName "../brdf/./ggx.glsl" (some "..//lib/phong/lit.glsl") =
        "..//lib/brdf/ggx.glsl" ∧
      registered.get? "..//lib/brdf/ggx.glsl" = some (.ofText "lights/brdf/ggx.glsl") := by
  let folder : SourceFolder := ⟨.ofText "lights", ["glsl"], some "..//lib"⟩
  have described : SourceFolder.ofJson lightingEntry (.ofText "") = .ok folder := rfl
  have stable : Include.normalize "..//lib" = "..//lib" := by decide +kernel
  have files : folder.files lightingSample =
      [.ofText "lights/brdf/ggx.glsl", .ofText "lights/phong/lit.glsl"] := by decide +kernel
  have listed : Path.ofText "lights/phong/lit.glsl" ∈ folder.files lightingSample :=
    files ▸ List.mem_cons_of_mem _ List.mem_cons_self
  have otherListed : Path.ofText "lights/brdf/ggx.glsl" ∈ folder.files lightingSample :=
    files ▸ List.mem_cons_self
  have key : folder.Names lightingSample "..//lib/phong/lit.glsl" (.ofText "lights/phong/lit.glsl") :=
    (SourceFolder.names_iff_of_alias rfl).mpr ⟨listed, by decide +kernel⟩
  have otherKey : folder.Names lightingSample "..//lib/brdf/ggx.glsl"
      (.ofText "lights/brdf/ggx.glsl") :=
    (SourceFolder.names_iff_of_alias rfl).mpr ⟨otherListed, by decide +kernel⟩
  have only : ∀ path ∈ folder.files lightingSample,
      path.text = (Path.ofText "lights/brdf/ggx.glsl").text →
        path = .ofText "lights/brdf/ggx.glsl" := by
    rw [files]
    decide +kernel
  obtain ⟨_, finds⟩ := @aliased_include lightingSample (.ofText "") ∅ _ _ _ described rfl stable
    (by decide +kernel)
  obtain ⟨looksUp, found, _, _, isOther, bound⟩ := finds _ listed _ otherListed
    [⟨Text.bytes "phong", by decide⟩] ⟨Text.bytes "lit.glsl", by decide⟩
    [⟨Text.bytes "brdf", by decide⟩, ⟨Text.bytes "ggx.glsl", by decide⟩] "../brdf/./ggx.glsl"
    (by decide +kernel) (by decide +kernel) (by decide +kernel) (by decide +kernel) _ _ key otherKey
  exact ⟨looksUp, isOther only ▸ bound⟩

end ShaderCheck
