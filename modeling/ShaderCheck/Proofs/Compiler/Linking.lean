/-
**Which stages form a program.**

Linking checks its rules in order and stops at the first one that is broken; which stages pass can be
said without the order. Their types do not repeat, and either there is a compute stage alone, or there
is none, there is a vertex stage, and it writes all that a fragment stage reads. As the front end reads
no tessellation and geometry stages, a compiled program is one of three sets of stages.

Linking looks for the first repeated type, and then for the first stage of a type. If no type is
repeated there is one stage at most to find for each type, so stages in any other order link alike: they
form a program, or break the same rule. If a type is repeated, linking stops at once, in any order, and
names a type of two stages at least.

* `firstRepeated?_eq_none_iff`, `stageOf?_eq_some_iff`, `unwrittenLocation?_eq_none_iff`: what each rule
  asks;
* `link_eq_ok_iff`: the stages that can be linked;
* `Compiler.FormProgram`, `link_eq_ok_iff_formProgram`: the same for stages that the front end reads;
* `two_le_count_of_firstRepeated?`: the type that an error tells;
* `stageOf?_perm`, `linkGraphics_perm`: what is found in another order;
* `IsLeastUnwritten`, `link_eq_unwrittenInput_iff`: the location that an error tells;
* `link_perm`: stages in another order.
-/

import Mathlib.Data.List.Nodup
import Mathlib.Order.Bounds.Basic
import ShaderCheck.Compiler
import ShaderCheck.Glsl.Frontend

namespace ShaderCheck

/-! ### Stages that can be linked -/

/-- No value is equal to one before it, if the values differ from each other and from those seen. -/
theorem firstRepeated?_eq_none_iff {α : Type} [DecidableEq α] {seen values : List α} :
    firstRepeated? seen values = none ↔ values.Nodup ∧ ∀ value ∈ values, value ∉ seen := by
  induction values generalizing seen with
  | nil => simp [firstRepeated?]
  | cons value rest inductionStep =>
    rw [firstRepeated?]
    by_cases repeated : value ∈ seen
    · simp [repeated]
    · rw [if_neg repeated, inductionStep, List.nodup_cons, List.forall_mem_cons]
      -- The values behind differ from `value` because it is seen when they are looked at.
      have apart : (∀ later ∈ rest, later ∉ value :: seen) ↔
          value ∉ rest ∧ ∀ later ∈ rest, later ∉ seen := by
        simp only [List.mem_cons, not_or, forall_and]
        exact and_congr_left' ⟨fun different member => different value member rfl,
          fun missing later member same => missing (same ▸ member)⟩
      rw [apart]
      tauto

/-- A list without repetitions has one value only if every value in it is that value. -/
theorem eq_singleton_iff_of_nodup {α : Type} {values : List α} {value : α}
    (distinct : values.Nodup) :
    values = [value] ↔ value ∈ values ∧ ∀ other ∈ values, other = value := by
  rw [← List.perm_singleton, List.perm_ext_iff_of_nodup distinct (List.nodup_singleton value)]
  simp only [List.mem_singleton]
  exact ⟨fun same => ⟨(same value).mpr rfl, fun other => (same other).mp⟩,
    fun ⟨member, only⟩ other => ⟨only other, fun equal => equal ▸ member⟩⟩

namespace StageType

/-- Every stage type but compute is one of the graphics pipeline. -/
theorem isGraphics_iff {stageType : StageType} : stageType.isGraphics ↔ stageType ≠ .compute := by
  cases stageType <;> decide

/-- The front end reads vertex, fragment and compute stages. -/
theorem isSome_kind?_iff {stageType : StageType} :
    stageType.kind?.isSome ↔
      stageType = .vertex ∨ stageType = .fragment ∨ stageType = .compute := by
  cases stageType <;> decide

end StageType

namespace Compiler

variable {Module : Type}

/-- Whatever a fragment stage reads is written by a vertex stage, for every two such stages. -/
def FragmentIsFed (frontend : Frontend Module) (stages : List (CompiledStage Module)) : Prop :=
  ∀ vertex ∈ stages, ∀ fragment ∈ stages,
    vertex.stageType = .vertex → fragment.stageType = .fragment →
      frontend.inputLocations .fragment fragment.module ⊆ frontend.outputLocations .vertex vertex.module

/-- Stages that form a program, in any order: a compute stage, a vertex stage, or a vertex stage and
a fragment stage that reads nothing else than the vertex stage writes. -/
def FormProgram (frontend : Frontend Module) (stages : List (CompiledStage Module)) : Prop :=
  let types := stages.map CompiledStage.stageType
  types.Perm [.compute] ∨ types.Perm [.vertex] ∨
    types.Perm [.vertex, .fragment] ∧ FragmentIsFed frontend stages

/-- No location is unwritten, if every location that is read is written. -/
theorem unwrittenLocation?_eq_none_iff {frontend : Frontend Module} {vertex fragment : Module} :
    unwrittenLocation? frontend vertex fragment = none ↔
      frontend.inputLocations .fragment fragment ⊆ frontend.outputLocations .vertex vertex := by
  rw [unwrittenLocation?, List.min?_eq_none_iff, List.filter_eq_nil_iff]
  simp [List.subset_def]

section Stages

variable {stages : List (CompiledStage Module)} {stageType : StageType}

/-- There is no stage of a type that no stage has. -/
theorem stageOf?_eq_none_iff :
    stageOf? stages stageType = none ↔ stageType ∉ stages.map CompiledStage.stageType := by
  simp [stageOf?, List.find?_eq_none]

/-- If types do not repeat, the first stage of a type is the stage of that type. -/
theorem stageOf?_eq_some_iff (distinct : (stages.map CompiledStage.stageType).Nodup)
    {stage : CompiledStage Module} :
    stageOf? stages stageType = some stage ↔ stage ∈ stages ∧ stage.stageType = stageType := by
  have isOne : ∀ {found}, stageOf? stages stageType = some found →
      found ∈ stages ∧ found.stageType = stageType := fun found =>
    ⟨List.mem_of_find?_eq_some found, by simpa using List.find?_some found⟩
  refine ⟨isOne, fun ⟨member, hasType⟩ => ?_⟩
  obtain ⟨first, found⟩ : ∃ first, stageOf? stages stageType = some first :=
    Option.ne_none_iff_exists'.mp fun missing =>
      stageOf?_eq_none_iff.mp missing (List.mem_map.mpr ⟨stage, member, hasType⟩)
  obtain ⟨firstMember, sameType⟩ := isOne found
  rw [found, List.inj_on_of_nodup_map distinct firstMember member (sameType.trans hasType.symm)]

/-- Without a fragment stage nothing has to be written. -/
theorem fragmentIsFed_of_notMem {frontend : Frontend Module}
    (missing : .fragment ∉ stages.map CompiledStage.stageType) : FragmentIsFed frontend stages :=
  fun _ _ fragment member _ fragmentType =>
    absurd (List.mem_map.mpr ⟨fragment, member, fragmentType⟩) missing

/-- The graphics rules ask for a vertex stage that feeds the fragment stage. -/
theorem linkGraphics_eq_ok_iff (frontend : Frontend Module)
    (distinct : (stages.map CompiledStage.stageType).Nodup) :
    linkGraphics frontend stages = .ok () ↔
      .vertex ∈ stages.map CompiledStage.stageType ∧ FragmentIsFed frontend stages := by
  unfold linkGraphics
  cases vertexFound : stageOf? stages .vertex with
  | none => simp [stageOf?_eq_none_iff.mp vertexFound]
  | some vertex =>
    obtain ⟨vertexMember, vertexType⟩ := (stageOf?_eq_some_iff distinct).mp vertexFound
    have present : .vertex ∈ stages.map CompiledStage.stageType :=
      List.mem_map.mpr ⟨vertex, vertexMember, vertexType⟩
    dsimp only
    cases fragmentFound : stageOf? stages .fragment with
    | none =>
      have fed : FragmentIsFed frontend stages :=
        fragmentIsFed_of_notMem (stageOf?_eq_none_iff.mp fragmentFound)
      simp [present, fed]
    | some fragment =>
      obtain ⟨fragmentMember, fragmentType⟩ := (stageOf?_eq_some_iff distinct).mp fragmentFound
      -- The two stages that are found are the only ones of their types.
      have fed : FragmentIsFed frontend stages ↔
          frontend.inputLocations .fragment fragment.module ⊆
            frontend.outputLocations .vertex vertex.module := by
        constructor
        · intro fed
          exact fed vertex vertexMember fragment fragmentMember vertexType fragmentType
        · intro written first firstMember second secondMember firstType secondType
          have vertexAgain := (stageOf?_eq_some_iff distinct).mpr ⟨firstMember, firstType⟩
          have fragmentAgain := (stageOf?_eq_some_iff distinct).mpr ⟨secondMember, secondType⟩
          obtain rfl := Option.some.inj (vertexFound.symm.trans vertexAgain)
          obtain rfl := Option.some.inj (fragmentFound.symm.trans fragmentAgain)
          exact written
      rw [fed, ← unwrittenLocation?_eq_none_iff]
      dsimp only
      cases unwrittenLocation? frontend vertex.module fragment.module <;> simp [present]

/-- **The stages that can be linked**: types do not repeat, and there is a compute stage alone, or a
vertex stage without one that feeds the fragment stage. -/
theorem link_eq_ok_iff (compiler : Compiler Module) (stages : List (CompiledStage Module)) :
    compiler.link stages = .ok () ↔
      (stages.map CompiledStage.stageType).Nodup ∧
        (stages.map CompiledStage.stageType = [.compute] ∨
          .compute ∉ stages.map CompiledStage.stageType ∧
            .vertex ∈ stages.map CompiledStage.stageType ∧
            FragmentIsFed compiler.frontend stages) := by
  unfold link
  cases repeats : firstRepeated? [] (stages.map CompiledStage.stageType) with
  | some stageType =>
    have repeated : ¬ (stages.map CompiledStage.stageType).Nodup := by
      intro distinct
      have none := firstRepeated?_eq_none_iff.mpr ⟨distinct, fun _ _ => List.not_mem_nil⟩
      rw [none] at repeats
      cases repeats
    simp [repeated]
  | none =>
    have distinct := (firstRepeated?_eq_none_iff.mp repeats).1
    have graphics : (stages.any fun stage => stage.stageType.isGraphics) ↔
        ∃ stageType ∈ stages.map CompiledStage.stageType, stageType ≠ .compute := by
      simp [StageType.isGraphics_iff]
    have compute : (stages.any fun stage => !stage.stageType.isGraphics) ↔
        .compute ∈ stages.map CompiledStage.stageType := by
      simp [← Bool.not_eq_true, StageType.isGraphics_iff]
    simp only [Bool.and_eq_true, graphics, compute]
    rw [eq_singleton_iff_of_nodup distinct]
    by_cases hasCompute : .compute ∈ stages.map CompiledStage.stageType <;>
      by_cases hasGraphics : ∃ stageType ∈ stages.map CompiledStage.stageType, stageType ≠ .compute
    · rw [if_pos ⟨hasCompute, hasGraphics⟩]
      obtain ⟨stageType, member, other⟩ := hasGraphics
      have beside : ¬ ∀ stageType ∈ stages.map CompiledStage.stageType, stageType = .compute :=
        fun alone => other (alone stageType member)
      simp only [reduceCtorEq, false_iff]
      tauto
    · rw [if_neg fun both => hasGraphics both.2, if_neg hasGraphics, if_pos hasCompute]
      have alone : ∀ stageType ∈ stages.map CompiledStage.stageType, stageType = .compute :=
        fun stageType member => by_contra fun other => hasGraphics ⟨stageType, member, other⟩
      exact iff_of_true rfl ⟨distinct, .inl ⟨hasCompute, alone⟩⟩
    · rw [if_neg fun both => hasCompute both.1, if_pos hasGraphics,
        linkGraphics_eq_ok_iff _ distinct]
      tauto
    · rw [if_neg fun both => hasCompute both.1, if_neg hasGraphics, if_neg hasCompute]
      have noVertex : .vertex ∉ stages.map CompiledStage.stageType :=
        fun member => hasGraphics ⟨.vertex, member, by decide⟩
      simp only [reduceCtorEq, false_iff]
      tauto

/-- **The stages that the front end reads and that can be linked** form a program. -/
theorem link_eq_ok_iff_formProgram (compiler : Compiler Module)
    (readable : ∀ stage ∈ stages, stage.stageType.kind?.isSome) :
    compiler.link stages = .ok () ↔ FormProgram compiler.frontend stages := by
  have kinds : ∀ stageType ∈ stages.map CompiledStage.stageType,
      stageType = .vertex ∨ stageType = .fragment ∨ stageType = .compute := by
    simpa [StageType.isSome_kind?_iff] using readable
  have fedWithout : .fragment ∉ stages.map CompiledStage.stageType →
      FragmentIsFed compiler.frontend stages := fragmentIsFed_of_notMem
  rw [link_eq_ok_iff]
  unfold FormProgram
  generalize stages.map CompiledStage.stageType = types at kinds fedWithout ⊢
  constructor
  · rintro ⟨distinct, rfl | ⟨noCompute, hasVertex, fed⟩⟩
    · exact .inl (.refl _)
    · have graphics : ∀ stageType ∈ types, stageType = .vertex ∨ stageType = .fragment :=
        fun stageType member => (kinds stageType member).imp_right fun other =>
          other.resolve_right fun isCompute => noCompute (isCompute ▸ member)
      by_cases hasFragment : .fragment ∈ types
      · refine .inr (.inr ⟨(List.perm_ext_iff_of_nodup distinct (by decide)).mpr fun stageType => ?_,
          fed⟩)
        rw [List.mem_pair]
        exact ⟨graphics stageType, by rintro (rfl | rfl) <;> assumption⟩
      · refine .inr (.inl ((List.perm_ext_iff_of_nodup distinct (by decide)).mpr fun stageType => ?_))
        rw [List.mem_singleton]
        refine ⟨fun member => (graphics stageType member).resolve_right ?_, ?_⟩
        · rintro rfl
          exact hasFragment member
        · rintro rfl
          exact hasVertex
  · rintro (perm | perm | ⟨perm, fed⟩)
    · exact ⟨perm.nodup_iff.mpr (by decide), .inl (List.perm_singleton.mp perm)⟩
    · refine ⟨perm.nodup_iff.mpr (by decide), .inr ⟨?_, ?_, fedWithout ?_⟩⟩ <;>
        · rw [perm.mem_iff]
          decide
    · refine ⟨perm.nodup_iff.mpr (by decide), .inr ⟨?_, ?_, fed⟩⟩ <;>
        · rw [perm.mem_iff]
          decide

end Stages

end Compiler

/-! ### Stages in another order -/

/-- A value that is found to be repeated is there twice, among the values and those seen before. -/
theorem two_le_count_of_firstRepeated? {α : Type} [DecidableEq α] {seen values : List α} {value : α}
    (found : firstRepeated? seen values = some value) :
    2 ≤ seen.count value + values.count value := by
  induction values generalizing seen with
  | nil => cases found
  | cons head rest inductionStep =>
    rw [firstRepeated?] at found
    by_cases repeated : head ∈ seen
    · rw [if_pos repeated] at found
      obtain rfl := Option.some.inj found
      have before : 1 ≤ seen.count head := List.one_le_count_iff.mpr repeated
      rw [List.count_cons_self]
      omega
    · rw [if_neg repeated] at found
      have deeper := inductionStep found
      rw [List.count_cons] at deeper ⊢
      omega

namespace Compiler

variable {Module : Type} {frontend : Frontend Module} {location : Nat}

/-- The smallest location that a fragment module reads and a vertex module does not write. -/
def IsLeastUnwritten (frontend : Frontend Module) (vertex fragment : Module) (location : Nat) :
    Prop :=
  IsLeast {location | location ∈ frontend.inputLocations .fragment fragment ∧
    location ∉ frontend.outputLocations .vertex vertex} location

theorem unwrittenLocation?_eq_some_iff {vertex fragment : Module} :
    unwrittenLocation? frontend vertex fragment = some location ↔
      IsLeastUnwritten frontend vertex fragment location := by
  rw [unwrittenLocation?, List.min?_eq_some_iff, IsLeastUnwritten, IsLeast]
  simp [lowerBounds]

section Stages

variable {stages order : List (CompiledStage Module)}
  (distinct : (stages.map CompiledStage.stageType).Nodup)

include distinct

/-- The graphics rules tell a location only of a vertex stage and a fragment stage. -/
theorem linkGraphics_eq_unwrittenInput_iff :
    linkGraphics frontend stages = .error (.unwrittenInput location) ↔
      ∃ vertex ∈ stages, ∃ fragment ∈ stages,
        vertex.stageType = .vertex ∧ fragment.stageType = .fragment ∧
          IsLeastUnwritten frontend vertex.module fragment.module location := by
  have found : linkGraphics frontend stages = .error (.unwrittenInput location) ↔
      ∃ vertex fragment, stageOf? stages .vertex = some vertex ∧
        stageOf? stages .fragment = some fragment ∧
          unwrittenLocation? frontend vertex.module fragment.module = some location := by
    unfold linkGraphics
    cases stageOf? stages .vertex with
    | none => simp
    | some vertex =>
      cases stageOf? stages .fragment with
      | none => simp
      | some fragment =>
        cases unwritten : unwrittenLocation? frontend vertex.module fragment.module <;>
          simp [unwritten]
  rw [found]
  constructor
  · rintro ⟨vertex, fragment, vertexFound, fragmentFound, unwritten⟩
    obtain ⟨vertexMember, vertexType⟩ := (stageOf?_eq_some_iff distinct).mp vertexFound
    obtain ⟨fragmentMember, fragmentType⟩ := (stageOf?_eq_some_iff distinct).mp fragmentFound
    exact ⟨vertex, vertexMember, fragment, fragmentMember, vertexType, fragmentType,
      unwrittenLocation?_eq_some_iff.mp unwritten⟩
  · rintro ⟨vertex, vertexMember, fragment, fragmentMember, vertexType, fragmentType, least⟩
    exact ⟨vertex, fragment, (stageOf?_eq_some_iff distinct).mpr ⟨vertexMember, vertexType⟩,
      (stageOf?_eq_some_iff distinct).mpr ⟨fragmentMember, fragmentType⟩,
      unwrittenLocation?_eq_some_iff.mpr least⟩

/-- **The location that an error tells** is the smallest one that the fragment stage reads and the
vertex stage does not write. -/
theorem link_eq_unwrittenInput_iff (compiler : Compiler Module) :
    compiler.link stages = .error (.unwrittenInput location) ↔
      .compute ∉ stages.map CompiledStage.stageType ∧
        ∃ vertex ∈ stages, ∃ fragment ∈ stages,
          vertex.stageType = .vertex ∧ fragment.stageType = .fragment ∧
            IsLeastUnwritten compiler.frontend vertex.module fragment.module location := by
  have once : firstRepeated? [] (stages.map CompiledStage.stageType) = none :=
    firstRepeated?_eq_none_iff.mpr ⟨distinct, fun _ _ => List.not_mem_nil⟩
  have compute : (stages.any fun stage => !stage.stageType.isGraphics) ↔
      .compute ∈ stages.map CompiledStage.stageType := by
    simp [← Bool.not_eq_true, StageType.isGraphics_iff]
  rw [← linkGraphics_eq_unwrittenInput_iff distinct, ← compute, link, once]
  dsimp only
  cases stages.any fun stage => !stage.stageType.isGraphics with
  | true => cases stages.any fun stage => stage.stageType.isGraphics <;> simp
  | false =>
    cases graphics : stages.any fun stage => stage.stageType.isGraphics with
    | true => simp
    | false =>
      -- Without a graphics stage there is no vertex stage to tell a location of.
      have missing : linkGraphics compiler.frontend stages ≠ .error (.unwrittenInput location) := by
        intro failed
        obtain ⟨vertex, member, _, _, isVertex, _⟩ :=
          (linkGraphics_eq_unwrittenInput_iff distinct).mp failed
        have none := List.any_eq_false.mp graphics vertex member
        rw [isVertex] at none
        exact none rfl
      simp [missing]

variable (perm : order.Perm stages)

include perm

/-- **The stage of a type** is the same in any order. -/
theorem stageOf?_perm (stageType : StageType) :
    stageOf? order stageType = stageOf? stages stageType := by
  have distinctOrder : (order.map CompiledStage.stageType).Nodup :=
    (perm.map CompiledStage.stageType).nodup_iff.mpr distinct
  refine Option.ext fun stage => ?_
  rw [stageOf?_eq_some_iff distinctOrder, stageOf?_eq_some_iff distinct, perm.mem_iff]

theorem linkGraphics_perm (frontend : Frontend Module) :
    linkGraphics frontend order = linkGraphics frontend stages := by
  unfold linkGraphics
  rw [stageOf?_perm distinct perm, stageOf?_perm distinct perm]

/-- **Stages of different types** link alike in any order. -/
theorem link_eq_of_perm (compiler : Compiler Module) :
    compiler.link order = compiler.link stages := by
  have once : ∀ {list : List (CompiledStage Module)}, list.Perm stages →
      firstRepeated? [] (list.map CompiledStage.stageType) = none := fun sameStages =>
    firstRepeated?_eq_none_iff.mpr
      ⟨(sameStages.map CompiledStage.stageType).nodup_iff.mpr distinct, fun _ _ => List.not_mem_nil⟩
  unfold link
  rw [once perm, once (.refl stages), perm.any_eq, perm.any_eq, linkGraphics_perm distinct perm]

end Stages

/-- Stages of which two have one type break the first rule. -/
theorem exists_repeatedStage (compiler : Compiler Module) {stages : List (CompiledStage Module)}
    (repeated : ¬ (stages.map CompiledStage.stageType).Nodup) :
    ∃ stageType, compiler.link stages = .error (.repeatedStage stageType) ∧
      2 ≤ (stages.map CompiledStage.stageType).count stageType := by
  unfold link
  cases found : firstRepeated? [] (stages.map CompiledStage.stageType) with
  | none => exact absurd (firstRepeated?_eq_none_iff.mp found).1 repeated
  | some stageType =>
    have twice := two_le_count_of_firstRepeated? found
    rw [List.count_nil, Nat.zero_add] at twice
    exact ⟨stageType, rfl, twice⟩

/-- **Linking does not depend on the order of stages.**

Stages of different types link alike in any order. If the fragment stage reads what the vertex stage
does not write, the error tells the smallest such location. Stages of which two have one type are
rejected in any order, whatever the other stages are, and the error tells a type of two stages. -/
theorem link_perm (compiler : Compiler Module) {stages order : List (CompiledStage Module)}
    (perm : order.Perm stages) :
    let types := stages.map CompiledStage.stageType
    (types.Nodup →
      compiler.link order = compiler.link stages ∧
      ∀ location, compiler.link order = .error (.unwrittenInput location) ↔
        .compute ∉ types ∧ ∃ vertex ∈ stages, ∃ fragment ∈ stages,
          vertex.stageType = .vertex ∧ fragment.stageType = .fragment ∧
            IsLeastUnwritten compiler.frontend vertex.module fragment.module location) ∧
    (¬ types.Nodup →
      ∃ stageType, 2 ≤ types.count stageType ∧
        (compiler.link order).mapError LinkError.chain =
          .error (.ofMessage s!"More than one {stageType.token} attached")) := by
  intro types
  have sameTypes := perm.map CompiledStage.stageType
  refine ⟨fun distinct => ?_, fun repeated => ?_⟩
  · have same := link_eq_of_perm distinct perm compiler
    exact ⟨same, fun location => by rw [same, link_eq_unwrittenInput_iff distinct]⟩
  · obtain ⟨stageType, rejected, twice⟩ :=
      exists_repeatedStage compiler (mt sameTypes.nodup_iff.mp repeated)
    rw [sameTypes.count_eq] at twice
    exact ⟨stageType, twice, by rw [rejected]; rfl⟩

/-- The stages of texts that the front end for GLSL reads. -/
def stagesOf (texts : List (StageType × String)) : List (CompiledStage Glsl.Module) :=
  texts.filterMap fun (stageType, text) => do
    let kind ← stageType.kind?
    let module ← Glsl.Module.ofText? kind text
    return ⟨stageType, module⟩

/-- A vertex shader that writes location 2, and a fragment shader that reads the locations 3 to 1. -/
def unfedStages : List (CompiledStage Glsl.Module) :=
  stagesOf [
    (.vertex, "layout(location=2)out float c;void main()\x7b\x7d"),
    (.fragment, "layout(location=3)in float a;layout(location=2)in float b;" ++
      "layout(location=1)in float c;void main()\x7b\x7d")]

/-- In both orders the error tells the smallest of two locations; with the first stage once more, the
error tells its type. -/
theorem unfedStages_link_perm :
    let compiler : Compiler Glsl.Module := ⟨Glsl.frontend, 450⟩
    let twice := unfedStages ++ unfedStages.take 1
    compiler.link unfedStages = .error (.unwrittenInput 1) ∧
      compiler.link unfedStages.reverse = compiler.link unfedStages ∧
      (∃ vertex ∈ unfedStages, ∃ fragment ∈ unfedStages,
        IsLeastUnwritten Glsl.frontend vertex.module fragment.module 1) ∧
      ∃ stageType, 2 ≤ (twice.map CompiledStage.stageType).count stageType ∧
        (compiler.link twice.reverse).mapError LinkError.chain =
          .error (.ofMessage s!"More than one {stageType.token} attached") := by
  intro compiler twice
  have evaluated : unfedStages.map CompiledStage.stageType = [.vertex, .fragment] ∧
      compiler.link unfedStages = .error (.unwrittenInput 1) := by
    decide +kernel
  obtain ⟨types, unfed⟩ := evaluated
  have distinct : (unfedStages.map CompiledStage.stageType).Nodup := by
    rw [types]
    decide
  have repeated : ¬ (twice.map CompiledStage.stageType).Nodup := by
    rw [List.map_append, List.map_take, types]
    decide
  obtain ⟨same, tells⟩ := (link_perm compiler (List.reverse_perm unfedStages)).1 distinct
  obtain ⟨_, vertex, vertexMember, fragment, fragmentMember, _, _, least⟩ :=
    (tells 1).mp (same.trans unfed)
  exact ⟨unfed, same, ⟨vertex, vertexMember, fragment, fragmentMember, least⟩,
    (link_perm compiler (List.reverse_perm twice)).2 repeated⟩

end Compiler

end ShaderCheck
