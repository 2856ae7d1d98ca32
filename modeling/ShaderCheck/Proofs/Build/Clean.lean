/-
**Clean programs.**

On a device that compiles and links as a compiler does, whether a program is built is up to the
descriptions of its shaders and the compiler: every description is right, every shader compiles, and
the stages form a program. A program that is not built is listed by its name, so that one with a stage
that the front end does not read, with two stages of one type or with a compute stage beside others
always ends up in the list.

* `Device.WorksAs`, `Compiler.IsClean`: such a device, and the programs that it builds;
* `Builder.linkFailures_buildProgram`: a program is listed if and only if it is not built;
* `Builder.buildStages_eq_ok_iff`: the stages that the shaders of a program are compiled to;
* `Builder.buildProgram_iff_isClean`: the programs that are built, and some that never are.
-/

import Mathlib.Data.List.Forall2
import ShaderCheck.Build
import ShaderCheck.Compiler
import ShaderCheck.Glsl.Frontend
import ShaderCheck.Proofs.Compiler.Linking

namespace ShaderCheck

open Compiler

/-- A computation of two steps gives a value if the first step does and the second one goes on from
there. -/
theorem bind_eq_ok_iff {α β ε : Type} {first : Except ε α} {next : α → Except ε β} {value : β} :
    (first >>= next) = .ok value ↔ ∃ between, first = .ok between ∧ next between = .ok value := by
  cases first with
  | error error => simp [bind, Except.bind]
  | ok between => simp [bind, Except.bind]

/-! ### The stage types that are asked for -/

/-- The stage type that a shader's description asks for, whatever else stands in it. -/
def Json.stageType? (value : Json) : Option StageType :=
  ((value.field? "type").bind Json.asText?).bind StageType.ofToken?

/-- A text that is required and there is the text of the property. -/
theorem Json.requiredText_eq_ok_iff {value : Json} {key text : String} :
    value.requiredText key = .ok text ↔ (value.field? key).bind Json.asText? = some text := by
  unfold Json.requiredText
  cases (value.field? key).bind Json.asText? <;> simp

/-- The stage type of a right description is the one that it asks for. -/
theorem ShaderDescriptor.stageType?_of_ofJson {value : Json} {base : Path}
    {descriptor : ShaderDescriptor} (described : ShaderDescriptor.ofJson value base = .ok descriptor) :
    value.stageType? = some descriptor.stageType := by
  unfold ShaderDescriptor.ofJson at described
  obtain ⟨_, _, described⟩ := bind_eq_ok_iff.mp described
  obtain ⟨file, _, described⟩ := bind_eq_ok_iff.mp described
  obtain ⟨token, isToken, described⟩ := bind_eq_ok_iff.mp described
  rw [Json.stageType?, Json.requiredText_eq_ok_iff.mp isToken, Option.bind_some]
  cases found : StageType.ofToken? token with
  | none =>
    rw [found] at described
    cases described
  | some stageType =>
    rw [found] at described
    obtain ⟨_, same, described⟩ := bind_eq_ok_iff.mp described
    obtain rfl := Except.ok.inj same
    dsimp only at described
    -- Whatever replacements there are, they have no say in the stage type.
    split at described
    · obtain rfl := Except.ok.inj described
      rfl
    · obtain ⟨_, _, described⟩ := bind_eq_ok_iff.mp described
      obtain rfl := Except.ok.inj described
      rfl
    · cases described

/-! ### What is listed -/

namespace Builder

variable {State Stage : Type}

/-- A shader leaves the list of programs as it is. -/
theorem linkFailures_buildStage (builder : Builder State Stage) (value : Json)
    (state : BuildState State) :
    (builder.buildStage value state).2.report.linkFailures = state.report.linkFailures := by
  unfold buildStage
  cases ShaderDescriptor.ofJson value builder.base with
  | error error => rfl
  | ok descriptor =>
    dsimp only
    obtain ⟨result, device⟩ := builder.device.compile descriptor.stageType descriptor.source
      builder.sources state.device
    cases result <;> rfl

/-- Shaders leave the list of programs as it is, by induction on them. -/
theorem linkFailures_buildStages (builder : Builder State Stage) (values : List Json)
    (state : BuildState State) :
    (builder.buildStages values state).2.report.linkFailures = state.report.linkFailures := by
  induction values generalizing state with
  | nil => rfl
  | cons value rest inductionStep =>
    have first := linkFailures_buildStage builder value state
    unfold buildStages
    generalize builder.buildStage value state = outcome at first ⊢
    obtain ⟨result, between⟩ := outcome
    cases result with
    | error error => exact first
    | ok stage =>
      have later := inductionStep between
      dsimp only at first ⊢
      generalize builder.buildStages rest between = outcome at later ⊢
      obtain ⟨result, final⟩ := outcome
      cases result <;> exact later.trans first

/-- Shaders are built to stages if the first one is built to the first stage and the others, from there
on, to the others. -/
theorem buildStages_cons_eq_ok_iff {builder : Builder State Stage} {value : Json} {rest : List Json}
    {state : BuildState State} {stages : List Stage} :
    (builder.buildStages (value :: rest) state).1 = .ok stages ↔
      ∃ stage others, (builder.buildStage value state).1 = .ok stage ∧
        (builder.buildStages rest (builder.buildStage value state).2).1 = .ok others ∧
        stages = stage :: others := by
  rw [buildStages]
  generalize builder.buildStage value state = outcome
  obtain ⟨result, between⟩ := outcome
  cases result with
  | error error => simp
  | ok stage =>
    dsimp only
    generalize builder.buildStages rest between = outcome
    obtain ⟨result, final⟩ := outcome
    cases result with
    | error error => simp
    | ok others => simp [eq_comm]

/-- **A program is listed** by its name, if and only if it is not built. -/
theorem linkFailures_buildProgram (builder : Builder State Stage) (program : ProgramDescriptor)
    (state : BuildState State) :
    (builder.buildProgram program state).2.report.linkFailures =
      state.report.linkFailures ++
        if (builder.buildProgram program state).1 then [] else [program.name] := by
  have kept := linkFailures_buildStages builder program.shaders
    (state.record .info s!"Process {program.name}")
  generalize built : builder.buildProgram program state = outcome
  unfold buildProgram at built
  generalize builder.buildStages program.shaders (state.record _ _) = stagesOutcome at kept built
  obtain ⟨result, between⟩ := stagesOutcome
  have same : between.report.linkFailures = state.report.linkFailures := kept
  cases result with
  | error error =>
    subst built
    simp [BuildState.failProgram, BuildState.record, same]
  | ok stages =>
    dsimp only [BuildState.record] at built
    generalize builder.device.link stages between.device = linked at built
    obtain ⟨result, device⟩ := linked
    cases result <;>
      · subst built
        simp [BuildState.failProgram, BuildState.record, same]

end Builder

/-! ### What is built -/

section Compilation

variable {Module State : Type} (compiler : Compiler Module) (tree : FileTree)
  (sources : NamedSources) (base : Path)

/-- The device compiles and links as the compiler does, in whatever state it is. -/
structure Device.WorksAs (device : Device State (CompiledStage Module)) : Prop where
  compile : ∀ stageType source sources state,
    (device.compile stageType source sources state).1 =
      (compiler.compile tree stageType source sources).mapError CompileError.chain
  link : ∀ stages state,
    (device.link stages state).1 = (compiler.link stages).mapError LinkError.chain

namespace Compiler

/-- The description of a shader is right, and the shader compiles to the stage. -/
def Makes (value : Json) (stage : CompiledStage Module) : Prop :=
  ∃ descriptor, ShaderDescriptor.ofJson value base = .ok descriptor ∧
    compiler.compile tree descriptor.stageType descriptor.source sources = .ok stage

/-- Every description of a shader is right, every shader compiles, and the stages form a program. -/
def IsClean (program : ProgramDescriptor) : Prop :=
  ∃ stages, List.Forall₂ (compiler.Makes tree sources base) program.shaders stages ∧
    FormProgram compiler.frontend stages

variable {compiler tree sources base}

/-- A stage has the type that it is compiled as, which is one that the front end reads. -/
theorem of_compile_eq_ok {stageType : StageType} {source : ShaderSource}
    {stage : CompiledStage Module}
    (compiled : compiler.compile tree stageType source sources = .ok stage) :
    stage.stageType = stageType ∧ stageType.kind?.isSome := by
  unfold Compiler.compile at compiled
  cases kind : stageType.kind? with
  | none =>
    rw [kind] at compiled
    cases compiled
  | some _ =>
    rw [kind] at compiled
    obtain ⟨_, _, compiled⟩ := bind_eq_ok_iff.mp compiled
    obtain ⟨_, _, compiled⟩ := bind_eq_ok_iff.mp compiled
    obtain ⟨_, _, compiled⟩ := bind_eq_ok_iff.mp compiled
    obtain rfl := Except.ok.inj compiled
    exact ⟨rfl, rfl⟩

/-- A stage has the type that its description asks for. -/
theorem Makes.stageType? {value : Json} {stage : CompiledStage Module}
    (makes : compiler.Makes tree sources base value stage) :
    value.stageType? = some stage.stageType := by
  obtain ⟨descriptor, described, compiled⟩ := makes
  rw [ShaderDescriptor.stageType?_of_ofJson described, (of_compile_eq_ok compiled).1]

/-- A stage that is made has a type that the front end reads. -/
theorem Makes.isSome_kind? {value : Json} {stage : CompiledStage Module}
    (makes : compiler.Makes tree sources base value stage) : stage.stageType.kind?.isSome := by
  obtain ⟨descriptor, _, compiled⟩ := makes
  obtain ⟨sameType, readable⟩ := of_compile_eq_ok compiled
  rw [sameType]
  exact readable

/-- All stages that are made have types that the front end reads. -/
theorem isSome_kind?_of_makes {values : List Json} {stages : List (CompiledStage Module)}
    (made : List.Forall₂ (compiler.Makes tree sources base) values stages) :
    ∀ stage ∈ stages, stage.stageType.kind?.isSome := by
  induction made with
  | nil => simp
  | cons makes _ inductionStep => exact List.forall_mem_cons.mpr ⟨makes.isSome_kind?, inductionStep⟩

/-- The stages have the types that the descriptions ask for, in the same order. -/
theorem filterMap_stageType?_of_makes {values : List Json} {stages : List (CompiledStage Module)}
    (made : List.Forall₂ (compiler.Makes tree sources base) values stages) :
    values.filterMap Json.stageType? = stages.map CompiledStage.stageType := by
  induction made with
  | nil => rfl
  | cons makes _ inductionStep =>
    rw [List.filterMap_cons_some makes.stageType?, List.map_cons, inductionStep]

end Compiler

namespace Builder

variable {compiler tree sources base} {device : Device State (CompiledStage Module)}

/-- One shader is built to a stage if the stage is made of it. -/
theorem buildStage_eq_ok_iff (works : device.WorksAs compiler tree) {value : Json}
    {state : BuildState State} {stage : CompiledStage Module} :
    (buildStage ⟨device, sources, base⟩ value state).1 = .ok stage ↔
      compiler.Makes tree sources base value stage := by
  unfold buildStage Compiler.Makes
  dsimp only
  cases ShaderDescriptor.ofJson value base with
  | error error => simp
  | ok descriptor =>
    have compiled := works.compile descriptor.stageType descriptor.source sources state.device
    simp only [Except.ok.injEq, exists_eq_left']
    generalize device.compile _ _ _ _ = outcome at compiled ⊢
    obtain ⟨result, after⟩ := outcome
    obtain rfl := compiled
    cases compiler.compile tree descriptor.stageType descriptor.source sources <;>
      simp [Except.mapError]

/-- **The stages that shaders are built to**, by induction on the shaders. -/
theorem buildStages_eq_ok_iff (works : device.WorksAs compiler tree) {values : List Json}
    {state : BuildState State} {stages : List (CompiledStage Module)} :
    (buildStages ⟨device, sources, base⟩ values state).1 = .ok stages ↔
      List.Forall₂ (compiler.Makes tree sources base) values stages := by
  induction values generalizing state stages with
  | nil => simp [buildStages, eq_comm]
  | cons value rest inductionStep =>
    rw [buildStages_cons_eq_ok_iff, List.forall₂_cons_left_iff]
    simp only [buildStage_eq_ok_iff works, inductionStep]

/-- A program is built if its shaders are built to stages that can be linked. -/
theorem buildProgram_iff_link (works : device.WorksAs compiler tree) {program : ProgramDescriptor}
    {state : BuildState State} :
    (buildProgram ⟨device, sources, base⟩ program state).1 = true ↔
      ∃ stages, List.Forall₂ (compiler.Makes tree sources base) program.shaders stages ∧
        compiler.link stages = .ok () := by
  have made : ∀ stages, (buildStages ⟨device, sources, base⟩ program.shaders
      (state.record .info s!"Process {program.name}")).1 = .ok stages ↔
        List.Forall₂ (compiler.Makes tree sources base) program.shaders stages :=
    fun _ => buildStages_eq_ok_iff works
  simp only [← made]
  unfold buildProgram
  generalize buildStages _ program.shaders (state.record _ _) = outcome
  obtain ⟨result, between⟩ := outcome
  cases result with
  | error error => simp
  | ok stages =>
    have linked := works.link stages between.device
    dsimp only [BuildState.record]
    simp only [Except.ok.injEq, exists_eq_left']
    generalize device.link stages between.device = outcome at linked ⊢
    obtain ⟨result, after⟩ := outcome
    obtain rfl := linked
    cases compiler.link stages <;> simp [Except.mapError]

/-- **The programs that are built** are the clean ones: their shaders compile to a compute stage, a
vertex stage, or a vertex stage and a fragment stage that it feeds. A program that asks for a stage
which the front end does not read, for two stages of one type or for a compute stage beside others is
listed as not built. -/
theorem buildProgram_iff_isClean (works : device.WorksAs compiler tree)
    (program : ProgramDescriptor) (state : BuildState State) :
    let outcome := buildProgram ⟨device, sources, base⟩ program state
    let types := program.shaders.filterMap Json.stageType?
    (outcome.1 = true ↔ compiler.IsClean tree sources base program) ∧
    (.tessControl ∈ types ∨ .tessEvaluation ∈ types ∨ .geometry ∈ types ∨ ¬ types.Nodup ∨
        .compute ∈ types ∧ (∃ stageType ∈ types, stageType.isGraphics) →
      outcome.1 = false ∧
        outcome.2.report.linkFailures = state.report.linkFailures ++ [program.name]) := by
  intro outcome types
  have clean : outcome.1 = true ↔ compiler.IsClean tree sources base program := by
    rw [buildProgram_iff_link works]
    refine exists_congr fun stages => and_congr_right fun made => ?_
    exact link_eq_ok_iff_formProgram compiler (isSome_kind?_of_makes made)
  refine ⟨clean, fun mixed => ?_⟩
  have unbuilt : outcome.1 = false := by
    rw [← Bool.not_eq_true, clean]
    rintro ⟨stages, made, forms⟩
    -- The types that are asked for are those of the stages, and no set of a program is a mixed one.
    rw [FormProgram, ← filterMap_stageType?_of_makes made] at forms
    rcases forms with perm | perm | ⟨perm, _⟩ <;>
      · simp only [types, perm.mem_iff, perm.nodup_iff] at mixed
        revert mixed
        decide
  refine ⟨unbuilt, ?_⟩
  rw [linkFailures_buildProgram, if_neg (by simpa using unbuilt)]

end Builder

end Compilation

/-- The description of a shader, with no more than it needs. -/
def shaderSample (file type : String) : Json :=
  .object [("file", .string file), ("type", .string type)]

/-- A directory with a vertex shader and a fragment shader that reads what the vertex shader writes. -/
def pairTree : FileTree where
  nodes := [
    ([⟨Text.bytes "v", by decide⟩],
      .file "layout(location=1) out float c;void main()\x7bgl_Position=vec4(c);\x7d".toUTF8),
    ([⟨Text.bytes "f", by decide⟩], .file "layout(location=1) in float c;void main()\x7b\x7d".toUTF8)]
  workingDirectory := []

/-- The two shaders are a clean program, the fragment shader first; with a tessellation shader beside
the vertex shader the program is listed. -/
theorem pairTree_isClean :
    let compiler : Compiler Glsl.Module := ⟨Glsl.frontend, 450⟩
    let device := compiler.device pairTree ⟨"", ""⟩
    let start : BuildState Unit := ⟨(), ⟨⟨"", ""⟩, [], []⟩, []⟩
    let vertex := shaderSample "v" "GL_VERTEX_SHADER"
    device.WorksAs compiler pairTree ∧
    compiler.IsClean pairTree ∅ (.ofText "") ⟨"pair", [shaderSample "f" "GL_FRAGMENT_SHADER", vertex]⟩ ∧
    (Builder.buildProgram ⟨device, ∅, .ofText ""⟩
      ⟨"tess", [vertex, shaderSample "v" "GL_TESS_CONTROL_SHADER"]⟩ start).2.report.linkFailures =
        ["tess"] := by
  intro compiler device start vertex
  have works : device.WorksAs compiler pairTree := ⟨fun _ _ _ _ => rfl, fun _ _ => rfl⟩
  refine ⟨works, (Builder.buildProgram_iff_isClean works _ start).1.mp ?_,
    ((Builder.buildProgram_iff_isClean works _ start).2 (.inl ?_)).2⟩
  · decide +kernel
  · decide

end ShaderCheck
