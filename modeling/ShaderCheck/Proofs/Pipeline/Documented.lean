/-
**What a run reads of its configuration.**

A run reads the documented members of the objects in its configuration and no other. Extensions are a
set to it, and the name of a shader goes to the log and nowhere else. So configurations with the same
documented members give the same result, context, named sources and final device, by the same calls.

* `Json.SameMembers`, `Json.SameArray`: values that are the same as far as they are documented;
* `Json.SameConfig`: configurations with the same documented members, down to the shaders;
* `Builder.agreement_unlogged`: what is built is not up to the log;
* `Run.SameButLog`: runs that are the same but for their records;
* `Pipeline.run_documented`: configurations with the same documented members.
-/

import ShaderCheck.FileTree
import ShaderCheck.Proofs.Pipeline.Protocol
import ShaderCheck.Proofs.Table

namespace ShaderCheck

theorem rel_imp {α β : Type} {Same Similar : α → β → Prop} {found : Option α} {other : Option β}
    (weaker : ∀ {thing otherThing}, Same thing otherThing → Similar thing otherThing)
    (same : Option.Rel Same found other) : Option.Rel Similar found other := by
  cases same with
  | none => exact .none
  | some same => exact .some (weaker same)

namespace Json

/-! ### Documented members -/

/-- Both values are objects or neither is one, and of each documented member they have none, or two
that are related as given. -/
structure SameMembers (documented : List (String × (Json → Json → Prop))) (value other : Json) :
    Prop where
  object : value.asObject?.isSome = other.asObject?.isSome
  members : ∀ member ∈ documented,
    Option.Rel member.2 (value.field? member.1) (other.field? member.1)

/-- Both values are arrays, of related items, or neither is one. -/
def SameArray (Same : List Json → List Json → Prop) (value other : Json) : Prop :=
  Option.Rel Same value.asArray? other.asArray?

/-- The items are the same, in any order and number. -/
def SameSet (items others : List Json) : Prop :=
  ∀ item, item ∈ items ↔ item ∈ others

-- What is documented of the parts of a configuration.

def SameContext : Json → Json → Prop :=
  SameMembers [("version", Eq), ("profile", Eq), ("fallbackAdapter", Eq)]

def SameFolder : Json → Json → Prop :=
  SameMembers [("path", Eq), ("extensions", SameArray SameSet), ("alias", Eq)]

/-- The same shader, whatever its name. -/
def SameShader : Json → Json → Prop :=
  SameMembers [("file", Eq), ("type", Eq), ("replacements", Eq)]

def SameProgram : Json → Json → Prop :=
  SameMembers [("name", Eq), ("shaders", SameArray (List.Forall₂ SameShader))]

/-- The same configuration, as far as it is documented. -/
def SameConfig : Json → Json → Prop :=
  SameMembers [("opengl", SameContext), ("namedStringPaths", SameArray (List.Forall₂ SameFolder)),
    ("programs", SameArray (List.Forall₂ SameProgram))]

namespace SameMembers

variable {documented : List (String × (Json → Json → Prop))} {value other : Json} {key : String}
  {Same : List Json → List Json → Prop}

theorem of_nil (object : value.asObject?.isSome = other.asObject?.isSome) :
    SameMembers [] value other :=
  ⟨object, nofun⟩

theorem of_cons {Related : Json → Json → Prop}
    (first : Option.Rel Related (value.field? key) (other.field? key))
    (rest : SameMembers documented value other) : SameMembers ((key, Related) :: documented) value other :=
  ⟨rest.object, List.forall_mem_cons.mpr ⟨first, rest.members⟩⟩

theorem of_eq (equal : value.field? key = other.field? key)
    (rest : SameMembers documented value other) : SameMembers ((key, Eq) :: documented) value other := by
  refine of_cons ?_ rest
  rw [equal]
  cases other.field? key with
  | none => exact .none
  | some found => exact .some rfl

theorem field?_eq (same : SameMembers documented value other) (member : (key, Eq) ∈ documented) :
    value.field? key = other.field? key := by
  have related := same.members _ member
  dsimp only at related
  generalize value.field? key = found at related ⊢
  generalize other.field? key = otherFound at related ⊢
  cases related with
  | none => rfl
  | some equal => rw [equal]

theorem requireObject_eq (same : SameMembers documented value other) (key : String) :
    value.requireObject key = other.requireObject key := by
  have object := same.object
  unfold Json.requireObject
  cases asObject : value.asObject? <;> cases otherAsObject : other.asObject? <;>
    simp_all

theorem requiredText_eq (same : SameMembers documented value other)
    (member : (key, Eq) ∈ documented) : value.requiredText key = other.requiredText key := by
  rw [Json.requiredText, Json.requiredText, same.field?_eq member]

theorem array (same : SameMembers documented value other)
    (member : (key, SameArray Same) ∈ documented) :
    Option.Rel Same ((value.field? key).bind asArray?) ((other.field? key).bind asArray?) := by
  have related := same.members _ member
  dsimp only at related
  generalize value.field? key = found at related ⊢
  generalize other.field? key = otherFound at related ⊢
  cases related with
  | none => exact .none
  | some sameArray => exact sameArray

theorem nonemptyArray (same : SameMembers documented value other)
    (member : (key, SameArray Same) ∈ documented)
    (empty : ∀ {items others}, Same items others → (items = [] ↔ others = [])) :
    SameReading Same (value.nonemptyArray key) (other.nonemptyArray key) := by
  have related := same.array member
  unfold Json.nonemptyArray
  generalize (value.field? key).bind asArray? = found at related ⊢
  generalize (other.field? key).bind asArray? = otherFound at related ⊢
  cases related with
  | none => exact .error _
  | some sameItems =>
    rename_i items others
    have both := empty sameItems
    cases items with
    | nil =>
      rw [both.mp rfl]
      exact .error _
    | cons item rest =>
      cases others with
      | nil => cases both.mpr rfl
      | cons otherItem otherRest => exact .ok sameItems

end SameMembers

/-! ### Reading the parts -/

section Reading

variable {value other : Json} (base : Path)

theorem SameContext.ofJson_eq (same : SameContext value other) :
    ContextConfig.ofJson value = ContextConfig.ofJson other := by
  have version : value.field? "version" = other.field? "version" := same.field?_eq (by simp)
  have profile : value.field? "profile" = other.field? "profile" := same.field?_eq (by simp)
  have adapter : value.field? "fallbackAdapter" = other.field? "fallbackAdapter" :=
    same.field?_eq (by simp)
  simp only [ContextConfig.ofJson, ContextConfig.property, version, profile, adapter]

/-- Reading every item of a list, if each of them can be read. -/
theorem mapM_eq_ite {α β : Type} (read : α → Option β) (items : List α) :
    items.mapM read =
      if ∀ item ∈ items, (read item).isSome then some (items.filterMap read) else none := by
  induction items with
  | nil => rfl
  | cons item rest inductionStep =>
    rw [List.mapM_cons, inductionStep]
    cases found : read item with
    | none => simp [found]
    | some value =>
      by_cases readable : ∀ item ∈ rest, (read item).isSome
      · have all : ∀ other ∈ item :: rest, (read other).isSome :=
          List.forall_mem_cons.mpr ⟨Option.isSome_of_eq_some found, readable⟩
        rw [if_pos readable, if_pos all, List.filterMap_cons_some found]
        rfl
      · rw [if_neg readable, if_neg fun all => readable (List.forall_mem_cons.mp all).2]
        rfl

/-- Of items in another order or number, the same set of texts is read, if all of them are texts. -/
theorem SameSet.map_ofList_mapM {items others : List Json} (same : SameSet items others) :
    (items.mapM asText?).map Ordered.ofList = (others.mapM asText?).map Ordered.ofList := by
  have readable : (∀ item ∈ items, item.asText?.isSome) ↔ ∀ item ∈ others, item.asText?.isSome :=
    forall_congr' fun item => imp_congr_left (same item)
  have texts : Ordered.ofList (items.filterMap asText?) = Ordered.ofList (others.filterMap asText?) := by
    refine Ordered.ofList_congr fun text => ?_
    simp only [List.mem_filterMap, same _]
  rw [mapM_eq_ite, mapM_eq_ite]
  by_cases all : ∀ item ∈ items, item.asText?.isSome
  · rw [if_pos all, if_pos (readable.mp all), Option.map_some, Option.map_some, texts]
  · rw [if_neg all, if_neg (readable.not.mp all)]

theorem SameFolder.ofJson_eq (same : SameFolder value other) :
    SourceFolder.ofJson value base = SourceFolder.ofJson other base := by
  have path : value.requiredText "path" = other.requiredText "path" :=
    same.requiredText_eq (by simp)
  have aliased : value.field? "alias" = other.field? "alias" := same.field?_eq (by simp)
  have extensions : SameReading SameSet (value.nonemptyArray "extensions")
      (other.nonemptyArray "extensions") := by
    refine same.nonemptyArray (by simp) fun sameItems => ?_
    rw [List.eq_nil_iff_forall_not_mem, List.eq_nil_iff_forall_not_mem]
    exact forall_congr' fun item => not_congr (sameItems item)
  unfold SourceFolder.ofJson
  rw [same.requireObject_eq, path, aliased]
  generalize value.nonemptyArray "extensions" = found at extensions ⊢
  generalize other.nonemptyArray "extensions" = otherFound at extensions ⊢
  cases other.requireObject "namedStringPaths" with
  | error error => rfl
  | ok isObject =>
    cases other.requiredText "path" with
    | error error => rfl
    | ok path =>
      cases extensions with
      | error error => rfl
      | ok sameItems =>
        rename_i items others
        have read := sameItems.map_ofList_mapM
        dsimp only [bind, Except.bind]
        cases texts : items.mapM asText? <;> cases otherTexts : others.mapM asText? <;>
          simp_all

/-- The same shader is read, but for its name. -/
theorem SameShader.ofJson (same : SameShader value other) :
    SameReading (fun shader otherShader => ∃ name, shader = { otherShader with name })
      (ShaderDescriptor.ofJson value base) (ShaderDescriptor.ofJson other base) := by
  have file : value.requiredText "file" = other.requiredText "file" :=
    same.requiredText_eq (by simp)
  have token : value.requiredText "type" = other.requiredText "type" :=
    same.requiredText_eq (by simp)
  have replacements : value.field? "replacements" = other.field? "replacements" :=
    same.field?_eq (by simp)
  unfold ShaderDescriptor.ofJson
  rw [same.requireObject_eq, file, token, replacements]
  cases other.requireObject "shaders" with
  | error error => exact .error error
  | ok isObject =>
    cases other.requiredText "file" with
    | error error => exact .error error
    | ok file =>
      cases other.requiredText "type" with
      | error error => exact .error error
      | ok token =>
        dsimp only [bind, Except.bind]
        cases StageType.ofToken? token with
        | none => exact .error _
        | some stageType =>
          cases other.field? "replacements" with
          | none => exact .ok ⟨_, rfl⟩
          | some found =>
            cases found with
            | object members =>
              dsimp only [pure, Except.pure]
              cases ShaderDescriptor.replacementsOf members with
              | error error => exact .error error
              | ok replacements => exact .ok ⟨_, rfl⟩
            | _ => exact .error _

theorem SameProgram.ofJson (same : SameProgram value other) :
    SameReading (fun program otherProgram => program.name = otherProgram.name ∧
        List.Forall₂ SameShader program.shaders otherProgram.shaders)
      (ProgramDescriptor.ofJson value) (ProgramDescriptor.ofJson other) := by
  have name : value.requiredText "name" = other.requiredText "name" :=
    same.requiredText_eq (by simp)
  have shaders : SameReading (List.Forall₂ SameShader) (value.nonemptyArray "shaders")
      (other.nonemptyArray "shaders") := by
    refine same.nonemptyArray (by simp) fun sameShaders => ?_
    rw [← List.length_eq_zero_iff, sameShaders.length_eq, List.length_eq_zero_iff]
  unfold ProgramDescriptor.ofJson
  rw [same.requireObject_eq, name]
  generalize value.nonemptyArray "shaders" = found at shaders ⊢
  generalize other.nonemptyArray "shaders" = otherFound at shaders ⊢
  cases other.requireObject "programs" with
  | error error => exact .error error
  | ok isObject =>
    cases other.requiredText "name" with
    | error error => exact .error error
    | ok name =>
      cases shaders with
      | error error => exact .error error
      | ok sameShaders => exact .ok ⟨rfl, sameShaders⟩

end Reading

end Json

variable {State Stage : Type}

/-! ### Building -/

/-- States of building that are the same but for the log. -/
def BuildState.SameButLog (state other : BuildState State) : Prop :=
  state.device = other.device ∧ state.report = other.report

namespace Builder

/-- **What is built** is not up to the log. -/
theorem agreement_unlogged (builder : Builder State Stage) :
    Agreement builder builder BuildState.SameButLog where
  base := rfl
  log _ same := same
  failCompile := by
    rintro state other file ⟨device, report⟩
    exact ⟨device, by rw [BuildState.failCompile, BuildState.failCompile, report]⟩
  failProgram := by
    rintro state other name reason ⟨device, report⟩
    refine ⟨device, ?_⟩
    simp only [BuildState.failProgram, BuildState.record, report]
  compile := by
    rintro state other stageType source ⟨device, report⟩
    rw [device]
    exact ⟨rfl, rfl, report⟩
  link := by
    rintro state other stages ⟨device, report⟩
    rw [device]
    exact ⟨rfl, rfl, report⟩

/-- A name makes no difference to what is built. -/
theorem agreeOnShader_of_sameShader (builder : Builder State Stage) {value other : Json}
    (same : Json.SameShader value other) :
    AgreeOnShader builder builder BuildState.SameButLog value other :=
  (same.ofJson builder.base).imp fun renamed => by
    obtain ⟨name, rfl⟩ := renamed
    exact ⟨rfl, rfl, rfl, id⟩

theorem agreeOnProgram_of_sameProgram (builder : Builder State Stage) {value other : Json}
    (same : Json.SameProgram value other) :
    AgreeOnProgram builder builder BuildState.SameButLog value other :=
  same.ofJson.imp fun sameParts =>
    ⟨sameParts.1, sameParts.2.imp fun _ _ => builder.agreeOnShader_of_sameShader⟩

end Builder

/-! ### Running -/

theorem registerEach_eq_of_sameFolder {values others : List Json}
    (same : List.Forall₂ Json.SameFolder values others) (tree : FileTree) (base : Path)
    (sources : NamedSources) :
    registerEach tree base sources values = registerEach tree base sources others := by
  induction same generalizing sources with
  | nil => rfl
  | cons first _ inductionStep =>
    simp only [registerEach, first.ofJson_eq, inductionStep]

/-- Runs that are the same but for their records. -/
structure Run.SameButLog (run other : Run State) : Prop where
  result : run.result = other.result
  context : run.context = other.context
  device : run.device = other.device
  pipeline : run.pipeline = other.pipeline

namespace Pipeline

variable {config other : Json}

theorem contextOf_eq_of_sameConfig (same : Json.SameConfig config other) :
    contextOf config = contextOf other := by
  have sections : Option.Rel Json.SameContext (config.field? "opengl") (other.field? "opengl") :=
    same.members ("opengl", _) (.head _)
  unfold contextOf
  generalize config.field? "opengl" = found at sections ⊢
  generalize other.field? "opengl" = otherFound at sections ⊢
  cases sections with
  | none => rfl
  | some sameContext =>
    rename_i value otherValue
    have object := sameContext.object
    have context := sameContext.ofJson_eq
    -- Both values are objects, or there is no section in either configuration.
    cases value <;> cases otherValue <;> first | rfl | exact context | cases object

theorem registerSection_eq_of_sameConfig (same : Json.SameConfig config other)
    (pipeline : Pipeline) (tree : FileTree) :
    pipeline.registerSection tree config = pipeline.registerSection tree other := by
  have sections : Option.Rel (Json.SameArray (List.Forall₂ Json.SameFolder))
      (config.field? "namedStringPaths") (other.field? "namedStringPaths") :=
    same.members ("namedStringPaths", _) (.tail _ (.head _))
  unfold registerSection
  generalize config.field? "namedStringPaths" = found at sections ⊢
  generalize other.field? "namedStringPaths" = otherFound at sections ⊢
  cases sections with
  | none => rfl
  | some sameArray =>
    rename_i value otherValue
    unfold Json.SameArray at sameArray
    -- Unless both values are arrays, both are passed over.
    cases value <;> cases otherValue <;> first | rfl | cases sameArray
    rename_i folders
    simp only [registerFolders, registerEach_eq_of_sameFolder folders]

variable (pipeline : Pipeline) (tree : FileTree) (device : Device State Stage)
  (create : ContextConfig → Creation State)

/-- On an activated device, the same is registered and built. -/
theorem runActive_sameButLog (same : Json.SameConfig config other) (state : State) :
    let active := pipeline.runActive tree device config state
    let otherActive := pipeline.runActive tree device other state
    active.1 = otherActive.1 ∧ active.2.1.SameButLog otherActive.2.1 ∧
      active.2.2 = otherActive.2.2 := by
  have sameRegistration := registerSection_eq_of_sameConfig same pipeline tree
  have sameAfter : pipeline.afterRegistration tree config = pipeline.afterRegistration tree other := by
    rw [afterRegistration, afterRegistration, sameRegistration]
  have sameBefore : pipeline.beforeBuilding tree device config state =
      pipeline.beforeBuilding tree device other state := by
    rw [beforeBuilding, beforeBuilding, sameRegistration]
  have sameBuilder : pipeline.builderOf tree device config = pipeline.builderOf tree device other := by
    rw [builderOf, builderOf, sameRegistration]
  cases registered : (pipeline.registerSection tree other).result with
  | error error =>
    rw [runActive_of_rejected registered,
      runActive_of_rejected ((congrArg Registration.result sameRegistration).trans registered)]
    exact ⟨rfl, ⟨congrArg _ sameBefore, congrArg _ sameBefore⟩, sameAfter⟩
  | ok names =>
    rw [runActive_of_registered registered,
      runActive_of_registered ((congrArg Registration.result sameRegistration).trans registered),
      sameAfter, sameBefore, sameBuilder]
    have programs : Option.Rel (List.Forall₂ Json.SameProgram)
        ((config.field? "programs").bind Json.asArray?)
        ((other.field? "programs").bind Json.asArray?) :=
      same.array (by simp)
    have agree := (pipeline.builderOf tree device other).agreement_unlogged
    obtain ⟨result, built⟩ := buildSection_sameOutcome config agree
      (rel_imp (fun samePrograms => samePrograms.imp fun _ _ =>
        (pipeline.builderOf tree device other).agreeOnProgram_of_sameProgram) programs)
      (show (pipeline.beforeBuilding tree device other state).SameButLog _ from ⟨rfl, rfl⟩)
    dsimp only
    rw [result, built.2]
    exact ⟨rfl, built, rfl⟩

/-- Configurations with the same documented members give runs that are the same but for their
records, for each way a run goes. -/
theorem run_sameButLog (same : Json.SameConfig config other) :
    (pipeline.run tree device create config).SameButLog
      (pipeline.run tree device create other) := by
  have context := contextOf_eq_of_sameConfig same
  cases asked : contextOf other with
  | error error =>
    rw [run_of_rejected asked, run_of_rejected (context.trans asked)]
    exact ⟨rfl, rfl, rfl, rfl⟩
  | ok asking =>
    have alsoAsked := context.trans asked
    cases made : (create asking).result with
    | error error =>
      rw [run_of_uncreated asked made, run_of_uncreated alsoAsked made]
      exact ⟨rfl, rfl, rfl, rfl⟩
    | ok created =>
      cases activated : device.activate created with
      | mk ready state =>
        cases ready with
        | false =>
          rw [run_of_refused asked made activated, run_of_refused alsoAsked made activated]
          exact ⟨rfl, rfl, rfl, rfl⟩
        | true =>
          rw [run_of_activated asked made activated, run_of_activated alsoAsked made activated]
          obtain ⟨result, ⟨sameDevice, _⟩, after⟩ :=
            pipeline.runActive_sameButLog tree device same state
          exact ⟨result, rfl, congrArg (some ∘ device.deactivate) sameDevice, after⟩

/-- **A run reads the documented members** of its configuration and no others. Between configurations
that have the same ones, the result of a run, the context that is asked for, the final device, the
pipeline with its named sources and the calls of the device are the same. -/
theorem run_documented (same : Json.SameConfig config other) :
    let run := pipeline.run tree device create config
    let otherRun := pipeline.run tree device create other
    run.result = otherRun.result ∧ run.context = otherRun.context ∧ run.device = otherRun.device ∧
      run.pipeline = otherRun.pipeline ∧
      pipeline.calls tree device create config = pipeline.calls tree device create other := by
  have runs := pipeline.run_sameButLog tree device create same
  have traced : (pipeline.tracedRun tree device create config).SameButLog
      (pipeline.tracedRun tree device create other) :=
    pipeline.run_sameButLog tree device.traced (fun context => (create context).traced) same
  refine ⟨runs.result, runs.context, runs.device, runs.pipeline, ?_⟩
  rw [calls, calls, traced.device]

end Pipeline

/-- One folder and one program. -/
def plainConfig : Json :=
  .object [("namedStringPaths", .array [.object
      [("extensions", .array [.string "frag", .string "glsl"]), ("path", .string "lib")]]),
    ("opengl", .object [("version", .string "4.5")]),
    ("programs", .array [.object [("name", .string "a"), ("shaders", .array [.object
      [("file", .string "a.frag"), ("type", .string "GL_FRAGMENT_SHADER")]])]])]

/-- The same with a name for the shader, the extensions in another order and number, and other members
in every object. -/
def annotatedConfig : Json :=
  .object [("$schema", .string "shaders"), ("namedStringPaths", .array [.object
      [("extensions", .array [.string "glsl", .string "frag", .string "glsl"]),
        ("path", .string "lib"), ("recursive", .bool true)]]),
    ("opengl", .object [("debug", .null), ("version", .string "4.5")]),
    ("programs", .array [.object [("comment", .null), ("name", .string "a"), ("shaders", .array
      [.object [("file", .string "a.frag"), ("name", .string "main"), ("optimize", .bool false),
        ("type", .string "GL_FRAGMENT_SHADER")]])]])]

/-- A folder with one file. -/
def libTree : FileTree :=
  FileTree.empty []
    |>.write (.ofText "lib/a.glsl") "float a;".toUTF8

/-- A device that takes everything. -/
def acceptingDevice : Device Unit Unit where
  activate _ := (true, ())
  deactivate _ := ()
  driverInfo _ := ⟨"Mesa", "llvmpipe"⟩
  compile _ _ _ _ := (.ok (), ())
  link _ _ := (.ok (), ())

/-- The configurations run the same. -/
theorem annotatedConfig_documented :
    let run := Pipeline.run (.start (.ofText "")) libTree acceptingDevice (fun _ => ⟨.ok (), []⟩)
    Json.SameConfig plainConfig annotatedConfig ∧
      (run annotatedConfig).result = .ok ⟨⟨"Mesa", "llvmpipe"⟩, [], []⟩ ∧
      (run annotatedConfig).pipeline.sources.keys = ["lib/a.glsl"] := by
  intro run
  have sameExtensions : Json.SameSet [.string "frag", .string "glsl"]
      [.string "glsl", .string "frag", .string "glsl"] := by
    intro item
    simp only [List.mem_cons, List.not_mem_nil, or_false]
    grind
  have same : Json.SameConfig plainConfig annotatedConfig := by
    refine .of_cons (.some ?context) <| .of_cons (.some (.some (.cons ?folder .nil))) <|
      .of_cons (.some (.some (.cons ?program .nil))) <| .of_nil rfl
    case context => exact .of_eq rfl <| .of_eq rfl <| .of_eq rfl <| .of_nil rfl
    case folder =>
      exact .of_eq rfl <| .of_cons (.some (.some sameExtensions)) <| .of_eq rfl <| .of_nil rfl
    case program =>
      refine .of_eq rfl <| .of_cons (.some (.some (.cons ?shader .nil))) <| .of_nil rfl
      case shader => exact .of_eq rfl <| .of_eq rfl <| .of_eq rfl <| .of_nil rfl
  obtain ⟨result, _, _, after, _⟩ := Pipeline.run_documented (.start (.ofText "")) libTree acceptingDevice
    (fun _ => ⟨.ok (), []⟩) same
  refine ⟨same, ?_, ?_⟩
  · exact result.symm.trans (by decide +kernel)
  · rw [← after]
    decide +kernel

end ShaderCheck
