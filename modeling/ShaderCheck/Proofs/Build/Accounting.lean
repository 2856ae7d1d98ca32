/-
**Accounting for a program.**

The shaders of a program are compiled in order, each on the device as the ones before it leave it. The
course that this takes ends at the first shader that is described wrongly or does not compile, or with
linking if there is none. All that building a program adds to the calls, the report and the log is
settled by that course:

* `Compiles`: shaders that compile, one after the other;
* `Takes`: the course that building a program takes;
* `exists_takes`, `buildProgram_of_takes`: there is one, and it says what building leaves behind;
* `buildProgram_accounted`: the result, both lists of failures, the calls and the log, side by side.
-/

import ShaderCheck.Build
import ShaderCheck.Device

namespace ShaderCheck

variable {State Stage : Type}

/-! ### The course of a program -/

/-- The device compiles what the values describe, one after the other, each in the state that the ones
before it leave. Listed are the descriptions with their stages, and the state in the end. -/
inductive Compiles (device : Device State Stage) (sources : NamedSources) (base : Path) :
    State → List Json → List (ShaderDescriptor × Stage) → State → Prop
  | nothing (state : State) : Compiles device sources base state [] [] state
  | next {state between final : State} {value : Json} {rest : List Json}
    {shader : ShaderDescriptor} {stage : Stage} {others : List (ShaderDescriptor × Stage)}
    (described : ShaderDescriptor.ofJson value base = .ok shader)
    (compiled : device.compile shader.stageType shader.source sources state =
      (.ok stage, between))
    (later : Compiles device sources base between rest others final) :
    Compiles device sources base state (value :: rest) ((shader, stage) :: others) final

/-- How building a program ends. -/
inductive Ending
  /-- At a shader that is described wrongly. -/
  | misdescribed (error : ConfigError)
  /-- At a shader that the device does not compile. -/
  | uncompiled (shader : ShaderDescriptor) (error : ErrorChain)
  /-- With linking. -/
  | linked (result : Except ErrorChain Unit)

/-- The shaders that are compiled, with their stages, how building ends after them, and the state that
it leaves the device in. -/
structure Course (State Stage : Type) where
  compiled : List (ShaderDescriptor × Stage)
  ending : Ending
  state : State

/-- How building ends on the device in this state, with these stages and these shaders to come. -/
inductive EndsWith (device : Device State Stage) (sources : NamedSources) (base : Path)
    (stages : List Stage) : State → List Json → Ending → State → Prop
  | misdescribed {state : State} {value : Json} {rest : List Json} {error : ConfigError}
    (wrong : ShaderDescriptor.ofJson value base = .error error) :
    EndsWith device sources base stages state (value :: rest) (.misdescribed error) state
  | uncompiled {state final : State} {value : Json} {rest : List Json} {shader : ShaderDescriptor}
    {error : ErrorChain} (described : ShaderDescriptor.ofJson value base = .ok shader)
    (failed : device.compile shader.stageType shader.source sources state = (.error error, final)) :
    EndsWith device sources base stages state (value :: rest) (.uncompiled shader error) final
  | linked {state final : State} {result : Except ErrorChain Unit}
    (linked : device.link stages state = (result, final)) :
    EndsWith device sources base stages state [] (.linked result) final

/-- Building a program of these shaders, on the device in this state, takes the course: shaders
compile up to the first one that fails, which ends it, and linking gets the stages of all if none
does. -/
inductive Takes (device : Device State Stage) (sources : NamedSources) (base : Path)
    (state : State) (shaders : List Json) : Course State Stage → Prop
  | course {before rest : List Json} {compiled : List (ShaderDescriptor × Stage)} {ending : Ending}
    {between final : State} (split : shaders = before ++ rest)
    (front : Compiles device sources base state before compiled between)
    (ends : EndsWith device sources base (compiled.map Prod.snd) between rest ending final) :
    Takes device sources base state shaders ⟨compiled, ending, final⟩

section Course

variable {device : Device State Stage} {sources : NamedSources} {base : Path} {state : State}

/-- The shader compiles on the device in this state. -/
def CompilesIn (device : Device State Stage) (sources : NamedSources) (base : Path) (state : State)
    (value : Json) : Prop :=
  ∃ shader stage final, ShaderDescriptor.ofJson value base = .ok shader ∧
    device.compile shader.stageType shader.source sources state = (.ok stage, final)

/-- Building ends at a shader that does not compile, or with linking if there is none. -/
theorem exists_endsWith_iff {stages : List Stage} {rest : List Json} :
    (∃ ending final, EndsWith device sources base stages state rest ending final) ↔
      ∀ value ∈ rest.head?, ¬ CompilesIn device sources base state value := by
  constructor
  · rintro ⟨ending, final, ends⟩ value first ⟨shader, stage, between, described, compiled⟩
    cases ends with
    | misdescribed wrong =>
      obtain rfl := Option.some.inj first
      rw [wrong] at described
      cases described
    | uncompiled otherwise failed =>
      obtain rfl := Option.some.inj first
      obtain rfl := Except.ok.inj (otherwise.symm.trans described)
      rw [failed] at compiled
      cases compiled
    | linked linked => cases first
  · intro stops
    cases rest with
    | nil => exact ⟨_, _, .linked rfl⟩
    | cons value rest =>
      cases described : ShaderDescriptor.ofJson value base with
      | error error => exact ⟨_, _, .misdescribed described⟩
      | ok shader =>
        rcases made : device.compile shader.stageType shader.source sources state with
          ⟨error | stage, final⟩
        · exact ⟨_, _, .uncompiled described made⟩
        · exact absurd ⟨shader, stage, final, described, made⟩ (stops value rfl)

/-- Shaders compile up to a first one that does not, if there is one. By induction on them: the others
are compiled on the device as the first one leaves it. -/
theorem exists_compiles (device : Device State Stage) (sources : NamedSources) (base : Path)
    (state : State) (shaders : List Json) :
    ∃ before rest compiled between, shaders = before ++ rest ∧
      Compiles device sources base state before compiled between ∧
      ∀ value ∈ rest.head?, ¬ CompilesIn device sources base between value := by
  induction shaders generalizing state with
  | nil => exact ⟨[], [], [], state, rfl, .nothing state, by simp⟩
  | cons value rest inductionStep =>
    by_cases compiles : CompilesIn device sources base state value
    · obtain ⟨shader, stage, between, described, compiled⟩ := compiles
      obtain ⟨before, behind, others, final, rfl, front, stops⟩ := inductionStep between
      exact ⟨value :: before, behind, _, final, rfl, .next described compiled front, stops⟩
    · refine ⟨[], value :: rest, [], state, rfl, .nothing state, fun first isFirst => ?_⟩
      obtain rfl := Option.some.inj isFirst
      exact compiles

theorem exists_takes (device : Device State Stage) (sources : NamedSources) (base : Path)
    (state : State) (shaders : List Json) :
    ∃ course, Takes device sources base state shaders course := by
  obtain ⟨before, rest, compiled, between, split, front, stops⟩ :=
    exists_compiles device sources base state shaders
  obtain ⟨ending, final, ends⟩ := exists_endsWith_iff.mpr stops
  exact ⟨_, .course split front ends⟩

/-- There is only one place up to which shaders compile. By induction on the one way, the other way is
the same step by step. -/
theorem Compiles.unique {before rest others otherRest : List Json} {between otherBetween : State}
    {compiled otherCompiled : List (ShaderDescriptor × Stage)}
    (front : Compiles device sources base state before compiled between)
    (otherFront : Compiles device sources base state others otherCompiled otherBetween)
    (same : before ++ rest = others ++ otherRest)
    (stops : ∀ value ∈ rest.head?, ¬ CompilesIn device sources base between value)
    (otherStops : ∀ value ∈ otherRest.head?, ¬ CompilesIn device sources base otherBetween value) :
    rest = otherRest ∧ compiled = otherCompiled ∧ between = otherBetween := by
  induction front generalizing others otherCompiled with
  | nothing state =>
    cases otherFront with
    | nothing => exact ⟨same, rfl, rfl⟩
    | next described compiled later =>
      rw [List.nil_append] at same
      exact absurd ⟨_, _, _, described, compiled⟩ (stops _ (same ▸ rfl))
  | next described compiled later inductionStep =>
    cases otherFront with
    | nothing =>
      rw [List.nil_append] at same
      exact absurd ⟨_, _, _, described, compiled⟩ (otherStops _ (same ▸ rfl))
    | next otherDescribed otherCompiled otherLater =>
      obtain ⟨rfl, sameRest⟩ := List.cons.inj same
      obtain rfl := Except.ok.inj (described.symm.trans otherDescribed)
      obtain ⟨sameStage, rfl⟩ := Prod.mk.inj (compiled.symm.trans otherCompiled)
      obtain rfl := Except.ok.inj sameStage
      obtain ⟨rfl, rfl, rfl⟩ := inductionStep otherLater sameRest stops
      exact ⟨rfl, rfl, rfl⟩

theorem EndsWith.unique {stages : List Stage} {rest : List Json} {ending other : Ending}
    {final otherFinal : State}
    (ends : EndsWith device sources base stages state rest ending final)
    (otherEnds : EndsWith device sources base stages state rest other otherFinal) :
    ending = other ∧ final = otherFinal := by
  cases ends <;> cases otherEnds <;> simp_all

/-- **A program takes one course.** -/
theorem Takes.unique {shaders : List Json} {course other : Course State Stage}
    (takes : Takes device sources base state shaders course)
    (otherTakes : Takes device sources base state shaders other) : course = other := by
  obtain ⟨split, front, ends⟩ := takes
  obtain ⟨otherSplit, otherFront, otherEnds⟩ := otherTakes
  obtain ⟨rfl, rfl, rfl⟩ := front.unique otherFront (split.symm.trans otherSplit)
    (exists_endsWith_iff.mp ⟨_, _, ends⟩) (exists_endsWith_iff.mp ⟨_, _, otherEnds⟩)
  obtain ⟨rfl, rfl⟩ := ends.unique otherEnds
  rfl

/-- When building ends with linking, all shaders compile. -/
theorem Takes.compiles {shaders : List Json} {course : Course State Stage}
    {result : Except ErrorChain Unit}
    (takes : Takes device sources base state shaders course)
    (ending : course.ending = .linked result) :
    ∃ between, Compiles device sources base state shaders course.compiled between := by
  obtain ⟨split, front, ends⟩ := takes
  dsimp only at ending
  subst ending
  cases ends with
  | linked linked => exact ⟨_, by rwa [split, List.append_nil]⟩

end Course

/-! ### What a course adds -/

/-- The call that compiles a shader, with what it gives. -/
def ShaderDescriptor.call (sources : NamedSources) (shader : ShaderDescriptor)
    (result : Except ErrorChain Stage) : DeviceCall Stage :=
  .compile shader.stageType shader.source sources result

namespace Ending

/-- Why the program is not built. -/
def reason? : Ending → Option String
  | .misdescribed error => some error.message
  | .uncompiled _ error => some error.text
  | .linked (.error error) => some error.text
  | .linked (.ok ()) => none

/-- The file that does not compile. -/
def files : Ending → List Path
  | .uncompiled shader _ => [shader.file]
  | .misdescribed _ | .linked _ => []

/-- The call that building ends with. -/
def calls (sources : NamedSources) (stages : List Stage) : Ending → List (DeviceCall Stage)
  | .misdescribed _ => []
  | .uncompiled shader error => [shader.call sources (.error error)]
  | .linked result => [.link stages result]

/-- What is told of that call before it is made. -/
def announcements (name : String) : Ending → List LogRecord
  | .misdescribed _ => []
  | .uncompiled shader _ => [shader.announcement]
  | .linked _ => [⟨.info, s!"Link {name}"⟩]

variable {ending : Ending}

theorem reason?_eq_none_iff : ending.reason? = none ↔ ending = .linked (.ok ()) := by
  rcases ending with _ | _ | ⟨_ | _⟩ <;> simp [reason?]

theorem files_eq_nil_iff :
    ending.files = [] ↔ ∀ shader error, ending ≠ .uncompiled shader error := by
  cases ending <;> simp [files]

theorem files_eq_singleton_iff {file : Path} :
    ending.files = [file] ↔
      ∃ shader error, ending = .uncompiled shader error ∧ file = shader.file := by
  cases ending <;> simp [files, eq_comm]

/-- A program that is built leaves no file behind. -/
theorem files_of_reason?_eq_none (built : ending.reason? = none) : ending.files = [] := by
  rw [reason?_eq_none_iff.mp built]
  rfl

end Ending

/-- No record of a shader tells of an error. -/
theorem ShaderDescriptor.level_announcement (shader : ShaderDescriptor) :
    shader.announcement.level = .info := by
  unfold announcement
  cases shader.name <;> rfl

namespace Course

/-- The calls of the course. -/
def calls (sources : NamedSources) (course : Course State Stage) : List (DeviceCall Stage) :=
  course.compiled.map (fun made => made.1.call sources (.ok made.2)) ++
    course.ending.calls sources (course.compiled.map Prod.snd)

/-- The record that tells why the program is not built. -/
def complaint (name : String) (course : Course State Stage) : List LogRecord :=
  (course.ending.reason?.map fun reason => ⟨.error, s!"{name}: {reason}"⟩).toList

/-- The records of the course. -/
def records (name : String) (course : Course State Stage) : List LogRecord :=
  ⟨.info, s!"Process {name}"⟩ :: course.compiled.map (fun made => made.1.announcement) ++
    course.ending.announcements name ++ course.complaint name

variable {course : Course State Stage} {sources : NamedSources} {name : String}

/-- A course links at its end or not at all. -/
theorem link_mem_calls_iff {stages : List Stage} {result : Except ErrorChain Unit} :
    .link stages result ∈ course.calls sources ↔
      course.ending = .linked result ∧ stages = course.compiled.map Prod.snd := by
  have never : ∀ made ∈ course.compiled,
      made.1.call sources (.ok made.2) ≠ DeviceCall.link stages result := by
    intro made _ same
    cases same
  rw [calls, List.mem_append, List.mem_map]
  constructor
  · rintro (⟨made, member, same⟩ | last)
    · exact absurd same (never made member)
    · cases ends : course.ending <;> simp_all [Ending.calls, ShaderDescriptor.call]
  · rintro ⟨ends, rfl⟩
    right
    simp [ends, Ending.calls]

/-- Of all records of a course only the last one can tell of an error. -/
theorem errors_records :
    (course.records name).filter (fun record => record.level = .error) = course.complaint name := by
  have shaders : (course.compiled.map fun made => made.1.announcement).filter
      (fun record => record.level = .error) = [] := by
    refine List.filter_eq_nil_iff.mpr fun record member => ?_
    obtain ⟨made, _, rfl⟩ := List.mem_map.mp member
    simp [made.1.level_announcement]
  have last : (course.ending.announcements name).filter
      (fun record => record.level = .error) = [] := by
    cases course.ending <;> simp [Ending.announcements, ShaderDescriptor.level_announcement]
  have complaint : (course.complaint name).filter (fun record => record.level = .error) =
      course.complaint name := by
    unfold complaint
    cases course.ending.reason? <;> simp
  simp [records, List.filter_append, shaders, last, complaint]

end Course

namespace BuildState

/-- The state after shaders that compile. -/
def compiling (start : BuildState (TracedState State Stage)) (sources : NamedSources)
    (compiled : List (ShaderDescriptor × Stage)) (between : State) :
    BuildState (TracedState State Stage) :=
  { start with
    device := ⟨between, start.device.calls ++
      compiled.map fun made => made.1.call sources (.ok made.2)⟩
    log := start.log ++ compiled.map fun made => made.1.announcement }

/-- The state after the whole course of a program. -/
def after (start : BuildState (TracedState State Stage)) (sources : NamedSources) (name : String)
    (course : Course State Stage) : BuildState (TracedState State Stage) where
  device := ⟨course.state, start.device.calls ++ course.calls sources⟩
  report :=
    { start.report with
      compileFailures := start.report.compileFailures ++ course.ending.files
      linkFailures := start.report.linkFailures ++
        if course.ending.reason? = none then [] else [name] }
  log := start.log ++ course.records name

end BuildState

theorem Device.traced_link {device : Device State Stage} {traced : TracedState State Stage}
    {stages : List Stage} {result : Except ErrorChain Unit} {final : State}
    (linked : device.link stages traced.state = (result, final)) :
    device.traced.link stages traced = (result, traced.after (.link stages result) final) := by
  simp [Device.traced, linked]

namespace Builder

variable {device : Device State Stage} {sources : NamedSources} {base : Path}

/-! ### What building leaves behind -/

section Building

variable {start : BuildState (TracedState State Stage)} {value : Json} {shader : ShaderDescriptor}
  {final : State}

theorem buildStage_of_compiled {stage : Stage}
    (described : ShaderDescriptor.ofJson value base = .ok shader)
    (compiled : device.compile shader.stageType shader.source sources start.device.state =
      (.ok stage, final)) :
    buildStage ⟨device.traced, sources, base⟩ value start =
      (.ok stage, start.compiling sources [(shader, stage)] final) := by
  simp [buildStage, described, Device.traced, compiled, BuildState.compiling, TracedState.after,
    ShaderDescriptor.call]

theorem buildStage_of_uncompiled {error : ErrorChain}
    (described : ShaderDescriptor.ofJson value base = .ok shader)
    (failed : device.compile shader.stageType shader.source sources start.device.state =
      (.error error, final)) :
    buildStage ⟨device.traced, sources, base⟩ value start =
      (.error (.compile error),
        { device := start.device.after (shader.call sources (.error error)) final
          report := { start.report with
            compileFailures := start.report.compileFailures ++ [shader.file] }
          log := start.log ++ [shader.announcement] }) := by
  simp [buildStage, described, Device.traced, failed, BuildState.failCompile, ShaderDescriptor.call]

theorem buildStage_of_misdescribed {error : ConfigError}
    (wrong : ShaderDescriptor.ofJson value base = .error error) :
    buildStage ⟨device.traced, sources, base⟩ value start = (.error (.config error), start) := by
  simp [buildStage, wrong]

/-- Shaders that compile are built to their stages, and building goes on behind them. -/
theorem buildStages_append_of_compiles {state between : State} {before : List Json}
    {compiled : List (ShaderDescriptor × Stage)}
    (front : Compiles device sources base state before compiled between)
    (here : start.device.state = state) (rest : List Json) :
    buildStages ⟨device.traced, sources, base⟩ (before ++ rest) start =
      match buildStages ⟨device.traced, sources, base⟩ rest
        (start.compiling sources compiled between) with
      | (.error error, final) => (.error error, final)
      | (.ok stages, final) => (.ok (compiled.map Prod.snd ++ stages), final) := by
  induction front generalizing start with
  | nothing state =>
    have same : start.compiling sources [] state = start := by
      simp [BuildState.compiling, ← here]
    rw [same, List.nil_append]
    rcases buildStages _ rest start with ⟨_ | _, _⟩ <;> rfl
  | @next state between final value behind shader stage others described compiled later
      inductionStep =>
    subst here
    have joined : (start.compiling sources [(shader, stage)] between).compiling sources others final =
        start.compiling sources ((shader, stage) :: others) final := by
      simp [BuildState.compiling]
    rw [List.cons_append, buildStages, buildStage_of_compiled described compiled]
    dsimp only
    rw [inductionStep rfl, joined]
    rcases buildStages _ rest _ with ⟨_ | _, _⟩ <;> rfl

end Building

/-- **What building leaves behind** is settled by the course that it takes. -/
theorem buildProgram_of_takes {program : ProgramDescriptor}
    {start : BuildState (TracedState State Stage)} {course : Course State Stage}
    (takes : Takes device sources base start.device.state program.shaders course) :
    buildProgram ⟨device.traced, sources, base⟩ program start =
      (course.ending.reason?.isNone, start.after sources program.name course) := by
  obtain ⟨name, shaders⟩ := program
  unfold buildProgram
  dsimp only at takes ⊢
  generalize atStart : start.record .info s!"Process {name}" = announced
  have here : announced.device.state = start.device.state := by rw [← atStart]; rfl
  obtain @⟨before, rest, compiled, ending, between, final, split, front, ends⟩ := takes
  rw [split, buildStages_append_of_compiles front here]
  cases ends with
  | misdescribed wrong =>
    rw [buildStages, buildStage_of_misdescribed wrong]
    simp [← atStart, BuildState.failProgram, BuildState.record, BuildState.compiling,
      BuildState.after, Course.calls, Course.records, Course.complaint, Ending.reason?,
      Ending.files, Ending.calls, Ending.announcements, StageError.message]
  | uncompiled described failed =>
    rw [buildStages, buildStage_of_uncompiled described failed]
    simp [← atStart, BuildState.failProgram, BuildState.record, BuildState.compiling,
      BuildState.after, TracedState.after, Course.calls, Course.records, Course.complaint,
      Ending.reason?, Ending.files, Ending.calls, Ending.announcements, StageError.message]
  | @linked _ result linked =>
    have traced : device.traced.link _ (announced.compiling sources compiled between).device = _ :=
      Device.traced_link linked
    rw [buildStages]
    dsimp only [BuildState.record]
    rw [List.append_nil, traced]
    cases result <;>
      simp [← atStart, BuildState.failProgram, BuildState.record, BuildState.compiling,
        BuildState.after, TracedState.after, Course.calls, Course.records, Course.complaint,
        Ending.reason?, Ending.files, Ending.calls, Ending.announcements]

end Builder

/-! ### The account -/

namespace Course

/-- The outcome of building a program of this name is what the course accounts for. -/
structure Accounts (course : Course State Stage) (sources : NamedSources) (name : String)
    (start : BuildState (TracedState State Stage))
    (outcome : Bool × BuildState (TracedState State Stage)) : Prop where
  state : outcome.2.device.state = course.state
  driver : outcome.2.report.driver = start.report.driver
  /-- Files that were listed before stay in front. -/
  earlierFiles : start.report.compileFailures <+: outcome.2.report.compileFailures
  /-- So do programs. -/
  earlierPrograms : start.report.linkFailures <+: outcome.2.report.linkFailures
  /-- The program is built if linking succeeds, which comes after all shaders. -/
  built : outcome.1 = true ↔ course.ending = .linked (.ok ())
  /-- It is built if and only if nothing is listed. -/
  unlisted : outcome.1 = true ↔
    outcome.2.report.compileFailures = start.report.compileFailures ∧
      outcome.2.report.linkFailures = start.report.linkFailures
  /-- It is not built if and only if its name is listed, once. -/
  listed : outcome.1 = false ↔
    outcome.2.report.linkFailures = start.report.linkFailures ++ [name]
  /-- One file is listed if the first shader that fails does not compile: the file of that shader. -/
  file : ∀ file, outcome.2.report.compileFailures = start.report.compileFailures ++ [file] ↔
    ∃ shader error, course.ending = .uncompiled shader error ∧ file = shader.file
  /-- However else building ends, no file is. -/
  noFile : outcome.2.report.compileFailures = start.report.compileFailures ↔
    ∀ shader error, course.ending ≠ .uncompiled shader error
  /-- The calls are those of the course. -/
  calls : outcome.2.device.calls = start.device.calls ++ course.calls sources
  /-- When the program is built, linking is called once, at the end. -/
  linkedLast : outcome.1 = true → outcome.2.device.calls =
    start.device.calls ++ course.compiled.map (fun made => made.1.call sources (.ok made.2)) ++
      [.link (course.compiled.map Prod.snd) (.ok ())]
  /-- Linking is called if no shader fails, and with the stages of all. -/
  link : ∀ stages result, .link stages result ∈ course.calls sources ↔
    course.ending = .linked result ∧ stages = course.compiled.map Prod.snd
  /-- One record tells of an error for each program that is listed. -/
  errors : ∃ records names, outcome.2.log = start.log ++ records ∧
    outcome.2.report.linkFailures = start.report.linkFailures ++ names ∧
    (records.filter fun record => record.level = .error) = course.complaint name ∧
    (course.complaint name).length = names.length

/-- Whatever the course, what it leaves behind is accounted for. -/
theorem accounts_after (course : Course State Stage) (sources : NamedSources) (name : String)
    (start : BuildState (TracedState State Stage)) :
    course.Accounts sources name start
      (course.ending.reason?.isNone, start.after sources name course) where
  state := rfl
  driver := rfl
  earlierFiles := List.prefix_append _ _
  earlierPrograms := List.prefix_append _ _
  built := Option.isNone_iff_eq_none.trans Ending.reason?_eq_none_iff
  unlisted := by
    show course.ending.reason?.isNone = true ↔ _ ++ course.ending.files = _ ∧ _ ++ ite _ _ _ = _
    rw [Option.isNone_iff_eq_none, List.append_right_eq_self, List.append_right_eq_self]
    by_cases built : course.ending.reason? = none
    · simp [built, Ending.files_of_reason?_eq_none built]
    · simp [built]
  listed := by
    show course.ending.reason?.isNone = false ↔ _ ++ ite _ _ _ = _ ++ [name]
    rw [List.append_cancel_left_eq]
    by_cases built : course.ending.reason? = none
    · simp [built]
    · simp [built, Option.isSome_iff_ne_none]
  file file := by
    show _ ++ course.ending.files = _ ++ [file] ↔ _
    rw [List.append_cancel_left_eq, Ending.files_eq_singleton_iff]
  noFile := List.append_right_eq_self.trans Ending.files_eq_nil_iff
  calls := rfl
  linkedLast built := by
    have ending := Ending.reason?_eq_none_iff.mp (Option.isNone_iff_eq_none.mp built)
    show start.device.calls ++ course.calls sources = _
    rw [calls, ending, List.append_assoc]
    rfl
  link _ _ := link_mem_calls_iff
  errors := by
    refine ⟨course.records name, _, rfl, rfl, errors_records, ?_⟩
    unfold complaint
    by_cases built : course.ending.reason? = none
    · simp [built]
    · obtain ⟨reason, told⟩ := Option.ne_none_iff_exists'.mp built
      simp [told]

end Course

/-- **Accounting for a program.** Building a program takes one course, and its outcome is what that
course accounts for. The shaders of a program that is built all compile. -/
theorem Builder.buildProgram_accounted (device : Device State Stage) (sources : NamedSources)
    (base : Path) (program : ProgramDescriptor) (start : BuildState (TracedState State Stage)) :
    ∃ course,
      (∀ other, Takes device sources base start.device.state program.shaders other ↔
        other = course) ∧
      course.Accounts sources program.name start
        (buildProgram ⟨device.traced, sources, base⟩ program start) ∧
      ((buildProgram ⟨device.traced, sources, base⟩ program start).1 = true →
        ∃ between, Compiles device sources base start.device.state program.shaders course.compiled
          between) := by
  obtain ⟨course, takes⟩ := exists_takes device sources base start.device.state program.shaders
  have accounts : course.Accounts sources program.name start
      (buildProgram ⟨device.traced, sources, base⟩ program start) := by
    rw [buildProgram_of_takes takes]
    exact course.accounts_after sources program.name start
  refine ⟨course, fun other => ⟨fun otherTakes => otherTakes.unique takes, ?_⟩, accounts, ?_⟩
  · rintro rfl
    exact takes
  · intro built
    exact takes.compiles (accounts.built.mp built)

end ShaderCheck
