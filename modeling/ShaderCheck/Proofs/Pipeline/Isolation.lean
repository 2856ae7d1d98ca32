/-
**Isolation of programs.**

On a device whose results are up to the arguments, the programs of a run have nothing to do with each
other. What a run lists and calls is what it lists and calls for the first of its programs, followed by
what it does for the others, wherever the list is cut; so another program in the place of one, or the
programs in another order, leaves what is listed and called for each of the others as it was.

* `Json.withPrograms`: the configuration with other programs;
* `Pipeline.contribution?`: what a run lists and calls, if it gives a report;
* `Pipeline.contribution?_append`: what it lists and calls for two lists of programs;
* `Pipeline.run_isolated`: all of it in one place.
-/

import ShaderCheck.Proofs.Build.Agreement
import ShaderCheck.Proofs.Pipeline.Protocol
import ShaderCheck.Proofs.Table

namespace ShaderCheck

/-- The configuration with these programs in place of its own. -/
def Json.withPrograms (config : Json) (programs : List Json) : Json :=
  match config with
  | .object members => .object (insertEntry "programs" (.array programs) members)
  | other => other

/-- The other sections of a configuration stay. -/
theorem Json.field?_withPrograms {config : Json} {key : String} (other : key ≠ "programs")
    (programs : List Json) : (config.withPrograms programs).field? key = config.field? key := by
  cases config with
  | object members => exact (lookup_insertEntry ..).trans (if_neg other)
  | _ => rfl

/-- The programs of a configuration that is an object are the ones given. -/
theorem Json.field?_withPrograms_programs {config contents : Json} {key : String}
    (isObject : config.field? key = some contents) (programs : List Json) :
    (config.withPrograms programs).field? "programs" = some (.array programs) := by
  cases config with
  | object members => exact (lookup_insertEntry ..).trans (if_pos rfl)
  | _ => cases isObject

namespace Pipeline

variable {State Stage : Type} {pipeline : Pipeline} {tree : FileTree} {device : Device State Stage}
  {create : ContextConfig → Creation State} {config : Json}

/-- What a run lists as failed, and its calls that compile and link, if it gives a report. -/
def contribution? (pipeline : Pipeline) (tree : FileTree) (device : Device State Stage)
    (create : ContextConfig → Creation State) (config : Json) : Option (Contribution Stage) :=
  (pipeline.run tree device create config).result.toOption.map fun report =>
    ⟨report.compileFailures, report.linkFailures,
      (pipeline.calls tree device create config).filter DeviceCall.isBuilding⟩

/-! ### Sections of the configuration -/

/-- A run reads its configuration by the sections only. -/
theorem run_congr {other : Json} (same : ∀ key, config.field? key = other.field? key) :
    pipeline.run tree device create config = pipeline.run tree device create other := by
  have context : contextOf config = contextOf other := by
    unfold contextOf
    rw [same]
  have folders : pipeline.registerSection tree config = pipeline.registerSection tree other := by
    unfold registerSection
    rw [same]
  have programs : ∀ (builder : Builder State Stage) state,
      buildSection builder config state = buildSection builder other state := by
    intro builder state
    unfold buildSection
    rw [same]
  have active : ∀ state,
      pipeline.runActive tree device config state = pipeline.runActive tree device other state := by
    intro state
    unfold runActive
    simp only [folders, programs]
  unfold run
  simp only [context, active]

/-- A run of a configuration with its own programs is a run of the configuration. -/
theorem contribution?_withPrograms_self {programs : List Json}
    (listed : config.field? "programs" = some (.array programs)) :
    pipeline.contribution? tree device create (config.withPrograms programs) =
      pipeline.contribution? tree device create config := by
  have same : ∀ key, (config.withPrograms programs).field? key = config.field? key := by
    intro key
    by_cases isPrograms : key = "programs"
    · rw [isPrograms, Json.field?_withPrograms_programs listed, listed]
    · exact Json.field?_withPrograms isPrograms programs
  unfold contribution? calls tracedRun
  rw [run_congr same, run_congr same]

/-- The context and the folders do not depend on the programs. -/
theorem contextOf_withPrograms (programs : List Json) :
    contextOf (config.withPrograms programs) = contextOf config := by
  unfold contextOf
  rw [Json.field?_withPrograms (by decide)]

theorem registerSection_withPrograms (programs : List Json) :
    pipeline.registerSection tree (config.withPrograms programs) =
      pipeline.registerSection tree config := by
  unfold registerSection
  rw [Json.field?_withPrograms (by decide)]

/-! ### What a run lists and calls -/

/-- A run that ends with an error contributes nothing. -/
theorem contribution?_of_error (error : ConfigError)
    (failed : (pipeline.run tree device create config).result = .error error) :
    pipeline.contribution? tree device create config = none := by
  rw [contribution?, failed]
  rfl

/-- A run that is activated and has its folders registered contributes what building its programs
does, from a start at which nothing is listed or called. -/
theorem contribution?_of_registered {context : ContextConfig} {created state : State}
    {names : List String} (asked : contextOf config = .ok context)
    (made : (create context).result = .ok created)
    (activated : device.activate created = (true, state))
    (registered : (pipeline.registerSection tree config).result = .ok names)
    {programs : List Json} (listed : config.field? "programs" = some (.array programs)) :
    pipeline.contribution? tree device create config =
      (pipeline.builderOf tree device.traced config).contribution? programs
        (pipeline.beforeBuilding tree device.traced config ⟨state, [.activate true]⟩) := by
  have built : ∀ (builder : Builder (TracedState State Stage) Stage) state,
      buildSection builder config state = builder.buildPrograms programs state := by
    intro builder state
    rw [buildSection, listed]
    rfl
  have result : (pipeline.run tree device create config).result =
      (pipeline.tracedRun tree device create config).result := by
    rw [← tracedRun_untraced]
    rfl
  have exit : pipeline.tracedRun tree device create config = _ :=
    run_of_activated asked (Creation.traced_ok made) (Device.traced_activate activated)
  unfold contribution? calls Builder.contribution?
  rw [result, exit, runActive_of_registered registered, built]
  dsimp only
  cases Builder.buildPrograms _ programs _ with
  | mk outcome final =>
    cases outcome with
    | error error => rfl
    | ok done =>
      show some (Contribution.mk _ _
        (List.filter _ (final.device.calls ++ [DeviceCall.deactivate]))) = some final.contribution
      rw [List.filter_append]
      simp [BuildState.contribution, DeviceCall.isBuilding]

/-- Either no run of the configuration gives a report, whatever its programs, or there is a start at
which nothing is listed or called, and every run contributes what building its programs from there
does. -/
theorem contribution?_withPrograms :
    (∀ programs, pipeline.contribution? tree device create (config.withPrograms programs) = none) ∨
      ∃ start : BuildState (TracedState State Stage), start.contribution = .nothing ∧
        ∀ programs, pipeline.contribution? tree device create (config.withPrograms programs) =
          (pipeline.builderOf tree device.traced config).contribution? programs start := by
  cases asked : contextOf config with
  | error error =>
    refine .inl fun programs => contribution?_of_error error ?_
    rw [run_of_rejected ((contextOf_withPrograms programs).trans asked)]
  | ok context =>
    cases made : (create context).result with
    | error error =>
      refine .inl fun programs => contribution?_of_error (.contextCreationFailed error.text) ?_
      rw [run_of_uncreated ((contextOf_withPrograms programs).trans asked) made]
    | ok created =>
      cases activated : device.activate created with
      | mk ready state =>
        cases ready with
        | false =>
          refine .inl fun programs => contribution?_of_error .contextActivationFailed ?_
          rw [run_of_refused ((contextOf_withPrograms programs).trans asked) made activated]
        | true =>
          cases registered : (pipeline.registerSection tree config).result with
          | error error =>
            refine .inl fun programs => contribution?_of_error error ?_
            rw [run_of_activated ((contextOf_withPrograms programs).trans asked) made activated,
              runActive_of_rejected (by rw [registerSection_withPrograms, registered])]
          | ok names =>
            have isObject : ∃ contents, config.field? "opengl" = some contents := by
              unfold contextOf at asked
              split at asked
              · rename_i members found
                exact ⟨_, found⟩
              · cases asked
            obtain ⟨contents, isObject⟩ := isObject
            refine .inr ⟨pipeline.beforeBuilding tree device.traced config ⟨state, [.activate true]⟩,
              rfl, fun programs => ?_⟩
            rw [contribution?_of_registered ((contextOf_withPrograms programs).trans asked) made
              activated (by rw [registerSection_withPrograms, registered])
              (Json.field?_withPrograms_programs isObject programs)]
            unfold builderOf beforeBuilding
            rw [registerSection_withPrograms]

/-- **Two lists of programs**, one after the other, contribute what each of them contributes. -/
theorem contribution?_append (repeatable : device.Repeatable) (first second : List Json) :
    pipeline.contribution? tree device create (config.withPrograms (first ++ second)) = (do
      let before ← pipeline.contribution? tree device create (config.withPrograms first)
      let after ← pipeline.contribution? tree device create (config.withPrograms second)
      return before ++ after) := by
  rcases @contribution?_withPrograms _ _ pipeline tree device create config with none | ⟨start, blank, same⟩
  · rw [none, none]
    rfl
  · rw [same, same, same]
    exact Builder.contribution?_append repeatable blank

/-- If there is a run without programs at all, then a program that is described rightly contributes by
itself. -/
theorem exists_contribution?_singleton {value : Json} {program : ProgramDescriptor}
    (described : ProgramDescriptor.ofJson value = .ok program) {programs : List Json}
    {part : Contribution Stage}
    (runs : pipeline.contribution? tree device create (config.withPrograms programs) = some part) :
    ∃ own, pipeline.contribution? tree device create (config.withPrograms [value]) = some own := by
  rcases @contribution?_withPrograms _ _ pipeline tree device create config with none | ⟨start, _, same⟩
  · rw [none] at runs
    cases runs
  · rw [same]
    exact Option.isSome_iff_exists.mp (Builder.isSome_contribution?_singleton _ described start)

/-- A list of programs of which each contributes by itself contributes these contributions, one after
the other. -/
theorem contribution?_eq_all (repeatable : device.Repeatable) {own : Json → Contribution Stage}
    {values programs : List Json} {whole : Contribution Stage}
    (runs : pipeline.contribution? tree device create (config.withPrograms programs) = some whole)
    (each : ∀ value ∈ values,
      pipeline.contribution? tree device create (config.withPrograms [value]) = some (own value)) :
    pipeline.contribution? tree device create (config.withPrograms values) =
      some (.all (values.map own)) := by
  induction values with
  | nil =>
    rcases @contribution?_withPrograms _ _ pipeline tree device create config with
      none | ⟨start, blank, same⟩
    · rw [none] at runs
      cases runs
    · rw [same]
      show some start.contribution = _
      rw [blank]
      rfl
  | cons value rest inductionStep =>
    rw [List.forall_mem_cons] at each
    have split := @contribution?_append _ _ pipeline tree device create config repeatable [value] rest
    rw [List.singleton_append, each.1, inductionStep each.2] at split
    rw [split, List.map_cons, Contribution.all_cons]
    rfl

/-- The parts of a list of programs that contributes contribute its contribution. -/
theorem exists_parts (repeatable : device.Repeatable) {first second : List Json}
    {whole : Contribution Stage}
    (runs : pipeline.contribution? tree device create (config.withPrograms (first ++ second)) =
      some whole) :
    ∃ before after,
      pipeline.contribution? tree device create (config.withPrograms first) = some before ∧
        pipeline.contribution? tree device create (config.withPrograms second) = some after ∧
        whole = before ++ after := by
  rw [contribution?_append repeatable, Option.bind_eq_bind, Option.bind_eq_some_iff] at runs
  obtain ⟨before, first, rest⟩ := runs
  rw [Option.bind_eq_some_iff] at rest
  obtain ⟨after, second, same⟩ := rest
  exact ⟨before, after, first, second, (Option.some.inj same).symm⟩

/-- Another program in the place of one contributes in its place, and the programs before and after it
contribute what they did. -/
theorem contribution?_replaced (repeatable : device.Repeatable) {before after : List Json}
    {value other : Json} {program : ProgramDescriptor} {whole : Contribution Stage}
    (runs : pipeline.contribution? tree device create (config.withPrograms (before ++ value :: after)) =
      some whole)
    (described : ProgramDescriptor.ofJson other = .ok program) :
    let part := fun values => pipeline.contribution? tree device create (config.withPrograms values)
    ∃ front own others back, part before = some front ∧ part [value] = some own ∧
      part [other] = some others ∧ part after = some back ∧ whole = front ++ own ++ back ∧
      part (before ++ other :: after) = some (front ++ others ++ back) := by
  intro part
  obtain ⟨front, rest, isFront, isRest, split⟩ := exists_parts repeatable runs
  rw [← List.singleton_append] at isRest
  obtain ⟨own, back, isOwn, isBack, rfl⟩ := exists_parts repeatable isRest
  obtain ⟨others, isOthers⟩ := exists_contribution?_singleton described runs
  refine ⟨front, own, others, back, isFront, isOwn, isOthers, isBack, ?_, ?_⟩
  · rw [split, Contribution.append_assoc]
  · show pipeline.contribution? tree device create
      (config.withPrograms (before ++ ([other] ++ after))) = _
    rw [contribution?_append repeatable, contribution?_append repeatable, isFront, isOthers, isBack,
      Contribution.append_assoc]
    rfl

/-- Every program has its own contribution, of which the contribution of the programs in any order is
put together. -/
theorem exists_own (repeatable : device.Repeatable) {programs : List Json}
    {whole : Contribution Stage}
    (runs : pipeline.contribution? tree device create (config.withPrograms programs) = some whole) :
    let part := fun values => pipeline.contribution? tree device create (config.withPrograms values)
    ∃ own : Json → Contribution Stage, (∀ value ∈ programs, part [value] = some (own value)) ∧
      ∀ order, programs.Perm order → part order = some (.all (order.map own)) := by
  intro part
  have alone : ∀ value ∈ programs, part [value] = some ((part [value]).getD .nothing) := by
    intro value member
    obtain ⟨before, after, rfl⟩ := List.append_of_mem member
    obtain ⟨_, rest, _, isRest, _⟩ := exists_parts repeatable runs
    rw [← List.singleton_append] at isRest
    obtain ⟨own, _, isOwn, _⟩ := exists_parts repeatable isRest
    show part [value] = _
    rw [show part [value] = some own from isOwn]
    rfl
  refine ⟨fun value => (part [value]).getD .nothing, alone, fun order sameValues => ?_⟩
  exact contribution?_eq_all repeatable runs fun value member =>
    alone value (sameValues.mem_iff.mpr member)

/-- **Programs are isolated** on a device whose results are up to the arguments. What a run with a
report lists and calls is, wherever its programs are cut into two lists, what it lists and calls for the
first list followed by what it does for the second one. Another program in the place of one leaves what
is listed and called for the programs before and after it as it was. And every program has its own
contribution, of which any other order of the programs makes a list in that order. -/
theorem run_isolated (repeatable : device.Repeatable) {programs : List Json} {report : BuildReport}
    (listed : config.field? "programs" = some (.array programs))
    (isOk : (pipeline.run tree device create config).result = .ok report) :
    let part := fun values => pipeline.contribution? tree device create (config.withPrograms values)
    let whole : Contribution Stage := ⟨report.compileFailures, report.linkFailures,
      (pipeline.calls tree device create config).filter DeviceCall.isBuilding⟩
    (∀ first second, programs = first ++ second →
      ∃ before after, part first = some before ∧ part second = some after ∧
        whole = before ++ after) ∧
    (∀ before value after other program, programs = before ++ value :: after →
      ProgramDescriptor.ofJson other = .ok program →
        ∃ front own others back, part before = some front ∧ part [value] = some own ∧
          part [other] = some others ∧ part after = some back ∧ whole = front ++ own ++ back ∧
          part (before ++ other :: after) = some (front ++ others ++ back)) ∧
    (∃ own : Json → Contribution Stage, (∀ value ∈ programs, part [value] = some (own value)) ∧
      whole = .all (programs.map own) ∧
      ∀ order, programs.Perm order → part order = some (.all (order.map own))) := by
  intro part whole
  have runs : part programs = some whole := by
    show pipeline.contribution? tree device create (config.withPrograms programs) = _
    rw [contribution?_withPrograms_self listed, contribution?, isOk]
    rfl
  refine ⟨?_, ?_, ?_⟩
  · rintro first second rfl
    exact exists_parts repeatable runs
  · rintro before value after other program rfl described
    exact contribution?_replaced repeatable runs described
  · obtain ⟨own, alone, anyOrder⟩ := exists_own repeatable runs
    have inOrder : part programs = some (.all (programs.map own)) := anyOrder programs (.refl _)
    exact ⟨own, alone, Option.some.inj (runs.symm.trans inOrder), anyOrder⟩

end Pipeline

/-- A device that counts its calls and does not compile the file `b.frag`. -/
def countingDevice : Device Nat Path where
  activate count := (true, count + 1)
  deactivate count := count + 1
  driverInfo _ := ⟨"Mesa", "llvmpipe"⟩
  compile _ source _ count :=
    (if source.path.text = "b.frag" then .error (.ofMessage "b.frag doesn't compile")
      else .ok source.path, count + 1)
  link _ count := (.ok (), count + 1)

/-- The description of a program with one fragment shader. -/
def fragmentProgram (name file : String) : Json :=
  .object [("name", .string name), ("shaders", .array [.object
    [("file", .string file), ("type", .string "GL_FRAGMENT_SHADER")]])]

/-- A configuration with three programs, of which the second one fails. -/
def fragmentConfig : Json :=
  .object [("opengl", .object []), ("programs", .array [fragmentProgram "a" "a.frag",
    fragmentProgram "b" "b.frag", fragmentProgram "c" "c.frag"])]

/-- What is listed and called for the second program alone: one file, one program, one call. -/
theorem fragmentConfig_isolated :
    let part := fun values => Pipeline.contribution? (.start (.ofText "")) (.empty []) countingDevice
      (fun _ => ⟨.ok 0, []⟩) (fragmentConfig.withPrograms values)
    ∃ front own back, part [fragmentProgram "a" "a.frag"] = some front ∧
      part [fragmentProgram "b" "b.frag"] = some own ∧
      part [fragmentProgram "c" "c.frag"] = some back ∧
      (front ++ own ++ back).compileFailures = [.ofText "b.frag"] ∧
      (front ++ own ++ back).linkFailures = ["b"] := by
  have repeatable : countingDevice.Repeatable := ⟨fun _ _ _ _ _ => rfl, fun _ _ _ => rfl⟩
  have isOk : (Pipeline.run (.start (.ofText "")) (.empty []) countingDevice (fun _ => ⟨.ok 0, []⟩)
      fragmentConfig).result = .ok ⟨⟨"Mesa", "llvmpipe"⟩, [.ofText "b.frag"], ["b"]⟩ := rfl
  obtain ⟨_, replaced, _⟩ := Pipeline.run_isolated repeatable rfl isOk
  obtain ⟨front, own, _, back, isFront, isOwn, _, isBack, whole, _⟩ :=
    replaced [fragmentProgram "a" "a.frag"] (fragmentProgram "b" "b.frag")
      [fragmentProgram "c" "c.frag"] (fragmentProgram "d" "b.frag") ⟨"d", _⟩ rfl rfl
  refine ⟨front, own, back, isFront, isOwn, isBack, ?_, ?_⟩
  · rw [← whole]
  · rw [← whole]

end ShaderCheck
