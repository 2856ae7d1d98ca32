/-
**Reports read back.**

A printed report begins with two lines about the driver. A section of failures is an empty line, its
heading and one line for each failure behind four spaces, so no failure can be taken for a heading or
for the empty line in front of one, whatever it is called. Without line feeds in what it names, a
report is therefore told by its text, up to the bytes of failed paths that are no texts: of these a
text has only what they are shown as.

* `BuildReport.shown`: a report with its paths as they are shown;
* `BuildReport.ofText?`: the report that a text prints;
* `BuildReport.ofLines?_eq_some_iff`: only the lines of a report are read as this report;
* `BuildReport.splitAtEvery_text`: the lines of a printed report;
* `BuildReport.text_tells_report`: what a text says of its report.
-/

import Mathlib.Data.List.Basic
import ShaderCheck.Device
import ShaderCheck.Proofs.Path
import ShaderCheck.Proofs.Text.Lines

namespace ShaderCheck.BuildReport

open Text

/-! ### Reading lines -/

/-- What a line says behind its label. -/
def labelled? (label : String) (line : List Char) : Option String :=
  (line.dropPrefix? label.toList).map String.ofList

/-- The failures that lines begin with, and the lines behind them. -/
def readFailures : List (List Char) → List String × List (List Char)
  | [] => ([], [])
  | line :: rest =>
    match labelled? "    " line with
    | some failure => (failure :: (readFailures rest).1, (readFailures rest).2)
    | none => ([], line :: rest)

/-- The failures of the section that lines begin with, if they begin with one under the heading, and
the lines behind it. -/
def readSection (heading : String) : List (List Char) → List String × List (List Char)
  | [] :: title :: rest =>
    if title = heading.toList ∧ (readFailures rest).1 ≠ [] then readFailures rest
    else ([], [] :: title :: rest)
  | lines => ([], lines)

/-- The report that is printed with these lines, if there is one. -/
def ofLines? : List (List Char) → Option BuildReport
  | first :: second :: behind => do
    let vendor ← labelled? "Driver: " first
    let renderer ← labelled? "Renderer: " second
    let compiling := readSection "Compile Failures:" behind
    let linking := readSection "Link Failures:" compiling.2
    if linking.2 = [] then some ⟨⟨vendor, renderer⟩, compiling.1.map Path.ofText, linking.1⟩
    else none
  | _ => none

/-- The report that a text prints, if there is one. -/
def ofText? (text : String) : Option BuildReport :=
  ofLines? (splitAtEvery '\n' text.toList)

variable {heading label : String} {failures : List String} {line : List Char}
  {lines behind : List (List Char)} {report : BuildReport}

theorem labelled?_eq_some_iff {value : String} :
    labelled? label line = some value ↔ line = (label ++ value).toList := by
  unfold labelled?
  rw [Option.map_eq_some_iff, String.toList_append]
  simp only [List.dropPrefix?_eq_some_iff, beq_iff_eq]
  constructor
  · rintro ⟨rest, ⟨_, rfl, rfl⟩, rfl⟩
    rw [String.toList_ofList]
  · rintro rfl
    exact ⟨value.toList, ⟨_, rfl, rfl⟩, String.ofList_toList⟩

/-! ### Sections -/

/-- The first of the lines, if there is any, is not indented. -/
def Unindented (lines : List (List Char)) : Prop :=
  ∀ line ∈ lines.head?, labelled? "    " line = none

/-- **Failures are read** up to the first line that is not indented. -/
theorem readFailures_eq_iff :
    readFailures lines = (failures, behind) ↔
      lines = failures.map (fun failure => ("    " ++ failure).toList) ++ behind ∧
        Unindented behind := by
  induction lines generalizing failures with
  | nil =>
    rw [readFailures]
    constructor
    · intro same
      cases same
      exact ⟨rfl, nofun⟩
    · rintro ⟨same, _⟩
      obtain ⟨none, rfl⟩ := List.append_eq_nil_iff.mp same.symm
      rw [List.map_eq_nil_iff.mp none]
  | cons line rest inductionStep =>
    rw [readFailures]
    cases named : labelled? "    " line with
    | none =>
      constructor
      · intro same
        cases same
        refine ⟨rfl, fun first isFirst => ?_⟩
        rw [← Option.some.inj isFirst]
        exact named
      · rintro ⟨same, _⟩
        cases failures with
        | nil => exact congrArg _ same
        | cons failure later =>
          rw [List.map_cons, List.cons_append] at same
          rw [labelled?_eq_some_iff.mpr (List.cons.inj same).1] at named
          cases named
    | some failure =>
      have indented := labelled?_eq_some_iff.mp named
      constructor
      · intro same
        cases same
        obtain ⟨split, unindented⟩ := inductionStep.mp rfl
        refine ⟨?_, unindented⟩
        rw [List.map_cons, List.cons_append, ← split, indented]
      · rintro ⟨same, unindented⟩
        cases failures with
        | nil =>
          rw [unindented line (by rw [← show line :: rest = behind from same]; rfl)] at named
          cases named
        | cons other later =>
          rw [List.map_cons, List.cons_append] at same
          obtain ⟨first, others⟩ := List.cons.inj same
          rw [labelled?_eq_some_iff.mpr first] at named
          obtain rfl := Option.some.inj named
          rw [inductionStep.mpr ⟨others, unindented⟩]

theorem map_toList_sectionLines_of_ne_nil (filled : failures ≠ []) :
    (sectionLines heading failures).map String.toList =
      [] :: heading.toList :: failures.map fun failure => ("    " ++ failure).toList := by
  rw [sectionLines, if_neg filled, List.map_cons, List.map_cons, List.map_map]
  rfl

/-- What is read as a section is printed so. -/
theorem append_readSection (heading : String) (lines : List (List Char)) :
    (sectionLines heading (readSection heading lines).1).map String.toList ++
      (readSection heading lines).2 = lines := by
  unfold readSection
  split
  · rename_i title rest
    split
    · rename_i found
      obtain ⟨rfl, filled⟩ := found
      obtain ⟨split, _⟩ := readFailures_eq_iff.mp (rfl : readFailures rest = (_, _))
      rw [map_toList_sectionLines_of_ne_nil filled, List.cons_append, List.cons_append, ← split]
    · rfl
  · rfl

/-- A section that is printed is read, if neither a failure nor another section under its heading
follows. -/
theorem readSection_append (unindented : Unindented behind)
    (ends : readSection heading behind = ([], behind)) :
    readSection heading ((sectionLines heading failures).map String.toList ++ behind) =
      (failures, behind) := by
  by_cases none : failures = []
  · rw [none]
    exact ends
  · have read : readFailures ((failures.map fun failure => ("    " ++ failure).toList) ++ behind) =
        (failures, behind) := readFailures_eq_iff.mpr ⟨rfl, unindented⟩
    rw [map_toList_sectionLines_of_ne_nil none, List.cons_append, List.cons_append, readSection, read]
    exact if_pos ⟨rfl, none⟩

theorem unindented_sectionLines :
    Unindented ((sectionLines heading failures).map String.toList) := by
  by_cases none : failures = []
  · rw [none]
    exact nofun
  · rw [map_toList_sectionLines_of_ne_nil none]
    intro line first
    obtain rfl := Option.some.inj first
    rfl

/-- A section under another heading is not read. -/
theorem readSection_of_ne {other : String} (different : heading ≠ other) :
    readSection heading ((sectionLines other failures).map String.toList) =
      ([], (sectionLines other failures).map String.toList) := by
  by_cases none : failures = []
  · rw [none]
    rfl
  · rw [map_toList_sectionLines_of_ne_nil none, readSection, if_neg]
    exact fun found => different (String.toList_inj.mp found.1.symm)

/-! ### Whole reports -/

/-- The report with its failed paths as texts spell them that they are shown as. -/
def shown (report : BuildReport) : BuildReport :=
  { report with compileFailures := report.compileFailures.map fun path => .ofText path.text }

theorem map_text_map_ofText (names : List String) :
    (names.map Path.ofText).map Path.text = names := by
  rw [List.map_map]
  exact (List.map_congr_left fun name _ => Path.text_ofText name).trans (List.map_id names)

theorem lines_shown (report : BuildReport) : report.shown.lines = report.lines := by
  have paths : report.shown.compileFailures.map Path.text = report.compileFailures.map Path.text := by
    rw [shown, List.map_map]
    exact List.map_congr_left fun path _ => Path.text_ofText path.text
  rw [lines, lines, paths]
  rfl

theorem shown_eq_self_iff : report.shown = report ↔ ∀ path ∈ report.compileFailures, path.IsText := by
  have paths : report.shown = report ↔
      report.compileFailures.map (fun path => .ofText path.text) = report.compileFailures.map id := by
    rw [List.map_id]
    cases report
    simp [shown]
  rw [paths, List.map_inj_left]
  exact forall₂_congr fun path _ => Path.isText_iff.symm

theorem map_toList_lines (report : BuildReport) :
    report.lines.map String.toList =
      report.driver.lines.map String.toList ++
        ((sectionLines "Compile Failures:" (report.compileFailures.map Path.text)).map String.toList ++
          (sectionLines "Link Failures:" report.linkFailures).map String.toList) := by
  rw [BuildReport.lines, List.map_append, List.map_append, List.append_assoc]

/-- Only the lines of a report are read as a report. -/
theorem eq_of_ofLines? (read : ofLines? lines = some report) :
    lines = report.lines.map String.toList := by
  unfold ofLines? at read
  split at read
  · rename_i first second behind
    obtain ⟨vendor, isVendor, read⟩ := Option.bind_eq_some_iff.mp read
    obtain ⟨renderer, isRenderer, read⟩ := Option.bind_eq_some_iff.mp read
    rw [Option.ite_none_right_eq_some] at read
    obtain ⟨nothing, same⟩ := read
    have linking := append_readSection "Link Failures:" (readSection "Compile Failures:" behind).2
    rw [nothing, List.append_nil] at linking
    obtain rfl := Option.some.inj same
    rw [map_toList_lines, map_text_map_ofText, linking, append_readSection,
      labelled?_eq_some_iff.mp isVendor, labelled?_eq_some_iff.mp isRenderer]
    rfl
  · cases read

/-- **The lines of a report** are read as this report, with its paths as they are shown. -/
theorem ofLines?_lines (report : BuildReport) :
    ofLines? (report.lines.map String.toList) = some report.shown := by
  have linking : readSection "Link Failures:"
      ((sectionLines "Link Failures:" report.linkFailures).map String.toList) =
        (report.linkFailures, []) := by
    have alone := @readSection_append "Link Failures:" report.linkFailures [] nofun rfl
    rwa [List.append_nil] at alone
  have otherHeading : "Compile Failures:" ≠ "Link Failures:" := by decide
  have compiling := @readSection_append "Compile Failures:" (report.compileFailures.map Path.text)
    ((sectionLines "Link Failures:" report.linkFailures).map String.toList)
    unindented_sectionLines (readSection_of_ne otherHeading)
  rw [map_toList_lines, DriverInfo.lines, List.map_cons, List.map_singleton, List.cons_append,
    List.singleton_append, ofLines?, labelled?_eq_some_iff.mpr rfl, labelled?_eq_some_iff.mpr rfl]
  simp only [Option.bind_eq_bind, Option.bind_some, compiling, linking, if_true, List.map_map]
  rfl

theorem ofLines?_eq_some_iff :
    ofLines? lines = some report.shown ↔ lines = report.lines.map String.toList := by
  constructor
  · intro read
    rw [eq_of_ofLines? read, lines_shown]
  · rintro rfl
    exact ofLines?_lines report

/-! ### Printed reports -/

/-- Nothing that the report names has a line feed. -/
structure IsOneLined (report : BuildReport) : Prop where
  vendor : '\n' ∉ report.driver.vendor.toList
  renderer : '\n' ∉ report.driver.renderer.toList
  compileFailures : ∀ path ∈ report.compileFailures, '\n' ∉ path.text.toList
  linkFailures : ∀ name ∈ report.linkFailures, '\n' ∉ name.toList

/-- A section has no line feeds but those between its lines. -/
theorem not_mem_of_mem_sectionLines {printed : String} (heads : '\n' ∉ heading.toList)
    (oneLined : ∀ failure ∈ failures, '\n' ∉ failure.toList)
    (member : printed ∈ sectionLines heading failures) : '\n' ∉ printed.toList := by
  unfold sectionLines at member
  split at member
  · cases member
  · rcases List.mem_cons.mp member with rfl | member
    · decide
    · rcases List.mem_cons.mp member with rfl | member
      · exact heads
      · obtain ⟨failure, isFailure, rfl⟩ := List.mem_map.mp member
        simpa using oneLined failure isFailure

theorem not_mem_of_mem_lines (oneLined : report.IsOneLined) {printed : String}
    (member : printed ∈ report.lines) : '\n' ∉ printed.toList := by
  unfold BuildReport.lines DriverInfo.lines at member
  rcases List.mem_append.mp member with member | member
  · rcases List.mem_append.mp member with member | member
    · rcases List.mem_cons.mp member with rfl | member
      · simpa using oneLined.vendor
      · rw [List.mem_singleton.mp member]
        simpa using oneLined.renderer
    · refine not_mem_of_mem_sectionLines (by decide) (fun failure isFailure => ?_) member
      obtain ⟨path, isPath, rfl⟩ := List.mem_map.mp isFailure
      exact oneLined.compileFailures path isPath
  · exact not_mem_of_mem_sectionLines (by decide) oneLined.linkFailures member

/-- **A printed report** has the lines of the report. -/
theorem splitAtEvery_text (oneLined : report.IsOneLined) :
    splitAtEvery '\n' report.text.toList = report.lines.map String.toList := by
  have filled : report.lines ≠ [] := by
    unfold BuildReport.lines DriverInfo.lines
    simp
  rw [BuildReport.text, splitAtEvery_joinLines filled, List.map_eq_flatMap]
  exact List.flatMap_congr fun printed member =>
    splitAtEvery_of_not_mem (not_mem_of_mem_lines oneLined member)

/-- A text is read as a report, as it is shown, exactly if the report prints it. -/
theorem ofText?_eq_some_iff (oneLined : report.IsOneLined) {text : String} :
    ofText? text = some report.shown ↔ text = report.text := by
  rw [ofText?, ofLines?_eq_some_iff]
  constructor
  · intro split
    rw [← String.toList_inj, BuildReport.text, toList_joinLines, ← split, intercalate_splitAtEvery]
  · rintro rfl
    exact splitAtEvery_text oneLined

/-- Reports print the same text exactly if they are shown as the same report. -/
theorem text_eq_iff {other : BuildReport} (oneLined : report.IsOneLined)
    (otherOneLined : other.IsOneLined) : other.text = report.text ↔ other.shown = report.shown := by
  rw [← ofText?_eq_some_iff oneLined, (ofText?_eq_some_iff otherOneLined).mpr rfl, Option.some.injEq]

/-- A text that is neither empty nor indented is a line of a section only as its heading. -/
theorem toList_mem_sectionLines_iff {other : String} (filled : other ≠ "")
    (unindented : labelled? "    " other.toList = none) :
    other.toList ∈ (sectionLines heading failures).map String.toList ↔
      other = heading ∧ failures ≠ [] := by
  by_cases none : failures = []
  · simp [none, sectionLines]
  · rw [map_toList_sectionLines_of_ne_nil none, List.mem_cons, List.mem_cons]
    constructor
    · rintro (empty | head | indented)
      · exact absurd (String.toList_eq_nil_iff.mp empty) filled
      · exact ⟨String.toList_inj.mp head, none⟩
      · obtain ⟨failure, _, same⟩ := List.mem_map.mp indented
        rw [labelled?_eq_some_iff.mpr same.symm] at unindented
        cases unindented
    · rintro ⟨rfl, _⟩
      exact .inr (.inl rfl)

/-- **A text tells its report**, with its failed paths as they are shown. It is read as the report that
prints it and as no other, so two reports print the same text exactly if they name the same driver and the
same failures in the same order, each path by how it is shown. If texts spell the paths, these are told
themselves, and the reports are the same. Behind the lines about the driver, the heading of a section is a
whole line exactly if there is a failure under it. -/
theorem text_tells_report (oneLined : report.IsOneLined) :
    (∀ text, ofText? text = some report.shown ↔ text = report.text) ∧
      (∀ other : BuildReport, other.IsOneLined →
        (other.text = report.text ↔ other.shown = report.shown) ∧
        ((∀ path ∈ report.compileFailures, path.IsText) →
          (∀ path ∈ other.compileFailures, path.IsText) →
            other.text = report.text → other = report)) ∧
      (report.shown = report ↔ ∀ path ∈ report.compileFailures, path.IsText) ∧
      ∃ behind, splitAtEvery '\n' report.text.toList =
          report.driver.lines.map String.toList ++ behind ∧
        ("Compile Failures:".toList ∈ behind ↔ report.compileFailures ≠ []) ∧
        ("Link Failures:".toList ∈ behind ↔ report.linkFailures ≠ []) := by
  refine ⟨fun text => ofText?_eq_some_iff oneLined, fun other otherOneLined => ?_, shown_eq_self_iff, ?_⟩
  · have told := text_eq_iff oneLined otherOneLined
    refine ⟨told, fun texts otherTexts same => ?_⟩
    have sameShown := told.mp same
    rwa [shown_eq_self_iff.mpr texts, shown_eq_self_iff.mpr otherTexts] at sameShown
  · refine ⟨_, (splitAtEvery_text oneLined).trans (map_toList_lines report), ?_, ?_⟩
    · rw [List.mem_append, toList_mem_sectionLines_iff (by decide) (by decide),
        toList_mem_sectionLines_iff (by decide) (by decide)]
      simp
    · rw [List.mem_append, toList_mem_sectionLines_iff (by decide) (by decide),
        toList_mem_sectionLines_iff (by decide) (by decide)]
      simp

/-- A report with names that look like other parts of a report. -/
def disguisedReport : BuildReport where
  driver := ⟨"Compile Failures:", ""⟩
  compileFailures := ["", "Link Failures:", "    a.vert", ""].map .ofText
  linkFailures := ["Renderer: a", "Compile Failures:", "Compile Failures:"]

/-- Taking the last failure from it changes its text. -/
theorem disguisedReport_tells :
    let fewer := { disguisedReport with linkFailures := ["Renderer: a", "Compile Failures:"] }
    disguisedReport.IsOneLined ∧ fewer.IsOneLined ∧
      (∀ path ∈ disguisedReport.compileFailures, path.IsText) ∧
      ofText? disguisedReport.text = some disguisedReport ∧ fewer.text ≠ disguisedReport.text := by
  intro fewer
  have oneLined : disguisedReport.IsOneLined := ⟨by decide, by decide, by decide, by decide⟩
  have fewerOneLined : fewer.IsOneLined := ⟨by decide, by decide, by decide, by decide⟩
  have texts : ∀ path ∈ disguisedReport.compileFailures, path.IsText := by decide
  obtain ⟨read, told, isShown, _⟩ := text_tells_report oneLined
  rw [isShown.mpr texts] at read
  refine ⟨oneLined, fewerOneLined, texts, (read _).mpr rfl, fun same => ?_⟩
  exact absurd ((told fewer fewerOneLined).2 texts texts same) (by decide)

/-- A report of one failed file, whose path is a byte that is no text. -/
def unreadableReport (byte : UInt8) : BuildReport :=
  ⟨⟨"", ""⟩, [⟨[byte]⟩], []⟩

/-- Reports of different files print the same text, if the paths are no texts. -/
theorem unreadableReport_ambiguous :
    (unreadableReport 0xFF).IsOneLined ∧ (unreadableReport 0xFE).IsOneLined ∧
      (unreadableReport 0xFF).text = (unreadableReport 0xFE).text ∧
      unreadableReport 0xFF ≠ unreadableReport 0xFE :=
  ⟨⟨by decide, by decide, by decide, by decide⟩, ⟨by decide, by decide, by decide, by decide⟩,
    by decide, by decide⟩

end ShaderCheck.BuildReport
