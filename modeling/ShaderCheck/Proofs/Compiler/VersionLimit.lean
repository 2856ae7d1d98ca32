/-
**The limit on versions.**

A limit only tells whether the number of the version directive is above it. If it is, the text is
refused; and with all other limits the front end gets the same text. That is the text as it stands, or,
if the front end does not read a version as old, the text with other digits in the directive and nothing
else changed: what it would get of a text that is written so. A number that cannot be read is refused
with any limit.

* `VersionDirective.Asks`: the version that a directive asks for;
* `gateVersion_of_asks`, `gateVersion_of_unread`, `gateVersion_withDigits`: what the gate makes of a
  directive, of one whose number cannot be read, and of one with its digits replaced;
* `Compiler.compile_of_refused`, `Compiler.compile_of_passed`: what a compiler makes of it;
* `Compiler.compile_threshold`: the outcomes with all limits.
-/

import ShaderCheck.Proofs.Compiler.VersionGate

namespace ShaderCheck

open Text Glsl

/-! ### What the gate makes of a directive -/

/-- The directive asks for a version: its digits are those of ASCII and spell a number of sixteen
bits. -/
def VersionDirective.Asks (directive : VersionDirective) (version : Nat) : Prop :=
  (∀ c ∈ directive.digits, isAsciiDigit c) ∧ decimalNumber directive.digits = version ∧
    version ≤ largestVersion

/-- The digits that take the place of others spell a version. -/
theorem asks_readAsVersion {before after : List Char} :
    VersionDirective.Asks ⟨before, readAsVersion.toList, after⟩ 450 := by
  have ascii : readAsVersion.toList.all isAsciiDigit = true := by decide +kernel
  have number : decimalNumber readAsVersion.toList = 450 := by decide +kernel
  exact ⟨List.all_eq_true.mp ascii, number, by decide⟩

theorem isWhole_readAsVersion {directive : VersionDirective} (whole : directive.IsWhole) :
    VersionDirective.IsWhole { directive with digits := readAsVersion.toList } where
  filled := show readAsVersion.toList ≠ [] by decide
  digit c member := isDigit_of_isAsciiDigit (asks_readAsVersion.1 c member)
  ends := whole.ends

section Gate

variable {text : String} {directive : VersionDirective}

/-- The number of a directive is read if it asks for a version, which is that number. -/
theorem readUnsigned_eq_ok_iff_asks (whole : directive.IsWhole) {version : Nat} :
    readUnsigned largestVersion directive.digits = .ok version ↔ directive.Asks version := by
  have unsigned : '+' ∉ directive.digits := fun sign => absurd (whole.digit _ sign) (by decide)
  exact readUnsigned_eq_ok_iff whole.filled unsigned

/-- A directive asks for no version if a digit is not of ASCII or the number is too large. -/
theorem forall_not_asks_iff :
    (∀ version, ¬ directive.Asks version) ↔
      (∃ c ∈ directive.digits, ¬ isAsciiDigit c) ∨
        largestVersion < decimalNumber directive.digits := by
  unfold VersionDirective.Asks
  constructor
  · intro unread
    by_cases ascii : ∀ c ∈ directive.digits, isAsciiDigit c
    · exact .inr (Nat.lt_of_not_le fun small => unread _ ⟨ascii, rfl, small⟩)
    · exact .inl (by simpa using ascii)
  · rintro (⟨c, member, other⟩ | large) version ⟨ascii, rfl, small⟩
    · exact other (ascii c member)
    · omega

variable (found : VersionDirective.find? text = some directive)

include found

/-- **What the gate makes of a version**: it is refused above the limit, and below it the text does not
depend on the limit. -/
theorem gateVersion_of_asks {version : Nat} (asks : directive.Asks version) (limit : Nat) :
    gateVersion limit text =
      if limit < version then .error (.versionAboveLimit version limit)
      else .ok (if version < oldestVersion then directive.withDigits readAsVersion else text) := by
  have read := (readUnsigned_eq_ok_iff_asks (VersionDirective.find?_cut found).2).mpr asks
  unfold gateVersion
  rw [found]
  dsimp only
  rw [read]
  dsimp only
  by_cases above : limit < version
  · rw [if_pos above, if_pos above]
  · rw [if_neg above, if_neg above]
    by_cases old : version < oldestVersion
    · rw [if_pos old, if_pos old]
    · rw [if_neg old, if_neg old]

/-- A number that cannot be read is refused with any limit, for the same reason. -/
theorem gateVersion_of_unread (unread : ∀ version, ¬ directive.Asks version) :
    ∃ error, ∀ limit, gateVersion limit text = .error (.versionNumber error) := by
  cases read : readUnsigned largestVersion directive.digits with
  | ok version =>
    have asks := (readUnsigned_eq_ok_iff_asks (VersionDirective.find?_cut found).2).mp read
    exact absurd asks (unread version)
  | error error =>
    refine ⟨error, fun limit => ?_⟩
    unfold gateVersion
    rw [found]
    dsimp only
    rw [read]

/-- **With its digits replaced**, a text is given to the front end as it stands. -/
theorem gateVersion_withDigits {limit : Nat} (high : 450 ≤ limit) :
    gateVersion limit (directive.withDigits readAsVersion) =
      .ok (directive.withDigits readAsVersion) := by
  have whole := isWhole_readAsVersion (VersionDirective.find?_cut found).2
  rw [gateVersion_of_asks (VersionDirective.find?_withDigits found whole) asks_readAsVersion,
    if_neg (Nat.not_lt.mpr high), if_neg (by decide)]

end Gate

/-! ### What a compiler makes of it -/

namespace Compiler

variable {Shader : Type} {frontend : Frontend Shader} {tree : FileTree} {stageType : StageType}
  {kind : ShaderKind} {source : ShaderSource} {sources : NamedSources} {text given : String}
  {limit : Nat}

/-- What the gate refuses is not compiled, for the same reason. -/
theorem compile_of_refused (supported : stageType.kind? = some kind)
    (expanded : expandedText tree source sources = .ok text) {error : CompileError}
    (refused : gateVersion limit text = .error error) :
    Compiler.compile ⟨frontend, limit⟩ tree stageType source sources = .error error := by
  rw [compile_eq supported expanded, refused]
  rfl

/-- What the gate lets pass is up to the front end and the path, which the limit means nothing to. -/
theorem compile_of_passed (supported : stageType.kind? = some kind)
    (expanded : expandedText tree source sources = .ok text)
    (passed : gateVersion limit text = .ok given) (other : Nat) :
    Compiler.compile ⟨frontend, limit⟩ tree stageType source sources =
      ((⟨frontend, other⟩ : Compiler Shader).build kind source.path given).map
        fun module => ⟨stageType, module⟩ := by
  rw [compile_eq supported expanded, passed]
  rfl

/-- Behind the gate only the front end fails. -/
theorem error_of_passed (supported : stageType.kind? = some kind)
    (expanded : expandedText tree source sources = .ok text)
    (passed : gateVersion limit text = .ok given) {error : CompileError}
    (failed : Compiler.compile ⟨frontend, limit⟩ tree stageType source sources = .error error) :
    (∃ messages, error = .parse source.path messages) ∨
      ∃ message, error = .invalid source.path message := by
  rw [compile_of_passed supported expanded passed limit] at failed
  cases built : (⟨frontend, limit⟩ : Compiler Shader).build kind source.path given with
  | ok module =>
    rw [built] at failed
    cases failed
  | error reason =>
    rw [built] at failed
    obtain rfl := Except.error.inj failed
    exact build_eq_error built

/-- **The limit is a threshold.**

The text is cut at the digits of its directive. If they spell a version, limits below it refuse the
text for this version, and all other limits lead to the same outcome: a module, or a text that is no
shader or a shader that is not valid. If the front end does not read a version as old, it gets the text
with the digits `450` in their place and nothing else changed, and the outcome is that of any source of
the same path that expands to this text, with any limit that allows it. Digits that are not of ASCII
and numbers of more than sixteen bits are refused with all limits. -/
theorem compile_threshold {directive : VersionDirective} (frontend : Frontend Shader)
    (supported : stageType.kind? = some kind)
    (expanded : expandedText tree source sources = .ok text)
    (found : VersionDirective.find? text = some directive) :
    let outcome := fun limit => Compiler.compile ⟨frontend, limit⟩ tree stageType source sources
    let replaced := String.ofList (directive.before ++ "450".toList ++ directive.after)
    (text = String.ofList (directive.before ++ directive.digits ++ directive.after) ∧
      directive.IsWhole) ∧
    (∀ version, directive.Asks version →
      (∀ limit, (∃ asked bound, outcome limit = .error (.versionAboveLimit asked bound)) ↔
        limit < version) ∧
      (∀ limit < version, outcome limit = .error (.versionAboveLimit version limit)) ∧
      (∀ limit other, version ≤ limit → version ≤ other → outcome limit = outcome other) ∧
      (∀ limit error, version ≤ limit → outcome limit = .error error →
        (∃ messages, error = .parse source.path messages) ∨
          ∃ message, error = .invalid source.path message) ∧
      (version < oldestVersion →
        (∀ limit, version ≤ limit → gateVersion limit text = .ok replaced) ∧
        ∀ (otherTree : FileTree) (other : ShaderSource) (otherSources : NamedSources),
          other.path = source.path → expandedText otherTree other otherSources = .ok replaced →
          ∀ limit otherLimit, version ≤ limit → 450 ≤ otherLimit →
            outcome limit = Compiler.compile ⟨frontend, otherLimit⟩ otherTree stageType other
              otherSources)) ∧
    ((∃ c ∈ directive.digits, ¬ isAsciiDigit c) ∨
        largestVersion < decimalNumber directive.digits →
      ∃ error, ∀ limit, outcome limit = .error (.versionNumber error)) := by
  intro outcome replaced
  obtain ⟨cut, whole⟩ := VersionDirective.find?_cut found
  refine ⟨⟨cut.symm, whole⟩, fun version asks => ?_, fun unread => ?_⟩
  · have gate := gateVersion_of_asks found asks
    have below : ∀ limit < version, outcome limit = .error (.versionAboveLimit version limit) :=
      fun limit above => compile_of_refused supported expanded (by rw [gate, if_pos above])
    have passed : ∀ limit, version ≤ limit → gateVersion limit text =
        .ok (if version < oldestVersion then directive.withDigits readAsVersion else text) :=
      fun limit within => by rw [gate, if_neg (Nat.not_lt.mpr within)]
    -- With any limit from the version on, the outcome is that of the front end, told with one limit.
    have above : ∀ limit, version ≤ limit → outcome limit = _ := fun limit within =>
      compile_of_passed supported expanded (passed limit within) version
    have failure : ∀ limit error, version ≤ limit → outcome limit = .error error →
        (∃ messages, error = .parse source.path messages) ∨
          ∃ message, error = .invalid source.path message := fun limit error within failed =>
      error_of_passed supported expanded (passed limit within) failed
    refine ⟨fun limit => ⟨?_, fun low => ⟨_, _, below limit low⟩⟩, below,
      fun limit other within otherWithin => (above limit within).trans (above other otherWithin).symm,
      failure, fun old => ⟨fun limit within => ?_, ?_⟩⟩
    · rintro ⟨asked, bound, refused⟩
      refine Nat.lt_of_not_le fun within => ?_
      rcases failure limit _ within refused with ⟨_, parse⟩ | ⟨_, invalid⟩
      · cases parse
      · cases invalid
    · rw [passed limit within, if_pos old]
      rfl
    · intro otherTree other otherSources samePath otherExpanded limit otherLimit within high
      rw [above limit within, if_pos old,
        compile_of_passed supported otherExpanded (gateVersion_withDigits found high) version, samePath]
  · obtain ⟨error, refused⟩ := gateVersion_of_unread found (forall_not_asks_iff.mpr unread)
    exact ⟨error, fun limit => compile_of_refused supported expanded (refused limit)⟩

/-- A fragment shader of an old version, with a comment before its directive. -/
def oldSample : String := "// old\n # version\t0330 core\nvoid main() \x7b\x7d"

/-- The same with the digits that its version is read as. -/
def renewedSample : String := "// old\n # version\t450 core\nvoid main() \x7b\x7d"

/-- A fragment shader with a version in digits that are not of ASCII. -/
def foreignSample : String := "#version \u0664\u0665\u0660\nvoid main() \x7b\x7d"

/-- The first sample is refused below its version and compiled as the second one from there on; the
third one is always refused. -/
theorem samples_threshold :
    let compile := fun text limit =>
      (ofLimit limit).compile (fragmentTree text) .fragment (.file (.ofText "v.frag")) ∅
    compile oldSample 329 = .error (.versionAboveLimit 330 329) ∧
      compile oldSample 330 = compile oldSample 460 ∧
      compile oldSample 330 = compile renewedSample 450 ∧
      ∃ error, ∀ limit, compile foreignSample limit = .error (.versionNumber error) := by
  intro compile
  let old : VersionDirective :=
    ⟨"// old\n # version\t".toList, "0330".toList, " core\nvoid main() \x7b\x7d".toList⟩
  let foreign : VersionDirective :=
    ⟨"#version ".toList, "\u0664\u0665\u0660".toList, "\nvoid main() \x7b\x7d".toList⟩
  have foundOld : VersionDirective.find? oldSample = some old := by decide +kernel
  have foundForeign : VersionDirective.find? foreignSample = some foreign := by decide +kernel
  have asks : old.Asks 330 :=
    ⟨List.all_eq_true.mp (by decide +kernel), by decide +kernel, by decide⟩
  have supported : StageType.fragment.kind? = some .fragment := rfl
  have expandedOld := @expandedText_fragmentTree oldSample (by decide +kernel)
  have expandedRenewed := @expandedText_fragmentTree renewedSample (by decide +kernel)
  have expandedForeign := @expandedText_fragmentTree foreignSample (by decide +kernel)
  obtain ⟨_, versions, _⟩ := compile_threshold Glsl.frontend supported expandedOld foundOld
  obtain ⟨_, below, same, _, renewed⟩ := versions 330 asks
  obtain ⟨_, _, unread⟩ := compile_threshold Glsl.frontend supported expandedForeign foundForeign
  exact ⟨below 329 (by decide), same 330 460 (by decide) (by decide),
    (renewed (by decide)).2 _ _ _ rfl expandedRenewed 330 450 (by decide) (by decide),
    unread (.inl ⟨'\u0664', by decide, by decide⟩)⟩

end Compiler

end ShaderCheck
