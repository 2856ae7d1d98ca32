/-
**Versions of contexts as they are spelled.**

A version is spelled by two numbers with a dot between them, each with as many zeros in front as one
likes and a plus sign in front of these. A section that is otherwise in order asks for a context of
this version, and with any other text in its place it is rejected for its version. The later of two
versions always takes the newer `#version`.

* `SpellsNumber`, `readUnsigned_eq_ok_iff_spells`: numbers, as they are read with a limit;
* `SpellsVersion`, `ContextVersion.ofString?_eq_some_iff`: versions;
* `ContextVersion.glslVersion_lt_iff`: versions in their order;
* `ContextConfig.OtherwiseValid`, `ContextConfig.ofJson_of_otherwiseValid`: the rest of a section;
* `ContextConfig.ofJson_versionText`: which texts are accepted, and what they ask for.
-/

import Mathlib.Algebra.Group.Nat.Defs
import Mathlib.Data.Prod.Lex
import ShaderCheck.Config
import ShaderCheck.Proofs.Glsl.Numeral
import ShaderCheck.Proofs.Text.Lines

namespace ShaderCheck

open Text Glsl

/-! ### Numbers -/

/-- The characters spell the number: one or more digits of ASCII, and maybe a plus sign in front. -/
def SpellsNumber (text : List Char) (number : Nat) : Prop :=
  ∃ digits, (text = digits ∨ text = '+' :: digits) ∧ digits ≠ [] ∧ (∀ c ∈ digits, isAsciiDigit c) ∧
    decimalNumber digits = number

/-- **A number is read** if it is spelled and within the limit. -/
theorem readUnsigned_eq_ok_iff_spells {limit value : Nat} {text : List Char} :
    readUnsigned limit text = .ok value ↔ SpellsNumber text value ∧ value ≤ limit := by
  have signed : ∀ digits, digits ≠ [] →
      readUnsigned limit ('+' :: digits) = readDigits limit 0 digits := by
    intro digits filled
    cases digits with
    | nil => exact absurd rfl filled
    | cons c later => rfl
  constructor
  · intro read
    cases text with
    | nil => cases read
    | cons first later =>
      by_cases sign : first = '+'
      · subst sign
        by_cases nothing : later = []
        · rw [nothing] at read
          cases read
        · rw [signed later nothing, readDigits_eq_ok_iff] at read
          obtain ⟨ascii, number, small⟩ := read
          exact ⟨⟨later, .inr rfl, nothing, ascii, number⟩, small⟩
      · rw [readUnsigned_cons sign, readDigits_eq_ok_iff] at read
        obtain ⟨ascii, number, small⟩ := read
        exact ⟨⟨_, .inl rfl, List.cons_ne_nil _ _, ascii, number⟩, small⟩
  · rintro ⟨⟨digits, rfl | rfl, filled, ascii, rfl⟩, small⟩
    · exact readUnsigned_of_le filled ascii small
    · rw [signed digits filled]
      exact readDigits_of_le ascii small

/-! ### Versions -/

/-- The text spells the numbers of a version: one from 1 to 255 in front of the first dot, and one from
0 to 9 behind it. -/
def SpellsVersion (text : String) (major minor : Nat) : Prop :=
  ∃ front behind, text.toList = front ++ '.' :: behind ∧ '.' ∉ front ∧
    SpellsNumber front major ∧ SpellsNumber behind minor ∧
    1 ≤ major ∧ major ≤ 255 ∧ minor ≤ 9

namespace ContextVersion

variable {text : String} {version other : ContextVersion}

theorem ofNumbers?_eq_some_iff {major minor : Nat} :
    ofNumbers? major minor = some version ↔ major = version.major ∧ minor = version.minor := by
  unfold ofNumbers?
  constructor
  · intro inRange
    split at inRange
    · obtain rfl := Option.some.inj inRange
      exact ⟨rfl, rfl⟩
    · cases inRange
  · rintro ⟨rfl, rfl⟩
    exact dif_pos ⟨version.major_pos, version.major_le, version.minor_le⟩

/-- **A text is read as a version** if it spells its numbers. -/
theorem ofString?_eq_some_iff :
    ofString? text = some version ↔ SpellsVersion text version.major version.minor := by
  constructor
  · intro read
    unfold ofString? at read
    split at read
    · cases read
    · rename_i dot behind cut
      split at read
      · rename_i major minor readMajor readMinor
        obtain ⟨rfl, rfl⟩ := ofNumbers?_eq_some_iff.mp read
        obtain ⟨split, noDot⟩ := cut_of_dropWhile_ne cut
        obtain ⟨spellsMajor, _⟩ := readUnsigned_eq_ok_iff_spells.mp readMajor
        obtain ⟨spellsMinor, _⟩ := readUnsigned_eq_ok_iff_spells.mp readMinor
        exact ⟨_, behind, split, noDot, spellsMajor, spellsMinor, version.major_pos,
          version.major_le, version.minor_le⟩
      · cases read
  · rintro ⟨front, behind, split, noDot, spellsMajor, spellsMinor, _, small, single⟩
    have readMajor := readUnsigned_eq_ok_iff_spells.mpr ⟨spellsMajor, small⟩
    have readMinor := readUnsigned_eq_ok_iff_spells.mpr
      ⟨spellsMinor, Nat.le_trans single (by decide : 9 ≤ 255)⟩
    have dropped : ('.' :: behind).dropWhile (· ≠ '.') = '.' :: behind := rfl
    have taken : ('.' :: behind).takeWhile (· ≠ '.') = [] := rfl
    rw [ofString?, split, dropWhile_ne_append noDot, takeWhile_ne_append noDot, dropped, taken,
      List.append_nil]
    dsimp only
    rw [readMajor, readMinor]
    exact ofNumbers?_eq_some_iff.mpr ⟨rfl, rfl⟩

/-- **The later of two versions** has the larger number. -/
theorem glslVersion_lt_iff :
    version.glslVersion < other.glslVersion ↔
      Prod.Lex (· < ·) (· < ·) (version.major, version.minor) (other.major, other.minor) := by
  have single := version.minor_le
  have otherSingle := other.minor_le
  rw [Prod.lex_def, glslVersion, glslVersion]
  omega

/-- The number of a version is one of sixteen bits. -/
theorem glslVersion_lt (version : ContextVersion) : version.glslVersion < 2 ^ 16 := by
  have small := version.major_le
  have single := version.minor_le
  unfold glslVersion
  omega

end ContextVersion

/-! ### Sections -/

theorem Profile.ofName?_name (profile : Profile) : ofName? profile.name = some profile := by
  cases profile <;> rfl

namespace ContextConfig

/-- What the section asks for besides the version is in order, as far as it asks for anything. -/
structure OtherwiseValid (contextSection : Json) : Prop where
  profile : ∀ value, contextSection.field? "profile" = some value →
    ∃ profile : Profile, value = .string profile.name
  fallbackAdapter : ∀ value, contextSection.field? "fallbackAdapter" = some value →
    ∃ flag, value = .bool flag

variable {contextSection : Json} {text : String}

/-- An optional property is read if there is nothing wrong with its value. -/
theorem exists_property_eq_ok {α : Type} {key : String} {read : Json → Option α} {fallback : α}
    (readable : ∀ value, contextSection.field? key = some value → ∃ result, read value = some result) :
    ∃ result, property contextSection key read fallback = .ok result := by
  unfold property
  cases found : contextSection.field? key with
  | none => exact ⟨fallback, rfl⟩
  | some value =>
    obtain ⟨result, isRead⟩ := readable value found
    exact ⟨result, by dsimp only; rw [isRead]⟩

/-- **A section that is otherwise in order** is rejected for its version only. -/
theorem ofJson_of_otherwiseValid (given : contextSection.field? "version" = some (.string text))
    (valid : OtherwiseValid contextSection) :
    ∃ profile fallbackAdapter, ofJson contextSection =
      match ContextVersion.ofString? text with
      | some version => .ok ⟨version, profile, fallbackAdapter⟩
      | none => .error (.propertyWrongFormat "version") := by
  obtain ⟨profile, readProfile⟩ : ∃ profile, property contextSection "profile"
      (fun value => value.asText?.bind Profile.ofName?) default.profile = .ok profile := by
    refine exists_property_eq_ok fun value found => ?_
    obtain ⟨profile, rfl⟩ := valid.profile value found
    exact ⟨profile, Profile.ofName?_name profile⟩
  obtain ⟨fallbackAdapter, readAdapter⟩ : ∃ fallbackAdapter, property contextSection
      "fallbackAdapter" Json.asFlag? default.fallbackAdapter = .ok fallbackAdapter := by
    refine exists_property_eq_ok fun value found => ?_
    obtain ⟨flag, rfl⟩ := valid.fallbackAdapter value found
    exact ⟨flag, rfl⟩
  have readVersion : property contextSection "version"
      (fun value => value.asText?.bind ContextVersion.ofString?) default.version =
        match ContextVersion.ofString? text with
        | some version => .ok version
        | none => .error (.propertyWrongFormat "version") := by
    cases read : ContextVersion.ofString? text <;> simp [property, given, Json.asText?, read]
  refine ⟨profile, fallbackAdapter, ?_⟩
  rw [ofJson, readVersion, readProfile, readAdapter]
  cases ContextVersion.ofString? text <;> rfl

/-- **Which texts are accepted as versions.** A section that is otherwise in order describes a context
exactly if its text spells a version, and is rejected for its version if it does not. The context has
the numbers that are spelled, and takes a `#version` of a hundred times the first and ten times the
second, which is a number of sixteen bits and is larger for the later one of any two versions. -/
theorem ofJson_versionText (given : contextSection.field? "version" = some (.string text))
    (valid : OtherwiseValid contextSection) :
    ((∃ config, ofJson contextSection = .ok config) ↔ ∃ major minor, SpellsVersion text major minor) ∧
      (∀ major minor, SpellsVersion text major minor →
        ∃ config, ofJson contextSection = .ok config ∧
          config.version.major = major ∧ config.version.minor = minor ∧
          config.glslVersion = 100 * major + 10 * minor ∧ config.glslVersion < 2 ^ 16) ∧
      ((¬ ∃ major minor, SpellsVersion text major minor) →
        ofJson contextSection = .error (.propertyWrongFormat "version")) ∧
      ∀ config other : ContextConfig, config.glslVersion < other.glslVersion ↔
        Prod.Lex (· < ·) (· < ·) (config.version.major, config.version.minor)
          (other.version.major, other.version.minor) := by
  obtain ⟨profile, fallbackAdapter, described⟩ := ofJson_of_otherwiseValid given valid
  have accepted : ∀ major minor, SpellsVersion text major minor →
      ∃ config, ofJson contextSection = .ok config ∧
        config.version.major = major ∧ config.version.minor = minor := by
    intro major minor spells
    obtain ⟨_, _, _, _, _, _, positive, small, single⟩ := id spells
    let version : ContextVersion := ⟨major, minor, positive, small, single⟩
    have read : ContextVersion.ofString? text = some version :=
      ContextVersion.ofString?_eq_some_iff.mpr spells
    refine ⟨⟨version, profile, fallbackAdapter⟩, ?_, rfl, rfl⟩
    rw [described, read]
  have rejected : (¬ ∃ major minor, SpellsVersion text major minor) →
      ofJson contextSection = .error (.propertyWrongFormat "version") := by
    intro unspelled
    cases read : ContextVersion.ofString? text with
    | none => rw [described, read]
    | some version =>
      exact absurd ⟨_, _, ContextVersion.ofString?_eq_some_iff.mp read⟩ unspelled
  refine ⟨⟨fun isOk => ?_, fun spelled => ?_⟩, fun major minor spells => ?_, rejected,
    fun config other => ContextVersion.glslVersion_lt_iff⟩
  · by_contra unspelled
    obtain ⟨config, described⟩ := isOk
    cases described.symm.trans (rejected unspelled)
  · obtain ⟨major, minor, spells⟩ := spelled
    obtain ⟨config, described, _⟩ := accepted major minor spells
    exact ⟨config, described⟩
  · obtain ⟨config, described, rfl, rfl⟩ := accepted major minor spells
    refine ⟨config, described, rfl, rfl, ?_, config.version.glslVersion_lt⟩
    rw [glslVersion, ContextVersion.glslVersion]
    omega

/-- A section that spells the version 4.5 with a sign and zeros. -/
def spelledOutSection : Json :=
  .object [("fallbackAdapter", .bool true), ("profile", .string "compatibility"),
    ("version", .string "+004.05")]

theorem spelledOutSection_accepted :
    OtherwiseValid spelledOutSection ∧ SpellsVersion "+004.05" 4 5 ∧
      ∃ config, ofJson spelledOutSection = .ok config ∧ config.version.major = 4 ∧
        config.version.minor = 5 ∧ config.glslVersion = 450 := by
  have valid : OtherwiseValid spelledOutSection := by
    constructor
    · rintro _ ⟨⟩
      exact ⟨.compatibility, rfl⟩
    · rintro _ ⟨⟩
      exact ⟨true, rfl⟩
  have spells : SpellsVersion "+004.05" 4 5 := by
    refine ⟨"+004".toList, "05".toList, by decide, by decide, ?_, ?_, by decide, by decide,
      by decide⟩
    · exact ⟨"004".toList, .inr (by decide), by decide, List.all_eq_true.mp (by decide), by decide⟩
    · exact ⟨"05".toList, .inl rfl, by decide, List.all_eq_true.mp (by decide), by decide⟩
  have given : spelledOutSection.field? "version" = some (.string "+004.05") := rfl
  obtain ⟨_, accepts, _⟩ := ofJson_versionText given valid
  obtain ⟨config, described, major, minor, number, _⟩ := accepts 4 5 spells
  exact ⟨valid, spells, config, described, major, minor, number⟩

end ContextConfig

end ShaderCheck
