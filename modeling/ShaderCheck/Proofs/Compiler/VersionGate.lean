/-
**The gate on versions.**

The gate looks for a version directive by lines of the text as it stands; the front end honours the
one that the text begins with, comments aside. The two need not be the same, and then the gate lets
a version above the limit pass, or refuses a text for a version that it does not have. A text that
begins with what the gate looks for is never let pass wrongly, whatever comments, spliced lines and
line ends come behind.

* `gateVersion_of_begins`: what the gate makes of a text that begins with it;
* `version_le_of_begins`: such a text is not let pass with a version above the limit;
* `compile_gateExact`: when the gate is exact, and texts for which it always is.
-/

import ShaderCheck.Compiler
import ShaderCheck.Glsl.Frontend
import ShaderCheck.Proofs.Compiler.VersionPattern
import ShaderCheck.Proofs.Glsl.VersionLine
import ShaderCheck.Proofs.Include.Graph

namespace ShaderCheck

open Text Glsl

/-! ### What the gate makes of it -/

/-- Line ends in white space that a text begins with do not change what comes behind it. -/
theorem codeOf_blanks {blanks rest : List Char} {c : Char} (blank : ∀ c ∈ blanks, isBlank c)
    (passes : Passes c) : codeOf (blanks ++ c :: rest) = unifyLineEnds blanks ++ c :: codeOf rest :=
  codeOf_append_cons (fun member => absurd (blank _ member) (by decide))
    (fun member => absurd (blank _ member) (by decide)) passes

/-- A digit passes through. -/
theorem passes_of_isAsciiDigit {c : Char} (ascii : isAsciiDigit c) : Passes c := by
  refine ⟨?_, ?_, ?_, ?_⟩ <;>
    · rintro rfl
      exact absurd ascii (by decide)

/-- White space of a line passes through. -/
theorem passes_of_isSpace {c : Char} (space : isSpace c) : Passes c := by
  refine ⟨?_, ?_, ?_, ?_⟩ <;>
    · rintro rfl
      exact absurd space (by decide)

/-- A digit of ASCII is a digit. -/
theorem isDigit_of_isAsciiDigit {c : Char} (ascii : isAsciiDigit c) : isDigit c := by
  have bounds := isAsciiDigit_iff_toNat.mp ascii
  exact List.any_eq_true.mpr ⟨(0x30, 0x39), List.mem_cons_self, by simpa using bounds⟩

section Directive

variable {front middle back digits rest : List Char}

/-- **The code of a text that begins with a directive** begins with it, however its white space is
made. -/
theorem codeOf_directiveText (spacing : BlankSpacing front middle back)
    (ascii : ∀ c ∈ digits, isAsciiDigit c) (filled : digits ≠ []) :
    codeOf (directiveText front middle back (digits ++ rest)) =
      directiveText (unifyLineEnds front) (unifyLineEnds middle) (unifyLineEnds back)
        (digits ++ codeOf rest) := by
  obtain ⟨first, others, rfl⟩ := List.exists_cons_of_ne_nil filled
  rw [List.forall_mem_cons] at ascii
  have number : codeOf (back ++ (first :: others ++ rest)) =
      unifyLineEnds back ++ (first :: others ++ codeOf rest) := by
    rw [List.cons_append, codeOf_blanks spacing.blankBack (passes_of_isAsciiDigit ascii.1),
      codeOf_append fun c member => passes_of_isAsciiDigit (ascii.2 c member)]
    rfl
  have word : codeOf (middle ++ ("version".toList ++ (back ++ (first :: others ++ rest)))) =
      unifyLineEnds middle ++
        ("version".toList ++ (unifyLineEnds back ++ (first :: others ++ codeOf rest))) := by
    have allPass : "ersion".toList.all (Passes ·) := by decide
    have letters : ∀ c ∈ "ersion".toList, Passes c := fun c member =>
      of_decide_eq_true (List.all_eq_true.mp allPass c member)
    show codeOf (middle ++ 'v' :: ("ersion".toList ++ (back ++ (first :: others ++ rest)))) = _
    rw [codeOf_blanks spacing.blankMiddle (by decide), codeOf_append letters, number]
    rfl
  rw [directiveText, codeOf_blanks spacing.blankFront (by decide), word]
  rfl

/-- Digits are in the line that they begin. -/
theorem takeWhile_digits (ascii : ∀ c ∈ digits, isAsciiDigit c) :
    (digits ++ rest).takeWhile (· ≠ '\n') = digits ++ rest.takeWhile (· ≠ '\n') := by
  refine takeWhile_ne_append fun member => ?_
  exact (passes_of_isAsciiDigit (ascii _ member)).2.1 rfl

end Directive

/-- A directive that is let pass has a number within the limit, which is replaced unless the front
end can read a version as old. -/
theorem exists_version_of_passes {limit : Nat} {text gated : String} {directive : VersionDirective}
    (found : VersionDirective.find? text = some directive)
    (passes : gateVersion limit text = .ok gated) :
    ∃ version, readUnsigned largestVersion directive.digits = .ok version ∧ version ≤ limit ∧
      (gated = directive.withDigits readAsVersion ∨ oldestVersion ≤ version ∧ gated = text) := by
  unfold gateVersion at passes
  rw [found] at passes
  dsimp only at passes
  split at passes
  · cases passes
  · rename_i version read
    refine ⟨version, read, ?_⟩
    by_cases above : limit < version
    · rw [if_pos above] at passes
      cases passes
    · rw [if_neg above] at passes
      refine ⟨Nat.le_of_not_lt above, ?_⟩
      by_cases old : version < oldestVersion
      · rw [if_pos old] at passes
        exact .inl (Except.ok.inj passes).symm
      · rw [if_neg old] at passes
        exact .inr ⟨Nat.le_of_not_lt old, (Except.ok.inj passes).symm⟩

/-- **What the gate makes of a text** that begins with a directive and passes: the number is within
the limit, and its digits are replaced unless the front end can read a version as old. -/
theorem gateVersion_of_begins {limit : Nat} {text gated : String} {number : List Char}
    (begins : VersionDirective.numberPart? text.toList = some number)
    (passes : gateVersion limit text = .ok gated) :
    ∃ front middle back digits after, BlankSpacing front middle back ∧
      text.toList = directiveText front middle back (digits ++ after) ∧
      (∀ c ∈ digits, isAsciiDigit c) ∧ digits ≠ [] ∧ decimalNumber digits ≤ limit ∧
      (gated.toList = directiveText front middle back ("450".toList ++ after) ∨
        oldestVersion ≤ decimalNumber digits ∧ gated = text) := by
  obtain ⟨front, middle, back, spacing, split, startsWithDigit⟩ :=
    VersionDirective.numberPart?_eq_some_iff.mp begins
  obtain ⟨first, starts, digit⟩ := (Option.any_eq_true _ _).mp startsWithDigit
  obtain ⟨later, rfl⟩ := List.head?_eq_some_iff.mp starts
  have digits : (first :: later).takeWhile isDigit = first :: later.takeWhile isDigit :=
    List.takeWhile_cons_of_pos digit
  have filled : (first :: later).takeWhile isDigit ≠ [] := by
    rw [digits]
    exact List.cons_ne_nil _ _
  have cut : text.toList = directiveText front middle back
      ((first :: later).takeWhile isDigit ++ (first :: later).dropWhile isDigit) := by
    rw [List.takeWhile_append_dropWhile, split]
  have unsigned : first ≠ '+' := by
    rintro rfl
    exact absurd digit (by decide)
  obtain ⟨version, read, below, outcome⟩ :=
    exists_version_of_passes (VersionDirective.find?_of_begins begins split) passes
  dsimp only at read
  rw [digits] at read
  obtain ⟨ascii, same⟩ := readUnsigned_eq_ok unsigned read
  rw [← digits] at ascii same
  rw [← same] at below outcome
  refine ⟨front, middle, back, _, _, spacing, cut, ascii, filled, below, ?_⟩
  rcases outcome with replaced | kept
  · rw [replaced, VersionDirective.withDigits, String.toList_ofList]
    exact .inl (by simp [directiveText, readAsVersion])
  · exact .inr kept

/-! ### What the front end makes of it -/

/-- A front end honours the directive that a text begins with, comments aside: it reads the text only if
the first line that has a term can be read, and, if this is a version directive, only if it asks for one of
the known versions and for no other profile than that of the core. -/
structure HonoursVersion {Shader : Type} (frontend : Frontend Shader) : Prop where
  readable {kind : ShaderKind} {text : String} {module : Shader}
    (read : frontend.parse kind text = .ok module) :
    ∃ tokens, tokensOf? (firstLine (codeOf text.toList)) = some tokens
  requested {kind : ShaderKind} {text : String} {module : Shader}
    (read : frontend.parse kind text = .ok module) {tokens : List Token}
    (told : versionTokens? (codeOf text.toList) = some tokens) :
    ∃ version, requestedVersion? tokens = some version

/-- The front end for GLSL reads a text as a module if there is one. -/
theorem Glsl.parse_frontend_eq_ok_iff {kind : ShaderKind} {text : String} {module : Module} :
    Glsl.frontend.parse kind text = .ok module ↔ Module.ofText? kind text = some module := by
  cases read : Module.ofText? kind text <;> simp [Glsl.frontend, read]

/-- The front end for GLSL reads a text as a unit, and so honours its directive. -/
theorem Glsl.honoursVersion_frontend : HonoursVersion Glsl.frontend := by
  have unitOf {kind : ShaderKind} {text : String} {module : Module}
      (read : Glsl.frontend.parse kind text = .ok module) :
      ∃ unit, CompilationUnit.ofText? text = some unit := by
    obtain ⟨unit, found, _⟩ := Option.bind_eq_some_iff.mp (Glsl.parse_frontend_eq_ok_iff.mp read)
    exact ⟨unit, found⟩
  constructor
  · intro kind text module read
    obtain ⟨unit, found⟩ := unitOf read
    exact isSome_tokensOf?_of_ofText? found
  · intro kind text module read tokens told
    obtain ⟨unit, found⟩ := unitOf read
    exact ⟨_, requestedVersion?_of_ofText? found told⟩

/-- **A text that begins with a directive** and that the front end reads once it has passed the gate
has no version above the limit. -/
theorem version_le_of_begins {Shader : Type} {frontend : Frontend Shader}
    (honours : HonoursVersion frontend) {limit : Nat} {text gated : String}
    (begins : VersionDirective.Begins text) (passes : gateVersion limit text = .ok gated)
    {kind : ShaderKind} {module : Shader} (read : frontend.parse kind gated = .ok module)
    {version : Nat} (effective : versionOf? text = some version) : version ≤ limit := by
  obtain ⟨number, begins⟩ := Option.ne_none_iff_exists'.mp begins
  obtain ⟨front, middle, back, digits, after, blanks, split, ascii, filled, below, outcome⟩ :=
    gateVersion_of_begins begins passes
  have code : codeOf text.toList = directiveText (unifyLineEnds front) (unifyLineEnds middle)
      (unifyLineEnds back) (digits ++ codeOf after) := by
    rw [split, codeOf_directiveText blanks ascii filled]
  -- The number that the text tells is in the line that its directive is in.
  rw [versionOf?_eq, code] at effective
  obtain ⟨tokens, told, leading⟩ := Option.bind_eq_some_iff.mp effective
  obtain ⟨unsigned, later, rfl⟩ := leadingInteger?_eq_some_iff.mp leading
  have spacing := lineSpacing_of_versionTokens? blanks.unifyLineEnds told
  have line := told
  rw [versionTokens?_directiveText spacing, takeWhile_digits ascii] at line
  refine Nat.le_trans ?_ below
  rcases outcome with replaced | ⟨atLeast, rfl⟩
  · have newAscii : ∀ c ∈ "450".toList, isAsciiDigit c :=
      List.all_eq_true.mp (by decide)
    have gatedCode : codeOf gated.toList = directiveText (unifyLineEnds front)
        (unifyLineEnds middle) (unifyLineEnds back) ("450".toList ++ codeOf after) := by
      rw [replaced, codeOf_directiveText blanks newAscii (by decide)]
    obtain ⟨lexed, readable⟩ := honours.readable read
    rw [gatedCode, tokensOf?_firstLine_directiveText spacing,
      takeWhile_digits newAscii] at readable
    obtain ⟨others, otherLine, _⟩ := Option.map_eq_some_iff.mp readable
    have directive : versionTokens? (codeOf gated.toList) = some others := by
      rw [gatedCode, versionTokens?_directiveText spacing, takeWhile_digits newAscii, otherLine]
    obtain ⟨_, requested⟩ := honours.requested read directive
    exact version_le_of_replaced ascii filled line otherLine requested
  · obtain ⟨_, requested⟩ := honours.requested read (code ▸ told)
    obtain ⟨_, small, _, _, same, _⟩ := requestedVersion?_eq_some requested
    obtain ⟨rfl, _⟩ := Token.integer.inj (List.cons.inj same).1
    exact version_le_of_known ascii atLeast line small

/-! ### When the gate is exact -/

namespace Compiler

section Gate

variable {Shader : Type}

/-- The number that the gate goes by. -/
def gateNumber? (text : String) : Option Nat :=
  (VersionDirective.find? text).bind fun directive =>
    (readUnsigned largestVersion directive.digits).toOption

/-- The outcome is right about the version of the text: no stage comes of a version above the limit,
and what is refused for a version above the limit has this version. -/
structure GateExact (limit : Nat) (text : String)
    (outcome : Except CompileError (CompiledStage Shader)) : Prop where
  success : ∀ stage, outcome = .ok stage → ∀ version, versionOf? text = some version →
    version ≤ limit
  refusal : ∀ version bound, outcome = .error (.versionAboveLimit version bound) →
    bound = limit ∧ versionOf? text = some version ∧ limit < version

/-- The version of the text is overlooked: it is above the limit, but the text does not begin with
what the gate looks for, is let pass and is a valid shader. -/
def Overlooked (compiler : Compiler Shader) (kind : ShaderKind) (text : String) : Prop :=
  ¬ VersionDirective.Begins text ∧
    (∃ version, versionOf? text = some version ∧ compiler.limit < version) ∧
    ∃ gated module, gateVersion compiler.limit text = .ok gated ∧
      compiler.frontend.parse kind gated = .ok module ∧
      compiler.frontend.validate module = .ok ()

/-- The text is refused for a number above the limit that is not its version. -/
def Misread (limit : Nat) (text : String) : Prop :=
  ∃ number, gateNumber? text = some number ∧ limit < number ∧ versionOf? text ≠ some number

end Gate

/-- The gate refuses a text for a version above the limit when the number that it goes by is. -/
theorem gateVersion_eq_versionAboveLimit_iff {limit : Nat} {text : String} {version bound : Nat} :
    gateVersion limit text = .error (.versionAboveLimit version bound) ↔
      bound = limit ∧ gateNumber? text = some version ∧ limit < version := by
  unfold gateVersion gateNumber?
  cases VersionDirective.find? text with
  | none => simp
  | some directive =>
    rw [Option.bind_some]
    dsimp only
    cases readUnsigned largestVersion directive.digits with
    | error error => simp [Except.toOption]
    | ok number =>
      dsimp only [Except.toOption]
      rw [Option.some.injEq]
      by_cases above : limit < number
      · rw [if_pos above, Except.error.injEq, CompileError.versionAboveLimit.injEq]
        constructor
        · rintro ⟨rfl, rfl⟩
          exact ⟨rfl, rfl, above⟩
        · rintro ⟨rfl, rfl, _⟩
          exact ⟨rfl, rfl⟩
      · rw [if_neg above]
        refine iff_of_false (fun refused => ?_) ?_
        · split at refused <;> cases refused
        · rintro ⟨_, rfl, above'⟩
          exact above above'

/-- A directive on a line of its own, spaced as a line may be, with its digits in base ten. Behind
them the line can be read, and no comment begins and no line is spliced. -/
structure PlainDirective (front middle back digits tail rest : List Char) : Prop where
  skippedFront : ∀ c ∈ front, isSpace c ∨ c = '\n' ∨ c = '\r'
  spaceMiddle : ∀ c ∈ middle, isSpace c
  spaceBack : ∀ c ∈ back, isSpace c
  filledBack : back ≠ []
  ascii : ∀ c ∈ digits, isAsciiDigit c
  filled : digits ≠ []
  ten : baseOf digits = 10
  small : decimalNumber digits ≤ largestVersion
  passing : ∀ c ∈ tail, Passes c
  spaced : ∀ c ∈ tail.head?, isSpace c
  readable : ∃ tokens, tokensOf? tail = some tokens
  ends : ∀ c ∈ rest.head?, c = '\n' ∨ c = '\r'

/-- The text begins with a plain directive. -/
def BeginsPlainly (text : String) : Prop :=
  ∃ front middle back digits tail rest, PlainDirective front middle back digits tail rest ∧
    text.toList = directiveText front middle back (digits ++ (tail ++ rest))

section Plain

variable {text : String} {front middle back digits tail rest : List Char}
  (plain : PlainDirective front middle back digits tail rest)
  (split : text.toList = directiveText front middle back (digits ++ (tail ++ rest)))

include plain

theorem PlainDirective.blankSpacing : BlankSpacing front middle back := by
  refine ⟨fun c member => ?_, fun c member => isBlank_of_isSpace (plain.spaceMiddle c member),
    fun c member => isBlank_of_isSpace (plain.spaceBack c member), plain.filledBack⟩
  rcases plain.skippedFront c member with space | rfl | rfl
  · exact isBlank_of_isSpace space
  · decide
  · decide

/-- Its white space is that of a line in the code too. -/
theorem PlainDirective.lineSpacing :
    LineSpacing (unifyLineEnds front) (unifyLineEnds middle) (unifyLineEnds back) := by
  have same : ∀ {blanks : List Char}, (∀ c ∈ blanks, isSpace c) → unifyLineEnds blanks = blanks :=
    fun space => unifyLineEnds_of_passes fun c member => passes_of_isSpace (space c member)
  rw [same plain.spaceMiddle, same plain.spaceBack]
  refine ⟨fun c member => ?_, plain.spaceMiddle, plain.spaceBack, plain.filledBack⟩
  rcases mem_unifyLineEnds member with old | feed
  · rcases plain.skippedFront c old with space | feed | rfl
    · exact .inl space
    · exact .inr feed
    · exact absurd member return_not_mem_unifyLineEnds
  · exact .inr feed

/-- White space or nothing follows the digits. -/
theorem PlainDirective.blank_of_mem_head? : ∀ c ∈ (tail ++ rest).head?, isBlank c := by
  intro c first
  cases tail with
  | nil =>
    rcases plain.ends c first with rfl | rfl <;> decide
  | cons head later =>
    obtain rfl := Option.some.inj first
    exact isBlank_of_isSpace (plain.spaced head rfl)

include split

/-- The gate finds a plain directive that a text begins with. -/
theorem numberPart?_of_plain :
    VersionDirective.numberPart? text.toList = some (digits ++ (tail ++ rest)) := by
  refine VersionDirective.numberPart?_eq_some_iff.mpr
    ⟨front, middle, back, plain.blankSpacing, split, ?_⟩
  obtain ⟨first, others, rfl⟩ := List.exists_cons_of_ne_nil plain.filled
  simpa using isDigit_of_isAsciiDigit (plain.ascii first List.mem_cons_self)

/-- The gate goes by a plain directive that a text begins with. -/
theorem gateNumber?_of_plain : gateNumber? text = some (decimalNumber digits) := by
  have digit : ∀ c ∈ digits, isDigit c = true := fun c member =>
    isDigit_of_isAsciiDigit (plain.ascii c member)
  have ends : ∀ c ∈ (tail ++ rest).head?, isDigit c = false := fun c first =>
    VersionDirective.isDigit_eq_false_of_isBlank (plain.blank_of_mem_head? c first)
  unfold gateNumber?
  rw [VersionDirective.find?_of_begins (numberPart?_of_plain plain split) split, Option.bind_some]
  dsimp only
  rw [takeWhile_run digit ends,
    readUnsigned_of_le plain.filled plain.ascii plain.small]
  rfl

/-- The front end takes the version from it. -/
theorem versionOf?_of_plain : versionOf? text = some (decimalNumber digits) := by
  obtain ⟨tokens, readable⟩ := plain.readable
  have small : decimalNumber digits < integerLimit :=
    Nat.lt_of_le_of_lt plain.small (by decide)
  rw [versionOf?_eq, split, codeOf_directiveText plain.blankSpacing plain.ascii plain.filled,
    versionTokens?_directiveText plain.lineSpacing, takeWhile_digits plain.ascii,
    takeWhile_codeOf plain.passing plain.ends,
    tokensOf?_integer plain.ascii plain.filled plain.ten small plain.spaced, readable]
  rfl

end Plain

section Outcome

variable {Shader : Type} {compiler : Compiler Shader} {tree : FileTree} {stageType : StageType}
  {kind : ShaderKind} {source : ShaderSource} {sources : NamedSources} {text : String}

/-- What a compiler does with a text: the gate, and then the front end. -/
theorem compile_eq (supported : stageType.kind? = some kind)
    (expanded : expandedText tree source sources = .ok text) :
    compiler.compile tree stageType source sources =
      (gateVersion compiler.limit text).bind fun gated =>
        (compiler.build kind source.path gated).map fun module => ⟨stageType, module⟩ := by
  unfold compile
  rw [supported, expanded]
  dsimp only [bind, Except.bind]
  cases gateVersion compiler.limit text with
  | error error => rfl
  | ok gated =>
    dsimp only
    cases compiler.build kind source.path gated <;> rfl

/-- A front end fails in two ways, and for its version in neither of them. -/
theorem build_eq_error {path : Path} {gated : String} {error : CompileError}
    (failed : compiler.build kind path gated = .error error) :
    (∃ messages, error = .parse path messages) ∨ ∃ message, error = .invalid path message := by
  unfold build at failed
  split at failed
  · exact .inl ⟨_, (Except.error.inj failed).symm⟩
  · split at failed
    · exact .inr ⟨_, (Except.error.inj failed).symm⟩
    · cases failed

/-- A module is made of a text that is read as one and is valid. -/
theorem build_eq_ok_iff {path : Path} {gated : String} {module : Shader} :
    compiler.build kind path gated = .ok module ↔
      compiler.frontend.parse kind gated = .ok module ∧
        compiler.frontend.validate module = .ok () := by
  unfold build
  cases compiler.frontend.parse kind gated with
  | error messages => simp
  | ok found =>
    dsimp only
    rw [Except.ok.injEq]
    cases judged : compiler.frontend.validate found with
    | error message =>
      refine iff_of_false (fun ok => by cases ok) ?_
      rintro ⟨rfl, valid⟩
      rw [judged] at valid
      cases valid
    | ok _ =>
      rw [Except.ok.injEq]
      exact ⟨fun same => ⟨same, same ▸ judged⟩, fun same => same.1⟩

/-- No other step of the compiler refuses a text for its version. -/
theorem build_ne_versionAboveLimit {path : Path} {gated : String} {version bound : Nat} :
    compiler.build kind path gated ≠ .error (.versionAboveLimit version bound) := by
  intro refused
  rcases build_eq_error refused with ⟨_, parse⟩ | ⟨_, invalid⟩
  · cases parse
  · cases invalid

/-- A stage comes of a text that passes the gate and is a valid shader. -/
theorem compile_isOk_iff (supported : stageType.kind? = some kind)
    (expanded : expandedText tree source sources = .ok text) :
    (∃ stage, compiler.compile tree stageType source sources = .ok stage) ↔
      ∃ gated module, gateVersion compiler.limit text = .ok gated ∧
        compiler.frontend.parse kind gated = .ok module ∧
        compiler.frontend.validate module = .ok () := by
  rw [compile_eq supported expanded]
  cases gateVersion compiler.limit text with
  | error error => simp [Except.bind]
  | ok gated =>
    dsimp only [Except.bind]
    constructor
    · rintro ⟨stage, isOk⟩
      cases built : compiler.build kind source.path gated with
      | error error =>
        rw [built] at isOk
        cases isOk
      | ok module => exact ⟨gated, module, rfl, build_eq_ok_iff.mp built⟩
    · rintro ⟨same, module, passes, valid⟩
      obtain rfl := Except.ok.inj passes
      exact ⟨⟨stageType, module⟩, by rw [build_eq_ok_iff.mpr valid]; rfl⟩

/-- A text is refused for a version above the limit when the number that the gate goes by is. -/
theorem compile_eq_versionAboveLimit_iff (supported : stageType.kind? = some kind)
    (expanded : expandedText tree source sources = .ok text) {version bound : Nat} :
    compiler.compile tree stageType source sources = .error (.versionAboveLimit version bound) ↔
      bound = compiler.limit ∧ gateNumber? text = some version ∧ compiler.limit < version := by
  rw [compile_eq supported expanded, ← gateVersion_eq_versionAboveLimit_iff]
  cases gateVersion compiler.limit text with
  | error error => simp [Except.bind]
  | ok gated =>
    refine iff_of_false (fun refused => ?_) (fun refused => by cases refused)
    dsimp only [Except.bind] at refused
    cases built : compiler.build kind source.path gated with
    | error error =>
      rw [built] at refused
      rw [Except.error.inj refused] at built
      exact build_ne_versionAboveLimit built
    | ok module =>
      rw [built] at refused
      cases refused

/-- The gate is exact when it neither overlooks a version above the limit, which it can only do in a
text that does not begin with what it looks for, nor misreads one. -/
theorem gateExact_compile_iff (honours : HonoursVersion compiler.frontend)
    (supported : stageType.kind? = some kind)
    (expanded : expandedText tree source sources = .ok text) :
    GateExact compiler.limit text (compiler.compile tree stageType source sources) ↔
      ¬ Overlooked compiler kind text ∧ ¬ Misread compiler.limit text := by
  constructor
  · rintro ⟨success, refusal⟩
    refine ⟨?_, ?_⟩
    · rintro ⟨_, ⟨version, effective, above⟩, accepted⟩
      obtain ⟨stage, isOk⟩ := (compile_isOk_iff supported expanded).mpr accepted
      exact Nat.not_lt.mpr (success stage isOk version effective) above
    · rintro ⟨number, read, above, different⟩
      have refused := (compile_eq_versionAboveLimit_iff supported expanded).mpr
        ⟨rfl, read, above⟩
      exact different (refusal number compiler.limit refused).2.1
  · rintro ⟨notOverlooked, notMisread⟩
    refine ⟨fun stage isOk version effective => ?_, fun version bound refused => ?_⟩
    · refine Nat.not_lt.mp fun above => notOverlooked ?_
      have accepted := (compile_isOk_iff supported expanded).mp ⟨stage, isOk⟩
      refine ⟨fun begins => ?_, ⟨version, effective, above⟩, accepted⟩
      obtain ⟨gated, module, passes, read, _⟩ := accepted
      exact Nat.not_lt.mpr (version_le_of_begins honours begins passes read effective) above
    · obtain ⟨rfl, read, above⟩ :=
        (compile_eq_versionAboveLimit_iff supported expanded).mp refused
      refine ⟨rfl, ?_, above⟩
      exact Classical.byContradiction fun different => notMisread ⟨version, read, above, different⟩

/-- A plain directive at the beginning is neither overlooked nor misread. -/
theorem not_overlooked_of_plain (plain : BeginsPlainly text) :
    ¬ Overlooked compiler kind text ∧ ¬ Misread compiler.limit text := by
  obtain ⟨front, middle, back, digits, tail, rest, plain, split⟩ := plain
  refine ⟨fun overlooked => overlooked.1 ?_, ?_⟩
  · rw [VersionDirective.Begins, numberPart?_of_plain plain split]
    exact Option.some_ne_none _
  · rintro ⟨number, read, _, different⟩
    rw [gateNumber?_of_plain plain split] at read
    exact different (read ▸ versionOf?_of_plain plain split)

/-- **When the gate is exact**, for every front end that honours the directive that a text begins with:
when it neither overlooks a version above the limit, which it can only do in a text that does not begin
with what it looks for, nor misreads one. It does neither in a text that begins with a plain directive. -/
theorem compile_gateExact (honours : HonoursVersion compiler.frontend)
    (supported : stageType.kind? = some kind)
    (expanded : expandedText tree source sources = .ok text) :
    (GateExact compiler.limit text (compiler.compile tree stageType source sources) ↔
      ¬ Overlooked compiler kind text ∧ ¬ Misread compiler.limit text) ∧
    (BeginsPlainly text →
      GateExact compiler.limit text (compiler.compile tree stageType source sources)) :=
  ⟨gateExact_compile_iff honours supported expanded, fun plain =>
    (gateExact_compile_iff honours supported expanded).mpr (not_overlooked_of_plain plain)⟩

end Outcome

/-- The compiler for GLSL with a limit on the version. -/
def ofLimit (limit : Nat) : Compiler Module := ⟨Glsl.frontend, limit⟩

/-- A fragment shader of version 460 behind a comment with an older directive. -/
def overlookedSample : String := "/*\n#version 330\n*/\n#version 460\nvoid main() \x7b\x7d"

/-- A fragment shader of version 450 behind a comment with a newer directive. -/
def misreadSample : String := "/*\n#version 460\n*/\n#version 450\nvoid main() \x7b\x7d"

/-- A directory with a text in one file. -/
def fragmentTree (text : String) : FileTree where
  nodes := [([⟨Text.bytes "v.frag", by decide⟩], .file text.toUTF8)]
  workingDirectory := []

theorem readText_fragmentTree (text : String) :
    (fragmentTree text).readText (.ofText "v.frag") = .ok text := by
  let name : Name := ⟨Text.bytes "v.frag", by decide⟩
  have located : (fragmentTree text).locate (.ofText "v.frag") = .ok [name] := rfl
  have node : (fragmentTree text).node? [name] = some (.file text.toUTF8) := rfl
  have decoded : String.fromUTF8? text.toUTF8 = some text := dif_pos text.isValidUTF8
  rw [FileTree.readText, located]
  dsimp only
  rw [node]
  dsimp only
  rw [decoded]

/-- A sample of which all lines stay as they are. -/
theorem expandedText_fragmentTree {text : String}
    (expanded : (expandLines (NamedSources.inflate (fragmentTree text) ∅ []) none
      (splitLines text)).map joinLines = .ok text) :
    expandedText (fragmentTree text) (.file (.ofText "v.frag")) ∅ = .ok text := by
  unfold expandedText ShaderSource.text NamedSources.expand
  rw [readText_fragmentTree]
  dsimp only
  rw [NamedSources.expandBelow_eq, List.head?_nil, expanded]

/-- With a limit of 450, the first sample is compiled and the second one is refused. -/
theorem compile_gate_inexact :
    ¬ GateExact 450 overlookedSample ((ofLimit 450).compile (fragmentTree overlookedSample)
      .fragment (.file (.ofText "v.frag")) ∅) ∧
    ¬ GateExact 450 misreadSample ((ofLimit 450).compile (fragmentTree misreadSample)
      .fragment (.file (.ofText "v.frag")) ∅) := by
  have honours : HonoursVersion (ofLimit 450).frontend := honoursVersion_frontend
  have overlooked : Overlooked (ofLimit 450) .fragment overlookedSample := by
    let gated := "/*\n#version 450\n*/\n#version 460\nvoid main() \x7b\x7d"
    have passes : gateVersion 450 overlookedSample = .ok gated := by decide +kernel
    have accepted : (Module.ofText? .fragment gated).any (·.isValid) := by decide +kernel
    obtain ⟨module, read, valid⟩ := (Option.any_eq_true _ _).mp accepted
    exact ⟨by decide +kernel, ⟨460, by decide +kernel⟩, gated, module, passes,
      parse_frontend_eq_ok_iff.mpr read, if_pos valid⟩
  have misread : Misread 450 misreadSample := ⟨460, by decide +kernel⟩
  refine ⟨fun exact => ?_, fun exact => ?_⟩
  · have expanded := @expandedText_fragmentTree overlookedSample (by decide +kernel)
    exact ((compile_gateExact honours rfl expanded).1.mp exact).1 overlooked
  · have expanded := @expandedText_fragmentTree misreadSample (by decide +kernel)
    exact ((compile_gateExact honours rfl expanded).1.mp exact).2 misread

end Compiler

end ShaderCheck
