/-
**The first version directive.**

The gate looks for its directive line by line, and any white space before a number sign is skipped, so
it may begin to read many lines in front of one. But what it finds is always at the first number sign
that is the first visible character of its line and goes on as a directive does: a sign that is found
from an earlier line has nothing but white space in front of it, so no other sign is passed over.

* `VersionDirective.IsSign`, `VersionDirective.IsFirstSign`: number signs of directives;
* `VersionDirective.findAfter?_cases`: what is found line by line;
* `VersionDirective.pattern`, `VersionDirective.find?_eq_match?`: the same as a pattern finds it;
* `Compiler.inspects_firstDirective`: the directive that a compiler goes by.
-/

import ShaderCheck.Proofs.Compiler.VersionLimit
import ShaderCheck.Proofs.Include.Recognition

namespace ShaderCheck

open Text Glsl

namespace VersionDirective

/-! ### Number signs -/

/-- Behind the characters, a line starts: they are none, or a line feed is the last one. -/
def StartsLine (lines : List Char) : Prop :=
  lines = [] ∨ lines.getLast? = some '\n'

/-- The number sign behind `before` is the first visible character of its line, and white space, the
word `version`, white space and a number that begins with a digit follow it. -/
structure IsSign (text before middle back number : List Char) : Prop where
  split : text = directiveText before middle back number
  visible : ∃ lines blanks, before = lines ++ blanks ∧ StartsLine lines ∧ '\n' ∉ blanks ∧
    ∀ c ∈ blanks, isBlank c
  blankMiddle : ∀ c ∈ middle, isBlank c
  blankBack : ∀ c ∈ back, isBlank c
  filled : back ≠ []
  digit : number.head?.any isDigit

/-- No such sign stands further in front. -/
structure IsFirstSign (text before middle back number : List Char) : Prop
    extends IsSign text before middle back number where
  first : ∀ earlier inner behind other, IsSign text earlier inner behind other →
    before.length ≤ earlier.length

/-- Every text is lines and the start of one more. -/
theorem exists_startsLine (text : List Char) :
    ∃ lines rest, text = lines ++ rest ∧ StartsLine lines ∧ '\n' ∉ rest := by
  induction text using List.reverseRecOn with
  | nil => exact ⟨[], [], rfl, .inl rfl, List.not_mem_nil⟩
  | append_singleton text c inductionStep =>
    obtain ⟨lines, rest, rfl, starts, unbroken⟩ := inductionStep
    by_cases feed : c = '\n'
    · refine ⟨lines ++ rest ++ [c], [], (List.append_nil _).symm, .inr ?_, List.not_mem_nil⟩
      rw [List.getLast?_concat, feed]
    · refine ⟨lines, rest ++ [c], List.append_assoc .., starts, ?_⟩
      rw [List.mem_append, List.mem_singleton]
      exact not_or.mpr ⟨unbroken, Ne.symm feed⟩

section Signs

variable {text line later before middle back number earlier inner behind other : List Char}

/-- With nothing but white space in front, the number sign of a directive is one of these. -/
theorem isSign_of_blankSpacing (spacing : BlankSpacing before middle back)
    (split : text = directiveText before middle back number) (digit : number.head?.any isDigit) :
    IsSign text before middle back number where
  split := split
  visible := by
    obtain ⟨lines, blanks, rfl, starts, unbroken⟩ := exists_startsLine before
    exact ⟨lines, blanks, rfl, starts, unbroken,
      fun c member => spacing.blankFront c (List.mem_append_right _ member)⟩
  blankMiddle := spacing.blankMiddle
  blankBack := spacing.blankBack
  filled := spacing.filled
  digit := digit

/-- It is the first one then, since a sign in front of it would be white space. -/
theorem isFirstSign_of_blankSpacing (spacing : BlankSpacing before middle back)
    (split : text = directiveText before middle back number) (digit : number.head?.any isDigit) :
    IsFirstSign text before middle back number where
  toIsSign := isSign_of_blankSpacing spacing split digit
  first earlier inner behind other sign := by
    have same : directiveText before middle back number =
        directiveText earlier inner behind other := split.symm.trans sign.split
    rcases List.append_eq_append_iff.mp same with ⟨more, rfl, _⟩ | ⟨between, rfl, behindIt⟩
    · rw [List.length_append]
      exact Nat.le_add_right ..
    · cases between with
      | nil => rw [List.append_nil]
      | cons c rest =>
        have blank := spacing.blankFront c (List.mem_append_right _ List.mem_cons_self)
        rw [← (List.cons.inj behindIt).1] at blank
        exact absurd blank (by decide)

/-- A sign in the first line of a text makes the text begin with a directive. -/
theorem numberPart?_of_isSign (sign : IsSign text before middle back number)
    (blank : ∀ c ∈ before, isBlank c) : numberPart? text = some number :=
  numberPart?_eq_some_iff.mpr ⟨before, middle, back,
    ⟨blank, sign.blankMiddle, sign.blankBack, sign.filled⟩, sign.split, sign.digit⟩

/-- In a text without a directive at its beginning, the signs behind the first line are all there are. -/
theorem isSign_append_iff (unbroken : '\n' ∉ line)
    (absent : numberPart? (line ++ '\n' :: later) = none) :
    IsSign (line ++ '\n' :: later) before middle back number ↔
      ∃ inLater, before = line ++ '\n' :: inLater ∧ IsSign later inLater middle back number := by
  constructor
  · intro sign
    obtain ⟨lines, blanks, rfl, starts, plain, blank⟩ := sign.visible
    rcases starts with rfl | feed
    · rw [numberPart?_of_isSign sign blank] at absent
      cases absent
    · have member : '\n' ∈ lines := List.mem_of_getLast? feed
      have split := sign.split
      rw [directiveText, List.append_assoc] at split
      rcases List.append_eq_append_iff.mp split with ⟨more, rfl, behindIt⟩ | ⟨more, rfl, _⟩
      · cases more with
        | nil =>
          rw [List.append_nil] at member
          exact absurd member unbroken
        | cons c inLater =>
          obtain ⟨rfl, rfl⟩ := List.cons.inj behindIt
          refine ⟨inLater ++ blanks, by simp, ?_, ⟨inLater, blanks, rfl, ?_, plain, blank⟩,
            sign.blankMiddle, sign.blankBack, sign.filled, sign.digit⟩
          · rw [directiveText, List.append_assoc]
            rfl
          · cases inLater using List.reverseRecOn with
            | nil => exact .inl rfl
            | append_singleton others last =>
              refine .inr ?_
              rw [← List.cons_append, ← List.append_assoc, List.getLast?_concat] at feed
              rw [List.getLast?_concat, feed]
      · exact absurd (List.mem_append_left _ member) unbroken
  · rintro ⟨inLater, rfl, sign⟩
    obtain ⟨lines, blanks, rfl, starts, plain, blank⟩ := sign.visible
    refine ⟨?_, ⟨line ++ '\n' :: lines, blanks, by simp, .inr ?_, plain, blank⟩,
      sign.blankMiddle, sign.blankBack, sign.filled, sign.digit⟩
    · rw [sign.split]
      simp [directiveText]
    · rcases starts with rfl | feed
      · exact List.getLast?_concat
      · rw [List.getLast?_append, List.getLast?_cons, feed]
        rfl

/-- Nor is there another sign in the last line of a text without a directive at its beginning. -/
theorem not_isSign_of_unbroken (unbroken : '\n' ∉ text) (absent : numberPart? text = none) :
    ¬ IsSign text before middle back number := by
  intro sign
  obtain ⟨lines, blanks, rfl, starts, plain, blank⟩ := sign.visible
  rcases starts with rfl | feed
  · rw [numberPart?_of_isSign sign blank] at absent
    cases absent
  · refine unbroken ?_
    rw [sign.split, directiveText, List.append_assoc]
    exact List.mem_append_left _ (List.mem_of_getLast? feed)

/-! ### Line by line -/

/-- The digits of a directive's number, and what is in front of them and behind. -/
def cutAt (before middle back number : List Char) : VersionDirective :=
  ⟨directiveText before middle back [], number.takeWhile isDigit, number.dropWhile isDigit⟩

/-- The sign that is the first one in the lines behind a line is the first one there is. -/
theorem isFirstSign_append (unbroken : '\n' ∉ line)
    (absent : numberPart? (line ++ '\n' :: later) = none)
    (sign : IsFirstSign later before middle back number) :
    IsFirstSign (line ++ '\n' :: later) (line ++ '\n' :: before) middle back number where
  toIsSign := (isSign_append_iff unbroken absent).mpr ⟨before, rfl, sign.toIsSign⟩
  first earlier inner behind other another := by
    obtain ⟨inLater, rfl, later⟩ := (isSign_append_iff unbroken absent).mp another
    have least := sign.first inLater inner behind other later
    simp only [List.length_append, List.length_cons]
    omega

/-- **Line by line**, the first sign is found, or there is none. -/
theorem findAfter?_cases (read rest : List Char) :
    (∃ before middle back number, IsFirstSign rest before middle back number ∧
        findAfter? read rest = some (cutAt (read ++ before) middle back number)) ∨
      findAfter? read rest = none ∧
        ∀ before middle back number, ¬ IsSign rest before middle back number := by
  induction read, rest using findAfter?_induction with
  | begins read mark number begins =>
    obtain ⟨front, middle, back, spacing, split, digit⟩ := numberPart?_eq_some_iff.mp begins
    refine .inl ⟨front, middle, back, number, isFirstSign_of_blankSpacing spacing split digit, ?_⟩
    have same : mark = directiveText front middle back [] := by
      rw [← List.nil_append number, ← directiveText_append] at split
      exact List.append_cancel_right split
    rw [findAfter?_of_begins read begins, same, cutAt]
    simp [directiveText]
  | last read line unbroken absent =>
    exact .inr ⟨findAfter?_of_unbroken read unbroken absent,
      fun before middle back number => not_isSign_of_unbroken unbroken absent⟩
  | more read line later unbroken absent inductionStep =>
    rw [findAfter?_of_absent read unbroken absent]
    rcases inductionStep with ⟨before, middle, back, number, sign, found⟩ | ⟨nothing, noSign⟩
    · refine .inl ⟨line ++ '\n' :: before, middle, back, number,
        isFirstSign_append unbroken absent sign, ?_⟩
      rw [found]
      simp
    · refine .inr ⟨nothing, fun before middle back number sign => ?_⟩
      obtain ⟨inLater, rfl, another⟩ := (isSign_append_iff unbroken absent).mp sign
      exact noSign _ _ _ _ another

/-- There is one first sign, and one cut at its number. -/
theorem IsFirstSign.cutAt_eq (sign : IsFirstSign text before middle back number)
    (another : IsFirstSign text earlier inner behind other) :
    cutAt before middle back number = cutAt earlier inner behind other := by
  have ends (middle back number : List Char) (blankMiddle : ∀ c ∈ middle, isBlank c)
      (blankBack : ∀ c ∈ back, isBlank c) (filled : back ≠ []) (digit : number.head?.any isDigit) :
      numberPart? (directiveText [] middle back number) = some number :=
    numberPart?_eq_some_iff.mpr ⟨[], middle, back,
      ⟨fun _ member => absurd member List.not_mem_nil, blankMiddle, blankBack, filled⟩, rfl, digit⟩
  have length : before.length = earlier.length :=
    Nat.le_antisymm (sign.first _ _ _ _ another.toIsSign) (another.first _ _ _ _ sign.toIsSign)
  have same := sign.split.symm.trans another.split
  obtain ⟨rfl, behindIt⟩ := List.append_inj same length
  have here := ends middle back number sign.blankMiddle sign.blankBack sign.filled sign.digit
  rw [directiveText, List.nil_append, behindIt] at here
  obtain rfl : other = number := Option.some.inj <|
    (ends inner behind other another.blankMiddle another.blankBack another.filled
      another.digit).symm.trans here
  rw [← List.nil_append other, ← directiveText_append, ← directiveText_append] at same
  rw [cutAt, cutAt, List.append_cancel_right same]

end Signs

/-- **The first directive** is the one at the first sign. -/
theorem find?_eq_some_iff {text : String} {directive : VersionDirective} :
    find? text = some directive ↔
      ∃ before middle back number, IsFirstSign text.toList before middle back number ∧
        directive = cutAt before middle back number := by
  rcases findAfter?_cases [] text.toList with ⟨before, middle, back, number, sign, found⟩ |
    ⟨nothing, noSign⟩
  · rw [find?, found, List.nil_append, Option.some.injEq]
    constructor
    · rintro rfl
      exact ⟨before, middle, back, number, sign, rfl⟩
    · rintro ⟨earlier, inner, behind, other, another, rfl⟩
      exact sign.cutAt_eq another
  · rw [find?, nothing]
    refine iff_of_false (Option.some_ne_none directive).symm ?_
    rintro ⟨before, middle, back, number, sign, _⟩
    exact noSign _ _ _ _ sign.toIsSign

/-- There is none if there is no sign. -/
theorem find?_eq_none_iff {text : String} :
    find? text = none ↔
      ∀ before middle back number, ¬ IsSign text.toList before middle back number := by
  rcases findAfter?_cases [] text.toList with ⟨before, middle, back, number, sign, found⟩ |
    ⟨nothing, noSign⟩
  · rw [find?, found]
    exact iff_of_false (Option.some_ne_none _) fun noSign => noSign _ _ _ _ sign.toIsSign
  · exact iff_of_true nothing noSign

/-- The first number sign is not the first visible character of its line, and no number follows the
second one. The number of the third one is in the line behind it. -/
example : find? "x #version 1\n#version\n\n # version\n450 core\n#version 2" =
    some ⟨"x #version 1\n#version\n\n # version\n".toList, "450".toList,
      " core\n#version 2".toList⟩ := by
  decide +kernel

/-! ### The pattern of version directives -/

/-- **The pattern of version directives**: `(?m)^\s*#\s*version\s+(\d+)`. -/
def pattern : Pattern :=
  .andThen .lineStart <| Directive.directive "version" (.group (.oneOrMore isDigit))

/-- The cut of a text at the group of a match. -/
def ofPlace? (place : Place) : Option VersionDirective :=
  place.group.map fun cut => ⟨cut.1, cut.2, place.after⟩

section Pattern

variable {read rest mark number : List Char}

theorem avoids_number : (Pattern.group (.oneOrMore isDigit)).Avoids isBlank :=
  ((Pattern.avoids_one fun _ => isDigit_eq_false_of_isBlank).andThen _).group

/-- At the start of a line without a directive the pattern does not match. -/
theorem ways_pattern_of_absent (starts : StartsLine read) (absent : numberPart? rest = none) :
    pattern.ways ⟨read, rest, none⟩ = [] := by
  rw [pattern, Pattern.ways_lineStart_andThen starts]
  rcases @Directive.ways_directive "version" _ read rest none 'v' rfl (by decide) avoids_number with
    ⟨_, none⟩ | ⟨mark, argument, found, _, ways⟩
  · exact none
  · have noDigit : ∀ c ∈ argument.head?, isDigit c = false := by
      intro c first
      obtain ⟨later, rfl⟩ := List.head?_eq_some_iff.mp first
      rw [numberPart?, found] at absent
      simpa using absent
    rw [ways, Pattern.ways, Pattern.ways_oneOrMore_of_absent noDigit, List.map_nil]

/-- At the start of one with a directive it matches up to the end of the digits, at first. -/
theorem head?_ways_pattern (starts : StartsLine read)
    (begins : numberPart? (mark ++ number) = some number) :
    (pattern.ways ⟨read, mark ++ number, none⟩).head?.bind ofPlace? =
      some ⟨read ++ mark, number.takeWhile isDigit, number.dropWhile isDigit⟩ := by
  have argued := argument?_of_numberPart? begins
  have whole := isWhole_of_numberPart? [] begins
  rw [pattern, Pattern.ways_lineStart_andThen starts]
  rcases @Directive.ways_directive "version" _ read (mark ++ number) none 'v' rfl (by decide)
    avoids_number with ⟨absent, _⟩ | ⟨front, argument, found, split, ways⟩
  · rw [argued] at absent
    cases absent
  · obtain rfl : number = argument := Option.some.inj (argued.symm.trans found)
    obtain rfl := List.append_cancel_right split
    have taken := @Pattern.head?_ways_oneOrMore isDigit (read ++ mark) (number.takeWhile isDigit)
      (number.dropWhile isDigit) none whole.filled whole.digit whole.ends
    rw [List.takeWhile_append_dropWhile] at taken
    rw [ways, Pattern.ways, List.head?_map, taken, Option.map_some, Option.bind_some, ofPlace?]
    dsimp only
    rw [List.drop_left, Option.map_some]

/-- **What is found line by line** is what the pattern finds. -/
theorem findAfter?_eq_matchAfter? (read rest : List Char) (starts : StartsLine read) :
    findAfter? read rest = (pattern.matchAfter? read rest).bind ofPlace? := by
  induction read, rest using findAfter?_induction with
  | begins read mark number begins =>
    obtain ⟨place, here, cut⟩ := Option.bind_eq_some_iff.mp (head?_ways_pattern starts begins)
    rw [findAfter?_of_begins read begins, Pattern.matchAfter?_of_head? here]
    exact cut.symm
  | last read line unbroken absent =>
    rw [findAfter?_of_unbroken read unbroken absent, pattern,
      Pattern.matchAfter?_lineStart_last unbroken (ways_pattern_of_absent starts absent)]
    rfl
  | more read line later unbroken absent inductionStep =>
    rw [findAfter?_of_absent read unbroken absent, pattern,
      Pattern.matchAfter?_lineStart unbroken (ways_pattern_of_absent starts absent)]
    exact inductionStep (.inr List.getLast?_concat)

end Pattern

/-- The first directive of a text is where the pattern is found first. -/
theorem find?_eq_match? (text : String) :
    find? text = (pattern.match? text.toList).bind ofPlace? :=
  findAfter?_eq_matchAfter? [] text.toList (.inl rfl)

end VersionDirective

/-! ### What a compiler goes by -/

/-- A text without a directive is given to the front end as it stands. -/
theorem gateVersion_of_none {text : String} (none : VersionDirective.find? text = none)
    (limit : Nat) : gateVersion limit text = .ok text := by
  unfold gateVersion
  rw [none]

namespace Compiler

open VersionDirective

/-- **A compiler goes by the first directive.** That is the one at the first number sign that is the
first visible character of its line and is followed by white space, the word `version`, white space and
a digit, where line feeds are white space too; a text without such a sign has none. Its number is the
whole run of digits there, and this is what the pattern of version directives finds. A text that has no
directive is built as it stands. One that has one is refused if the number is above the limit or cannot
be read; and if the front end does not read the version as old, other digits are put in the place of
this run and everything else stays. -/
theorem inspects_firstDirective (text : String) :
    (∀ directive, find? text = some directive ↔
      ∃ before middle back number, IsFirstSign text.toList before middle back number ∧
        directive = ⟨directiveText before middle back [], number.takeWhile isDigit,
          number.dropWhile isDigit⟩) ∧
    (find? text = none ↔
      ∀ before middle back number, ¬ IsSign text.toList before middle back number) ∧
    (∀ directive, find? text = some directive →
      text = String.ofList (directive.before ++ directive.digits ++ directive.after) ∧
        directive.IsWhole) ∧
    find? text = (pattern.match? text.toList).bind ofPlace? ∧
    ∀ {Shader : Type} (frontend : Frontend Shader) (limit : Nat) (tree : FileTree)
      (stageType : StageType) (kind : ShaderKind) (source : ShaderSource) (sources : NamedSources),
      stageType.kind? = some kind → expandedText tree source sources = .ok text →
      let compiler : Compiler Shader := ⟨frontend, limit⟩
      let outcome := compiler.compile tree stageType source sources
      let built := fun given => (compiler.build kind source.path given).map
        fun module => (⟨stageType, module⟩ : CompiledStage Shader)
      (find? text = none → outcome = built text) ∧
      ∀ directive, find? text = some directive →
        (∀ version, directive.Asks version → outcome =
          if limit < version then .error (.versionAboveLimit version limit)
          else if version < oldestVersion then
            built (String.ofList (directive.before ++ "450".toList ++ directive.after))
          else built text) ∧
        ((∀ version, ¬ directive.Asks version) →
          ∃ error, outcome = .error (.versionNumber error)) := by
  refine ⟨fun directive => find?_eq_some_iff, find?_eq_none_iff, fun directive found => ?_,
    find?_eq_match? text, ?_⟩
  · obtain ⟨cut, whole⟩ := find?_cut found
    exact ⟨cut.symm, whole⟩
  · intro Shader frontend limit tree stageType kind source sources supported expanded compiler
      outcome built
    have passed : ∀ {given}, gateVersion limit text = .ok given → outcome = built given :=
      fun gate => compile_of_passed supported expanded gate limit
    refine ⟨fun none => passed (gateVersion_of_none none limit), fun directive found =>
      ⟨fun version asks => ?_, fun unread => ?_⟩⟩
    · have gate := gateVersion_of_asks found asks limit
      split
      · rename_i above
        rw [if_pos above] at gate
        exact compile_of_refused supported expanded gate
      · rename_i within
        rw [if_neg within] at gate
        rw [passed gate]
        split <;> rfl
    · obtain ⟨error, refused⟩ := gateVersion_of_unread found unread
      exact ⟨error, compile_of_refused supported expanded (refused limit)⟩

end Compiler

end ShaderCheck
