/-
**What the gate on versions looks for.**

The gate looks for a number sign, the word `version` and a digit, with any white space before and
between them, line ends included.

* `VersionDirective.Begins`: a text begins with it;
* `VersionDirective.numberPart?_eq_some_iff`: how such a text is spelled;
* `VersionDirective.find?_of_begins`: it is the directive that the gate goes by;
* `VersionDirective.findAfter?_induction`: a text is looked through line by line;
* `VersionDirective.find?_cut`, `VersionDirective.find?_withDigits`: where the text is cut for it, and
  that other digits in its place move nothing.
-/

import ShaderCheck.Compiler
import ShaderCheck.Proofs.Include.Spelling

namespace ShaderCheck

open Text Glsl

namespace VersionDirective

/-- The text starts with a version directive, white space aside. -/
def Begins (text : String) : Prop :=
  numberPart? text.toList ≠ none

instance (text : String) : Decidable (Begins text) :=
  inferInstanceAs (Decidable (numberPart? text.toList ≠ none))

/-- A digit of any script is no white space. -/
theorem isBlank_eq_false_of_isDigit {c : Char} (digit : isDigit c) : isBlank c = false :=
  CodeRanges.contains_eq_false_of_disjoint (by decide +kernel) digit

/-- White space is no digit of any script. -/
theorem isDigit_eq_false_of_isBlank {c : Char} (blank : isBlank c) : isDigit c = false :=
  CodeRanges.contains_eq_false_of_disjoint (by decide +kernel) blank

/-- **What the gate looks for**: a number sign, the word `version` and a digit, with white space
before and between them. -/
theorem numberPart?_eq_some_iff {line number : List Char} :
    numberPart? line = some number ↔
      ∃ front middle back, BlankSpacing front middle back ∧
        line = directiveText front middle back number ∧ number.head?.any isDigit := by
  have solid : ∀ rest : List Char, ∀ c ∈ ("version".toList ++ rest).head?, isBlank c = false := by
    intro rest c same
    obtain rfl := Option.some.inj same
    decide
  constructor
  · intro found
    unfold numberPart? at found
    split at found
    · rename_i c rest argument
      rw [Option.ite_none_right_eq_some] at found
      obtain ⟨digit, same⟩ := found
      obtain rfl := Option.some.inj same
      obtain ⟨front, middle, back, spacing, split, _⟩ :=
        (Directive.argument?_eq_some_iff solid).mp argument
      exact ⟨front, middle, back, spacing, split, digit⟩
    · cases found
  · rintro ⟨front, middle, back, spacing, rfl, digit⟩
    obtain ⟨c, starts, digit⟩ := (Option.any_eq_true _ _).mp digit
    obtain ⟨later, rfl⟩ := List.head?_eq_some_iff.mp starts
    have ends : ∀ first ∈ (c :: later).head?, isBlank first = false := by
      intro first same
      obtain rfl := Option.some.inj same
      exact isBlank_eq_false_of_isDigit digit
    have argument : Directive.argument? "version" (directiveText front middle back (c :: later)) =
        some (c :: later) :=
      (Directive.argument?_eq_some_iff solid).mpr ⟨front, middle, back, spacing, rfl, ends⟩
    rw [numberPart?, argument]
    exact if_pos digit

/-- The number is the argument of the directive. -/
theorem argument?_of_numberPart? {line number : List Char} (found : numberPart? line = some number) :
    Directive.argument? "version" line = some number := by
  unfold numberPart? at found
  split at found
  · rename_i argument
    rw [Option.ite_none_right_eq_some] at found
    rw [argument, found.2]
  · cases found

/-- A line that begins with what the gate looks for is cut there. -/
theorem findAfter?_of_begins {mark number : List Char} (read : List Char)
    (begins : numberPart? (mark ++ number) = some number) :
    findAfter? read (mark ++ number) =
      some ⟨read ++ mark, number.takeWhile isDigit, number.dropWhile isDigit⟩ := by
  rw [findAfter?, begins]
  dsimp only
  rw [List.length_append, Nat.add_sub_cancel, List.take_left]

/-- A text that begins with what the gate looks for is cut there. -/
theorem find?_of_begins {text : String} {front middle back number : List Char}
    (begins : numberPart? text.toList = some number)
    (split : text.toList = directiveText front middle back number) :
    find? text = some ⟨front ++ '#' :: (middle ++ ("version".toList ++ back)),
      number.takeWhile isDigit, number.dropWhile isDigit⟩ := by
  have cut : text.toList =
      (front ++ '#' :: (middle ++ ("version".toList ++ back))) ++ number := by
    simp [split, directiveText]
  rw [cut] at begins
  rw [find?, cut, findAfter?_of_begins [] begins, List.nil_append]

/-- A line that does not begin with it is passed over. -/
theorem findAfter?_of_absent {line later : List Char} (read : List Char) (unbroken : '\n' ∉ line)
    (absent : numberPart? (line ++ '\n' :: later) = none) :
    findAfter? read (line ++ '\n' :: later) = findAfter? (read ++ line ++ ['\n']) later := by
  have ends : ∀ c ∈ ('\n' :: later).head?, decide (c ≠ '\n') = false := by
    intro c same
    obtain rfl := Option.some.inj same
    decide
  have kept := takeWhile_run (decide_ne_of_not_mem unbroken) ends
  have left := dropWhile_run (decide_ne_of_not_mem unbroken) ends
  rw [findAfter?, absent]
  dsimp only
  split
  · rename_i nothing
    rw [left] at nothing
    cases nothing
  · rename_i newline rest split
    rw [left] at split
    obtain ⟨rfl, rfl⟩ := List.cons.inj split
    rw [kept]

/-- In the last line nothing is found if it does not begin with it. -/
theorem findAfter?_of_unbroken {line : List Char} (read : List Char) (unbroken : '\n' ∉ line)
    (absent : numberPart? line = none) : findAfter? read line = none := by
  have nothing : line.dropWhile (· ≠ '\n') = [] := by
    have passed := @dropWhile_ne_append '\n' line [] unbroken
    rwa [List.append_nil] at passed
  rw [findAfter?, absent]
  dsimp only
  split
  · rfl
  · rename_i newline later split
    rw [nothing] at split
    cases split

/-- **A text is looked through line by line**, up to a line that begins with it. -/
theorem findAfter?_induction {motive : List Char → List Char → Prop}
    (begins : ∀ read mark number, numberPart? (mark ++ number) = some number →
      motive read (mark ++ number))
    (last : ∀ read line, '\n' ∉ line → numberPart? line = none → motive read line)
    (more : ∀ read line later, '\n' ∉ line → numberPart? (line ++ '\n' :: later) = none →
      motive (read ++ line ++ ['\n']) later → motive read (line ++ '\n' :: later))
    (read rest : List Char) : motive read rest := by
  induction read, rest using findAfter?.induct with
  | case1 read rest number found =>
    obtain ⟨front, middle, back, _, split, _⟩ := numberPart?_eq_some_iff.mp found
    have cut : rest = (front ++ '#' :: (middle ++ ("version".toList ++ back))) ++ number := by
      simp [split, directiveText]
    rw [cut] at found ⊢
    exact begins read _ number found
  | case2 read rest absent nothing =>
    refine last read rest (fun feed => ?_) absent
    obtain ⟨line, later, split, unbroken⟩ := List.eq_append_cons_of_mem feed
    rw [split, dropWhile_ne_append unbroken] at nothing
    simp at nothing
  | case3 read rest absent newline later split inductionStep =>
    obtain ⟨line, unbroken⟩ := cut_of_dropWhile_ne split
    have feed : newline = '\n' := by
      have stopped := List.head?_dropWhile_not (· ≠ '\n') rest
      rw [split] at stopped
      simpa using stopped
    generalize rest.takeWhile (· ≠ '\n') = front at line unbroken inductionStep
    obtain rfl := line
    rw [feed] at inductionStep
    exact more read front later unbroken absent inductionStep

/-! ### Other digits in the place of a number -/

section Digits

variable {front middle back number digits : List Char}

theorem directiveText_append (front middle back rest later : List Char) :
    directiveText front middle back rest ++ later =
      directiveText front middle back (rest ++ later) := by
  simp [directiveText]

/-- There is no digit in front of the number of a directive. -/
theorem isDigit_eq_false_of_mem_directiveText (spacing : BlankSpacing front middle back) :
    ∀ c ∈ directiveText front middle back [], isDigit c = false := by
  have letters : ("version".toList.all fun c => !isDigit c) = true := by decide +kernel
  intro c member
  rw [directiveText, List.mem_append, List.mem_cons, List.mem_append, List.mem_append,
    List.append_nil] at member
  rcases member with inFront | rfl | inMiddle | inWord | inBack
  · exact isDigit_eq_false_of_isBlank (spacing.blankFront c inFront)
  · decide
  · exact isDigit_eq_false_of_isBlank (spacing.blankMiddle c inMiddle)
  · simpa using List.all_eq_true.mp letters c inWord
  · exact isDigit_eq_false_of_isBlank (spacing.blankBack c inBack)

/-- A directive stays one with another number. -/
theorem numberPart?_of_number {later : List Char}
    (begins : numberPart? (digits ++ number) = some number) (digit : later.head?.any isDigit) :
    numberPart? (digits ++ later) = some later := by
  obtain ⟨front, middle, back, spacing, split, _⟩ := numberPart?_eq_some_iff.mp begins
  have mark : digits = directiveText front middle back [] := by
    rw [← List.nil_append number, ← directiveText_append] at split
    exact List.append_cancel_right split
  exact numberPart?_eq_some_iff.mpr
    ⟨front, middle, back, spacing, by rw [mark, directiveText_append, List.nil_append], digit⟩

/-- What is no directive does not become one when something else that begins with a digit comes in the
place of what begins with one. A directive with that digit in front of its number would have it in its
white space or its letters, and a directive with its number further in front was one before. -/
theorem numberPart?_eq_none_of_startsWithDigit {read rest others : List Char}
    (digit : rest.head?.any isDigit) (other : others.head?.any isDigit)
    (absent : numberPart? (read ++ rest) = none) : numberPart? (read ++ others) = none := by
  refine Option.eq_none_iff_forall_ne_some.mpr fun number found => ?_
  obtain ⟨front, middle, back, spacing, split, starts⟩ := numberPart?_eq_some_iff.mp found
  rw [← List.nil_append number, ← directiveText_append] at split
  have unchanged : ∀ inRead, read = directiveText front middle back [] ++ inRead →
      number = inRead ++ others → False := by
    rintro inRead rfl rfl
    have begins : numberPart? (directiveText front middle back [] ++ inRead ++ rest) =
        some (inRead ++ rest) := by
      refine numberPart?_eq_some_iff.mpr ⟨front, middle, back, spacing, ?_, ?_⟩
      · rw [List.append_assoc, directiveText_append, List.nil_append]
      · cases inRead with
        | nil => exact digit
        | cons first later => exact starts
    rw [absent] at begins
    cases begins
  rcases List.append_eq_append_iff.mp split with ⟨inMark, mark, behind⟩ | ⟨inRead, before, behind⟩
  · cases inMark with
    | nil => exact unchanged [] (by rw [mark, List.append_nil, List.append_nil]) behind.symm
    | cons first later =>
      rw [behind, List.cons_append, List.head?_cons, Option.any_some] at other
      have member : first ∈ directiveText front middle back [] := by
        rw [mark]
        exact List.mem_append_right _ List.mem_cons_self
      rw [isDigit_eq_false_of_mem_directiveText spacing first member] at other
      cases other
  · exact unchanged inRead before behind

end Digits

/-- The digits of a directive are a whole run of digits, and there are some. -/
structure IsWhole (directive : VersionDirective) : Prop where
  filled : directive.digits ≠ []
  digit : ∀ c ∈ directive.digits, isDigit c
  ends : ∀ c ∈ directive.after.head?, isDigit c = false

theorem IsWhole.startsWithDigit {directive : VersionDirective} (whole : directive.IsWhole) :
    (directive.digits ++ directive.after).head?.any isDigit := by
  obtain ⟨first, others, cut⟩ := List.exists_cons_of_ne_nil whole.filled
  have digit := whole.digit first (by rw [cut]; exact List.mem_cons_self)
  rwa [cut, List.cons_append, List.head?_cons, Option.any_some]

/-- The number of a directive that begins with a run of digits is cut behind it. -/
theorem cut_of_isWhole {directive : VersionDirective} (whole : directive.IsWhole) :
    (directive.digits ++ directive.after).takeWhile isDigit = directive.digits ∧
      (directive.digits ++ directive.after).dropWhile isDigit = directive.after :=
  ⟨takeWhile_run whole.digit whole.ends, dropWhile_run whole.digit whole.ends⟩

/-- The digits that the number of a directive begins with are a whole run. -/
theorem isWhole_of_numberPart? {line number : List Char} (before : List Char)
    (found : numberPart? line = some number) :
    IsWhole ⟨before, number.takeWhile isDigit, number.dropWhile isDigit⟩ := by
  obtain ⟨_, _, _, _, _, starts⟩ := numberPart?_eq_some_iff.mp found
  obtain ⟨first, head, digit⟩ := (Option.any_eq_true _ _).mp starts
  obtain ⟨others, rfl⟩ := List.head?_eq_some_iff.mp head
  refine ⟨?_, List.all_eq_true.mp List.all_takeWhile, ?_⟩
  · dsimp only
    rw [List.takeWhile_cons_of_pos digit]
    exact List.cons_ne_nil _ _
  · intro c next
    have stopped := List.head?_dropWhile_not isDigit (first :: others)
    rw [Option.mem_def.mp next] at stopped
    exact stopped

/-- **Where a directive is found**: it is cut at a whole run of digits, and any other run of digits in
its place is found in its place. By the lines that are looked through. -/
theorem findAfter?_eq_some {read rest : List Char} {directive : VersionDirective}
    (found : findAfter? read rest = some directive) :
    directive.IsWhole ∧ ∃ skipped, directive.before = read ++ skipped ∧
      rest = skipped ++ (directive.digits ++ directive.after) ∧
      ∀ digits, IsWhole { directive with digits } →
        findAfter? read (skipped ++ (digits ++ directive.after)) =
          some { directive with digits } := by
  induction read, rest using findAfter?_induction generalizing directive with
  | begins read mark number begins =>
    rw [findAfter?_of_begins read begins] at found
    obtain rfl := Option.some.inj found
    refine ⟨isWhole_of_numberPart? _ begins, mark, rfl, ?_, ?_⟩
    · dsimp only
      rw [List.takeWhile_append_dropWhile]
    · intro digits whole
      obtain ⟨taken, left⟩ := cut_of_isWhole whole
      have again : numberPart? (mark ++ (digits ++ _)) = some (digits ++ _) :=
        numberPart?_of_number begins whole.startsWithDigit
      rw [findAfter?_of_begins read again, taken, left]
  | last read line unbroken absent =>
    rw [findAfter?_of_unbroken read unbroken absent] at found
    cases found
  | more read line later unbroken absent inductionStep =>
    rw [findAfter?_of_absent read unbroken absent] at found
    obtain ⟨whole, skipped, before, after, moved⟩ := inductionStep found
    refine ⟨whole, line ++ '\n' :: skipped, ?_, ?_, ?_⟩
    · rw [before]
      simp
    · rw [after]
      simp
    · intro digits replaced
      rw [after] at absent
      have stillAbsent :
          numberPart? ((line ++ '\n' :: skipped) ++ (digits ++ directive.after)) = none :=
        numberPart?_eq_none_of_startsWithDigit whole.startsWithDigit replaced.startsWithDigit
          (by simpa using absent)
      rw [List.append_assoc, List.cons_append] at stillAbsent ⊢
      rw [findAfter?_of_absent read unbroken stillAbsent, moved digits replaced]

/-- **A text is cut** at the whole run of digits of its first directive. -/
theorem find?_cut {text : String} {directive : VersionDirective}
    (found : find? text = some directive) : directive.text = text ∧ directive.IsWhole := by
  obtain ⟨whole, skipped, before, cut, _⟩ := findAfter?_eq_some found
  rw [List.nil_append] at before
  refine ⟨?_, whole⟩
  rw [VersionDirective.text, before, List.append_assoc, ← cut, String.ofList_toList]

/-- **Other digits in its place** are the first directive of the text with them. -/
theorem find?_withDigits {text digits : String} {directive : VersionDirective}
    (found : find? text = some directive)
    (whole : IsWhole { directive with digits := digits.toList }) :
    find? (directive.withDigits digits) = some { directive with digits := digits.toList } := by
  obtain ⟨_, skipped, before, _, moved⟩ := findAfter?_eq_some found
  rw [List.nil_append] at before
  rw [← before] at moved
  rw [find?, withDigits, String.toList_ofList, List.append_assoc, moved _ whole]

end VersionDirective

end ShaderCheck
