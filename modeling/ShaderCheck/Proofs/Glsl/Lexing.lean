/-
**The code of a text, and the tokens of a line.**

What the reading of lines does to a text can be told without the numbers that the characters carry:
line ends become line feeds, spliced lines are joined, and a comment leaves one space. Characters
that start none of these pass through, whatever stands before and after them.

White space gives no token, and any other character starts one or makes the line unreadable. White
space of other kinds than the four that a line may be spaced with starts nothing.

* `codeOf`: the characters of a text's code, `map_logicalLines`: its lines;
* `codeOf_append`, `codeOf_append_cons`: what passes through;
* `firstLine`: the first line of code that is not blank;
* `tokensOf?`: the tokens of characters, without what lexemes tell beside them;
* `tokensOf?_spaces`, `tokensOf?_numberSign`, `tokensOf?_word`, `tokensOf?_digit`: one token at a
  time;
* `tokensOf?_stray`: white space that makes a line unreadable.
-/

import ShaderCheck.Glsl.Token
import ShaderCheck.Proofs.Path
import ShaderCheck.Proofs.Text.Lines

namespace ShaderCheck.Glsl

open Text

/-! ### Code without line numbers -/

/-- `spliceLines` on characters. -/
def spliceChars : List Char → List Char
  | [] => []
  | '\\' :: '\n' :: rest => spliceChars rest
  | c :: rest => c :: spliceChars rest

/-- `stripComments` on characters. -/
def stripChars : CommentState → List Char → List Char
  | _, [] => []
  | .code, '/' :: '/' :: rest => stripChars .line rest
  | .code, '/' :: '*' :: rest => stripChars .block rest
  | .code, c :: rest => c :: stripChars .code rest
  | .line, '\n' :: rest => '\n' :: stripChars .code rest
  | .line, _ :: rest => stripChars .line rest
  | .block, '*' :: '/' :: rest => ' ' :: stripChars .code rest
  | .block, _ :: rest => stripChars .block rest

/-- The code of a text, every line end a line feed. -/
def codeOf (text : List Char) : List Char :=
  stripChars .code (spliceChars (unifyLineEnds text))

theorem map_fst_numberLines (text : List Char) (line : Nat) :
    (numberLines line text).map Prod.fst = text := by
  induction text generalizing line with
  | nil => rfl
  | cons c rest inductionStep => rw [numberLines, List.map_cons, inductionStep]

/-- A numbered character that starts a list of numbered characters. -/
theorem exists_of_map_fst_eq_cons {text : List NumberedChar} {c : Char} {rest : List Char}
    (split : text.map Prod.fst = c :: rest) :
    ∃ line later, text = (c, line) :: later ∧ later.map Prod.fst = rest := by
  obtain ⟨⟨first, line⟩, later, rfl, rfl, rfl⟩ := List.map_eq_cons_iff.mp split
  exact ⟨line, later, rfl, rfl⟩

theorem map_fst_spliceLines (text : List NumberedChar) :
    (spliceLines text).map Prod.fst = spliceChars (text.map Prod.fst) := by
  fun_induction spliceLines text with
  | case1 => rfl
  | case2 first second rest inductionStep => exact inductionStep
  | case3 head rest other inductionStep =>
    obtain ⟨c, line⟩ := head
    rw [List.map_cons, List.map_cons, inductionStep, spliceChars]
    rintro later (rfl : c = '\\') newline
    obtain ⟨number, _, split, _⟩ := exists_of_map_fst_eq_cons newline
    exact other line number _ rfl split

theorem map_fst_stripComments (state : CommentState) (text : List NumberedChar) :
    (stripComments state text).map Prod.fst = stripChars state (text.map Prod.fst) := by
  fun_induction stripComments state text with
  | case1 => simp [stripChars]
  | case2 => assumption
  | case3 => assumption
  | case4 head rest notLine notBlock inductionStep =>
    obtain ⟨c, line⟩ := head
    rw [List.map_cons, List.map_cons, inductionStep, stripChars]
    · rintro later (rfl : c = '/') again
      obtain ⟨number, _, split, _⟩ := exists_of_map_fst_eq_cons again
      exact notLine line number _ rfl split
    · rintro later (rfl : c = '/') star
      obtain ⟨number, _, split, _⟩ := exists_of_map_fst_eq_cons star
      exact notBlock line number _ rfl split
  | case5 line rest inductionStep => rw [List.map_cons, List.map_cons, inductionStep]; rfl
  | case6 head rest notEnd inductionStep =>
    obtain ⟨c, line⟩ := head
    rw [List.map_cons, inductionStep, stripChars]
    rintro (rfl : c = '\n')
    exact notEnd line rfl
  | case7 first line rest inductionStep =>
    rw [List.map_cons, inductionStep]
    rfl
  | case8 head rest notEnd inductionStep =>
    obtain ⟨c, line⟩ := head
    rw [List.map_cons, inductionStep, stripChars]
    rintro later (rfl : c = '*') slash
    obtain ⟨number, _, split, _⟩ := exists_of_map_fst_eq_cons slash
    exact notEnd line number _ rfl split

theorem map_cutLines (text : List NumberedChar) :
    (cutLines text).map (List.map Prod.fst) = splitAtEvery '\n' (text.map Prod.fst) := by
  fun_induction cutLines text with
  | case1 => rfl
  | case2 line rest inductionStep =>
    rw [List.map_cons, inductionStep]
    rfl
  | case3 head rest other cut inductionStep =>
    rw [cut] at inductionStep
    exact absurd inductionStep.symm splitAtEvery_ne_nil
  | case4 head rest other line lines cut inductionStep =>
    obtain ⟨c, number⟩ := head
    have notEnd : c ≠ '\n' := by
      rintro rfl
      exact other number rfl
    rw [cut] at inductionStep
    exact (splitAtEvery_cons notEnd inductionStep.symm).symm

/-- The lines of a text are the lines of its code. -/
theorem map_logicalLines (text : String) :
    (logicalLines text).map (List.map Prod.fst) = splitAtEvery '\n' (codeOf text.toList) := by
  rw [logicalLines, map_cutLines, map_fst_stripComments, map_fst_spliceLines, map_fst_numberLines]
  rfl

/-! ### What passes through -/

/-- The character starts no line end, no comment and no splice of lines. -/
def Passes (c : Char) : Prop :=
  c ≠ '\r' ∧ c ≠ '\n' ∧ c ≠ '\\' ∧ c ≠ '/'

instance (c : Char) : Decidable (Passes c) := by
  unfold Passes
  infer_instance

variable {before rest : List Char} {c : Char}

/-- What follows a list starts as the list does, unless the list is empty. -/
theorem head_of_append_cons {first : Char} {later : List Char}
    (split : before ++ c :: rest = first :: later) (different : c ≠ first) :
    ∃ tail, before = first :: tail := by
  cases before with
  | nil => exact absurd (List.cons.inj split).1 different
  | cons head tail => exact ⟨tail, by rw [(List.cons.inj split).1]⟩

/-- A character that is no line end stays between what its surroundings become. -/
theorem unifyLineEnds_append_cons (passes : Passes c) :
    unifyLineEnds (before ++ c :: rest) = unifyLineEnds before ++ c :: unifyLineEnds rest := by
  obtain ⟨notReturn, notFeed, _⟩ := passes
  fun_induction unifyLineEnds before with
  | case1 =>
    rw [List.nil_append, unifyLineEnds]
    · rfl
    · exact fun _ same => absurd same notReturn
    · exact fun _ same => absurd same notFeed
    · exact notReturn
  | case2 before inductionStep => simpa [unifyLineEnds] using inductionStep
  | case3 before inductionStep => simpa [unifyLineEnds] using inductionStep
  | case4 before lone inductionStep =>
    rw [List.cons_append, unifyLineEnds, inductionStep]
    · rfl
    · intro later split
      obtain ⟨tail, same⟩ := head_of_append_cons split notFeed
      exact lone tail same
  | case5 first before notPair notOtherPair notLone inductionStep =>
    rw [List.cons_append, unifyLineEnds, inductionStep]
    · rfl
    · intro later same split
      exact notLone same
    · intro later same split
      obtain ⟨tail, starts⟩ := head_of_append_cons split notReturn
      exact notOtherPair tail same starts
    · exact notLone

/-- Every character of the result was there before, or is a line feed. -/
theorem mem_unifyLineEnds {text : List Char} (member : c ∈ unifyLineEnds text) :
    c ∈ text ∨ c = '\n' := by
  fun_induction unifyLineEnds text with
  | case1 => cases member
  | case2 rest inductionStep => grind
  | case3 rest inductionStep => grind
  | case4 rest lone inductionStep => grind
  | case5 first rest notPair notOtherPair notLone inductionStep => grind

/-- No carriage return is left. -/
theorem return_not_mem_unifyLineEnds {text : List Char} : '\r' ∉ unifyLineEnds text := by
  fun_induction unifyLineEnds text with
  | case1 => exact List.not_mem_nil
  | case5 first rest notPair notOtherPair notLone inductionStep =>
    exact List.not_mem_cons_of_ne_of_not_mem (fun same => notLone same.symm) inductionStep
  | _ => exact List.not_mem_cons_of_ne_of_not_mem (by decide) (by assumption)

/-- Without line ends a text stays as it is. -/
theorem unifyLineEnds_of_passes {text : List Char} (passing : ∀ c ∈ text, Passes c) :
    unifyLineEnds text = text := by
  induction text with
  | nil => rfl
  | cons c rest inductionStep =>
    rw [List.forall_mem_cons] at passing
    have single := @unifyLineEnds_append_cons [] rest c passing.1
    rw [List.nil_append] at single
    rw [single, inductionStep passing.2]
    rfl

theorem unifyLineEnds_ne_nil {text : List Char} (filled : text ≠ []) : unifyLineEnds text ≠ [] := by
  fun_cases unifyLineEnds text with
  | case1 => exact filled
  | _ => exact List.cons_ne_nil _ _

theorem spliceChars_append_cons (plain : '\\' ∉ before) (passes : Passes c) :
    spliceChars (before ++ c :: rest) = before ++ c :: spliceChars rest := by
  induction before with
  | nil =>
    rw [List.nil_append, spliceChars]
    · rfl
    · exact fun _ same => absurd same passes.2.2.1
  | cons first before inductionStep =>
    rw [List.mem_cons, not_or] at plain
    rw [List.cons_append, spliceChars, inductionStep plain.2]
    · rfl
    · exact fun _ same => absurd same.symm plain.1

theorem stripChars_append_cons (plain : '/' ∉ before) (passes : Passes c) :
    stripChars .code (before ++ c :: rest) = before ++ c :: stripChars .code rest := by
  induction before with
  | nil =>
    rw [List.nil_append, stripChars]
    · rfl
    · exact fun _ same => absurd same passes.2.2.2
    · exact fun _ same => absurd same passes.2.2.2
  | cons first before inductionStep =>
    rw [List.mem_cons, not_or] at plain
    rw [List.cons_append, stripChars, inductionStep plain.2]
    · rfl
    · exact fun _ same => absurd same.symm plain.1
    · exact fun _ same => absurd same.symm plain.1

/-- A character that passes through, behind characters of which only line ends can change. -/
theorem codeOf_append_cons (noSplice : '\\' ∉ before) (noComment : '/' ∉ before)
    (passes : Passes c) :
    codeOf (before ++ c :: rest) = unifyLineEnds before ++ c :: codeOf rest := by
  have kept : ∀ {special : Char}, special ∉ before → special ≠ '\n' →
      special ∉ unifyLineEnds before := by
    intro special absent different member
    exact (mem_unifyLineEnds member).elim absent different
  rw [codeOf, unifyLineEnds_append_cons passes,
    spliceChars_append_cons (kept noSplice (by decide)) passes,
    stripChars_append_cons (kept noComment (by decide)) passes]
  rfl

/-- Characters that all pass through. -/
theorem codeOf_append (passing : ∀ c ∈ before, Passes c) :
    codeOf (before ++ rest) = before ++ codeOf rest := by
  induction before with
  | nil => rfl
  | cons c before inductionStep =>
    rw [List.forall_mem_cons] at passing
    have single : codeOf (c :: (before ++ rest)) = c :: codeOf (before ++ rest) :=
      @codeOf_append_cons [] _ c List.not_mem_nil List.not_mem_nil passing.1
    rw [List.cons_append, single, inductionStep passing.2, List.cons_append]

/-- A line end becomes a line feed. -/
theorem exists_unifyLineEnds_eq_cons (ends : c = '\n' ∨ c = '\r') (later : List Char) :
    ∃ unified, unifyLineEnds (c :: later) = '\n' :: unified := by
  generalize split : c :: later = text
  fun_cases unifyLineEnds text with
  | case1 => cases split
  | case5 first rest notPair notOtherPair notLone =>
    obtain rfl := (List.cons.inj split).1
    exact ⟨_, by rw [ends.resolve_right notLone]⟩
  | _ => exact ⟨_, rfl⟩

/-- The code of a line up to its end. -/
theorem takeWhile_codeOf (passing : ∀ c ∈ before, Passes c)
    (ends : ∀ c ∈ rest.head?, c = '\n' ∨ c = '\r') :
    (codeOf (before ++ rest)).takeWhile (· ≠ '\n') = before := by
  have inLine : '\n' ∉ before := fun member => (passing _ member).2.1 rfl
  have behind : (codeOf rest).takeWhile (· ≠ '\n') = [] := by
    cases rest with
    | nil => rfl
    | cons c later =>
      obtain ⟨unified, first⟩ := exists_unifyLineEnds_eq_cons (ends c rfl) later
      have code : codeOf (c :: later) = '\n' :: stripChars .code (spliceChars unified) := by
        rw [codeOf, first, spliceChars, stripChars]
        all_goals simp
      rw [code]
      rfl
  rw [codeOf_append passing, takeWhile_ne_append inLine, behind, List.append_nil]

/-! ### The first line -/

/-- The first line of code that is not blank, from its first character on that is no space. -/
def firstLine (code : List Char) : List Char :=
  (code.dropWhile fun c => isSpace c || c = '\n').takeWhile (· ≠ '\n')

/-- It is found by looking through the lines. -/
theorem dropWhile_find?_splitAtEvery (code : List Char) :
    (((splitAtEvery '\n' code).find? fun line => !line.all isSpace).getD []).dropWhile isSpace =
      firstLine code := by
  induction code with
  | nil => rfl
  | cons c rest inductionStep =>
    unfold firstLine at inductionStep ⊢
    by_cases feed : c = '\n'
    · rw [splitAtEvery, if_pos feed, List.dropWhile_cons_of_pos (by simp [feed])]
      exact inductionStep
    · obtain ⟨piece, pieces, cut⟩ := List.exists_cons_of_ne_nil (@splitAtEvery_ne_nil _ _ '\n' rest)
      rw [splitAtEvery_cons feed cut]
      rw [cut] at inductionStep
      by_cases space : isSpace c
      · rw [List.dropWhile_cons_of_pos (by simp [space]), ← inductionStep, List.find?_cons,
          List.find?_cons, List.all_cons, space, Bool.true_and]
        cases blank : piece.all isSpace with
        | true => rfl
        | false => simp [List.dropWhile_cons_of_pos space]
      · rw [List.dropWhile_cons_of_neg (by simp [space, feed]), takeWhile_of_splitAtEvery cut]
        simp [space, feed]

/-! ### Tokens -/

/-- The tokens of characters. -/
def tokensOf? (line : List Char) : Option (List Token) :=
  (lexemesFrom? false 0 line []).map (List.map (·.token))

/-- What else lexemes tell makes no difference to the tokens. -/
theorem map_token_lexemesFrom? (spaced : Bool) (skip : Nat) (line : List Char)
    (numbers : List Nat) :
    (lexemesFrom? spaced skip line numbers).map (List.map (·.token)) =
      tokensOf? (line.drop skip) := by
  induction line generalizing spaced skip numbers with
  | nil => simp [lexemesFrom?, tokensOf?]
  | cons c rest inductionStep =>
    cases skip with
    | succ skip => exact inductionStep false skip numbers.tail
    | zero =>
      rw [List.drop_zero, tokensOf?, lexemesFrom?, lexemesFrom?]
      by_cases space : isSpace c
      · rw [if_pos space, if_pos space, inductionStep, inductionStep]
      · rw [if_neg space, if_neg space]
        cases token? (c :: rest) with
        | none => rfl
        | some found =>
          obtain ⟨token, length⟩ := found
          have inFront : ∀ (line : Nat) (spaced : Bool) (later : Option (List Lexeme)),
              (later.map (⟨token, spaced, line⟩ :: ·)).map (List.map (·.token)) =
                (later.map (List.map (·.token))).map (token :: ·) := by
            intro line spaced later
            cases later <;> rfl
          dsimp only
          rw [inFront, inFront, inductionStep, inductionStep]

/-- The tokens of a line of numbered characters. -/
theorem map_token_lexemesOf? (line : List NumberedChar) :
    (lexemesOf? line).map (List.map (·.token)) = tokensOf? (line.map Prod.fst) :=
  map_token_lexemesFrom? false 0 (line.map Prod.fst) (line.map Prod.snd)

theorem tokensOf?_nil : tokensOf? [] = some [] := rfl

/-- White space in front gives no token. -/
theorem tokensOf?_cons_space (space : isSpace c) : tokensOf? (c :: rest) = tokensOf? rest := by
  rw [tokensOf?, lexemesFrom?]
  rw [if_pos space]
  exact map_token_lexemesFrom? true 0 rest _

/-- A character that starts no token makes the line unreadable; one that does gives it. -/
theorem tokensOf?_cons (starts : ¬ isSpace c) :
    tokensOf? (c :: rest) = (token? (c :: rest)).bind fun (token, length) =>
      (tokensOf? (rest.drop (length - 1))).map (token :: ·) := by
  rw [tokensOf?, lexemesFrom?]
  dsimp only
  rw [if_neg starts]
  cases token? (c :: rest) with
  | none => rfl
  | some found =>
    rw [Option.bind_some, ← map_token_lexemesFrom? false _ rest [].tail, Option.map_map,
      Option.map_map]
    rfl

theorem tokensOf?_spaces {spaces : List Char} (blank : ∀ c ∈ spaces, isSpace c) :
    tokensOf? (spaces ++ rest) = tokensOf? rest := by
  induction spaces with
  | nil => rfl
  | cons c spaces inductionStep =>
    rw [List.forall_mem_cons] at blank
    rw [List.cons_append, tokensOf?_cons_space blank.1, inductionStep blank.2]

/-- A line without tokens is blank. -/
theorem tokensOf?_eq_nil_iff {line : List Char} :
    tokensOf? line = some [] ↔ line.all isSpace := by
  induction line with
  | nil => exact iff_of_true rfl rfl
  | cons c rest inductionStep =>
    by_cases space : isSpace c
    · rw [tokensOf?_cons_space space, inductionStep, List.all_cons, space, Bool.true_and]
    · rw [tokensOf?_cons space]
      refine iff_of_false (fun nothing => ?_) (by simp [space])
      obtain ⟨found, _, later⟩ := Option.bind_eq_some_iff.mp nothing
      obtain ⟨_, _, split⟩ := Option.map_eq_some_iff.mp later
      cases split

/-! ### White space and other characters -/

/-- Where white space is among the code points. -/
theorem toNat_of_isBlank (blank : isBlank c) :
    9 ≤ c.toNat ∧ c.toNat ≤ 13 ∨ c.toNat = 32 ∨ 133 ≤ c.toNat := by
  obtain ⟨range, member, inside⟩ := List.any_eq_true.mp blank
  have placed : ∀ range ∈ blankRanges,
      9 ≤ range.1 ∧ range.2 ≤ 13 ∨ range.1 = 32 ∧ range.2 = 32 ∨ 133 ≤ range.1 := by decide
  have := placed range member
  simp only [Bool.and_eq_true, decide_eq_true_eq] at inside
  omega

/-- Where the letters of ASCII are among the code points. -/
theorem toNat_of_isAlpha (letter : c.isAlpha) : 65 ≤ c.toNat ∧ c.toNat ≤ 122 := by
  have between : ∀ {low high : UInt32}, low ≤ c.val ∧ c.val ≤ high →
      low.toNat ≤ c.toNat ∧ c.toNat ≤ high.toNat := fun inside =>
    ⟨UInt32.le_iff_toNat_le.mp inside.1, UInt32.le_iff_toNat_le.mp inside.2⟩
  have capitals : 'A'.val.toNat = 65 ∧ 'Z'.val.toNat = 90 := ⟨rfl, rfl⟩
  have letters : 'a'.val.toNat = 97 ∧ 'z'.val.toNat = 122 := ⟨rfl, rfl⟩
  rcases (Bool.or_eq_true _ _).mp letter with upper | lower
  · have bounds := between (of_decide_eq_true upper)
    omega
  · obtain ⟨low, high⟩ := (Bool.and_eq_true _ _).mp lower
    have bounds := between ⟨of_decide_eq_true low, of_decide_eq_true high⟩
    omega

theorem isAsciiDigit_iff_toNat : isAsciiDigit c ↔ 48 ≤ c.toNat ∧ c.toNat ≤ 57 := by
  simp only [isAsciiDigit, Bool.and_eq_true, decide_eq_true_eq, Char.le_def,
    UInt32.le_iff_toNat_le]
  rfl

/-- White space is no letter and no digit of ASCII. -/
theorem isAlpha_eq_false_of_isBlank (blank : isBlank c) :
    c.isAlpha = false ∧ c.isDigit = false := by
  have placed := toNat_of_isBlank blank
  refine ⟨Bool.eq_false_iff.mpr fun letter => ?_, Bool.eq_false_iff.mpr fun digit => ?_⟩
  · have bounds := toNat_of_isAlpha letter
    omega
  · have bounds := Char.isDigit_iff_toNat.mp digit
    have digits : '0'.toNat = 48 ∧ '9'.toNat = 57 := ⟨rfl, rfl⟩
    omega

theorem isAsciiDigit_eq_false_of_isBlank (blank : isBlank c) : isAsciiDigit c = false := by
  refine Bool.eq_false_iff.mpr fun digit => ?_
  have placed := toNat_of_isBlank blank
  have bounds := isAsciiDigit_iff_toNat.mp digit
  omega

/-- What a line can be spaced with is white space. -/
theorem isBlank_of_isSpace (space : isSpace c) : isBlank c := by
  simp only [isSpace, Bool.or_eq_true, decide_eq_true_eq] at space
  rcases space with ((rfl | rfl) | rfl) | rfl <;> decide

/-- White space continues no word. -/
theorem continuesWord_eq_false_of_isBlank (blank : isBlank c) : continuesWord c = false := by
  have notPart : isIdentifierPart c = false :=
    CodeRanges.contains_eq_false_of_disjoint (by decide +kernel) blank
  have notUnderscore : c ≠ '_' := by
    rintro rfl
    exact absurd blank (by decide)
  obtain ⟨notLetter, notDigit⟩ := isAlpha_eq_false_of_isBlank blank
  simp [continuesWord, Char.isAlphanum, notLetter, notDigit, notPart, notUnderscore]

/-- White space starts no word. -/
theorem startsWord_eq_false_of_isBlank (blank : isBlank c) : startsWord c = false := by
  have notStart : isIdentifierStart c = false :=
    CodeRanges.contains_eq_false_of_disjoint (by decide +kernel) blank
  have notUnderscore : c ≠ '_' := by
    rintro rfl
    exact absurd blank (by decide)
  simp [startsWord, (isAlpha_eq_false_of_isBlank blank).1, notStart, notUnderscore]

/-- White space starts no mark. -/
theorem mark?_eq_none_of_isBlank (blank : isBlank c) : mark? (c :: rest) = none := by
  have visible : ∀ mark ∈ marks, mark.toList.head?.any (!isBlank ·) := by decide +kernel
  refine List.find?_eq_none.mpr fun mark member start => ?_
  have first := visible mark member
  cases text : mark.toList with
  | nil => simp [text] at first
  | cons head later =>
    rw [text, List.isPrefixOf_cons_cons, Bool.and_eq_true, beq_iff_eq] at start
    simp [text, start.1, blank] at first

/-- White space that a line cannot be spaced with makes the line unreadable. -/
theorem tokensOf?_stray (blank : isBlank c) (stray : ¬ isSpace c) :
    tokensOf? (c :: rest) = none := by
  have notDot : c ≠ '.' := by
    rintro rfl
    exact absurd blank (by decide)
  have noToken : token? (c :: rest) = none := by
    simp [token?, startsWord_eq_false_of_isBlank blank, isAsciiDigit_eq_false_of_isBlank blank,
      notDot, mark?_eq_none_of_isBlank blank]
  rw [tokensOf?_cons stray, noToken]
  rfl

/-! ### One token at a time -/

/-- A number sign is a token by itself. -/
theorem tokensOf?_numberSign :
    tokensOf? ('#' :: rest) = (tokensOf? rest).map (.mark "#" :: ·) := by
  rw [tokensOf?_cons (by decide)]
  rfl

/-- A word reaches as far as its characters do. -/
theorem tokensOf?_word (letter : startsWord c) :
    tokensOf? (c :: rest) = (tokensOf? (rest.dropWhile continuesWord)).map
      (.word (String.ofList (c :: rest.takeWhile continuesWord)) :: ·) := by
  have word : token? (c :: rest) = some (.word (String.ofList (c :: rest.takeWhile continuesWord)),
      (rest.takeWhile continuesWord).length + 1) := by
    rw [token?, if_pos letter]
    rfl
  have after : rest.drop (rest.takeWhile continuesWord).length = rest.dropWhile continuesWord := by
    have split := @List.drop_left _ (rest.takeWhile continuesWord) (rest.dropWhile continuesWord)
    rwa [List.takeWhile_append_dropWhile] at split
  have notSpace : ¬ isSpace c := by
    intro space
    rw [startsWord_eq_false_of_isBlank (isBlank_of_isSpace space)] at letter
    cases letter
  rw [tokensOf?_cons notSpace, word, ← after]
  rfl

/-- A digit starts a number. -/
theorem tokensOf?_digit (digit : isAsciiDigit c) :
    tokensOf? (c :: rest) = (number? (c :: rest)).bind fun (token, after) =>
      (tokensOf? (rest.drop ((c :: rest).length - after.length - 1))).map (token :: ·) := by
  have bounds := isAsciiDigit_iff_toNat.mp digit
  have notSpace : ¬ isSpace c := by
    intro space
    rw [isAsciiDigit_eq_false_of_isBlank (isBlank_of_isSpace space)] at digit
    cases digit
  have notLetter : startsWord c = false := by
    have notAlpha : c.isAlpha = false := by
      refine Bool.eq_false_iff.mpr fun letter => ?_
      have above := toNat_of_isAlpha letter
      omega
    have notUnderscore : c ≠ '_' := by
      rintro rfl
      exact absurd digit (by decide)
    simp only [startsWord, notAlpha, notUnderscore, decide_false, Bool.or_self, Bool.false_or,
      Bool.and_eq_false_iff, decide_eq_false_iff_not]
    omega
  rw [tokensOf?_cons notSpace, token?, notLetter, if_neg Bool.false_ne_true, digit,
    Bool.true_or, if_pos rfl]
  cases number? (c :: rest) <;> rfl

end ShaderCheck.Glsl
