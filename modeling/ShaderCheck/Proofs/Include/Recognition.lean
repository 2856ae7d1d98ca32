/-
**How lines are recognized.**

Two patterns tell the lines that mean something to the expansion. Both begin with a number sign and a
keyword, and no run of white space in them can end anywhere but where the white space does; so they
match in one way at most, and a line is read as its spelling says and not otherwise. No line is
recognized by both, since the keywords differ.

* `Directive.directive`: a number sign, a keyword and an argument as a pattern;
* `Directive.ways_directive`: the ways that it matches;
* `Directive.inclusionPattern`, `Directive.extensionPattern`: the patterns of include lines and extension
  lines;
* `Directive.requestedName?_eq_match?`, `Directive.requestsExtension_iff_match?`: what they recognize;
* `Directive.ofLine?_recognition`: lines, their spellings and the patterns.
-/

import Mathlib.Data.List.TakeWhile
import ShaderCheck.Proofs.Include.Graph
import ShaderCheck.Proofs.Include.Spelling
import ShaderCheck.Proofs.Text.Pattern

namespace ShaderCheck.Directive

open Text Glsl

/-! ### The pattern of a directive -/

/-- White space, a number sign, white space, the keyword, white space and the argument. -/
def directive (keyword : String) (argument : Pattern) : Pattern :=
  .andThen (.many isBlank) <| .andThen (.word "#") <| .andThen (.many isBlank) <|
    .andThen (.word keyword) <| .andThen (.oneOrMore isBlank) argument

section Directive

variable {keyword : String} {pattern : Pattern} {before line argument : List Char}
  {captured : Option (List Char × List Char)}

/-- White space is taken whole in front of a pattern that does not begin with it. -/
theorem ways_many_andThen (solid : pattern.Avoids isBlank) :
    (Pattern.andThen (.many isBlank) pattern).ways ⟨before, line, captured⟩ =
      pattern.ways ⟨before ++ line.takeWhile isBlank, line.dropWhile isBlank, captured⟩ := by
  have taken := @Pattern.flatMap_ways_many isBlank before (line.takeWhile isBlank)
    (line.dropWhile isBlank) captured pattern.ways (List.all_eq_true.mp List.all_takeWhile)
    isBlank_eq_false_of_mem_head? solid
  rwa [List.takeWhile_append_dropWhile] at taken

/-- A word is passed if it is there. -/
theorem ways_word_andThen (word : String) :
    (Pattern.andThen (.word word) pattern).ways ⟨before, line, captured⟩ =
      match after? word line with
      | none => []
      | some rest => pattern.ways ⟨before ++ word.toList, rest, captured⟩ := by
  cases found : after? word line with
  | none =>
    have absent : ¬ word.toList.isPrefixOf line := by
      intro isPrefix
      rw [after?, if_pos isPrefix] at found
      cases found
    rw [Pattern.ways, Pattern.ways, if_neg absent, List.flatMap_nil]
  | some rest =>
    have split := after?_eq_some_iff.mp found
    have isPrefix : word.toList.isPrefixOf line :=
      List.isPrefixOf_iff_prefix.mpr (split ▸ List.prefix_append _ _)
    rw [Pattern.ways, Pattern.ways, if_pos isPrefix, List.flatMap_singleton, split,
      Place.skip_append]

/-- White space behind a keyword is taken whole, if there is some. -/
theorem ways_oneOrMore_andThen (solid : pattern.Avoids isBlank) :
    (Pattern.andThen (.oneOrMore isBlank) pattern).ways ⟨before, line, captured⟩ =
      match afterBlanks? line with
      | none => []
      | some rest => pattern.ways ⟨before ++ line.takeWhile isBlank, rest, captured⟩ := by
  cases line with
  | nil => rfl
  | cons c rest =>
    by_cases blank : isBlank c
    · have taken := @Pattern.flatMap_ways_oneOrMore isBlank before (c :: rest.takeWhile isBlank)
        (rest.dropWhile isBlank) captured pattern.ways (List.cons_ne_nil _ _)
        (List.forall_mem_cons.mpr ⟨blank, List.all_eq_true.mp List.all_takeWhile⟩)
        isBlank_eq_false_of_mem_head? solid
      rw [List.cons_append, List.takeWhile_append_dropWhile] at taken
      rw [Pattern.ways, taken, afterBlanks?, if_pos blank, List.takeWhile_cons_of_pos blank]
    · have absent : ∀ first ∈ (c :: rest).head?, isBlank first = false := by
        intro first same
        obtain rfl := Option.some.inj same
        exact Bool.eq_false_iff.mpr blank
      rw [afterBlanks?, if_neg blank, Pattern.ways, Pattern.ways_oneOrMore_of_absent absent,
        List.flatMap_nil]

/-- **A directive is matched** up to its argument in one way, and without one in none. -/
theorem ways_directive {first : Char} (keyed : keyword.toList.head? = some first)
    (visible : isBlank first = false) (solid : pattern.Avoids isBlank) :
    (argument? keyword line = none ∧
        (directive keyword pattern).ways ⟨before, line, captured⟩ = []) ∨
      ∃ mark argument, argument? keyword line = some argument ∧ line = mark ++ argument ∧
        (directive keyword pattern).ways ⟨before, line, captured⟩ =
          pattern.ways ⟨before ++ mark, argument, captured⟩ := by
  have sign : ∀ others, (Pattern.andThen (.word "#") others).Avoids isBlank := fun others =>
    (Pattern.avoids_word (c := '#') (by decide) (by decide)).andThen others
  have word : ∀ others, (Pattern.andThen (.word keyword) others).Avoids isBlank := fun others =>
    (Pattern.avoids_word keyed visible).andThen others
  rw [directive, ways_many_andThen (sign _), ways_word_andThen, argument?]
  cases marked : after? "#" (line.dropWhile isBlank) with
  | none => exact .inl ⟨rfl, rfl⟩
  | some mark =>
    dsimp only [Option.bind_eq_bind, Option.bind_some]
    rw [ways_many_andThen (word _), ways_word_andThen]
    cases keyedBehind : after? keyword (mark.dropWhile isBlank) with
    | none => exact .inl ⟨rfl, rfl⟩
    | some behind =>
      dsimp only [Option.bind_some]
      rw [ways_oneOrMore_andThen solid]
      cases blanks : afterBlanks? behind with
      | none => exact .inl ⟨rfl, rfl⟩
      | some argument =>
        obtain ⟨back, rfl, _, blank, ends⟩ := afterBlanks?_eq_some_iff.mp blanks
        refine .inr ⟨spelled keyword (line.takeWhile isBlank) (mark.takeWhile isBlank) back [],
          argument, rfl, ?_, ?_⟩
        · have splitLine := @List.takeWhile_append_dropWhile _ isBlank line
          have splitMark := @List.takeWhile_append_dropWhile _ isBlank mark
          rw [after?_eq_some_iff.mp keyedBehind] at splitMark
          rw [after?_eq_some_iff.mp marked, ← splitMark] at splitLine
          rw [spelled_append]
          exact splitLine.symm
        · rw [takeWhile_run blank ends]
          simp [spelled]

end Directive

/-! ### Include lines -/

/-- A name between two characters, which does not hold the second one, as a group. -/
def quoted (opening closing : Char) : Pattern :=
  .andThen (.one (· = opening)) <|
    .andThen (.group (.oneOrMore (· ≠ closing))) (.one (· = closing))

/-- **The pattern of include lines**: `^\s*#\s*include\s+(?:"([^"]+)"|<([^>]+)>)\s*$`. -/
def inclusionPattern : Pattern :=
  .andThen .textStart <| directive "include" <|
    .andThen (.orElse (quoted '"' '"') (quoted '<' '>')) <| .andThen (.many isBlank) .textEnd

section Lines

variable {opening closing c : Char} {before rest argument line : List Char}
  {captured : Option (List Char × List Char)}

/-- What follows an argument has to be white space. -/
theorem ways_ending :
    (Pattern.andThen (.many isBlank) .textEnd).ways ⟨before, rest, captured⟩ =
      if rest.all isBlank then [⟨before ++ rest, [], captured⟩] else [] := by
  rw [ways_many_andThen Pattern.avoids_textEnd, Pattern.ways]
  by_cases blank : rest.all isBlank
  · have all := List.all_eq_true.mp blank
    rw [if_pos blank, List.dropWhile_eq_nil_iff.mpr all, if_pos rfl,
      List.takeWhile_eq_self_iff.mpr all]
  · have left : rest.dropWhile isBlank ≠ [] := fun nothing =>
      blank (List.all_eq_true.mpr (List.dropWhile_eq_nil_iff.mp nothing))
    rw [if_neg blank, if_neg left]

/-- A quoted name is matched in one way at most: up to the first character that closes it. -/
theorem ways_quoted :
    (quoted opening closing).ways ⟨before, opening :: rest, captured⟩ =
      match rest.dropWhile (· ≠ closing) with
      | [] => []
      | _ :: later =>
        if rest.takeWhile (· ≠ closing) = [] then []
        else [⟨before ++ opening :: rest.takeWhile (· ≠ closing) ++ [closing], later,
          some (before ++ [opening], rest.takeWhile (· ≠ closing))⟩] := by
  have closes : (Pattern.one (· = closing)).Avoids fun c => decide (c ≠ closing) :=
    Pattern.avoids_one fun c other => by simpa using other
  have stops : ∀ c ∈ (rest.dropWhile (· ≠ closing)).head?, decide (c ≠ closing) = false := by
    intro c first
    have stopped := List.head?_dropWhile_not (· ≠ closing) rest
    rw [Option.mem_def.mp first] at stopped
    exact stopped
  have split := @List.takeWhile_append_dropWhile _ (· ≠ closing) rest
  have inside : ∀ c ∈ rest.takeWhile (· ≠ closing), decide (c ≠ closing) = true :=
    List.all_eq_true.mp List.all_takeWhile
  rw [quoted, Pattern.ways, Pattern.ways_one (by simp), List.flatMap_singleton, Pattern.ways]
  generalize rest.takeWhile (· ≠ closing) = name at split inside ⊢
  generalize rest.dropWhile (· ≠ closing) = left at split stops ⊢
  obtain rfl := split
  by_cases empty : name = []
  · rw [Pattern.ways, Pattern.ways_oneOrMore_of_absent (by rwa [empty, List.nil_append]),
      List.map_nil, List.flatMap_nil]
    cases left with
    | nil => rfl
    | cons c later => exact (if_pos empty).symm
  · rw [Pattern.flatMap_ways_group empty inside stops closes]
    cases left with
    | nil => rfl
    | cons c later =>
      have same : c = closing := by simpa using stops c rfl
      dsimp only
      rw [if_neg empty, Pattern.ways_one (by simpa using same), same]
      simp

/-- It is not matched where another character stands than the one that opens it. -/
theorem avoids_quoted {belongs : Char → Bool} (apart : belongs opening = false) :
    (quoted opening closing).Avoids belongs := by
  refine (Pattern.avoids_one fun c stands => decide_eq_false ?_).andThen _
  rintro rfl
  rw [apart] at stands
  cases stands

theorem ways_quoted_of_ne (other : c ≠ opening) :
    (quoted opening closing).ways ⟨before, c :: rest, captured⟩ = [] := by
  have apart : (quoted opening closing).Avoids fun first => decide (first ≠ opening) :=
    avoids_quoted (by simp)
  exact apart _ (by simpa using other)

/-- **A quoted argument** is read as a name by the pattern if it is one. -/
theorem captured?_quoted :
    ((Pattern.andThen (quoted opening closing) (.andThen (.many isBlank) .textEnd)).ways
        ⟨before, opening :: rest, captured⟩).head?.bind Place.captured? =
      nameBefore? closing rest := by
  rw [Pattern.ways, ways_quoted, nameBefore?]
  cases rest.dropWhile (· ≠ closing) with
  | nil => rfl
  | cons c later =>
    dsimp only
    by_cases empty : rest.takeWhile (· ≠ closing) = []
    · rw [if_pos empty, if_neg fun filled => filled.1 empty]
      rfl
    · rw [if_neg empty, List.flatMap_singleton, ways_ending]
      by_cases blank : later.all isBlank
      · rw [if_pos blank, if_pos ⟨empty, blank⟩]
        rfl
      · rw [if_neg blank, if_neg fun both => blank both.2]
        rfl

/-- **The pattern of include lines** recognizes the name that a line asks for. -/
theorem requestedName?_eq_match? (line : List Char) :
    requestedName? line = (inclusionPattern.match? line).bind Place.captured? := by
  have solid : ∀ ending, (Pattern.andThen (.orElse (quoted '"' '"') (quoted '<' '>')) ending).Avoids
      isBlank := fun ending =>
    ((avoids_quoted isBlank_quote.1).orElse (avoids_quoted isBlank_quote.2)).andThen ending
  rw [inclusionPattern, Pattern.match?_textStart, requestedName?]
  rcases @ways_directive "include" _ [] line none 'i' rfl (by decide) (solid _) with
    ⟨absent, none⟩ | ⟨mark, argument, found, _, ways⟩
  · rw [absent, none]
    rfl
  · rw [found, ways, Pattern.ways, Pattern.ways, List.flatMap_append]
    dsimp only [Option.bind_eq_bind, Option.bind_some]
    split
    · have other : '"' ≠ '<' := by decide
      rw [ways_quoted_of_ne other, List.flatMap_nil, List.append_nil]
      exact captured?_quoted.symm
    · have other : '<' ≠ '"' := by decide
      rw [ways_quoted_of_ne other, List.flatMap_nil, List.nil_append]
      exact captured?_quoted.symm
    · rename_i unquoted unclosed
      cases argument with
      | nil => rfl
      | cons c rest =>
        rw [ways_quoted_of_ne fun same => unquoted rest (by rw [same]),
          ways_quoted_of_ne fun same => unclosed rest (by rw [same])]
        rfl

/-- **The pattern of extension lines**: `^\s*#\s*extension\s+GL_ARB_shading_language_include\b`. -/
def extensionPattern : Pattern :=
  .andThen .textStart <| directive "extension" <|
    .andThen (.word "GL_ARB_shading_language_include") .wordBoundary

theorem requestsExtension_iff_match? (line : List Char) :
    requestsExtension line = (extensionPattern.match? line).isSome := by
  have solid : ∀ ending, (Pattern.andThen (.word "GL_ARB_shading_language_include") ending).Avoids
      isBlank := fun ending => (Pattern.avoids_word (c := 'G') rfl (by decide)).andThen ending
  rw [extensionPattern, Pattern.match?_textStart, requestsExtension]
  rcases @ways_directive "extension" _ [] line none 'e' rfl (by decide) (solid _) with
    ⟨absent, none⟩ | ⟨mark, argument, found, _, ways⟩
  · rw [absent, none]
    rfl
  · rw [found, ways, ways_word_andThen]
    dsimp only
    cases after? "GL_ARB_shading_language_include" argument with
    | none => rfl
    | some rest =>
      have word : ([] ++ mark ++ "GL_ARB_shading_language_include".toList).getLast?.any
          isWordChar = true := by
        have last : "GL_ARB_shading_language_include".toList.getLast? = some 'e' := by decide
        rw [List.getLast?_append, last, Option.some_or, Option.any_some]
        decide +kernel
      dsimp only
      unfold Pattern.ways
      dsimp only
      rw [word]
      cases rest with
      | nil => rfl
      | cons c later =>
        cases ends : isWordChar c <;> simp [ends]

end Lines

/-! ### Lines -/

/-- The line is spelled as an include line for the name: `#`, `include` and the name between double
quotes or angle brackets, with white space around them, some of it in front of the name. -/
def IsInclusion (line : List Char) (name : String) : Prop :=
  ∃ front middle back quoted rest, BlankSpacing front middle back ∧ Quotes name quoted ∧
    (∀ c ∈ rest, isBlank c) ∧ line = spelled "include" front middle back (quoted ++ rest)

/-- The line is spelled as an extension line: `#`, `extension` and the name of the include extension,
spaced in the same way, with the end or a character behind the name that continues no word. -/
def IsExtensionRequest (line : List Char) : Prop :=
  ∃ front middle back rest, BlankSpacing front middle back ∧
    (∀ c ∈ rest.head?, isWordChar c = false) ∧
    line = spelled "extension" front middle back (includeExtension ++ rest)

/-- A line with one keyword is none with another one: it is the first word behind the number sign. -/
theorem argument?_extension_of_inclusion {line : List Char} {name : String}
    (inclusion : IsInclusion line name) : argument? "extension" line = none := by
  obtain ⟨front, middle, back, quoted, rest, spacing, _, _, rfl⟩ := inclusion
  have marked : (spelled "include" front middle back (quoted ++ rest)).dropWhile isBlank =
      '#' :: (middle ++ ("include".toList ++ (back ++ (quoted ++ rest)))) :=
    dropWhile_run spacing.blankFront (by simp; decide)
  have keyed : (middle ++ ("include".toList ++ (back ++ (quoted ++ rest)))).dropWhile isBlank =
      "include".toList ++ (back ++ (quoted ++ rest)) :=
    dropWhile_run spacing.blankMiddle (by simp; decide)
  have sign : after? "#" ('#' :: (middle ++ ("include".toList ++ (back ++ (quoted ++ rest))))) =
      some (middle ++ ("include".toList ++ (back ++ (quoted ++ rest)))) :=
    after?_eq_some_iff.mpr rfl
  rw [argument?, marked, sign]
  dsimp only [Option.bind_eq_bind, Option.bind_some]
  rw [keyed]
  rfl

theorem requestsExtension_of_inclusion {line : List Char} {name : String}
    (inclusion : IsInclusion line name) : requestsExtension line = false := by
  rw [requestsExtension, argument?_extension_of_inclusion inclusion]

theorem ofLine?_eq_inclusion_iff_isInclusion {line name : String} :
    ofLine? line = some (.inclusion name) ↔ IsInclusion line.toList name := by
  rw [ofLine?_eq_inclusion_iff, requestedName?_eq_some_iff]
  exact and_iff_right_of_imp requestsExtension_of_inclusion

theorem ofLine?_eq_extensionRequest_iff {line : String} :
    ofLine? line = some .extensionRequest ↔ IsExtensionRequest line.toList := by
  rw [IsExtensionRequest, ← requestsExtension_iff]
  unfold ofLine?
  cases requestsExtension line.toList <;> simp

/-- **How a line is recognized.** It asks for a name exactly if it is spelled as an include line for this
name, and for the include extension exactly if it is spelled as an extension line. No line is spelled
for two names, and none in both ways; and a carriage return behind it makes no difference to a line.
This is what the two patterns say of it, the one of extension lines before the one of include lines, by
what they find first. -/
theorem ofLine?_recognition (line : String) :
    (∀ name, ofLine? line = some (.inclusion name) ↔ IsInclusion line.toList name) ∧
      (ofLine? line = some .extensionRequest ↔ IsExtensionRequest line.toList) ∧
      (∀ name other, IsInclusion line.toList name → IsInclusion line.toList other →
        name = other) ∧
      (∀ name, IsInclusion line.toList name → ¬ IsExtensionRequest line.toList) ∧
      ofLine? (line ++ "\r") = ofLine? line ∧
      ofLine? line =
        if (extensionPattern.match? line.toList).isSome then some .extensionRequest
        else ((inclusionPattern.match? line.toList).bind Place.captured?).map .inclusion := by
  refine ⟨fun name => ofLine?_eq_inclusion_iff_isInclusion, ofLine?_eq_extensionRequest_iff,
    fun name other inclusion another => ?_, fun name inclusion request => ?_, ?_, ?_⟩
  · have same := (ofLine?_eq_inclusion_iff_isInclusion.mpr inclusion).symm.trans
      (ofLine?_eq_inclusion_iff_isInclusion.mpr another)
    exact Directive.inclusion.inj (Option.some.inj same)
  · cases (ofLine?_eq_inclusion_iff_isInclusion.mpr inclusion).symm.trans
      (ofLine?_eq_extensionRequest_iff.mpr request)
  · have returned : (line ++ "\r").toList = line.toList ++ ['\r'] := String.toList_append
    rw [ofLine?, ofLine?, returned, requestsExtension_append_return,
      requestedName?_append_return]
  · rw [ofLine?, requestsExtension_iff_match?, requestedName?_eq_match?]

end ShaderCheck.Directive
