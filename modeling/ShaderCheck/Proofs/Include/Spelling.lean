/-
**How directives are spelled.**

A directive is a number sign, a keyword and an argument, with white space in front of each of them and
at least one white space character behind the keyword. The argument of an include line is a name
between double quotes or angle brackets, with nothing but white space behind it; the argument of an
extension line starts with the name of the include extension, as a whole word.

* `Directive.spelled`, `Directive.argument?_eq_some_iff`: a directive with any keyword;
* `Directive.requestedName?_eq_some_iff`: include lines;
* `Directive.requestsExtension_iff`: extension lines;
* `Directive.requestedName?_append_return`, `Directive.requestsExtension_append_return`: a carriage
  return behind a line makes no difference to either.
-/

import ShaderCheck.Include
import ShaderCheck.Proofs.Glsl.VersionLine

namespace ShaderCheck.Directive

open Text Glsl

/-! ### Keyword and argument -/

/-- White space, a number sign, white space, the keyword, white space and the argument. -/
def spelled (keyword : String) (front middle back argument : List Char) : List Char :=
  front ++ '#' :: (middle ++ (keyword.toList ++ (back ++ argument)))

theorem spelled_append (keyword : String) (front middle back argument later : List Char) :
    spelled keyword front middle back argument ++ later =
      spelled keyword front middle back (argument ++ later) := by
  simp [spelled]

theorem after?_eq_some_iff {text : String} {line rest : List Char} :
    after? text line = some rest ↔ line = text.toList ++ rest := by
  unfold after?
  rw [Option.ite_none_right_eq_some, List.isPrefixOf_iff_prefix]
  constructor
  · rintro ⟨⟨later, rfl⟩, same⟩
    rw [← Option.some.inj same, List.drop_left]
  · rintro rfl
    exact ⟨List.prefix_append _ _, by rw [List.drop_left]⟩

theorem exists_blanks (line : List Char) :
    ∃ blanks, line = blanks ++ line.dropWhile isBlank ∧ ∀ c ∈ blanks, isBlank c :=
  ⟨line.takeWhile isBlank, List.takeWhile_append_dropWhile.symm,
    List.all_eq_true.mp List.all_takeWhile⟩

theorem isBlank_eq_false_of_mem_head? {line : List Char} :
    ∀ c ∈ (line.dropWhile isBlank).head?, isBlank c = false := by
  intro c first
  have skipped := List.head?_dropWhile_not isBlank line
  rw [Option.mem_def.mp first] at skipped
  exact skipped

/-- At least one white space character stands in front of an argument, which starts with none. -/
theorem afterBlanks?_eq_some_iff {line rest : List Char} :
    afterBlanks? line = some rest ↔
      ∃ blanks, line = blanks ++ rest ∧ blanks ≠ [] ∧ (∀ c ∈ blanks, isBlank c) ∧
        ∀ c ∈ rest.head?, isBlank c = false := by
  constructor
  · intro found
    cases line with
    | nil => cases found
    | cons c later =>
      rw [afterBlanks?, Option.ite_none_right_eq_some] at found
      obtain ⟨blank, same⟩ := found
      obtain ⟨blanks, split, others⟩ := exists_blanks later
      obtain rfl := Option.some.inj same
      exact ⟨c :: blanks, by rw [List.cons_append, ← split], List.cons_ne_nil c blanks,
        List.forall_mem_cons.mpr ⟨blank, others⟩, isBlank_eq_false_of_mem_head?⟩
  · rintro ⟨blanks, rfl, filled, blank, ends⟩
    obtain ⟨c, others, rfl⟩ := List.exists_cons_of_ne_nil filled
    rw [List.forall_mem_cons] at blank
    rw [List.cons_append, afterBlanks?, if_pos blank.1, dropWhile_run blank.2 ends]

/-- **A directive** is its keyword and its argument, which starts with no white space. -/
theorem argument?_eq_some_iff {keyword : String} {line argument : List Char}
    (solid : ∀ rest : List Char, ∀ c ∈ (keyword.toList ++ rest).head?, isBlank c = false) :
    argument? keyword line = some argument ↔
      ∃ front middle back, BlankSpacing front middle back ∧
        line = spelled keyword front middle back argument ∧
        ∀ c ∈ argument.head?, isBlank c = false := by
  have sign : ∀ c ∈ some '#', isBlank c = false := by
    intro c same
    obtain rfl := Option.some.inj same
    decide
  constructor
  · intro found
    obtain ⟨mark, marked, behind⟩ := Option.bind_eq_some_iff.mp found
    obtain ⟨word, keyed, blanks⟩ := Option.bind_eq_some_iff.mp behind
    obtain ⟨front, splitFront, blankFront⟩ := exists_blanks line
    obtain ⟨middle, splitMiddle, blankMiddle⟩ := exists_blanks mark
    obtain ⟨back, splitBack, filled, blankBack, ends⟩ := afterBlanks?_eq_some_iff.mp blanks
    refine ⟨front, middle, back, ⟨blankFront, blankMiddle, blankBack, filled⟩, ?_, ends⟩
    rw [splitFront, after?_eq_some_iff.mp marked, splitMiddle, after?_eq_some_iff.mp keyed,
      splitBack]
    rfl
  · rintro ⟨front, middle, back, spacing, rfl, ends⟩
    have marked : (spelled keyword front middle back argument).dropWhile isBlank =
        '#' :: (middle ++ (keyword.toList ++ (back ++ argument))) :=
      dropWhile_run spacing.blankFront sign
    have keyed : (middle ++ (keyword.toList ++ (back ++ argument))).dropWhile isBlank =
        keyword.toList ++ (back ++ argument) :=
      dropWhile_run spacing.blankMiddle (solid _)
    refine Option.bind_eq_some_iff.mpr ⟨_, after?_eq_some_iff.mpr (by rw [marked]; rfl), ?_⟩
    refine Option.bind_eq_some_iff.mpr ⟨_, after?_eq_some_iff.mpr keyed, ?_⟩
    exact afterBlanks?_eq_some_iff.mpr ⟨back, rfl, spacing.filled, spacing.blankBack, ends⟩

/-! ### Include lines -/

/-- The name between double quotes or angle brackets: it is not empty and does not hold the character
that closes it. -/
inductive Quotes (name : String) : List Char → Prop
  | double (filled : name ≠ "") (unquoted : '"' ∉ name.toList) :
    Quotes name ('"' :: (name.toList ++ ['"']))
  | angled (filled : name ≠ "") (unclosed : '>' ∉ name.toList) :
    Quotes name ('<' :: (name.toList ++ ['>']))

/-- A name ends at the first character that closes it, with white space behind. -/
theorem nameBefore?_eq_some_iff {closing : Char} {argument : List Char} {name : String} :
    nameBefore? closing argument = some name ↔
      ∃ rest, argument = name.toList ++ closing :: rest ∧ name ≠ "" ∧ closing ∉ name.toList ∧
        ∀ c ∈ rest, isBlank c := by
  constructor
  · intro found
    unfold nameBefore? at found
    split at found
    · cases found
    · rename_i c rest cut
      rw [Option.ite_none_right_eq_some] at found
      obtain ⟨⟨filled, blank⟩, same⟩ := found
      obtain rfl := Option.some.inj same
      obtain ⟨split, absent⟩ := cut_of_dropWhile_ne cut
      refine ⟨rest, ?_, ?_, ?_, List.all_eq_true.mp blank⟩
      · rw [String.toList_ofList, ← split]
      · rwa [ne_eq, ← String.toList_eq_nil_iff, String.toList_ofList]
      · rwa [String.toList_ofList]
  · rintro ⟨rest, rfl, filled, absent, blank⟩
    have written : name.toList ≠ [] := fun empty => filled (String.toList_eq_nil_iff.mp empty)
    have ends : ∀ c ∈ (closing :: rest).head?, decide (c ≠ closing) = false := by
      intro c same
      obtain rfl := Option.some.inj same
      simp
    rw [nameBefore?, dropWhile_run (decide_ne_of_not_mem absent) ends,
      takeWhile_run (decide_ne_of_not_mem absent) ends]
    dsimp only
    rw [if_pos ⟨written, List.all_eq_true.mpr blank⟩, String.ofList_toList]

theorem isBlank_quote : isBlank '"' = false ∧ isBlank '<' = false := by decide

/-- **An include line** is the keyword with a name in quotes, and white space behind it. -/
theorem requestedName?_eq_some_iff {line : List Char} {name : String} :
    requestedName? line = some name ↔
      ∃ front middle back quoted rest, BlankSpacing front middle back ∧ Quotes name quoted ∧
        (∀ c ∈ rest, isBlank c) ∧ line = spelled "include" front middle back (quoted ++ rest) := by
  have solid : ∀ rest : List Char, ∀ c ∈ ("include".toList ++ rest).head?, isBlank c = false := by
    intro rest c same
    obtain rfl := Option.some.inj same
    decide
  constructor
  · intro found
    obtain ⟨argument, spelling, named⟩ := Option.bind_eq_some_iff.mp found
    obtain ⟨front, middle, back, spacing, rfl, _⟩ := (argument?_eq_some_iff solid).mp spelling
    split at named
    · obtain ⟨rest, rfl, filled, unquoted, blank⟩ := nameBefore?_eq_some_iff.mp named
      exact ⟨front, middle, back, _, rest, spacing, .double filled unquoted, blank, by simp⟩
    · obtain ⟨rest, rfl, filled, unclosed, blank⟩ := nameBefore?_eq_some_iff.mp named
      exact ⟨front, middle, back, _, rest, spacing, .angled filled unclosed, blank, by simp⟩
    · cases named
  · rintro ⟨front, middle, back, quoted, rest, spacing, quotes, blank, rfl⟩
    cases quotes with
    | double filled unquoted =>
      refine Option.bind_eq_some_iff.mpr ⟨_, (argument?_eq_some_iff solid).mpr
        ⟨front, middle, back, spacing, rfl, ?_⟩, ?_⟩
      · intro c same
        obtain rfl := Option.some.inj same
        exact isBlank_quote.1
      · exact nameBefore?_eq_some_iff.mpr ⟨rest, by simp, filled, unquoted, blank⟩
    | angled filled unclosed =>
      refine Option.bind_eq_some_iff.mpr ⟨_, (argument?_eq_some_iff solid).mpr
        ⟨front, middle, back, spacing, rfl, ?_⟩, ?_⟩
      · intro c same
        obtain rfl := Option.some.inj same
        exact isBlank_quote.2
      · exact nameBefore?_eq_some_iff.mpr ⟨rest, by simp, filled, unclosed, blank⟩

/-! ### Extension lines -/

/-- The name of the include extension. -/
def includeExtension : List Char :=
  "GL_ARB_shading_language_include".toList

/-- **An extension line** is the keyword with the name of the include extension, which no further
character of a word follows. -/
theorem requestsExtension_iff {line : List Char} :
    requestsExtension line ↔
      ∃ front middle back rest, BlankSpacing front middle back ∧
        (∀ c ∈ rest.head?, isWordChar c = false) ∧
        line = spelled "extension" front middle back (includeExtension ++ rest) := by
  have solid : ∀ rest : List Char,
      ∀ c ∈ ("extension".toList ++ rest).head?, isBlank c = false := by
    intro rest c same
    obtain rfl := Option.some.inj same
    decide
  constructor
  · intro requests
    unfold requestsExtension at requests
    split at requests
    · cases requests
    · rename_i argument spelling
      obtain ⟨front, middle, back, spacing, rfl, _⟩ := (argument?_eq_some_iff solid).mp spelling
      split at requests
      · cases requests
      · rename_i named
        obtain rfl := after?_eq_some_iff.mp named
        exact ⟨front, middle, back, [], spacing, nofun, rfl⟩
      · rename_i c rest named
        obtain rfl := after?_eq_some_iff.mp named
        refine ⟨front, middle, back, c :: rest, spacing, ?_, rfl⟩
        intro first same
        obtain rfl := Option.some.inj same
        simpa using requests
  · rintro ⟨front, middle, back, rest, spacing, ends, rfl⟩
    have spelling : argument? "extension" (spelled "extension" front middle back
        (includeExtension ++ rest)) = some (includeExtension ++ rest) := by
      refine (argument?_eq_some_iff solid).mpr ⟨front, middle, back, spacing, rfl, ?_⟩
      intro c same
      obtain rfl := Option.some.inj same
      decide
    have named : after? "GL_ARB_shading_language_include" (includeExtension ++ rest) = some rest :=
      after?_eq_some_iff.mpr rfl
    rw [requestsExtension, spelling]
    dsimp only
    rw [named]
    cases rest with
    | nil => rfl
    | cons c later => simpa using ends c rfl

/-! ### A carriage return behind a line -/

/-- A carriage return behind a line whose first part has none at its end is behind the second part. -/
theorem exists_of_append_return {line before rest : List Char}
    (split : line ++ ['\r'] = before ++ rest) (unreturned : before.getLast? ≠ some '\r') :
    ∃ later, rest = later ++ ['\r'] ∧ line = before ++ later := by
  rcases List.eq_nil_or_concat rest with rfl | ⟨later, c, rfl⟩
  · rw [List.append_nil] at split
    refine absurd ?_ unreturned
    rw [← split, List.getLast?_concat]
  · rw [List.concat_eq_append, ← List.append_assoc] at split
    obtain ⟨same, last⟩ := List.append_inj' split rfl
    rw [List.concat_eq_append, ← last]
    exact ⟨later, rfl, same⟩

theorem getLast?_spelled {keyword : String} {front middle back argument : List Char}
    (filled : argument ≠ []) :
    (spelled keyword front middle back argument).getLast? = argument.getLast? := by
  have split : spelled keyword front middle back argument =
      (front ++ '#' :: (middle ++ (keyword.toList ++ back))) ++ argument := by
    simp [spelled]
  rw [split, List.getLast?_append, List.getLast?_eq_some_getLast filled, Option.some_or]

theorem Quotes.getLast?_ne {name : String} {quoted : List Char} (quotes : Quotes name quoted) :
    quoted ≠ [] ∧ quoted.getLast? ≠ some '\r' := by
  cases quotes <;> simp [List.getLast?_cons]

theorem requestedName?_append_return (line : List Char) :
    requestedName? (line ++ ['\r']) = requestedName? line := by
  refine Option.ext fun name => ?_
  rw [requestedName?_eq_some_iff, requestedName?_eq_some_iff]
  constructor
  · rintro ⟨front, middle, back, quoted, rest, spacing, quotes, blank, split⟩
    rw [← spelled_append] at split
    obtain ⟨filled, unreturned⟩ := quotes.getLast?_ne
    rw [← getLast?_spelled filled] at unreturned
    obtain ⟨later, rfl, rfl⟩ := exists_of_append_return split unreturned
    exact ⟨front, middle, back, quoted, later, spacing, quotes,
      fun c member => blank c (List.mem_append_left _ member), spelled_append ..⟩
  · rintro ⟨front, middle, back, quoted, rest, spacing, quotes, blank, rfl⟩
    refine ⟨front, middle, back, quoted, rest ++ ['\r'], spacing, quotes, ?_, ?_⟩
    · intro c member
      rcases List.mem_append.mp member with old | new
      · exact blank c old
      · rw [List.mem_singleton.mp new]
        decide
    · rw [spelled_append, List.append_assoc]

theorem requestsExtension_append_return (line : List Char) :
    requestsExtension (line ++ ['\r']) = requestsExtension line := by
  rw [Bool.eq_iff_iff, requestsExtension_iff, requestsExtension_iff]
  constructor
  · rintro ⟨front, middle, back, rest, spacing, ends, split⟩
    rw [← spelled_append] at split
    have unreturned : (spelled "extension" front middle back includeExtension).getLast? ≠
        some '\r' := by
      rw [getLast?_spelled (by decide)]
      decide
    obtain ⟨later, rfl, rfl⟩ := exists_of_append_return split unreturned
    refine ⟨front, middle, back, later, spacing, fun c first => ends c ?_, spelled_append ..⟩
    obtain ⟨others, rfl⟩ := List.head?_eq_some_iff.mp first
    rfl
  · rintro ⟨front, middle, back, rest, spacing, ends, rfl⟩
    refine ⟨front, middle, back, rest ++ ['\r'], spacing, ?_, ?_⟩
    · intro c first
      cases rest with
      | nil =>
        obtain rfl := Option.some.inj first
        decide +kernel
      | cons other later => exact ends c first
    · rw [spelled_append, List.append_assoc]

end ShaderCheck.Directive
