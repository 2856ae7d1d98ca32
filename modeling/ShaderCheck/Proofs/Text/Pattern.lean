/-
**Patterns, and how they are looked for.**

A pattern matches at a place of a text in several ways, one of them preferred to the next: a run of a
class is taken as long as it can be first, and then shorter and shorter, and of two alternatives the
first one comes first. A way that the rest of the pattern does not go on from is given up for the next
one. What counts is the preferred way at the first place where there is one.

* `Place`, `Pattern`: places in a text, and patterns;
* `Pattern.ways`: the ways that a pattern matches at a place, in the order of preference;
* `Pattern.match?`: what is found in a text;
* `Pattern.flatMap_ways_many`: a run is taken whole if the rest of the pattern does not begin with the
  characters of its class;
* `Pattern.match?_textStart`, `Pattern.matchAfter?_lineStart`: a pattern that begins where a text or a
  line does is found there or not at all.
-/

import ShaderCheck.Proofs.Text.Lines
import ShaderCheck.Text.Characters

namespace ShaderCheck.Text

/-- A place in a text that has been matched up to there, and what the last group of the pattern has
matched: the text in front of it and its own. -/
structure Place where
  before : List Char
  after : List Char
  group : Option (List Char × List Char)
deriving DecidableEq, Repr

/-- The text that the last group in front of a place has matched. -/
def Place.captured? (place : Place) : Option String :=
  place.group.map fun cut => String.ofList cut.2

/-- The place so many characters further on. -/
def Place.skip (place : Place) (count : Nat) : Place :=
  { place with before := place.before ++ place.after.take count, after := place.after.drop count }

theorem Place.skip_append (before run rest : List Char) (group : Option (List Char × List Char)) :
    Place.skip ⟨before, run ++ rest, group⟩ run.length = ⟨before ++ run, rest, group⟩ := by
  simp [skip]

/-- What is looked for in a text. -/
inductive Pattern
  /-- One character of a class. -/
  | one (belongs : Char → Bool)
  /-- Any number of characters of a class, many rather than few. -/
  | many (belongs : Char → Bool)
  /-- These characters. -/
  | word (text : String)
  /-- Nothing, at the start of the text. -/
  | textStart
  /-- Nothing, at the end of the text. -/
  | textEnd
  /-- Nothing, at the start of a line, which a line feed ends. -/
  | lineStart
  /-- Nothing, between a character that continues a word and one that does not. -/
  | wordBoundary
  /-- One pattern and another one behind it. -/
  | andThen (first second : Pattern)
  /-- One pattern rather than another one. -/
  | orElse (first second : Pattern)
  /-- A pattern as a group. -/
  | group (inner : Pattern)

namespace Pattern

/-- The ways that a pattern matches at a place, as the places where they end. The preferred one is the
first. -/
@[simp]
def ways : Pattern → Place → List Place
  | one belongs, place => if place.after.head?.any belongs then [place.skip 1] else []
  | many belongs, place =>
    (List.range ((place.after.takeWhile belongs).length + 1)).reverse.map place.skip
  | word text, place =>
    if text.toList.isPrefixOf place.after then [place.skip text.toList.length] else []
  | textStart, place => if place.before = [] then [place] else []
  | textEnd, place => if place.after = [] then [place] else []
  | lineStart, place =>
    if place.before = [] ∨ place.before.getLast? = some '\n' then [place] else []
  | wordBoundary, place =>
    if place.before.getLast?.any isWordChar = place.after.head?.any isWordChar then [] else [place]
  | andThen first second, place => (first.ways place).flatMap second.ways
  | orElse first second, place => first.ways place ++ second.ways place
  | group inner, place =>
    (inner.ways place).map fun ended =>
      { ended with group := some (place.before, ended.before.drop place.before.length) }

/-- The preferred way at the first place of `rest`, the text behind `before`, where the pattern
matches. -/
def matchAfter? (pattern : Pattern) (before : List Char) : List Char → Option Place
  | [] => (pattern.ways ⟨before, [], none⟩).head?
  | c :: rest =>
    (pattern.ways ⟨before, c :: rest, none⟩).head?.or (matchAfter? pattern (before ++ [c]) rest)

/-- The preferred way at the first place of the text where the pattern matches. -/
def match? (pattern : Pattern) (text : List Char) : Option Place :=
  pattern.matchAfter? [] text

/-- One character of a class or more, many rather than few. -/
def oneOrMore (belongs : Char → Bool) : Pattern :=
  .andThen (.one belongs) (.many belongs)

variable {belongs : Char → Bool} {before run rest text : List Char}
  {captured : Option (List Char × List Char)} {next : Place → List Place}

/-! ### Runs -/

/-- **A run is taken whole** if what comes next does not begin with a character of its class: with one
of them left over, there is no way on. -/
theorem flatMap_ways_many (inside : ∀ c ∈ run, belongs c = true)
    (ends : ∀ c ∈ rest.head?, belongs c = false)
    (solid : ∀ place : Place, place.after.head?.any belongs → next place = []) :
    ((many belongs).ways ⟨before, run ++ rest, captured⟩).flatMap next =
      next ⟨before ++ run, rest, captured⟩ := by
  have fewer : ((List.range run.length).reverse.map
      (Place.skip ⟨before, run ++ rest, captured⟩)).flatMap next = [] := by
    rw [List.flatMap_eq_nil_iff]
    intro place member
    obtain ⟨count, less, rfl⟩ := List.mem_map.mp member
    rw [List.mem_reverse, List.mem_range] at less
    refine solid _ ?_
    have left : (run ++ rest).drop count = run[count] :: (run.drop (count + 1) ++ rest) := by
      rw [List.drop_append_of_le_length (Nat.le_of_lt less), List.drop_eq_getElem_cons less,
        List.cons_append]
    rw [Place.skip, left]
    exact inside _ (List.getElem_mem less)
  rw [ways, takeWhile_run inside ends, List.range_succ, List.reverse_append, List.map_append,
    List.flatMap_append, fewer, List.append_nil, List.reverse_singleton, List.map_singleton,
    List.flatMap_singleton, Place.skip_append]

theorem ways_one {c : Char} (inside : belongs c) :
    (one belongs).ways ⟨before, c :: rest, captured⟩ = [⟨before ++ [c], rest, captured⟩] := by
  rw [ways]
  exact if_pos inside

/-- Where no character of the class stands, there is no run of one or more. -/
theorem ways_oneOrMore_of_absent (absent : ∀ c ∈ rest.head?, belongs c = false) :
    (oneOrMore belongs).ways ⟨before, rest, captured⟩ = [] := by
  rw [oneOrMore, ways, ways, if_neg, List.flatMap_nil]
  intro stands
  obtain ⟨c, first, inside⟩ := (Option.any_eq_true _ _).mp stands
  rw [absent c first] at inside
  cases inside

/-- A run of one or more is taken whole in the same way. -/
theorem flatMap_ways_oneOrMore (filled : run ≠ []) (inside : ∀ c ∈ run, belongs c = true)
    (ends : ∀ c ∈ rest.head?, belongs c = false)
    (solid : ∀ place : Place, place.after.head?.any belongs → next place = []) :
    ((oneOrMore belongs).ways ⟨before, run ++ rest, captured⟩).flatMap next =
      next ⟨before ++ run, rest, captured⟩ := by
  obtain ⟨first, others, rfl⟩ := List.exists_cons_of_ne_nil filled
  rw [List.forall_mem_cons] at inside
  rw [oneOrMore, ways, List.cons_append, ways_one inside.1, List.flatMap_singleton,
    flatMap_ways_many inside.2 ends solid, List.append_assoc, List.singleton_append]

/-- A run as a group is taken whole too, and the group is cut there. -/
theorem flatMap_ways_group (filled : run ≠ []) (inside : ∀ c ∈ run, belongs c = true)
    (ends : ∀ c ∈ rest.head?, belongs c = false)
    (solid : ∀ place : Place, place.after.head?.any belongs → next place = []) :
    ((group (oneOrMore belongs)).ways ⟨before, run ++ rest, captured⟩).flatMap next =
      next ⟨before ++ run, rest, some (before, run)⟩ := by
  rw [ways, List.flatMap_map, flatMap_ways_oneOrMore filled inside ends]
  · rw [List.drop_left]
  · exact fun place stands => solid _ stands

/-- The preferred way is a whole run. -/
theorem head?_ways_many (inside : ∀ c ∈ run, belongs c = true)
    (ends : ∀ c ∈ rest.head?, belongs c = false) :
    ((many belongs).ways ⟨before, run ++ rest, captured⟩).head? =
      some ⟨before ++ run, rest, captured⟩ := by
  rw [ways, takeWhile_run inside ends, List.range_succ, List.reverse_append, List.map_append,
    List.head?_append, List.reverse_singleton, List.map_singleton, Place.skip_append]
  rfl

/-- The preferred way is a whole run, of one or more. -/
theorem head?_ways_oneOrMore (filled : run ≠ []) (inside : ∀ c ∈ run, belongs c = true)
    (ends : ∀ c ∈ rest.head?, belongs c = false) :
    ((oneOrMore belongs).ways ⟨before, run ++ rest, captured⟩).head? =
      some ⟨before ++ run, rest, captured⟩ := by
  obtain ⟨first, others, rfl⟩ := List.exists_cons_of_ne_nil filled
  rw [List.forall_mem_cons] at inside
  rw [oneOrMore, ways, List.cons_append, ways_one inside.1, List.flatMap_singleton,
    head?_ways_many inside.2 ends, List.append_assoc, List.singleton_append]

/-! ### Patterns that a class of characters does not begin -/

/-- The pattern does not match where a character of the class stands. -/
def Avoids (pattern : Pattern) (belongs : Char → Bool) : Prop :=
  ∀ place : Place, place.after.head?.any belongs → pattern.ways place = []

theorem Avoids.andThen {first : Pattern} (avoids : first.Avoids belongs) (second : Pattern) :
    (first.andThen second).Avoids belongs := by
  intro place stands
  rw [ways, avoids place stands, List.flatMap_nil]

theorem Avoids.orElse {first second : Pattern} (avoids : first.Avoids belongs)
    (alsoAvoids : second.Avoids belongs) : (first.orElse second).Avoids belongs := by
  intro place stands
  rw [ways, avoids place stands, alsoAvoids place stands, List.append_nil]

theorem Avoids.group {inner : Pattern} (avoids : inner.Avoids belongs) :
    (group inner).Avoids belongs := by
  intro place stands
  rw [ways, avoids place stands, List.map_nil]

theorem avoids_one {others : Char → Bool} (apart : ∀ c, belongs c → others c = false) :
    (one others).Avoids belongs := by
  intro place stands
  obtain ⟨c, first, member⟩ := (Option.any_eq_true _ _).mp stands
  rw [ways, if_neg]
  rw [first, Option.any_some, apart c member]
  exact Bool.false_ne_true

theorem avoids_word {text : String} {c : Char} (first : text.toList.head? = some c)
    (apart : belongs c = false) : (word text).Avoids belongs := by
  intro place stands
  obtain ⟨letters, split⟩ := List.head?_eq_some_iff.mp first
  rw [ways, if_neg]
  intro isPrefix
  obtain ⟨rest, same⟩ := List.isPrefixOf_iff_prefix.mp isPrefix
  rw [split, List.cons_append] at same
  rw [← same, List.head?_cons, Option.any_some, apart] at stands
  cases stands

theorem avoids_textEnd : textEnd.Avoids belongs := by
  intro place stands
  rw [ways, if_neg]
  intro ended
  rw [ended] at stands
  cases stands

/-! ### Where a pattern is found -/

variable {pattern : Pattern}

/-- A way at the first place comes before all other places. -/
theorem matchAfter?_of_head? {place : Place}
    (here : (pattern.ways ⟨before, rest, none⟩).head? = some place) :
    pattern.matchAfter? before rest = some place := by
  cases rest with
  | nil => exact here
  | cons c later => rw [matchAfter?, here, Option.some_or]

/-- Without one, the pattern is looked for from the next place on. -/
theorem matchAfter?_cons_of_absent {c : Char}
    (absent : pattern.ways ⟨before, c :: rest, none⟩ = []) :
    pattern.matchAfter? before (c :: rest) = pattern.matchAfter? (before ++ [c]) rest := by
  rw [matchAfter?, absent, List.head?_nil, Option.none_or]

theorem ways_textStart_andThen (filled : before ≠ []) (rest : List Char) :
    (andThen textStart pattern).ways ⟨before, rest, captured⟩ = [] := by
  rw [ways, ways, if_neg filled, List.flatMap_nil]

theorem matchAfter?_textStart (filled : before ≠ []) (rest : List Char) :
    (andThen textStart pattern).matchAfter? before rest = none := by
  induction rest generalizing before with
  | nil => rw [matchAfter?, ways_textStart_andThen filled, List.head?_nil]
  | cons c rest inductionStep =>
    rw [matchAfter?_cons_of_absent (ways_textStart_andThen filled _)]
    exact inductionStep (List.append_ne_nil_of_right_ne_nil _ (List.cons_ne_nil c []))

/-- **A pattern that begins with the start of the text** is found there or not at all. -/
theorem match?_textStart (text : List Char) :
    (andThen textStart pattern).match? text = (pattern.ways ⟨[], text, none⟩).head? := by
  have start : (andThen textStart pattern).ways ⟨[], text, none⟩ = pattern.ways ⟨[], text, none⟩ := by
    rw [ways, ways, if_pos rfl, List.flatMap_singleton]
  rw [match?, ← start]
  cases text with
  | nil => rfl
  | cons c rest =>
    rw [matchAfter?, List.nil_append, matchAfter?_textStart (List.cons_ne_nil c []), Option.or_none]

theorem ways_lineStart_andThen (starts : before = [] ∨ before.getLast? = some '\n') :
    (andThen lineStart pattern).ways ⟨before, rest, captured⟩ =
      pattern.ways ⟨before, rest, captured⟩ := by
  rw [ways, ways, if_pos starts, List.flatMap_singleton]

theorem ways_lineStart_andThen_of_inside {c : Char} (inside : c ≠ '\n') :
    (andThen lineStart pattern).ways ⟨before ++ [c], rest, captured⟩ = [] := by
  rw [ways, ways, if_neg, List.flatMap_nil]
  rw [List.getLast?_concat]
  simp [inside]

/-- **A pattern that begins with the start of a line** is not found inside of one: if it does not match
at the start of a line, it is looked for in the lines behind it. -/
theorem matchAfter?_lineStart {line : List Char} (unbroken : '\n' ∉ line)
    (absent : (andThen lineStart pattern).ways ⟨before, line ++ '\n' :: rest, none⟩ = []) :
    (andThen lineStart pattern).matchAfter? before (line ++ '\n' :: rest) =
      (andThen lineStart pattern).matchAfter? (before ++ line ++ ['\n']) rest := by
  induction line generalizing before with
  | nil => rw [List.append_nil, List.nil_append, matchAfter?_cons_of_absent absent]
  | cons c line inductionStep =>
    rw [List.mem_cons, not_or] at unbroken
    rw [List.cons_append] at absent ⊢
    rw [matchAfter?_cons_of_absent absent,
      inductionStep unbroken.2 (ways_lineStart_andThen_of_inside (Ne.symm unbroken.1))]
    simp

/-- In the last line of a text it is found at the start or not at all. -/
theorem matchAfter?_lineStart_last {line : List Char} (unbroken : '\n' ∉ line)
    (absent : (andThen lineStart pattern).ways ⟨before, line, none⟩ = []) :
    (andThen lineStart pattern).matchAfter? before line = none := by
  induction line generalizing before with
  | nil => rw [matchAfter?, absent, List.head?_nil]
  | cons c line inductionStep =>
    rw [List.mem_cons, not_or] at unbroken
    rw [matchAfter?_cons_of_absent absent]
    exact inductionStep unbroken.2 (ways_lineStart_andThen_of_inside (Ne.symm unbroken.1))

end Pattern

end ShaderCheck.Text
