/-
**Replacements that do not interfere.**

Replacements are made one after the other, each in the text that the one before has left. If no
placeholder meets another one in any text, and no value has a character of a placeholder, then none of
them finds anything else than it finds in the text as it stands: no occurrence is lost with the text that
is taken out, and none arises in a value that is put in or across its ends. So the order makes no
difference, and all of them can as well be made at once.

* `Noninterfering`: what is asked of the replacements;
* `Piece`, `Leftmost`, `IsSimultaneous`: a text cut at the leftmost occurrences of each placeholder, and
  what making all replacements at once gives;
* `exists_isCut`, `leftmost_placesOf`: there is such a cut, and it is at the leftmost occurrences;
* `replaceChars_flatMap_after`, `toList_replaceAll`: one replacement, and all of them in any order;
* `IsSimultaneous.unique`: there is no other result;
* `replaceAll_perm`: replacing in any order is replacing at once.
-/

import Mathlib.Data.List.Infix
import Mathlib.Data.List.Nodup
import Mathlib.Data.List.Sort
import ShaderCheck.Text

namespace ShaderCheck.Text

/-! ### What is asked of the replacements -/

/-- Replacements that do not interfere: placeholders differ and do not overlap in any text, and no value
is empty or has a character of a placeholder. -/
structure Noninterfering (replacements : List Replacement) : Prop where
  /-- No placeholder is empty. -/
  filled : ∀ replacement ∈ replacements, replacement.placeholder ≠ ""
  /-- No placeholder is given twice. -/
  distinct : (replacements.map Replacement.placeholder).Nodup
  /-- No placeholder is a part of another one. -/
  apart : ∀ first ∈ replacements, ∀ second ∈ replacements,
    first.placeholder ≠ second.placeholder →
      ¬ first.placeholder.toList <:+: second.placeholder.toList
  /-- No placeholder ends in what another one begins with. -/
  untied : ∀ first ∈ replacements, ∀ second ∈ replacements,
    first.placeholder ≠ second.placeholder →
      ∀ shared, shared ≠ [] → shared <:+ first.placeholder.toList →
        shared ≠ first.placeholder.toList → ¬ shared <+: second.placeholder.toList
  /-- No value is empty. -/
  valued : ∀ replacement ∈ replacements, replacement.value ≠ ""
  /-- No value has a character of a placeholder. -/
  foreign : ∀ first ∈ replacements, ∀ second ∈ replacements,
    ∀ c ∈ first.value.toList, c ∉ second.placeholder.toList

instance (replacements : List Replacement) : Decidable (Noninterfering replacements) :=
  decidable_of_iff
    ((∀ replacement ∈ replacements, replacement.placeholder ≠ "") ∧
      (replacements.map Replacement.placeholder).Nodup ∧
      (∀ first ∈ replacements, ∀ second ∈ replacements,
        first.placeholder ≠ second.placeholder →
          ¬ first.placeholder.toList <:+: second.placeholder.toList) ∧
      (∀ first ∈ replacements, ∀ second ∈ replacements,
        first.placeholder ≠ second.placeholder →
          ∀ shared ∈ first.placeholder.toList.tails, shared ≠ [] →
            shared ≠ first.placeholder.toList → ¬ shared <+: second.placeholder.toList) ∧
      (∀ replacement ∈ replacements, replacement.value ≠ "") ∧
      ∀ first ∈ replacements, ∀ second ∈ replacements,
        first.value.toList.all fun c => c ∉ second.placeholder.toList)
    ⟨fun ⟨filled, distinct, apart, untied, valued, foreign⟩ =>
      { filled, distinct, apart, valued
        untied := fun first member second memberSecond different shared nonempty ends =>
          untied first member second memberSecond different shared ((List.mem_tails _ _).mpr ends)
            nonempty
        foreign := fun first member second memberSecond c inValue =>
          of_decide_eq_true (List.all_eq_true.mp (foreign first member second memberSecond) c inValue) },
    fun quiet => ⟨quiet.filled, quiet.distinct, quiet.apart,
      fun first member second memberSecond different shared ends nonempty =>
        quiet.untied first member second memberSecond different shared nonempty
          ((List.mem_tails _ _).mp ends), quiet.valued,
      fun first member second memberSecond => List.all_eq_true.mpr fun c inValue =>
        decide_eq_true (quiet.foreign first member second memberSecond c inValue)⟩⟩

/-! ### Cut texts -/

/-- A piece of a text: a character that is kept, or the placeholder of a replacement. -/
inductive Piece
  | kept (c : Char)
  | marked (replacement : Replacement)
deriving DecidableEq, Repr

/-- What the piece is in the text. -/
def Piece.source : Piece → List Char
  | .kept c => [c]
  | .marked replacement => replacement.placeholder.toList

/-- What the piece is once the replacements are made. -/
def Piece.outcome : Piece → List Char
  | .kept c => [c]
  | .marked replacement => replacement.value.toList

/-- The text of the pieces. -/
def sourceOf (pieces : List Piece) : List Char :=
  pieces.flatMap Piece.source

/-- The places in the text at which pieces are those of a replacement. -/
def placesOf (replacement : Replacement) : List Piece → List Nat
  | [] => []
  | piece :: later =>
    (if piece = .marked replacement then [0] else []) ++
      (placesOf replacement later).map (· + piece.source.length)

/-- The leftmost occurrences of a placeholder that do not overlap: a place is one of them if the
placeholder stands there, and does not reach into it from an earlier one. -/
structure Leftmost (placeholder text : List Char) (places : List Nat) : Prop where
  ascending : places.Pairwise (· < ·)
  mem_iff : ∀ place, place ∈ places ↔ placeholder <+: text.drop place ∧
    ∀ earlier ∈ places, earlier < place → earlier + placeholder.length ≤ place

/-- The result of making all replacements at once: the leftmost occurrences of each placeholder in the
text are replaced by its value, and everything else is kept. -/
def IsSimultaneous (replacements : List Replacement) (text result : String) : Prop :=
  ∃ pieces : List Piece,
    text.toList = sourceOf pieces ∧
    (∀ replacement, .marked replacement ∈ pieces → replacement ∈ replacements) ∧
    (∀ replacement ∈ replacements,
      Leftmost replacement.placeholder.toList text.toList (placesOf replacement pieces)) ∧
    result.toList = pieces.flatMap Piece.outcome

/-! ### Replacing one placeholder -/

section Chars

variable {placeholder value text later : List Char}

theorem replaceChars_skip :
    replaceChars placeholder value text.length (text ++ later) =
      replaceChars placeholder value 0 later := by
  induction text with
  | nil => rfl
  | cons c rest inductionStep =>
    rw [List.length_cons, List.cons_append, replaceChars, inductionStep]

/-- A placeholder at the beginning is replaced. -/
theorem replaceChars_placeholder (filled : placeholder ≠ []) :
    replaceChars placeholder value 0 (placeholder ++ later) =
      value ++ replaceChars placeholder value 0 later := by
  obtain ⟨c, rest, rfl⟩ := List.exists_cons_of_ne_nil filled
  have begins : (c :: rest).isPrefixOf (c :: (rest ++ later)) = true :=
    List.isPrefixOf_iff_prefix.mpr (List.prefix_append (c :: rest) later)
  rw [List.cons_append, replaceChars, if_pos begins, List.length_cons, Nat.add_sub_cancel,
    replaceChars_skip]

/-- Text in which no placeholder begins is kept. -/
theorem replaceChars_append_of_absent
    (absent : ∀ rest, rest <:+ text → rest ≠ [] → ¬ placeholder <+: rest ++ later) :
    replaceChars placeholder value 0 (text ++ later) =
      text ++ replaceChars placeholder value 0 later := by
  induction text with
  | nil => rfl
  | cons c rest inductionStep =>
    have other : ¬ placeholder.isPrefixOf (c :: (rest ++ later)) = true := fun begins =>
      absent (c :: rest) List.suffix_rfl (List.cons_ne_nil c rest)
        (List.isPrefixOf_iff_prefix.mp begins)
    rw [List.cons_append, replaceChars, if_neg other,
      inductionStep fun shorter within => absent shorter (within.trans (List.suffix_cons c rest))]
    rfl

end Chars

/-! ### One replacement after the other -/

/-- Pieces that are cut at placeholders only, and wherever a placeholder begins that is not cut
through. -/
inductive IsCut (replacements : List Replacement) : List Piece → Prop
  | nil : IsCut replacements []
  | kept {c : Char} {later : List Piece}
      (absent : ∀ replacement ∈ replacements,
        ¬ replacement.placeholder.toList <+: sourceOf (.kept c :: later))
      (cut : IsCut replacements later) : IsCut replacements (.kept c :: later)
  | marked {replacement : Replacement} {later : List Piece} (member : replacement ∈ replacements)
      (cut : IsCut replacements later) : IsCut replacements (.marked replacement :: later)

/-- What the piece is once some of the replacements are made. -/
def Piece.after (made : List Replacement) : Piece → List Char
  | .kept c => [c]
  | .marked replacement =>
    if replacement ∈ made then replacement.value.toList else replacement.placeholder.toList

section Noninterfering

variable {replacements made : List Replacement} {replacement other : Replacement}
  {pieces : List Piece} {rest later : List Char}

theorem Noninterfering.placeholder_ne_nil (quiet : Noninterfering replacements)
    (member : replacement ∈ replacements) : replacement.placeholder.toList ≠ [] :=
  fun empty => quiet.filled replacement member (String.toList_eq_nil_iff.mp empty)

/-- Only one replacement has a placeholder. -/
theorem Noninterfering.placeholder_ne (quiet : Noninterfering replacements)
    (member : replacement ∈ replacements) (memberOther : other ∈ replacements)
    (different : other ≠ replacement) : other.placeholder ≠ replacement.placeholder := fun same =>
  different (List.inj_on_of_nodup_map quiet.distinct memberOther member same)

/-- **No other placeholder begins in a placeholder**, whatever comes behind. -/
theorem Noninterfering.not_prefix_of_placeholder (quiet : Noninterfering replacements)
    (member : replacement ∈ replacements) (memberOther : other ∈ replacements)
    (different : other ≠ replacement) (within : rest <:+ other.placeholder.toList)
    (filled : rest ≠ []) : ¬ replacement.placeholder.toList <+: rest ++ later := by
  have otherPlaceholder := quiet.placeholder_ne member memberOther different
  intro begins
  rcases List.prefix_or_prefix_of_prefix begins (List.prefix_append rest later) with inside | beyond
  · exact quiet.apart _ member _ memberOther otherPlaceholder.symm
      (inside.isInfix.trans within.isInfix)
  · by_cases whole : rest = other.placeholder.toList
    · exact quiet.apart _ memberOther _ member otherPlaceholder (whole ▸ beyond).isInfix
    · exact quiet.untied _ memberOther _ member otherPlaceholder rest filled within whole beyond

/-- **No placeholder begins in a value**, whatever comes behind. -/
theorem Noninterfering.not_prefix_of_value (quiet : Noninterfering replacements)
    (member : replacement ∈ replacements) (memberOther : other ∈ replacements)
    (within : rest <:+ other.value.toList) (filled : rest ≠ []) :
    ¬ replacement.placeholder.toList <+: rest ++ later := by
  obtain ⟨c, behind, rfl⟩ := List.exists_cons_of_ne_nil filled
  rintro ⟨more, split⟩
  obtain ⟨d, others, placeholder⟩ :=
    List.exists_cons_of_ne_nil (quiet.placeholder_ne_nil member)
  rw [placeholder] at split
  obtain rfl : d = c := (List.cons.inj split).1
  refine quiet.foreign _ memberOther _ member d (within.subset List.mem_cons_self) ?_
  rw [placeholder]
  exact List.mem_cons_self

/-- What begins a text when some replacements are made began it before, if it has no character of a
value. -/
theorem prefix_sourceOf_of_prefix_after (quiet : Noninterfering replacements)
    (among : ∀ replacement, .marked replacement ∈ pieces → replacement ∈ replacements)
    (foreign : ∀ replacement ∈ replacements, ∀ c ∈ replacement.value.toList, c ∉ rest)
    (begins : rest <+: pieces.flatMap (Piece.after made)) : rest <+: sourceOf pieces := by
  induction pieces generalizing rest with
  | nil => exact begins
  | cons piece pieces inductionStep =>
    have amongLater : ∀ replacement, .marked replacement ∈ pieces → replacement ∈ replacements :=
      fun replacement member => among replacement (List.mem_cons_of_mem _ member)
    have behind : ∀ front, rest <+: front ++ pieces.flatMap (Piece.after made) →
        rest <+: front ++ sourceOf pieces := by
      intro front begins
      rcases List.prefix_or_prefix_of_prefix begins (List.prefix_append front _) with
        inside | ⟨more, rfl⟩
      · exact inside.trans (List.prefix_append front _)
      · rw [List.prefix_append_right_inj] at begins ⊢
        refine inductionStep amongLater (fun replacement member c inValue inRest => ?_) begins
        exact foreign replacement member c inValue (List.mem_append_right _ inRest)
    cases piece with
    | kept c => exact behind [c] begins
    | marked replacement =>
      have member := among replacement List.mem_cons_self
      rw [List.flatMap_cons, Piece.after] at begins
      by_cases replaced : replacement ∈ made
      · rw [if_pos replaced] at begins
        cases rest with
        | nil => exact List.nil_prefix
        | cons c more =>
          -- A value is not empty, so it would begin with the same character.
          obtain ⟨d, others, value⟩ := List.exists_cons_of_ne_nil fun empty =>
            quiet.valued replacement member (String.toList_eq_nil_iff.mp empty)
          rw [value] at begins
          obtain rfl : c = d := (List.cons_prefix_cons.mp begins).1
          refine absurd List.mem_cons_self (foreign replacement member c ?_)
          rw [value]
          exact List.mem_cons_self
      · rw [if_neg replaced] at begins
        exact behind replacement.placeholder.toList begins

theorem IsCut.mem (cut : IsCut replacements pieces) :
    ∀ replacement, .marked replacement ∈ pieces → replacement ∈ replacements := by
  induction cut with
  | nil => exact fun _ member => by cases member
  | kept absent cut inductionStep =>
    intro replacement member
    rcases List.mem_cons.mp member with same | later
    · cases same
    · exact inductionStep replacement later
  | marked member cut inductionStep =>
    intro replacement among
    rcases List.mem_cons.mp among with same | later
    · cases same
      exact member
    · exact inductionStep replacement later

/-- **One replacement more** replaces the pieces with its placeholder, and finds its placeholder nowhere
else: it begins in no text that is kept, in no value and in no other placeholder. -/
theorem replaceChars_flatMap_after (quiet : Noninterfering replacements)
    (member : replacement ∈ replacements) (unmade : replacement ∉ made)
    (cut : IsCut replacements pieces) :
    replaceChars replacement.placeholder.toList replacement.value.toList 0
        (pieces.flatMap (Piece.after made)) =
      pieces.flatMap (Piece.after (replacement :: made)) := by
  induction cut with
  | nil => rfl
  | @kept c later absent cut inductionStep =>
    have begins : ∀ rest, rest <:+ [c] → rest ≠ [] →
        ¬ replacement.placeholder.toList <+: rest ++ later.flatMap (Piece.after made) := by
      intro rest within filled begins
      obtain rfl : rest = [c] := by
        rcases List.suffix_cons_iff.mp within with same | shorter
        · exact same
        · exact absurd (List.suffix_nil.mp shorter) filled
      refine absent replacement member (prefix_sourceOf_of_prefix_after quiet
        (IsCut.kept absent cut).mem (fun other memberOther d inValue => ?_) begins)
      exact quiet.foreign other memberOther replacement member d inValue
    rw [List.flatMap_cons, List.flatMap_cons, Piece.after, Piece.after,
      replaceChars_append_of_absent begins, inductionStep]
  | @marked other later memberOther cut inductionStep =>
    rw [List.flatMap_cons, List.flatMap_cons, Piece.after, Piece.after]
    by_cases same : other = replacement
    · rw [same, if_neg unmade, if_pos List.mem_cons_self,
        replaceChars_placeholder (quiet.placeholder_ne_nil member), inductionStep]
    · have still : other ∈ replacement :: made ↔ other ∈ made := by simp [same]
      by_cases replaced : other ∈ made
      · rw [if_pos replaced, if_pos (still.mpr replaced), replaceChars_append_of_absent fun _ =>
          quiet.not_prefix_of_value member memberOther, inductionStep]
      · rw [if_neg replaced, if_neg (mt still.mp replaced), replaceChars_append_of_absent fun _ =>
          quiet.not_prefix_of_placeholder member memberOther same, inductionStep]

theorem toList_apply (quiet : Noninterfering replacements) (member : replacement ∈ replacements)
    (unmade : replacement ∉ made) (cut : IsCut replacements pieces) {text : String}
    (split : text.toList = pieces.flatMap (Piece.after made)) :
    (Replacement.apply text replacement).toList =
      pieces.flatMap (Piece.after (replacement :: made)) := by
  rw [Replacement.apply, if_neg (quiet.filled replacement member), String.toList_ofList, split,
    replaceChars_flatMap_after quiet member unmade cut]

/-- **All replacements** in any order, by what is still to be made of them. -/
theorem toList_replaceAll (quiet : Noninterfering replacements) (cut : IsCut replacements pieces)
    {order : List Replacement} (distinct : order.Nodup)
    (unmade : ∀ replacement ∈ order, replacement ∈ replacements ∧ replacement ∉ made) {text : String}
    (split : text.toList = pieces.flatMap (Piece.after made)) :
    (replaceAll text order).toList = pieces.flatMap (Piece.after (order.reverse ++ made)) := by
  induction order generalizing made text with
  | nil => exact split
  | cons first order inductionStep =>
    rw [List.forall_mem_cons] at unmade
    obtain ⟨fresh, distinct⟩ := List.nodup_cons.mp distinct
    rw [replaceAll, List.foldl_cons, ← replaceAll, List.reverse_cons, List.append_assoc,
      List.singleton_append]
    refine inductionStep distinct (fun replacement later => ⟨(unmade.2 replacement later).1, ?_⟩)
      (toList_apply quiet unmade.1.1 unmade.1.2 cut split)
    rw [List.mem_cons, not_or]
    exact ⟨fun same => fresh (same ▸ later), (unmade.2 replacement later).2⟩

/-- **A text can be cut**, by its length. -/
theorem exists_isCut (quiet : Noninterfering replacements) (text : List Char) :
    ∃ pieces, IsCut replacements pieces ∧ sourceOf pieces = text := by
  induction length : text.length using Nat.strong_induction_on generalizing text with
  | h size inductionStep =>
    cases text with
    | nil => exact ⟨[], .nil, rfl⟩
    | cons c rest =>
      by_cases begins : ∃ replacement ∈ replacements,
          replacement.placeholder.toList <+: c :: rest
      · obtain ⟨replacement, member, later, split⟩ := begins
        have filled := List.length_pos_iff.mpr (quiet.placeholder_ne_nil member)
        have shorter : later.length < size := by
          rw [← length, ← split, List.length_append]
          omega
        obtain ⟨pieces, cut, source⟩ := inductionStep _ shorter later rfl
        refine ⟨.marked replacement :: pieces, .marked member cut, ?_⟩
        rw [sourceOf, List.flatMap_cons, ← sourceOf, source, Piece.source, split]
      · have shorter : rest.length < size := by
          rw [← length, List.length_cons]
          omega
        obtain ⟨pieces, cut, source⟩ := inductionStep _ shorter rest rfl
        have whole : sourceOf (.kept c :: pieces) = c :: rest := by
          rw [sourceOf, List.flatMap_cons, ← sourceOf, source]
          rfl
        refine ⟨.kept c :: pieces, .kept (fun replacement member begin => begins ?_) cut, whole⟩
        exact ⟨replacement, member, whole ▸ begin⟩

end Noninterfering

/-! ### The places of a placeholder -/

section Places

variable {placeholder front text : List Char} {places others : List Nat}

theorem mem_map_add_iff {step place : Nat} :
    step + place ∈ places.map (· + step) ↔ place ∈ places := by
  simp [Nat.add_comm step]

/-- Text in which no placeholder begins moves the places of those behind it. -/
theorem Leftmost.append (leftmost : Leftmost placeholder text places)
    (absent : ∀ place < front.length, ¬ placeholder <+: (front ++ text).drop place) :
    Leftmost placeholder (front ++ text) (places.map (· + front.length)) where
  ascending := List.pairwise_map.mpr (leftmost.ascending.imp fun below => by omega)
  mem_iff place := by
    by_cases inFront : place < front.length
    · refine iff_of_false (fun member => ?_) fun occurs => absent place inFront occurs.1
      obtain ⟨before, _, rfl⟩ := List.mem_map.mp member
      omega
    · obtain ⟨before, rfl⟩ := Nat.exists_eq_add_of_le (Nat.le_of_not_lt inFront)
      rw [mem_map_add_iff, leftmost.mem_iff, List.drop_length_add_append, List.forall_mem_map]
      refine and_congr_right fun _ => forall₂_congr fun earlier _ => ?_
      omega

/-- A placeholder at the beginning is the first one, and the next one begins behind it. -/
theorem Leftmost.placeholder_append (filled : placeholder ≠ [])
    (leftmost : Leftmost placeholder text places) :
    Leftmost placeholder (placeholder ++ text) (0 :: places.map (· + placeholder.length)) where
  ascending := by
    have positive := List.length_pos_iff.mpr filled
    refine List.pairwise_cons.mpr ⟨fun place member => ?_,
      List.pairwise_map.mpr (leftmost.ascending.imp fun below => by omega)⟩
    obtain ⟨before, _, rfl⟩ := List.mem_map.mp member
    omega
  mem_iff place := by
    have positive := List.length_pos_iff.mpr filled
    rw [List.forall_mem_cons, List.forall_mem_map, List.mem_cons]
    by_cases inFirst : place < placeholder.length
    · by_cases first : place = 0
      · simp [first]
      · refine iff_of_false ?_ fun occurs => ?_
        · rintro (zero | member)
          · exact first zero
          · obtain ⟨before, _, rfl⟩ := List.mem_map.mp member
            omega
        · have apart := occurs.2.1 (by omega)
          omega
    · obtain ⟨before, rfl⟩ := Nat.exists_eq_add_of_le (Nat.le_of_not_lt inFirst)
      have behind : placeholder.length + before ≠ 0 := by omega
      have apart : ∀ earlier, (earlier + placeholder.length < placeholder.length + before →
            earlier + placeholder.length + placeholder.length ≤ placeholder.length + before) ↔
          (earlier < before → earlier + placeholder.length ≤ before) := fun earlier => by omega
      rw [mem_map_add_iff, leftmost.mem_iff, List.drop_length_add_append]
      simp only [behind, apart, false_or]
      refine and_congr_right fun _ => ⟨fun others => ⟨fun _ => by omega, others⟩, And.right⟩

/-- There is one list of leftmost occurrences only: whether a place is one of them is up to those
before it. -/
theorem Leftmost.unique (leftmost : Leftmost placeholder text places)
    (again : Leftmost placeholder text others) : places = others := by
  refine leftmost.ascending.eq_of_mem_iff again.ascending fun place => ?_
  induction place using Nat.strong_induction_on with
  | h place inductionStep =>
    rw [leftmost.mem_iff, again.mem_iff]
    refine and_congr_right fun _ => forall_congr' fun earlier => ?_
    by_cases before : earlier < place
    · rw [inductionStep earlier before]
    · simp [before]

end Places

/-- **The pieces of a placeholder** are at its leftmost occurrences. -/
theorem leftmost_placesOf {replacements : List Replacement} {replacement : Replacement}
    {pieces : List Piece} (quiet : Noninterfering replacements) (member : replacement ∈ replacements)
    (cut : IsCut replacements pieces) :
    Leftmost replacement.placeholder.toList (sourceOf pieces) (placesOf replacement pieces) := by
  have filled := quiet.placeholder_ne_nil member
  induction cut with
  | nil =>
    refine ⟨List.Pairwise.nil, fun place => iff_of_false List.not_mem_nil fun occurs => filled ?_⟩
    have begins := occurs.1
    rwa [sourceOf, List.flatMap_nil, List.drop_nil, List.prefix_nil] at begins
  | @kept c later absent cut inductionStep =>
    rw [placesOf, if_neg (by simp), List.nil_append]
    refine inductionStep.append fun place inFront => ?_
    obtain rfl : place = 0 := Nat.lt_one_iff.mp inFront
    exact absent replacement member
  | @marked other later memberOther cut inductionStep =>
    rw [placesOf]
    by_cases same : other = replacement
    · rw [if_pos (congrArg Piece.marked same), same, List.singleton_append]
      exact inductionStep.placeholder_append filled
    · rw [if_neg fun equal => same (Piece.marked.inj equal), List.nil_append]
      refine inductionStep.append fun place inFront => ?_
      rw [List.drop_append_of_le_length (Nat.le_of_lt inFront)]
      exact quiet.not_prefix_of_placeholder member memberOther same (List.drop_suffix place _)
        (List.length_pos_iff.mp (by rw [List.length_drop]; exact Nat.sub_pos_of_lt inFront))

/-! ### All replacements at once -/

section Simultaneous

variable {replacements order : List Replacement} {pieces others : List Piece}
  {text result : String}

theorem source_ne_nil (quiet : Noninterfering replacements)
    (among : ∀ replacement, .marked replacement ∈ pieces → replacement ∈ replacements) :
    ∀ piece ∈ pieces, piece.source ≠ [] := by
  intro piece member
  cases piece with
  | kept c => exact List.cons_ne_nil c []
  | marked replacement => exact quiet.placeholder_ne_nil (among replacement member)

/-- The first piece is the one that has a place at the beginning. -/
theorem zero_mem_placesOf_iff {piece : Piece} {later : List Piece} {replacement : Replacement}
    (filled : piece.source ≠ []) :
    0 ∈ placesOf replacement (piece :: later) ↔ piece = .marked replacement := by
  have positive := List.length_pos_iff.mpr filled
  rw [placesOf, List.mem_append, List.mem_map]
  by_cases same : piece = .marked replacement
  · simp [same]
  · simp only [if_neg same, List.not_mem_nil, false_or]
    exact iff_of_false (fun ⟨_, _, zero⟩ => by omega) same

/-- **Pieces are known** by their text and the places of each placeholder. -/
theorem pieces_unique (quiet : Noninterfering replacements)
    (among : ∀ replacement, .marked replacement ∈ pieces → replacement ∈ replacements)
    (amongOthers : ∀ replacement, .marked replacement ∈ others → replacement ∈ replacements)
    (source : sourceOf pieces = sourceOf others)
    (places : ∀ replacement ∈ replacements,
      placesOf replacement pieces = placesOf replacement others) : pieces = others := by
  have filled := source_ne_nil quiet among
  have filledOthers := source_ne_nil quiet amongOthers
  induction pieces generalizing others with
  | nil =>
    cases others with
    | nil => rfl
    | cons other others =>
      have empty := (List.append_eq_nil_iff.mp source.symm).1
      exact absurd empty (filledOthers other List.mem_cons_self)
  | cons piece pieces inductionStep =>
    cases others with
    | nil =>
      have empty := (List.append_eq_nil_iff.mp source).1
      exact absurd empty (filled piece List.mem_cons_self)
    | cons other others =>
      rw [List.forall_mem_cons] at filled filledOthers
      have marks : ∀ replacement ∈ replacements,
          (piece = .marked replacement ↔ other = .marked replacement) := by
        intro replacement member
        rw [← zero_mem_placesOf_iff filled.1, places replacement member,
          zero_mem_placesOf_iff filledOthers.1]
      have same : piece = other := by
        cases piece with
        | marked replacement => exact ((marks _ (among _ List.mem_cons_self)).mp rfl).symm
        | kept c =>
          cases other with
          | marked replacement => exact (marks _ (amongOthers _ List.mem_cons_self)).mpr rfl
          | kept d => exact congrArg Piece.kept (List.cons.inj source).1
      obtain rfl := same
      refine congrArg (piece :: ·) (inductionStep
        (fun replacement member => among replacement (List.mem_cons_of_mem _ member))
        (fun replacement member => amongOthers replacement (List.mem_cons_of_mem _ member))
        (List.append_cancel_left source) (fun replacement member => ?_) filled.2 filledOthers.2)
      have moved := List.append_cancel_left (places replacement member)
      exact List.map_injective_iff.mpr (fun _ _ => Nat.add_right_cancel) moved

/-- **There is one result** of making all replacements at once. -/
theorem IsSimultaneous.unique {other : String} (quiet : Noninterfering replacements)
    (simultaneous : IsSimultaneous replacements text result)
    (again : IsSimultaneous replacements text other) : result = other := by
  obtain ⟨pieces, split, among, leftmost, outcome⟩ := simultaneous
  obtain ⟨others, splitOther, amongOthers, leftmostOther, outcomeOther⟩ := again
  obtain rfl := pieces_unique quiet among amongOthers (split.symm.trans splitOther)
    fun replacement member =>
      (leftmost replacement member).unique (leftmostOther replacement member)
  exact String.toList_inj.mp (outcome.trans outcomeOther.symm)

/-- Once all replacements are made, in any order, each piece is what it is to be. -/
theorem flatMap_after_of_perm (perm : order.Perm replacements)
    (among : ∀ replacement, .marked replacement ∈ pieces → replacement ∈ replacements) :
    pieces.flatMap (Piece.after order) = pieces.flatMap Piece.outcome := by
  refine List.flatMap_congr fun piece member => ?_
  cases piece with
  | kept c => rfl
  | marked replacement => exact if_pos (perm.mem_iff.mpr (among replacement member))

/-- Before any replacement is made, the pieces are those of the text. -/
theorem flatMap_after_nil : pieces.flatMap (Piece.after []) = sourceOf pieces := by
  refine List.flatMap_congr fun piece _ => ?_
  cases piece with
  | kept c => rfl
  | marked replacement => rw [Piece.after, if_neg List.not_mem_nil, Piece.source]

/-- **Replacements that do not interfere** can be made in any order, and the result is that of making
all of them at once: in the text as it stands, the leftmost occurrences of each placeholder are replaced
by its value, and everything else is kept. -/
theorem replaceAll_perm (quiet : Noninterfering replacements) (text : String) :
    (∀ order, order.Perm replacements → replaceAll text order = replaceAll text replacements) ∧
    ∀ result, IsSimultaneous replacements text result ↔ result = replaceAll text replacements := by
  obtain ⟨pieces, cut, source⟩ := exists_isCut quiet text.toList
  have replaced : ∀ order, order.Perm replacements →
      (replaceAll text order).toList = pieces.flatMap Piece.outcome := by
    intro order perm
    have distinct : order.Nodup := perm.nodup_iff.mpr (.of_map _ quiet.distinct)
    have unmade : ∀ replacement ∈ order, replacement ∈ replacements ∧ replacement ∉ [] :=
      fun replacement member => ⟨perm.mem_iff.mp member, List.not_mem_nil⟩
    rw [toList_replaceAll quiet cut distinct unmade (source.symm.trans flatMap_after_nil.symm),
      List.append_nil, flatMap_after_of_perm ((List.reverse_perm order).trans perm) cut.mem]
  have atOnce : IsSimultaneous replacements text (replaceAll text replacements) :=
    ⟨pieces, source.symm, cut.mem,
      fun replacement member => source ▸ leftmost_placesOf quiet member cut, replaced _ (.refl _)⟩
  refine ⟨fun order perm => ?_, fun result => ⟨fun simultaneous => ?_, ?_⟩⟩
  · exact String.toList_inj.mp ((replaced order perm).trans (replaced _ (.refl _)).symm)
  · exact simultaneous.unique quiet atOnce
  · rintro rfl
    exact atOnce

/-- An occurrence that overlaps an earlier one of its own placeholder is kept. -/
theorem overlapping_replaceAll_perm :
    Noninterfering [⟨"aba", "1"⟩, ⟨"XX", "22"⟩] ∧
    replaceAll "ababaXXXaba" [⟨"XX", "22"⟩, ⟨"aba", "1"⟩] = "1ba22X1" ∧
    IsSimultaneous [⟨"aba", "1"⟩, ⟨"XX", "22"⟩] "ababaXXXaba" "1ba22X1" := by
  have quiet : Noninterfering [⟨"aba", "1"⟩, ⟨"XX", "22"⟩] := by decide +kernel
  have inTurn : replaceAll "ababaXXXaba" [⟨"aba", "1"⟩, ⟨"XX", "22"⟩] = "1ba22X1" := by
    decide +kernel
  obtain ⟨anyOrder, atOnce⟩ := replaceAll_perm quiet "ababaXXXaba"
  exact ⟨quiet, (anyOrder _ (.swap _ _ _)).trans inTurn, (atOnce _).mpr inTurn.symm⟩

end Simultaneous

end ShaderCheck.Text
