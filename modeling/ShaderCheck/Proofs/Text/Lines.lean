/-
**Runs of characters, and the lines of a text.**

A run in front of something that does not go on with it is what is taken and dropped by looking for
its end. The same with a separator: what is looked through in front of it stays as it is.

The lines of a text are its pieces between line feeds, each without a carriage return at its end; the
last piece keeps its carriage return and is no line when it is empty. Joined again, they are the text
with plain line feeds, up to one at its end.

* `takeWhile_run`, `dropWhile_run`: a run and what follows it;
* `takeWhile_ne_append`, `dropWhile_ne_append`: a list without the separator before another one;
* `cut_of_dropWhile_ne`: a list with the separator in it;
* `CodeRanges.contains_eq_false_of_disjoint`: what tells runs of two classes apart;
* `linesOf_eq_pieceLines`: the lines of a text from its pieces;
* `splitAtEvery_joinLines`: the pieces of joined texts;
* `joinLines_splitLines`: the lines of a text, joined again.
-/

import ShaderCheck.Proofs.Path
import ShaderCheck.Text
import ShaderCheck.Text.Characters

namespace ShaderCheck.Text

/-! ### Runs -/

section Runs

variable {α : Type} {belongs : α → Bool} {run rest : List α}

theorem takeWhile_run (inside : ∀ item ∈ run, belongs item = true)
    (ends : ∀ item ∈ rest.head?, belongs item = false) :
    (run ++ rest).takeWhile belongs = run := by
  induction run with
  | nil =>
    cases rest with
    | nil => rfl
    | cons first later => exact List.takeWhile_cons_of_neg (Bool.eq_false_iff.mp (ends first rfl))
  | cons first run inductionStep =>
    rw [List.forall_mem_cons] at inside
    rw [List.cons_append, List.takeWhile_cons_of_pos inside.1, inductionStep inside.2]

theorem dropWhile_run (inside : ∀ item ∈ run, belongs item = true)
    (ends : ∀ item ∈ rest.head?, belongs item = false) :
    (run ++ rest).dropWhile belongs = rest := by
  have joined := @List.takeWhile_append_dropWhile _ belongs (run ++ rest)
  rw [takeWhile_run inside ends] at joined
  exact List.append_cancel_left joined

end Runs

section Separators

variable {separator : Char} {before rest : List Char}

/-- Every character of a list without the separator is another one. -/
theorem decide_ne_of_not_mem (absent : separator ∉ before) :
    ∀ c ∈ before, decide (c ≠ separator) = true := by
  intro c member
  refine decide_eq_true ?_
  rintro rfl
  exact absent member

theorem takeWhile_ne_append (absent : separator ∉ before) :
    (before ++ rest).takeWhile (· ≠ separator) = before ++ rest.takeWhile (· ≠ separator) :=
  List.takeWhile_append_of_pos (decide_ne_of_not_mem absent)

theorem dropWhile_ne_append (absent : separator ∉ before) :
    (before ++ rest).dropWhile (· ≠ separator) = rest.dropWhile (· ≠ separator) :=
  List.dropWhile_append_of_pos (decide_ne_of_not_mem absent)

/-- A list is cut at the first separator, if one is found. -/
theorem cut_of_dropWhile_ne {c : Char} {list : List Char}
    (found : list.dropWhile (· ≠ separator) = c :: rest) :
    list = list.takeWhile (· ≠ separator) ++ separator :: rest ∧
      separator ∉ list.takeWhile (· ≠ separator) := by
  have joined := @List.takeWhile_append_dropWhile _ (· ≠ separator) list
  have ends := List.head?_dropWhile_not (· ≠ separator) list
  rw [found] at joined ends
  obtain rfl : c = separator := by simpa using ends
  refine ⟨joined.symm, fun member => ?_⟩
  simpa using List.all_eq_true.mp List.all_takeWhile c member

end Separators

/-- Ranges of which none meets any of the others hold no common character. -/
theorem CodeRanges.contains_eq_false_of_disjoint {ranges others : CodeRanges}
    (disjoint : ∀ range ∈ ranges, ∀ other ∈ others, range.2 < other.1 ∨ other.2 < range.1)
    {c : Char} (member : ranges.contains c) : others.contains c = false := by
  obtain ⟨range, inRanges, inside⟩ := List.any_eq_true.mp member
  unfold CodeRanges.contains
  rw [List.any_eq_false]
  intro other inOthers
  have apart := disjoint range inRanges other inOthers
  simp only [Bool.and_eq_true, decide_eq_true_eq] at inside ⊢
  omega

/-! ### Lines and pieces -/

/-- The characters without a carriage return at their end. -/
def withoutReturn : List Char → List Char
  | [] => []
  | ['\r'] => []
  | c :: rest => c :: withoutReturn rest

/-- The lines of a text with these pieces between its line feeds. -/
def pieceLines : List (List Char) → List (List Char)
  | [] => []
  | [last] => if last = [] then [] else [last]
  | piece :: later => withoutReturn piece :: pieceLines later

theorem withoutReturn_cons {c : Char} {rest : List Char} (other : c ≠ '\r' ∨ rest ≠ []) :
    withoutReturn (c :: rest) = c :: withoutReturn rest := by
  rw [withoutReturn]
  rintro rfl rfl
  simp at other

/-- Nothing but a carriage return at the end is left out. -/
theorem eq_withoutReturn_or (line : List Char) :
    line = withoutReturn line ∨ line = withoutReturn line ++ ['\r'] := by
  induction line with
  | nil => exact .inl rfl
  | cons c rest inductionStep =>
    by_cases last : c = '\r' ∧ rest = []
    · obtain ⟨rfl, rfl⟩ := last
      exact .inr rfl
    · rw [withoutReturn_cons (Decidable.not_and_iff_or_not.mp last)]
      rcases inductionStep with same | returned
      · exact .inl (congrArg (c :: ·) same)
      · exact .inr (congrArg (c :: ·) returned)

theorem pieceLines_cons {piece : List Char} {later : List (List Char)} (filled : later ≠ []) :
    pieceLines (piece :: later) = withoutReturn piece :: pieceLines later := by
  rw [pieceLines]
  exact filled

/-- Pieces with others behind them are all lines without the carriage return at their end. -/
theorem pieceLines_append {pieces later : List (List Char)} (filled : later ≠ []) :
    pieceLines (pieces ++ later) = pieces.map withoutReturn ++ pieceLines later := by
  induction pieces with
  | nil => rfl
  | cons piece pieces inductionStep =>
    rw [List.cons_append, pieceLines_cons (List.append_ne_nil_of_right_ne_nil _ filled),
      inductionStep, List.map_cons, List.cons_append]

/-- A text with an empty first piece and another one begins with a line feed. -/
theorem head?_of_splitAtEvery {text next : List Char} {later : List (List Char)}
    (split : splitAtEvery '\n' text = [] :: next :: later) : text.head? = some '\n' := by
  cases text with
  | nil => simp [splitAtEvery] at split
  | cons c rest =>
    by_cases feed : c = '\n'
    · rw [feed, List.head?_cons]
    · obtain ⟨piece, pieces, cut⟩ := List.exists_cons_of_ne_nil (@splitAtEvery_ne_nil _ _ '\n' rest)
      rw [splitAtEvery_cons feed cut] at split
      cases split

/-- **The lines of a text** are those of its pieces. -/
theorem linesOf_eq_pieceLines (text : List Char) :
    linesOf text = pieceLines (splitAtEvery '\n' text) := by
  induction text using linesOf.induct with
  | case1 => rfl
  | case2 rest inductionStep =>
    have cut : splitAtEvery '\n' ('\r' :: '\n' :: rest) = ['\r'] :: splitAtEvery '\n' rest := rfl
    rw [linesOf, inductionStep, cut, pieceLines_cons splitAtEvery_ne_nil]
    rfl
  | case3 rest inductionStep =>
    have cut : splitAtEvery '\n' ('\n' :: rest) = [] :: splitAtEvery '\n' rest := rfl
    rw [linesOf, inductionStep, cut, pieceLines_cons splitAtEvery_ne_nil]
    rfl
  | case4 c rest notReturn notFeed none inductionStep =>
    obtain ⟨piece, later, cut⟩ := List.exists_cons_of_ne_nil (@splitAtEvery_ne_nil _ _ '\n' rest)
    rw [linesOf, none, splitAtEvery_cons notFeed cut]
    · rw [none, cut] at inductionStep
      -- Only the empty piece alone has no lines.
      cases later with
      | cons next later =>
        rw [pieceLines_cons (List.cons_ne_nil _ _)] at inductionStep
        cases inductionStep
      | nil =>
        by_cases empty : piece = []
        · rw [empty]
          rfl
        · rw [pieceLines, if_neg empty] at inductionStep
          cases inductionStep
    · exact notReturn
    · exact notFeed
  | case5 c rest notReturn notFeed line lines some inductionStep =>
    obtain ⟨piece, later, cut⟩ := List.exists_cons_of_ne_nil (@splitAtEvery_ne_nil _ _ '\n' rest)
    rw [linesOf, some, splitAtEvery_cons notFeed cut]
    · rw [some, cut] at inductionStep
      cases later with
      | nil =>
        by_cases empty : piece = []
        · rw [pieceLines, if_pos empty] at inductionStep
          cases inductionStep
        · rw [pieceLines, if_neg empty] at inductionStep
          rw [pieceLines, if_neg (List.cons_ne_nil c piece), (List.cons.inj inductionStep).1,
            (List.cons.inj inductionStep).2]
      | cons next later =>
        rw [pieceLines_cons (List.cons_ne_nil _ _)] at inductionStep ⊢
        obtain ⟨rfl, rfl⟩ := List.cons.inj inductionStep
        -- A carriage return here is not the whole piece, or it would end the line.
        have other : c ≠ '\r' ∨ piece ≠ [] := by
          by_cases empty : piece = []
          · refine .inl fun returned => ?_
            rw [empty] at cut
            obtain ⟨after, begins⟩ := List.head?_eq_some_iff.mp (head?_of_splitAtEvery cut)
            exact notReturn after returned begins
          · exact .inr empty
        rw [withoutReturn_cons other]
    · exact notReturn
    · exact notFeed

theorem exists_piece_of_mem_pieceLines {pieces : List (List Char)} {line : List Char}
    (member : line ∈ pieceLines pieces) :
    ∃ piece ∈ pieces, piece = line ∨ piece = line ++ ['\r'] := by
  induction pieces with
  | nil => cases member
  | cons piece later inductionStep =>
    by_cases last : later = []
    · rw [last, pieceLines] at member
      split at member
      · cases member
      · exact ⟨piece, List.mem_cons_self, .inl (List.mem_singleton.mp member).symm⟩
    · rw [pieceLines_cons last] at member
      rcases List.mem_cons.mp member with rfl | deeper
      · exact ⟨piece, List.mem_cons_self, eq_withoutReturn_or piece⟩
      · obtain ⟨found, isPiece, same⟩ := inductionStep deeper
        exact ⟨found, List.mem_cons_of_mem _ isPiece, same⟩

/-- A line is a piece between line feeds, but for a carriage return at the end of the piece. -/
theorem exists_piece_of_mem_linesOf {text line : List Char} (member : line ∈ linesOf text) :
    ∃ piece ∈ splitAtEvery '\n' text, piece = line ∨ piece = line ++ ['\r'] := by
  rw [linesOf_eq_pieceLines] at member
  exact exists_piece_of_mem_pieceLines member

theorem not_mem_of_mem_linesOf {text line : List Char} (member : line ∈ linesOf text) :
    '\n' ∉ line := by
  obtain ⟨piece, isPiece, same⟩ := exists_piece_of_mem_linesOf member
  have absent := not_mem_of_mem_splitAtEvery isPiece
  rcases same with rfl | rfl
  · exact absent
  · exact fun feed => absent (List.mem_append_left _ feed)

/-! ### Joining -/

theorem toList_joinLines (lines : List String) :
    (joinLines lines).toList = ['\n'].intercalate (lines.map String.toList) := by
  rw [joinLines, String.toList_intercalate]
  rfl

/-- Joined texts have the pieces of each of them; without any there is one empty piece. -/
theorem splitAtEvery_joinLines {texts : List String} (filled : texts ≠ []) :
    splitAtEvery '\n' (joinLines texts).toList =
      texts.flatMap fun text => splitAtEvery '\n' text.toList := by
  rw [toList_joinLines]
  induction texts with
  | nil => exact absurd rfl filled
  | cons text later inductionStep =>
    by_cases last : later = []
    · rw [last, List.map_singleton, List.intercalate_singleton, List.flatMap_singleton]
    · rw [List.map_cons, List.intercalate_cons_of_ne_nil (by simpa using last), List.append_assoc,
        List.singleton_append, splitAtEvery_append, inductionStep last, List.flatMap_cons]

/-! ### Lines joined again -/

/-- The characters without a line feed at their end. -/
def withoutFinalFeed : List Char → List Char
  | [] => []
  | ['\n'] => []
  | c :: rest => c :: withoutFinalFeed rest

/-- The line end of two characters, and the one that takes its place. -/
def plainEnds : Replacement := ⟨"\r\n", "\n"⟩

theorem withoutFinalFeed_cons {c : Char} {rest : List Char} (other : c ≠ '\n' ∨ rest ≠ []) :
    withoutFinalFeed (c :: rest) = c :: withoutFinalFeed rest := by
  rw [withoutFinalFeed]
  rintro rfl rfl
  simp at other

/-- Characters with plain line ends. -/
def withPlainEnds (text : List Char) : List Char :=
  replaceChars ['\r', '\n'] ['\n'] 0 text

theorem withPlainEnds_cons {c : Char} {rest : List Char}
    (other : ∀ later, c = '\r' → rest = '\n' :: later → False) :
    withPlainEnds (c :: rest) = c :: withPlainEnds rest := by
  have apart : ['\r', '\n'].isPrefixOf (c :: rest) = false := by
    rw [Bool.eq_false_iff]
    intro begins
    obtain ⟨later, same⟩ := List.isPrefixOf_iff_prefix.mp begins
    obtain ⟨returned, feed⟩ := List.cons.inj same
    exact other later returned.symm feed.symm
  rw [withPlainEnds, replaceChars, apart]
  rfl

theorem withPlainEnds_ne_nil (c : Char) (rest : List Char) : withPlainEnds (c :: rest) ≠ [] := by
  rw [withPlainEnds, replaceChars]
  split <;> simp

theorem eq_nil_of_linesOf {text : List Char} (none : linesOf text = []) : text = [] := by
  cases text using linesOf.induct with
  | case1 => rfl
  | case2 rest => cases none
  | case3 rest => cases none
  | case4 c rest notReturn notFeed empty =>
    rw [linesOf, empty] at none
    · cases none
    · exact notReturn
    · exact notFeed
  | case5 c rest notReturn notFeed line lines some =>
    rw [linesOf, some] at none
    · cases none
    · exact notReturn
    · exact notFeed

/-- An empty line in front leaves the line end behind it, if anything follows. -/
theorem intercalate_linesOf_feed {rest : List Char}
    (known : ['\n'].intercalate (linesOf rest) = withoutFinalFeed (withPlainEnds rest)) :
    ['\n'].intercalate ([] :: linesOf rest) = withoutFinalFeed ('\n' :: withPlainEnds rest) := by
  cases rest with
  | nil => rfl
  | cons c later =>
    have filled : linesOf (c :: later) ≠ [] := fun none =>
      List.cons_ne_nil c later (eq_nil_of_linesOf none)
    rw [List.intercalate_cons_of_ne_nil filled, known,
      withoutFinalFeed_cons (.inr (withPlainEnds_ne_nil c later))]
    rfl

/-- The lines of a text with line feeds between them, by induction on the text. -/
theorem intercalate_linesOf (text : List Char) :
    ['\n'].intercalate (linesOf text) = withoutFinalFeed (withPlainEnds text) := by
  induction text using linesOf.induct with
  | case1 => rfl
  | case2 rest inductionStep =>
    have ended : withPlainEnds ('\r' :: '\n' :: rest) = '\n' :: withPlainEnds rest := rfl
    rw [linesOf, ended, intercalate_linesOf_feed inductionStep]
  | case3 rest inductionStep =>
    have ended : withPlainEnds ('\n' :: rest) = '\n' :: withPlainEnds rest := rfl
    rw [linesOf, ended, intercalate_linesOf_feed inductionStep]
  | case4 c rest notReturn notFeed none =>
    obtain rfl := eq_nil_of_linesOf none
    rw [linesOf, withPlainEnds_cons notReturn, withoutFinalFeed_cons (.inl notFeed)]
    · rfl
    · exact notReturn
    · exact notFeed
  | case5 c rest notReturn notFeed line lines some inductionStep =>
    rw [linesOf, some, withPlainEnds_cons notReturn, withoutFinalFeed_cons (.inl notFeed),
      List.intercalate_cons_cons_left, ← inductionStep, some]
    · exact notReturn
    · exact notFeed

/-- **The lines of a text, joined again**, are the text with plain line ends, without the last one if
nothing follows it. -/
theorem joinLines_splitLines (text : String) :
    joinLines (splitLines text) =
      String.ofList (withoutFinalFeed (plainEnds.apply text).toList) := by
  have kept : (splitLines text).map String.toList = linesOf text.toList := by
    rw [splitLines, List.map_map]
    simp
  rw [← String.toList_inj, toList_joinLines, kept, intercalate_linesOf]
  simp [Replacement.apply, plainEnds, withPlainEnds]

end ShaderCheck.Text
