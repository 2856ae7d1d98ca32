/-
**The version directive, as the front end reads it.**

The version of a text is told by its first line that is not blank, comments aside. A text that
begins with `#`, `version` and a digit, with any white space between them, has its version in that
line only if the white space after `#` is of the four kinds that a line may be spaced with; then the
tokens that count are those from the digit on.

The digits of a version directive are read twice: as a decimal number of their own, and as part of a
token, to which digits may still be joined from a spliced line. If the version that the token tells
is a known one, it is at most the decimal number; and the same holds if other digits in its place
tell a known one.

* `versionTokens?`: the tokens that tell the version of a text, by its code;
* `versionOf?_eq`, `requestedVersion?_of_ofText?`: what is made of them;
* `directiveText`: a text that begins with a directive;
* `lineSpacing_of_versionTokens?`, `versionTokens?_directiveText`: what tells its version;
* `requestedVersion?_eq_some`: the tokens that ask for a version;
* `version_le_of_known`, `version_le_of_replaced`: the digits stay as they are, or are replaced.
-/

import ShaderCheck.Glsl.Frontend
import ShaderCheck.Proofs.Glsl.Lexing
import ShaderCheck.Proofs.Glsl.Numeral

namespace ShaderCheck.Glsl

open Text

/-! ### The tokens that tell the version -/

/-- What follows a number sign and the word `version`. -/
def afterVersion? : List Token → Option (List Token)
  | .mark "#" :: .word "version" :: rest => some rest
  | _ => none

/-- The number that tokens begin with. -/
def leadingInteger? : List Token → Option Nat
  | .integer value _ :: _ => some value
  | _ => none

/-- The tokens that tell the version of a text with this code. -/
def versionTokens? (code : List Char) : Option (List Token) :=
  (tokensOf? (firstLine code)).bind afterVersion?

theorem leadingInteger?_eq_some_iff {tokens : List Token} {value : Nat} :
    leadingInteger? tokens = some value ↔
      ∃ unsigned later, tokens = .integer value unsigned :: later := by
  constructor
  · intro leading
    unfold leadingInteger? at leading
    split at leading
    · rename_i unsigned later
      exact ⟨unsigned, later, by rw [Option.some.inj leading]⟩
    · cases leading
  · rintro ⟨unsigned, later, rfl⟩
    rfl

theorem versionLine?_eq (line : List Lexeme) :
    versionLine? line = afterVersion? (line.map (·.token)) := by
  unfold versionLine?
  split
  · rfl
  · rename_i notVersion
    unfold afterVersion?
    split
    · rename_i rest tokens
      obtain ⟨⟨_, spaced, number⟩, later, rfl, rfl, word⟩ := List.map_eq_cons_iff.mp tokens
      obtain ⟨⟨_, spacedWord, numberWord⟩, last, rfl, rfl, _⟩ := List.map_eq_cons_iff.mp word
      exact absurd rfl (notVersion spaced number spacedWord numberWord last)
    · rfl

/-- Spaces in front of a line give no token. -/
theorem tokensOf?_dropWhile_isSpace (line : List Char) :
    tokensOf? (line.dropWhile isSpace) = tokensOf? line := by
  induction line with
  | nil => rfl
  | cons c rest inductionStep =>
    by_cases space : isSpace c
    · rw [List.dropWhile_cons_of_pos space, inductionStep, tokensOf?_cons_space space]
    · rw [List.dropWhile_cons_of_neg space]

/-- The first line that is not blank, as it is found among the numbered lines. -/
def firstLine? (text : String) : Option (List NumberedChar) :=
  (logicalLines text).find? fun line => !line.all (isSpace ·.1)

/-- The tokens of the first line are those of the numbered one, if there is one. -/
theorem tokensOf?_firstLine (text : String) :
    tokensOf? (firstLine (codeOf text.toList)) =
      (lexemesOf? ((firstLine? text).getD [])).map (List.map (·.token)) := by
  have first : (((firstLine? text).getD []).map Prod.fst).dropWhile isSpace =
      firstLine (codeOf text.toList) := by
    rw [← dropWhile_find?_splitAtEvery, ← map_logicalLines, List.find?_map]
    have sameLines : ((fun line => !line.all isSpace) ∘ List.map Prod.fst) =
        fun line : List NumberedChar => !line.all (isSpace ·.1) := by
      funext line
      rw [Function.comp_apply, List.all_map]
      rfl
    rw [sameLines, ← firstLine?]
    cases firstLine? text <;> rfl
  rw [← first, tokensOf?_dropWhile_isSpace, ← map_token_lexemesOf?]

/-- The tokens that tell the version are in the first line that is not blank. -/
theorem versionTokens?_codeOf (text : String) :
    versionTokens? (codeOf text.toList) =
      (lexemesOf? ((firstLine? text).getD [])).bind versionLine? := by
  rw [versionTokens?, tokensOf?_firstLine, Option.bind_map]
  exact congrArg (Option.bind _) (funext fun line => (versionLine?_eq line).symm)

/-- The version of a text is the number that these tokens begin with. -/
theorem versionOf?_eq (text : String) :
    versionOf? text = (versionTokens? (codeOf text.toList)).bind leadingInteger? := by
  rw [versionTokens?_codeOf]
  unfold versionOf?
  rw [← firstLine?]
  cases firstLine? text with
  | none => rfl
  | some line =>
    rw [Option.getD_some]
    cases lexed : lexemesOf? line with
    | none => simp [lexed]
    | some lexemes =>
      cases told : versionLine? lexemes with
      | none => simp [lexed, told]
      | some tokens =>
        simp only [lexed, told, Option.bind_eq_bind, Option.bind_some]
        rfl

/-- Lines that have no tokens are the blank ones. -/
theorem head?_dropWhile_isEmpty {lines : List (List NumberedChar)} {lexed : List (List Lexeme)}
    (read : lines.mapM lexemesOf? = some lexed) :
    (lexed.dropWhile List.isEmpty).head? =
      (lines.find? fun line => !line.all (isSpace ·.1)).bind lexemesOf? := by
  induction lines generalizing lexed with
  | nil =>
    obtain rfl : [] = lexed := by simpa using read
    rfl
  | cons line lines inductionStep =>
    rw [List.mapM_cons] at read
    obtain ⟨lexemes, first, read⟩ := Option.bind_eq_some_iff.mp read
    obtain ⟨later, rest, read⟩ := Option.bind_eq_some_iff.mp read
    obtain rfl : lexemes :: later = lexed := Option.some.inj read
    have blank : lexemes = [] ↔ line.all (isSpace ·.1) := by
      have tokens := map_token_lexemesOf? line
      rw [first, Option.map_some] at tokens
      have nothing := @tokensOf?_eq_nil_iff (line.map Prod.fst)
      rw [← tokens, Option.some.injEq, List.map_eq_nil_iff, List.all_map] at nothing
      exact nothing
    by_cases empty : lexemes = []
    · rw [List.dropWhile_cons_of_pos (by simp [empty]), inductionStep rest,
        List.find?_cons_of_neg (by simp [blank.mp empty])]
    · have filled : line.all (isSpace ·.1) = false :=
        Bool.eq_false_iff.mpr fun all => empty (blank.mpr all)
      rw [List.dropWhile_cons_of_neg (by simp [empty]), List.find?_cons_of_pos (by simp [filled])]
      exact first.symm

/-- Lines that are all read are each read. -/
theorem exists_of_mapM_eq_some {α β : Type} {read : α → Option β} {items : List α}
    {results : List β} (all : items.mapM read = some results) {item : α} (member : item ∈ items) :
    ∃ result, read item = some result := by
  induction items generalizing results with
  | nil => cases member
  | cons first rest inductionStep =>
    rw [List.mapM_cons] at all
    obtain ⟨result, found, later⟩ := Option.bind_eq_some_iff.mp all
    obtain ⟨others, foundOthers, _⟩ := Option.bind_eq_some_iff.mp later
    rcases List.mem_cons.mp member with rfl | deeper
    · exact ⟨result, found⟩
    · exact inductionStep foundOthers deeper

/-- A text that is read has a readable first line. -/
theorem isSome_tokensOf?_of_ofText? {text : String} {unit : CompilationUnit}
    (read : CompilationUnit.ofText? text = some unit) :
    ∃ tokens, tokensOf? (firstLine (codeOf text.toList)) = some tokens := by
  obtain ⟨lexed, lines, _⟩ := Option.bind_eq_some_iff.mp read
  rw [tokensOf?_firstLine]
  cases found : firstLine? text with
  | none => exact ⟨[], rfl⟩
  | some line =>
    obtain ⟨lexemes, readable⟩ := exists_of_mapM_eq_some lines (List.mem_of_find?_eq_some found)
    exact ⟨lexemes.map (·.token), by rw [Option.getD_some, readable, Option.map_some]⟩

/-- **A text that is read** asks for its version with these tokens, if it has them. -/
theorem requestedVersion?_of_ofText? {text : String} {unit : CompilationUnit}
    (read : CompilationUnit.ofText? text = some unit) {tokens : List Token}
    (told : versionTokens? (codeOf text.toList) = some tokens) :
    requestedVersion? tokens = some unit.version := by
  obtain ⟨lexed, lines, read⟩ := Option.bind_eq_some_iff.mp read
  obtain ⟨⟨version, rest⟩, split, read⟩ := Option.bind_eq_some_iff.mp read
  obtain ⟨lexemes, _, read⟩ := Option.bind_eq_some_iff.mp read
  obtain rfl := Option.some.inj read
  have head : (lexed.dropWhile List.isEmpty).head?.bind versionLine? = some tokens := by
    rw [head?_dropWhile_isEmpty lines]
    rw [versionTokens?_codeOf] at told
    rw [← firstLine?]
    cases found : firstLine? text with
    | none =>
      rw [found] at told
      cases told
    | some line =>
      rw [found] at told
      exact told
  unfold splitVersion? at split
  dsimp only at split
  rw [head] at split
  obtain ⟨requested, asked, same⟩ := Option.map_eq_some_iff.mp split
  rw [asked, (Prod.mk.inj same).1]

/-! ### A text that begins with a directive -/

section Directive

variable {blanks front middle back rest : List Char}

/-- White space in front of the rest of a line: either it gives no token, or a character in it makes
the line unreadable, or the line ends in it. -/
theorem tokensOf?_blanks (blank : ∀ c ∈ blanks, isBlank c) :
    (∀ c ∈ blanks, isSpace c) ∨ tokensOf? ((blanks ++ rest).takeWhile (· ≠ '\n')) = none ∨
      tokensOf? ((blanks ++ rest).takeWhile (· ≠ '\n')) = some [] := by
  induction blanks with
  | nil => exact .inl fun c member => by cases member
  | cons c blanks inductionStep =>
    rw [List.forall_mem_cons] at blank
    by_cases feed : c = '\n'
    · exact .inr (.inr (by simp [feed, tokensOf?_nil]))
    · rw [List.cons_append, List.takeWhile_cons_of_pos (by simp [feed])]
      by_cases space : isSpace c
      · rw [tokensOf?_cons_space space, List.forall_mem_cons]
        exact (inductionStep blank.2).imp_left fun spaces => ⟨space, spaces⟩
      · exact .inr (.inl (tokensOf?_stray blank.1 space))

/-- Spaces in front of the rest of a line give no token. -/
theorem tokensOf?_spaces_takeWhile (spaces : ∀ c ∈ blanks, isSpace c) :
    tokensOf? ((blanks ++ rest).takeWhile (· ≠ '\n')) = tokensOf? (rest.takeWhile (· ≠ '\n')) := by
  have inLine : '\n' ∉ blanks := fun member => absurd (spaces '\n' member) (by decide)
  rw [takeWhile_ne_append inLine, tokensOf?_spaces spaces]

/-- White space in front of a number sign: either the first line begins with the sign, or a
character before it makes the first line unreadable. -/
theorem firstLine_blanks (blank : ∀ c ∈ blanks, isBlank c) :
    (∀ c ∈ blanks, isSpace c ∨ c = '\n') ∨
      tokensOf? (firstLine (blanks ++ '#' :: rest)) = none := by
  induction blanks with
  | nil => exact .inl fun c member => by cases member
  | cons c blanks inductionStep =>
    rw [List.forall_mem_cons] at blank
    by_cases skipped : isSpace c ∨ c = '\n'
    · rw [firstLine, List.cons_append, List.dropWhile_cons_of_pos (by simpa using skipped),
        List.forall_mem_cons]
      exact (inductionStep blank.2).imp_left fun others => ⟨skipped, others⟩
    · rw [not_or] at skipped
      rw [firstLine, List.cons_append, List.dropWhile_cons_of_neg (by simp [skipped]),
        List.takeWhile_cons_of_pos (by simp [skipped.2])]
      exact .inr (tokensOf?_stray blank.1 skipped.1)

/-- The first line begins with a number sign that only spaces and empty lines stand before. -/
theorem firstLine_numberSign (skipped : ∀ c ∈ blanks, isSpace c ∨ c = '\n') :
    firstLine (blanks ++ '#' :: rest) = '#' :: rest.takeWhile (· ≠ '\n') := by
  have all : ∀ c ∈ blanks, (isSpace c || decide (c = '\n')) = true := by
    intro c member
    simpa using skipped c member
  rw [firstLine, List.dropWhile_append_of_pos all, List.dropWhile_cons_of_neg (by decide),
    List.takeWhile_cons_of_pos (by decide)]

/-- The word `version` in front of characters that do not continue it. -/
theorem tokensOf?_versionWord (ends : ∀ c ∈ rest.head?, continuesWord c = false) :
    tokensOf? ("version".toList ++ rest) = (tokensOf? rest).map (.word "version" :: ·) := by
  have letters : ∀ c ∈ "ersion".toList, continuesWord c = true :=
    List.all_eq_true.mp (by decide)
  have split : "version".toList ++ rest = 'v' :: ("ersion".toList ++ rest) := rfl
  rw [split, tokensOf?_word (by decide), takeWhile_run letters ends, dropWhile_run letters ends]
  rfl

/-- The word `version` in front of the rest of a line, white space behind it. -/
theorem tokensOf?_version (filled : blanks ≠ []) (blank : ∀ c ∈ blanks, isBlank c) :
    tokensOf? (("version".toList ++ (blanks ++ rest)).takeWhile (· ≠ '\n')) =
      (tokensOf? ((blanks ++ rest).takeWhile (· ≠ '\n'))).map (.word "version" :: ·) := by
  rw [takeWhile_ne_append (by decide), tokensOf?_versionWord]
  intro c first
  obtain ⟨head, later, rfl⟩ := List.exists_cons_of_ne_nil filled
  refine continuesWord_eq_false_of_isBlank (blank c ?_)
  by_cases feed : head = '\n'
  · simp [feed] at first
  · rw [List.cons_append, List.takeWhile_cons_of_pos (by simp [feed])] at first
    obtain rfl := Option.some.inj first
    exact List.mem_cons_self

/-- A text that begins with a directive: white space, a number sign, white space, the word
`version`, white space and the rest. -/
def directiveText (front middle back rest : List Char) : List Char :=
  front ++ '#' :: (middle ++ ("version".toList ++ (back ++ rest)))

/-- A directive is spaced with white space of any kind, some of it behind the word. -/
structure BlankSpacing (front middle back : List Char) : Prop where
  blankFront : ∀ c ∈ front, isBlank c
  blankMiddle : ∀ c ∈ middle, isBlank c
  blankBack : ∀ c ∈ back, isBlank c
  filled : back ≠ []

/-- A directive is spaced as a line may be, with nothing but empty lines before it. -/
structure LineSpacing (front middle back : List Char) : Prop where
  skippedFront : ∀ c ∈ front, isSpace c ∨ c = '\n'
  spaceMiddle : ∀ c ∈ middle, isSpace c
  spaceBack : ∀ c ∈ back, isSpace c
  filled : back ≠ []

/-- White space stays white space when its line ends become line feeds. -/
theorem BlankSpacing.unifyLineEnds (spacing : BlankSpacing front middle back) :
    BlankSpacing (unifyLineEnds front) (unifyLineEnds middle) (unifyLineEnds back) := by
  have unified : ∀ {blanks : List Char}, (∀ c ∈ blanks, isBlank c) →
      ∀ c ∈ Glsl.unifyLineEnds blanks, isBlank c := by
    intro blanks blank c member
    rcases mem_unifyLineEnds member with old | rfl
    · exact blank c old
    · decide
  exact ⟨unified spacing.blankFront, unified spacing.blankMiddle, unified spacing.blankBack,
    unifyLineEnds_ne_nil spacing.filled⟩

/-- Spaced as a line may be, the directive is the first line. -/
theorem tokensOf?_firstLine_directiveText (spacing : LineSpacing front middle back) :
    tokensOf? (firstLine (directiveText front middle back rest)) =
      (tokensOf? (rest.takeWhile (· ≠ '\n'))).map fun tokens =>
        .mark "#" :: .word "version" :: tokens := by
  have blankBack : ∀ c ∈ back, isBlank c := fun c member =>
    isBlank_of_isSpace (spacing.spaceBack c member)
  rw [directiveText, firstLine_numberSign spacing.skippedFront, tokensOf?_numberSign,
    tokensOf?_spaces_takeWhile spacing.spaceMiddle, tokensOf?_version spacing.filled blankBack,
    tokensOf?_spaces_takeWhile spacing.spaceBack, Option.map_map]
  rfl

/-- The version is then told by the tokens behind the white space. -/
theorem versionTokens?_directiveText (spacing : LineSpacing front middle back) :
    versionTokens? (directiveText front middle back rest) =
      tokensOf? (rest.takeWhile (· ≠ '\n')) := by
  rw [versionTokens?, tokensOf?_firstLine_directiveText spacing, Option.bind_map]
  exact Option.bind_fun_some _

/-- **A directive that tells a version** in its line is spaced as a line may be. -/
theorem lineSpacing_of_versionTokens? (spacing : BlankSpacing front middle back) {token : Token}
    {tokens : List Token}
    (told : versionTokens? (directiveText front middle back rest) = some (token :: tokens)) :
    LineSpacing front middle back := by
  unfold versionTokens? directiveText at told
  rcases firstLine_blanks spacing.blankFront with skipped | unreadable
  · rw [firstLine_numberSign skipped, tokensOf?_numberSign] at told
    rcases tokensOf?_blanks spacing.blankMiddle with spaces | unreadable | ended
    · rw [tokensOf?_spaces_takeWhile spaces,
        tokensOf?_version spacing.filled spacing.blankBack] at told
      rcases tokensOf?_blanks spacing.blankBack with spacesBack | unreadable | ended
      · exact ⟨skipped, spaces, spacesBack, spacing.filled⟩
      · rw [unreadable] at told
        cases told
      · rw [ended] at told
        cases told
    · rw [unreadable] at told
      cases told
    · rw [ended] at told
      cases told
  · rw [unreadable] at told
    cases told

end Directive

/-! ### The number of the version -/

/-- The tokens that ask for a version: its number, and perhaps the word `core`. -/
theorem requestedVersion?_eq_some {tokens : List Token} {version : Nat}
    (requested : requestedVersion? tokens = some version) :
    440 ≤ version ∧ version ≤ 460 ∧ ∃ unsigned last, tokens = .integer version unsigned :: last ∧
      (last = [] ∨ last = [.word "core"]) := by
  have known : ∀ known, known ∈ knownVersions → 440 ≤ known ∧ known ≤ 460 := by decide
  unfold requestedVersion? at requested
  split at requested
  · rw [Option.ite_none_right_eq_some, List.contains_iff_mem] at requested
    obtain ⟨member, same⟩ := requested
    obtain rfl := Option.some.inj same
    exact ⟨(known _ member).1, (known _ member).2, _, _, rfl, .inl rfl⟩
  · rw [Option.ite_none_right_eq_some, List.contains_iff_mem] at requested
    obtain ⟨member, same⟩ := requested
    obtain rfl := Option.some.inj same
    exact ⟨(known _ member).1, (known _ member).2, _, _, rfl, .inr rfl⟩
  · cases requested

section Digits

variable {digits rest : List Char} {tokens : List Token} {value : Nat} {unsigned : Bool}

/-- **The integer in front of a line** is spelled by all digits that the line begins with; the other
tokens are those of what follows, a letter that tells of no sign aside. -/
theorem spelled_of_tokensOf? (ascii : ∀ c ∈ digits, isAsciiDigit c) (filled : digits ≠ [])
    (plain : digits ++ rest.takeWhile isAsciiDigit = ['0'] →
      ∀ c ∈ (rest.dropWhile isAsciiDigit).head?, c ≠ 'x' ∧ c ≠ 'X')
    (read : tokensOf? (digits ++ rest) = some (.integer value unsigned :: tokens)) :
    baseNumber? (baseOf (digits ++ rest.takeWhile isAsciiDigit))
        (digits ++ rest.takeWhile isAsciiDigit) = some value ∧
      ∃ letters after, rest.dropWhile isAsciiDigit = letters ++ after ∧
        (letters = [] ∨ letters = ['u'] ∨ letters = ['U']) ∧ tokensOf? after = some tokens := by
  have ends : ∀ c ∈ (rest.dropWhile isAsciiDigit).head?, isAsciiDigit c = false := by
    intro c first
    have stopped := List.head?_dropWhile_not isAsciiDigit rest
    rw [first] at stopped
    exact stopped
  have allAscii : ∀ c ∈ digits ++ rest.takeWhile isAsciiDigit, isAsciiDigit c :=
    List.forall_mem_append.mpr ⟨ascii, List.all_eq_true.mp List.all_takeWhile⟩
  have split : digits ++ rest =
      (digits ++ rest.takeWhile isAsciiDigit) ++ rest.dropWhile isAsciiDigit := by
    rw [List.append_assoc, List.takeWhile_append_dropWhile]
  obtain ⟨first, others, rfl⟩ := List.exists_cons_of_ne_nil filled
  rw [List.cons_append, tokensOf?_digit (ascii first List.mem_cons_self)] at read
  obtain ⟨⟨token, after⟩, number, later⟩ := Option.bind_eq_some_iff.mp read
  obtain ⟨remaining, remainingTokens, same⟩ := Option.map_eq_some_iff.mp later
  obtain ⟨rfl, rfl⟩ := List.cons.inj same
  rw [← List.cons_append, split] at number
  have integer := integer?_of_number? allAscii (by simp) ends plain number
  obtain ⟨suffix, _, _, spelled, _⟩ := integer?_eq_some_iff.mp integer
  obtain ⟨letters, same, letter⟩ := exists_of_signLetter suffix
  refine ⟨spelled, letters, after, same, letter, ?_⟩
  have skipped : others ++ rest = (others ++ rest.takeWhile isAsciiDigit ++ letters) ++ after := by
    rw [List.append_assoc _ letters, ← same, List.append_assoc, List.takeWhile_append_dropWhile]
  rw [skipped] at remainingTokens
  generalize others ++ rest.takeWhile isAsciiDigit ++ letters = front at remainingTokens
  have count : (first :: (front ++ after)).length - after.length - 1 = front.length := by
    rw [List.length_cons, List.length_append]
    omega
  rwa [count, List.drop_left] at remainingTokens

/-- Digits that stay as they are. -/
theorem version_le_of_known (ascii : ∀ c ∈ digits, isAsciiDigit c)
    (atLeast : 440 ≤ decimalNumber digits)
    (read : tokensOf? (digits ++ rest) = some (.integer value unsigned :: tokens))
    (known : value ≤ 460) : value ≤ decimalNumber digits := by
  have filled : digits ≠ [] := by
    rintro rfl
    exact absurd atLeast (by decide)
  have plain : digits ++ rest.takeWhile isAsciiDigit = ['0'] →
      ∀ c ∈ (rest.dropWhile isAsciiDigit).head?, c ≠ 'x' ∧ c ≠ 'X' := by
    intro zero
    obtain ⟨first, others, rfl⟩ := List.exists_cons_of_ne_nil filled
    obtain ⟨rfl, nothing⟩ := List.cons.inj zero
    rw [(List.append_eq_nil_iff.mp nothing).1] at atLeast
    exact absurd atLeast (by decide)
  obtain ⟨spelled, _⟩ := spelled_of_tokensOf? ascii filled plain read
  by_cases nothing : rest.takeWhile isAsciiDigit = []
  · rw [nothing, List.append_nil] at spelled
    exact baseNumber?_le_decimalNumber (baseOf_le digits) spelled
  · -- One digit more makes the version too large, or the decimal number is too small.
    rcases baseOf_cases (digits ++ rest.takeWhile isAsciiDigit) with base | base
    · rw [base] at spelled
      obtain ⟨number, front, bound⟩ :=
        exists_mul_le_of_baseNumber?_append nothing (by decide) spelled
      have short := (decimalNumber_lt_of_octal front).2
      omega
    · rw [base] at spelled
      obtain ⟨number, front, bound⟩ :=
        exists_mul_le_of_baseNumber?_append nothing (by decide) spelled
      have same := eq_decimalNumber_of_baseNumber? front
      omega

/-- Digits that others take the place of. -/
theorem version_le_of_replaced (ascii : ∀ c ∈ digits, isAsciiDigit c) (filled : digits ≠ [])
    (read : tokensOf? (digits ++ rest) = some (.integer value unsigned :: tokens))
    {others : List Token} {version : Nat}
    (replaced : tokensOf? ("450".toList ++ rest) = some others)
    (requested : requestedVersion? others = some version) : value ≤ decimalNumber digits := by
  obtain ⟨_, small, _, last, rfl, coreOrNothing⟩ := requestedVersion?_eq_some requested
  have notZero : "450".toList ++ rest.takeWhile isAsciiDigit ≠ ['0'] := by simp
  obtain ⟨spelled, letters, after, split, letter, lastTokens⟩ := spelled_of_tokensOf?
    (List.all_eq_true.mp (by decide)) (by decide) (fun zero => absurd zero notZero) replaced
  have nothing : rest.takeWhile isAsciiDigit = [] := by
    refine Classical.byContradiction fun more => ?_
    have base : baseOf ("450".toList ++ rest.takeWhile isAsciiDigit) = 10 := by simp [baseOf]
    rw [base] at spelled
    obtain ⟨number, front, bound⟩ := exists_mul_le_of_baseNumber?_append more (by decide) spelled
    obtain rfl : 450 = number := Option.some.inj front
    omega
  have whole : rest.dropWhile isAsciiDigit = rest := by
    have joined := @List.takeWhile_append_dropWhile _ isAsciiDigit rest
    rwa [nothing] at joined
  have plain : ∀ c ∈ rest.head?, c ≠ 'x' ∧ c ≠ 'X' := by
    intro c first
    refine not_or.mp fun hexadecimal => ?_
    obtain ⟨later, rfl⟩ : ∃ later, rest = c :: later := List.head?_eq_some_iff.mp first
    rw [whole] at split
    -- The letter would be the start of the next token, which can only be the word `core`.
    have next : after = c :: later := by
      rcases letter with rfl | rfl | rfl
      · exact split.symm
      · obtain rfl := (List.cons.inj split).1
        exact absurd hexadecimal (by decide)
      · obtain rfl := (List.cons.inj split).1
        exact absurd hexadecimal (by decide)
    have letterStarts : startsWord c := by
      rcases hexadecimal with rfl | rfl <;> decide
    rw [next, tokensOf?_word letterStarts] at lastTokens
    obtain ⟨_, _, rfl⟩ := Option.map_eq_some_iff.mp lastTokens
    rcases coreOrNothing with nothing | core
    · cases nothing
    · have word := String.ofList_inj.mp (Token.word.inj (List.cons.inj core).1)
      obtain rfl : c = 'c' := (List.cons.inj word).1
      exact absurd hexadecimal (by decide)
  rw [← whole] at plain
  obtain ⟨spelled, _⟩ := spelled_of_tokensOf? ascii filled (fun _ => plain) read
  rw [nothing, List.append_nil] at spelled
  exact baseNumber?_le_decimalNumber (baseOf_le digits) spelled

end Digits

end ShaderCheck.Glsl
