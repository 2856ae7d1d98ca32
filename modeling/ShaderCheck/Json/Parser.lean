/-
**Reading JSON.**

Lists and objects may be nested 127 deep. Of members with one key the last stays, and members are
kept in the order of their keys.

* `parseValue`: any value, from the front of a text;
* `Json.parse`: a text that holds one value and white space.
-/

import ShaderCheck.Json.Number
import ShaderCheck.Json.StringLiteral
import ShaderCheck.Ordered

namespace ShaderCheck

/-- Reads the letters of a literal after its first one. -/
def parseLiteral (value : Json) (letters : List Char) (text : List Char) :
    Except JsonStop (Json × List Char) :=
  match letters, text with
  | [], _ => .ok (value, text)
  | _ :: _, [] => .error (.here .eofInValue [])
  | letter :: letters, c :: rest =>
    if c = letter then parseLiteral value letters rest
    else .error ⟨.expectedIdentifier, text, 1⟩

theorem length_of_parseLiteral {value result : Json} {letters text rest : List Char}
    (parsed : parseLiteral value letters text = .ok (result, rest)) :
    rest.length ≤ text.length := by
  fun_induction parseLiteral value letters text with
  | case1 =>
    simp only [Except.ok.injEq, Prod.mk.injEq] at parsed
    exact Nat.le_of_eq (congrArg List.length parsed.2.symm)
  | case2 => cases parsed
  | case3 letters letter tail step =>
    have := step parsed
    simp only [List.length_cons]
    omega
  | case4 => cases parsed

/-- The elements of a list after the first, up to its closing bracket. -/
def parseMoreItems (value : JsonReader Json) (text : List Char) :
    Except JsonStop (Parsed (List Json) text) :=
  match split : skipBlanks text with
  | [] => .error (.here .eofInList [])
  | ']' :: rest => .ok ⟨[], rest, by
      have := length_skipBlanks_le text
      rw [split, List.length_cons] at this
      omega⟩
  | ',' :: rest =>
    match next : skipBlanks rest with
    | [] => .error (.here .eofInValue [])
    | ']' :: rest => .error (.beforeNext .trailingComma (']' :: rest))
    | c :: rest' =>
      have bound : (c :: rest').length < text.length := by
        have first := length_skipBlanks_le text
        have second := length_skipBlanks_le rest
        rw [split, List.length_cons] at first
        rw [next] at second
        omega
      match value (c :: rest') with
      | .error stop => .error stop
      | .ok item =>
        have shorter := item.shorter
        match parseMoreItems value item.rest with
        | .error stop => .error stop
        | .ok items => .ok ⟨item.value :: items.value, items.rest, by
            have := items.shorter
            omega⟩
  | c :: rest => .error (.beforeNext .expectedListCommaOrEnd (c :: rest))
termination_by text.length

/-- The elements of a list after its opening bracket. -/
def parseItems (value : JsonReader Json) : JsonReader (List Json) := fun text =>
  match split : skipBlanks text with
  | [] => .error (.here .eofInList [])
  | ']' :: rest => .ok ⟨[], rest, by
      have := length_skipBlanks_le text
      rw [split, List.length_cons] at this
      omega⟩
  | c :: rest =>
    have bound : (c :: rest).length ≤ text.length := by
      have := length_skipBlanks_le text
      rw [split] at this
      exact this
    match value (c :: rest) with
    | .error stop => .error stop
    | .ok item =>
      match parseMoreItems value item.rest with
      | .error stop => .error stop
      | .ok items => .ok ⟨item.value :: items.value, items.rest, by
          have first := item.shorter
          have second := items.shorter
          omega⟩

/-- A member of an object after the opening quote of its key. -/
def parseMember (value : JsonReader Json) : JsonReader (String × Json) := fun text =>
  match parseString text with
  | .error stop => .error stop
  | .ok key =>
    match split : skipBlanks key.rest with
    | [] => .error (.here .eofInObject [])
    | ':' :: rest =>
      match value rest with
      | .error stop => .error stop
      | .ok member => .ok ⟨(key.value, member.value), member.rest, by
          have first := key.shorter
          have second := length_skipBlanks_le key.rest
          have third := member.shorter
          rw [split, List.length_cons] at second
          omega⟩
    | c :: rest => .error (.beforeNext .expectedColon (c :: rest))

/-- The members of an object after the first, up to its closing brace. -/
def parseMoreMembers (value : JsonReader Json) (text : List Char) :
    Except JsonStop (Parsed (List (String × Json)) text) :=
  match split : skipBlanks text with
  | [] => .error (.here .eofInObject [])
  | '\x7d' :: rest => .ok ⟨[], rest, by
      have := length_skipBlanks_le text
      rw [split, List.length_cons] at this
      omega⟩
  | ',' :: rest =>
    match next : skipBlanks rest with
    | [] => .error (.here .eofInValue [])
    | '\x7d' :: rest => .error (.beforeNext .trailingComma ('\x7d' :: rest))
    | '"' :: rest' =>
      have bound : rest'.length < text.length := by
        have first := length_skipBlanks_le text
        have second := length_skipBlanks_le rest
        rw [split, List.length_cons] at first
        rw [next, List.length_cons] at second
        omega
      match parseMember value rest' with
      | .error stop => .error stop
      | .ok member =>
        have shorter := member.shorter
        match parseMoreMembers value member.rest with
        | .error stop => .error stop
        | .ok members => .ok ⟨member.value :: members.value, members.rest, by
            have := members.shorter
            omega⟩
    | c :: rest => .error (.beforeNext .keyNotString (c :: rest))
  | c :: rest => .error (.beforeNext .expectedObjectCommaOrEnd (c :: rest))
termination_by text.length

/-- The members of an object after its opening brace. -/
def parseMembers (value : JsonReader Json) : JsonReader (List (String × Json)) := fun text =>
  match split : skipBlanks text with
  | [] => .error (.here .eofInObject [])
  | '\x7d' :: rest => .ok ⟨[], rest, by
      have := length_skipBlanks_le text
      rw [split, List.length_cons] at this
      omega⟩
  | '"' :: rest =>
    match parseMember value rest with
    | .error stop => .error stop
    | .ok member =>
      match parseMoreMembers value member.rest with
      | .error stop => .error stop
      | .ok members => .ok ⟨member.value :: members.value, members.rest, by
          have start := length_skipBlanks_le text
          have first := member.shorter
          have second := members.shorter
          rw [split, List.length_cons] at start
          omega⟩
  | c :: rest => .error (.beforeNext .keyNotString (c :: rest))

/-- The object of these members: in the order of their keys, the last of each key. -/
def objectOf (members : List (String × Json)) : Json :=
  .object (members.foldl (fun entries member => insertEntry member.1 member.2 entries) [])

/-- A value that is neither a list nor an object, from its first character `c` on; none if no such
value starts with it. -/
def parseScalar? (c : Char) (rest : List Char) : Option (Except JsonStop (Parsed Json (c :: rest))) :=
  let literal (value : Json) (letters : List Char) :
      Option (Except JsonStop (Parsed Json (c :: rest))) :=
    match parsed : parseLiteral value letters rest with
    | .error stop => some (.error stop)
    | .ok (value, left) => some (.ok ⟨value, left, Nat.lt_succ_of_le (length_of_parseLiteral parsed)⟩)
  if c = 'n' then literal .null ['u', 'l', 'l']
  else if c = 't' then literal (.bool true) ['r', 'u', 'e']
  else if c = 'f' then literal (.bool false) ['a', 'l', 's', 'e']
  else if c = '"' then
    match parseString rest with
    | .error stop => some (.error stop)
    | .ok parsed =>
      some (.ok (Parsed.widen ⟨.string parsed.value, parsed.rest, parsed.shorter⟩
        (Nat.le_succ rest.length)))
  else if c = '-' then
    match parsed : parseNumber false rest with
    | .error stop => some (.error stop)
    | .ok (number, left) =>
      some (.ok ⟨.number number, left, Nat.lt_succ_of_lt (length_of_parseNumber parsed)⟩)
  else if Text.isAsciiDigit c then
    match parsed : parseNumber true (c :: rest) with
    | .error stop => some (.error stop)
    | .ok (number, left) => some (.ok ⟨.number number, left, length_of_parseNumber parsed⟩)
  else none

/-- A value, below at most so many lists and objects. -/
def parseValue (levels : Nat) : JsonReader Json := fun text =>
  match split : skipBlanks text with
  | [] => .error (.here .eofInValue [])
  | c :: rest =>
    have bound : (c :: rest).length ≤ text.length := by
      have := length_skipBlanks_le text
      rw [split] at this
      exact this
    match parseScalar? c rest with
    | some (.error stop) => .error stop
    | some (.ok scalar) => .ok (scalar.widen bound)
    | none =>
      have restBound : rest.length ≤ text.length := by
        rw [List.length_cons] at bound
        omega
      match c, levels with
      | '[', levels + 1 =>
        match parseItems (parseValue levels) rest with
        | .error stop => .error stop
        | .ok items => .ok (Parsed.widen ⟨.array items.value, items.rest, items.shorter⟩ restBound)
      | '\x7b', levels + 1 =>
        match parseMembers (parseValue levels) rest with
        | .error stop => .error stop
        | .ok members =>
          .ok (Parsed.widen ⟨objectOf members.value, members.rest, members.shorter⟩ restBound)
      | '[', 0 | '\x7b', 0 => .error (.beforeNext .nestingTooDeep (c :: rest))
      | _, _ => .error (.beforeNext .expectedValue (c :: rest))

/-- The number of lists and objects that a value may be nested in. -/
def nestingLimit : Nat := 127

/-- The value that a text spells, white space around it aside. -/
def Json.parse (text : String) : Except JsonError Json :=
  match parseValue nestingLimit text.toList with
  | .error stop => .error (stop.inText text.toList)
  | .ok parsed =>
    match skipBlanks parsed.rest with
    | [] => .ok parsed.value
    | rest => .error ((JsonStop.beforeNext .trailingCharacters rest).inText text.toList)

end ShaderCheck
