import Declare.Json.Token

/-!
# Reading and writing JSON texts

A text is read token by token. Each reader takes tokens from the front of a list and returns what is
left, which is shorter. A value is written without any blanks.
-/

namespace Declare.Json

/-- A reading that takes at least one of the given tokens. -/
abbrev Takes (α : Type) (tokens : List Token) := Option (α × ProperRest tokens)

mutual

/-- Reads a value. -/
def readValue (tokens : List Token) : Takes Json tokens :=
  match tokens with
  | .null :: rest => some (.null, .tail _ rest)
  | .boolean b :: rest => some (.boolean b, .tail _ rest)
  | .number n :: rest => some (.number n, .tail _ rest)
  | .string s :: rest => some (.string s, .tail _ rest)
  | .openBracket :: .closeBracket :: rest => some (.array [], (ProperRest.tail _ rest).cons)
  | .openBracket :: inner => (readItems inner).map fun (items, rest) => (.array items, rest.cons)
  | .openBrace :: .closeBrace :: rest => some (.object [], (ProperRest.tail _ rest).cons)
  | .openBrace :: inner =>
    (readFields inner).map fun (fields, rest) => (.object fields, rest.cons)
  | _ => none
termination_by (tokens.length, 0)
decreasing_by all_goals exact .left _ _ (ProperRest.tail _ inner).lt

/-- Reads the values of an array up to its closing bracket. -/
def readItems (tokens : List Token) : Takes (List Json) tokens :=
  match readValue tokens with
  | none => none
  | some (j, rest) =>
    match rest.next? with
    | some (.closeBracket, rest) => some ([j], rest)
    | some (.comma, rest) =>
      (readItems rest.list).map fun (js, rest') => (j :: js, rest.trans rest'.toRest)
    | _ => none
termination_by (tokens.length, 1)
decreasing_by
  · exact .right _ Nat.zero_lt_one
  · exact .left _ _ rest.lt

/-- Reads the fields of an object up to its closing brace. -/
def readFields (tokens : List Token) : Takes (List (Option String × Json)) tokens :=
  match tokens with
  | .string name :: .colon :: inner =>
    match readValue inner with
    | none => none
    | some (j, rest) =>
      match rest.next? with
      | some (.closeBrace, rest) => some ([(name, j)], rest.cons.cons)
      | some (.comma, rest) =>
        (readFields rest.list).map fun (fields, rest') =>
          ((name, j) :: fields, (rest.trans rest'.toRest).cons.cons)
      | _ => none
  | _ => none
termination_by (tokens.length, 1)
decreasing_by
  · exact .left _ _ (ProperRest.tail _ inner).cons.lt
  · exact .left _ _ rest.cons.cons.lt

end

/-- The value that tokens spell. -/
def ofTokens? (tokens : List Token) : Option Json :=
  match readValue tokens with
  | some (j, rest) => if rest.list.isEmpty then some j else none
  | none => none

/-- The value that a text spells. -/
def read? (text : String) : Option Json :=
  (Token.tokenize text.toList).bind ofTokens?

mutual

/-- The tokens of a value. -/
def tokens : Json → List Token
  | .null => [.null]
  | .boolean b => [.boolean b]
  | .number n => [.number n]
  | .string s => [.string s]
  | .array items => .openBracket :: itemTokens items
  | .object fields => .openBrace :: fieldTokens fields

/-- The tokens of the values of an array, with the closing bracket. -/
def itemTokens : List Json → List Token
  | [] => [.closeBracket]
  | [j] => tokens j ++ [.closeBracket]
  | j :: js => tokens j ++ .comma :: itemTokens js

/-- The tokens of the fields of an object, with the closing brace. -/
def fieldTokens : List (Option String × Json) → List Token
  | [] => [.closeBrace]
  | [(name, j)] => .string name :: .colon :: tokens j ++ [.closeBrace]
  | (name, j) :: fields => .string name :: .colon :: tokens j ++ .comma :: fieldTokens fields

end

/-- The text of a value. -/
def write (j : Json) : String :=
  .ofList (j.tokens.flatMap Token.text)

end Declare.Json
