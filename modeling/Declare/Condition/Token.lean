import Declare.Condition.Basic
import Declare.Text.Split

/-!
# Tokens of conditions

A condition is a sequence of words, quoted texts, comparisons, parentheses and commas. Blanks
separate words and are left out otherwise. A word is as long as it can be: it ends before a blank or
a character that starts another token.
-/

namespace Declare.Condition

/-- What is wrong with the form of a condition. -/
inductive Malformed where
  | unknownComparison (symbol : String)
  | unterminatedQuote
  | unexpected (token : String)
  | unexpectedEnd
  | unclosedParenthesis
  /-- `same` or `different` without an attribute. -/
  | missingOperand (keyword : String)
  /-- `A.` or `T.` without an attribute. -/
  | missingAttribute (word : String)
  | missingIn
  | unopenedValues
  | unclosedValues
  | missingNumber (comparison : Comparison)
  | missingPredicate (attr : String) (got : Option String)
  | missingValue
deriving Repr, DecidableEq

/-- The description of what is wrong. -/
def Malformed.message : Malformed → String
  | unknownComparison symbol => "unknown operator `" ++ symbol ++ "`"
  | unterminatedQuote => "unterminated quote"
  | unexpected token => "unexpected `" ++ token ++ "`"
  | unexpectedEnd => "unexpected end of condition"
  | unclosedParenthesis => "missing `)`"
  | missingOperand keyword => "expected attribute after `" ++ keyword ++ "`"
  | missingAttribute word => "missing attribute name in `" ++ word ++ "`"
  | missingIn => "expected `in` after `not`"
  | unopenedValues => "expected `(` after `in`"
  | unclosedValues => "missing `)` after values"
  | missingNumber comparison => "expected a number after `" ++ comparison.symbol ++ "`"
  | missingPredicate attr got =>
    "expected `is`, `in` or a comparison after `" ++ attr ++ "`" ++
      got.elim "" fun token => " but got `" ++ token ++ "`"
  | missingValue => "missing value"

/-- A token of a condition. -/
inductive Token where
  | openParen
  | closeParen
  | comma
  | comparison (c : Comparison)
  | word (w : String)
  | quoted (s : String)
deriving Repr, DecidableEq

namespace Token

/-- The token as it is shown in error messages. -/
def text : Token → String
  | openParen => "("
  | closeParen => ")"
  | comma => ","
  | comparison c => c.symbol
  | word w => w
  | quoted s => "\"" ++ s ++ "\""

/-- Whether a word is a keyword, in any letter case. -/
def spells (keyword : List Char) (w : String) : Bool :=
  w.toList.map Char.toLower = keyword

/-- Whether the token is a keyword. -/
def isKeyword (keyword : List Char) : Token → Bool
  | word w => spells keyword w
  | _ => false

/-- The characters that start a token of their own. -/
def special : List Char :=
  ['(', ')', ',', '<', '>', '=', '!', '"', '\'']

/-- Whether a character can stand in a word. -/
def isWordChar (c : Char) : Bool :=
  !Text.isBlank c && c ∉ special

/-- The comparison that begins with a character, and whether an equality sign follows it. -/
def comparison? : Char → Bool → Option Comparison
  | '<', false => some .lt
  | '<', true => some .le
  | '>', false => some .gt
  | '>', true => some .ge
  | '=', _ => some .eq
  | '!', true => some .ne
  | _, _ => none

/-- A token read from a text, or nothing for a blank, and the rest of the text. -/
abbrev Scanned (cs : List Char) := Option Token × Rest cs

/-- Reads a comparison that begins with `c`. -/
def scanComparison (c : Char) (cs : List Char) : Except Malformed (Scanned cs) :=
  match cs with
  | '=' :: rest =>
    match comparison? c true with
    | some op => .ok (some (comparison op), (Rest.all rest).cons)
    | none => .error (.unknownComparison (.ofList [c, '=']))
  | rest =>
    match comparison? c false with
    | some op => .ok (some (comparison op), .all rest)
    | none => .error (.unknownComparison (.ofList [c]))

/-- Reads what follows an opening quote, up to the same quote. -/
def scanQuoted (quote : Char) (cs : List Char) : Except Malformed (Scanned cs) :=
  match (Rest.dropWhile (· ≠ quote) cs).next? with
  | none => .error .unterminatedQuote
  | some (_, rest) => .ok (some (quoted (.ofList (cs.takeWhile (· ≠ quote)))), rest)

/-- Reads the token that begins with `c`. -/
def scan (c : Char) (cs : List Char) : Except Malformed (Scanned cs) :=
  if Text.isBlank c then .ok (none, .all cs)
  else if c = '(' then .ok (some openParen, .all cs)
  else if c = ')' then .ok (some closeParen, .all cs)
  else if c = ',' then .ok (some comma, .all cs)
  else if c ∈ ['<', '>', '=', '!'] then scanComparison c cs
  else if c ∈ ['"', '\''] then scanQuoted c cs
  else .ok (some (word (.ofList (c :: cs.takeWhile isWordChar))), .dropWhile isWordChar cs)

/-- The tokens of a text. -/
def tokenize (cs : List Char) : Except Malformed (List Token) :=
  match cs with
  | [] => .ok []
  | c :: cs =>
    match scan c cs with
    | .error e => .error e
    | .ok (token, rest) =>
      match tokenize rest.list with
      | .error e => .error e
      | .ok tokens => .ok (token.toList ++ tokens)
termination_by cs.length
decreasing_by exact rest.proper.lt

end Token

end Declare.Condition
