import Declare.Decimal.Layout
import Declare.Json.Numeral

/-!
# Tokens of JSON texts

A JSON text is a sequence of tokens, with blanks in between. Escapes in a string name units of
UTF-16; two units that form a pair make one character, and a string with a unit that lacks its other
half is no text.
-/

namespace Declare.Json

/-- A token of a JSON text. -/
inductive Token where
  | openBrace
  | closeBrace
  | openBracket
  | closeBracket
  | colon
  | comma
  | null
  | boolean (b : Bool)
  | number (n : Number)
  | string (s : Option String)

/-- A part of a string: a character, or a unit of UTF-16 named by an escape. -/
inductive Piece where
  | char (c : Char)
  | unit (u : Nat)
deriving Repr, DecidableEq

namespace Piece

/-- Whether a unit is the first half of a character. -/
def isLead (u : Nat) : Bool :=
  0xD800 ≤ u && u < 0xDC00

/-- Whether a unit is the second half of a character. -/
def isTrail (u : Nat) : Bool :=
  0xDC00 ≤ u && u < 0xE000

/-- The characters that parts of a string spell. -/
def decode? : List Piece → Option (List Char)
  | [] => some []
  | .char c :: ps => (decode? ps).map (c :: ·)
  | .unit u :: .unit v :: ps =>
    if isLead u && isTrail v then
      (decode? ps).map (Char.ofNat (0x10000 + (u - 0xD800) * 0x400 + (v - 0xDC00)) :: ·)
    else if isLead u || isTrail u then none
    else (decode? (.unit v :: ps)).map (Char.ofNat u :: ·)
  | .unit u :: ps =>
    if isLead u || isTrail u then none else (decode? ps).map (Char.ofNat u :: ·)

end Piece

/-- The value of a hexadecimal digit. -/
def hexValue? (c : Char) : Option Nat :=
  if c.isDigit then some (c.toNat - '0'.toNat)
  else if 'a' ≤ c ∧ c ≤ 'f' then some (c.toNat - 'a'.toNat + 10)
  else if 'A' ≤ c ∧ c ≤ 'F' then some (c.toNat - 'A'.toNat + 10)
  else none

/-- The number that four hexadecimal digits spell. -/
def hexUnit? (a b c d : Char) : Option Nat := do
  let digits ← [a, b, c, d].mapM hexValue?
  some (digits.foldl (fun n d => n * 16 + d) 0)

/-- The characters with escapes of their own, each with the letter after the backslash. -/
def escapes : List (Char × Char) :=
  [('"', '"'), ('\\', '\\'), ('\x08', 'b'), ('\x0c', 'f'), ('\n', 'n'), ('\x0d', 'r'), ('\t', 't')]

/-- The character that a letter after a backslash stands for. -/
def unescape? (letter : Char) : Option Char :=
  if letter = '/' then some '/' else (escapes.find? (·.2 = letter)).map (·.1)

/-- Reads the parts of a string up to its closing quote. -/
def takeString? (cs : List Char) : Option (List Piece × Rest cs) :=
  match cs with
  | [] => none
  | '"' :: rest => some ([], (Rest.all rest).cons)
  | '\\' :: 'u' :: a :: b :: c :: d :: rest => do
    let u ← hexUnit? a b c d
    let (ps, rest) ← takeString? rest
    some (.unit u :: ps, rest.cons.cons.cons.cons.cons.cons)
  | '\\' :: letter :: rest => do
    let c ← unescape? letter
    let (ps, rest) ← takeString? rest
    some (.char c :: ps, rest.cons.cons)
  | c :: rest =>
    if c = '\\' || c.toNat < 32 then none
    else (takeString? rest).map fun (ps, rest) => (.char c :: ps, rest.cons)

namespace Token

/-- Whether a character may stand between tokens. -/
def isBlank (c : Char) : Bool :=
  c ∈ [' ', '\n', '\t', '\x0d']

/-- The token that a single character is. -/
def ofChar? : Char → Option Token
  | '\x7b' => some openBrace
  | '\x7d' => some closeBrace
  | '[' => some openBracket
  | ']' => some closeBracket
  | ':' => some colon
  | ',' => some comma
  | _ => none

/-- Reads the word, string or number that begins with `c`. -/
def scanWord (c : Char) (cs : List Char) : Option (Token × ProperRest (c :: cs)) :=
  match c, cs with
  | 'n', 'u' :: 'l' :: 'l' :: rest => some (null, (Rest.all rest).cons.cons.cons.proper)
  | 't', 'r' :: 'u' :: 'e' :: rest => some (boolean true, (Rest.all rest).cons.cons.cons.proper)
  | 'f', 'a' :: 'l' :: 's' :: 'e' :: rest =>
    some (boolean false, (Rest.all rest).cons.cons.cons.cons.proper)
  | '"', cs =>
    (takeString? cs).map fun (ps, rest) =>
      (string ((Piece.decode? ps).map String.ofList), rest.proper)
  | '-', cs => (takeNumeral? true cs).map fun (n, rest) => (number n.value, rest.cons)
  | c, cs => (takeNumeral? false (c :: cs)).map fun (n, rest) => (number n.value, rest)

/-- Reads the token that begins with `c`, or nothing for a blank. -/
def scan (c : Char) (cs : List Char) : Option (Option Token × ProperRest (c :: cs)) :=
  if isBlank c then some (none, .tail c cs)
  else
    match ofChar? c with
    | some token => some (some token, .tail c cs)
    | none => (scanWord c cs).map fun (token, rest) => (some token, rest)

/-- The tokens of a text. -/
def tokenize (cs : List Char) : Option (List Token) :=
  match cs with
  | [] => some []
  | c :: cs =>
    match scan c cs with
    | none => none
    | some (token, rest) => (tokenize rest.list).map (token.toList ++ ·)
termination_by cs.length
decreasing_by exact rest.lt

end Token

/-- Real numbers in JSON: positional from 10^-5 to below 10^16, never without point or exponent. A
positive exponent has a plus sign. -/
def layout : Decimal.Layout where
  positional e := -5 ≤ e && e < 16
  pointZero := true
  plusSign := true
  tie := .toEven

/-- The written form of a number. Numbers that are not finite have none and are written as null. -/
def Number.text : Number → List Char
  | whole i => if i < 0 then '-' :: Text.digits i.natAbs else Text.digits i.natAbs
  | real x => if Decimal.isFinite x then (layout.write x).toList else "null".toList
  | huge => "null".toList

/-- The written form of a character in a string. Control characters are escaped. -/
def escape (c : Char) : List Char :=
  match escapes.find? (·.1 = c) with
  | some (_, letter) => ['\\', letter]
  | none =>
    if c.toNat < 32 then
      ['\\', 'u', '0', '0', Nat.digitChar (c.toNat / 16), Nat.digitChar (c.toNat % 16)]
    else [c]

/-- The written form of a token. -/
def Token.text : Token → List Char
  | openBrace => ['\x7b']
  | closeBrace => ['\x7d']
  | openBracket => ['[']
  | closeBracket => [']']
  | colon => [':']
  | comma => [',']
  | null => "null".toList
  | boolean b => (if b then "true" else "false").toList
  | number n => n.text
  | string s => '"' :: (s.getD "").toList.flatMap escape ++ ['"']

end Declare.Json
