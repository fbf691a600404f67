import Declare.Decimal.Layout
import Declare.Decimal.Numeral
import Declare.Json.Basic
import Declare.Text.Split

/-!
# JSON numbers

A number without point and exponent that fits into 64 bits is whole. All others are computed in
floating-point arithmetic: the digits that fit into 64 bits make up a significand, which is then
multiplied or divided by a power of ten. So the result may differ in its last bits from the number
that is written. Digits that do not fit are dropped; before the point they still count as places.
-/

namespace Declare.Json

/-- A number as it is written. -/
structure Numeral where
  negative : Bool
  whole : List Char
  fraction : Option (List Char) := none
  exponent : Option Int := none

namespace Numeral

/-- The value of a digit. -/
def digitValue (c : Char) : Nat :=
  c.toNat - '0'.toNat

/-- Appends digits to a significand as long as it fits into 64 bits, and counts the digits that are
dropped. -/
def fill (significand : Nat) : List Char → Nat × Nat
  | [] => (significand, 0)
  | c :: cs =>
    let more := significand * 10 + digitValue c
    if more < UInt64.size then fill more cs else (significand, cs.length + 1)

/-- The significand divided by 10^k, in steps that keep within the powers of ten that are
floating-point numbers. -/
def divide (x : Float) (k : Nat) : Float :=
  if k ≤ 308 then x / .ofScientific 1 false k
  else if x == 0.0 then x
  else divide (x / 1e308) (k - 308)
termination_by k

/-- The significand times 10^k, if that is in range. -/
def multiply (x : Float) (k : Nat) : Option Float :=
  if k ≤ 308 then (some (x * .ofScientific 1 false k)).filter Decimal.isFinite
  else if x == 0.0 then some x
  else none

/-- The significand times a power of ten. -/
def scale (x : Float) (e : Int) : Option Float :=
  if 0 ≤ e then multiply x e.toNat else some (divide x e.natAbs)

/-- The number in floating-point arithmetic. -/
def real (n : Numeral) : Number :=
  let (significand, places) := fill 0 n.whole
  let fraction := n.fraction.getD []
  let (significand, dropped) := fill significand fraction
  let e : Int := places - (fraction.length - dropped : Nat) + n.exponent.getD 0
  match scale (.ofNat significand) e with
  | none => .huge
  | some x => .real (if n.negative then -x else x)

/-- The value of a number. Zero with a minus sign is not a whole number. -/
def value (n : Numeral) : Number :=
  match n.fraction, n.exponent, fill 0 n.whole with
  | none, none, (i, 0) =>
    if !n.negative then .whole i
    else if 0 < i ∧ i ≤ 9223372036854775808 then .whole (-i)
    else .real (-.ofNat i)
  | _, _, _ => n.real

end Numeral

/-- The digits at the front of a text, at least one. -/
def takeDigits? (cs : List Char) : Option (List Char × ProperRest cs) :=
  match cs with
  | c :: rest =>
    if c.isDigit then
      some (c :: rest.takeWhile Char.isDigit, (Rest.dropWhile Char.isDigit rest).proper)
    else none
  | [] => none

/-- The digits before the point: a zero, or digits that do not start with one. -/
def takeWhole? (cs : List Char) : Option (List Char × ProperRest cs) :=
  match cs with
  | '0' :: rest => some (['0'], .tail _ rest)
  | cs => takeDigits? cs

/-- A point with digits after it, or nothing. -/
def takeFraction? (cs : List Char) : Option (Option (List Char) × Rest cs) :=
  match cs with
  | '.' :: rest => (takeDigits? rest).map fun (digits, rest) => (some digits, rest.cons.toRest)
  | cs => some (none, .all cs)

/-- The number that digits at the front of a text spell. -/
def takeNat? (cs : List Char) : Option (Nat × ProperRest cs) :=
  (takeDigits? cs).map fun (digits, rest) => (Nat.ofDigitChars 10 digits 0, rest)

/-- A number with an optional sign. -/
def takeSigned? (cs : List Char) : Option (Int × ProperRest cs) :=
  match cs with
  | '-' :: rest => (takeNat? rest).map fun (n, rest) => (-(n : Int), rest.cons)
  | '+' :: rest => (takeNat? rest).map fun (n, rest) => ((n : Int), rest.cons)
  | cs => (takeNat? cs).map fun (n, rest) => ((n : Int), rest)

/-- An exponent, or nothing. -/
def takeExponent? (cs : List Char) : Option (Option Int × Rest cs) :=
  match cs with
  | c :: rest =>
    if c = 'e' || c = 'E' then
      (takeSigned? rest).map fun (e, rest) => (some e, rest.cons.toRest)
    else some (none, .all (c :: rest))
  | [] => some (none, .all [])

/-- The number at the front of a text, apart from its sign. -/
def takeNumeral? (negative : Bool) (cs : List Char) : Option (Numeral × ProperRest cs) := do
  let (whole, atPoint) ← takeWhole? cs
  let (fraction, atExponent) ← takeFraction? atPoint.list
  let (exponent, rest) ← takeExponent? atExponent.list
  some ({ negative, whole, fraction, exponent }, atPoint.trans (atExponent.trans rest))

end Declare.Json
