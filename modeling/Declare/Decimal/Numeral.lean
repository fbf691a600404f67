/-!
# Decimal numerals

Whole numbers are read with an optional sign and any number of leading zeros, and written with the
fewest digits. Reading a written natural number gives it back (`natural?_digits`).

A floating-point number is an optional sign followed by `inf`, `infinity` or `nan` in any letter
case, or by digits with an optional point among or around them and an optional exponent. The value
is the nearest floating-point number; magnitudes beyond the largest one are infinite.
-/

namespace Declare.Text

/-- The decimal digits of a natural number, without leading zeros. -/
def digits (n : Nat) : List Char :=
  Nat.toDigits 10 n

/-- The digits of a number, filled up with zeros on the left to a width. -/
def padded (width n : Nat) : String :=
  let ds := digits n
  .ofList (List.replicate (width - ds.length) '0' ++ ds)

/-- The number written by a text of one or more ASCII digits. -/
def natural? (cs : List Char) : Option Nat :=
  if !cs.isEmpty && cs.all Char.isDigit then some (Nat.ofDigitChars 10 cs 0) else none

/-- The number written by digits after an optional sign. -/
def integer? : List Char → Option Int
  | '-' :: cs => (natural? cs).map fun n => -(n : Int)
  | '+' :: cs => (natural? cs).map fun n => (n : Int)
  | cs => (natural? cs).map fun n => (n : Int)

/-- A text without the digits at its end, and these digits. -/
def splitDigits (cs : List Char) : List Char × List Char :=
  let back := cs.reverse
  ((back.dropWhile Char.isDigit).reverse, (back.takeWhile Char.isDigit).reverse)

/-- The number as a signed 64-bit word, if it fits. -/
def toInt64? (i : Int) : Option Int64 :=
  if Int64.minValue.toInt ≤ i ∧ i ≤ Int64.maxValue.toInt then some (.ofInt i) else none

/-- The number as an unsigned 64-bit word, if it fits. -/
def toUInt64? (n : Nat) : Option UInt64 :=
  if n < UInt64.size then some (.ofNat n) else none

/-- The signed 64-bit number written by a text. -/
def int64? (cs : List Char) : Option Int64 :=
  (integer? cs).bind toInt64?

/-- The unsigned 64-bit number written by a text of digits. -/
def uint64? (cs : List Char) : Option UInt64 :=
  (natural? cs).bind toUInt64?

theorem isDigit_of_mem_digits {n : Nat} {c : Char} (h : c ∈ digits n) : c.isDigit :=
  Nat.isDigit_of_mem_toDigits (by decide) (by decide) h

theorem digits_ne_nil (n : Nat) : digits n ≠ [] :=
  Nat.toDigits_ne_nil

/-- A written natural number reads back. -/
@[simp] theorem natural?_digits (n : Nat) : natural? (digits n) = some n := by
  have all : (digits n).all Char.isDigit = true :=
    List.all_eq_true.2 fun _ h => isDigit_of_mem_digits h
  have nonempty : (digits n).isEmpty = false := by simp [digits_ne_nil]
  rw [natural?, all, nonempty]
  simp [digits]

theorem toUInt64?_toNat (n : UInt64) : toUInt64? n.toNat = some n := by
  simp [toUInt64?, n.toNat_lt_size]

/-- A written 64-bit number reads back. -/
@[simp] theorem uint64?_digits (n : UInt64) : uint64? (digits n.toNat) = some n := by
  simp [uint64?, toUInt64?_toNat]

end Declare.Text

namespace Declare.Decimal

/-- The decimal m · 10^e, rounded to the nearest floating-point number. Exponents far out of range
are settled without computing the power. -/
def ofScientific (m : Nat) (e : Int) : Float :=
  let leading := e + (Text.digits m).length
  if m = 0 || leading < -400 then 0.0
  else if leading > 400 then 1.0 / 0.0
  else .ofScientific m (decide (e < 0)) e.natAbs

/-- The exponent part of a number: nothing, or a mark, an optional sign and digits. -/
def exponent? : List Char → Option Int
  | [] => some 0
  | c :: cs => if c = 'e' || c = 'E' then Text.integer? cs else none

/-- An unsigned number: digits with an optional point, then an exponent part. -/
def unsigned? (cs : List Char) : Option Float :=
  let whole := cs.takeWhile Char.isDigit
  let (fraction, rest) :=
    match cs.dropWhile Char.isDigit with
    | '.' :: after => (after.takeWhile Char.isDigit, after.dropWhile Char.isDigit)
    | rest => ([], rest)
  if whole.isEmpty && fraction.isEmpty then none
  else (exponent? rest).map fun e =>
    ofScientific (Nat.ofDigitChars 10 (whole ++ fraction) 0) (e - fraction.length)

/-- A number without its sign, special values included. -/
def magnitude? (cs : List Char) : Option Float :=
  let name := cs.map Char.toLower
  if name = ['i', 'n', 'f'] || name = ['i', 'n', 'f', 'i', 'n', 'i', 't', 'y'] then some (1.0 / 0.0)
  else if name = ['n', 'a', 'n'] then some (0.0 / 0.0)
  else unsigned? cs

/-- The floating-point number written by a text. -/
def read? : List Char → Option Float
  | '-' :: cs => (magnitude? cs).map fun x => -x
  | '+' :: cs => magnitude? cs
  | cs => magnitude? cs

end Declare.Decimal
