import Declare.Decimal.Numeral

/-!
# Writing floating-point numbers

A finite 64-bit floating-point number is ± m · 2^q with natural m. Shortest decimals and rounding
to whole numbers are decided on m and q in exact arithmetic.

A number is written with the fewest decimal digits that read back to it. The decimals that read back
form an interval around the number, up to the midpoints to its two neighbours; the midpoints belong
to it if the mantissa is even. For one, two, … digits the two decimals next to the number are tried,
and the first that lies in the interval is taken, the closer one if both do.

How the digits are laid out is a `Layout`: for which magnitudes the number is written positionally,
whether whole numbers keep a fractional part, whether an exponent that is not negative has a sign,
and which way ties go.
-/

namespace Declare.Decimal

/-- What the bits of a 64-bit floating-point number stand for. -/
inductive Exact where
  | nan
  | infinite (negative : Bool)
  /-- The value is ± m · 2^q. -/
  | finite (negative : Bool) (m : Nat) (q : Int)
deriving Repr, DecidableEq

/-- The value behind 64 bits: sign, 11 bits of exponent, 52 bits of fraction. -/
def Exact.ofBits (bits : Nat) : Exact :=
  let negative := bits / Nat.pow 2 63 % 2 == 1
  let exponent : Nat := bits / Nat.pow 2 52 % 2048
  let fraction := bits % Nat.pow 2 52
  if exponent = 2047 then
    if fraction = 0 then .infinite negative else .nan
  else if exponent = 0 then .finite negative fraction (-1074)
  else .finite negative (Nat.pow 2 52 + fraction) (exponent - 1075)

/-- The value of a floating-point number. -/
def exact (x : Float) : Exact :=
  .ofBits x.toBits.toNat

/-- Neither infinite nor NaN. -/
def isFinite (x : Float) : Bool :=
  match exact x with
  | .finite .. => true
  | _ => false

/-- The whole number nearest to m · 2^q, a half going up. -/
def nearest (m : Nat) (q : Int) : Nat :=
  if 0 ≤ q then m * Nat.pow 2 q.toNat
  else
    let half := Nat.pow 2 (-q).toNat
    (2 * m + half) / (2 * half)

/-- The whole number nearest to a float, a half going away from zero, cut off at the ends of the
64-bit range. NaN counts as zero. -/
def roundToInt (x : Float) : Int :=
  let cut := fun i : Int => max Int64.minValue.toInt (min Int64.maxValue.toInt i)
  match exact x with
  | .nan => 0
  | .infinite negative => if negative then Int64.minValue.toInt else Int64.maxValue.toInt
  | .finite negative m q => cut (if negative then -(nearest m q : Int) else nearest m q)

/-- A decimal: coefficient · 10^exponent. -/
structure Digits where
  coefficient : Nat
  exponent : Int
deriving Repr, DecidableEq

/-- Which of two equally close decimals is taken. -/
inductive Tie where
  | toEven
  | up
deriving Repr, DecidableEq

/-- The decimals that read back to a number: those from `low` to `high`, over the denominator of
the number `value`. -/
structure Interval where
  low : Nat
  value : Nat
  high : Nat
  denominator : Nat
  closed : Bool

/-- The interval of m · 2^q. The gap below a power of two is half the gap above it, except for the
least exponent. -/
def Interval.around (m : Nat) (q : Int) : Interval :=
  let below := if m = Nat.pow 2 52 ∧ q ≠ -1074 then 1 else 2
  let unit := Nat.pow 2 (q - 2).toNat
  { low := (4 * m - below) * unit
    value := 4 * m * unit
    high := (4 * m + 2) * unit
    denominator := Nat.pow 2 (2 - q).toNat
    closed := m % 2 == 0 }

/-- How a · 10^e compares with n / d. -/
def compareScaled (a : Nat) (e : Int) (n d : Nat) : Ordering :=
  compare (a * Nat.pow 10 e.toNat * d) (n * Nat.pow 10 (-e).toNat)

/-- Whether the decimal a · 10^e lies in the interval. -/
def Interval.contains (i : Interval) (a : Nat) (e : Int) : Bool :=
  let above := compareScaled a e i.low i.denominator
  let below := compareScaled a e i.high i.denominator
  (above == .gt || i.closed && above == .eq) && (below == .lt || i.closed && below == .eq)

/-- The least k for which the number is below 10^k. -/
def Interval.scale (i : Interval) : Int :=
  let estimate : Int := (Text.digits i.value).length - (Text.digits i.denominator).length
  if compareScaled 1 estimate i.value i.denominator == .gt then estimate else estimate + 1

/-- The largest a for which a · 10^e does not exceed the number. -/
def Interval.floor (i : Interval) (e : Int) : Nat :=
  i.value * Nat.pow 10 (-e).toNat / (i.denominator * Nat.pow 10 e.toNat)

/-- The decimal with unit 10^e that is taken, if one next to the number lies in the interval. -/
def Interval.pick? (tie : Tie) (i : Interval) (e : Int) : Option Nat :=
  let a := i.floor e
  match i.contains a e, i.contains (a + 1) e with
  | true, false => some a
  | false, true => some (a + 1)
  | false, false => none
  | true, true =>
    match compareScaled (2 * a + 1) e (2 * i.value) i.denominator, tie with
    | .gt, _ => some a
    | .lt, _ => some (a + 1)
    | .eq, .toEven => some (if a % 2 = 0 then a else a + 1)
    | .eq, .up => some (a + 1)

/-- A decimal without trailing zeros in its coefficient. -/
def Digits.strip (d : Digits) : Digits :=
  let zeros := ((Text.digits d.coefficient).reverse.takeWhile (· = '0')).length
  ⟨d.coefficient / Nat.pow 10 zeros, d.exponent + zeros⟩

/-- The shortest decimal of m · 2^q, for m > 0. Seventeen digits always suffice; if none did, the
exact value would be given. -/
def shortest (tie : Tie) (m : Nat) (q : Int) : Digits :=
  let i := Interval.around m q
  let found := (List.range 17).findSome? fun (n : Nat) =>
    let e := i.scale - (n + 1)
    (i.pick? tie e).map fun a => Digits.strip ⟨a, e⟩
  found.getD (if 0 ≤ q then ⟨m * Nat.pow 2 q.toNat, 0⟩ else ⟨m * Nat.pow 5 (-q).toNat, q⟩)

/-- How the digits of a number are laid out. The exponent of a number is that of its leading
digit. -/
structure Layout where
  /-- The exponents that are written positionally. -/
  positional : Int → Bool
  /-- Whether whole numbers in positional form end in `.0`. -/
  pointZero : Bool
  /-- Whether an exponent that is not negative has a plus sign. -/
  plusSign : Bool
  tie : Tie

/-- Numbers in running text: always positional, whole numbers without a point. -/
def Layout.plain : Layout where
  positional _ := true
  pointZero := false
  plusSign := false
  tie := .up

/-- Numbers that are told apart from whole numbers by their point or exponent: positional from
10^-4 to below 10^16. -/
def Layout.pointed : Layout where
  positional e := -4 ≤ e && e < 16
  pointZero := true
  plusSign := false
  tie := .up

/-- Digits in positional form; `e` is the exponent of the first one. -/
def positionalText (pointZero : Bool) (ds : List Char) (e : Int) : List Char :=
  if e < 0 then '0' :: '.' :: (List.replicate (-e - 1).toNat '0' ++ ds)
  else
    let whole := e.toNat + 1
    if ds.length ≤ whole then
      ds ++ List.replicate (whole - ds.length) '0' ++ (if pointZero then ['.', '0'] else [])
    else ds.take whole ++ '.' :: ds.drop whole

/-- Digits in exponent form: one digit before the point. -/
def exponentText (plusSign : Bool) (ds : List Char) (e : Int) : List Char :=
  ds.take 1 ++ (if ds.length ≤ 1 then [] else '.' :: ds.drop 1) ++ ['e'] ++
    (if plusSign && 0 ≤ e then ['+'] else []) ++ (toString e).toList

/-- The text of m · 2^q. -/
def Layout.magnitude (layout : Layout) (m : Nat) (q : Int) : List Char :=
  let d := if m = 0 then ⟨0, 0⟩ else shortest layout.tie m q
  let ds := Text.digits d.coefficient
  let e := d.exponent + (ds.length - 1 : Nat)
  if layout.positional e then positionalText layout.pointZero ds e
  else exponentText layout.plusSign ds e

/-- The text of a floating-point number. -/
def Layout.write (layout : Layout) (x : Float) : String :=
  match exact x with
  | .nan => "NaN"
  | .infinite negative => if negative then "-inf" else "inf"
  | .finite negative m q => (if negative then "-" else "") ++ .ofList (layout.magnitude m q)

end Declare.Decimal
