import Declare.Decimal.Numeral
import Declare.Text.Split
import Declare.Time.Timestamp

/-!
# RFC 3339 timestamps

A timestamp is written as date, time of day with as many digits of the second as it needs in groups
of three, and offset. Two forms are read. The strict form is the one of the standard, where a blank
may stand for the `T`. The relaxed form also admits blanks around the parts, numbers without leading
zeros, signed years, and `UTC` for the offset.
-/

namespace Declare.Time

/-- The year in at least four digits; outside 0 to 9999 its sign is written. -/
def yearText (year : Int) : String :=
  if 0 ≤ year ∧ year ≤ 9999 then Text.padded 4 year.toNat
  else (if year < 0 then "-" else "+") ++ Text.padded 4 year.natAbs

/-- The fraction of a second in three, six or nine digits, as many as it needs; none if it is
zero. -/
def fractionText (nanos : Nat) : String :=
  if nanos = 0 then ""
  else if nanos % 1000000 = 0 then "." ++ Text.padded 3 (nanos / 1000000)
  else if nanos % 1000 = 0 then "." ++ Text.padded 6 (nanos / 1000)
  else "." ++ Text.padded 9 nanos

/-- The offset in hours and minutes. With `zulu` a zero offset is written `Z`. -/
def offsetText (zulu : Bool) (offset : Int) : String :=
  if zulu && offset = 0 then "Z"
  else
    let minutes := (offset.natAbs + 30) / 60
    (if offset < 0 then "-" else "+") ++ Text.padded 2 (minutes / 60) ++ ":" ++
      Text.padded 2 (minutes % 60)

/-- The timestamp on its own clock. -/
def Timestamp.text (zulu : Bool) (t : Timestamp) : String :=
  let clock := t.seconds + t.offset
  let date := Date.ofDays (clock / 86400)
  let time := (clock % 86400).toNat
  let (leap, nanos) := if t.nanos ≥ second then (1, t.nanos - second) else (0, t.nanos)
  yearText date.year ++ "-" ++ Text.padded 2 date.month ++ "-" ++ Text.padded 2 date.day ++ "T" ++
    Text.padded 2 (time / 3600) ++ ":" ++ Text.padded 2 (time / 60 % 60) ++ ":" ++
    Text.padded 2 (time % 60 + leap) ++ fractionText nanos ++ offsetText zulu t.offset

/-- A reading step on the rest of a text. -/
abbrev Scan := StateT (List Char) Option

namespace Scan

/-- The next character, if it is one of those admitted. -/
def oneOf (admitted : Char → Bool) : Scan Char := fun cs =>
  match cs with
  | c :: rest => if admitted c then some (c, rest) else none
  | [] => none

/-- A given character. -/
def char (c : Char) : Scan Unit := do
  discard (oneOf (· = c))

/-- A number of at least `least` and at most `most` digits. -/
def number (least most : Nat) : Scan Nat := fun cs =>
  let ds := (cs.take most).takeWhile Char.isDigit
  if ds.length < least then none else some (Nat.ofDigitChars 10 ds 0, cs.drop ds.length)

/-- Leaves out the characters at the front that satisfy `p`. -/
def skip (p : Char → Bool) : Scan Unit := fun cs =>
  some ((), cs.dropWhile p)

/-- The fraction of a second in nanoseconds: nothing, or a point and digits. Digits beyond the
ninth are left out. -/
def fraction : Scan Nat := fun cs =>
  match cs with
  | '.' :: rest =>
    let ds := (rest.take 9).takeWhile Char.isDigit
    if ds.isEmpty then none
    else some (Nat.ofDigitChars 10 ds 0 * Nat.pow 10 (9 - ds.length), rest.dropWhile Char.isDigit)
  | _ => some (0, cs)

/-- The sign of an offset; a minus sign proper counts as well as a hyphen. -/
def sign : Scan Int := do
  let c ← oneOf fun c => c = '+' || c = '-' || c = '−'
  pure (if c = '+' then 1 else -1)

/-- The offset of a clock in seconds. Between hours and minutes stands what `colon` reads. -/
def offset (colon : Scan Unit) : Scan Int := fun cs =>
  match cs with
  | 'Z' :: rest => some (0, rest)
  | 'z' :: rest => some (0, rest)
  | _ => StateT.run (s := cs) do
    let s ← sign
    let hours ← number 2 2
    colon
    let minutes ← number 2 2
    if hours < 24 ∧ minutes < 60 then pure (s * (hours * 3600 + minutes * 60 : Nat)) else failure

end Scan

/-- The parts of a written timestamp. -/
structure Reading where
  date : Date
  hour : Nat
  minute : Nat
  second : Nat
  nanos : Nat
  offset : Int

/-- The days that timestamps can lie on: from year -262143 to year 262142. -/
def inRange (days : Int) : Bool :=
  Date.toDays ⟨-262143, 1, 1⟩ ≤ days && days ≤ Date.toDays ⟨262142, 12, 31⟩

/-- The timestamp with these parts, if the calendar and the clock have them. Second 60 is a leap
second. -/
def Reading.timestamp? (r : Reading) : Option Timestamp :=
  let leap := if r.second = 60 then 1 else 0
  let days := r.date.toDays
  let seconds := days * 86400 + (r.hour * 3600 + r.minute * 60 + (r.second - leap) : Nat) - r.offset
  if r.date.isValid && r.hour < 24 && r.minute < 60 && r.second ≤ 60 && inRange days &&
      inRange (seconds / 86400) then
    some ⟨seconds, leap * Time.second + r.nanos, r.offset⟩
  else none

/-- The parts of the strict form. -/
def Scan.strict : Scan Reading := do
  let year ← number 4 4
  char '-'
  let month ← number 2 2
  char '-'
  let day ← number 2 2
  discard (oneOf fun c => c = 'T' || c = 't' || c = ' ')
  let hour ← number 2 2
  char ':'
  let minute ← number 2 2
  char ':'
  let second ← number 2 2
  let nanos ← fraction
  let offset ← offset (char ':')
  pure ⟨⟨year, month, day⟩, hour, minute, second, nanos, offset⟩

/-- A year with an optional sign; without one it has at most four digits. -/
def Scan.year : Scan Int := fun cs =>
  let all := cs.length
  match cs.dropWhile Text.isBlank with
  | '-' :: rest => (number 1 all rest).map fun (n, rest) => (-(n : Int), rest)
  | '+' :: rest => (number 1 all rest).map fun (n, rest) => ((n : Int), rest)
  | rest => (number 1 4 rest).map fun (n, rest) => ((n : Int), rest)

/-- A number of one or two digits after blanks. -/
def Scan.part : Scan Nat := do
  skip Text.isBlank
  number 1 2

/-- A character after blanks. -/
def Scan.mark (c : Char) : Scan Unit := do
  skip Text.isBlank
  char c

/-- `UTC` in any letter case, or an offset as in the strict form with any blanks and colons between
hours and minutes. -/
def Scan.relaxedOffset : Scan Int := fun cs =>
  if (cs.take 3).map Char.toLower = ['u', 't', 'c'] then some (0, cs.drop 3)
  else offset (skip fun c => c = ':' || Text.isBlank c) cs

/-- The parts of the relaxed form. -/
def Scan.relaxed : Scan Reading := do
  let year ← year
  mark '-'
  let month ← part
  mark '-'
  let day ← part
  discard (oneOf fun c => c = 'T' || c = 't' || c = ' ')
  let hour ← part
  mark ':'
  let minute ← part
  mark ':'
  let second ← part
  let nanos ← fraction
  skip Text.isBlank
  let offset ← relaxedOffset
  skip Text.isBlank
  pure ⟨⟨year, month, day⟩, hour, minute, second, nanos, offset⟩

/-- The timestamp that a text holds from beginning to end. -/
def Scan.whole (scan : Scan Reading) (cs : List Char) : Option Timestamp :=
  match scan.run cs with
  | some (reading, []) => reading.timestamp?
  | _ => none

/-- The timestamp written in strict form. -/
def Timestamp.read? (s : String) : Option Timestamp :=
  Scan.strict.whole s.toList

/-- The timestamp written in relaxed form. -/
def Timestamp.readRelaxed? (s : String) : Option Timestamp :=
  Scan.relaxed.whole s.toList

end Declare.Time
