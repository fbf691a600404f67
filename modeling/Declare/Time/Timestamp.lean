/-!
# Points in time

Dates of the proleptic Gregorian calendar are counted as days from 1970-01-01. Years are moved to
start in March, so that the leap day comes last in them; 400 such years have 146097 days.

A timestamp is an instant with the offset of the clock that read it. Two timestamps are the same
point in time if their instants are (`Timestamp.sameInstant`); the offset only shows when a
timestamp is written. An instant inside a leap second is kept as the second before it with 10^9 or
more nanoseconds.
-/

namespace Declare.Time

/-- A day of the calendar; years before 1 are counted 0, -1, … -/
structure Date where
  year : Int
  month : Nat
  day : Nat
deriving Repr, DecidableEq

/-- Leap years are those divisible by four, but of the centuries only every fourth. -/
def isLeapYear (year : Int) : Bool :=
  year % 4 = 0 && (year % 100 ≠ 0 || year % 400 = 0)

/-- The number of days of a month. -/
def daysInMonth (year : Int) (month : Nat) : Nat :=
  if month = 2 then (if isLeapYear year then 29 else 28)
  else if month = 4 ∨ month = 6 ∨ month = 9 ∨ month = 11 then 30
  else 31

namespace Date

/-- Whether the calendar has the day. -/
def isValid (d : Date) : Bool :=
  1 ≤ d.month && d.month ≤ 12 && 1 ≤ d.day && d.day ≤ daysInMonth d.year d.month

/-- Days from 1970-01-01 to the date. -/
def toDays (d : Date) : Int :=
  let year := if d.month ≤ 2 then d.year - 1 else d.year
  let month := if d.month ≤ 2 then d.month + 9 else d.month - 3
  let era := year / 400
  let yearOfEra := year % 400
  let dayOfYear : Int := ((153 * month + 2) / 5 + d.day - 1 : Nat)
  era * 146097 + yearOfEra * 365 + yearOfEra / 4 - yearOfEra / 100 + dayOfYear - 719468

/-- The date that many days after 1970-01-01. -/
def ofDays (days : Int) : Date :=
  let shifted := days + 719468
  let era := shifted / 146097
  let dayOfEra := (shifted % 146097).toNat
  let yearOfEra := (dayOfEra - dayOfEra / 1460 + dayOfEra / 36524 - dayOfEra / 146096) / 365
  let dayOfYear := dayOfEra - (365 * yearOfEra + yearOfEra / 4 - yearOfEra / 100)
  let month := (5 * dayOfYear + 2) / 153
  let day := dayOfYear - (153 * month + 2) / 5 + 1
  let year := yearOfEra + era * 400
  if month < 10 then ⟨year, month + 3, day⟩ else ⟨year + 1, month - 9, day⟩

end Date

/-- Nanoseconds in a second. -/
def second : Nat := 1000000000

/-- An instant and the offset of a clock. -/
structure Timestamp where
  /-- Seconds from 1970-01-01T00:00:00Z. -/
  seconds : Int
  /-- Nanoseconds into the second; from 10^9 on, into the leap second that follows it. -/
  nanos : Nat
  /-- Seconds by which the clock is ahead of universal time. -/
  offset : Int
deriving Repr, DecidableEq, Inhabited

namespace Timestamp

/-- 1970-01-01T00:00:00Z. -/
def epoch : Timestamp := ⟨0, 0, 0⟩

/-- Whether two timestamps are the same point in time. -/
def sameInstant (s t : Timestamp) : Bool :=
  s.seconds = t.seconds && s.nanos = t.nanos

/-- The timestamp that many hours later on the same clock. An hour later, a leap second is over. -/
def afterHours (t : Timestamp) : Nat → Timestamp
  | 0 => t
  | h + 1 => { t with seconds := t.seconds + 3600 * (h + 1 : Nat), nanos := t.nanos % second }

/-- Seconds from midnight, in universal time. -/
def secondOfDay (t : Timestamp) : Int :=
  t.seconds % 86400

/-- Nanoseconds from `s` to `t`. A leap second counts if it lies at the time of day of the earlier
end of the two times of day. -/
def since (t s : Timestamp) : Int :=
  let leap : Int :=
    if t.secondOfDay > s.secondOfDay ∧ s.nanos ≥ second then 1
    else if t.secondOfDay < s.secondOfDay ∧ t.nanos ≥ second then -1
    else 0
  (t.seconds - s.seconds + leap) * second + (t.nanos - s.nanos)

/-- Nanoseconds between two timestamps, whichever is earlier. -/
def distance (s t : Timestamp) : Nat :=
  (s.since t).natAbs

theorem sameInstant_iff {s t : Timestamp} :
    s.sameInstant t = true ↔ s.seconds = t.seconds ∧ s.nanos = t.nanos := by
  simp [sameInstant]

/-- Hours add up. -/
theorem afterHours_succ (t : Timestamp) (h : Nat) :
    t.afterHours (h + 1) = (t.afterHours h).afterHours 1 := by
  cases h with
  | zero => rfl
  | succ h => simp [afterHours]; omega

end Timestamp

end Declare.Time
