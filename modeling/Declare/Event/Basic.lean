import Declare.Decimal.Layout
import Declare.Decimal.Numeral
import Declare.Time.Rfc3339

/-!
# Events

An event is an occurrence of an activity at a point in time, with named values. Attributes are kept
in order and may repeat a name; a name refers to its first attribute. Events without a timestamp of
their own get one by their place in a trace: an hour after the event before them, or the epoch at
the beginning (`Event.ofDrafts`).

Values are of five kinds. A value can be compared with another one, and with a literal that stands
in a condition. Values of different kinds are different even if their texts agree; dates are
compared as points in time, and NaN equals nothing.
-/

namespace Declare

open Time (Timestamp)

/-- The value of an attribute. -/
inductive Value where
  | string (s : String)
  | date (t : Timestamp)
  | int (i : Int64)
  | float (x : Float)
  | boolean (b : Bool)

namespace Value

/-- Equality of values: kinds differ, dates are points in time, floats compare as numbers. -/
def same : Value → Value → Bool
  | string s, string t => s = t
  | date s, date t => s.sameInstant t
  | int i, int j => i = j
  | float x, float y => x == y
  | boolean b, boolean c => b = c
  | _, _ => false

instance : BEq Value := ⟨same⟩

/-- The text of a value. -/
def text : Value → String
  | string s => s
  | date t => t.text false
  | int i => toString i.toInt
  | float x => Decimal.Layout.plain.write x
  | boolean b => if b then "true" else "false"

/-- The number that a whole or floating-point value stands for. -/
def number? : Value → Option Float
  | int i => some (.ofInt i.toInt)
  | float x => some x
  | _ => none

/-- The timestamp of a date. -/
def date? : Value → Option Timestamp
  | date t => some t
  | _ => none

/-- The truth value written by a text, in any letter case. -/
def readBoolean? (literal : String) : Option Bool :=
  match (literal.toList.map Char.toLower : List Char) with
  | ['t', 'r', 'u', 'e'] => some true
  | ['f', 'a', 'l', 's', 'e'] => some false
  | _ => none

/-- Whether a literal in a condition stands for the value. The kind of the value decides how the
literal is read: numbers compare as numbers, dates as points in time, strings letter by letter. -/
def accepts (v : Value) (literal : String) : Bool :=
  match v with
  | string s => s = literal
  | date t => (Timestamp.read? literal).any t.sameInstant
  | boolean b => readBoolean? literal = some b
  | int _ | float _ =>
    match v.number?, Decimal.read? literal.toList with
    | some x, some y => x == y
    | _, _ => false

/-- What a hash of a value is computed from. Equal values have equal keys; zero of either sign has
one key, as have timestamps of the same instant. -/
inductive Key where
  | string (s : String)
  | instant (seconds : Int) (nanos : Nat)
  | int (i : Int64)
  | float (bits : UInt64)
  | boolean (b : Bool)
deriving DecidableEq

/-- The key of a value. -/
def key : Value → Key
  | string s => .string s
  | date t => .instant t.seconds t.nanos
  | int i => .int i
  | float x => .float (if x == 0.0 then 0 else x.toBits)
  | boolean b => .boolean b

/-- Whether a set holds the value: a member with the same key is equal to it. -/
def isIn (v : Value) (members : List Value) : Bool :=
  members.any fun w => w.key = v.key && w == v

/-- Puts values into a set one after the other and says of each whether it was new. -/
def insertAll (members : List Value) : List Value → List Bool
  | [] => []
  | v :: vs =>
    if v.isIn members then false :: insertAll members vs
    else true :: insertAll (v :: members) vs

end Value

/-- A named value. -/
structure Attribute where
  key : String
  value : Value

/-- Named values in order. -/
abbrev Attributes := List Attribute

namespace Attributes

/-- The list with one more attribute, whether or not the name is taken. -/
def add (as : Attributes) (a : Attribute) : Attributes :=
  as ++ [a]

/-- The value of a name: that of its first attribute. -/
def value? (as : Attributes) (key : String) : Option Value :=
  (as.find? (·.key = key)).map (·.value)

/-- The list without the first attribute of that name. -/
def remove (as : Attributes) (key : String) : Attributes :=
  as.eraseP (·.key = key)

end Attributes

/-- An occurrence of an activity. -/
structure Event where
  activity : String
  timestamp : Timestamp
  attributes : Attributes

namespace Event

/-- The value of an attribute of the event. -/
def value? (e : Event) (key : String) : Option Value :=
  e.attributes.value? key

/-- The attribute that gives an event its timestamp. -/
def timestampKey : String := "time:timestamp"

/-- An event whose timestamp may still be open. -/
structure Draft where
  activity : String
  attributes : Attributes

/-- The timestamp that a draft states: its first `time:timestamp`, if that is a date. -/
def Draft.stamp? (d : Draft) : Option Timestamp :=
  (d.attributes.value? timestampKey).bind Value.date?

/-- The event of a draft. A timestamp that is not stated is an hour after the previous one, or the
epoch if there is none. -/
def Draft.finish (previous : Option Timestamp) (d : Draft) : Event where
  activity := d.activity
  timestamp := d.stamp?.getD (previous.elim .epoch (·.afterHours 1))
  attributes := d.attributes.remove timestampKey

/-- The events of drafts that follow an event with the given timestamp. -/
def finishAll (previous : Option Timestamp) : List Draft → List Event
  | [] => []
  | d :: ds =>
    let e := d.finish previous
    e :: finishAll (some e.timestamp) ds

/-- The events of the drafts of a whole trace. -/
def ofDrafts (ds : List Draft) : List Event :=
  finishAll none ds

@[simp] theorem length_finishAll (previous : Option Timestamp) (ds : List Draft) :
    (finishAll previous ds).length = ds.length := by
  induction ds generalizing previous with
  | nil => rfl
  | cons d ds ih => simp [finishAll, ih]

end Event

end Declare
