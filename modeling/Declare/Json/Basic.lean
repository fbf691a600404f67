/-!
# JSON values

A JSON text spells a value. Two things can be spelled that are well-formed but of no use: strings
whose escapes name half of a character only, and numbers beyond the range of floating-point
numbers. They are kept apart, since a text may hold them in places that nobody looks at.

Values of the library are decoded from JSON values of the right shape. A record is an object with a
field for each of its parts, in any order, or an array of its parts in their order. Fields that the
record does not have are passed over; a field of it that comes twice is refused.
-/

namespace Declare

/-- A JSON number. -/
inductive Json.Number where
  /-- A whole number that fits into 64 bits, with or without sign. -/
  | whole (i : Int)
  | real (x : Float)
  /-- A number beyond the range of floating-point numbers. -/
  | huge

/-- A JSON value. The fields of an object are kept in order and may repeat a name. A string, also
one that names a field, is `none` if it is no text. -/
inductive Json where
  | null
  | boolean (b : Bool)
  | number (n : Json.Number)
  | string (s : Option String)
  | array (items : List Json)
  | object (fields : List (Option String × Json))

namespace Json

/-- The value that is a text. -/
def text (s : String) : Json :=
  .string (some s)

/-- The value that is a natural number. -/
def nat (n : Nat) : Json :=
  .number (.whole n)

/-- The object with the given fields. -/
def ofFields (fields : List (String × Json)) : Json :=
  .object (fields.map fun f => (some f.1, f.2))

/-- Whether the value is an object. -/
def isObject : Json → Bool
  | .object _ => true
  | _ => false

/-- The value, or null if there is none. -/
def ofOption {α : Type} (write : α → Json) : Option α → Json
  | none => .null
  | some a => write a

/-- The values as an array. -/
def ofList {α : Type} (write : α → Json) (as : List α) : Json :=
  .array (as.map write)

mutual

/-- Whether all strings are texts, all numbers are in range, and arrays and objects are nested at
most `depth` deep. -/
def isPlain (depth : Nat) : Json → Bool
  | .null | .boolean _ => true
  | .number n => match n with | .huge => false | _ => true
  | .string s => s.isSome
  | .array items =>
    match depth with
    | 0 => false
    | depth + 1 => arePlain depth items
  | .object fields =>
    match depth with
    | 0 => false
    | depth + 1 => areFieldsPlain depth fields

/-- Whether all of the values are plain. -/
def arePlain (depth : Nat) : List Json → Bool
  | [] => true
  | j :: js => isPlain depth j && arePlain depth js

/-- Whether all of the fields are plain, their names included. -/
def areFieldsPlain (depth : Nat) : List (Option String × Json) → Bool
  | [] => true
  | (name, j) :: fields => name.isSome && isPlain depth j && areFieldsPlain depth fields

end

/-- The text that a value is. -/
def asText? : Json → Option String
  | .string s => s
  | _ => none

/-- The truth value that a value is. -/
def asBoolean? : Json → Option Bool
  | .boolean b => some b
  | _ => none

/-- The whole number between two bounds that a value is. -/
def asWhole? (least greatest : Int) : Json → Option Int
  | .number (.whole i) => if least ≤ i ∧ i ≤ greatest then some i else none
  | _ => none

/-- The signed 64-bit number that a value is. -/
def asInt64? (j : Json) : Option Int64 :=
  (j.asWhole? Int64.minValue.toInt Int64.maxValue.toInt).map Int64.ofInt

/-- The unsigned 64-bit number that a value is. -/
def asUInt64? (j : Json) : Option UInt64 :=
  (j.asWhole? 0 (UInt64.size - 1)).map fun i => .ofNat i.toNat

/-- The unsigned 32-bit number that a value is. -/
def asCount? (j : Json) : Option Nat :=
  (j.asWhole? 0 (UInt32.size - 1)).map Int.toNat

/-- The number that a value is; whole numbers are rounded if they have to be. -/
def asFloat? : Json → Option Float
  | .number (.whole i) => some (.ofInt i)
  | .number (.real x) => some x
  | _ => none

/-- The elements of an array, decoded. -/
def asList? {α : Type} (decode : Json → Option α) : Json → Option (List α)
  | .array items => items.mapM decode
  | _ => none

/-- A decoded value, or nothing for null. -/
def asOption? {α : Type} (decode : Json → Option α) : Json → Option (Option α)
  | .null => some none
  | j => (decode j).map some

/-- A value that is known by its name: the name, or an object with that name and null. -/
def asName? {α : Type} (ofName? : String → Option α) : Json → Option α
  | .string (some name) => ofName? name
  | .object [(some name, .null)] => ofName? name
  | _ => none

/-- The value among some whose name is given. -/
def named? {α : Type} (name : α → String) (all : List α) (wanted : String) : Option α :=
  all.find? fun a => name a = wanted

/-- Whether a part of a record may be missing. -/
inductive Presence where
  | required
  /-- A part that is null if its field is missing. -/
  | nullable
  /-- A part with a value of its own if it is missing. -/
  | defaulted
deriving Repr, DecidableEq

/-- The field of an object with that name; a missing one as its presence says. -/
def field? (fields : List (Option String × Json)) (part : String × Presence) :
    Option (Option Json) :=
  match fields.find? fun f => f.1 = some part.1, part.2 with
  | some f, _ => some (some f.2)
  | none, .required => none
  | none, .nullable => some (some .null)
  | none, .defaulted => some none

/-- The parts of a record that are elements of an array; only parts with a value of their own may
be missing at its end. -/
def elements? : List (String × Presence) → List Json → Option (List (Option Json))
  | [], [] => some []
  | [], _ :: _ => none
  | (_, .defaulted) :: parts, [] => (elements? parts []).map (none :: ·)
  | _ :: _, [] => none
  | _ :: parts, j :: js => (elements? parts js).map (some j :: ·)

/-- The parts of a record, in order. A part that is missing and has a value of its own is
`none`. -/
def record? (parts : List (String × Presence)) : Json → Option (List (Option Json))
  | .object fields =>
    if fields.all (·.1.isSome) &&
        parts.all fun part => fields.countP (fun f => f.1 = some part.1) ≤ 1 then
      parts.mapM (field? fields)
    else none
  | .array items => elements? parts items
  | _ => none

/-- A decoded part, or the value that it has if it is missing. -/
def partOr {α : Type} (value : α) (decode : Json → Option α) : Option Json → Option α
  | none => some value
  | some j => decode j

end Json

end Declare
