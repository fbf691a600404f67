import Declare.Decimal.Layout
import Declare.Decimal.Numeral
import Declare.Text.LetterCase
import Declare.Text.Split

/-!
# Attribute domains

The domain of an attribute says which values it takes, and so which comparisons make sense in a
condition. A domain is written as a number, as a range of numbers, or as a list of values. Not every
domain reads back as it was: a list that holds only the value `7` reads as the number 7
(`Domain.readsBack`).
-/

namespace Declare

/-- The values that an attribute takes. -/
inductive Domain where
  | integer (value : Int64)
  | float (value : Float)
  /-- The whole numbers from `min` to `max`. -/
  | integerRange (min max : Int64)
  /-- The numbers from `min` to `max`. -/
  | floatRange (min max : Float)
  | enumeration (values : List String)
deriving BEq

/-- What is wrong with a written domain. -/
inductive DomainError where
  | empty
  /-- A range without ` and ` between its bounds. -/
  | notARange (range : String)
  | invalidBound (bound : String)
  /-- A range whose lower bound is above its upper one. -/
  | emptyRange (range : String)
deriving Repr, DecidableEq

/-- The description of the problem. -/
def DomainError.message : DomainError → String
  | empty => "empty attribute domain"
  | notARange range => "expected `<min> and <max>` but got `" ++ range ++ "`"
  | invalidBound bound => "invalid range bound `" ++ bound ++ "`"
  | emptyRange range => "empty range `" ++ range ++ "`"

namespace Domain

/-- Whether the values are numbers. -/
def isNumeric : Domain → Bool
  | enumeration _ => false
  | _ => true

/-- The written form of a domain. -/
def text : Domain → String
  | integer value => toString value.toInt
  | float value => Decimal.Layout.pointed.write value
  | integerRange min max =>
    "integer between " ++ toString min.toInt ++ " and " ++ toString max.toInt
  | floatRange min max =>
    "float between " ++ Decimal.Layout.pointed.write min ++ " and " ++
      Decimal.Layout.pointed.write max
  | enumeration values => ", ".intercalate values

/-- The bounds of a written range. `exceeds` tells when the lower bound is above the upper one. -/
def readBounds {α : Type} (read : List Char → Option α) (exceeds : α → α → Bool)
    (range : List Char) : Except DomainError (α × α) :=
  let bound := fun cs =>
    match read (Text.trim cs) with
    | some x => Except.ok x
    | none => Except.error (DomainError.invalidBound (.ofList (Text.trim cs)))
  match Text.cut? " and ".toList range with
  | none => .error (.notARange (.ofList range))
  | some (low, high) => do
    let min ← bound low
    let max ← bound high
    if exceeds min max then .error (.emptyRange (.ofList range)) else .ok (min, max)

/-- The values of a list: what stands between the commas, blanks and empty places left out. -/
def listed (cs : List Char) : List String :=
  ((Text.fields ',' cs).map Text.trim |>.filter (!·.isEmpty)).map String.ofList

/-- The domain that a text describes: a number, a range introduced in any letter case, or else a
list of values. -/
def read (cs : List Char) : Except DomainError Domain :=
  let cs := Text.trim cs
  match Text.int64? cs with
  | some value => .ok (.integer value)
  | none =>
    match (Decimal.read? cs).filter Decimal.isFinite with
    | some value => .ok (.float value)
    | none =>
      let lower := Text.lowercase cs
      match Text.stripPrefix? "integer between ".toList lower with
      | some range => do
        let (min, max) ← readBounds Text.int64? (fun a b => b < a) range
        .ok (.integerRange min max)
      | none =>
        match Text.stripPrefix? "float between ".toList lower with
        | some range => do
          let (min, max) ← readBounds Decimal.read? (fun a b => b < a) range
          .ok (.floatRange min max)
        | none =>
          let values := listed cs
          if values.isEmpty then .error .empty else .ok (.enumeration values)

/-- Whether the written form of a domain reads as an equal domain. -/
def readsBack (d : Domain) : Bool :=
  match read d.text.toList with
  | .ok d' => d' == d
  | .error _ => false

end Domain

end Declare
