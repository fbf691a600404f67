import Declare.Json.Basic
import Declare.Log.Basic

/-!
# Logs in JSON

A value is written with its kind. Dates are written as points in time with an offset, in which `Z`
stands for the offset zero, and are read in any of the usual forms.
-/

namespace Declare

namespace Value

/-- The name of the kind of a value. -/
def kind : Value → String
  | string _ => "String"
  | date _ => "Date"
  | int _ => "Int"
  | float _ => "Float"
  | boolean _ => "Boolean"

/-- The content of a value in JSON. -/
def content : Value → Json
  | string s => .text s
  | date t => .text (t.text true)
  | int i => .number (.whole i.toInt)
  | float x => .number (.real x)
  | boolean b => .boolean b

/-- A value in JSON. -/
def toJson (v : Value) : Json :=
  .ofFields [("type", .text v.kind), ("content", v.content)]

/-- Reads the content of a value, by the name of its kind. -/
def ofContent? : String → Option (Json → Option Value)
  | "String" => some fun j => j.asText?.map string
  | "Date" => some fun j => (j.asText?.bind Time.Timestamp.readRelaxed?).map date
  | "Int" => some fun j => j.asInt64?.map int
  | "Float" => some fun j => j.asFloat?.map float
  | "Boolean" => some fun j => j.asBoolean?.map boolean
  | _ => none

/-- Reads the kind of a value. Only in an object can the name of the kind be an object itself. -/
def readKind? (inObject : Bool) (kind : Json) : Option (Json → Option Value) :=
  if inObject then kind.asName? ofContent? else kind.asText?.bind ofContent?

/-- Reads a value. -/
def ofJson? (j : Json) : Option Value :=
  match j.record? [("type", .required), ("content", .required)] with
  | some [some kind, some content] => do (← readKind? j.isObject kind) content
  | _ => none

end Value

namespace Attribute

/-- An attribute in JSON. -/
def toJson (a : Attribute) : Json :=
  .ofFields [("key", .text a.key), ("value", a.value.toJson)]

/-- Reads an attribute. -/
def ofJson? (j : Json) : Option Attribute :=
  match j.record? [("key", .required), ("value", .required)] with
  | some [some key, some value] => do
    some { key := ← key.asText?, value := ← Value.ofJson? value }
  | _ => none

end Attribute

namespace Event

/-- An event in JSON. -/
def toJson (e : Event) : Json :=
  .ofFields
    [("activity", .text e.activity), ("timestamp", .text (e.timestamp.text true)),
      ("attributes", .ofList Attribute.toJson e.attributes)]

/-- Reads an event. -/
def ofJson? (j : Json) : Option Event :=
  match j.record?
      [("activity", .required), ("timestamp", .required), ("attributes", .required)] with
  | some [some activity, some timestamp, some attributes] => do
    some
      { activity := ← activity.asText?
        timestamp := ← timestamp.asText?.bind Time.Timestamp.readRelaxed?
        attributes := ← attributes.asList? Attribute.ofJson? }
  | _ => none

end Event

namespace Trace

/-- A trace in JSON. -/
def toJson (t : Trace) : Json :=
  .ofFields
    [("attributes", .ofList Attribute.toJson t.attributes),
      ("events", .ofList Event.toJson t.events), ("complete", .boolean t.complete)]

/-- Reads a trace, which is complete unless it says otherwise. -/
def ofJson? (j : Json) : Option Trace :=
  match j.record? [("attributes", .required), ("events", .required), ("complete", .defaulted)] with
  | some [some attributes, some events, complete] => do
    some
      { attributes := ← attributes.asList? Attribute.ofJson?
        events := ← events.asList? Event.ofJson?
        complete := ← Json.partOr true Json.asBoolean? complete }
  | _ => none

end Trace

namespace Log

/-- The readable part of a log in JSON. -/
def toJson (log : Log) : Json :=
  .ofFields
    [("attributes", .ofList Attribute.toJson log.attributes),
      ("traces", .ofList Trace.toJson log.readable)]

/-- Reads a log. -/
def ofJson? (j : Json) : Option Log :=
  match j.record? [("attributes", .required), ("traces", .required)] with
  | some [some attributes, some traces] => do
    some
      { attributes := ← attributes.asList? Attribute.ofJson?
        traces := (← traces.asList? Trace.ofJson?).map some }
  | _ => none

end Log

end Declare
