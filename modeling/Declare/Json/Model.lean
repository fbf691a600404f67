import Declare.Json.Basic
import Declare.Json.Syntax
import Declare.Model.Reader

/-!
# Models in JSON

Templates go by their names in one word. A domain is an object with its kind and its bounds or
values. Since the kind may come last, the whole object has to be free of broken strings and numbers
out of range, and cannot be nested too deeply.
-/

namespace Declare

namespace Template

/-- The name of a template in one word. -/
def tag (t : Template) : String :=
  .ofList t.word

/-- A template in JSON. -/
def toJson (t : Template) : Json :=
  .text t.tag

/-- Reads a template. -/
def ofJson? : Json → Option Template :=
  Json.asName? (Json.named? tag all)

end Template

namespace Domain

/-- The name of the kind of a domain. -/
def kind : Domain → String
  | integer _ => "Integer"
  | float _ => "Float"
  | integerRange .. => "IntegerRange"
  | floatRange .. => "FloatRange"
  | enumeration _ => "Enumeration"

/-- The bounds or values of a domain in JSON. -/
def parts : Domain → List (String × Json)
  | integer value => [("value", .number (.whole value.toInt))]
  | float value => [("value", .number (.real value))]
  | integerRange min max =>
    [("min", .number (.whole min.toInt)), ("max", .number (.whole max.toInt))]
  | floatRange min max => [("min", .number (.real min)), ("max", .number (.real max))]
  | enumeration values => [("values", .ofList .text values)]

/-- A domain in JSON. -/
def toJson (d : Domain) : Json :=
  .ofFields (("type", .text d.kind) :: d.parts)

/-- Reads the single value of a domain. -/
def ofValue? {α : Type} (name : String) (decode : Json → Option α) (make : α → Domain)
    (j : Json) : Option Domain :=
  match j.record? [(name, .required)] with
  | some [some value] => (decode value).map make
  | _ => none

/-- Reads the two bounds of a domain. -/
def ofBounds? {α : Type} (decode : Json → Option α) (make : α → α → Domain) (j : Json) :
    Option Domain :=
  match j.record? [("min", .required), ("max", .required)] with
  | some [some min, some max] => do some (make (← decode min) (← decode max))
  | _ => none

/-- Reads the parts of a domain, by the name of its kind. -/
def ofParts? (kind : String) (j : Json) : Option Domain :=
  match kind with
  | "Integer" => ofValue? "value" Json.asInt64? integer j
  | "Float" => ofValue? "value" Json.asFloat? float j
  | "IntegerRange" => ofBounds? Json.asInt64? integerRange j
  | "FloatRange" => ofBounds? Json.asFloat? floatRange j
  | "Enumeration" => ofValue? "values" (Json.asList? Json.asText?) enumeration j
  | _ => none

/-- How deeply the text of a domain may be nested. -/
def maxDepth : Nat := 127

/-- Reads a domain: an object with one field for its kind, or an array that begins with it. -/
def ofJson? (j : Json) : Option Domain :=
  if !j.isPlain maxDepth then none
  else
    match j with
    | .object fields =>
      match fields.partition (·.1 = some "type") with
      | ([(_, kind)], rest) => kind.asText?.bind fun k => ofParts? k (.object rest)
      | _ => none
    | .array (kind :: rest) => kind.asText?.bind fun k => ofParts? k (.array rest)
    | _ => none

end Domain

namespace Activity

/-- An activity in JSON. -/
def toJson (a : Activity) : Json :=
  .ofFields [("name", .text a.name), ("attributes", .ofList .text a.attributes)]

/-- Reads an activity. -/
def ofJson? (j : Json) : Option Activity :=
  match j.record? [("name", .required), ("attributes", .required)] with
  | some [some name, some attributes] => do
    some { name := ← name.asText?, attributes := ← attributes.asList? Json.asText? }
  | _ => none

end Activity

namespace Constraint

/-- A constraint in JSON. -/
def toJson (c : Constraint) : Json :=
  .ofFields
    [("template", c.template.toJson), ("activities", .ofList .text c.activities),
      ("cardinality", .ofOption (fun n => .nat n.toNat) c.cardinality),
      ("activation_condition", .text c.activationCondition),
      ("correlation_condition", .text c.correlationCondition),
      ("time_condition", .text c.timeCondition)]

/-- Reads a constraint, well-formed or not. -/
def ofJson? (j : Json) : Option Constraint :=
  match j.record?
      [("template", .required), ("activities", .required), ("cardinality", .nullable),
        ("activation_condition", .required), ("correlation_condition", .required),
        ("time_condition", .required)] with
  | some [some template, some activities, some cardinality, some activation, some correlation,
      some time] => do
    some
      { template := ← Template.ofJson? template
        activities := ← activities.asList? Json.asText?
        cardinality := ← cardinality.asOption? Json.asUInt64?
        activationCondition := ← activation.asText?
        correlationCondition := ← correlation.asText?
        timeCondition := ← time.asText? }
  | _ => none

end Constraint

namespace Model

/-- A model in JSON. -/
def toJson (m : Model) : Json :=
  .ofFields
    [("activities", .ofList Activity.toJson m.activities),
      ("attribute_domains", .ofFields (m.domains.map fun (attr, d) => (attr, d.toJson))),
      ("constraints", .ofList Constraint.toJson m.constraints)]

end Model

namespace ReadMode

/-- The name of a mode. -/
def tag : ReadMode → String
  | strict => "Strict"
  | lenient => "Lenient"

/-- A mode in JSON, as the options of a reader. -/
def toJson (mode : ReadMode) : Json :=
  .ofFields [("mode", .text mode.tag)]

/-- Reads the options of a reader. Readers are lenient unless told otherwise. -/
def ofJson? (j : Json) : Option ReadMode :=
  match j.record? [("mode", .defaulted)] with
  | some [mode] => Json.partOr .lenient (Json.asName? (Json.named? tag [strict, lenient])) mode
  | _ => none

end ReadMode

end Declare
