import Declare.Discovery.Query
import Declare.Json.Model

/-!
# Discovery and queries in JSON

Every option has a usual value, which it takes if it is missing.
-/

namespace Declare

namespace DiscoveryOptions

/-- Options in JSON. -/
def toJson (o : DiscoveryOptions) : Json :=
  .ofFields
    [("itemsets_support", .number (.real o.itemsetsSupport)),
      ("min_support", .number (.real o.minSupport)),
      ("max_cardinality", .nat o.maxCardinality.toNat), ("consider_vacuity", .boolean o.vacuity),
      ("num_threads", .ofOption (fun n => .nat n.toNat) o.threads)]

/-- Reads options. -/
def ofJson? (j : Json) : Option DiscoveryOptions :=
  let usual : DiscoveryOptions := {}
  match j.record?
      [("itemsets_support", .defaulted), ("min_support", .defaulted),
        ("max_cardinality", .defaulted), ("consider_vacuity", .defaulted),
        ("num_threads", .defaulted)] with
  | some [itemsetsSupport, minSupport, maxCardinality, vacuity, threads] => do
    some
      { itemsetsSupport := ← Json.partOr usual.itemsetsSupport Json.asFloat? itemsetsSupport
        minSupport := ← Json.partOr usual.minSupport Json.asFloat? minSupport
        maxCardinality := ← Json.partOr usual.maxCardinality Json.asUInt64? maxCardinality
        vacuity := ← Json.partOr usual.vacuity Json.asBoolean? vacuity
        threads := ← Json.partOr usual.threads (Json.asOption? Json.asUInt64?) threads }
  | _ => none

end DiscoveryOptions

namespace QueryOptions

/-- Options in JSON. -/
def toJson (o : QueryOptions) : Json :=
  .ofFields
    [("min_support", .number (.real o.minSupport)), ("consider_vacuity", .boolean o.vacuity),
      ("max_cardinality", .nat o.maxCardinality.toNat), ("return_first", .boolean o.returnFirst),
      ("num_threads", .ofOption (fun n => .nat n.toNat) o.threads)]

/-- Reads options. -/
def ofJson? (j : Json) : Option QueryOptions :=
  let usual : QueryOptions := {}
  match j.record?
      [("min_support", .defaulted), ("consider_vacuity", .defaulted),
        ("max_cardinality", .defaulted), ("return_first", .defaulted),
        ("num_threads", .defaulted)] with
  | some [minSupport, vacuity, maxCardinality, returnFirst, threads] => do
    some
      { minSupport := ← Json.partOr usual.minSupport Json.asFloat? minSupport
        vacuity := ← Json.partOr usual.vacuity Json.asBoolean? vacuity
        maxCardinality := ← Json.partOr usual.maxCardinality Json.asUInt64? maxCardinality
        returnFirst := ← Json.partOr usual.returnFirst Json.asBoolean? returnFirst
        threads := ← Json.partOr usual.threads (Json.asOption? Json.asUInt64?) threads }
  | _ => none

end QueryOptions

namespace Query

/-- A query in JSON. -/
def toJson (q : Query) : Json :=
  .ofFields
    [("template", .ofOption .text q.template), ("activation", .ofOption .text q.activation),
      ("target", .ofOption .text q.target),
      ("activation_condition", .text q.activationCondition),
      ("correlation_condition", .text q.correlationCondition),
      ("time_condition", .text q.timeCondition)]

/-- Reads a query; the parts that are missing are open. -/
def ofJson? (j : Json) : Option Query :=
  let name := Json.partOr none (Json.asOption? Json.asText?)
  let condition := Json.partOr "" Json.asText?
  match j.record?
      [("template", .defaulted), ("activation", .defaulted), ("target", .defaulted),
        ("activation_condition", .defaulted), ("correlation_condition", .defaulted),
        ("time_condition", .defaulted)] with
  | some [template, activation, target, onActivation, onBoth, onTime] => do
    some
      { template := ← name template
        activation := ← name activation
        target := ← name target
        activationCondition := ← condition onActivation
        correlationCondition := ← condition onBoth
        timeCondition := ← condition onTime }
  | _ => none

end Query

namespace Assignment

/-- An assignment in JSON. -/
def toJson (a : Assignment) : Json :=
  .ofFields
    [("activation", .text a.activation), ("target", .ofOption .text a.target),
      ("constraint", a.constraint.toJson)]

/-- Reads an assignment. -/
def ofJson? (j : Json) : Option Assignment :=
  match j.record?
      [("activation", .required), ("target", .nullable), ("constraint", .required)] with
  | some [some activation, some target, some constraint] => do
    some
      { activation := ← activation.asText?
        target := ← target.asOption? Json.asText?
        constraint := ← Constraint.ofJson? constraint }
  | _ => none

end Assignment

namespace Itemset

/-- An itemset in JSON. -/
def toJson (s : Itemset) : Json :=
  .ofFields [("items", .ofList .text s.items), ("support", .number (.real s.support))]

/-- Reads an itemset. -/
def ofJson? (j : Json) : Option Itemset :=
  match j.record? [("items", .required), ("support", .required)] with
  | some [some items, some support] => do
    some { items := ← items.asList? Json.asText?, support := ← support.asFloat? }
  | _ => none

end Itemset

end Declare
