import Declare.Json.Basic
import Declare.Json.Syntax
import Declare.Report.Analysis

/-!
# Reports in JSON

A report is written with its labels and its rows; an empty cell is null. What is written reads back
as the same report.
-/

namespace Declare

namespace Verdict

/-- The name of a verdict. -/
def tag : Verdict → String
  | satisfied => "Satisfied"
  | violated => "Violated"
  | possiblySatisfied => "PossiblySatisfied"
  | possiblyViolated => "PossiblyViolated"

/-- All verdicts. -/
def all : List Verdict :=
  [satisfied, violated, possiblySatisfied, possiblyViolated]

/-- Reads a verdict. -/
def ofJson? : Json → Option Verdict :=
  Json.asName? (Json.named? tag all)

end Verdict

namespace Outcome

/-- An outcome in JSON. -/
def toJson (o : Outcome) : Json :=
  .ofFields
    [("num_activations", .ofOption .nat o.activations),
      ("num_fulfillments", .ofOption .nat o.fulfillments),
      ("num_violations", .ofOption .nat o.violations),
      ("num_pendings", .ofOption .nat o.pendings), ("state", .text o.verdict.tag)]

/-- Reads an outcome. Counts fit into 32 bits. -/
def ofJson? (j : Json) : Option Outcome :=
  match j.record?
      [("num_activations", .nullable), ("num_fulfillments", .nullable),
        ("num_violations", .nullable), ("num_pendings", .nullable), ("state", .required)] with
  | some [some activations, some fulfillments, some violations, some pendings, some state] => do
    some
      { activations := ← activations.asOption? Json.asCount?
        fulfillments := ← fulfillments.asOption? Json.asCount?
        violations := ← violations.asOption? Json.asCount?
        pendings := ← pendings.asOption? Json.asCount?
        verdict := ← Verdict.ofJson? state }
  | _ => none

end Outcome

namespace Report

/-- A report in JSON. -/
def toJson (r : Report) : Json :=
  .ofFields
    [("constraints", .ofList .text r.labels),
      ("results", .ofList (.ofList (.ofOption Outcome.toJson)) r.rows)]

/-- Reads a report. -/
def ofJson? (j : Json) : Option Report :=
  match j.record? [("constraints", .required), ("results", .required)] with
  | some [some labels, some rows] => do
    some
      { labels := ← labels.asList? Json.asText?
        rows := ← rows.asList? (Json.asList? (Json.asOption? Outcome.ofJson?)) }
  | _ => none

/-- The JSON text of a report. -/
def write (r : Report) : String :=
  r.toJson.write

/-- The report that a JSON text spells. -/
def read? (text : String) : Option Report :=
  (Json.read? text).bind ofJson?

end Report

namespace Metric

/-- The name of a metric. -/
def tag : Metric → String
  | activations => "Activations"
  | fulfillments => "Fulfillments"
  | violations => "Violations"
  | pendings => "Pendings"
  | state => "State"

/-- A metric in JSON. -/
def toJson (m : Metric) : Json :=
  .text m.tag

/-- Reads a metric. -/
def ofJson? : Json → Option Metric :=
  Json.asName? (Json.named? tag [activations, fulfillments, violations, pendings, state])

end Metric

namespace CheckingOptions

/-- Options in JSON. -/
def toJson (o : CheckingOptions) : Json :=
  .ofFields
    [("consider_vacuity", .boolean o.vacuity),
      ("num_threads", .ofOption (fun n => .nat n.toNat) o.threads)]

/-- Reads options; those that are missing have their usual values. -/
def ofJson? (j : Json) : Option CheckingOptions :=
  match j.record? [("consider_vacuity", .defaulted), ("num_threads", .defaulted)] with
  | some [vacuity, threads] => do
    some
      { vacuity := ← Json.partOr false Json.asBoolean? vacuity
        threads := ← Json.partOr none (Json.asOption? Json.asUInt64?) threads }
  | _ => none

end CheckingOptions

end Declare
