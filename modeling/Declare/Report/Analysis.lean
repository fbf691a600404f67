import Declare.Check.Outcome
import Declare.Text.LetterCase
import Declare.Text.Split

/-!
# Analysing a log

A log is analysed by checking every trace against every constraint of a model. Constraints whose
conditions cannot be read are skipped, and each different constraint among them is reported once.

The report holds the outcomes: a row for each trace, in it a cell for each constraint. A cell is
empty if the trace was unreadable or the constraint was skipped. Rows of a report that was read from
elsewhere may have any length; an empty cell and a missing one look the same to all queries. Queries
ask for metrics. A metric is one number of an outcome: a count, or whether the constraint may hold.
A count that the constraint does not have is no number.
-/

namespace Declare

/-- A number of an outcome. -/
inductive Metric where
  | activations
  | fulfillments
  | violations
  | pendings
  /-- 0 for a violated constraint, else 1 -/
  | state
deriving Repr, DecidableEq

namespace Metric

/-- The number that a metric is on an outcome. -/
def of (o : Outcome) : Metric → Option Nat
  | activations => o.activations
  | fulfillments => o.fulfillments
  | violations => o.violations
  | pendings => o.pendings
  | state => some (if o.verdict = .violated then 0 else 1)

/-- The metrics with the names that they go by. -/
def names : List (String × Metric) :=
  [("activations", activations), ("fulfillments", fulfillments), ("fulfilments", fulfillments),
   ("violations", violations), ("pendings", pendings), ("state", state)]

/-- A name without the `num_` that may stand before it. -/
def baseName (cs : List Char) : List Char :=
  (Text.stripPrefix? "num_".toList cs).getD cs

/-- The metric of a name, in any letter case and with blanks around it. -/
def ofName? (name : String) : Option Metric :=
  let wanted := baseName (Text.lowercase (Text.trim name.toList))
  (names.find? fun entry => entry.1.toList = wanted).map (·.2)

end Metric

/-- A name that no metric goes by. -/
structure UnknownMetric where
  name : String
deriving Repr, DecidableEq

/-- The description of the error. -/
def UnknownMetric.message (e : UnknownMetric) : String :=
  "unknown metric `" ++ e.name ++
    "` (expected activations, fulfillments, violations, pendings or state)"

/-- Reads the name of a metric. -/
def Metric.read (name : String) : Except UnknownMetric Metric :=
  match ofName? name with
  | some m => .ok m
  | none => .error ⟨name⟩

/-- Outcomes by trace and constraint. -/
structure Report where
  /-- The texts of the constraints. -/
  labels : List String
  rows : List (List (Option Outcome))
deriving Repr, DecidableEq

namespace Report

/-- The number of traces. -/
def traceCount (r : Report) : Nat :=
  r.rows.length

/-- The number of constraints. -/
def constraintCount (r : Report) : Nat :=
  r.labels.length

/-- The outcome of a constraint on a trace. -/
def outcome? (r : Report) (trace constraint : Nat) : Option Outcome :=
  r.rows[trace]?.bind fun row => row[constraint]?.join

/-- A metric of a constraint on a trace. -/
def metric? (r : Report) (m : Metric) (trace constraint : Nat) : Option Nat :=
  (r.outcome? trace constraint).bind fun o => m.of o

/-- A metric of all cells of a row. -/
def rowMetrics (m : Metric) (row : List (Option Outcome)) : List (Option Nat) :=
  row.map fun cell => cell.bind fun o => m.of o

/-- A metric of all constraints on a trace. -/
def traceMetrics? (r : Report) (m : Metric) (trace : Nat) : Option (List (Option Nat)) :=
  r.rows[trace]?.map (rowMetrics m)

/-- A metric of a constraint on all traces. -/
def constraintMetrics? (r : Report) (m : Metric) (constraint : Nat) :
    Option (List (Option Nat)) :=
  if constraint < r.constraintCount then
    some ((List.range r.traceCount).map fun trace => r.metric? m trace constraint)
  else none

/-- A metric of all constraints on all traces. -/
def metrics (r : Report) (m : Metric) : List (List (Option Nat)) :=
  r.rows.map (rowMetrics m)

/-- The share of the traces on which a constraint is satisfied. There is none without any trace or
if a cell of the constraint is empty. -/
def support? (r : Report) (constraint : Nat) : Option Float :=
  match r.rows.mapM fun row => row[constraint]?.join with
  | none | some [] => none
  | some outcomes =>
    some (share (outcomes.countP (·.verdict = .satisfied)) outcomes.length)

end Report

/-- How a log is checked. -/
structure CheckingOptions where
  /-- Whether a constraint without activations is satisfied. -/
  vacuity : Bool := false
  /-- The number of workers, which has no influence on the outcomes. -/
  threads : Option UInt64 := none
deriving Repr, DecidableEq

/-- What is missing for an analysis. -/
inductive Prerequisite where
  | log
  | model
deriving Repr, DecidableEq

/-- The description of what is missing. -/
def Prerequisite.message : Prerequisite → String
  | log => "no event log was provided to check"
  | model => "no Declare model was provided to check against"

/-- A constraint that is skipped because a condition of it cannot be read. -/
structure Skipped where
  constraint : String
  error : ConditionError
deriving Repr, DecidableEq

/-- The warning about a skipped constraint. -/
def Skipped.message (s : Skipped) : String :=
  "Skipping constraint: " ++ s.error.message

namespace Model

/-- The constraints with their conditions; nothing for those whose conditions cannot be read. -/
def compile (m : Model) : List (Option Compiled) :=
  m.constraints.map fun c => (c.compile m.catalog).toOption

/-- The constraints that are skipped, of those with the same text only the first, and none that was
reported before. -/
def skippedAmong (catalog : Catalog) (reported : List String) : List Constraint → List Skipped
  | [] => []
  | c :: cs =>
    match c.compile catalog with
    | .ok _ => skippedAmong catalog reported cs
    | .error error =>
      if c.text ∈ reported then skippedAmong catalog reported cs
      else ⟨c.text, error⟩ :: skippedAmong catalog (c.text :: reported) cs

/-- The constraints of a model that are skipped. -/
def skipped (m : Model) : List Skipped :=
  skippedAmong m.catalog [] m.constraints

end Model

/-- The outcomes of all constraints on a trace. -/
def checkRow (compiled : List (Option Compiled)) (vacuity : Bool) (trace : Option Trace) :
    List (Option Outcome) :=
  compiled.map fun cell => cell.bind fun c => trace.map fun t => c.checkTrace t vacuity

/-- The report on a log and a model. -/
def Report.ofLog (log : Log) (model : Model) (vacuity : Bool) : Report where
  labels := model.constraints.map Constraint.text
  rows := log.traces.map (checkRow model.compile vacuity)

/-- The report on what is given. A missing log is noticed before a missing model. -/
def analyze (log : Option Log) (model : Option Model) (options : CheckingOptions) :
    Except Prerequisite Report :=
  match log, model with
  | none, _ => .error .log
  | some _, none => .error .model
  | some log, some model => .ok (.ofLog log model options.vacuity)

end Declare
