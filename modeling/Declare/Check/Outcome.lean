import Declare.Check.Tally
import Declare.Condition.Reader
import Declare.Log.Basic

/-!
# Checking a constraint on a trace

The conditions of a constraint are read against a catalog of attributes before events are checked.
They decide which events activate the constraint and which targets match an activation.

Constraints that relate two activities count their activations: those that are fulfilled, those that
are violated, and those that are still pending because the trace may go on. The verdict follows from
these counts. Unary constraints and choices only have a verdict.

A verdict is definite, or holds so far and may change while the trace goes on. A complete trace only
has definite verdicts, and completing a trace settles a verdict in the direction in which it leans
(`Verdict.completed`).
-/

namespace Declare

/-- Whether a constraint holds on a trace. -/
inductive Verdict where
  | satisfied
  | violated
  /-- satisfied unless later events change that -/
  | possiblySatisfied
  /-- violated unless later events change that -/
  | possiblyViolated
deriving Repr, DecidableEq

namespace Verdict

/-- The verdict on what holds or not so far and may change until the trace is complete. -/
def soFar (complete holds : Bool) : Verdict :=
  match holds, complete with
  | true, true => satisfied
  | true, false => possiblySatisfied
  | false, true => violated
  | false, false => possiblyViolated

/-- Whether later events cannot change the verdict. -/
def isDefinite : Verdict → Bool
  | satisfied | violated => true
  | possiblySatisfied | possiblyViolated => false

/-- The verdict when the trace ends here. -/
def completed : Verdict → Verdict
  | satisfied | possiblySatisfied => satisfied
  | violated | possiblyViolated => violated

/-- The verdict on a constraint that counts activations. Without any activation it is vacuous, which
satisfies the constraint only if `vacuity` says so. A violation is final. A pending activation of a
positive template is a violation in case nothing matches it; one of a negative template can only
turn out well. -/
def ofCounts (activations violations pendings : Nat) (complete vacuity negative : Bool) : Verdict :=
  if activations = 0 && !vacuity then soFar complete false
  else if violations > 0 then violated
  else soFar complete (negative || pendings = 0)

@[simp] theorem completed_soFar (complete holds : Bool) :
    (soFar complete holds).completed = soFar true holds := by
  cases complete <;> cases holds <;> rfl

@[simp] theorem isDefinite_soFar (complete holds : Bool) :
    (soFar complete holds).isDefinite = complete := by
  cases complete <;> cases holds <;> rfl

/-- Completing a trace with the same counts settles the verdict. -/
theorem completed_ofCounts (activations violations pendings : Nat)
    (complete vacuity negative : Bool) :
    (ofCounts activations violations pendings complete vacuity negative).completed =
      ofCounts activations violations pendings true vacuity negative := by
  unfold ofCounts
  split
  · exact completed_soFar ..
  · split
    · rfl
    · exact completed_soFar ..

end Verdict

/-- The conditions of a constraint. Missing ones hold of all events. -/
structure Predicates where
  activation : Condition := .const true
  correlation : Condition := .const true
  /-- The bounds on the time between two events, if there are any. -/
  window : Option Window := none

namespace Predicates

/-- Reads the conditions of a constraint. -/
def compile (c : Constraint) (catalog : Catalog) : Except ConditionError Predicates := do
  let activation ← Condition.read .activation catalog c.activationCondition
  let correlation ← Condition.read .correlation catalog c.correlationCondition
  let window ← Window.read c.timeCondition
  .ok { activation, correlation, window }

/-- Whether an event satisfies the activation condition. -/
def activates (p : Predicates) (e : Event) : Bool :=
  p.activation.eval e none

/-- Whether the time between two events is in the bounds. -/
def inTime (p : Predicates) (s t : Event) : Bool :=
  p.window.all (·.holds s.timestamp t.timestamp)

/-- Whether an event satisfies the activation condition in time after the first event of its
trace. -/
def activatesRelativeTo (p : Predicates) (e first : Event) : Bool :=
  p.activates e && p.inTime e first

/-- Whether a target matches an activation. -/
def correlates (p : Predicates) (activation target : Event) : Bool :=
  p.correlation.eval activation (some target) && p.inTime activation target

/-- The roles of events for a relation between the activities `a` and `b`. The earlier event is one
of `a`, the later one of `b`. -/
def roles (p : Predicates) (relation : Relation) (a b : String) : Roles Event :=
  let (activation, target) := if relation.looksBack then (b, a) else (a, b)
  { activates e := e.activity = activation && p.activates e
    isTarget e := e.activity = target
    correlates := p.correlates }

end Predicates

/-- A constraint with its conditions. -/
structure Compiled where
  constraint : Constraint
  predicates : Predicates := {}

/-- Reads the conditions of a constraint. -/
def Constraint.compile (c : Constraint) (catalog : Catalog) : Except ConditionError Compiled :=
  (Predicates.compile c catalog).map fun predicates => { constraint := c, predicates }

/-- A constraint is compiled if each of its three texts is read. -/
theorem Constraint.compile_eq_ok {c : Constraint} {catalog : Catalog} {p : Predicates}
    (activation : Condition.read .activation catalog c.activationCondition = .ok p.activation)
    (correlation : Condition.read .correlation catalog c.correlationCondition = .ok p.correlation)
    (window : Window.read c.timeCondition = .ok p.window) :
    c.compile catalog = .ok { constraint := c, predicates := p } := by
  rw [compile, Predicates.compile, activation, correlation, window]
  rfl

/-- The activations of a constraint on a trace. Relations that look back leave nothing pending and
do not count it. -/
structure Counts where
  activations : Nat := 0
  fulfillments : Nat := 0
  violations : Nat := 0
  pendings : Option Nat := none
deriving Repr, DecidableEq

namespace Counts

/-- The counts that a scan of a trace amounts to. A match fulfils a positive template and violates a
negative one. What waits is pending in an incomplete trace; all else is the opposite of matched. -/
def ofTally (t : Tally) (looksBack complete negative : Bool) : Counts :=
  let pendings := if looksBack then none else some (if complete then 0 else t.waiting)
  let unmatched := t.activations - t.matched - pendings.getD 0
  { activations := t.activations
    fulfillments := if negative then unmatched else t.matched
    violations := if negative then t.matched else unmatched
    pendings }

/-- The sum of two counts of pendings, none of which may have been counted. -/
def addPendings : Option Nat → Option Nat → Option Nat
  | none, none => none
  | m, n => some (m.getD 0 + n.getD 0)

/-- The counts of two constraints together. -/
def merge (c d : Counts) : Counts where
  activations := c.activations + d.activations
  fulfillments := c.fulfillments + d.fulfillments
  violations := c.violations + d.violations
  pendings := addPendings c.pendings d.pendings

end Counts

/-- The result of checking a constraint on a trace. -/
structure Outcome where
  activations : Option Nat := none
  fulfillments : Option Nat := none
  violations : Option Nat := none
  pendings : Option Nat := none
  verdict : Verdict
deriving Repr, DecidableEq

/-- The outcome of a constraint that counts activations. -/
def Counts.outcome (c : Counts) (complete vacuity negative : Bool) : Outcome where
  activations := some c.activations
  fulfillments := some c.fulfillments
  violations := some c.violations
  pendings := c.pendings
  verdict := .ofCounts c.activations c.violations (c.pendings.getD 0) complete vacuity negative

namespace Predicates

/-- The number of occurrences of an activity that count for unary constraints and choices. -/
def occurrences (p : Predicates) (events : List Event) (activity : String) : Nat :=
  match events with
  | [] => 0
  | first :: _ => events.countP fun e => e.activity = activity && p.activatesRelativeTo e first

/-- Whether an event is an occurrence of an activity that satisfies the activation condition. -/
def isOccurrence (p : Predicates) (activity : String) (e : Event) : Bool :=
  e.activity = activity && p.activates e

/-- The verdict on a constraint that does not count activations; nothing for the others. -/
def verdict? (p : Predicates) (template : Template) (a b : String) (n : Nat) (events : List Event)
    (complete : Bool) : Option Verdict :=
  let count := p.occurrences events
  match template with
  | .existence => some (if n ≤ count a then .satisfied else .soFar complete false)
  | .absence => some (if count a < n then .soFar complete true else .violated)
  | .exactly => some (if n < count a then .violated else .soFar complete (count a = n))
  | .init =>
    match events with
    | [] => some (.soFar complete false)
    | first :: _ => some (if p.isOccurrence a first then .satisfied else .violated)
  | .ending => some (.soFar complete (events.getLast?.any (p.isOccurrence a)))
  | .choice =>
    some (if 0 < count a || 0 < count b then .satisfied else .soFar complete false)
  | .exclusiveChoice =>
    some (if 0 < count a && 0 < count b then .violated
      else .soFar complete (0 < count a || 0 < count b))
  | _ => none

/-- The counts of a template that is not derived from others. -/
def relationCounts (p : Predicates) (template : Template) (a b : String) (events : List Event)
    (complete : Bool) : Counts :=
  match template.relation? with
  | some relation =>
    .ofTally (relation.tally (p.roles relation a b) events) relation.looksBack complete
      template.isNegative
  | none => {}

/-- The counts of a template; those of a derived one are the sums over what it is derived from. -/
def counts (p : Predicates) (template : Template) (a b : String) (events : List Event)
    (complete : Bool) : Counts :=
  if template.isDerived then
    template.components.foldl
      (fun sum (component, swapped) =>
        sum.merge
          (if swapped then p.relationCounts component b a events complete
            else p.relationCounts component a b events complete)) {}
  else p.relationCounts template a b events complete

end Predicates

/-- Checks a constraint on the events of a trace. `vacuity` tells whether a constraint without
activations is satisfied. -/
def Compiled.check (c : Compiled) (events : List Event) (complete vacuity : Bool) : Outcome :=
  let template := c.constraint.template
  let a := c.constraint.activities.getD 0 ""
  let b := c.constraint.activities.getD 1 ""
  let n := c.constraint.cardinality.elim 1 (·.toNat)
  match c.predicates.verdict? template a b n events complete with
  | some verdict => { verdict }
  | none =>
    (c.predicates.counts template a b events complete).outcome complete vacuity template.isNegative

/-- Checks a constraint on a trace. -/
def Compiled.checkTrace (c : Compiled) (t : Trace) (vacuity : Bool) : Outcome :=
  c.check t.events t.complete vacuity

end Declare
