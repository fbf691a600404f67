import Declare.Condition.Reader
import Declare.Discovery.Basic

/-!
# Queries

A query is a constraint with parts left open: its template, the activity that activates it, or the
target. The answer lists the ways to fill them in that enough traces satisfy. An activity left open
is any activity of the log; a template left open is any binary one that is not derived from others,
and any unary one if the query has no target.
-/

namespace Declare

/-- A constraint with open parts. A part that is missing or blank is open. -/
structure Query where
  template : Option String := none
  activation : Option String := none
  target : Option String := none
  activationCondition : String := ""
  /-- A condition on both events, which only matters for binary templates. -/
  correlationCondition : String := ""
  timeCondition : String := ""
deriving Repr, DecidableEq

/-- How a query is answered. -/
structure QueryOptions where
  /-- The share of traces that have to satisfy an answer. -/
  minSupport : Float := 0.1
  /-- Whether a constraint without activations is satisfied. -/
  vacuity : Bool := false
  /-- The greatest number that is tried for templates that count. -/
  maxCardinality : UInt64 := 1
  /-- Whether one answer is enough. -/
  returnFirst : Bool := false
  /-- The number of workers, which has no influence on the answer. -/
  threads : Option UInt64 := none

/-- A way to fill in the open parts of a query. -/
structure Assignment where
  activation : String
  /-- The target of a binary constraint. -/
  target : Option String
  constraint : Constraint
deriving Repr, DecidableEq

/-- Why a query has no answer. -/
inductive QueryError where
  /-- A query with all parts open. -/
  | noParameters
  | unknownTemplate (name : String)
  | targetOnUnary (template : Template)
  | invalidOptions (fault : OptionFault)
  | condition (error : ConditionError)

/-- The description of the error. -/
def QueryError.message : QueryError → String
  | noParameters => "at least one of template, activation or target must be given"
  | unknownTemplate name => "unknown template `" ++ name ++ "`"
  | targetOnUnary template => template.name ++ " is unary and cannot have a target activity"
  | invalidOptions fault => "invalid query options: " ++ fault.message
  | condition _ => "invalid query condition"

namespace Query

/-- A part of a query without the blanks around it, if it is not open. -/
def given? (part : Option String) : Option String :=
  (part.map Text.trimmed).filter (!·.isEmpty)

/-- Reads the name of a template with the number that it counts up to. -/
def readTemplate (name : String) : Except QueryError (Template × Option UInt64) :=
  let (base, digits) := Text.splitDigits name.toList
  match Template.ofName? (Text.trim base) with
  | none => .error (.unknownTemplate name)
  | some template =>
    match digits.isEmpty, Text.uint64? digits with
    | true, _ => .ok (template, if template.takesCardinality then some 1 else none)
    | false, none => .error (.unknownTemplate name)
    | false, some n =>
      if template.takesCardinality then .ok (template, some n)
      else .error (.invalidOptions (.superfluousCardinality template))

/-- The template of a query, if it is given. -/
def template? (q : Query) : Except QueryError (Option (Template × Option UInt64)) :=
  match given? q.template with
  | none => .ok none
  | some name => (readTemplate name).map some

/-- The first fault of the options. -/
def optionFault? (o : QueryOptions) : Option OptionFault :=
  if !isShare o.minSupport then some (.notAShare "min_support" o.minSupport)
  else if o.maxCardinality = 0 then some .zeroCardinality
  else none

/-- The template of a well-formed query with valid options. -/
def check (q : Query) (o : QueryOptions) :
    Except QueryError (Option (Template × Option UInt64)) := do
  let target := given? q.target
  if (given? q.template).isNone ∧ (given? q.activation).isNone ∧ target.isNone then
    .error .noParameters
  let template ← q.template?
  if let some (t, _) := template then
    if !t.isBinary && target.isSome then .error (.targetOnUnary t)
  if let some fault := optionFault? o then .error (.invalidOptions fault)
  .ok template

/-- Reads the conditions of a query against a catalog, that on time first. -/
def predicates (q : Query) (catalog : Catalog) : Except ConditionError Predicates := do
  let window ← Window.read q.timeCondition
  let activation ← Condition.read .activation catalog q.activationCondition
  let correlation ← Condition.read .correlation catalog q.correlationCondition
  .ok { activation, correlation, window }

/-- The templates that are tried if none is given. -/
def openTemplates (target : Option String) (maxCardinality : UInt64) :
    List (Template × Option UInt64) :=
  Template.binary.map (·, none) ++
    if target.isSome then []
    else Template.unary.flatMap fun t => (t.cardinalities maxCardinality).map (t, ·)

/-- The assignment of two activities to a binary template. -/
def binaryAssignment (q : Query) (t : Template) (activation target : String) : Assignment where
  activation := activation
  target := some target
  constraint :=
    (if t.isReversed then Constraint.binary t target activation
      else Constraint.binary t activation target).withConditions
      q.activationCondition q.correlationCondition q.timeCondition

/-- The assignment of an activity to a unary template. -/
def unaryAssignment (q : Query) (t : Template) (cardinality : Option UInt64)
    (activation : String) : Assignment where
  activation := activation
  target := none
  constraint :=
    { (Constraint.unary t activation).withConditions q.activationCondition "" q.timeCondition with
      cardinality }

/-- The assignments of a template, with activities from two lists. -/
def assignmentsOf (q : Query) (activations targets : List String) (t : Template)
    (cardinality : Option UInt64) : List Assignment :=
  if t.isBinary then
    activations.flatMap fun a => (targets.filter (a ≠ ·)).map (q.binaryAssignment t a)
  else activations.map (q.unaryAssignment t cardinality)

/-- All assignments that are tried on a log. -/
def assignments (q : Query) (log : Log) (o : QueryOptions)
    (template : Option (Template × Option UInt64)) : List Assignment :=
  let all := log.activities
  let target := given? q.target
  let templates := template.elim (openTemplates target o.maxCardinality) ([·])
  let activations := (given? q.activation).elim all ([·])
  templates.flatMap fun (t, n) => q.assignmentsOf activations (target.elim all ([·])) t n

/-- An assignment with the conditions of its query. Unary templates have no correlation
condition. -/
def compiled (p : Predicates) (a : Assignment) : Compiled where
  constraint := a.constraint
  predicates := if a.target.isSome then p else { p with correlation := .const true }

/-- The ways to fill in a query that enough traces of a log satisfy. -/
def answer (q : Query) (log : Log) (o : QueryOptions) : Except QueryError (List Assignment) := do
  let template ← q.check o
  let p ← (q.predicates (.ofNames log.attributeNames)).mapError QueryError.condition
  let holds := fun a => (compiled p a).isSupported log o.vacuity o.minSupport
  let all := q.assignments log o template
  .ok (if o.returnFirst then (all.find? holds).toList else all.filter holds)

end Query

end Declare
