import Declare.Discovery.Support
import Declare.Model.Basic

/-!
# Discovering models

A model is discovered by trying templates on the activities that frequently occur together. The
constraints that enough traces satisfy make up the model, in the order in which they are tried.

A cancellation token tells the workers of a run to stop. A token and its copies share one state:
cancelling one cancels them all, for good. Workers look at a token between two units of work.
-/

namespace Declare

/-- A cancellation token. Copies of a token are in the same group. -/
structure CancelToken where
  group : Nat
  cancelled : Bool := false
deriving Repr, DecidableEq

/-- The tokens in use. -/
abbrev CancelTokens := List CancelToken

namespace CancelTokens

/-- The tokens with one of a new group. -/
def issue (ts : CancelTokens) : CancelTokens :=
  ts ++ [{ group := ts.length }]

/-- The tokens with a copy of one of them. -/
def copy (ts : CancelTokens) (i : Nat) : CancelTokens :=
  ts ++ ts[i]?.toList

/-- The tokens after one of them, and so its group, is cancelled. -/
def cancel (ts : CancelTokens) (i : Nat) : CancelTokens :=
  match ts[i]? with
  | none => ts
  | some token => ts.map fun t => if t.group = token.group then { t with cancelled := true } else t

/-- The number of tokens that are not cancelled. -/
def live (ts : CancelTokens) : Nat :=
  ts.countP (!·.cancelled)

end CancelTokens

/-- What a run sees of its token: what the worker on each unit of work sees before it starts, in
whatever order the units are worked on, and what is seen at the end. A token that was seen
cancelled stays so. -/
structure Cancellation where
  atUnit : Nat → Bool
  atEnd : Bool
  stays : ∀ i, atUnit i = true → atEnd = true

namespace Cancellation

/-- The token is never cancelled. -/
def never : Cancellation where
  atUnit _ := false
  atEnd := false
  stays _ h := h

/-- The token is cancelled before the run. -/
def beforehand : Cancellation where
  atUnit _ := true
  atEnd := true
  stays _ h := h

end Cancellation

/-- What is wrong with options. -/
inductive OptionFault where
  /-- A number that has to lie between 0 and 1. -/
  | notAShare (option : String) (value : Float)
  | zeroCardinality
  | superfluousCardinality (template : Template)

/-- The description of the fault. -/
def OptionFault.message : OptionFault → String
  | notAShare option value =>
    option ++ " must be in [0, 1] but is " ++ Decimal.Layout.plain.write value
  | zeroCardinality => "max_cardinality must be at least 1"
  | superfluousCardinality template => template.name ++ " does not take a cardinality"

/-- Whether a number can be a share. -/
def isShare (x : Float) : Bool :=
  0.0 ≤ x && x ≤ 1.0

/-- How a model is discovered. -/
structure DiscoveryOptions where
  /-- The share of traces in which the activities of a constraint have to occur together. -/
  itemsetsSupport : Float := 0.9
  /-- The share of traces that have to satisfy a constraint. -/
  minSupport : Float := 1.0
  /-- The greatest number that is tried for templates that count. -/
  maxCardinality : UInt64 := 1
  /-- Whether a constraint without activations is satisfied. -/
  vacuity : Bool := false
  /-- The number of workers, which has no influence on the result. -/
  threads : Option UInt64 := none

/-- The first fault of the options. -/
def DiscoveryOptions.fault? (o : DiscoveryOptions) : Option OptionFault :=
  if !isShare o.itemsetsSupport then some (.notAShare "itemsets_support" o.itemsetsSupport)
  else if !isShare o.minSupport then some (.notAShare "min_support" o.minSupport)
  else if o.maxCardinality = 0 then some .zeroCardinality
  else none

/-- Why no model is discovered. -/
inductive DiscoveryError where
  | invalidOptions (fault : OptionFault)
  | cancelled

/-- The description of the error. -/
def DiscoveryError.message : DiscoveryError → String
  | invalidOptions fault => "invalid discovery options: " ++ fault.message
  | cancelled => "discovery was cancelled"

/-- The cardinalities that are tried: those up to a greatest one for templates that count. -/
def Template.cardinalities (template : Template) (greatest : UInt64) : List (Option UInt64) :=
  if template.takesCardinality then (List.range' 1 greatest.toNat).map fun n => some (.ofNat n)
  else [none]

/-- The constraints that are tried on a set of activities: unary ones on a single activity, and
binary ones, in both orders, on two. -/
def candidatesOn (maxCardinality : UInt64) (items : List String) : List Constraint :=
  match items with
  | [a] =>
    Template.unary.flatMap fun t =>
      (t.cardinalities maxCardinality).map fun cardinality =>
        { template := t, activities := [a], cardinality }
  | [a, b] => Template.binary.flatMap fun t => [.binary t a b, .binary t b a]
  | _ => []

/-- The constraints that are tried on sets of activities. -/
def candidates (maxCardinality : UInt64) (itemsets : List (List String)) : List Constraint :=
  itemsets.flatMap (candidatesOn maxCardinality)

/-- A discovered model, and the faults of the constraints that it could not take. -/
structure Discovery where
  model : Model
  dropped : List Fault := []

namespace Discovery

/-- The model with one more constraint, if it can take it. -/
def accept (d : Discovery) (c : Constraint) : Discovery :=
  match d.model.addConstraint c with
  | .ok model => { d with model }
  | .error fault => { d with dropped := d.dropped ++ [fault] }

/-- The warning about a constraint that the model could not take. -/
def warning (fault : Fault) : String :=
  "Dropping discovered constraint: " ++ (ModelError.mk none fault).message

/-- The model that declares the activities of a log. -/
def activitiesOf (log : Log) : Model :=
  log.activities.foldl (fun m a => (m.addActivity a).2) {}

/-- The candidates that the log supports; those whose worker saw the token cancelled are not
looked at. -/
def supported (log : Log) (options : DiscoveryOptions) (token : Cancellation)
    (cs : List Constraint) : List Constraint :=
  cs.zipIdx.filterMap fun (c, i) =>
    if token.atUnit i then none
    else if ({ constraint := c } : Compiled).isSupported log options.vacuity options.minSupport then
      some c
    else none

end Discovery

/-- Discovers the model of a log. A cancelled run has no result, unless the log has no traces. -/
def discover (log : Log) (options : DiscoveryOptions) (token : Cancellation) :
    Except DiscoveryError Discovery :=
  match options.fault? with
  | some fault => .error (.invalidOptions fault)
  | none =>
    let start := { model := Discovery.activitiesOf log }
    if log.size = 0 then .ok start
    else
      let itemsets := (Itemset.frequent log options.itemsetsSupport 2).map (·.items)
      let found :=
        Discovery.supported log options token (candidates options.maxCardinality itemsets)
      if token.atEnd then .error .cancelled else .ok (found.foldl Discovery.accept start)

end Declare
