import Declare.Event.Basic
import Declare.Model.Basic

/-!
# Conditions

A condition on an activating event and, possibly, a target event. Its atoms compare an attribute of
one of the two with literal values or a number, or the attributes of both with each other. An atom
on a missing attribute or event is false, also a negated one. So more data never makes a condition
false that was true.
-/

namespace Declare

/-- Which of the two events an attribute is looked up in. -/
inductive Side where
  | activation
  | target
deriving Repr, DecidableEq

/-- An attribute of one of the two events. -/
structure Operand where
  side : Side
  attr : String
deriving Repr, DecidableEq

/-- How an attribute is compared with a number. -/
inductive Comparison where
  | lt
  | le
  | eq
  | ne
  | gt
  | ge
deriving Repr, DecidableEq

/-- The symbol of a comparison. -/
def Comparison.symbol : Comparison → String
  | lt => "<"
  | le => "<="
  | eq => "="
  | ne => "!="
  | gt => ">"
  | ge => ">="

/-- Whether two numbers compare in that way. NaN is different from all numbers and not ordered. -/
def Comparison.holds (c : Comparison) (x y : Float) : Bool :=
  match c with
  | lt => x < y
  | le => x ≤ y
  | eq => x == y
  | ne => x != y
  | gt => y < x
  | ge => y ≤ x

/-- A condition on two events. -/
inductive Condition where
  | const (b : Bool)
  | and (l r : Condition)
  | or (l r : Condition)
  /-- The attribute is, or with `negated` is not, the value. -/
  | is (operand : Operand) (value : String) (negated : Bool)
  /-- The attribute is, or with `negated` is not, among the values. -/
  | member (operand : Operand) (values : List String) (negated : Bool)
  | compare (operand : Operand) (comparison : Comparison) (bound : Float)
  /-- The events agree on the attribute. -/
  | same (attr : String)
  /-- The events have different values of the attribute. -/
  | different (attr : String)
deriving Inhabited

/-- The value of an operand, if the event is there and has the attribute. -/
def Operand.value? (o : Operand) (activation : Event) (target : Option Event) : Option Value :=
  match o.side with
  | .activation => activation.value? o.attr
  | .target => target.bind (·.value? o.attr)

namespace Condition

/-- Whether two values are there and satisfy `p`. -/
def both (p : Value → Value → Bool) : Option Value → Option Value → Bool
  | some v, some w => p v w
  | _, _ => false

/-- Whether the condition holds. -/
def eval (activation : Event) (target : Option Event) : Condition → Bool
  | const b => b
  | and l r => l.eval activation target && r.eval activation target
  | or l r => l.eval activation target || r.eval activation target
  | is o value negated =>
    (o.value? activation target).any fun v => v.accepts value != negated
  | member o values negated =>
    (o.value? activation target).any fun v => values.any v.accepts != negated
  | compare o comparison bound =>
    ((o.value? activation target).bind Value.number?).any fun x => comparison.holds x bound
  | same attr =>
    both (fun v w => v == w) (activation.value? attr) (target.bind (·.value? attr))
  | different attr =>
    both (fun v w => !(v == w)) (activation.value? attr) (target.bind (·.value? attr))

/-- Whether the condition is the constant `true`. -/
def isTrivial : Condition → Bool
  | const b => b
  | _ => false

end Condition

/-- The attributes that conditions may refer to, with the domains of those that have one. -/
structure Catalog where
  knows : String → Bool
  domain? : String → Option Domain

/-- The attributes of these names, without domains. -/
def Catalog.ofNames (names : List String) : Catalog where
  knows name := name ∈ names
  domain? _ := none

/-- The attributes that a model binds. -/
def Model.catalog (m : Model) : Catalog where
  knows := m.isBound
  domain? := m.domain?

end Declare
