import Declare.Decimal.Numeral
import Declare.Model.Template
import Declare.Text.Split

/-!
# Constraints

A constraint puts a template on activities, with conditions on the events that activate it, on the
targets that match an activation, and on the time between the two. Conditions are kept as they are
written. A constraint is well-formed if its written form determines it (`Constraint.fault?`).
-/

namespace Declare

/-- A template on concrete activities. -/
structure Constraint where
  template : Template
  /-- One activity for a unary template, two for a binary one. -/
  activities : List String
  /-- The number that the template counts up to, if it takes one. -/
  cardinality : Option UInt64 := none
  /-- A condition on the activating event. -/
  activationCondition : String := ""
  /-- A condition on the activating and the target event. -/
  correlationCondition : String := ""
  /-- The least and the greatest time between the two events. -/
  timeCondition : String := ""
deriving Repr, DecidableEq

namespace Constraint

/-- A constraint on one activity, counting up to one if the template counts. -/
def unary (template : Template) (activity : String) : Constraint where
  template := template
  activities := [activity]
  cardinality := if template.takesCardinality then some 1 else none

/-- A constraint on two activities. -/
def binary (template : Template) (a b : String) : Constraint where
  template := template
  activities := [a, b]

/-- The constraint with a cardinality. -/
def withCardinality (c : Constraint) (n : UInt64) : Constraint :=
  { c with cardinality := some n }

/-- The constraint with conditions, without the blanks around them. -/
def withConditions (c : Constraint) (activation correlation time : String) : Constraint :=
  { c with
    activationCondition := Text.trimmed activation
    correlationCondition := Text.trimmed correlation
    timeCondition := Text.trimmed time }

/-- The activity whose events activate the constraint; of choices and derived templates, where both
do, the first. -/
def activationActivity (c : Constraint) : String :=
  match c.activities with
  | [] => ""
  | a :: rest => if c.template.isReversed then rest.headD a else a

/-- The written form, such as `Response[A, B] |A.x > 2 | |0,5,h`. -/
def text (c : Constraint) : String :=
  c.template.name ++ (c.cardinality.elim "" fun n => .ofList (Text.digits n.toNat)) ++
    "[" ++ ", ".intercalate c.activities ++ "] |" ++ c.activationCondition ++ " " ++
    (if c.template.isBinary then "|" ++ c.correlationCondition ++ " " else "") ++
    "|" ++ c.timeCondition

/-- What keeps a constraint from being well-formed. -/
inductive Fault where
  | wrongArity (template : Template) (got : Nat)
  | emptyActivity
  /-- An activity that would not read back. -/
  | unwritableActivity (activity : String)
  /-- A condition that would not read back. -/
  | unwritableCondition (condition : String)
  | sameActivity (template : Template) (activity : String)
  | missingCardinality (template : Template)
  | superfluousCardinality (template : Template)
deriving Repr, DecidableEq

/-- The description of a fault. -/
def Fault.message : Fault → String
  | wrongArity t got =>
    t.name ++ " expects " ++ toString t.arity ++ " activit" ++
      (if t.arity = 1 then "y" else "ies") ++ " but got " ++ toString got
  | emptyActivity => "empty activity name"
  | unwritableActivity a => "activity `" ++ a ++ "` cannot be used in a constraint string"
  | unwritableCondition c => "condition `" ++ c ++ "` cannot be used in a constraint string"
  | sameActivity t a => t.name ++ " requires two distinct activities but got `" ++ a ++ "` twice"
  | missingCardinality t => t.name ++ " requires a cardinality"
  | superfluousCardinality t => t.name ++ " does not support a cardinality"

/-- Whether an activity reads back from a constraint: no blanks around it, no separators in it. -/
def writableActivity (a : String) : Bool :=
  Text.trim a.toList = a.toList && a.toList.all fun c => c ∉ [',', '[', ']', '|']

/-- Whether a condition reads back from a constraint. -/
def writableCondition (c : String) : Bool :=
  Text.trim c.toList = c.toList && '|' ∉ c.toList

/-- The conditions in the order in which they are written. -/
def conditions (c : Constraint) : List String :=
  [c.activationCondition, c.correlationCondition, c.timeCondition]

/-- The fault of two activities that have to differ. -/
def sameActivity? (c : Constraint) : Option Fault :=
  match c.activities with
  | [a, b] => if c.template.isBinary ∧ a = b then some (.sameActivity c.template a) else none
  | _ => none

/-- The fault of a cardinality that is missing or out of place. -/
def cardinality? (c : Constraint) : Option Fault :=
  match c.template.takesCardinality, c.cardinality with
  | true, none => some (.missingCardinality c.template)
  | false, some _ => some (.superfluousCardinality c.template)
  | _, _ => none

/-- The first fault of a constraint; a well-formed one has none. -/
def fault? (c : Constraint) : Option Fault :=
  if c.activities.length ≠ c.template.arity then
    some (.wrongArity c.template c.activities.length)
  else if c.activities.any fun a => (Text.trim a.toList).isEmpty then
    some .emptyActivity
  else
    ((c.activities.find? (!writableActivity ·)).map .unwritableActivity) <|>
      ((c.conditions.find? (!writableCondition ·)).map .unwritableCondition) <|>
      c.sameActivity? <|> c.cardinality?

end Constraint

end Declare
