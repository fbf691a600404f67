/-!
# Constraint templates

A template is a pattern of behaviour that a constraint puts on one or two activities. Unary
templates count occurrences or look at an end of the trace. The binary ones, choices apart, relate
activating events to target events: each activation has to be matched by a target in a certain place
(`Relation`), or must not be. Derived templates are conjunctions of others.
-/

namespace Declare

/-- The patterns of constraints. `a` and `b` are the activities of a constraint in order. -/
inductive Template where
  /-- `a` occurs at least `n` times -/
  | existence
  /-- `a` occurs fewer than `n` times -/
  | absence
  /-- `a` occurs exactly `n` times -/
  | exactly
  /-- the trace starts with `a` -/
  | init
  /-- the trace ends with `a` -/
  | ending
  /-- `a` or `b` occurs -/
  | choice
  /-- either `a` or `b` occurs, but not both -/
  | exclusiveChoice
  /-- if `a` occurs, so does `b` -/
  | respondedExistence
  /-- each `a` is followed by `b` -/
  | response
  /-- each `a` is followed by `b` before the next `a` -/
  | alternateResponse
  /-- each `a` is directly followed by `b` -/
  | chainResponse
  /-- each `b` is preceded by `a` -/
  | precedence
  /-- each `b` is preceded by `a` with no other `b` in between -/
  | alternatePrecedence
  /-- each `b` is directly preceded by `a` -/
  | chainPrecedence
  | succession
  | alternateSuccession
  | chainSuccession
  | coExistence
  | notRespondedExistence
  | notResponse
  | notChainResponse
  | notPrecedence
  | notChainPrecedence
  | notCoExistence
  | notSuccession
  | notChainSuccession
deriving Repr, DecidableEq

/-- Where the target that matches an activation is looked for. -/
inductive Relation where
  /-- anywhere in the trace -/
  | anywhere
  /-- after the activation -/
  | later
  /-- after the activation and before the next one -/
  | beforeNext
  /-- directly after the activation -/
  | next
  /-- before the activation -/
  | earlier
  /-- before the activation and after the previous one -/
  | sincePrevious
  /-- directly before the activation -/
  | previous
deriving Repr, DecidableEq

namespace Template

/-- All templates in the order in which they are listed and tried. -/
def all : List Template :=
  [existence, absence, exactly, init, ending, choice, exclusiveChoice, respondedExistence, response,
   alternateResponse, chainResponse, precedence, alternatePrecedence, chainPrecedence, succession,
   alternateSuccession, chainSuccession, coExistence, notRespondedExistence, notResponse,
   notChainResponse, notPrecedence, notChainPrecedence, notCoExistence, notSuccession,
   notChainSuccession]

theorem mem_all (t : Template) : t ∈ all := by
  cases t <;> decide

/-- The name of a template in a model. -/
def name : Template → String
  | existence => "Existence"
  | absence => "Absence"
  | exactly => "Exactly"
  | init => "Init"
  | ending => "End"
  | choice => "Choice"
  | exclusiveChoice => "Exclusive Choice"
  | respondedExistence => "Responded Existence"
  | response => "Response"
  | alternateResponse => "Alternate Response"
  | chainResponse => "Chain Response"
  | precedence => "Precedence"
  | alternatePrecedence => "Alternate Precedence"
  | chainPrecedence => "Chain Precedence"
  | succession => "Succession"
  | alternateSuccession => "Alternate Succession"
  | chainSuccession => "Chain Succession"
  | coExistence => "Co-Existence"
  | notRespondedExistence => "Not Responded Existence"
  | notResponse => "Not Response"
  | notChainResponse => "Not Chain Response"
  | notPrecedence => "Not Precedence"
  | notChainPrecedence => "Not Chain Precedence"
  | notCoExistence => "Not Co-Existence"
  | notSuccession => "Not Succession"
  | notChainSuccession => "Not Chain Succession"

/-- The name in one word. -/
def word (t : Template) : List Char :=
  t.name.toList.filter fun c => c ≠ ' ' && c ≠ '-'

/-- The template with a name. Letter case, spaces, dashes and underscores do not count. Names have
ASCII letters only, and none that a letter outside ASCII is the capital of. -/
def ofName? (cs : List Char) : Option Template :=
  let wanted := (cs.filter fun c => c ≠ ' ' && c ≠ '-' && c ≠ '_').map Char.toLower
  all.find? fun t => t.word.map Char.toLower = wanted

/-- Whether the template relates two activities. -/
def isBinary : Template → Bool
  | existence | absence | exactly | init | ending => false
  | _ => true

/-- The number of activities of a constraint. -/
def arity (t : Template) : Nat :=
  if t.isBinary then 2 else 1

/-- Whether a constraint counts occurrences up to a number of its own. -/
def takesCardinality : Template → Bool
  | existence | absence | exactly => true
  | _ => false

/-- Whether the template forbids its pattern, so that a match is a violation. -/
def isNegative : Template → Bool
  | notRespondedExistence | notResponse | notChainResponse | notPrecedence | notChainPrecedence
  | notCoExistence | notSuccession | notChainSuccession => true
  | _ => false

/-- Whether the second activity of a constraint activates it. -/
def isReversed : Template → Bool
  | precedence | alternatePrecedence | chainPrecedence | notPrecedence | notChainPrecedence => true
  | _ => false

/-- The templates that a derived template is the conjunction of, each with whether the activities
change places for it. -/
def components : Template → List (Template × Bool)
  | succession => [(response, false), (precedence, false)]
  | alternateSuccession => [(alternateResponse, false), (alternatePrecedence, false)]
  | chainSuccession => [(chainResponse, false), (chainPrecedence, false)]
  | coExistence => [(respondedExistence, false), (respondedExistence, true)]
  | notCoExistence => [(notRespondedExistence, false), (notRespondedExistence, true)]
  | notSuccession => [(notResponse, false), (notPrecedence, false)]
  | notChainSuccession => [(notChainResponse, false), (notChainPrecedence, false)]
  | _ => []

/-- Whether the template is a conjunction of others. -/
def isDerived (t : Template) : Bool :=
  !t.components.isEmpty

/-- Where targets are looked for. Derived templates, choices and unary ones have no relation of
their own. -/
def relation? : Template → Option Relation
  | respondedExistence | notRespondedExistence => some .anywhere
  | response | notResponse => some .later
  | alternateResponse => some .beforeNext
  | chainResponse | notChainResponse => some .next
  | precedence | notPrecedence => some .earlier
  | alternatePrecedence => some .sincePrevious
  | chainPrecedence | notChainPrecedence => some .previous
  | _ => none

/-- Whether the template counts activations; the others only have a state. -/
def countsActivations (t : Template) : Bool :=
  t.relation?.isSome || t.isDerived

/-- The unary templates. -/
def unary : List Template :=
  all.filter fun t => !t.isBinary

/-- The binary templates that are not derived from others. -/
def binary : List Template :=
  all.filter fun t => t.isBinary && !t.isDerived

/-- A name reads back as its template. -/
@[simp] theorem ofName?_name (t : Template) : ofName? t.name.toList = some t := by
  cases t <;> decide

/-- The components of a derived template have relations of their own and its polarity. -/
theorem relation?_isSome_of_mem_components {t c : Template} {swapped : Bool}
    (h : (c, swapped) ∈ t.components) : c.relation?.isSome ∧ c.isNegative = t.isNegative := by
  cases t <;> simp [components] at h <;> rcases h with ⟨rfl, rfl⟩ | ⟨rfl, rfl⟩ <;> decide

end Template

end Declare
