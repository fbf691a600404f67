import Declare.Model.Constraint
import Declare.Model.Domain

/-!
# Models

A model declares activities, binds attributes to them, gives attributes domains and puts constraints
on the activities. It is built step by step, and each step checks that what it refers to is
declared. A step that fails leaves no trace.
-/

namespace Declare

/-- An activity with the attributes bound to it. -/
structure Activity where
  name : String
  attributes : List String := []
deriving Repr, DecidableEq

/-- A declarative process model. The domains are sorted by attribute. -/
structure Model where
  activities : List Activity := []
  domains : List (String × Domain) := []
  constraints : List Constraint := []
deriving BEq

/-- What a reference in a model points to. -/
inductive Referent where
  | activity
  | attr
deriving Repr, DecidableEq

/-- What is wrong with a model or with its text. -/
inductive Fault where
  | undeclared (kind : Referent) (name : String)
  /-- A domain whose written form reads as another one. -/
  | unstableDomain (domain attr : String)
  | constraint (fault : Constraint.Fault)
  | unrecognizedLine (line : String)
  | missingActivityName
  | activityTwice (name : String)
  | malformedBinding
  | emptyAttributeName
  | boundTwice (attr activity : String)
  | domain (error : DomainError)
  | domainRedefined (attr : String)
  | unclosedActivities
  | unknownTemplate (name : String)
  | invalidCardinality (digits : String)
  | misplacedCardinality (template : Template) (n : UInt64)
  | unexpectedTail (tail : String)
  | tooManyConditions (template : Template) (most got : Nat)
deriving Repr, DecidableEq

/-- The name of what a reference points to. -/
def Referent.name : Referent → String
  | activity => "activity"
  | attr => "attribute"

namespace Fault

/-- The description of a fault. -/
def message : Fault → String
  | undeclared kind name => "reference to undeclared " ++ kind.name ++ " `" ++ name ++ "`"
  | unstableDomain d a => "domain `" ++ d ++ "` of `" ++ a ++ "` does not read back unchanged"
  | constraint fault => fault.message
  | unrecognizedLine line => "unrecognized line `" ++ line ++ "`"
  | missingActivityName => "missing activity name"
  | activityTwice name => "activity `" ++ name ++ "` is declared twice"
  | malformedBinding => "expected `bind <activity>: <attributes>`"
  | emptyAttributeName => "empty attribute name"
  | boundTwice attr activity =>
    "attribute `" ++ attr ++ "` is bound to `" ++ activity ++ "` twice"
  | domain error => error.message
  | domainRedefined attr => "domain of attribute `" ++ attr ++ "` is redefined"
  | unclosedActivities => "missing `]` after activities"
  | unknownTemplate name => "unknown template `" ++ name ++ "`, skipping constraint"
  | invalidCardinality digits => "invalid cardinality `" ++ digits ++ "`"
  | misplacedCardinality t n =>
    t.name ++ " does not take a cardinality (got " ++ toString n.toNat ++ ")"
  | unexpectedTail tail => "unexpected `" ++ tail ++ "` after activities"
  | tooManyConditions t most got =>
    t.name ++ " takes at most " ++ toString most ++ " conditions but got " ++ toString got

/-- Whether the fault is a reference to something undeclared. -/
def isReference : Fault → Bool
  | undeclared .. => true
  | _ => false

end Fault

/-- A fault and the line of the text that it was found in, counted from one. -/
structure ModelError where
  line : Option Nat
  fault : Fault
deriving Repr, DecidableEq

/-- The description of an error. -/
def ModelError.message (e : ModelError) : String :=
  (e.line.elim "" fun l => "line " ++ toString l ++ ": ") ++ e.fault.message

namespace Model

/-- The declared activity of that name. -/
def activity? (m : Model) (name : String) : Option Activity :=
  m.activities.find? (·.name = name)

/-- Whether an activity is declared. -/
def hasActivity (m : Model) (name : String) : Bool :=
  m.activities.any (·.name = name)

/-- Whether an attribute is bound to some activity. -/
def isBound (m : Model) (attr : String) : Bool :=
  m.activities.any fun a => attr ∈ a.attributes

/-- The domain of an attribute, if it has one. -/
def domain? (m : Model) (attr : String) : Option Domain :=
  (m.domains.find? (·.1 = attr)).map (·.2)

/-- Declares an activity, and says whether it was new. -/
def addActivity (m : Model) (name : String) : Bool × Model :=
  if m.hasActivity name then (false, m)
  else (true, { m with activities := m.activities ++ [{ name }] })

/-- The activities with an attribute appended to those of the first one of that name. -/
def appendAttribute (activity attr : String) : List Activity → List Activity
  | [] => []
  | a :: as =>
    if a.name = activity then { a with attributes := a.attributes ++ [attr] } :: as
    else a :: appendAttribute activity attr as

/-- Binds an attribute to a declared activity, and says whether the binding was new. -/
def bind (m : Model) (activity attr : String) : Except Fault (Bool × Model) :=
  match m.activity? activity with
  | none => .error (.undeclared .activity activity)
  | some a =>
    if attr ∈ a.attributes then .ok (false, m)
    else .ok (true, { m with activities := appendAttribute activity attr m.activities })

/-- The sorted domains with that of one attribute put in or replaced. -/
def insertDomain (attr : String) (d : Domain) : List (String × Domain) → List (String × Domain)
  | [] => [(attr, d)]
  | entry :: entries =>
    if attr < entry.1 then (attr, d) :: entry :: entries
    else if attr = entry.1 then (attr, d) :: entries
    else entry :: insertDomain attr d entries

/-- Gives a bound attribute a domain that reads back, and returns the one it had before. -/
def setDomain (m : Model) (attr : String) (d : Domain) :
    Except Fault (Option Domain × Model) :=
  if !m.isBound attr then .error (.undeclared .attr attr)
  else if !d.readsBack then .error (.unstableDomain d.text attr)
  else .ok (m.domain? attr, { m with domains := insertDomain attr d m.domains })

/-- Appends a well-formed constraint on declared activities. -/
def addConstraint (m : Model) (c : Constraint) : Except Fault Model :=
  match c.fault? with
  | some fault => .error (.constraint fault)
  | none =>
    match c.activities.find? (!m.hasActivity ·) with
    | some a => .error (.undeclared .activity a)
    | none => .ok { m with constraints := m.constraints ++ [c] }

/-- The line that declares an activity. -/
def activityLine (a : Activity) : String :=
  "activity " ++ a.name

/-- The line that binds the attributes of an activity. -/
def bindingLine (a : Activity) : String :=
  "bind " ++ a.name ++ ": " ++ ", ".intercalate a.attributes

/-- The line that gives an attribute its domain. -/
def domainLine (entry : String × Domain) : String :=
  entry.1 ++ ": " ++ entry.2.text

/-- The lines of a model: activities, bindings, domains, constraints. -/
def textLines (m : Model) : List String :=
  m.activities.map activityLine ++
    (m.activities.filter (!·.attributes.isEmpty)).map bindingLine ++
    m.domains.map domainLine ++ m.constraints.map Constraint.text

/-- The written form of a model. -/
def text (m : Model) : String :=
  "\n".intercalate m.textLines

end Model

end Declare
