import Declare.Model.Basic
import Declare.Model.Tolerant

/-!
# Reading models

A model is written line by line. Blank lines and lines that begin with `#` are left out; every other
line is, tried in this order,

* `activity <name>`,
* `bind <activity>: <attribute>, …`,
* `<attribute>, …: <domain>`, if it holds no bracket and no bar,
* `<template><n>[<activity>, …] |<activation> |<correlation> |<time>`, where trailing conditions may
  be missing and unary templates have no correlation condition.

Activities and attributes are declared before they are used. Repeated declarations, misplaced
cardinalities and unknown templates stop a strict reader and are passed over by a lenient one.
-/

namespace Declare

namespace Model

open Text Tolerant

/-- A line in the model language, as it changes the model read so far. -/
abbrev Step := Tolerant Fault Model

/-- Reads an activity declaration. -/
def readActivity (mode : ReadMode) (m : Model) (name : List Char) : Step :=
  if name.isEmpty then stop .missingActivityName
  else
    match m.addActivity (.ofList name) with
    | (true, m') => value m'
    | (false, m') => do
      tolerate mode (.activityTwice (.ofList name))
      value m'

/-- Binds attributes to an activity one after the other. -/
def bindAll (mode : ReadMode) (m : Model) (activity : String) : List (List Char) → Step
  | [] => value m
  | a :: as =>
    if a.isEmpty then stop .emptyAttributeName
    else do
      let (new, m') ← ofExcept (m.bind activity (.ofList a))
      if !new then tolerate mode (.boundTwice (.ofList a) activity)
      bindAll mode m' activity as

/-- Reads a binding. -/
def readBinding (mode : ReadMode) (m : Model) (binding : List Char) : Step :=
  match cut? [':', ' '] binding with
  | none => stop .malformedBinding
  | some (activity, attributes) =>
    m.bindAll mode (.ofList (trim activity)) ((fields ',' attributes).map trim)

/-- Gives attributes a domain one after the other. -/
def setDomains (mode : ReadMode) (m : Model) (d : Domain) : List (List Char) → Step
  | [] => value m
  | a :: as => do
    let (previous, m') ← ofExcept (m.setDomain (.ofList a) d)
    if previous.isSome then tolerate mode (.domainRedefined (.ofList a))
    setDomains mode m' d as

/-- Reads the domain of one or more attributes. -/
def readDomain (mode : ReadMode) (m : Model) (attributes domain : List Char) : Step :=
  match Domain.read domain with
  | .error e => stop (.domain e)
  | .ok d => m.setDomains mode d ((fields ',' attributes).map trim)

/-- Reads the cardinality of a constraint; a template that takes one gets 1 if none is written. -/
def readCardinality (mode : ReadMode) (template : Template) (digits : List Char) :
    Tolerant Fault (Option UInt64) :=
  if digits.isEmpty then value (if template.takesCardinality then some 1 else none)
  else
    match uint64? digits with
    | none => stop (.invalidCardinality (.ofList digits))
    | some n =>
      if template.takesCardinality then value (some n)
      else do
        tolerate mode (.misplacedCardinality template n)
        value none

/-- Reads the conditions after the activities: none, or each after a bar. -/
def readConditions (template : Template) (tail : List Char) : Except Fault (List (List Char)) :=
  match trim tail with
  | [] => .ok []
  | '|' :: rest =>
    let conditions := (fields '|' rest).map trim
    let most := if template.isBinary then 3 else 2
    if conditions.length > most then
      .error (.tooManyConditions template most conditions.length)
    else .ok conditions
  | tail => .error (.unexpectedTail (.ofList tail))

/-- The constraint with conditions in the order in which its template has them. -/
def withReadConditions (c : Constraint) (conditions : List (List Char)) : Constraint :=
  let condition := fun i => String.ofList (conditions.getD i [])
  if c.template.isBinary then
    { c with
      activationCondition := condition 0
      correlationCondition := condition 1
      timeCondition := condition 2 }
  else { c with activationCondition := condition 0, timeCondition := condition 1 }

/-- Reads a constraint, given the texts before and after its opening bracket. A lenient reader skips
a constraint with an unknown template. -/
def readConstraint (mode : ReadMode) (m : Model) (head rest : List Char) : Step :=
  match cut? [']'] rest with
  | none => stop .unclosedActivities
  | some (activities, tail) =>
    let (name, digits) := splitDigits (trim head)
    match Template.ofName? (trim name) with
    | none => do
      tolerate mode (.unknownTemplate (.ofList (trim name)))
      value m
    | some template => do
      let cardinality ← readCardinality mode template digits
      let conditions ← ofExcept (readConditions template tail)
      let activities := (fields ',' activities).map fun a => String.ofList (trim a)
      ofExcept (m.addConstraint
        (withReadConditions { template, activities, cardinality } conditions))

/-- Whether a line may give a domain: constraints hold brackets and bars. -/
def mayBeDomain (line : List Char) : Bool :=
  line.all fun c => c ∉ ['[', ']', '|']

/-- Reads a line that is neither blank nor a comment and that declares and binds nothing. -/
def readOther (mode : ReadMode) (m : Model) (line : List Char) : Step :=
  match if mayBeDomain line then cut? [':', ' '] line else none with
  | some (attributes, domain) => m.readDomain mode attributes domain
  | none =>
    match cut? ['['] line with
    | some (head, rest) => m.readConstraint mode head rest
    | none => stop (.unrecognizedLine (.ofList line))

/-- Reads a line without the blanks around it. -/
def readLine (mode : ReadMode) (m : Model) (line : List Char) : Step :=
  if line.isEmpty || line.head? = some '#' then value m
  else
    match stripPrefix? "activity ".toList line with
    | some name => m.readActivity mode (trim name)
    | none =>
      match stripPrefix? "bind ".toList line with
      | some binding => m.readBinding mode binding
      | none => m.readOther mode line

/-- Reads lines, the first of which has the given number. -/
def readLines (mode : ReadMode) (m : Model) (number : Nat) :
    List (List Char) → Tolerant ModelError Model
  | [] => value m
  | line :: rest => do
    let m' ← (m.readLine mode (trim line)).mapFault fun f => ⟨some number, f⟩
    m'.readLines mode (number + 1) rest

/-- Reads the text of a model. -/
def readText (mode : ReadMode) (text : String) : Tolerant ModelError Model :=
  readLines mode {} 1 (lines text.toList)

/-- The model that a text describes. -/
def read (mode : ReadMode) (text : String) : Except ModelError Model :=
  (readText mode text).outcome

/-- The faults that a reader of that mode passes over. -/
def warnings (mode : ReadMode) (text : String) : List ModelError :=
  (readText mode text).passed

end Model

end Declare
