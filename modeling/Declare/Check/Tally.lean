import Declare.Model.Template

/-!
# Counting matched activations

A constraint that relates two activities gives events of a trace roles: some activate it, some are
targets, and a target may match an activation. A scan of the trace counts the activations and those
of them that are matched by a target in the place that the relation of the template names.

Relations that look forward keep the activations that wait for a target; those that look back keep
the targets seen so far. What still waits at the end of a trace can be matched by later events.
-/

namespace Declare

/-- The roles of events for a constraint. -/
structure Roles (α : Type) where
  activates : α → Bool
  isTarget : α → Bool
  /-- Whether a target matches an activation. -/
  correlates : (activation target : α) → Bool

/-- The number of activations, of those that are matched, and of those that may yet be. -/
structure Tally where
  activations : Nat := 0
  matched : Nat := 0
  waiting : Nat := 0
deriving Repr, DecidableEq

/-- A scan that looks forward: activations and matches so far, and the activations that wait for a
target. -/
structure Forward (α : Type) where
  activations : Nat := 0
  matched : Nat := 0
  waiting : List α := []

/-- A scan that looks back: activations and matches so far, and the events that can match the next
activation. -/
structure Backward (α : Type) where
  activations : Nat := 0
  matched : Nat := 0
  known : List α := []

variable {α : Type}

namespace Forward

/-- The counts of a scan. -/
def tally (s : Forward α) : Tally where
  activations := s.activations
  matched := s.matched
  waiting := s.waiting.length

/-- A target matches all waiting activations that it correlates with. -/
def discharge (r : Roles α) (s : Forward α) (target : α) : Forward α :=
  { s with
    matched := s.matched + s.waiting.countP fun e => r.correlates e target
    waiting := s.waiting.filter fun e => !r.correlates e target }

/-- An activation starts to wait. -/
def activate (s : Forward α) (e : α) : Forward α :=
  { s with activations := s.activations + 1, waiting := e :: s.waiting }

/-- An activation takes the place of the one that waited before it. -/
def supersede (s : Forward α) (e : α) : Forward α :=
  { s with activations := s.activations + 1, waiting := [e] }

/-- Nothing waits any longer. -/
def expire (s : Forward α) : Forward α :=
  { s with waiting := [] }

/-- A step of a scan in which all activations before a target are matched by it. -/
def later (r : Roles α) (s : Forward α) (e : α) : Forward α :=
  if r.activates e then s.activate e else if r.isTarget e then s.discharge r e else s

/-- A step of a scan in which only the last activation before a target is matched by it. -/
def beforeNext (r : Roles α) (s : Forward α) (e : α) : Forward α :=
  if r.activates e then s.supersede e else if r.isTarget e then s.discharge r e else s

/-- A step of a scan in which an activation waits for the next event only. -/
def next (r : Roles α) (s : Forward α) (e : α) : Forward α :=
  let s := (if r.isTarget e then s.discharge r e else s).expire
  if r.activates e then s.activate e else s

/-- A scan in which targets match activations before and after them. -/
def anywhere (r : Roles α) (events : List α) : Forward α :=
  let activations := events.filter r.activates
  (events.filter r.isTarget).foldl (discharge r)
    { activations := activations.length, waiting := activations }

end Forward

namespace Backward

/-- The counts of a scan. Activations do not wait for what comes after them. -/
def tally (s : Backward α) : Tally where
  activations := s.activations
  matched := s.matched

/-- An activation is matched if it correlates with one of the known events. -/
def activate (r : Roles α) (s : Backward α) (e : α) : Backward α :=
  { s with
    activations := s.activations + 1
    matched := if s.known.any (r.correlates e) then s.matched + 1 else s.matched }

/-- An event becomes known. -/
def learn (s : Backward α) (e : α) : Backward α :=
  { s with known := e :: s.known }

/-- Nothing is known any longer. -/
def forget (s : Backward α) : Backward α :=
  { s with known := [] }

/-- A step of a scan in which activations are matched by any target before them. -/
def earlier (r : Roles α) (s : Backward α) (e : α) : Backward α :=
  if r.isTarget e then s.learn e else if r.activates e then s.activate r e else s

/-- A step of a scan in which activations are matched by targets after the previous activation. -/
def sincePrevious (r : Roles α) (s : Backward α) (e : α) : Backward α :=
  if r.isTarget e then s.learn e
  else if r.activates e then (s.activate r e).forget
  else s

/-- A step of a scan in which activations are matched by the event before them. -/
def previous (r : Roles α) (s : Backward α) (e : α) : Backward α :=
  let s := (if r.activates e then s.activate r e else s).forget
  if r.isTarget e then s.learn e else s

end Backward

namespace Relation

/-- Whether targets are looked for before the activation only. -/
def looksBack : Relation → Bool
  | earlier | sincePrevious | previous => true
  | anywhere | later | beforeNext | next => false

/-- The counts of the events of a trace. -/
def tally (relation : Relation) (r : Roles α) (events : List α) : Tally :=
  match relation with
  | anywhere => (Forward.anywhere r events).tally
  | later => (events.foldl (Forward.later r) {}).tally
  | beforeNext => (events.foldl (Forward.beforeNext r) {}).tally
  | next => (events.foldl (Forward.next r) {}).tally
  | earlier => (events.foldl (Backward.earlier r) {}).tally
  | sincePrevious => (events.foldl (Backward.sincePrevious r) {}).tally
  | previous => (events.foldl (Backward.previous r) {}).tally

end Relation

end Declare
