import Declare.Event.Basic

/-!
# Traces and logs

A trace holds the events of one case in order. A log is a list of traces, some of which may be
unreadable: they count as traces but have no events to look at. The activities and attributes of a
log are listed in the order of their code points, each once (`pairwise_sortNames`).
-/

namespace Declare

/-- The sorted list with a name put in its place; a name that is there already is not repeated. -/
def insertName (name : String) : List String → List String
  | [] => [name]
  | n :: names =>
    if name < n then name :: n :: names
    else if name = n then n :: names
    else n :: insertName name names

/-- The names in order, each once. -/
def sortNames (names : List String) : List String :=
  names.foldr insertName []

@[simp] theorem mem_insertName {name n : String} {names : List String} :
    n ∈ insertName name names ↔ n = name ∨ n ∈ names := by
  induction names with
  | nil => simp [insertName]
  | cons m names ih =>
    rw [insertName]
    split
    · simp
    · split
      · next h => subst h; simp
      · simp [ih, or_left_comm]

@[simp] theorem mem_sortNames {n : String} {names : List String} :
    n ∈ sortNames names ↔ n ∈ names := by
  induction names with
  | nil => simp [sortNames]
  | cons m names ih =>
    rw [sortNames, List.foldr_cons, ← sortNames, mem_insertName, ih, List.mem_cons]

theorem pairwise_insertName {name : String} {names : List String}
    (h : names.Pairwise (· < ·)) : (insertName name names).Pairwise (· < ·) := by
  induction names with
  | nil => simp [insertName]
  | cons m names ih =>
    obtain ⟨first, rest⟩ := List.pairwise_cons.1 h
    rw [insertName]
    split
    · next before =>
      refine List.pairwise_cons.2 ⟨fun n mem => ?_, h⟩
      rcases List.mem_cons.1 mem with rfl | mem
      · exact before
      · exact String.lt_trans before (first n mem)
    · split
      · exact h
      · next notBefore differs =>
        refine List.pairwise_cons.2 ⟨fun n mem => ?_, ih rest⟩
        rcases mem_insertName.1 mem with rfl | mem
        · refine String.not_le.1 fun le => ?_
          exact differs (String.le_antisymm le (String.not_lt.1 notBefore))
        · exact first n mem

/-- The names are in order, and none comes twice. -/
theorem pairwise_sortNames (names : List String) : (sortNames names).Pairwise (· < ·) := by
  induction names with
  | nil => exact .nil
  | cons n names ih => exact pairwise_insertName ih

/-- The events of one case. An incomplete trace may still go on. -/
structure Trace where
  attributes : Attributes := []
  events : List Event := []
  complete : Bool := true

/-- The cases of a process; `none` stands for an unreadable trace. -/
structure Log where
  attributes : Attributes := []
  traces : List (Option Trace) := []

/-- The share that `k` is of `total`. -/
def share (k total : Nat) : Float :=
  .ofNat k / .ofNat total

/-- Whether an activity occurs in the trace. -/
def Trace.occurs (t : Trace) (activity : String) : Bool :=
  t.events.any (·.activity = activity)

namespace Log

/-- The number of traces, unreadable ones included. -/
def size (log : Log) : Nat :=
  log.traces.length

/-- The trace at a position, if there is a readable one. -/
def trace? (log : Log) (i : Nat) : Option Trace :=
  log.traces[i]?.join

/-- The readable traces in order. -/
def readable (log : Log) : List Trace :=
  log.traces.filterMap id

/-- The activities that occur in the log, sorted. -/
def activities (log : Log) : List String :=
  sortNames (log.readable.flatMap fun t => t.events.map (·.activity))

/-- The names of the attributes of events in the log, sorted. -/
def attributeNames (log : Log) : List String :=
  sortNames (log.readable.flatMap fun t => t.events.flatMap fun e => e.attributes.map (·.key))

/-- For each readable trace, which of the activities of the log occur in it. -/
def occurrences (log : Log) : List (List Bool) :=
  let activities := log.activities
  log.readable.map fun t => activities.map t.occurs

theorem length_readable_le (log : Log) : log.readable.length ≤ log.size :=
  List.length_filterMap_le ..

end Log

end Declare
