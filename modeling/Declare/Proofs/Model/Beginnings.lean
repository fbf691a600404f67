import Declare.Proofs.Model.Growth
import Declare.Proofs.Model.Lines
import Declare.Proofs.Text.Pieces

/-!
# What the beginning of a text decides

A reader goes through the lines of a text once, in either mode, and what it has read of some lines
is all that the later ones depend on (`Model.outcome_readLines_append`). So a reader that stops does
so for one line: it reads the lines before that one, and it stops in the same way in every text that
begins with the same lines up to there. A reader that does not stop has read every beginning of the
text, and the model of a beginning only grows while the rest is read (`Model.read_beginnings`).
-/

namespace Declare

namespace Model

open Text Tolerant

variable {mode : ReadMode} {m m' : Model} {number : Nat} {ls more : List (List Char)}

/-- The blanks around lines are not read. -/
theorem readLines_eq_of_map_trim (mode : ReadMode) (m : Model) (number : Nat)
    {ls ls' : List (List Char)} (same : ls.map trim = ls'.map trim) :
    m.readLines mode number ls = m.readLines mode number ls' := by
  induction ls generalizing m number ls' with
  | nil =>
      obtain rfl := List.map_eq_nil_iff.1 same.symm
      rfl
  | cons line ls ih =>
      obtain ⟨line', rest, rfl, first, later⟩ := List.map_eq_cons_iff.1 same.symm
      rw [readLines, readLines, first]
      congr 1
      funext next
      exact ih next (number + 1) later.symm

theorem outcome_readLines_cons (mode : ReadMode) (m : Model) (number : Nat) (line : List Char)
    (ls : List (List Char)) :
    (m.readLines mode number (line :: ls)).outcome =
      ((m.readLine mode (trim line)).outcome.mapError fun f => ⟨some number, f⟩).bind
        fun m' => (m'.readLines mode (number + 1) ls).outcome := by
  rw [readLines, outcome_bind, outcome_mapFault]

/-- Lines are read from the model and with the number that those before them end with. -/
theorem outcome_readLines_append (mode : ReadMode) (m : Model) (number : Nat)
    (ls more : List (List Char)) :
    (m.readLines mode number (ls ++ more)).outcome =
      (m.readLines mode number ls).outcome.bind
        fun m' => (m'.readLines mode (number + ls.length) more).outcome := by
  induction ls generalizing m number with
  | nil => rfl
  | cons line ls ih =>
      rw [List.cons_append, outcome_readLines_cons, outcome_readLines_cons, List.length_cons]
      cases (m.readLine mode (trim line)).outcome with
      | error f => rfl
      | ok next =>
          refine (ih next (number + 1)).trans ?_
          rw [Nat.add_right_comm]
          rfl

/-- A reader stops at one line, whose number is in the error, after it has read those before it. -/
theorem exists_stop {e : ModelError} (stop : (m.readLines mode number ls).outcome = .error e) :
    ∃ i < ls.length, e.line = some (number + i) ∧
      (∃ m', (m.readLines mode number (ls.take i)).outcome = .ok m') ∧
      (m.readLines mode number (ls.take (i + 1))).outcome = .error e := by
  induction ls generalizing m number with
  | nil => cases stop
  | cons line ls ih =>
      rw [outcome_readLines_cons] at stop
      cases read : (m.readLine mode (trim line)).outcome with
      | error f =>
          rw [read] at stop
          obtain rfl := Except.error.inj stop
          refine ⟨0, Nat.zero_lt_succ _, rfl, ⟨m, rfl⟩, ?_⟩
          rw [List.take_succ_cons, outcome_readLines_cons, read]
          rfl
      | ok next =>
          rw [read] at stop
          obtain ⟨i, inside, line_eq, ⟨m', before⟩, here⟩ := ih stop
          refine ⟨i + 1, Nat.succ_lt_succ inside, ?_, ⟨m', ?_⟩, ?_⟩
          · rw [line_eq, Nat.add_right_comm, Nat.add_assoc]
          · rw [List.take_succ_cons, outcome_readLines_cons, read]
            exact before
          · rw [List.take_succ_cons, outcome_readLines_cons, read]
            exact here

/-- What stops a reader stops it whatever comes behind. -/
theorem outcome_readLines_eq_error {e : ModelError} {k : Nat}
    (stop : (m.readLines mode number (ls.take k)).outcome = .error e) :
    (m.readLines mode number ls).outcome = .error e := by
  rw [← List.take_append_drop k ls, outcome_readLines_append, stop]
  rfl

/-- A reader that goes through all lines has read the first ones, and the model of these grows. -/
theorem exists_extends_of_take {k : Nat} (read : (m.readLines mode number ls).outcome = .ok m') :
    ∃ start, (m.readLines mode number (ls.take k)).outcome = .ok start ∧ start.Extends m' := by
  rw [← List.take_append_drop k ls, outcome_readLines_append] at read
  cases first : (m.readLines mode number (ls.take k)).outcome with
  | error e =>
      rw [first] at read
      cases read
  | ok start =>
      rw [first] at read
      obtain ⟨changes, -, rfl⟩ := exists_changes_of_readLines read
      exact ⟨start, rfl, extends_foldl_change start changes⟩

/-- The beginning of a text with that many of its lines. -/
def beginning (k : Nat) (text : String) : String :=
  .ofList (firstLines k text.toList)

theorem read_beginning (mode : ReadMode) (k : Nat) (text : String) :
    read mode (beginning k text) =
      (readLines mode {} 1 ((lines text.toList).take k)).outcome := by
  rw [read, readText, beginning, String.toList_ofList, lines_firstLines]

/-- A reader that stops names the line for which it does: it reads the beginning of the text before
that line, and stops with the same error in every text that begins with the same lines up to it, the
blanks around them apart. A reader that does not stop reads every beginning of the text, and all
activities, attributes and constraints of that beginning come first in the model of the text. -/
theorem read_beginnings (mode : ReadMode) (text : String) :
    (∀ e, read mode text = .error e → ∃ l, e.line = some l ∧ 1 ≤ l ∧
      l ≤ (lines text.toList).length ∧ (∃ m, read mode (beginning (l - 1) text) = .ok m) ∧
      ∀ other : String,
        ((lines other.toList).take l).map trim = ((lines text.toList).take l).map trim →
          read mode other = .error e) ∧
    (∀ m, read mode text = .ok m → ∀ k, ∃ start, read mode (beginning k text) = .ok start ∧
      start.constraints <+: m.constraints ∧
      start.activities.map (·.name) <+: m.activities.map (·.name) ∧
      ∀ name a, start.activity? name = some a →
        ∃ a', m.activity? name = some a' ∧ a.attributes <+: a'.attributes) := by
  constructor
  · intro e stop
    obtain ⟨i, inside, line, before, here⟩ := exists_stop stop
    refine ⟨i + 1, by rw [line, Nat.add_comm], Nat.le_add_left 1 i, inside, ?_, ?_⟩
    · rwa [read_beginning]
    · intro other same
      refine outcome_readLines_eq_error (k := i + 1) ?_
      rwa [readLines_eq_of_map_trim _ _ _ same]
  · intro m all k
    obtain ⟨start, first, grows⟩ := exists_extends_of_take (k := k) all
    refine ⟨start, (read_beginning mode k text).trans first, grows.constraints, grows.names_prefix,
      ?_⟩
    intro name a found
    exact grows.activity? found

end Model

end Declare
