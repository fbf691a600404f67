import Declare.Proofs.Discovery.Answers
import Declare.Proofs.Discovery.Discover
import Declare.Proofs.Report.Queries

/-!
# Support in reports and in discovery

The support of a constraint is found in two ways: from its column in the report on a log, and by
scanning the readable traces of the log. If all traces are readable, both count the same traces
among the same number of traces, so a threshold is reached by one exactly if it is by the other. An
unreadable trace is a trace that does not satisfy the constraint to the scan. To the report it is an
empty cell, and a column with an empty cell has no support at all
(`analyze_support_agrees_iff`).
-/

namespace Declare

/-- The cell of a constraint in the row of a trace. -/
theorem getElem?_checkRow {compiled : List (Option Compiled)} {i : Nat} {c : Compiled}
    (at_i : compiled[i]? = some (some c)) (vacuity : Bool) (trace : Option Trace) :
    (checkRow compiled vacuity trace)[i]?.join = trace.map (c.checkTrace · vacuity) := by
  rw [checkRow, List.getElem?_map, at_i]
  rfl

theorem mapM_map_of_isSome {α β : Type} (f : α → β) {cells : List (Option α)}
    (h : ∀ cell ∈ cells, cell.isSome) :
    (cells.mapM fun cell => cell.map f) = some ((cells.filterMap id).map f) := by
  induction cells with
  | nil => rfl
  | cons cell cells ih =>
      obtain ⟨here, rest⟩ := List.forall_mem_cons.1 h
      obtain ⟨a, rfl⟩ := Option.isSome_iff_exists.1 here
      rw [List.mapM_cons, ih rest]
      rfl

namespace Report

theorem support?_eq_share {r : Report} {i : Nat} {outcomes : List Outcome}
    (column : (r.rows.mapM fun row => row[i]?.join) = some outcomes) (nonempty : outcomes ≠ []) :
    r.support? i = some (share (outcomes.countP (·.verdict = .satisfied)) outcomes.length) := by
  rw [support?, column]
  cases outcomes with
  | nil => exact absurd rfl nonempty
  | cons => rfl

variable {log : Log} {m : Model} {i : Nat} {c : Compiled}

theorem mapM_rows_ofLog (compiled : m.compile[i]? = some (some c)) (vacuity : Bool) :
    ((ofLog log m vacuity).rows.mapM fun row => row[i]?.join) =
      log.traces.mapM fun trace => trace.map (c.checkTrace · vacuity) := by
  rw [ofLog, List.mapM_map]
  congr 1
  funext trace
  exact getElem?_checkRow compiled vacuity trace

/-- On readable traces the support is the share of those that satisfy the constraint. -/
theorem support?_ofLog (compiled : m.compile[i]? = some (some c)) (vacuity : Bool)
    (readable : ∀ t ∈ log.traces, t.isSome) (nonempty : log.size ≠ 0) :
    (ofLog log m vacuity).support? i =
      some (share (log.readable.countP (c.isSatisfied vacuity)) log.size) := by
  have length := Log.length_readable readable
  have column := mapM_map_of_isSome (c.checkTrace · vacuity) readable
  rw [← mapM_rows_ofLog compiled, ← Log.readable] at column
  have ne : log.readable.map (c.checkTrace · vacuity) ≠ [] := by
    rw [List.ne_nil_iff_length_pos, List.length_map, length]
    exact Nat.pos_of_ne_zero nonempty
  rw [support?_eq_share column ne, List.countP_map, List.length_map, length]
  rfl

/-- An unreadable trace takes its support from every constraint. -/
theorem support?_ofLog_of_unreadable (compiled : m.compile[i]? = some (some c)) (vacuity : Bool)
    (unreadable : none ∈ log.traces) : (ofLog log m vacuity).support? i = none := by
  rw [support?, mapM_rows_ofLog compiled, mapM_eq_none unreadable rfl]

theorem support?_ofLog_of_empty (compiled : m.compile[i]? = some (some c)) (vacuity : Bool)
    (empty : log.size = 0) : (ofLog log m vacuity).support? i = none := by
  rw [support?, mapM_rows_ofLog compiled, List.length_eq_zero_iff.1 empty]
  rfl

end Report

section

variable {log : Log} {m : Model} {i : Nat} {c : Compiled}

/-- If all traces are readable, the scan finds enough of them exactly if the support in the report
reaches the threshold. -/
theorem Compiled.isSupported_iff_support? (size : log.size < UInt64.size)
    (compiled : m.compile[i]? = some (some c)) (vacuity : Bool) (s : Float)
    (readable : ∀ t ∈ log.traces, t.isSome) :
    c.isSupported log vacuity s ↔
      ∃ x, (Report.ofLog log m vacuity).support? i = some x ∧ s ≤ x := by
  rw [isSupported_eq _ _ _ size, Bool.and_eq_true, bne_iff_ne]
  by_cases empty : log.size = 0
  · rw [Report.support?_ofLog_of_empty compiled vacuity empty]
    exact iff_of_false (fun h => h.1 empty) nofun
  · rw [Report.support?_ofLog compiled vacuity readable empty, reaches, decide_eq_true_iff]
    constructor
    · rintro ⟨-, enough⟩
      exact ⟨_, rfl, enough⟩
    · rintro ⟨x, found, enough⟩
      rw [← Option.some.inj found] at enough
      exact ⟨empty, enough⟩

/-- The scan of a log and the report on it agree on whether a constraint is supported, unless some
trace is unreadable and the others are enough for the scan. -/
theorem analyze_support_agrees_iff (o : CheckingOptions) (s : Float)
    (size : log.size < UInt64.size) (compiled : m.compile[i]? = some (some c)) :
    ∃ r, analyze (some log) (some m) o = .ok r ∧
      ((c.isSupported log o.vacuity s ↔ ∃ x, r.support? i = some x ∧ s ≤ x) ↔
        (∀ t ∈ log.traces, t.isSome) ∨ c.isSupported log o.vacuity s = false) := by
  refine ⟨_, rfl, ?_⟩
  by_cases readable : ∀ t ∈ log.traces, t.isSome
  · exact iff_of_true (Compiled.isSupported_iff_support? size compiled o.vacuity s readable)
      (.inl readable)
  · have unreadable : none ∈ log.traces := by simpa using readable
    have no_support : ¬∃ x, (Report.ofLog log m o.vacuity).support? i = some x ∧ s ≤ x := by
      rw [Report.support?_ofLog_of_unreadable compiled o.vacuity unreadable]
      nofun
    rw [iff_false_right no_support, or_iff_right readable, Bool.not_eq_true]

end

/-- A constraint without conditions is checked as it is tried in discovery. -/
theorem Constraint.compile_of_unconditioned {c : Constraint} (h : c.withConditions "" "" "" = c)
    (catalog : Catalog) : c.compile catalog = .ok { constraint := c } := by
  rw [← h]
  exact compile_eq_ok (Condition.read_empty _ _) (Condition.read_empty _ _) rfl

/-- Each case starts with an order. -/
def orderFirst : Model where
  activities := [{ name := "Order" }]
  constraints := [.unary .init "Order"]

theorem compile_orderFirst :
    orderFirst.compile[0]? = some (some { constraint := .unary .init "Order" }) := by
  rw [Model.compile, orderFirst, List.map_singleton, Constraint.compile_of_unconditioned rfl]
  rfl

/-- All cases are read, and all start with an order. -/
theorem analyze_support_agrees_orderFirst :
    orderLog.size < UInt64.size ∧
      ∃ r, analyze (some orderLog) (some orderFirst) {} = .ok r ∧
        ((({ constraint := .unary .init "Order" } : Compiled).isSupported orderLog false 1 ↔
            ∃ x, r.support? 0 = some x ∧ 1 ≤ x) ↔
          (∀ t ∈ orderLog.traces, t.isSome) ∨
            ({ constraint := .unary .init "Order" } : Compiled).isSupported orderLog false 1 =
              false) :=
  ⟨by decide, analyze_support_agrees_iff {} 1 (by decide) compile_orderFirst⟩

/-- A case with an order, and one that cannot be read. -/
def halfReadLog : Log where
  traces := [some { events := [⟨"Order", .epoch, []⟩] }, none]

/-- Half of the traces are enough for the scan, but the report has no support. -/
theorem not_forall_analyze_support_agrees :
    ¬∀ (log : Log) (m : Model) (i : Nat) (c : Compiled) (o : CheckingOptions) (s : Float),
      log.size < UInt64.size → m.compile[i]? = some (some c) →
        ∃ r, analyze (some log) (some m) o = .ok r ∧
          (c.isSupported log o.vacuity s ↔ ∃ x, r.support? i = some x ∧ s ≤ x) := by
  intro all
  obtain ⟨r, analyzed, agrees⟩ :=
    all halfReadLog orderFirst 0 _ {} 0.5 (by decide) compile_orderFirst
  obtain rfl : Report.ofLog halfReadLog orderFirst false = r := Except.ok.inj analyzed
  obtain ⟨x, found, -⟩ := agrees.1 (by decide)
  have unreadable : none ∈ halfReadLog.traces := by simp [halfReadLog]
  rw [Report.support?_ofLog_of_unreadable compile_orderFirst false unreadable] at found
  cases found

end Declare
