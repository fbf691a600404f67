import Declare.Proofs.Json.Report
import Declare.Report.Analysis

/-!
# Queries of a report

A metric of a constraint on a trace is found alone, in the row of the trace, in the column of the
constraint and in the matrix of all of them. Row, matrix and the query of one cell go by the cells
of the report. The column goes by its labels as well: there is none for a constraint without a
label. So all queries agree on constraints with a label, and beyond the labels as long as there is
no cell to be found (`Report.agreesAt_iff`). The cells of an analysis all stand under a label; those
of a report that was read from elsewhere need not.
-/

namespace Declare

theorem mapM_eq_none {α β : Type} {f : α → Option β} {as : List α} {a : α} (mem : a ∈ as)
    (missing : f a = none) : as.mapM f = none := by
  induction as with
  | nil => cases mem
  | cons b as ih =>
      rw [List.mapM_cons]
      rcases List.mem_cons.1 mem with rfl | mem
      · rw [missing]
        rfl
      · rw [ih mem]
        cases f b <;> rfl

namespace Report

variable (r : Report) (m : Metric) (t c : Nat)

/-- The entry at a position of a row or column that may be missing; a missing entry is none. -/
def entryAt (entries : Option (List (Option Nat))) (i : Nat) : Option Nat :=
  entries.bind (·[i]?.join)

theorem getElem?_rowMetrics (row : List (Option Outcome)) :
    (rowMetrics m row)[c]?.join = row[c]?.join.bind fun o => m.of o := by
  rw [rowMetrics, List.getElem?_map]
  cases row[c]? <;> rfl

theorem entryAt_traceMetrics? : entryAt (r.traceMetrics? m t) c = r.metric? m t c := by
  rw [entryAt, traceMetrics?, metric?, outcome?, Option.bind_map, Option.bind_assoc]
  congr 1
  funext row
  exact getElem?_rowMetrics m c row

/-- The matrix holds the rows of the traces. -/
theorem getElem?_metrics : (r.metrics m)[t]? = r.traceMetrics? m t := by
  rw [metrics, List.getElem?_map, traceMetrics?]

theorem entryAt_constraintMetrics? :
    entryAt (r.constraintMetrics? m c) t =
      if c < r.constraintCount then r.metric? m t c else none := by
  rw [constraintMetrics?]
  split
  · rw [entryAt, Option.bind_some, List.getElem?_map]
    by_cases inside : t < r.traceCount
    · rw [List.getElem?_range inside]
      rfl
    · have outside : r.rows[t]? = none := List.getElem?_eq_none (Nat.not_lt.1 inside)
      rw [List.getElem?_eq_none (by simpa using Nat.not_lt.1 inside), metric?, outcome?, outside]
      rfl
  · rfl

variable {r t c}

theorem traceMetrics?_eq_none (beyond : r.traceCount ≤ t) : r.traceMetrics? m t = none := by
  rw [traceMetrics?, List.getElem?_eq_none beyond]
  rfl

theorem outcome?_eq_none (beyond : r.traceCount ≤ t) : r.outcome? t c = none := by
  rw [outcome?, List.getElem?_eq_none beyond]
  rfl

variable {m}

theorem metric?_eq_none (empty : r.outcome? t c = none) : r.metric? m t c = none := by
  rw [metric?, empty]
  rfl

theorem constraintMetrics?_eq_none (beyond : r.constraintCount ≤ c) :
    r.constraintMetrics? m c = none :=
  if_neg (Nat.not_lt.2 beyond)

/-- A constraint has no support if it has no cell in some row. -/
theorem support?_eq_none {row : List (Option Outcome)} (mem : row ∈ r.rows)
    (empty : row[c]?.join = none) : r.support? c = none := by
  rw [support?, mapM_eq_none mem empty]

theorem exists_outcome?_eq {row : List (Option Outcome)} (mem : row ∈ r.rows) :
    ∃ t, ∀ c, r.outcome? t c = row[c]?.join := by
  obtain ⟨t, here⟩ := List.mem_iff_getElem?.1 mem
  refine ⟨t, fun c => ?_⟩
  rw [outcome?, here]
  rfl

/-- All queries that can tell something of a constraint on a trace tell the same, and nothing if one
of the two is not counted. -/
structure AgreesAt (r : Report) (t c : Nat) : Prop where
  row : ∀ m, entryAt (r.traceMetrics? m t) c = r.metric? m t c
  column : ∀ m, entryAt (r.constraintMetrics? m c) t = r.metric? m t c
  matrix : ∀ m, entryAt (r.metrics m)[t]? c = r.metric? m t c
  outside : r.traceCount ≤ t ∨ r.constraintCount ≤ c →
    r.outcome? t c = none ∧ ∀ m, r.metric? m t c = none
  beyondTraces : r.traceCount ≤ t → ∀ m, r.traceMetrics? m t = none ∧ (r.metrics m)[t]? = none
  beyondConstraints : r.constraintCount ≤ c →
    r.support? c = none ∧ ∀ m, r.constraintMetrics? m c = none

theorem agreesAt_iff :
    r.AgreesAt t c ↔
      c < r.constraintCount ∨ r.outcome? t c = none ∧ r.support? c = none := by
  constructor
  · intro agrees
    rcases Nat.lt_or_ge c r.constraintCount with labelled | beyond
    · exact .inl labelled
    · exact .inr ⟨(agrees.outside (.inr beyond)).1, (agrees.beyondConstraints beyond).1⟩
  · intro found
    have empty (outside : r.traceCount ≤ t ∨ r.constraintCount ≤ c) : r.outcome? t c = none := by
      rcases outside with beyond | beyond
      · exact outcome?_eq_none beyond
      · exact (found.resolve_left (Nat.not_lt.2 beyond)).1
    refine {
      row := fun m => entryAt_traceMetrics? r m t c
      column := fun m => ?_
      matrix := fun m => ?_
      outside := fun outside => ⟨empty outside, fun m => metric?_eq_none (empty outside)⟩
      beyondTraces := fun beyond m => ?_
      beyondConstraints := fun beyond => ⟨?_, fun m => constraintMetrics?_eq_none beyond⟩ }
    · rw [entryAt_constraintMetrics?]
      split
      · rfl
      · next unlabelled => exact (metric?_eq_none (empty (.inr (Nat.not_lt.1 unlabelled)))).symm
    · rw [getElem?_metrics, entryAt_traceMetrics?]
    · rw [getElem?_metrics]
      exact ⟨traceMetrics?_eq_none m beyond, traceMetrics?_eq_none m beyond⟩
    · exact (found.resolve_left (Nat.not_lt.2 beyond)).2

/-- Every cell that is not empty stands under a label. -/
def Labelled (r : Report) : Prop :=
  ∀ row ∈ r.rows, ∀ c, r.constraintCount ≤ c → row[c]?.join = none

theorem Labelled.outcome?_eq_none (labelled : r.Labelled) (beyond : r.constraintCount ≤ c) :
    r.outcome? t c = none := by
  rw [outcome?]
  cases here : r.rows[t]? with
  | none => rfl
  | some row => exact labelled row (List.mem_of_getElem? here) c beyond

/-- Beyond the labels, the first row has no cell, or there is no row at all. -/
theorem Labelled.support?_eq_none (labelled : r.Labelled) (beyond : r.constraintCount ≤ c) :
    r.support? c = none := by
  cases rows : r.rows with
  | nil =>
      rw [support?, rows]
      rfl
  | cons row rest =>
      have mem : row ∈ r.rows := by
        rw [rows]
        exact List.mem_cons_self
      exact Report.support?_eq_none mem (labelled row mem c beyond)

theorem forall_agreesAt_iff : (∀ t c, r.AgreesAt t c) ↔ r.Labelled := by
  constructor
  · intro agrees row mem c beyond
    obtain ⟨t, here⟩ := exists_outcome?_eq mem
    rw [← here]
    exact ((agrees t c).outside (.inr beyond)).1
  · intro labelled t c
    rw [agreesAt_iff]
    exact (Nat.lt_or_ge c r.constraintCount).imp_right fun beyond =>
      ⟨labelled.outcome?_eq_none beyond, labelled.support?_eq_none beyond⟩

/-- The rows of an analysis have a cell for each label. -/
theorem labelled_ofLog (log : Log) (model : Model) (vacuity : Bool) :
    (ofLog log model vacuity).Labelled := by
  intro row mem c beyond
  obtain ⟨trace, -, rfl⟩ := List.mem_map.1 mem
  rw [List.getElem?_eq_none]
  · rfl
  · simpa [checkRow, Model.compile, constraintCount, ofLog] using beyond

/-- The queries agree on every constraint that is counted. Beyond those they agree exactly where the
report has neither a cell nor a support, so they agree throughout exactly if every cell that is not
empty stands under a label. That is so in every report of an analysis. -/
theorem queries_agree_iff (r : Report) :
    (∀ t c, r.AgreesAt t c ↔
        c < r.constraintCount ∨ r.outcome? t c = none ∧ r.support? c = none) ∧
      ((∀ t c, r.AgreesAt t c) ↔ r.Labelled) ∧
      ∀ log model o, analyze log model o = .ok r → ∀ t c, r.AgreesAt t c := by
  refine ⟨fun t c => agreesAt_iff, forall_agreesAt_iff, ?_⟩
  intro log model o analyzed
  rw [forall_agreesAt_iff]
  cases log with
  | none => cases analyzed
  | some log =>
      cases model with
      | none => cases analyzed
      | some model =>
          obtain rfl := Except.ok.inj analyzed
          exact labelled_ofLog log model o.vacuity

/-- A row with a cell and no label. -/
def unlabelled : Report where
  labels := []
  rows := [[some { verdict := .satisfied }]]

/-- A report without constraints is read that has a support for its first one. -/
theorem not_forall_queries_agree :
    ¬∀ (text : String) (r : Report), read? text = some r → ∀ t c, r.AgreesAt t c := by
  intro all
  have fits : unlabelled.Fits := by decide
  have back : read? unlabelled.write = some unlabelled := by
    rw [read?, write, Json.read?_write (isExact_toJson fits), Option.bind_some,
      ofJson?_toJson fits]
  have labelled := forall_agreesAt_iff.1 (all _ _ back)
  have empty := labelled _ List.mem_cons_self 0 (Nat.le_refl 0)
  cases empty

end Report

end Declare
