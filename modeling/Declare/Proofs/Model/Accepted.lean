import Declare.Proofs.Model.Legible

/-!
# Constraints that a model accepts

A constraint that a model accepts reads back from its written form behind the declarations of its
activities, unless one of its texts holds a line feed or it is unary and has a correlation condition
(`Model.read_declaredText`). Neither is a fault of a constraint, and neither can be seen in a
constraint that was read: a line has no line feed, and the line of a unary constraint has no place
for a correlation condition.
-/

namespace Declare

open Text

namespace Constraint

/-- The line of a constraint after the lines that declare its activities. -/
def declaredText (c : Constraint) : String :=
  "\n".intercalate (c.activities.map ("activity " ++ ·) ++ [c.text])

/-- The model that has only this constraint and its activities. -/
def alone (c : Constraint) : Model where
  activities := c.activities.map ({ name := · })
  constraints := [c]

instance (c : Constraint) : Decidable c.Shown :=
  decidable_of_iff ((∀ s ∈ c.activities ++ c.conditions, '\n' ∉ s.toList) ∧
      (c.template.isBinary = false → c.correlationCondition = ""))
    ⟨fun ⟨oneLine, unary⟩ => ⟨oneLine, unary⟩, fun ⟨oneLine, unary⟩ => ⟨oneLine, unary⟩⟩

theorem text_alone (c : Constraint) : c.alone.text = c.declaredText := by
  have unbound : (c.activities.map ({ name := · } : String → Activity)).filter
      (!·.attributes.isEmpty) = [] := by
    rw [List.filter_eq_nil_iff]
    intro a mem
    obtain ⟨name, -, rfl⟩ := List.mem_map.1 mem
    exact Bool.false_ne_true
  have lines : c.alone.textLines = c.activities.map ("activity " ++ ·) ++ [c.text] := by
    rw [Model.textLines, alone, unbound]
    simp [Model.activityLine, Function.comp_def]
  rw [Model.text, lines, declaredText]

variable {c : Constraint}

theorem ne_nil_of_fault?_eq_none (h : c.fault? = none) {a : String} (mem : a ∈ c.activities) :
    a.toList ≠ [] := by
  rw [fault?] at h
  split at h
  · cases h
  · split at h
    · cases h
    · next some =>
        intro empty
        apply some
        rw [List.any_eq_true]
        exact ⟨a, mem, by rw [empty]; rfl⟩

private theorem sameActivity?_of_fault?_eq_none (h : c.fault? = none) :
    c.sameActivity? = none := by
  rw [fault?] at h
  split at h
  · cases h
  · split at h
    · cases h
    · simp only [Option.orElse_eq_orElse, Option.orElse_eq_or, Option.or_eq_none_iff] at h
      exact h.2.2.1

theorem nodup_of_fault?_eq_none (h : c.fault? = none) : c.activities.Nodup := by
  have arity := (sound_of_fault?_eq_none h).arity
  have distinct := sameActivity?_of_fault?_eq_none h
  rw [Template.arity] at arity
  rw [sameActivity?] at distinct
  cases binary : c.template.isBinary with
  | false =>
      rw [binary, if_neg Bool.false_ne_true] at arity
      obtain ⟨a, only⟩ := List.length_eq_one_iff.1 arity
      rw [only]
      exact List.nodup_singleton a
  | true =>
      rw [binary, if_pos rfl] at arity
      obtain ⟨a, b, both⟩ := List.length_eq_two.1 arity
      rw [both] at distinct ⊢
      have different : a ≠ b := by
        intro same
        dsimp only at distinct
        rw [if_pos ⟨binary, same⟩] at distinct
        cases distinct
      simpa using different

theorem wellFormed_alone (h : c.fault? = none) : c.alone.WellFormed where
  activities_nodup := by
    rw [alone, List.map_map]
    simpa [Function.comp_def] using nodup_of_fault?_eq_none h
  attributes_nodup := by
    intro a mem
    obtain ⟨name, -, rfl⟩ := List.mem_map.1 mem
    exact .nil
  domains_sorted := .nil
  domains_bound := nofun
  domains_readBack := nofun
  constraints_sound := by
    intro d mem
    rwa [List.mem_singleton.1 mem]
  constraints_declared := by
    intro d mem a used
    rw [List.mem_singleton.1 mem] at used
    rw [Model.hasActivity_iff, alone, List.map_map]
    simpa [Function.comp_def] using used

theorem lineSafe_alone (h : c.fault? = none) (shown : c.Shown) : c.alone.LineSafe where
  activities := by
    intro a mem
    obtain ⟨name, used, rfl⟩ := List.mem_map.1 mem
    have writable := (sound_of_fault?_eq_none h).writable_activities name used
    rw [writableActivity, Bool.and_eq_true, decide_eq_true_eq] at writable
    exact {
      ne := ne_nil_of_fault?_eq_none h used
      trimmed := writable.1
      oneLine := shown.oneLine name (List.mem_append_left _ used) }
  bound := by
    intro a mem some
    obtain ⟨name, -, rfl⟩ := List.mem_map.1 mem
    exact absurd rfl some
  attributes := by
    intro a mem
    obtain ⟨name, -, rfl⟩ := List.mem_map.1 mem
    exact fun _ bound => absurd bound List.not_mem_nil
  keys := fun _ given => absurd given List.not_mem_nil
  domains := fun _ given => absurd given List.not_mem_nil
  constraints := by
    intro d mem
    rw [List.mem_singleton.1 mem]
    exact shown.oneLine
  correlations := by
    intro d mem
    rw [List.mem_singleton.1 mem]
    exact shown.unary

end Constraint

namespace Model

variable {m m' : Model} {c : Constraint}

/-- The constraints of a model that was read are shown whole by their lines. -/
theorem shown_of_read {mode : ReadMode} {text : String} (ok : read mode text = .ok m)
    (mem : c ∈ m.constraints) : c.Shown := by
  obtain ⟨-, legible⟩ := legible_of_read ok
  exact ⟨legible.constraints c mem, legible.correlations c mem⟩

theorem fault?_of_addConstraint (ok : m.addConstraint c = .ok m') : c.fault? = none := by
  rw [addConstraint] at ok
  split at ok
  · cases ok
  · next sound => exact sound

/-- A constraint that a model accepts is the only one that is read from its line, behind the
declarations of its activities, exactly if the line shows it whole. -/
theorem read_declaredText (ok : m.addConstraint c = .ok m') (mode : ReadMode) :
    (∃ r, read mode c.declaredText = .ok r ∧ r.constraints = [c]) ↔ c.Shown := by
  constructor
  · rintro ⟨r, read, only⟩
    apply shown_of_read read
    rw [only]
    exact List.mem_singleton_self c
  · intro shown
    have sound := fault?_of_addConstraint ok
    have text := readText_text (c.wellFormed_alone sound) (c.lineSafe_alone sound shown) mode
    rw [Constraint.text_alone] at text
    refine ⟨c.alone, ?_, rfl⟩
    rw [read, text]
    rfl

/-- A line feed inside a condition is no fault either. -/
example : let c := (Constraint.unary .init "Order").withConditions "A.amount > 2\nor true" "" ""
    c.fault? = none ∧ ¬c.Shown := by decide

/-- Orders and payments, without constraints. -/
def orderActivities : Model where
  activities := [{ name := "Order" }, { name := "Pay" }]

/-- Large orders are paid in their currency and within two hours. -/
def paidOrder : Constraint :=
  (Constraint.binary .response "Order" "Pay").withConditions "A.amount > 2" "same currency" "0,2,h"

theorem read_declaredText_paidOrder :
    orderActivities.addConstraint paidOrder =
        .ok { orderActivities with constraints := [paidOrder] } ∧
      ∃ r, read .strict paidOrder.declaredText = .ok r ∧ r.constraints = [paidOrder] := by
  have ok : orderActivities.addConstraint paidOrder =
      .ok { orderActivities with constraints := [paidOrder] } := rfl
  exact ⟨ok, (read_declaredText ok .strict).2 (by decide)⟩

/-- A correlation condition of a unary constraint is accepted, but no line shows it. -/
def correlatedOrder : Constraint :=
  (Constraint.unary .existence "Order").withConditions "" "T.amount > 2" ""

theorem not_forall_read_declaredText :
    ¬∀ (m m' : Model) (c : Constraint) (mode : ReadMode), m.addConstraint c = .ok m' →
      ∃ r, read mode c.declaredText = .ok r ∧ r.constraints = [c] := by
  intro all
  have ok : orderActivities.addConstraint correlatedOrder =
      .ok { orderActivities with constraints := [correlatedOrder] } := rfl
  obtain ⟨r, read, only⟩ := all _ _ _ .lenient ok
  have mem : correlatedOrder ∈ r.constraints := by
    rw [only]
    exact List.mem_singleton_self _
  have hidden : ¬correlatedOrder.Shown := by decide
  exact hidden (shown_of_read read mem)

end Model

end Declare
