import Declare.Proofs.Check.Conservation

/-!
# Constraints without activations

Whether a constraint without activations is satisfied is a matter of choice. The choice has no
influence on what is counted, and none on the verdict as soon as there is an activation
(`Compiled.check_vacuity`): without activations nothing is violated or pending, so all that the
verdict depends on is the choice.
-/

namespace Declare

namespace Verdict

/-- Activations leave no choice. -/
theorem ofCounts_vacuity {activations : Nat} (activated : activations ≠ 0)
    (violations pendings : Nat) (complete negative : Bool) :
    ofCounts activations violations pendings complete true negative =
      ofCounts activations violations pendings complete false negative := by
  rw [ofCounts_of_activated (.inl activated), ofCounts_of_activated (.inl activated)]

/-- Without activations, the verdict is what was chosen. -/
theorem ofCounts_unactivated (complete vacuity negative : Bool) :
    ofCounts 0 0 0 complete vacuity negative = soFar complete vacuity := by
  cases vacuity with
  | true => simp [ofCounts]
  | false => rfl

end Verdict

/-- The outcomes agree on all that is counted. Their verdicts differ exactly if activations are
counted and there are none; then the first one is as good as it can be at this point of the trace,
and the second one as bad. -/
structure Outcome.DifferByVacuity (o o' : Outcome) (complete : Bool) : Prop where
  activations : o.activations = o'.activations
  fulfillments : o.fulfillments = o'.fulfillments
  violations : o.violations = o'.violations
  pendings : o.pendings = o'.pendings
  differ_iff : o.verdict ≠ o'.verdict ↔ o.activations = some 0
  unactivated : o.activations = some 0 →
    o.verdict = (if complete then .satisfied else .possiblySatisfied) ∧
      o'.verdict = (if complete then .violated else .possiblyViolated)

namespace Counts

/-- Without activations nothing is violated or pending. -/
theorem Reports.unactivated {c : Counts} {t : Tally} {complete negative : Bool}
    (h : c.Reports t complete negative) (sound : t.Sound) (none_activated : c.activations = 0) :
    c.violations = 0 ∧ c.pendings.getD 0 = 0 := by
  have conserved := h.conserves sound
  omega

theorem outcome_differ {c : Counts}
    (unactivated : c.activations = 0 → c.violations = 0 ∧ c.pendings.getD 0 = 0)
    (complete negative : Bool) :
    (c.outcome complete true negative).DifferByVacuity (c.outcome complete false negative)
      complete := by
  by_cases activated : c.activations = 0
  · obtain ⟨unviolated, unpending⟩ := unactivated activated
    have verdict (vacuity : Bool) : (c.outcome complete vacuity negative).verdict =
        .soFar complete vacuity := by
      simp only [outcome, activated, unviolated, unpending, Verdict.ofCounts_unactivated]
    refine ⟨rfl, rfl, rfl, rfl, ?_, ?_⟩
    · rw [verdict, verdict]
      refine iff_of_true ?_ (congrArg some activated)
      cases complete <;> decide
    · intro _
      rw [verdict, verdict]
      cases complete <;> exact ⟨rfl, rfl⟩
  · have counted : (c.outcome complete true negative).activations ≠ some 0 :=
      fun none_counted => activated (Option.some.inj none_counted)
    refine ⟨rfl, rfl, rfl, rfl, ?_, fun none_counted => absurd none_counted counted⟩
    exact iff_of_false (not_not_intro (Verdict.ofCounts_vacuity activated _ _ _ _)) counted

end Counts

namespace Compiled

variable (c : Compiled) (events : List Event) (complete : Bool)

/-- Templates that count no activations have no use for the choice. -/
theorem check_of_not_countsActivations
    (uncounted : c.constraint.template.countsActivations = false) :
    c.check events complete true = c.check events complete false ∧
      (c.check events complete true).activations = none := by
  have has := c.predicates.isSome_verdict? c.constraint.template
    (c.constraint.activities.getD 0 "") (c.constraint.activities.getD 1 "")
    (c.constraint.cardinality.elim 1 (·.toNat)) events complete
  rw [uncounted] at has
  obtain ⟨verdict, found⟩ := Option.isSome_iff_exists.1 has
  rw [check, check, found]
  exact ⟨rfl, rfl⟩

/-- Whether constraints without activations are satisfied changes the verdict on a trace exactly if
the constraint counts activations and there are none, and it never changes the counts. -/
theorem check_vacuity :
    (c.check events complete true).DifferByVacuity (c.check events complete false) complete := by
  cases counting : c.constraint.template.countsActivations with
  | false =>
      obtain ⟨same, uncounted⟩ := c.check_of_not_countsActivations events complete counting
      rw [← same]
      refine ⟨rfl, rfl, rfl, rfl, ?_, ?_⟩
      · exact iff_of_false (not_not_intro rfl) (by rw [uncounted]; nofun)
      · rw [uncounted]
        nofun
  | true =>
      rw [(c.check_eq_outcome events complete true counting).1,
        (c.check_eq_outcome events complete false counting).1]
      apply Counts.outcome_differ
      exact (Predicates.reports_counts ..).unactivated (Predicates.sound_tally ..)

/-- A case without a payment, while it may go on and when it has ended. -/
example :
    let c : Compiled := { constraint := .binary .notSuccession "Pay" "Ship" }
    let verdict := fun complete vacuity =>
      (c.check [⟨"Order", .epoch, []⟩] complete vacuity).verdict
    verdict false true = .possiblySatisfied ∧ verdict false false = .possiblyViolated ∧
      verdict true true = .satisfied ∧ verdict true false = .violated := by
  decide

end Compiled

end Declare
