import Declare.Proofs.Check.Counts

/-!
# Verdicts on growing and on completed traces

A verdict on an incomplete trace that is definite stays the verdict, however the trace goes on and
whether it ends there. One that holds so far is settled by the end of the trace in the direction in
which it leans. Templates that count activations owe both to their tallies, the others to the
occurrences that they count.
-/

namespace Declare

namespace Verdict

theorem ofCounts_false_isDefinite_iff {activations violations pendings : Nat}
    {vacuity negative : Bool} :
    (ofCounts activations violations pendings false vacuity negative).isDefinite ↔
      (activations ≠ 0 ∨ vacuity) ∧ 0 < violations := by
  rw [ofCounts]
  split
  · next vacuous =>
      simp only [Bool.and_eq_true, decide_eq_true_eq, Bool.not_eq_true'] at vacuous
      simp [vacuous]
  · next activated =>
      have activated : activations ≠ 0 ∨ vacuity := by
        cases vacuity <;> simp at activated ⊢
        exact activated
      split
      · next violated => exact iff_of_true rfl ⟨activated, violated⟩
      · next harmless => simp [harmless]

/-- With activations, or if none are needed, only violations and pendings matter. -/
theorem ofCounts_of_activated {activations : Nat} {vacuity : Bool}
    (activated : activations ≠ 0 ∨ vacuity) (violations pendings : Nat) (complete negative : Bool) :
    ofCounts activations violations pendings complete vacuity negative =
      if violations > 0 then violated else soFar complete (negative || pendings = 0) := by
  have vacuous : ¬(activations = 0 && !vacuity) := by
    rcases activated with activated | vacuity <;> simp [*]
  rw [ofCounts, if_neg vacuous]

theorem ofCounts_eq_violated {activations violations : Nat} {vacuity : Bool}
    (activated : activations ≠ 0 ∨ vacuity) (h : 0 < violations) (pendings : Nat)
    (complete negative : Bool) :
    ofCounts activations violations pendings complete vacuity negative = violated := by
  rw [ofCounts_of_activated activated, if_pos h]

/-- At the end of a trace, pending activations of a positive template are violations. -/
theorem ofCounts_add_pendings (activations violations pendings : Nat) (vacuity : Bool) :
    ofCounts activations (violations + pendings) 0 true vacuity false =
      ofCounts activations violations pendings true vacuity false := by
  rw [ofCounts, ofCounts]
  split
  · rfl
  · rcases Nat.eq_zero_or_pos pendings with rfl | pending
    · rfl
    · rw [if_pos (by omega)]
      split
      · rfl
      · simp [soFar, Nat.ne_of_gt pending]

end Verdict

namespace Predicates

variable (p : Predicates) (template : Template) (a b : String) (n : Nat) (events more : List Event)

theorem occurrences_le_append : p.occurrences events a ≤ p.occurrences (events ++ more) a := by
  cases events with
  | nil => exact Nat.zero_le _
  | cons first rest =>
      -- the trace keeps its first event, which occurrences are timed against
      change List.countP _ (first :: rest) ≤ List.countP _ (first :: rest ++ more)
      rw [List.countP_append]
      exact Nat.le_add_right _ _

/-- Whether a template has a verdict without counts depends on the template alone. -/
theorem isSome_verdict? (complete : Bool) :
    (p.verdict? template a b n events complete).isSome = !template.countsActivations := by
  cases template <;> first | rfl | (cases events <;> rfl)

/-- Without counts, a definite verdict stays. -/
theorem verdict?_append {v : Verdict} (definite : v.isDefinite) (complete : Bool)
    (h : p.verdict? template a b n events false = some v) :
    p.verdict? template a b n (events ++ more) complete = some v := by
  have countA := p.occurrences_le_append a events more
  have countB := p.occurrences_le_append b events more
  cases template with
  | existence =>
      simp only [verdict?, Option.some.injEq] at h ⊢
      split at h
      · rwa [if_pos (by omega)]
      · simp [← h] at definite
  | absence =>
      simp only [verdict?, Option.some.injEq] at h ⊢
      split at h
      · simp [← h] at definite
      · rwa [if_neg (by omega)]
  | exactly =>
      simp only [verdict?, Option.some.injEq] at h ⊢
      split at h
      · rwa [if_pos (by omega)]
      · simp [← h] at definite
  | init =>
      cases events with
      | nil =>
          simp only [verdict?, Option.some.injEq] at h
          simp [← h] at definite
      | cons first rest => exact h
  | ending =>
      simp only [verdict?, Option.some.injEq] at h
      simp [← h] at definite
  | choice =>
      simp only [verdict?, Bool.or_eq_true, decide_eq_true_eq, Option.some.injEq] at h ⊢
      split at h
      · rwa [if_pos (by omega)]
      · simp [← h] at definite
  | exclusiveChoice =>
      simp only [verdict?, Bool.and_eq_true, decide_eq_true_eq, Option.some.injEq] at h ⊢
      split at h
      · rwa [if_pos (by omega)]
      · simp [← h] at definite
  | _ => cases h

/-- Without counts, the end of a trace settles the verdict. -/
theorem verdict?_completed :
    p.verdict? template a b n events true =
      (p.verdict? template a b n events false).map .completed := by
  cases template with
  | existence | absence | exactly | choice | exclusiveChoice =>
      simp only [verdict?, Option.map_some, Option.some.injEq]
      split
      · rfl
      · first | rfl | exact (Verdict.completed_soFar ..).symm
  | init =>
      cases events with
      | nil => rfl
      | cons first rest =>
          simp only [verdict?, Option.map_some, Option.some.injEq]
          split <;> rfl
  | ending => simp only [verdict?, Option.map_some, Verdict.completed_soFar]
  | _ => rfl

/-- The verdict on a template that counts activations. -/
def countedVerdict (complete vacuity : Bool) : Verdict :=
  ((p.counts template a b events complete).outcome complete vacuity template.isNegative).verdict

theorem countedVerdict_eq (complete vacuity : Bool) :
    p.countedVerdict template a b events complete vacuity =
      let t := p.tally a b events template
      .ofCounts t.activations (if template.isNegative then t.matched else t.unmatched complete)
        (if complete then 0 else t.waiting) complete vacuity template.isNegative := by
  obtain ⟨activations, -, violations, pendings⟩ := p.reports_counts a b events template complete
  simp only [countedVerdict, Counts.outcome, activations, violations, pendings]

theorem countedVerdict_append {vacuity : Bool} (complete : Bool)
    (definite : (p.countedVerdict template a b events false vacuity).isDefinite) :
    p.countedVerdict template a b (events ++ more) complete vacuity =
      p.countedVerdict template a b events false vacuity := by
  rw [countedVerdict_eq] at definite ⊢
  rw [countedVerdict_eq]
  obtain ⟨activated, violated⟩ := Verdict.ofCounts_false_isDefinite_iff.1 definite
  obtain ⟨activations, matched, lapsed⟩ := p.grows_tally_append a b events more template
  have activated' : (p.tally a b (events ++ more) template).activations ≠ 0 ∨ vacuity :=
    activated.imp_left fun h => by omega
  have violated' : 0 < if template.isNegative then (p.tally a b (events ++ more) template).matched
      else (p.tally a b (events ++ more) template).unmatched complete := by
    cases negative : template.isNegative with
    | true =>
        simp only [negative, ↓reduceIte] at violated ⊢
        omega
    | false =>
        -- what has lapsed is all that is unmatched for good while the trace is incomplete
        simp only [negative, Tally.unmatched, Bool.false_eq_true, ↓reduceIte] at violated ⊢
        omega
  rw [Verdict.ofCounts_eq_violated activated violated,
    Verdict.ofCounts_eq_violated activated' violated']

theorem countedVerdict_completed (vacuity : Bool) :
    p.countedVerdict template a b events true vacuity =
      (p.countedVerdict template a b events false vacuity).completed := by
  rw [countedVerdict_eq, countedVerdict_eq, Verdict.completed_ofCounts]
  cases template.isNegative with
  | true => simp [Verdict.ofCounts]
  | false =>
      simp only [Tally.unmatched, Bool.false_eq_true, ↓reduceIte, Nat.add_zero]
      exact Verdict.ofCounts_add_pendings ..

end Predicates

namespace Compiled

variable (c : Compiled)

/-- The verdict is that of the template without counts, if it has one, and else the counted one. -/
theorem exists_verdict_eq :
    ∃ a b n, ∀ events complete vacuity, (c.check events complete vacuity).verdict =
      (c.predicates.verdict? c.constraint.template a b n events complete).getD
        (c.predicates.countedVerdict c.constraint.template a b events complete vacuity) := by
  refine ⟨c.constraint.activities.getD 0 "", c.constraint.activities.getD 1 "",
    c.constraint.cardinality.elim 1 (·.toNat), ?_⟩
  intro events complete vacuity
  rw [check]
  split
  · next h => rw [h]; rfl
  · next h => rw [h]; rfl

/-- A definite verdict on an incomplete trace is final: it is the verdict on every trace that goes
on from there, be that one complete or not. -/
theorem check_append_of_isDefinite (events more : List Event) (vacuity : Bool)
    (definite : (c.check events false vacuity).verdict.isDefinite) (complete : Bool) :
    (c.check (events ++ more) complete vacuity).verdict =
      (c.check events false vacuity).verdict := by
  obtain ⟨a, b, n, verdict_eq⟩ := c.exists_verdict_eq
  rw [verdict_eq] at definite ⊢
  rw [verdict_eq]
  cases h : c.predicates.verdict? c.constraint.template a b n events false with
  | some v =>
      rw [h] at definite
      rw [Predicates.verdict?_append _ _ _ _ _ _ more definite complete h]
      rfl
  | none =>
      have h' : c.predicates.verdict? c.constraint.template a b n (events ++ more) complete =
          none := by
        rw [← Option.not_isSome_iff_eq_none] at h ⊢
        rwa [Predicates.isSome_verdict?] at h ⊢
      rw [h] at definite
      rw [h']
      exact Predicates.countedVerdict_append _ _ _ _ _ more complete definite

/-- A superseded activation violates an alternate succession for good, also if the later activation
is followed by a target. -/
theorem check_append_superseded :
    let c : Compiled := { constraint := .binary .alternateSuccession "A" "B" }
    let events : List Event := [⟨"A", .epoch, []⟩, ⟨"A", .epoch, []⟩]
    (c.check events false false).verdict = .violated ∧
      (c.check (events ++ [⟨"B", .epoch, []⟩]) true false).verdict = .violated := by
  intro c events
  have violated : (c.check events false false).verdict = .violated := by decide
  have final := c.check_append_of_isDefinite events [⟨"B", .epoch, []⟩] false (by decide) true
  exact ⟨violated, final.trans violated⟩

/-- The end of a trace settles the verdict in the direction in which it leaned. -/
theorem check_complete_eq_completed (events : List Event) (vacuity : Bool) :
    (c.check events true vacuity).verdict = (c.check events false vacuity).verdict.completed := by
  obtain ⟨a, b, n, verdict_eq⟩ := c.exists_verdict_eq
  rw [verdict_eq, verdict_eq, Predicates.verdict?_completed, Predicates.countedVerdict_completed]
  cases c.predicates.verdict? c.constraint.template a b n events false <;> rfl

end Compiled

end Declare
