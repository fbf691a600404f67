import Declare.Proofs.Check.Conservation
import Declare.Proofs.Check.Families

/-!
# Derived templates as conjunctions

A derived template is the conjunction of two others. Its verdict is read off the sums of their
counts and not off their verdicts, but this loses nothing: it is the worse of the two verdicts
(`Verdict.ofCounts_add`), unless one of them is due to the lack of activations. The counts of the
components are those of their own checks (`Predicates.check_derived`).
-/

namespace Declare

namespace Verdict

/-- How good a verdict is. -/
def rank : Verdict → Nat
  | violated => 0
  | possiblyViolated => 1
  | possiblySatisfied => 2
  | satisfied => 3

/-- The verdict on two constraints together. -/
def worse (v w : Verdict) : Verdict :=
  if v.rank ≤ w.rank then v else w

/-- The verdict is one of the verdicts, and none of them is worse. -/
def IsWorst (v : Verdict) (vs : List Verdict) : Prop :=
  v ∈ vs ∧ ∀ w ∈ vs, v.rank ≤ w.rank

theorem isWorst_worse (v w : Verdict) : (v.worse w).IsWorst [v, w] := by
  rw [worse]
  split
  · next le => exact ⟨List.mem_cons_self, by simpa using le⟩
  · next gt => exact ⟨by simp, by simpa using Nat.le_of_not_le gt⟩

@[simp] theorem worse_self (v : Verdict) : v.worse v = v :=
  if_pos (Nat.le_refl _)

theorem worse_soFar (complete holds holds' : Bool) :
    (soFar complete holds).worse (soFar complete holds') = soFar complete (holds && holds') := by
  cases complete <;> cases holds <;> cases holds' <;> rfl

theorem violated_worse (v : Verdict) : violated.worse v = violated :=
  if_pos (Nat.zero_le _)

theorem worse_violated (v : Verdict) : v.worse violated = violated := by
  cases v <;> rfl

/-- Sums of counts have the worse of the two verdicts. -/
theorem ofCounts_add {activations activations' : Nat} {vacuity : Bool}
    (first : activations ≠ 0 ∨ vacuity) (second : activations' ≠ 0 ∨ vacuity)
    (violations violations' pendings pendings' : Nat) (complete negative : Bool) :
    ofCounts (activations + activations') (violations + violations') (pendings + pendings')
        complete vacuity negative =
      (ofCounts activations violations pendings complete vacuity negative).worse
        (ofCounts activations' violations' pendings' complete vacuity negative) := by
  have both : activations + activations' ≠ 0 ∨ vacuity := first.imp_left (by omega)
  rw [ofCounts_of_activated first, ofCounts_of_activated second, ofCounts_of_activated both]
  -- a violation on either side decides; without one, nothing is pending if nothing is on both sides
  rcases Nat.eq_zero_or_pos violations with rfl | violation
  · rcases Nat.eq_zero_or_pos violations' with rfl | violation'
    · have none_pending : (negative || decide (pendings + pendings' = 0)) =
          ((negative || decide (pendings = 0)) && (negative || decide (pendings' = 0))) := by
        cases negative <;> simp
      simp only [Nat.add_zero, Nat.lt_irrefl, gt_iff_lt, ↓reduceIte, worse_soFar, none_pending]
    · rw [if_pos (by omega), if_pos violation', worse_violated]
  · rw [if_pos (by omega), if_pos violation, violated_worse]

end Verdict

namespace Template

theorem exists_components {t : Template} (h : t.isDerived) :
    ∃ first second, t.components = [first, second] := by
  cases t <;> first | exact ⟨_, _, rfl⟩ | cases h

theorem countsActivations_of_isDerived {t : Template} (h : t.isDerived) : t.countsActivations := by
  rw [countsActivations, h]
  exact Bool.or_true _

variable {t : Template} {first second : Template × Bool}

theorem isDerived_of_components (pair : t.components = [first, second]) : t.isDerived := by
  rw [isDerived, pair]
  rfl

theorem mem_components (pair : t.components = [first, second]) :
    first ∈ t.components ∧ second ∈ t.components := by
  simp [pair]

end Template

namespace Counts

theorem addPendings_eq (m n : Option Nat) :
    addPendings m n = if m.isNone && n.isNone then none else some (m.getD 0 + n.getD 0) := by
  cases m <;> cases n <;> rfl

theorem empty_merge (c : Counts) : ({} : Counts).merge c = c := by
  obtain ⟨activations, fulfillments, violations, pendings⟩ := c
  cases pendings <;> simp [merge, addPendings]

/-- Counts together have the worse of the two verdicts. -/
theorem verdict_merge {c d : Counts} {vacuity : Bool} (first : c.activations ≠ 0 ∨ vacuity)
    (second : d.activations ≠ 0 ∨ vacuity) (complete negative : Bool) :
    ((c.merge d).outcome complete vacuity negative).verdict =
      (c.outcome complete vacuity negative).verdict.worse
        (d.outcome complete vacuity negative).verdict := by
  simp only [outcome, merge, getD_addPendings]
  exact Verdict.ofCounts_add first second _ _ _ _ _ _

end Counts

namespace Outcome

/-- The counts of an outcome are sums over outcomes that count activations. Pendings are counted if
one of these counts them. -/
structure Sums (o : Outcome) (parts : List Outcome) : Prop where
  counted : ∀ part ∈ parts,
    part.activations.isSome ∧ part.fulfillments.isSome ∧ part.violations.isSome
  activations : o.activations = some (parts.map (·.activations.getD 0)).sum
  fulfillments : o.fulfillments = some (parts.map (·.fulfillments.getD 0)).sum
  violations : o.violations = some (parts.map (·.violations.getD 0)).sum
  pendings : o.pendings =
    if parts.all (·.pendings.isNone) then none else some (parts.map (·.pendings.getD 0)).sum

theorem sums_merge (c d : Counts) (complete vacuity negative : Bool) :
    ((c.merge d).outcome complete vacuity negative).Sums
      [c.outcome complete vacuity negative, d.outcome complete vacuity negative] where
  counted := by
    intro part mem
    simp only [List.mem_cons, List.not_mem_nil, or_false] at mem
    rcases mem with rfl | rfl <;> exact ⟨rfl, rfl, rfl⟩
  activations := rfl
  fulfillments := rfl
  violations := rfl
  pendings := by
    simp [Counts.outcome, Counts.merge, Counts.addPendings_eq]

end Outcome

namespace Predicates

variable (p : Predicates) (a b : String) (events : List Event) (complete vacuity : Bool)

/-- The outcome of a component, for which the activities may change places. -/
def checkComponent (component : Template × Bool) : Outcome :=
  if component.2 then p.check component.1 b a events complete vacuity
  else p.check component.1 a b events complete vacuity

variable {a b events complete vacuity}
variable {template : Template} {first second : Template × Bool}

/-- A component is checked like any other template of its polarity. -/
theorem checkComponent_eq {component : Template × Bool} (mem : component ∈ template.components) :
    p.checkComponent a b events complete vacuity component =
      (p.componentCounts a b events complete component).outcome complete vacuity
        template.isNegative := by
  obtain ⟨t, swapped⟩ := component
  obtain ⟨related, polarity⟩ := Template.relation?_isSome_of_mem_components mem
  obtain ⟨relation, has⟩ := Option.isSome_iff_exists.1 related
  have counts (x y : String) : p.check t x y events complete vacuity =
      (p.relationCounts t x y events complete).outcome complete vacuity template.isNegative := by
    rw [check_of_relation p events complete vacuity has, relationCounts, has, polarity]
  rw [checkComponent, componentCounts]
  split <;> exact counts ..

theorem counts_of_components (pair : template.components = [first, second]) :
    p.counts template a b events complete =
      (p.componentCounts a b events complete first).merge
        (p.componentCounts a b events complete second) := by
  rw [counts, if_pos (Template.isDerived_of_components pair), pair]
  simp only [List.foldl_cons, List.foldl_nil, Counts.empty_merge]
  rfl

theorem check_of_components (pair : template.components = [first, second]) :
    p.check template a b events complete vacuity =
      ((p.componentCounts a b events complete first).merge
        (p.componentCounts a b events complete second)).outcome complete vacuity
          template.isNegative := by
  have counting := Template.countsActivations_of_isDerived (Template.isDerived_of_components pair)
  rw [← counts_of_components p pair]
  exact (Compiled.check_eq_outcome _ events complete vacuity counting).1

/-- The verdict on a derived template is the worse of those on its components, if both have
activations or none are needed. -/
theorem verdict_check_of_components (pair : template.components = [first, second])
    (activated : ∀ component ∈ template.components,
      (p.componentCounts a b events complete component).activations ≠ 0 ∨ vacuity) :
    (p.check template a b events complete vacuity).verdict =
      (p.checkComponent a b events complete vacuity first).verdict.worse
        (p.checkComponent a b events complete vacuity second).verdict := by
  have mem := Template.mem_components pair
  rw [check_of_components p pair, checkComponent_eq p mem.1, checkComponent_eq p mem.2]
  exact Counts.verdict_merge (activated _ mem.1) (activated _ mem.2) _ _

variable (a b events complete vacuity)

/-- A derived template is the conjunction of its components. Each of its counts is the sum of
theirs, which on a trace of fewer than 2^31 events is a word again. Its verdict is the worst of
theirs, if all of them have activations or a constraint without any is satisfied. -/
theorem check_derived (derived : template.isDerived) (short : events.length < 2 ^ 31) :
    let o := p.check template a b events complete vacuity
    let parts := template.components.map (p.checkComponent a b events complete vacuity)
    o.Sums parts ∧
      ({ constraint := .binary template a b, predicates := p } : Compiled).checkInWords? events
        complete vacuity = some o ∧
      ((vacuity = true ∨ ∀ part ∈ parts, 0 < part.activations.getD 0) →
        o.verdict.IsWorst (parts.map (·.verdict))) := by
  intro o parts
  obtain ⟨first, second, pair⟩ := Template.exists_components derived
  have mem := Template.mem_components pair
  have parts_eq : parts = [p.checkComponent a b events complete vacuity first,
      p.checkComponent a b events complete vacuity second] :=
    congrArg (List.map _) pair
  refine ⟨?_, ?_, ?_⟩
  · rw [parts_eq, checkComponent_eq p mem.1, checkComponent_eq p mem.2,
      show o = _ from check_of_components p pair]
    exact Outcome.sums_merge _ _ _ _ _
  · obtain ⟨whole, words⟩ := Compiled.check_eq_outcome
      { constraint := .binary template a b, predicates := p } events complete vacuity
      (Template.countsActivations_of_isDerived derived)
    rw [words, counts?_eq_some _ _ _ _ _ _ short, show o = _ from whole]
    rfl
  · intro activated
    rw [parts_eq, show o.verdict = _ from verdict_check_of_components p pair ?_]
    · exact Verdict.isWorst_worse _ _
    · intro component used
      rcases activated with vacuous | activated
      · exact .inr vacuous
      · have some_activated := activated _ (List.mem_map_of_mem used)
        rw [checkComponent_eq p used] at some_activated
        exact .inl (Nat.ne_of_gt some_activated)

/-- A payment before its order and none after it: the response is pending, the precedence has no
pendings to count and is violated, and so is the succession. -/
theorem check_derived_alternateSuccession :
    let events : List Event := [⟨"Pay", .epoch, []⟩, ⟨"Order", .epoch, []⟩]
    let check t := ({} : Predicates).check t "Order" "Pay" events false false
    Template.alternateSuccession.isDerived ∧ events.length < 2 ^ 31 ∧
      (check .alternateSuccession).verdict.IsWorst
        [(check .alternateResponse).verdict, (check .alternatePrecedence).verdict] ∧
      check .alternateSuccession = ⟨some 2, some 0, some 1, some 1, .violated⟩ ∧
      (check .alternateResponse).verdict = .possiblyViolated := by
  intro events check
  have derived : Template.alternateSuccession.isDerived := by decide
  have short : events.length < 2 ^ 31 := by decide
  have worst := (check_derived {} "Order" "Pay" events false false derived short).2.2
  exact ⟨derived, short, worst (.inr (by decide)), by decide, by decide⟩

end Predicates

end Declare
