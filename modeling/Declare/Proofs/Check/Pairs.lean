import Declare.Proofs.Check.Conjunction

/-!
# Pairs of events that violate negative templates

A scan matches an activation if and only if the trace has an activation and a target that stand to
each other as the relation demands: one after the other, side by side, or anywhere. A scan that
looks back takes the later event of such a pair for the activation and one that looks forward the
earlier event. Without conditions they count different events but find the same pairs, so negative
templates that differ in the direction only are violated on the same traces, and so is their
conjunction (`Predicates.check_redundant`).
-/

namespace Declare

variable {α : Type}

theorem pair_sublist_iff {x y : α} {events : List α} :
    [x, y].Sublist events ↔ ∃ before after, events = before ++ x :: after ∧ y ∈ after := by
  rw [List.cons_sublist_iff]
  constructor
  · rintro ⟨front, back, rfl, mem, sub⟩
    obtain ⟨before, between, rfl⟩ := List.append_of_mem mem
    refine ⟨before, between ++ back, by simp, ?_⟩
    exact List.mem_append_right _ (List.singleton_sublist.1 sub)
  · rintro ⟨before, after, rfl, mem⟩
    exact ⟨before ++ [x], after, by simp, by simp, List.singleton_sublist.2 mem⟩

theorem pair_infix_iff {x y : α} {events : List α} :
    [x, y] <:+: events ↔ ∃ before after, events = before ++ x :: after ∧ y ∈ after.take 1 := by
  constructor
  · rintro ⟨before, after, rfl⟩
    exact ⟨before, y :: after, by simp, by simp⟩
  · rintro ⟨before, after, rfl, mem⟩
    cases after with
    | nil => cases mem
    | cons z after =>
        obtain rfl : y = z := by simpa using mem
        exact ⟨before, after, by simp⟩

namespace Roles

/-- A target that matches an activation. -/
structure Pair (r : Roles α) (activation target : α) : Prop where
  activates : r.activates activation
  isTarget : r.isTarget target
  correlates : r.correlates activation target

theorem hasMatch_iff {r : Roles α} {activation : α} {events : List α} :
    r.hasMatch activation events ↔
      ∃ y ∈ events, r.isTarget y ∧ r.correlates activation y := by
  simp only [hasMatch, List.any_eq_true, Bool.and_eq_true]

end Roles

namespace Relation

variable {r : Roles α} {events : List α}

/-- A scan that looks forward finds a pair if the target is near enough behind the activation. -/
theorem matched_pos_iff_of_ahead {relation : Relation} (near : List α → List α)
    (h : ∀ p, relation.matchedAt r p = (r.activates p.event && r.hasMatch p.event (near p.after))) :
    0 < (relation.tally r events).matched ↔
      ∃ x y, r.Pair x y ∧ ∃ before after, events = before ++ x :: after ∧ y ∈ near after := by
  rw [tally_matched, List.countP_pos_iff]
  constructor
  · rintro ⟨p, mem, matched⟩
    rw [h, Bool.and_eq_true, Roles.hasMatch_iff] at matched
    obtain ⟨activates, y, found, target, correlates⟩ := matched
    obtain ⟨before, split, -⟩ := mem_places_iff.1 mem
    exact ⟨p.event, y, ⟨activates, target, correlates⟩, before, p.after, split, found⟩
  · rintro ⟨x, y, pair, before, after, split, found⟩
    refine ⟨⟨before.reverse, x, after⟩, mem_places_iff.2 ⟨before, split, by simp⟩, ?_⟩
    rw [h, Bool.and_eq_true, Roles.hasMatch_iff]
    exact ⟨pair.activates, y, found, pair.isTarget, pair.correlates⟩

theorem matched_anywhere_pos_iff :
    0 < (anywhere.tally r events).matched ↔ ∃ x y, r.Pair x y ∧ x ∈ events ∧ y ∈ events := by
  rw [tally_anywhere, List.countP_pos_iff]
  constructor
  · rintro ⟨x, mem, matched⟩
    rw [List.any_filter, ← Roles.hasMatch, Roles.hasMatch_iff] at matched
    obtain ⟨mem, activates⟩ := List.mem_filter.1 mem
    obtain ⟨y, found, target, correlates⟩ := matched
    exact ⟨x, y, ⟨activates, target, correlates⟩, mem, found⟩
  · rintro ⟨x, y, pair, mem, found⟩
    refine ⟨x, List.mem_filter.2 ⟨mem, pair.activates⟩, ?_⟩
    rw [List.any_filter, ← Roles.hasMatch, Roles.hasMatch_iff]
    exact ⟨y, found, pair.isTarget, pair.correlates⟩

theorem matched_next_pos_iff :
    0 < (next.tally r events).matched ↔ ∃ x y, r.Pair x y ∧ [x, y] <:+: events := by
  simp only [pair_infix_iff]
  exact matched_pos_iff_of_ahead (List.take 1) fun _ => rfl

variable (disjoint : r.Disjoint)
include disjoint

theorem matched_later_pos_iff :
    0 < (later.tally r events).matched ↔ ∃ x y, r.Pair x y ∧ [x, y].Sublist events := by
  simp only [pair_sublist_iff]
  apply matched_pos_iff_of_ahead id
  intro p
  rw [matchedAt, reach, disjoint.hasMatch_filter]
  rfl

theorem matched_mirror (relation : Relation) :
    (relation.mirror.tally r events).matched = (relation.tally r events.reverse).matched := by
  simpa using (tally_mirror_reverse disjoint relation events.reverse).2

theorem matched_earlier_pos_iff :
    0 < (earlier.tally r events).matched ↔ ∃ x y, r.Pair x y ∧ [y, x].Sublist events := by
  rw [show earlier = later.mirror from rfl, matched_mirror disjoint, matched_later_pos_iff disjoint]
  simp only [List.sublist_reverse_iff, List.reverse_cons, List.reverse_nil, List.nil_append,
    List.singleton_append]

theorem matched_previous_pos_iff :
    0 < (previous.tally r events).matched ↔ ∃ x y, r.Pair x y ∧ [y, x] <:+: events := by
  have reversed (x y : α) : [x, y] <:+: events.reverse ↔ [y, x] <:+: events :=
    show [y, x].reverse <:+: _ ↔ _ from List.reverse_infix
  rw [show previous = next.mirror from rfl, matched_mirror disjoint, matched_next_pos_iff]
  simp only [reversed]

end Relation

namespace Predicates

section

variable {a b : String} {events : List Event}

/-- Without conditions the activities alone make a pair. -/
theorem pair_roles {relation : Relation} {x y : Event} :
    (({} : Predicates).roles relation a b).Pair x y ↔
      if relation.looksBack then x.activity = b ∧ y.activity = a
      else x.activity = a ∧ y.activity = b := by
  have unconditioned (e : Event) : ({} : Predicates).activates e = true := rfl
  rw [roles]
  constructor
  · rintro ⟨activates, target, -⟩
    cases back : relation.looksBack <;>
      simpa [back, unconditioned] using And.intro activates target
  · intro activities
    cases back : relation.looksBack <;>
      exact ⟨by simp_all, by simp_all, rfl⟩

theorem exists_pair_iff {P : List Event → Prop} :
    (∃ x y : Event, (x.activity = a ∧ y.activity = b) ∧ P [x, y]) ↔
      ∃ pair, P pair ∧ [a, b] = pair.map (·.activity) := by
  constructor
  · rintro ⟨x, y, ⟨rfl, rfl⟩, holds⟩
    exact ⟨[x, y], holds, rfl⟩
  · rintro ⟨pair, holds, spelled⟩
    obtain ⟨x, y, rfl⟩ : ∃ x y, pair = [x, y] :=
      List.length_eq_two.1 (by simpa using (congrArg List.length spelled).symm)
    obtain ⟨rfl, rfl⟩ : a = x.activity ∧ b = y.activity := by simpa using spelled
    exact ⟨x, y, ⟨rfl, rfl⟩, holds⟩

theorem matched_later_iff (distinct : a ≠ b) :
    0 < (Relation.later.tally (({} : Predicates).roles .later a b) events).matched ↔
      [a, b].Sublist (events.map (·.activity)) := by
  rw [Relation.matched_later_pos_iff (disjoint_roles _ distinct _), List.sublist_map_iff,
    ← exists_pair_iff]
  simp only [pair_roles, Relation.looksBack, Bool.false_eq_true, ↓reduceIte]

theorem matched_earlier_iff (distinct : a ≠ b) :
    0 < (Relation.earlier.tally (({} : Predicates).roles .earlier a b) events).matched ↔
      [a, b].Sublist (events.map (·.activity)) := by
  rw [Relation.matched_earlier_pos_iff (disjoint_roles _ distinct _), List.sublist_map_iff,
    ← exists_pair_iff, exists_comm]
  simp only [pair_roles, Relation.looksBack, ↓reduceIte, and_comm (a := _ = b)]

theorem matched_next_iff :
    0 < (Relation.next.tally (({} : Predicates).roles .next a b) events).matched ↔
      [a, b] <:+: events.map (·.activity) := by
  rw [Relation.matched_next_pos_iff, List.infix_map_iff, ← exists_pair_iff]
  simp only [pair_roles, Relation.looksBack, Bool.false_eq_true, ↓reduceIte]

theorem matched_previous_iff (distinct : a ≠ b) :
    0 < (Relation.previous.tally (({} : Predicates).roles .previous a b) events).matched ↔
      [a, b] <:+: events.map (·.activity) := by
  rw [Relation.matched_previous_pos_iff (disjoint_roles _ distinct _), List.infix_map_iff,
    ← exists_pair_iff, exists_comm]
  simp only [pair_roles, Relation.looksBack, ↓reduceIte, and_comm (a := _ = b)]

theorem matched_anywhere_iff :
    0 < (Relation.anywhere.tally (({} : Predicates).roles .anywhere a b) events).matched ↔
      a ∈ events.map (·.activity) ∧ b ∈ events.map (·.activity) := by
  rw [Relation.matched_anywhere_pos_iff, List.mem_map, List.mem_map]
  simp only [pair_roles, Relation.looksBack, Bool.false_eq_true, ↓reduceIte]
  constructor
  · rintro ⟨x, y, ⟨isA, isB⟩, mem, mem'⟩
    exact ⟨⟨x, mem, isA⟩, y, mem', isB⟩
  · rintro ⟨⟨x, mem, isA⟩, y, mem', isB⟩
    exact ⟨x, y, ⟨isA, isB⟩, mem, mem'⟩

end

variable (p : Predicates) {a b : String} {events : List Event} {complete : Bool}

theorem reports_componentCounts {template : Template} {component : Template × Bool}
    (mem : component ∈ template.components) :
    (p.componentCounts a b events complete component).Reports
      (p.componentTally a b events component) complete template.isNegative := by
  rw [← (Template.relation?_isSome_of_mem_components mem).2, componentCounts, componentTally]
  split <;> exact reports_relationCounts ..

/-- A component of a negative template is violated by a match and else satisfied, at least for
now. -/
theorem verdict_checkComponent_of_negative {template : Template} (negative : template.isNegative)
    {component : Template × Bool} (mem : component ∈ template.components) :
    (p.checkComponent a b events complete true component).verdict =
      if 0 < (p.componentTally a b events component).matched then .violated
      else .soFar complete true := by
  rw [checkComponent_eq p mem, negative]
  have violations : (p.componentCounts a b events complete component).violations = _ :=
    (p.reports_componentCounts mem).violations
  rw [negative, if_pos rfl] at violations
  simp only [Counts.outcome, Verdict.ofCounts_of_activated (.inr rfl), violations, Bool.true_or]

/-- If the components of a negative template are matched on the same traces, they are violated on
the same traces as their conjunction. -/
theorem components_agree (template : Template) {first second : Template × Bool}
    (pair : template.components = [first, second]) (negative : template.isNegative) {found : Prop}
    (matched : 0 < (p.componentTally a b events first).matched ↔ found)
    (matched' : 0 < (p.componentTally a b events second).matched ↔ found) :
    let verdict := (p.check template a b events complete true).verdict
    (p.checkComponent a b events complete true first).verdict = verdict ∧
      (p.checkComponent a b events complete true second).verdict = verdict ∧
      (verdict = .violated ↔ found) := by
  intro verdict
  have mem := Template.mem_components pair
  have verdict_first : (p.checkComponent a b events complete true first).verdict = _ :=
    verdict_checkComponent_of_negative p negative mem.1
  have same : (p.checkComponent a b events complete true second).verdict =
      (p.checkComponent a b events complete true first).verdict := by
    rw [verdict_first, verdict_checkComponent_of_negative p negative mem.2]
    exact if_congr (matched'.trans matched.symm) rfl rfl
  have whole : verdict = (p.checkComponent a b events complete true first).verdict := by
    rw [show verdict = _ from verdict_check_of_components p pair fun _ _ => .inr rfl, same,
      Verdict.worse_self]
  refine ⟨whole.symm, same.trans whole.symm, ?_⟩
  rw [whole, verdict_first, ← matched]
  split
  · next violated => exact iff_of_true rfl violated
  · next unviolated =>
      refine iff_of_false ?_ unviolated
      cases complete <;> decide

/-- Without conditions, and with constraints without activations satisfied, negative templates that
forbid the same pairs of events have the same verdict: the one that looks forward, the one that
looks back, and their conjunction. -/
theorem check_redundant {a b : String} (distinct : a ≠ b) (events : List Event) (complete : Bool) :
    let verdict t x y := (({} : Predicates).check t x y events complete true).verdict
    let activities := events.map (·.activity)
    (verdict .notResponse a b = verdict .notSuccession a b ∧
        verdict .notPrecedence a b = verdict .notSuccession a b ∧
        (verdict .notSuccession a b = .violated ↔ [a, b].Sublist activities)) ∧
      (verdict .notChainResponse a b = verdict .notChainSuccession a b ∧
        verdict .notChainPrecedence a b = verdict .notChainSuccession a b ∧
        (verdict .notChainSuccession a b = .violated ↔ [a, b] <:+: activities)) ∧
      (verdict .notRespondedExistence a b = verdict .notCoExistence a b ∧
        verdict .notRespondedExistence b a = verdict .notCoExistence a b ∧
        (verdict .notCoExistence a b = .violated ↔ a ∈ activities ∧ b ∈ activities)) := by
  intro verdict activities
  refine ⟨?_, ?_, ?_⟩
  · exact components_agree {} .notSuccession rfl rfl (matched_later_iff distinct)
      (matched_earlier_iff distinct)
  · exact components_agree {} .notChainSuccession rfl rfl matched_next_iff
      (matched_previous_iff distinct)
  · exact components_agree {} .notCoExistence rfl rfl matched_anywhere_iff
      (matched_anywhere_iff.trans and_comm)

/-- A trace on which a shipment comes before, but not directly before, the payment: it has no pair
for the chain templates. -/
theorem check_redundant_apart :
    let events : List Event := [⟨"Ship", .epoch, []⟩, ⟨"Bill", .epoch, []⟩, ⟨"Pay", .epoch, []⟩]
    let verdict t := (({} : Predicates).check t "Ship" "Pay" events false true).verdict
    "Ship" ≠ "Pay" ∧
      (verdict .notResponse = .violated ∧ verdict .notPrecedence = .violated) ∧
      (verdict .notChainResponse ≠ .violated ∧ verdict .notChainPrecedence ≠ .violated) := by
  intro events verdict
  have distinct : "Ship" ≠ "Pay" := by decide
  obtain ⟨⟨response, precedence, successive⟩, ⟨response', precedence', chained⟩, -⟩ :=
    check_redundant distinct events false
  have violated := successive.2 (by decide)
  have unviolated := chained.not.2 (by decide)
  refine ⟨distinct, ⟨response.trans violated, precedence.trans violated⟩, ?_, ?_⟩
  · exact response'.trans_ne unviolated
  · exact precedence'.trans_ne unviolated

end Predicates

end Declare
