import Declare.Proofs.Check.Conservation
import Declare.Proofs.Check.Positions

/-!
# What responses count

The activations of a constraint are the positions of events of its first activity that satisfy the
activation condition. A match of one of them is an event of the second activity that correlates with
it. Templates differ in where the match may be: responded existence takes one at any position,
response a later one that is no activation, and alternate response such a one before the next
activation. What a check counts is stated here with these sets of positions only
(`Predicates.check_responses`, `Predicates.check_alternateResponse`), for equal activities as well.

A number of positions is at most the number of events, and so a 32-bit word on every trace of fewer
than 2^32 events.
-/

namespace Declare

namespace Predicates

section

variable (p : Predicates) (a b : String) (events : List Event)

/-- The positions of the activations. -/
def activationsIn : Finset (Fin events.length) :=
  Finset.univ.filter fun i => events[i].activity = a ∧ p.activates events[i]

/-- Whether the event at `j` is one of the second activity that correlates with the one at `i`. -/
def IsMatch (i j : Fin events.length) : Prop :=
  events[j].activity = b ∧ p.correlates events[i] events[j]

instance (i j : Fin events.length) : Decidable (p.IsMatch b events i j) :=
  inferInstanceAs (Decidable (_ ∧ _))

/-- The activations with a match at any position. -/
def matchedAnywhereIn : Finset (Fin events.length) :=
  (p.activationsIn a events).filter fun i => ∃ j, p.IsMatch b events i j

/-- The activations with a match at a later position that is no activation. -/
def matchedLaterIn : Finset (Fin events.length) :=
  (p.activationsIn a events).filter fun i =>
    ∃ j, i < j ∧ j ∉ p.activationsIn a events ∧ p.IsMatch b events i j

/-- The activations with a match at a later position that is no activation and before which there is
no other activation. -/
def matchedBeforeNextIn : Finset (Fin events.length) :=
  (p.activationsIn a events).filter fun i =>
    ∃ j, i < j ∧ j ∉ p.activationsIn a events ∧ p.IsMatch b events i j ∧
      ∀ k, i < k → k < j → k ∉ p.activationsIn a events

end

end Predicates

/-- The outcome counts positions of activations. Those that are matched fulfil a positive template
and violate a negative one. The others are pending while the trace may go on, and the opposite of
matched once it is complete. -/
structure Outcome.Settles {n : ℕ} (o : Outcome) (all found : Finset (Fin n))
    (complete negative : Bool) : Prop where
  activations : o.activations = some all.card
  matched : (if negative then o.violations else o.fulfillments) = some found.card
  unmatched : (if negative then o.fulfillments else o.violations) =
    some (if complete then (all \ found).card else 0)
  pendings : o.pendings = some (if complete then 0 else (all \ found).card)

/-- A scan that keeps every activation until it is matched settles. -/
theorem Counts.settles_ofTally {n : ℕ} {all found : Finset (Fin n)} (part : found ⊆ all) {t : Tally}
    (settled : t.matched + t.waiting = t.activations) (activations : t.activations = all.card)
    (matched : t.matched = found.card) (complete vacuity negative : Bool) :
    ((ofTally t false complete negative).outcome complete vacuity negative).Settles all found
      complete negative := by
  have waiting : t.waiting = (all \ found).card := by
    have split := Finset.card_sdiff_add_card_eq_card part
    omega
  rw [← settle_eq_ofTally settled, settle, activations, matched, waiting]
  cases complete <;> cases negative <;> exact ⟨rfl, rfl, rfl, rfl⟩

namespace Predicates

variable (p : Predicates) (a b : String) (events : List Event)

theorem mem_activationsIn {p : Predicates} {a : String} {events : List Event}
    {i : Fin events.length} : i ∈ p.activationsIn a events ↔ p.isOccurrence a events[i] := by
  rw [activationsIn, Finset.mem_filter, isOccurrence, Bool.and_eq_true, decide_eq_true_iff]
  exact and_iff_right (Finset.mem_univ i)

/-- To a relation that looks ahead, the first activity is that of the activations. -/
theorem roles_of_ahead {relation : Relation} (ahead : relation.looksBack = false) :
    p.roles relation a b =
      { activates := p.isOccurrence a
        isTarget e := e.activity = b
        correlates := p.correlates } := by
  rw [roles, ahead]
  rfl

theorem activations_eq_card {relation : Relation} (ahead : relation.looksBack = false) :
    (relation.tally (p.roles relation a b) events).activations =
      (p.activationsIn a events).card := by
  rw [roles_of_ahead p a b ahead, Relation.activations_eq_card]
  congr 1
  ext i
  rw [mem_activationsIn, Finset.mem_filter, and_iff_right (Finset.mem_univ i)]
  cases relation <;> first | rfl | cases ahead

theorem mem_matchedAnywhereIn (i : Fin events.length) :
    i ∈ p.matchedAnywhereIn a b events ↔
      Relation.anywhere.matchedAt (p.roles .anywhere a b) (placeAt events i) := by
  rw [roles_of_ahead p a b rfl, Relation.matchedAt_anywhere_iff, matchedAnywhereIn,
    Finset.mem_filter, mem_activationsIn]
  simp only [decide_eq_true_iff, IsMatch]

theorem mem_matchedLaterIn (i : Fin events.length) :
    i ∈ p.matchedLaterIn a b events ↔
      Relation.later.matchedAt (p.roles .later a b) (placeAt events i) := by
  rw [roles_of_ahead p a b rfl, Relation.matchedAt_later_iff, matchedLaterIn, Finset.mem_filter]
  simp only [mem_activationsIn, decide_eq_true_iff, IsMatch]

theorem mem_matchedBeforeNextIn (i : Fin events.length) :
    i ∈ p.matchedBeforeNextIn a b events ↔
      Relation.beforeNext.matchedAt (p.roles .beforeNext a b) (placeAt events i) := by
  rw [roles_of_ahead p a b rfl, Relation.matchedAt_beforeNext_iff, matchedBeforeNextIn,
    Finset.mem_filter]
  simp only [mem_activationsIn, decide_eq_true_iff, IsMatch]
  refine and_congr_right fun _ => exists_congr fun j => and_congr_right fun less => ?_
  constructor
  · rintro ⟨here, found, between⟩
    refine ⟨fun k after upTo => ?_, found⟩
    rcases upTo.eq_or_lt with rfl | before
    · exact here
    · exact between k after before
  · rintro ⟨upTo, found⟩
    exact ⟨upTo j less (le_refl j), found, fun k after before => upTo k after before.le⟩

/-- Matches are counted by positions if there is one at a place exactly for those positions. -/
theorem matched_eq_card {relation : Relation} {found : Finset (Fin events.length)}
    (h : ∀ i, i ∈ found ↔ relation.matchedAt (p.roles relation a b) (placeAt events i)) :
    (relation.tally (p.roles relation a b) events).matched = found.card := by
  rw [Relation.matched_eq_card]
  congr 1
  ext i
  rw [h, Finset.mem_filter, and_iff_right (Finset.mem_univ i)]

theorem card_last_eq_ite {n : ℕ} {all found : Finset (Fin n)} :
    (Finset.univ.filter fun i => i ∈ all ∧ (∀ j, i < j → j ∉ all) ∧ i ∉ found).card =
      if ∃ last ∈ all \ found, ∀ i ∈ all, i ≤ last then 1 else 0 := by
  split
  · next h =>
      obtain ⟨last, mem, greatest⟩ := h
      obtain ⟨mem, unmatched⟩ := Finset.mem_sdiff.1 mem
      refine Finset.card_eq_one.2 ⟨last, Finset.ext fun i => ?_⟩
      rw [Finset.mem_filter, and_iff_right (Finset.mem_univ i), Finset.mem_singleton]
      constructor
      · rintro ⟨here, final, -⟩
        exact (greatest i here).antisymm (le_of_not_gt fun less => final last less mem)
      · rintro rfl
        exact ⟨mem, fun j less here => absurd less (greatest j here).not_gt, unmatched⟩
  · next none =>
      rw [Finset.card_eq_zero, Finset.filter_eq_empty_iff]
      rintro i - ⟨mem, final, unmatched⟩
      refine none ⟨i, Finset.mem_sdiff.2 ⟨mem, unmatched⟩, fun j here => ?_⟩
      exact le_of_not_gt fun less => final j less here

/-- The last activation waits if it is not matched. -/
theorem waiting_beforeNext_eq :
    (Relation.beforeNext.tally (p.roles .beforeNext a b) events).waiting =
      if ∃ last ∈ p.activationsIn a events \ p.matchedBeforeNextIn a b events,
          ∀ i ∈ p.activationsIn a events, i ≤ last then 1 else 0 := by
  rw [Relation.waiting_beforeNext_eq_card, ← card_last_eq_ite]
  congr 1
  ext i
  simp only [Finset.mem_filter, mem_matchedBeforeNextIn, mem_activationsIn]
  rw [roles_of_ahead p a b rfl]

variable (complete vacuity : Bool)

theorem settles_check {template : Template} {relation : Relation}
    (h : template.relation? = some relation) (settles : relation.settles)
    {found : Finset (Fin events.length)} (part : found ⊆ p.activationsIn a events)
    (matched : ∀ i, i ∈ found ↔ relation.matchedAt (p.roles relation a b) (placeAt events i)) :
    (p.check template a b events complete vacuity).Settles (p.activationsIn a events) found complete
      template.isNegative := by
  have ahead : relation.looksBack = false := by
    cases relation <;> first | rfl | cases settles
  rw [check_of_relation p events complete vacuity h, ahead]
  exact Counts.settles_ofTally part (Relation.settled_tally settles _ events)
    (p.activations_eq_card a b events ahead) (p.matched_eq_card a b events matched) complete
    vacuity _

/-- A response of an activation is a later match that is no activation. A responded existence is
satisfied with a match at any position, which may be an activation and even the same one. -/
theorem check_responses :
    let outcome t := p.check t a b events complete vacuity
    let all := p.activationsIn a events
    (outcome .response).Settles all (p.matchedLaterIn a b events) complete false ∧
      (outcome .notResponse).Settles all (p.matchedLaterIn a b events) complete true ∧
      (outcome .respondedExistence).Settles all (p.matchedAnywhereIn a b events) complete false ∧
      (outcome .notRespondedExistence).Settles all (p.matchedAnywhereIn a b events) complete
        true := by
  intro outcome all
  have later := p.mem_matchedLaterIn a b events
  have anywhere := p.mem_matchedAnywhereIn a b events
  have partLater : p.matchedLaterIn a b events ⊆ all := Finset.filter_subset _ _
  have partAnywhere : p.matchedAnywhereIn a b events ⊆ all := Finset.filter_subset _ _
  refine ⟨?_, ?_, ?_, ?_⟩
  · exact settles_check p a b events complete vacuity rfl rfl partLater later
  · exact settles_check p a b events complete vacuity rfl rfl partLater later
  · exact settles_check p a b events complete vacuity rfl rfl partAnywhere anywhere
  · exact settles_check p a b events complete vacuity rfl rfl partAnywhere anywhere

/-- The counts of a template that is not derived from others can be kept in words. -/
theorem checkInWords?_eq_some {template : Template} (counting : template.countsActivations)
    (basic : template.isDerived = false) :
    ({ constraint := .binary template a b, predicates := p } : Compiled).checkInWords? events
      complete vacuity = some (p.check template a b events complete vacuity) := by
  obtain ⟨checked, inWords⟩ :=
    ({ constraint := .binary template a b, predicates := p } : Compiled).check_eq_outcome events
      complete vacuity counting
  have counts : p.counts? template a b events complete =
      some (p.counts template a b events complete) := by
    rw [counts?, Predicates.counts, basic]
    exact p.relationCounts?_eq_some a b events complete template
  rw [inWords, check, checked]
  exact congrArg (Option.map _) counts

/-- An alternate response is a match before the next activation. While the trace may go on, the last
activation is pending if it has none, and all the others without one are violations: so many are
left when fulfilments and pendings are taken away, which never takes away too much. -/
theorem check_alternateResponse :
    let outcome := p.check .alternateResponse a b events complete vacuity
    let all := p.activationsIn a events
    let found := p.matchedBeforeNextIn a b events
    ∃ violated pending,
      outcome.activations = some all.card ∧ outcome.fulfillments = some found.card ∧
        outcome.violations = some violated ∧ outcome.pendings = some pending ∧
        pending =
          (if complete = false ∧ ∃ last ∈ all \ found, ∀ i ∈ all, i ≤ last then 1 else 0) ∧
        all.card = found.card + violated + pending ∧
        ({ constraint := .binary .alternateResponse a b, predicates := p } : Compiled).checkInWords?
          events complete vacuity = some outcome := by
  intro outcome all found
  obtain ⟨t, tallied⟩ : ∃ t, Relation.beforeNext.tally (p.roles .beforeNext a b) events = t :=
    ⟨_, rfl⟩
  have activations : t.activations = all.card := by
    rw [← tallied, p.activations_eq_card a b events rfl]
  have matched : t.matched = found.card := by
    rw [← tallied]
    exact p.matched_eq_card a b events (p.mem_matchedBeforeNextIn a b events)
  have waiting : t.waiting = if ∃ last ∈ all \ found, ∀ i ∈ all, i ≤ last then 1 else 0 := by
    rw [← tallied, waiting_beforeNext_eq]
  have sound : t.matched + t.waiting ≤ t.activations :=
    tallied ▸ Relation.sound_tally .beforeNext _ events
  have counted : outcome =
      (Counts.ofTally t false complete false).outcome complete vacuity false := by
    rw [← tallied]
    exact check_of_relation p events complete vacuity rfl
  refine ⟨t.activations - t.matched - (if complete then 0 else t.waiting),
    if complete then 0 else t.waiting, ?_, ?_, ?_, ?_, ?_, ?_, ?_⟩
  · rw [counted, ← activations]
    rfl
  · rw [counted, ← matched]
    rfl
  · rw [counted]
    rfl
  · rw [counted]
    rfl
  · rw [waiting]
    cases complete <;> simp
  · rw [← activations, ← matched]
    cases complete <;> simp only [Bool.false_eq_true, ↓reduceIte] <;> omega
  · exact checkInWords?_eq_some p a b events complete vacuity rfl rfl

/-- The first activation is superseded, the second has its response, and the third may get one. -/
example :
    let events : List Event :=
      [⟨"A", .epoch, []⟩, ⟨"A", .epoch, []⟩, ⟨"B", .epoch, []⟩, ⟨"A", .epoch, []⟩]
    ({} : Predicates).check .alternateResponse "A" "B" events false false =
        ⟨some 3, some 1, some 1, some 1, .violated⟩ ∧
      ({} : Predicates).matchedBeforeNextIn "A" "B" events = {1} ∧
      ({} : Predicates).matchedLaterIn "A" "B" events = {0, 1} := by
  decide

end Predicates

end Declare
