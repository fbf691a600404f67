import Declare.Proofs.Check.Counts
import Declare.Proofs.Check.Places
import Mathlib.Data.List.Chain

/-!
# The families of responses and precedences

Responses look for targets after an activation, precedences before it. Within a family the reach of
one relation is part of the reach of the next, so a chain response is fulfilled at most as often as
an alternate response, that one as a response, and that one as a responded existence
(`Predicates.check_subsumed`). Between the families, what is before an activation in a trace is
after it in the reversed trace (`Predicates.check_reverse`).

Both need that no event is an activation and a target, as it is for two distinct activities.
-/

namespace Declare

variable {α : Type}

namespace Roles

/-- No event is both an activation and a target. -/
def Disjoint (r : Roles α) : Prop :=
  ∀ e, r.activates e → r.isTarget e = false

variable {r : Roles α}

theorem hasMatch_mono {activation : α} {events events' : List α}
    (h : ∀ e ∈ events, r.isTarget e → e ∈ events') (matched : r.hasMatch activation events) :
    r.hasMatch activation events' := by
  simp only [hasMatch, List.any_eq_true, Bool.and_eq_true] at matched ⊢
  obtain ⟨e, mem, target, correlates⟩ := matched
  exact ⟨e, h e mem target, target, correlates⟩

theorem Disjoint.not_activates (disjoint : r.Disjoint) {e : α} (target : r.isTarget e) :
    r.activates e = false := by
  cases activates : r.activates e with
  | false => rfl
  | true => simp [disjoint e activates] at target

theorem Disjoint.activatesAt (disjoint : r.Disjoint) (relation : Relation) :
    relation.activatesAt r = r.activates := by
  funext e
  have h : (r.activates e && !r.isTarget e) = r.activates e := by
    cases activates : r.activates e with
    | true => simp [disjoint e activates]
    | false => rfl
  cases relation <;> first | rfl | exact h

/-- Leaving out activations leaves out no target. -/
theorem Disjoint.hasMatch_filter (disjoint : r.Disjoint) (activation : α) (events : List α) :
    r.hasMatch activation (events.filter fun e => !r.activates e) =
      r.hasMatch activation events := by
  rw [hasMatch, List.any_filter, hasMatch]
  congr 1
  funext e
  cases target : r.isTarget e with
  | true => simp [disjoint.not_activates target]
  | false => simp

end Roles

theorem Predicates.disjoint_roles (p : Predicates) {a b : String} (distinct : a ≠ b)
    (relation : Relation) : (p.roles relation a b).Disjoint := by
  intro e activates
  cases back : relation.looksBack <;> simp [roles, back] at activates ⊢
  · exact activates.1 ▸ distinct
  · exact activates.1 ▸ distinct.symm

namespace Relation

/-- One relation has the activations of another and reaches no target that the other does not. -/
structure Within (r : Roles α) (narrow wide : Relation) : Prop where
  activatesAt : narrow.activatesAt r = wide.activatesAt r
  reach : ∀ p, ∀ e ∈ narrow.reach r p, r.isTarget e → e ∈ wide.reach r p

variable {r : Roles α}

theorem Within.activations_eq {narrow wide : Relation} (h : Within r narrow wide)
    (events : List α) :
    (narrow.tally r events).activations = (wide.tally r events).activations := by
  rw [tally_activations, tally_activations, h.activatesAt]

theorem Within.matched_le {narrow wide : Relation} (h : Within r narrow wide) (events : List α) :
    (narrow.tally r events).matched ≤ (wide.tally r events).matched := by
  rw [tally_matched, tally_matched]
  apply List.countP_mono_left
  intro p _ matched
  rw [matchedAt, Bool.and_eq_true] at matched ⊢
  exact ⟨h.activatesAt ▸ matched.1, Roles.hasMatch_mono (h.reach p) matched.2⟩

theorem Within.trans {near middle far : Relation} (first : Within r near middle)
    (second : Within r middle far) : Within r near far :=
  ⟨first.activatesAt.trans second.activatesAt,
    fun p e mem target => second.reach p e (first.reach p e mem target) target⟩

/-- The nearest event is not cut off by a condition that it satisfies. -/
theorem mem_takeWhile_of_mem_take_one {q : α → Bool} {events : List α} {e : α}
    (mem : e ∈ events.take 1) (h : q e) : e ∈ events.takeWhile q := by
  cases events with
  | nil => cases mem
  | cons a events =>
      obtain rfl : e = a := by simpa using mem
      simp [h]

variable (disjoint : r.Disjoint)
include disjoint

theorem within_of_reach {narrow wide : Relation}
    (reach : ∀ p, ∀ e ∈ narrow.reach r p, r.isTarget e → e ∈ wide.reach r p) :
    Within r narrow wide :=
  ⟨(disjoint.activatesAt narrow).trans (disjoint.activatesAt wide).symm, reach⟩

theorem next_within_beforeNext : Within r next beforeNext := by
  apply within_of_reach disjoint
  intro p e mem target
  exact mem_takeWhile_of_mem_take_one mem (by simp [disjoint.not_activates target])

theorem beforeNext_within_later : Within r beforeNext later := by
  apply within_of_reach disjoint
  intro p e mem _
  exact List.mem_filter.2
    ⟨(List.takeWhile_sublist _).mem mem, List.all_eq_true.1 List.all_takeWhile e mem⟩

theorem later_within_anywhere : Within r later anywhere := by
  apply within_of_reach disjoint
  intro p e mem _
  have after : e ∈ p.after := (List.mem_filter.1 mem).1
  exact List.mem_append_right _ (List.mem_cons_of_mem _ after)

theorem previous_within_sincePrevious : Within r previous sincePrevious := by
  apply within_of_reach disjoint
  intro p e mem target
  exact mem_takeWhile_of_mem_take_one mem (by simp [target])

theorem sincePrevious_within_earlier : Within r sincePrevious earlier := by
  apply within_of_reach disjoint
  intro p e mem _
  exact (List.takeWhile_sublist _).mem mem

theorem earlier_within_anywhere : Within r earlier anywhere := by
  apply within_of_reach disjoint
  intro p e mem _
  exact List.mem_append_left _ mem

omit disjoint

/-- The relation that looks in the other direction. -/
def mirror : Relation → Relation
  | anywhere => anywhere
  | later => earlier
  | beforeNext => sincePrevious
  | next => previous
  | earlier => later
  | sincePrevious => beforeNext
  | previous => next

theorem hasMatch_reach_mirror (disjoint : r.Disjoint) (relation : Relation) (p : Place α)
    (activation : α) :
    r.hasMatch activation (relation.mirror.reach r p.mirror) =
      r.hasMatch activation (relation.reach r p) := by
  have cut : (fun e => r.isTarget e || !r.activates e) = fun e => !r.activates e := by
    funext e
    cases target : r.isTarget e with
    | true => simp [disjoint.not_activates target]
    | false => rfl
  cases relation with
  | anywhere =>
      simp only [mirror, reach, Place.mirror, Roles.hasMatch, List.any_append, List.any_cons]
      ac_rfl
  | later => exact (disjoint.hasMatch_filter activation p.after).symm
  | earlier => exact disjoint.hasMatch_filter activation p.before
  | beforeNext => simp only [mirror, reach, Place.mirror, cut]
  | sincePrevious => simp only [mirror, reach, Place.mirror, cut]
  | next => rfl
  | previous => rfl

/-- A place and its mirror image agree on whether an activation is matched. -/
theorem matchedAt_mirror (disjoint : r.Disjoint) (relation : Relation) (p : Place α) :
    relation.mirror.matchedAt r p.mirror = relation.matchedAt r p := by
  rw [matchedAt, matchedAt, disjoint.activatesAt, disjoint.activatesAt, Place.mirror]
  exact congrArg _ (hasMatch_reach_mirror disjoint relation p p.event)

/-- The relation in the other direction counts the same in the reversed trace. -/
theorem tally_mirror_reverse (disjoint : r.Disjoint) (relation : Relation) (events : List α) :
    (relation.mirror.tally r events.reverse).activations = (relation.tally r events).activations ∧
      (relation.mirror.tally r events.reverse).matched = (relation.tally r events).matched := by
  constructor
  · rw [tally_activations, tally_activations, List.countP_reverse, disjoint.activatesAt,
      disjoint.activatesAt]
  · rw [tally_matched, tally_matched, places_reverse, List.countP_reverse, List.countP_map]
    congr 1
    funext p
    exact matchedAt_mirror disjoint relation p

end Relation

namespace Outcome

/-- The outcomes count the same activations, and the first no more fulfilments. -/
def FulfilsNoMore (o o' : Outcome) : Prop :=
  ∃ n m m', o.activations = some n ∧ o'.activations = some n ∧
    o.fulfillments = some m ∧ o'.fulfillments = some m' ∧ m ≤ m'

/-- The outcomes count violations, the first no more of them. -/
def ViolatesNoMore (o o' : Outcome) : Prop :=
  ∃ m m', o.violations = some m ∧ o'.violations = some m' ∧ m ≤ m'

end Outcome

namespace Predicates

variable (p : Predicates) {a b : String} (events : List Event) (complete vacuity : Bool)

/-- Checks a template on two activities. -/
def check (template : Template) (a b : String) (events : List Event) (complete vacuity : Bool) :
    Outcome :=
  ({ constraint := .binary template a b, predicates := p } : Compiled).check events complete vacuity

theorem check_of_relation {template : Template} {relation : Relation}
    (h : template.relation? = some relation) :
    p.check template a b events complete vacuity =
      (Counts.ofTally (relation.tally (p.roles relation a b) events) relation.looksBack complete
        template.isNegative).outcome complete vacuity template.isNegative := by
  cases template <;> cases h <;> rfl

variable {template narrow wide : Template} {relation near far : Relation}
variable {a' b' : String}

theorem activations_check (h : template.relation? = some relation) :
    (p.check template a b events complete vacuity).activations =
      some (relation.tally (p.roles relation a b) events).activations := by
  rw [check_of_relation p events complete vacuity h]
  rfl

theorem fulfillments_check (h : template.relation? = some relation)
    (positive : template.isNegative = false) :
    (p.check template a b events complete vacuity).fulfillments =
      some (relation.tally (p.roles relation a b) events).matched := by
  rw [check_of_relation p events complete vacuity h, positive]
  rfl

theorem violations_check (h : template.relation? = some relation)
    (negative : template.isNegative = true) :
    (p.check template a b events complete vacuity).violations =
      some (relation.tally (p.roles relation a b) events).matched := by
  rw [check_of_relation p events complete vacuity h, negative]
  rfl

variable {p events}

theorem fulfilsNoMore_of_within (hn : narrow.relation? = some near)
    (hw : wide.relation? = some far) (same : p.roles near a b = p.roles far a' b')
    (within : Relation.Within (p.roles near a b) near far)
    (positive : narrow.isNegative = false ∧ wide.isNegative = false) :
    Outcome.FulfilsNoMore (p.check narrow a b events complete vacuity)
      (p.check wide a' b' events complete vacuity) := by
  refine ⟨_, _, _, activations_check _ _ _ _ hn, ?_,
    fulfillments_check _ _ _ _ hn positive.1, fulfillments_check _ _ _ _ hw positive.2, ?_⟩
  · rw [activations_check _ _ _ _ hw, ← same, within.activations_eq]
  · rw [← same]
    exact within.matched_le events

theorem violatesNoMore_of_within (hn : narrow.relation? = some near)
    (hw : wide.relation? = some far) (same : p.roles near a b = p.roles far a' b')
    (within : Relation.Within (p.roles near a b) near far)
    (negative : narrow.isNegative = true ∧ wide.isNegative = true) :
    Outcome.ViolatesNoMore (p.check narrow a b events complete vacuity)
      (p.check wide a' b' events complete vacuity) := by
  refine ⟨_, _, violations_check _ _ _ _ hn negative.1, violations_check _ _ _ _ hw negative.2, ?_⟩
  rw [← same]
  exact within.matched_le events

variable (p events)

/-- Within a family, a narrower template has the same activations as a wider one and at most as many
of them are matched: fulfilled if the templates are positive, and violated if they are negative. -/
theorem check_subsumed (distinct : a ≠ b) :
    let outcome t x y := p.check t x y events complete vacuity
    [outcome .chainResponse a b, outcome .alternateResponse a b, outcome .response a b,
        outcome .respondedExistence a b].IsChain Outcome.FulfilsNoMore ∧
      [outcome .chainPrecedence a b, outcome .alternatePrecedence a b, outcome .precedence a b,
        outcome .respondedExistence b a].IsChain Outcome.FulfilsNoMore ∧
      [outcome .notChainResponse a b, outcome .notResponse a b,
        outcome .notRespondedExistence a b].IsChain Outcome.ViolatesNoMore ∧
      [outcome .notChainPrecedence a b, outcome .notPrecedence a b,
        outcome .notRespondedExistence b a].IsChain Outcome.ViolatesNoMore := by
  intro outcome
  have ahead := p.disjoint_roles distinct .later
  have back := p.disjoint_roles distinct .earlier
  have next := Relation.next_within_beforeNext ahead
  have beforeNext := Relation.beforeNext_within_later ahead
  have later := Relation.later_within_anywhere ahead
  have previous := Relation.previous_within_sincePrevious back
  have sincePrevious := Relation.sincePrevious_within_earlier back
  have earlier := Relation.earlier_within_anywhere back
  refine ⟨?_, ?_, ?_, ?_⟩
  · refine .cons_cons ?_ (.cons_cons ?_ (.cons_cons ?_ (.singleton _)))
    · exact fulfilsNoMore_of_within _ _ rfl rfl rfl next ⟨rfl, rfl⟩
    · exact fulfilsNoMore_of_within _ _ rfl rfl rfl beforeNext ⟨rfl, rfl⟩
    · exact fulfilsNoMore_of_within _ _ rfl rfl rfl later ⟨rfl, rfl⟩
  · refine .cons_cons ?_ (.cons_cons ?_ (.cons_cons ?_ (.singleton _)))
    · exact fulfilsNoMore_of_within _ _ rfl rfl rfl previous ⟨rfl, rfl⟩
    · exact fulfilsNoMore_of_within _ _ rfl rfl rfl sincePrevious ⟨rfl, rfl⟩
    · exact fulfilsNoMore_of_within _ _ rfl rfl rfl earlier ⟨rfl, rfl⟩
  · refine .cons_cons ?_ (.cons_cons ?_ (.singleton _))
    · exact violatesNoMore_of_within _ _ rfl rfl rfl (next.trans beforeNext) ⟨rfl, rfl⟩
    · exact violatesNoMore_of_within _ _ rfl rfl rfl later ⟨rfl, rfl⟩
  · refine .cons_cons ?_ (.cons_cons ?_ (.singleton _))
    · exact violatesNoMore_of_within _ _ rfl rfl rfl (previous.trans sincePrevious) ⟨rfl, rfl⟩
    · exact violatesNoMore_of_within _ _ rfl rfl rfl earlier ⟨rfl, rfl⟩

/-- Two activations before one target: both have a response, and only the later one an alternate
response. -/
theorem check_subsumed_superseded :
    let outcome t := ({} : Predicates).check t "A" "B"
      [⟨"A", .epoch, []⟩, ⟨"A", .epoch, []⟩, ⟨"B", .epoch, []⟩] true false
    "A" ≠ "B" ∧
      Outcome.FulfilsNoMore (outcome .alternateResponse) (outcome .response) ∧
      (outcome .alternateResponse).fulfillments = some 1 ∧
      (outcome .response).fulfillments = some 2 := by
  intro outcome
  have distinct : "A" ≠ "B" := by decide
  obtain ⟨responses, -⟩ := check_subsumed {}
    [⟨"A", .epoch, []⟩, ⟨"A", .epoch, []⟩, ⟨"B", .epoch, []⟩] true false distinct
  have fromAlternate := (List.isChain_cons_cons.1 responses).2
  exact ⟨distinct, (List.isChain_cons_cons.1 fromAlternate).1, by decide, by decide⟩

end Predicates

/-- The template that looks ahead for what the template looks back for. -/
def Template.ahead? : Template → Option Template
  | .precedence => some .response
  | .alternatePrecedence => some .alternateResponse
  | .chainPrecedence => some .chainResponse
  | .notPrecedence => some .notResponse
  | .notChainPrecedence => some .notChainResponse
  | _ => none

theorem Template.exists_relation_of_ahead? {back ahead : Template} (h : back.ahead? = some ahead) :
    ∃ relation, back.relation? = some relation ∧ ahead.relation? = some relation.mirror ∧
      relation.looksBack = true ∧ relation.mirror.looksBack = false ∧
      ahead.isNegative = back.isNegative := by
  cases back <;> cases h <;> exact ⟨_, rfl, rfl, rfl, rfl, rfl⟩

/-- On a complete trace nothing is pending, whether or not that is counted. -/
theorem Counts.ofTally_complete (t : Tally) (looksBack negative : Bool) :
    ofTally t looksBack true negative =
      { activations := t.activations
        fulfillments := if negative then t.activations - t.matched else t.matched
        violations := if negative then t.matched else t.activations - t.matched
        pendings := if looksBack then none else some 0 } := by
  cases looksBack <;> rfl

namespace Predicates

/-- A template that looks back counts on a complete trace what the one that looks ahead counts on
the reversed trace with its activities exchanged, and so both have the same verdict. -/
theorem check_reverse (p : Predicates) {a b : String} (distinct : a ≠ b) (events : List Event)
    (vacuity : Bool) {back ahead : Template} (mirrored : back.ahead? = some ahead) :
    let o := p.check back a b events true vacuity
    let o' := p.check ahead b a events.reverse true vacuity
    o.activations = o'.activations ∧ o.fulfillments = o'.fulfillments ∧
      o.violations = o'.violations ∧ o.verdict = o'.verdict := by
  obtain ⟨relation, looksBack, looksAhead, before, after, polarity⟩ :=
    Template.exists_relation_of_ahead? mirrored
  have roles : p.roles relation.mirror b a = p.roles relation a b := by
    rw [Predicates.roles, Predicates.roles, before, after]
    rfl
  have disjoint := p.disjoint_roles distinct relation
  obtain ⟨activations, matched⟩ := Relation.tally_mirror_reverse disjoint relation events
  rw [check_of_relation p _ _ _ looksBack, check_of_relation p _ _ _ looksAhead, polarity, roles,
    Counts.ofTally_complete, Counts.ofTally_complete, activations, matched, before, after]
  exact ⟨rfl, rfl, rfl, rfl⟩

/-- The second target has no activation of its own before it, and in the reversed trace it is
superseded by the first one. -/
theorem check_reverse_superseded :
    let o := ({} : Predicates).check .alternatePrecedence "A" "B"
      [⟨"A", .epoch, []⟩, ⟨"B", .epoch, []⟩, ⟨"B", .epoch, []⟩] true false
    let o' := ({} : Predicates).check .alternateResponse "B" "A"
      [⟨"B", .epoch, []⟩, ⟨"B", .epoch, []⟩, ⟨"A", .epoch, []⟩] true false
    "A" ≠ "B" ∧ Template.alternatePrecedence.ahead? = some .alternateResponse ∧
      (o.activations = o'.activations ∧ o.fulfillments = o'.fulfillments ∧
        o.violations = o'.violations ∧ o.verdict = o'.verdict) ∧
      o = ⟨some 2, some 1, some 1, none, .violated⟩ := by
  intro o o'
  have distinct : "A" ≠ "B" := by decide
  exact ⟨distinct, rfl, check_reverse {} distinct
    [⟨"A", .epoch, []⟩, ⟨"B", .epoch, []⟩, ⟨"B", .epoch, []⟩] false rfl, by decide⟩

end Predicates

end Declare
