import Declare.Proofs.Check.Pairs
import Mathlib.Data.Fintype.Fin
import Mathlib.Data.List.TakeWhile

/-!
# Places by their positions

A place of a trace is given by the position of its event. Counting places is counting positions, and
what a relation reaches from a place can be said with positions alone: a target at any position, at
a later one, or at a later one with no activation up to it. So the tally of a scan is a number of
positions that are described without the scan (`Relation.activations_eq_card`,
`Relation.matched_eq_card`).

A scan that looks for a target before the next activation leaves at most one activation waiting: the
last one, if nothing after it is a match (`Relation.waiting_beforeNext_eq_card`).
-/

namespace Declare

variable {α : Type}

/-- The place of the event at a position. -/
def placeAt (events : List α) (i : Fin events.length) : Place α :=
  ⟨(events.take i).reverse, events[i], events.drop (i + 1)⟩

/-- The elements in front of the first one without `q`, by their positions. -/
theorem exists_mem_takeWhile_iff {q : α → Bool} {P : α → Prop} {l : List α} :
    (∃ e ∈ l.takeWhile q, P e) ↔
      ∃ k, ∃ h : k < l.length, (∀ m, ∀ le : m ≤ k, q l[m]) ∧ P l[k] := by
  rw [List.takeWhile_eq_take_findIdx_not, List.exists_mem_iff_getElem]
  constructor
  · rintro ⟨k, bound, holds⟩
    rw [List.length_take, Nat.lt_min, List.lt_findIdx_iff] at bound
    obtain ⟨⟨inside, upTo⟩, -⟩ := bound
    rw [List.getElem_take] at holds
    exact ⟨k, inside, fun m le => by simpa using upTo m le, holds⟩
  · rintro ⟨k, inside, upTo, holds⟩
    have found : k < l.findIdx fun e => !q e :=
      (List.lt_findIdx_iff ..).2 ⟨inside, fun m le => by simpa using upTo m le⟩
    refine ⟨k, by rw [List.length_take]; omega, ?_⟩
    rwa [List.getElem_take]

section

variable {events : List α}

private theorem places_eq_map (before events : List α) :
    places before events =
      (List.finRange events.length).map fun i => (placeAt events i).addBefore before := by
  induction events generalizing before with
  | nil => rfl
  | cons e events ih =>
      have positions : List.finRange (e :: events).length =
          0 :: (List.finRange events.length).map Fin.succ := List.finRange_succ
      rw [places, ih (e :: before), positions, List.map_cons, List.map_map]
      congr 1
      refine List.map_congr_left fun i _ => ?_
      simp [placeAt, Place.addBefore]

theorem places_eq_map_placeAt (events : List α) :
    places [] events = (List.finRange events.length).map (placeAt events) := by
  rw [places_eq_map]
  refine List.map_congr_left fun i _ => ?_
  simp [Place.addBefore]

theorem placeAt_mem_places (i : Fin events.length) : placeAt events i ∈ places [] events := by
  rw [places_eq_map_placeAt]
  exact List.mem_map_of_mem (List.mem_finRange i)

/-- There are as many places with a property as positions of such places. -/
theorem countP_places (events : List α) (q : Place α → Bool) :
    (places [] events).countP q = (Finset.univ.filter fun i => q (placeAt events i)).card := by
  rw [places_eq_map_placeAt, List.countP_map, List.countP_eq_length_filter, Fin.univ_def]
  simp only [Finset.card_def, Finset.filter_val, Multiset.filter_coe, Multiset.coe_card,
    Function.comp_def, Bool.decide_eq_true]

/-- What comes after a place and in front of the first event without `q`, by positions. -/
theorem exists_mem_takeWhile_after_iff {i : Fin events.length} {q : α → Bool} {P : α → Prop} :
    (∃ e ∈ (placeAt events i).after.takeWhile q, P e) ↔
      ∃ j, i < j ∧ (∀ k, i < k → k ≤ j → q events[k]) ∧ P events[j] := by
  rw [placeAt, exists_mem_takeWhile_iff]
  simp only [List.getElem_drop, List.length_drop, Fin.getElem_fin, Fin.lt_def, Fin.le_def]
  constructor
  · rintro ⟨d, bound, upTo, holds⟩
    refine ⟨⟨i + 1 + d, by omega⟩, by dsimp only; omega, fun k less le => ?_, holds⟩
    have here := upTo (k - (i + 1)) (by dsimp only at le; omega)
    simpa only [Nat.add_sub_of_le less] using here
  · rintro ⟨j, less, upTo, holds⟩
    refine ⟨j - (i + 1), by omega, fun d le => ?_, ?_⟩
    · exact upTo ⟨i + 1 + d, by omega⟩ (by dsimp only; omega) (by dsimp only; omega)
    · simpa only [Nat.add_sub_of_le less] using holds

theorem exists_mem_after_iff {i : Fin events.length} {P : α → Prop} :
    (∃ e ∈ (placeAt events i).after, P e) ↔ ∃ j, i < j ∧ P events[j] := by
  have all : (placeAt events i).after.takeWhile (fun _ => true) = (placeAt events i).after :=
    List.takeWhile_eq_self_iff.2 fun _ _ => rfl
  rw [← all, exists_mem_takeWhile_after_iff]
  simp

end

/-- Whether an activation waits for a target before the next activation when the events have passed:
none of them took its place or matched it. -/
def Roles.waitsThrough (r : Roles α) (activation : α) (events : List α) : Bool :=
  !events.any r.activates && !r.hasMatch activation events

namespace Forward

variable (r : Roles α) (s : Forward α)

/-- The activations that wait through the rest of a trace are those that did before the step and do
after it, and the event of the step if it is one of them. -/
theorem countP_waiting_beforeNext (e : α) (events : List α) :
    (s.beforeNext r e).waiting.countP (r.waitsThrough · events) =
      s.waiting.countP (r.waitsThrough · (e :: events)) +
        if r.activates e && r.waitsThrough e events then 1 else 0 := by
  rw [beforeNext]
  cases activates : r.activates e with
  | true =>
      -- nothing that waited before an activation waits through it
      simp [supersede, Roles.waitsThrough, activates, List.countP_cons]
  | false =>
      cases target : r.isTarget e with
      | true =>
          simp only [discharge, Roles.waitsThrough, Roles.hasMatch, activates, target,
            List.any_cons, List.countP_filter, Bool.false_eq_true, ↓reduceIte, Bool.false_or,
            Bool.false_and, Bool.true_and, Bool.not_or, Nat.add_zero]
          congr 1
          funext a
          ac_rfl
      | false => simp [Roles.waitsThrough, Roles.hasMatch, activates, target]

/-- What waits at the end of a scan waited through all of it, or through what came after it. -/
theorem length_waiting_foldl_beforeNext (before events : List α) :
    (events.foldl (beforeNext r) s).waiting.length =
      s.waiting.countP (r.waitsThrough · events) +
        (places before events).countP fun p =>
          r.activates p.event && r.waitsThrough p.event p.after := by
  -- on what is left of the trace, for a scan that has come to any state
  induction events generalizing s before with
  | nil => simp [places, Roles.waitsThrough, Roles.hasMatch]
  | cons e events ih =>
      rw [List.foldl_cons, ih (s.beforeNext r e) (e :: before), countP_waiting_beforeNext, places,
        List.countP_cons]
      dsimp only
      omega

end Forward

namespace Relation

variable (r : Roles α) {events : List α} {i : Fin events.length}

theorem activations_eq_card (relation : Relation) (events : List α) :
    (relation.tally r events).activations =
      (Finset.univ.filter fun i : Fin events.length => relation.activatesAt r events[i]).card := by
  rw [tally_activations, ← countP_event_places [] events, countP_places]
  rfl

theorem matched_eq_card (relation : Relation) (events : List α) :
    (relation.tally r events).matched =
      (Finset.univ.filter fun i => relation.matchedAt r (placeAt events i)).card := by
  rw [tally_matched, countP_places]

theorem matchedAt_anywhere_iff :
    anywhere.matchedAt r (placeAt events i) ↔
      r.activates events[i] ∧
        ∃ j : Fin events.length, r.isTarget events[j] ∧ r.correlates events[i] events[j] := by
  rw [matchedAt, reach, hasMatch_around r events (placeAt_mem_places i), Bool.and_eq_true,
    Roles.hasMatch_iff, List.exists_mem_iff_get]
  rfl

theorem matchedAt_later_iff :
    later.matchedAt r (placeAt events i) ↔
      r.activates events[i] ∧
        ∃ j, i < j ∧ ¬r.activates events[j] ∧ r.isTarget events[j] ∧
          r.correlates events[i] events[j] := by
  rw [matchedAt, reach, Bool.and_eq_true, Roles.hasMatch_iff]
  simp only [List.mem_filter, and_assoc, exists_mem_after_iff, Bool.not_eq_true', Bool.not_eq_true]
  rfl

theorem matchedAt_beforeNext_iff :
    beforeNext.matchedAt r (placeAt events i) ↔
      r.activates events[i] ∧
        ∃ j, i < j ∧ (∀ k, i < k → k ≤ j → ¬r.activates events[k]) ∧ r.isTarget events[j] ∧
          r.correlates events[i] events[j] := by
  rw [matchedAt, reach, Bool.and_eq_true, Roles.hasMatch_iff, exists_mem_takeWhile_after_iff]
  simp only [Bool.not_eq_true', Bool.not_eq_true]
  rfl

theorem hasMatch_after_iff (activation : α) :
    r.hasMatch activation (placeAt events i).after ↔
      ∃ j, i < j ∧ r.isTarget events[j] ∧ r.correlates activation events[j] := by
  rw [Roles.hasMatch_iff, exists_mem_after_iff]

/-- An activation waits to the end if it is the last one and is not matched. -/
theorem waitsThrough_after_iff (activates : r.activates events[i]) :
    r.waitsThrough events[i] (placeAt events i).after ↔
      (∀ j, i < j → ¬r.activates events[j]) ∧ ¬beforeNext.matchedAt r (placeAt events i) := by
  have superseded : (placeAt events i).after.any r.activates ↔
      ∃ j, i < j ∧ r.activates events[j] := by
    rw [List.any_eq_true, exists_mem_after_iff]
  rw [Roles.waitsThrough, Bool.and_eq_true, Bool.not_eq_true', Bool.not_eq_true',
    ← Bool.not_eq_true, ← Bool.not_eq_true, superseded, hasMatch_after_iff,
    matchedAt_beforeNext_iff]
  push Not
  refine and_congr_right fun last => ?_
  constructor
  · exact fun unmatched _ j less _ => unmatched j less
  · exact fun unmatched j less => unmatched activates j less fun k after _ => last k after

/-- What waits in the end is the last activation, if it is not matched. -/
theorem waiting_beforeNext_eq_card (events : List α) :
    (beforeNext.tally r events).waiting =
      (Finset.univ.filter fun i : Fin events.length =>
        r.activates events[i] ∧ (∀ j, i < j → ¬r.activates events[j]) ∧
          ¬beforeNext.matchedAt r (placeAt events i)).card := by
  have counted : (beforeNext.tally r events).waiting =
      (places [] events).countP fun p => r.activates p.event && r.waitsThrough p.event p.after :=
    (Forward.length_waiting_foldl_beforeNext r {} [] events).trans (Nat.zero_add _)
  rw [counted, countP_places]
  congr 1
  refine Finset.filter_congr fun i _ => ?_
  rw [Bool.and_eq_true]
  exact and_congr_right fun activates => waitsThrough_after_iff r activates

end Relation

end Declare
