import Declare.Proofs.Check.Tally

/-!
# Places in a trace

A place of a trace is one of its events with the events before and after it. Which activations a
scan counts as matched can be said of each place on its own, without the state of the scan: within
the reach of the relation there is a target that correlates with the activation
(`Relation.matchedAt`). The scans count the places for which that holds (`Relation.tally_matched`).

Reversing a trace turns its places around, and so exchanges what comes before an event and what
comes after it (`places_reverse`).
-/

namespace Declare

variable {α : Type}

/-- An event of a trace with those before and after it, on both sides the nearest one first. -/
structure Place (α : Type) where
  before : List α
  event : α
  after : List α

namespace Place

/-- The place with more events before all others. -/
def addBefore (earliest : List α) (p : Place α) : Place α :=
  { p with before := p.before ++ earliest }

/-- The place with more events after all others. -/
def addAfter (latest : List α) (p : Place α) : Place α :=
  { p with after := p.after ++ latest }

/-- The place of the event in the reversed trace. -/
def mirror (p : Place α) : Place α :=
  ⟨p.after, p.event, p.before⟩

end Place

/-- The places of the events of a trace, in a trace in which `before` precedes them. -/
def places (before : List α) : List α → List (Place α)
  | [] => []
  | e :: after => ⟨before, e, after⟩ :: places (e :: before) after

theorem places_append_before (before earliest events : List α) :
    places (before ++ earliest) events =
      (places before events).map (Place.addBefore earliest) := by
  induction events generalizing before with
  | nil => rfl
  | cons e events ih => exact congrArg (_ :: ·) (ih (e :: before))

theorem places_concat (before events : List α) (last : α) :
    places before (events ++ [last]) =
      (places before events).map (Place.addAfter [last]) ++
        [⟨events.reverse ++ before, last, []⟩] := by
  induction events generalizing before with
  | nil => rfl
  | cons e events ih =>
      rw [List.cons_append, places, places, ih (e :: before)]
      simp [Place.addAfter]

/-- Reversing a trace mirrors its places and reverses their order. -/
theorem places_reverse (events : List α) :
    places [] events.reverse = ((places [] events).map Place.mirror).reverse := by
  induction events with
  | nil => rfl
  | cons e events ih =>
      have first : places [e] events = (places [] events).map (Place.addBefore [e]) :=
        places_append_before [] [e] events
      rw [List.reverse_cons, places_concat, ih, places, first]
      simp only [List.reverse_reverse, List.append_nil, List.map_cons, List.reverse_cons,
        List.map_reverse, List.map_map]
      rfl

theorem map_event_places (before events : List α) :
    (places before events).map Place.event = events := by
  induction events generalizing before with
  | nil => rfl
  | cons e events ih => exact congrArg (e :: ·) (ih (e :: before))

theorem countP_event_places (before events : List α) (p : α → Bool) :
    (places before events).countP (fun place => p place.event) = events.countP p := by
  conv => rhs; rw [← map_event_places before events, List.countP_map]
  rfl

/-- A place divides the trace at its event. -/
theorem mem_places_iff {before events : List α} {p : Place α} :
    p ∈ places before events ↔
      ∃ earlier, events = earlier ++ p.event :: p.after ∧ p.before = earlier.reverse ++ before := by
  induction events generalizing before with
  | nil => simp [places]
  | cons e events ih =>
      rw [places, List.mem_cons, ih]
      constructor
      · rintro (rfl | ⟨earlier, split, known⟩)
        · exact ⟨[], rfl, rfl⟩
        · exact ⟨e :: earlier, by rw [split]; rfl, by simp [known]⟩
      · rintro ⟨earlier, split, known⟩
        cases earlier with
        | nil =>
            obtain ⟨rfl, rfl⟩ := List.cons.inj split
            exact .inl (congrArg (Place.mk · p.event p.after) known)
        | cons d earlier =>
            obtain ⟨rfl, later⟩ := List.cons.inj split
            exact .inr ⟨earlier, later, by simpa using known⟩

/-- The events around a place and its own make up the trace. -/
theorem reverse_append_of_mem_places {before events : List α} {p : Place α}
    (h : p ∈ places before events) :
    p.before.reverse ++ p.event :: p.after = before.reverse ++ events := by
  obtain ⟨earlier, split, known⟩ := mem_places_iff.1 h
  rw [known, split]
  simp

/-- Whether one of the events is a target that correlates with the activation. -/
def Roles.hasMatch (r : Roles α) (activation : α) (events : List α) : Bool :=
  events.any fun e => r.isTarget e && r.correlates activation e

namespace Relation

variable (relation : Relation) (r : Roles α)

/-- Whether the scan takes the event for an activation. An event that is a target, too, is none for
scans that know targets from afar. -/
def activatesAt (e : α) : Bool :=
  match relation with
  | earlier | sincePrevious => r.activates e && !r.isTarget e
  | anywhere | later | beforeNext | next | previous => r.activates e

/-- The events among which the relation looks for a target. -/
def reach (p : Place α) : List α :=
  match relation with
  | anywhere => p.before ++ p.event :: p.after
  | later => p.after.filter fun e => !r.activates e
  | beforeNext => p.after.takeWhile fun e => !r.activates e
  | next => p.after.take 1
  | earlier => p.before
  | sincePrevious => p.before.takeWhile fun e => r.isTarget e || !r.activates e
  | previous => p.before.take 1

/-- Whether there is an activation at the place, and in its reach a target that matches it. -/
def matchedAt (p : Place α) : Bool :=
  relation.activatesAt r p.event && r.hasMatch p.event (relation.reach r p)

end Relation

/-- A scan counts the events that one step counts. -/
theorem count_foldl {σ : Type} (count : σ → Nat) (step : σ → α → σ) (p : α → Bool)
    (h : ∀ s e, count (step s e) = count s + if p e then 1 else 0) (events : List α) (s : σ) :
    count (events.foldl step s) = count s + events.countP p := by
  induction events generalizing s with
  | nil => rfl
  | cons e events ih =>
      rw [List.foldl_cons, ih, h, List.countP_cons]
      omega

namespace Forward

variable (r : Roles α) (s : Forward α) (e : α)

theorem activations_later :
    (s.later r e).activations = s.activations + if r.activates e then 1 else 0 := by
  rw [later]
  split
  · rfl
  · split <;> rfl

theorem activations_beforeNext :
    (s.beforeNext r e).activations = s.activations + if r.activates e then 1 else 0 := by
  rw [beforeNext]
  split
  · rfl
  · split <;> rfl

theorem activations_next :
    (s.next r e).activations = s.activations + if r.activates e then 1 else 0 := by
  have discharged :
      (if r.isTarget e then s.discharge r e else s).expire.activations = s.activations := by
    split <;> rfl
  rw [next]
  split
  · exact congrArg (· + 1) discharged
  · exact discharged

/-- A step keeps track of matches if it counts what it adds: the matches that waiting activations
have in the rest of the trace are made by the step or left for later. -/
def Tracks (step : Forward α → α → Forward α) (reach : List α → List α) : Prop :=
  ∀ s e events,
    (step s e).matched + (step s e).waiting.countP (r.hasMatch · (reach events)) =
      s.matched + s.waiting.countP (r.hasMatch · (reach (e :: events))) +
        if r.activates e && r.hasMatch e (reach events) then 1 else 0

variable {r}

/-- A scan that keeps track of matches counts those of the activations that wait at its beginning
and those of the places after it. -/
theorem Tracks.matched_foldl {step : Forward α → α → Forward α} {reach : List α → List α}
    (h : Tracks r step reach) (nothing : reach [] = []) (before events : List α) :
    (events.foldl step s).matched =
      s.matched + s.waiting.countP (r.hasMatch · (reach events)) +
        (places before events).countP fun p =>
          r.activates p.event && r.hasMatch p.event (reach p.after) := by
  induction events generalizing s before with
  | nil => simp [places, nothing, Roles.hasMatch]
  | cons e events ih =>
      rw [List.foldl_cons, ih (step s e) (e :: before), h, places, List.countP_cons]
      dsimp only
      omega

theorem tracks_later : Tracks r (later r) (List.filter fun e => !r.activates e) := by
  intro s e events
  rw [later]
  cases activates : r.activates e with
  | true => simp [activate, activates, List.countP_cons, Nat.add_assoc]
  | false =>
      cases target : r.isTarget e with
      | true =>
          simp [discharge, activates, target, Nat.add_assoc, countP_add_countP_filter_not,
            Roles.hasMatch]
      | false => simp [activates, target, Roles.hasMatch]

theorem tracks_beforeNext : Tracks r (beforeNext r) (List.takeWhile fun e => !r.activates e) := by
  intro s e events
  rw [beforeNext]
  cases activates : r.activates e with
  | true => simp [supersede, activates, Roles.hasMatch]
  | false =>
      cases target : r.isTarget e with
      | true =>
          simp [discharge, activates, target, Nat.add_assoc, countP_add_countP_filter_not,
            Roles.hasMatch]
      | false => simp [activates, target, Roles.hasMatch]

theorem tracks_next : Tracks r (next r) (List.take 1) := by
  intro s e events
  rw [next]
  cases activates : r.activates e <;> cases target : r.isTarget e <;>
    simp [discharge, expire, activate, target, Roles.hasMatch]

end Forward

namespace Backward

variable (r : Roles α) (s : Backward α) (e : α)

theorem activations_earlier :
    (s.earlier r e).activations =
      s.activations + if r.activates e && !r.isTarget e then 1 else 0 := by
  rw [earlier]
  cases r.isTarget e <;> cases r.activates e <;> rfl

theorem activations_sincePrevious :
    (s.sincePrevious r e).activations =
      s.activations + if r.activates e && !r.isTarget e then 1 else 0 := by
  rw [sincePrevious]
  cases r.isTarget e <;> cases r.activates e <;> rfl

theorem activations_previous :
    (s.previous r e).activations = s.activations + if r.activates e then 1 else 0 := by
  rw [previous]
  cases r.isTarget e <;> cases r.activates e <;> rfl

/-- A step keeps track of what it knows if that stays the targets in reach of the next event, and it
counts an activation as matched if one of them correlates with it. -/
def Tracks (activates : α → Bool) (step : Backward α → α → Backward α)
    (reach : List α → List α) : Prop :=
  ∀ s e before, s.known = (reach before).filter r.isTarget →
    (step s e).known = (reach (e :: before)).filter r.isTarget ∧
      (step s e).matched =
        s.matched + if activates e && r.hasMatch e (reach before) then 1 else 0

theorem any_filter_isTarget (events : List α) :
    (events.filter r.isTarget).any (r.correlates e) = r.hasMatch e events := by
  rw [List.any_filter, Roles.hasMatch]

variable {r s}

theorem matched_activate {before : List α} (known : s.known = before.filter r.isTarget) :
    (s.activate r e).matched = s.matched + if r.hasMatch e before then 1 else 0 := by
  rw [activate, known, any_filter_isTarget]
  dsimp only
  split <;> rfl

/-- A scan that keeps track of what it knows counts the places where an activation is matched. -/
theorem Tracks.matched_foldl {activates : α → Bool} {step : Backward α → α → Backward α}
    {reach : List α → List α} (h : Tracks r activates step reach) {before : List α}
    (known : s.known = (reach before).filter r.isTarget) (events : List α) :
    (events.foldl step s).matched =
      s.matched + (places before events).countP fun p =>
        activates p.event && r.hasMatch p.event (reach p.before) := by
  induction events generalizing s before with
  | nil => rfl
  | cons e events ih =>
      obtain ⟨known', matched⟩ := h s e before known
      rw [List.foldl_cons, ih known', matched, places, List.countP_cons]
      dsimp only
      omega

variable (r)

theorem tracks_earlier :
    Tracks r (fun e => r.activates e && !r.isTarget e) (earlier r) fun before => before := by
  intro s e before known
  rw [earlier]
  cases target : r.isTarget e with
  | true => simp [learn, known, target]
  | false =>
      cases activates : r.activates e with
      | true =>
          refine ⟨?_, ?_⟩
          · simp [activate, known, target]
          · simpa [activates, target] using matched_activate e known
      | false => simp [known, target, activates]

theorem tracks_sincePrevious :
    Tracks r (fun e => r.activates e && !r.isTarget e) (sincePrevious r)
      (List.takeWhile fun e => r.isTarget e || !r.activates e) := by
  intro s e before known
  rw [sincePrevious]
  cases target : r.isTarget e with
  | true => simp [learn, known, target]
  | false =>
      cases activates : r.activates e with
      | true =>
          refine ⟨?_, ?_⟩
          · simp [forget, target, activates]
          · simpa [activates, target, forget] using matched_activate e known
      | false => simp [known, target, activates]

theorem tracks_previous : Tracks r r.activates (previous r) (List.take 1) := by
  intro s e before known
  rw [previous]
  cases activates : r.activates e with
  | true =>
      have matched := matched_activate e known
      cases target : r.isTarget e <;> simp [learn, forget, target, matched]
  | false => cases target : r.isTarget e <;> simp [learn, forget, target]

end Backward

namespace Relation

variable (relation : Relation) (r : Roles α) (events : List α)

/-- The activations of a trace. -/
theorem tally_activations :
    (relation.tally r events).activations = events.countP (relation.activatesAt r) := by
  have start {σ : Type} (count : σ → Nat) {step : σ → α → σ} {s : σ} (zero : count s = 0)
      (h : ∀ s e, count (step s e) = count s + if relation.activatesAt r e then 1 else 0) :
      count (events.foldl step s) = events.countP (relation.activatesAt r) := by
    rw [count_foldl count step _ h, zero, Nat.zero_add]
  cases relation with
  | anywhere =>
      rw [tally_anywhere]
      exact List.countP_eq_length_filter.symm
  | later => exact start Forward.activations rfl (Forward.activations_later r)
  | beforeNext => exact start Forward.activations rfl (Forward.activations_beforeNext r)
  | next => exact start Forward.activations rfl (Forward.activations_next r)
  | earlier => exact start Backward.activations rfl (Backward.activations_earlier r)
  | sincePrevious => exact start Backward.activations rfl (Backward.activations_sincePrevious r)
  | previous => exact start Backward.activations rfl (Backward.activations_previous r)

theorem hasMatch_around {p : Place α} (h : p ∈ places [] events) (activation : α) :
    r.hasMatch activation (p.before ++ p.event :: p.after) = r.hasMatch activation events := by
  have whole : p.before.reverse ++ p.event :: p.after = events :=
    reverse_append_of_mem_places h
  rw [← whole]
  simp [Roles.hasMatch]

theorem matched_anywhere :
    (anywhere.tally r events).matched = (places [] events).countP (anywhere.matchedAt r) := by
  have here (p : Place α) (h : p ∈ places [] events) :
      anywhere.matchedAt r p = (r.activates p.event && r.hasMatch p.event events) := by
    rw [matchedAt, reach, hasMatch_around r events h]
    rfl
  calc (anywhere.tally r events).matched
      = events.countP fun e => r.activates e && r.hasMatch e events := by
        rw [tally_anywhere]
        simp [List.countP_filter, Roles.hasMatch, Bool.and_comm]
    _ = (places [] events).countP fun p => r.activates p.event && r.hasMatch p.event events := by
        rw [← countP_event_places [] events]
    _ = (places [] events).countP (anywhere.matchedAt r) :=
        List.countP_congr fun p h => by rw [here p h]

/-- The scan counts an activation as matched exactly where a target matches it in its reach. -/
theorem tally_matched :
    (relation.tally r events).matched = (places [] events).countP (relation.matchedAt r) := by
  have start {m n : Nat} (h : m = 0 + n) : m = n := h.trans (Nat.zero_add n)
  cases relation with
  | anywhere => exact matched_anywhere r events
  | later => exact start (Forward.tracks_later.matched_foldl {} rfl [] events)
  | beforeNext => exact start (Forward.tracks_beforeNext.matched_foldl {} rfl [] events)
  | next => exact start (Forward.tracks_next.matched_foldl {} rfl [] events)
  | earlier => exact start ((Backward.tracks_earlier r).matched_foldl rfl events)
  | sincePrevious => exact start ((Backward.tracks_sincePrevious r).matched_foldl rfl events)
  | previous => exact start ((Backward.tracks_previous r).matched_foldl rfl events)

end Relation

end Declare
