import Declare.Check.Tally

/-!
# Tallies of growing traces

The activations of a scan fall into three parts: those that are matched, those that wait, and those
that can no longer be matched (`Tally.lapsed`). Every step of a scan keeps them apart
(`Tally.Sound`), and no event that follows takes back an activation, a match or a lapse
(`Tally.Grows`). Both facts are proved for the moves that steps are made of, and from these for the
steps and for whole scans.
-/

namespace Declare

variable {α σ : Type}

namespace Tally

/-- The number of activations that neither are matched nor may yet be. -/
def lapsed (t : Tally) : Nat :=
  t.activations - (t.matched + t.waiting)

/-- Activations that are matched and activations that wait are different ones. -/
def Sound (t : Tally) : Prop :=
  t.matched + t.waiting ≤ t.activations

/-- What a tally counts for good is still counted in a later one. -/
structure Grows (t u : Tally) : Prop where
  activations : t.activations ≤ u.activations
  matched : t.matched ≤ u.matched
  lapsed : t.lapsed ≤ u.lapsed

/-- Soundness carries over to a later tally, which then counts no less. -/
def Advances (t u : Tally) : Prop :=
  t.Sound → u.Sound ∧ t.Grows u

theorem Grows.refl (t : Tally) : t.Grows t :=
  ⟨Nat.le_refl _, Nat.le_refl _, Nat.le_refl _⟩

theorem Grows.trans {t u v : Tally} (first : t.Grows u) (second : u.Grows v) : t.Grows v :=
  ⟨Nat.le_trans first.activations second.activations,
    Nat.le_trans first.matched second.matched, Nat.le_trans first.lapsed second.lapsed⟩

theorem Advances.refl (t : Tally) : t.Advances t :=
  fun sound => ⟨sound, .refl t⟩

theorem Advances.trans {t u v : Tally} (first : t.Advances u) (second : u.Advances v) :
    t.Advances v := by
  intro sound
  obtain ⟨middle, grows⟩ := first sound
  obtain ⟨finish, grows'⟩ := second middle
  exact ⟨finish, grows.trans grows'⟩

/-- A move advances a tally if it matches and lets wait at most the activations that it adds. -/
theorem advances_of_le {t u : Tally} (activations : t.activations ≤ u.activations)
    (matched : t.matched ≤ u.matched)
    (covered : u.matched + u.waiting + t.activations ≤
      t.matched + t.waiting + u.activations) : t.Advances u := by
  intro sound
  rw [Sound] at sound
  refine ⟨?_, ⟨activations, matched, ?_⟩⟩
  · rw [Sound]
    omega
  · rw [lapsed, lapsed]
    omega

theorem sound_empty : Sound {} :=
  Nat.le_refl _

/-- A scan advances if each of its steps does. -/
theorem advances_foldl (view : σ → Tally) (step : σ → α → σ)
    (h : ∀ s e, (view s).Advances (view (step s e))) (events : List α) (s : σ) :
    (view s).Advances (view (events.foldl step s)) := by
  induction events generalizing s with
  | nil => exact .refl _
  | cons e events ih => exact (h s e).trans (ih (step s e))

end Tally

theorem countP_add_length_filter_not (p : α → Bool) (l : List α) :
    l.countP p + (l.filter fun a => !p a).length = l.length := by
  simpa [List.countP_eq_length_filter] using
    (List.length_eq_countP_add_countP p (l := l)).symm

/-- Elements that satisfy `p`, and those of the others that satisfy `q`. -/
theorem countP_add_countP_filter_not (p q : α → Bool) (l : List α) :
    l.countP p + (l.filter fun a => !p a).countP q = l.countP fun a => p a || q a := by
  induction l with
  | nil => rfl
  | cons a l ih =>
      cases h : p a <;> simp [h, List.countP_cons] at ih ⊢ <;> omega

namespace Forward

open Tally

variable (r : Roles α) (s : Forward α) (e : α)

theorem advances_discharge : s.tally.Advances (s.discharge r e).tally := by
  have split := countP_add_length_filter_not (r.correlates · e) s.waiting
  refine advances_of_le (Nat.le_refl _) (Nat.le_add_right _ _) ?_
  simp only [tally, discharge]
  omega

theorem advances_activate : s.tally.Advances (s.activate e).tally := by
  refine advances_of_le (Nat.le_succ _) (Nat.le_refl _) ?_
  simp only [tally, activate, List.length_cons]
  omega

theorem advances_supersede : s.tally.Advances (s.supersede e).tally := by
  refine advances_of_le (Nat.le_succ _) (Nat.le_refl _) ?_
  simp only [tally, supersede, List.length_singleton]
  omega

theorem advances_expire : s.tally.Advances s.expire.tally := by
  refine advances_of_le (Nat.le_refl _) (Nat.le_refl _) ?_
  simp only [tally, expire, List.length_nil]
  omega

theorem advances_later : s.tally.Advances (s.later r e).tally := by
  rw [later]
  split
  · exact advances_activate s e
  · split
    · exact advances_discharge r s e
    · exact .refl _

theorem advances_beforeNext : s.tally.Advances (s.beforeNext r e).tally := by
  rw [beforeNext]
  split
  · exact advances_supersede s e
  · split
    · exact advances_discharge r s e
    · exact .refl _

theorem advances_next : s.tally.Advances (s.next r e).tally := by
  -- what waited is discharged or not, and expires before the event itself may activate
  have discharged :
      s.tally.Advances (if r.isTarget e then s.discharge r e else s).expire.tally := by
    split
    · exact (advances_discharge r s e).trans (advances_expire _)
    · exact advances_expire s
  rw [next]
  split
  · exact discharged.trans (advances_activate _ e)
  · exact discharged

/-- Targets one after the other match the waiting activations that correlate with any of them. -/
theorem foldl_discharge (targets : List α) :
    targets.foldl (discharge r) s =
      { s with
        matched := s.matched + s.waiting.countP fun a => targets.any (r.correlates a)
        waiting := s.waiting.filter fun a => !targets.any (r.correlates a) } := by
  induction targets generalizing s with
  | nil =>
      have kept : s.waiting.filter (fun _ => true) = s.waiting :=
        List.filter_eq_self.2 fun _ _ => rfl
      simp [kept]
  | cons t targets ih =>
      have matched : s.waiting.countP (r.correlates · t) +
          (s.waiting.filter fun a => !r.correlates a t).countP
            (fun a => targets.any (r.correlates a)) =
          s.waiting.countP fun a => (t :: targets).any (r.correlates a) :=
        countP_add_countP_filter_not _ _ _
      rw [List.foldl_cons, ih]
      simp only [discharge, List.filter_filter, List.any_cons, Bool.not_or, Forward.mk.injEq,
        true_and]
      refine ⟨by simpa [Nat.add_assoc] using matched, ?_⟩
      congr 1
      funext a
      exact Bool.and_comm _ _

end Forward

namespace Backward

open Tally

variable (r : Roles α) (s : Backward α) (e : α)

theorem advances_activate : s.tally.Advances (s.activate r e).tally := by
  have matched : s.matched ≤ (s.activate r e).matched ∧
      (s.activate r e).matched ≤ s.matched + 1 := by
    rw [activate]
    dsimp only
    split <;> omega
  refine advances_of_le (Nat.le_succ _) matched.1 ?_
  simp only [tally, Nat.add_zero]
  rw [show (s.activate r e).activations = s.activations + 1 from rfl]
  omega

theorem advances_earlier : s.tally.Advances (s.earlier r e).tally := by
  rw [earlier]
  split
  · exact .refl _
  · split
    · exact advances_activate r s e
    · exact .refl _

theorem advances_sincePrevious : s.tally.Advances (s.sincePrevious r e).tally := by
  rw [sincePrevious]
  split
  · exact .refl _
  · split
    · exact advances_activate r s e
    · exact .refl _

theorem advances_previous : s.tally.Advances (s.previous r e).tally := by
  have activated : s.tally.Advances (if r.activates e then s.activate r e else s).tally := by
    split
    · exact advances_activate r s e
    · exact .refl _
  rw [previous]
  split <;> exact activated

end Backward

namespace Relation

open Tally

/-- The tally of a scan for targets anywhere in the trace. -/
theorem tally_anywhere (r : Roles α) (events : List α) :
    anywhere.tally r events =
      { activations := (events.filter r.activates).length
        matched := (events.filter r.activates).countP fun a =>
          (events.filter r.isTarget).any (r.correlates a)
        waiting := ((events.filter r.activates).filter fun a =>
          !(events.filter r.isTarget).any (r.correlates a)).length } := by
  simp only [tally, Forward.anywhere, Forward.foldl_discharge, Forward.tally, Nat.zero_add]

/-- A scan that looks back leaves nothing waiting. -/
theorem waiting_of_looksBack {relation : Relation} (h : relation.looksBack) (r : Roles α)
    (events : List α) : (relation.tally r events).waiting = 0 := by
  cases relation <;> first | rfl | cases h

private theorem sound_anywhere (r : Roles α) (events : List α) :
    (anywhere.tally r events).Sound := by
  rw [tally_anywhere]
  exact Nat.le_of_eq (countP_add_length_filter_not _ _)

private theorem grows_anywhere (r : Roles α) (events more : List α) :
    (anywhere.tally r events).Grows (anywhere.tally r (events ++ more)) := by
  rw [tally_anywhere, tally_anywhere]
  refine ⟨?_, ?_, ?_⟩
  · simp only [List.filter_append, List.length_append]
    omega
  · simp only [List.filter_append, List.countP_append, List.any_append]
    apply Nat.le_trans _ (Nat.le_add_right _ _)
    apply List.countP_mono_left
    intro a _ h
    rw [h, Bool.true_or]
  · -- all activations are matched or wait, so none has lapsed
    refine Nat.le_trans (Nat.le_of_eq ?_) (Nat.zero_le _)
    rw [lapsed, countP_add_length_filter_not, Nat.sub_self]

private theorem sound_and_grows_foldl (view : σ → Tally) (step : σ → α → σ)
    (h : ∀ s e, (view s).Advances (view (step s e))) (start : σ) (sound : (view start).Sound)
    (events more : List α) :
    (view (events.foldl step start)).Sound ∧
      (view (events.foldl step start)).Grows (view ((events ++ more).foldl step start)) := by
  have reached := (advances_foldl view step h events start sound).1
  rw [List.foldl_append]
  exact ⟨reached, (advances_foldl view step h more _ reached).2⟩

private theorem sound_and_grows (relation : Relation) (r : Roles α) (events more : List α) :
    (relation.tally r events).Sound ∧
      (relation.tally r events).Grows (relation.tally r (events ++ more)) := by
  cases relation with
  | anywhere => exact ⟨sound_anywhere r events, grows_anywhere r events more⟩
  | later => exact sound_and_grows_foldl _ _ (Forward.advances_later r) {} sound_empty events more
  | beforeNext =>
      exact sound_and_grows_foldl _ _ (Forward.advances_beforeNext r) {} sound_empty events more
  | next => exact sound_and_grows_foldl _ _ (Forward.advances_next r) {} sound_empty events more
  | earlier =>
      exact sound_and_grows_foldl _ _ (Backward.advances_earlier r) {} sound_empty events more
  | sincePrevious =>
      exact sound_and_grows_foldl _ _ (Backward.advances_sincePrevious r) {} sound_empty events more
  | previous =>
      exact sound_and_grows_foldl _ _ (Backward.advances_previous r) {} sound_empty events more

/-- The tally of a trace is sound. -/
theorem sound_tally (relation : Relation) (r : Roles α) (events : List α) :
    (relation.tally r events).Sound :=
  (sound_and_grows relation r events []).1

/-- No later event takes back what a tally counts for good. -/
theorem grows_tally_append (relation : Relation) (r : Roles α) (events more : List α) :
    (relation.tally r events).Grows (relation.tally r (events ++ more)) :=
  (sound_and_grows relation r events more).2

end Relation

end Declare
