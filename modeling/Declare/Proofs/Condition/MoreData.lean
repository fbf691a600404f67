import Declare.Condition.Basic

/-!
# Conditions on events with more data

Attributes that are added to an event stand behind those that it has, so they never change a value
that was there (`Event.saysNoMore_addAll`). An atom is false as long as a value it speaks of is
missing, also a negated one. So a condition that holds goes on holding when its events get more
attributes, and when there comes to be a target at all (`Condition.eval_more_data`).
-/

namespace Declare

/-- The event with more attributes, which are added one after the other. -/
def Event.addAll (e : Event) (more : Attributes) : Event where
  activity := e.activity
  timestamp := e.timestamp
  attributes := more.foldl Attributes.add e.attributes

theorem Attributes.foldl_add (as more : Attributes) : more.foldl add as = as ++ more := by
  induction more generalizing as with
  | nil => exact (List.append_nil as).symm
  | cons a more ih => rw [List.foldl_cons, ih, add, List.append_assoc, List.singleton_append]

/-- A name refers to an attribute of the second list only if the first has none of that name. -/
theorem Attributes.value?_append (as more : Attributes) (key : String) :
    value? (as ++ more) key = (as.value? key).or (more.value? key) := by
  rw [value?, List.find?_append, Option.map_or]
  rfl

/-- Each value of the event is a value of the other one, under the same name. -/
def Event.SaysNoMore (e f : Event) : Prop :=
  ∀ key, ∀ v ∈ e.value? key, v ∈ f.value? key

theorem Event.SaysNoMore.refl (e : Event) : e.SaysNoMore e := by
  intro key v h
  exact h

theorem Event.saysNoMore_addAll (e : Event) (more : Attributes) : e.SaysNoMore (e.addAll more) := by
  intro key v h
  have found : e.attributes.value? key = some v := h
  change (more.foldl Attributes.add e.attributes).value? key = some v
  rw [Attributes.foldl_add, Attributes.value?_append, found, Option.some_or]

/-- If the first event is there, so is the second one, and says all that the first one says. -/
def SaysNoMore (t u : Option Event) : Prop :=
  ∀ e ∈ t, ∃ f ∈ u, e.SaysNoMore f

theorem SaysNoMore.refl (t : Option Event) : SaysNoMore t t := by
  intro e h
  exact ⟨e, h, .refl e⟩

theorem saysNoMore_none (u : Option Event) : SaysNoMore none u := by
  rintro e ⟨⟩

theorem saysNoMore_map_addAll (t : Option Event) (more : Attributes) :
    SaysNoMore t (t.map (·.addAll more)) := by
  intro e h
  exact ⟨e.addAll more, Option.mem_map_of_mem _ h, e.saysNoMore_addAll more⟩

theorem SaysNoMore.value? {t u : Option Event} (targets : SaysNoMore t u) {attr : String}
    {v : Value} (h : v ∈ t.bind (·.value? attr)) : v ∈ u.bind (·.value? attr) := by
  obtain ⟨e, there, found⟩ := Option.bind_eq_some_iff.1 h
  obtain ⟨f, there', more⟩ := targets e there
  exact Option.bind_eq_some_iff.2 ⟨f, there', more attr v found⟩

section

variable {a b : Event} {t u : Option Event} (events : a.SaysNoMore b) (targets : SaysNoMore t u)
include events targets

theorem Operand.value?_of_saysNoMore {o : Operand} {v : Value} (h : v ∈ o.value? a t) :
    v ∈ o.value? b u := by
  obtain ⟨side, attr⟩ := o
  cases side with
  | activation => exact events attr v h
  | target => exact targets.value? h

/-- What is said of a value holds only if the value is there, and then it stays as it is. -/
theorem Operand.any_of_saysNoMore {o : Operand} {p : Value → Bool}
    (h : (o.value? a t).any p = true) : (o.value? b u).any p = true := by
  obtain ⟨v, found, holds⟩ := (Option.any_eq_true _ _).1 h
  exact (Option.any_eq_true _ _).2 ⟨v, o.value?_of_saysNoMore events targets found, holds⟩

namespace Condition

omit events targets in
theorem both_eq_true {p : Value → Value → Bool} {v? w? : Option Value} :
    both p v? w? = true ↔ ∃ v ∈ v?, ∃ w ∈ w?, p v w = true := by
  cases v? <;> cases w? <;> simp [both]

/-- What is said of the values that two events have of an attribute needs both of them. -/
theorem both_of_saysNoMore {p : Value → Value → Bool} {attr : String}
    (h : both p (a.value? attr) (t.bind (·.value? attr)) = true) :
    both p (b.value? attr) (u.bind (·.value? attr)) = true := by
  obtain ⟨v, found, w, found', holds⟩ := both_eq_true.1 h
  exact both_eq_true.2 ⟨v, events attr v found, w, targets.value? found', holds⟩

/-- A condition that holds of events holds of events that say more. -/
theorem eval_of_saysNoMore {c : Condition} (h : c.eval a t = true) : c.eval b u = true := by
  induction c with
  | const value => exact h
  | and l r left right =>
      rw [eval, Bool.and_eq_true] at h ⊢
      exact ⟨left h.1, right h.2⟩
  | or l r left right =>
      rw [eval, Bool.or_eq_true] at h ⊢
      exact h.imp left right
  | is o value negated => exact o.any_of_saysNoMore events targets h
  | member o values negated => exact o.any_of_saysNoMore events targets h
  | compare o comparison bound =>
      rw [eval, Option.any_eq_true] at h ⊢
      obtain ⟨x, number, holds⟩ := h
      obtain ⟨v, found, read⟩ := Option.bind_eq_some_iff.1 number
      have found := o.value?_of_saysNoMore events targets found
      exact ⟨x, Option.bind_eq_some_iff.2 ⟨v, found, read⟩, holds⟩
  | same attr => exact both_of_saysNoMore events targets h
  | different attr => exact both_of_saysNoMore events targets h

end Condition

end

namespace Condition

/-- A condition that holds goes on holding when attributes are added to the activating event or to
the target, and when a missing target is replaced by any event. -/
theorem eval_more_data {c : Condition} {a : Event} {t : Option Event} (h : c.eval a t = true) :
    (∀ more, c.eval (a.addAll more) t = true) ∧
      (∀ more, c.eval a (t.map (·.addAll more)) = true) ∧
      (t = none → ∀ e, c.eval a (some e) = true) := by
  refine ⟨?_, ?_, ?_⟩
  · intro more
    exact eval_of_saysNoMore (a.saysNoMore_addAll more) (.refl t) h
  · intro more
    exact eval_of_saysNoMore (.refl a) (saysNoMore_map_addAll t more) h
  · rintro rfl e
    exact eval_of_saysNoMore (.refl a) (saysNoMore_none (some e)) h

/-- An event with a high risk. -/
def riskyEvent : Event where
  activity := "assess"
  timestamp := .epoch
  attributes := [⟨"risk", .string "high"⟩]

/-- The risk is not low, or the events differ in it. -/
def notLowRisk : Condition :=
  .or (.is ⟨.activation, "risk"⟩ "low" true) (.different "risk")

/-- A second risk, which is low, does not count, and a target with the same risk does no harm. -/
theorem eval_more_data_notLowRisk :
    notLowRisk.eval riskyEvent none = true ∧
      notLowRisk.eval (riskyEvent.addAll [⟨"risk", .string "low"⟩]) none = true ∧
      notLowRisk.eval riskyEvent (some riskyEvent) = true := by
  have holds : notLowRisk.eval riskyEvent none = true := by decide
  obtain ⟨added, -, target⟩ := eval_more_data holds
  exact ⟨holds, added _, target rfl riskyEvent⟩

end Condition

end Declare
