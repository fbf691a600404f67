import Declare.Check.Outcome
import Declare.Proofs.Check.Tally

/-!
# Counts and tallies

The counts of a constraint are read off a tally of the trace: that of its relation, or the sum of
those of its components. What the counts of any template say is stated once (`Counts.Reports`), so
that verdicts are derived from sound tallies and not from the scans behind them.
-/

namespace Declare

namespace Tally

instance : Add Tally where
  add t u :=
    { activations := t.activations + u.activations
      matched := t.matched + u.matched
      waiting := t.waiting + u.waiting }

theorem add_def (t u : Tally) :
    t + u = ⟨t.activations + u.activations, t.matched + u.matched, t.waiting + u.waiting⟩ := rfl

/-- The activations that stay without a match if the trace ends here, or already do. -/
def unmatched (t : Tally) (complete : Bool) : Nat :=
  t.lapsed + if complete then t.waiting else 0

theorem Sound.add {t u : Tally} (ht : t.Sound) (hu : u.Sound) : (t + u).Sound := by
  simp only [Sound, add_def] at *
  omega

theorem lapsed_add {t u : Tally} (ht : t.Sound) (hu : u.Sound) :
    (t + u).lapsed = t.lapsed + u.lapsed := by
  simp only [Sound, lapsed, add_def] at *
  omega

theorem unmatched_add {t u : Tally} (ht : t.Sound) (hu : u.Sound) (complete : Bool) :
    (t + u).unmatched complete = t.unmatched complete + u.unmatched complete := by
  rw [unmatched, lapsed_add ht hu]
  cases complete <;> simp only [unmatched, add_def, Bool.false_eq_true, ↓reduceIte] <;> omega

theorem Grows.add {t t' u u' : Tally} (first : t.Grows t') (second : u.Grows u')
    (ht : t.Sound) (hu : u.Sound) (ht' : t'.Sound) (hu' : u'.Sound) :
    (t + u).Grows (t' + u') where
  activations := Nat.add_le_add first.activations second.activations
  matched := Nat.add_le_add first.matched second.matched
  lapsed := by
    rw [lapsed_add ht hu, lapsed_add ht' hu']
    exact Nat.add_le_add first.lapsed second.lapsed

end Tally

namespace Counts

/-- The counts agree with a tally. Matches fulfil a positive template and violate a negative one; to
what stays without a match, the opposite happens. -/
structure Reports (c : Counts) (t : Tally) (complete negative : Bool) : Prop where
  activations : c.activations = t.activations
  fulfillments : c.fulfillments = if negative then t.unmatched complete else t.matched
  violations : c.violations = if negative then t.matched else t.unmatched complete
  pendings : c.pendings.getD 0 = if complete then 0 else t.waiting

theorem Reports.empty (complete negative : Bool) : Reports {} {} complete negative := by
  cases complete <;> cases negative <;> exact ⟨rfl, rfl, rfl, rfl⟩

@[simp] theorem getD_addPendings (m n : Option Nat) :
    (addPendings m n).getD 0 = m.getD 0 + n.getD 0 := by
  cases m <;> cases n <;> simp [addPendings]

theorem Reports.merge {c d : Counts} {t u : Tally} {complete negative : Bool}
    (first : c.Reports t complete negative) (second : d.Reports u complete negative)
    (ht : t.Sound) (hu : u.Sound) : (c.merge d).Reports (t + u) complete negative where
  activations := by
    simp only [Counts.merge, first.activations, second.activations, Tally.add_def]
  fulfillments := by
    simp only [Counts.merge, first.fulfillments, second.fulfillments, Tally.unmatched_add ht hu]
    cases negative <;> rfl
  violations := by
    simp only [Counts.merge, first.violations, second.violations, Tally.unmatched_add ht hu]
    cases negative <;> rfl
  pendings := by
    simp only [Counts.merge, getD_addPendings, first.pendings, second.pendings]
    cases complete <;> rfl

/-- A tally of which nothing waits, if its relation looks back, is reported by its counts. -/
theorem reports_ofTally {t : Tally} {looksBack : Bool} (back : looksBack → t.waiting = 0)
    (sound : t.Sound) (complete negative : Bool) :
    (ofTally t looksBack complete negative).Reports t complete negative := by
  have unmatched : t.activations - t.matched -
      (if looksBack then none else some (if complete then 0 else t.waiting)).getD 0 =
        t.unmatched complete := by
    simp only [Tally.Sound] at sound
    cases looksBack <;> cases complete <;> simp [Tally.unmatched, Tally.lapsed] at back ⊢ <;> omega
  constructor
  · rfl
  · simp only [ofTally, unmatched]
  · simp only [ofTally, unmatched]
  · cases looksBack <;> cases complete <;> simp [ofTally] at back ⊢
    exact back.symm

end Counts

namespace Predicates

open Tally

variable (p : Predicates) (a b : String) (events more : List Event)

/-- The tally of a template that is not derived from others. -/
def relationTally (template : Template) : Tally :=
  match template.relation? with
  | some relation => relation.tally (p.roles relation a b) events
  | none => {}

/-- The tally of a component, for which the activities may change places. -/
def componentTally (component : Template × Bool) : Tally :=
  if component.2 then p.relationTally b a events component.1
  else p.relationTally a b events component.1

/-- The tally of a template; that of a derived one is the sum over its components. -/
def tally (template : Template) : Tally :=
  if template.isDerived then
    (template.components.map (p.componentTally a b events)).foldl (· + ·) {}
  else p.relationTally a b events template

theorem sound_relationTally (template : Template) :
    (p.relationTally a b events template).Sound := by
  rw [relationTally]
  split
  · exact Relation.sound_tally ..
  · exact sound_empty

theorem grows_relationTally (template : Template) :
    (p.relationTally a b events template).Grows
      (p.relationTally a b (events ++ more) template) := by
  rw [relationTally, relationTally]
  split
  · exact Relation.grows_tally_append ..
  · exact .refl _

theorem sound_componentTally (component : Template × Bool) :
    (p.componentTally a b events component).Sound := by
  rw [componentTally]
  split <;> exact sound_relationTally ..

theorem grows_componentTally (component : Template × Bool) :
    (p.componentTally a b events component).Grows
      (p.componentTally a b (events ++ more) component) := by
  rw [componentTally, componentTally]
  split <;> exact grows_relationTally ..

private theorem sound_sum (components : List (Template × Bool)) (start : Tally)
    (sound : start.Sound) :
    ((components.map (p.componentTally a b events)).foldl (· + ·) start).Sound := by
  induction components generalizing start with
  | nil => exact sound
  | cons component components ih => exact ih _ (sound.add (sound_componentTally ..))

private theorem grows_sum (components : List (Template × Bool)) {start start' : Tally}
    (grows : start.Grows start') (sound : start.Sound) (sound' : start'.Sound) :
    ((components.map (p.componentTally a b events)).foldl (· + ·) start).Grows
      ((components.map (p.componentTally a b (events ++ more))).foldl (· + ·) start') := by
  induction components generalizing start start' with
  | nil => exact grows
  | cons component components ih =>
      have here := p.sound_componentTally a b events component
      have later := p.sound_componentTally a b (events ++ more) component
      exact ih
        (grows.add (p.grows_componentTally a b events more component) sound here sound' later)
        (sound.add here) (sound'.add later)

/-- The tally of any template is sound. -/
theorem sound_tally (template : Template) : (p.tally a b events template).Sound := by
  rw [tally]
  split
  · exact sound_sum p a b events _ {} sound_empty
  · exact sound_relationTally ..

/-- The tally of any template grows with the trace. -/
theorem grows_tally_append (template : Template) :
    (p.tally a b events template).Grows (p.tally a b (events ++ more) template) := by
  rw [tally, tally]
  split
  · exact grows_sum p a b events more _ (.refl _) sound_empty sound_empty
  · exact grows_relationTally ..

theorem reports_relationCounts (template : Template) (complete : Bool) :
    (p.relationCounts template a b events complete).Reports (p.relationTally a b events template)
      complete template.isNegative := by
  rw [relationCounts, relationTally]
  cases template.relation? with
  | none => exact .empty _ _
  | some relation =>
      exact Counts.reports_ofTally (fun back => Relation.waiting_of_looksBack back _ _)
        (Relation.sound_tally ..) _ _

private theorem reports_sum (negative complete : Bool) (components : List (Template × Bool))
    (polarity : ∀ component ∈ components, component.1.isNegative = negative)
    {counts : Counts} {start : Tally} (reports : counts.Reports start complete negative)
    (sound : start.Sound) :
    (components.foldl (fun sum (component, swapped) =>
        sum.merge
          (if swapped then p.relationCounts component b a events complete
            else p.relationCounts component a b events complete)) counts).Reports
      ((components.map (p.componentTally a b events)).foldl (· + ·) start) complete negative := by
  induction components generalizing counts start with
  | nil => exact reports
  | cons head components ih =>
      obtain ⟨component, swapped⟩ := head
      have here : (if swapped then p.relationCounts component b a events complete
          else p.relationCounts component a b events complete).Reports
            (p.componentTally a b events (component, swapped)) complete negative := by
        rw [← polarity _ List.mem_cons_self]
        cases swapped <;> exact reports_relationCounts ..
      have sound' := p.sound_componentTally a b events (component, swapped)
      exact ih (fun c mem => polarity c (List.mem_cons_of_mem _ mem))
        (reports.merge here sound sound') (sound.add sound')

/-- The counts of any template report its tally. -/
theorem reports_counts (template : Template) (complete : Bool) :
    (p.counts template a b events complete).Reports (p.tally a b events template) complete
      template.isNegative := by
  rw [counts, tally]
  split
  · exact reports_sum p a b events _ _ _
      (fun _ mem => (Template.relation?_isSome_of_mem_components mem).2) (.empty _ _) sound_empty
  · exact reports_relationCounts ..

end Predicates

end Declare
