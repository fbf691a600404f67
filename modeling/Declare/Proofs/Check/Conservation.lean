import Declare.Proofs.Check.Places
import Declare.Proofs.Check.Verdict
import Mathlib.Algebra.Ring.Nat

/-!
# Conservation of activations

Each activation of a constraint is fulfilled, violated or pending, and is so once
(`Compiled.check_conserves`). On traces of fewer than 2^31 events the counts can be kept in 32-bit
words: with subtractions that must not fall below zero and additions that must not leave the words
(`Compiled.checkInWords?`), every check goes through and has the same outcome.

In words, scans that match activations wherever their target is have no remainder to subtract: what
was not matched still waits (`Relation.settles`).
-/

namespace Declare

variable {α : Type}

namespace Word

/-- The difference of two words, if it is not below zero. -/
def sub? (m n : Nat) : Option Nat :=
  if n ≤ m then some (m - n) else none

/-- The sum of two words, if it is a word again. -/
def add? (m n : Nat) : Option Nat :=
  if m + n < UInt32.size then some (m + n) else none

theorem sub?_eq_some {m n : Nat} (h : n ≤ m) : sub? m n = some (m - n) :=
  if_pos h

theorem add?_eq_some {m n : Nat} (h : m + n < UInt32.size) : add? m n = some (m + n) :=
  if_pos h

end Word

/-- Whether the scan keeps every activation until it is matched. -/
def Relation.settles : Relation → Bool
  | anywhere | later => true
  | beforeNext | next | earlier | sincePrevious | previous => false

namespace Counts

/-- The counts of a scan of which every activation is matched or waits. -/
def settle (t : Tally) (complete negative : Bool) : Counts :=
  let resolved := if complete then t.waiting else 0
  { activations := t.activations
    fulfillments := if negative then resolved else t.matched
    violations := if negative then t.matched else resolved
    pendings := some (if complete then 0 else t.waiting) }

/-- The counts of a scan of which every activation is matched, pending or the opposite of matched,
in words. -/
def remainder? (t : Tally) (pendings : Option Nat) (negative : Bool) : Option Counts := do
  let unmatched ← Word.sub? (← Word.sub? t.activations t.matched) (pendings.getD 0)
  some
    { activations := t.activations
      fulfillments := if negative then unmatched else t.matched
      violations := if negative then t.matched else unmatched
      pendings }

/-- The counts that a scan of a trace amounts to, in words. -/
def ofTally? (relation : Relation) (t : Tally) (complete negative : Bool) : Option Counts :=
  if relation.settles then some (settle t complete negative)
  else
    let pendings := if relation.looksBack then none else some (if complete then 0 else t.waiting)
    remainder? t pendings negative

/-- The sum of two counts of pendings in words. -/
def addPendings? : Option Nat → Option Nat → Option (Option Nat)
  | none, none => some none
  | m, n => (Word.add? (m.getD 0) (n.getD 0)).map some

/-- The counts of two constraints together, in words. -/
def merge? (c d : Counts) : Option Counts := do
  let activations ← Word.add? c.activations d.activations
  let fulfillments ← Word.add? c.fulfillments d.fulfillments
  let violations ← Word.add? c.violations d.violations
  let pendings ← addPendings? c.pendings d.pendings
  some { activations, fulfillments, violations, pendings }

end Counts

namespace Predicates

/-- The counts of a template that is not derived from others, in words. -/
def relationCounts? (p : Predicates) (template : Template) (a b : String) (events : List Event)
    (complete : Bool) : Option Counts :=
  match template.relation? with
  | some relation =>
    let tally := relation.tally (p.roles relation a b) events
    Counts.ofTally? relation tally complete template.isNegative
  | none => some {}

/-- The counts of a component, for which the activities may change places, in words. -/
def componentCounts? (p : Predicates) (a b : String) (events : List Event) (complete : Bool)
    (component : Template × Bool) : Option Counts :=
  if component.2 then p.relationCounts? component.1 b a events complete
  else p.relationCounts? component.1 a b events complete

/-- The counts of a template in words. -/
def counts? (p : Predicates) (template : Template) (a b : String) (events : List Event)
    (complete : Bool) : Option Counts :=
  if template.isDerived then
    template.components.foldlM
      (fun sum component => do sum.merge? (← p.componentCounts? a b events complete component)) {}
  else p.relationCounts? template a b events complete

end Predicates

/-- Checks a constraint on the events of a trace with counts in words; nothing if a subtraction
falls below zero or an addition leaves the words. -/
def Compiled.checkInWords? (c : Compiled) (events : List Event) (complete vacuity : Bool) :
    Option Outcome :=
  let template := c.constraint.template
  let a := c.constraint.activities.getD 0 ""
  let b := c.constraint.activities.getD 1 ""
  let n := c.constraint.cardinality.elim 1 (·.toNat)
  match c.predicates.verdict? template a b n events complete with
  | some verdict => some { verdict }
  | none =>
    (c.predicates.counts? template a b events complete).map
      (·.outcome complete vacuity template.isNegative)

namespace Forward

variable {r : Roles α} {s : Forward α}

theorem settled_later (h : s.matched + s.waiting.length = s.activations) (e : α) :
    (s.later r e).matched + (s.later r e).waiting.length = (s.later r e).activations := by
  rw [later]
  split
  · simp only [activate, List.length_cons]
    omega
  · split
    · have split := countP_add_length_filter_not (r.correlates · e) s.waiting
      simp only [discharge]
      omega
    · exact h

theorem settled_foldl_later (h : s.matched + s.waiting.length = s.activations) (events : List α) :
    (events.foldl (later r) s).matched + (events.foldl (later r) s).waiting.length =
      (events.foldl (later r) s).activations := by
  induction events generalizing s with
  | nil => exact h
  | cons e events ih => exact ih (settled_later h e)

end Forward

theorem Relation.settled_tally {relation : Relation} (h : relation.settles) (r : Roles α)
    (events : List α) :
    (relation.tally r events).matched + (relation.tally r events).waiting =
      (relation.tally r events).activations := by
  cases relation with
  | anywhere =>
      rw [tally_anywhere]
      exact countP_add_length_filter_not _ _
  | later => exact Forward.settled_foldl_later rfl events
  | _ => cases h

theorem Relation.activations_le_length (relation : Relation) (r : Roles α) (events : List α) :
    (relation.tally r events).activations ≤ events.length := by
  rw [tally_activations]
  exact List.countP_le_length

namespace Counts

theorem settle_eq_ofTally {t : Tally} (settled : t.matched + t.waiting = t.activations)
    (complete negative : Bool) :
    settle t complete negative = ofTally t false complete negative := by
  have unmatched : t.activations - t.matched - (if complete then 0 else t.waiting) =
      if complete then t.waiting else 0 := by
    cases complete <;> simp only [Bool.false_eq_true, ↓reduceIte] <;> omega
  simp only [settle, ofTally, Bool.false_eq_true, ↓reduceIte, Option.getD_some, unmatched]

theorem remainder?_eq_some {t : Tally} (sound : t.Sound) {pendings : Option Nat}
    (waiting : pendings.getD 0 ≤ t.waiting) (negative : Bool) :
    remainder? t pendings negative =
      let unmatched := t.activations - t.matched - pendings.getD 0
      some
        { activations := t.activations
          fulfillments := if negative then unmatched else t.matched
          violations := if negative then t.matched else unmatched
          pendings } := by
  rw [Tally.Sound] at sound
  have first : t.matched ≤ t.activations := by omega
  have second : pendings.getD 0 ≤ t.activations - t.matched := by omega
  simp only [remainder?, Word.sub?_eq_some first, Option.bind_eq_bind, Option.bind_some,
    Word.sub?_eq_some second]

/-- The counts of a trace in words are its counts. -/
theorem ofTally?_eq_some (relation : Relation) (r : Roles α) (events : List α)
    (complete negative : Bool) :
    ofTally? relation (relation.tally r events) complete negative =
      some (ofTally (relation.tally r events) relation.looksBack complete negative) := by
  rw [ofTally?]
  split
  · next settles =>
      have ahead : relation.looksBack = false := by
        cases relation <;> first | rfl | cases settles
      rw [settle_eq_ofTally (Relation.settled_tally settles r events), ahead]
  · apply remainder?_eq_some (Relation.sound_tally relation r events)
    cases relation.looksBack <;> cases complete <;> simp

/-- No count is above `n`. -/
structure Within (c : Counts) (n : Nat) : Prop where
  activations : c.activations ≤ n
  fulfillments : c.fulfillments ≤ n
  violations : c.violations ≤ n
  pendings : c.pendings.getD 0 ≤ n

variable {c d : Counts} {m n : Nat}

theorem Within.mono (h : c.Within m) (le : m ≤ n) : c.Within n :=
  ⟨Nat.le_trans h.activations le, Nat.le_trans h.fulfillments le, Nat.le_trans h.violations le,
    Nat.le_trans h.pendings le⟩

theorem Within.merge (first : c.Within m) (second : d.Within n) : (c.merge d).Within (m + n) where
  activations := Nat.add_le_add first.activations second.activations
  fulfillments := Nat.add_le_add first.fulfillments second.fulfillments
  violations := Nat.add_le_add first.violations second.violations
  pendings := by
    simp only [Counts.merge, getD_addPendings]
    exact Nat.add_le_add first.pendings second.pendings

theorem addPendings?_eq_some {x y : Option Nat} (h : x.getD 0 + y.getD 0 < UInt32.size) :
    addPendings? x y = some (addPendings x y) := by
  cases x <;> cases y <;> simp [addPendings?, addPendings, Word.add?] at h ⊢ <;> exact h

/-- Counts that are small enough can be merged in words. -/
theorem merge?_eq_some (first : c.Within m) (second : d.Within n) (small : m + n < UInt32.size) :
    c.merge? d = some (c.merge d) := by
  obtain ⟨a, f, v, p⟩ := first
  obtain ⟨a', f', v', p'⟩ := second
  simp only [merge?, Word.add?_eq_some (show c.activations + d.activations < _ by omega),
    Word.add?_eq_some (show c.fulfillments + d.fulfillments < _ by omega),
    Word.add?_eq_some (show c.violations + d.violations < _ by omega),
    addPendings?_eq_some (show c.pendings.getD 0 + d.pendings.getD 0 < _ by omega),
    Option.bind_eq_bind, Option.bind_some]
  rfl

/-- The parts of a sound tally are at most its activations. -/
theorem Reports.within {t : Tally} {complete negative : Bool} (h : c.Reports t complete negative)
    (sound : t.Sound) : c.Within t.activations := by
  obtain ⟨activations, fulfillments, violations, pendings⟩ := h
  have unmatched : t.unmatched complete ≤ t.activations := by
    rw [Tally.Sound] at sound
    rw [Tally.unmatched, Tally.lapsed]
    split <;> omega
  rw [Tally.Sound] at sound
  constructor
  · omega
  · rw [fulfillments]
    split <;> omega
  · rw [violations]
    split <;> omega
  · rw [pendings]
    split <;> omega

/-- What is matched, unmatched and pending make up the activations. -/
theorem Reports.conserves {t : Tally} {complete negative : Bool}
    (h : c.Reports t complete negative) (sound : t.Sound) :
    c.activations = c.fulfillments + c.violations + c.pendings.getD 0 := by
  obtain ⟨activations, fulfillments, violations, pendings⟩ := h
  rw [activations, fulfillments, violations, pendings]
  rw [Tally.Sound] at sound
  cases complete <;> cases negative <;>
    simp only [Tally.unmatched, Tally.lapsed, Bool.false_eq_true, ↓reduceIte] <;> omega

end Counts

namespace Predicates

variable (p : Predicates) (a b : String) (events : List Event) (complete : Bool)

theorem relationCounts?_eq_some (template : Template) :
    p.relationCounts? template a b events complete =
      some (p.relationCounts template a b events complete) := by
  rw [relationCounts?, relationCounts]
  cases template.relation? with
  | none => rfl
  | some relation => exact Counts.ofTally?_eq_some ..

theorem within_relationCounts (template : Template) :
    (p.relationCounts template a b events complete).Within events.length := by
  have bounded : (p.relationTally a b events template).activations ≤ events.length := by
    rw [relationTally]
    cases template.relation? with
    | none => exact Nat.zero_le _
    | some relation => exact relation.activations_le_length _ _
  exact ((p.reports_relationCounts a b events template complete).within
    (p.sound_relationTally a b events template)).mono bounded

/-- The counts of a component, for which the activities may change places. -/
def componentCounts (component : Template × Bool) : Counts :=
  if component.2 then p.relationCounts component.1 b a events complete
  else p.relationCounts component.1 a b events complete

theorem componentCounts?_eq_some (component : Template × Bool) :
    p.componentCounts? a b events complete component =
      some (p.componentCounts a b events complete component) := by
  rw [componentCounts?, componentCounts]
  split <;> exact relationCounts?_eq_some ..

theorem within_componentCounts (component : Template × Bool) :
    (p.componentCounts a b events complete component).Within events.length := by
  rw [componentCounts]
  split <;> exact within_relationCounts ..

/-- Components are merged in words if the trace is short enough for all of them together. -/
theorem foldlM_merge?_eq_some (components : List (Template × Bool)) {sum : Counts} {n : Nat}
    (within : sum.Within n) (small : n + components.length * events.length < UInt32.size) :
    components.foldlM
        (fun sum component => do
          sum.merge? (← p.componentCounts? a b events complete component)) sum =
      some (components.foldl
        (fun sum component => sum.merge (p.componentCounts a b events complete component))
        sum) := by
  induction components generalizing sum n with
  | nil => rfl
  | cons component components ih =>
      rw [List.length_cons, Nat.succ_mul] at small
      have here := p.within_componentCounts a b events complete component
      have merged := Counts.merge?_eq_some within here (by omega)
      rw [List.foldlM_cons, List.foldl_cons, componentCounts?_eq_some]
      simp only [Option.bind_eq_bind, Option.bind_some, merged]
      exact ih (within.merge here) (by omega)

/-- On short traces the counts of a template in words are its counts. -/
theorem counts?_eq_some (template : Template) (short : events.length < 2 ^ 31) :
    p.counts? template a b events complete = some (p.counts template a b events complete) := by
  rw [counts?, counts]
  split
  · have two : template.components.length ≤ 2 := by cases template <;> decide
    have total := Nat.mul_le_mul_right events.length two
    apply foldlM_merge?_eq_some (n := 0)
    · exact ⟨Nat.le_refl 0, Nat.le_refl 0, Nat.le_refl 0, Nat.le_refl 0⟩
    · simp only [UInt32.size]
      omega
  · exact relationCounts?_eq_some ..

/-- The counts of a complete trace have nothing pending. -/
theorem pendings_counts_complete (template : Template) :
    (p.counts template a b events true).pendings = none ∨
      (p.counts template a b events true).pendings = some 0 := by
  have none_left := (p.reports_counts a b events template true).pendings
  cases h : (p.counts template a b events true).pendings with
  | none => exact .inl rfl
  | some n =>
      rw [h] at none_left
      exact .inr (congrArg some none_left)

end Predicates

/-- All templates count activations but the unary ones and the choices. -/
theorem Template.countsActivations_iff (t : Template) :
    t.countsActivations ↔
      t ∉ [existence, absence, exactly, init, ending, choice, exclusiveChoice] := by
  cases t <;> decide

namespace Compiled

/-- The outcome of a template that counts activations is made of its counts. -/
theorem check_eq_outcome (c : Compiled) (events : List Event) (complete vacuity : Bool)
    (counting : c.constraint.template.countsActivations) :
    let template := c.constraint.template
    let a := c.constraint.activities.getD 0 ""
    let b := c.constraint.activities.getD 1 ""
    c.check events complete vacuity =
        (c.predicates.counts template a b events complete).outcome complete vacuity
          template.isNegative ∧
      c.checkInWords? events complete vacuity =
        (c.predicates.counts? template a b events complete).map
          (·.outcome complete vacuity template.isNegative) := by
  intro template a b
  have uncounted : c.predicates.verdict? template a b
      (c.constraint.cardinality.elim 1 (·.toNat)) events complete = none := by
    rw [← Option.not_isSome_iff_eq_none, Predicates.isSome_verdict?, counting]
    decide
  rw [check, checkInWords?, uncounted]
  exact ⟨rfl, rfl⟩

/-- A constraint that counts activations counts each of them once, as fulfilled, violated or
pending. On a complete trace nothing is pending, and on a short one words are enough to count. -/
theorem check_conserves (c : Compiled) (events : List Event) (complete vacuity : Bool)
    (counting : c.constraint.template ∉
      [.existence, .absence, .exactly, .init, .ending, .choice, .exclusiveChoice])
    (short : events.length < 2 ^ 31) :
    let o := c.check events complete vacuity
    (∃ n fulfilled violated, o.activations = some n ∧ o.fulfillments = some fulfilled ∧
        o.violations = some violated ∧ n = fulfilled + violated + o.pendings.getD 0) ∧
      (complete = true → o.pendings = none ∨ o.pendings = some 0) ∧
      c.checkInWords? events complete vacuity = some o := by
  intro o
  obtain ⟨counted, words⟩ := c.check_eq_outcome events complete vacuity
    ((Template.countsActivations_iff _).2 counting)
  rw [Predicates.counts?_eq_some _ _ _ _ _ _ short] at words
  refine ⟨?_, ?_, ?_⟩
  · rw [show o = _ from counted]
    exact ⟨_, _, _, rfl, rfl, rfl,
      (Predicates.reports_counts ..).conserves (Predicates.sound_tally ..)⟩
  · rintro rfl
    rw [show o = _ from counted]
    exact Predicates.pendings_counts_complete ..
  · rw [words, show o = _ from counted]
    rfl

/-- With coinciding activities, one activation of the alternate response is superseded and one
waits; the alternate precedence has none. -/
theorem check_conserves_coinciding :
    let c : Compiled := { constraint := .binary .alternateSuccession "A" "A" }
    let events : List Event := [⟨"A", .epoch, []⟩, ⟨"A", .epoch, []⟩]
    let o := c.check events false false
    c.constraint.template ∉
        [.existence, .absence, .exactly, .init, .ending, .choice, .exclusiveChoice] ∧
      events.length < 2 ^ 31 ∧
      ((∃ n fulfilled violated, o.activations = some n ∧ o.fulfillments = some fulfilled ∧
          o.violations = some violated ∧ n = fulfilled + violated + o.pendings.getD 0) ∧
        (false = true → o.pendings = none ∨ o.pendings = some 0) ∧
        c.checkInWords? events false false = some o) ∧
      o = ⟨some 2, some 0, some 1, some 1, .violated⟩ := by
  intro c events o
  have counting : c.constraint.template ∉
      [.existence, .absence, .exactly, .init, .ending, .choice, .exclusiveChoice] := by decide
  have short : events.length < 2 ^ 31 := by decide
  exact ⟨counting, short, c.check_conserves events false false counting short, by decide⟩

end Compiled

end Declare
