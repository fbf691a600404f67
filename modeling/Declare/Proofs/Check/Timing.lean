import Declare.Proofs.Check.Verdict

/-!
# Time windows of constraints without counts

A constraint that does not count activations can only hold, be it for good or so far, if an event of
one of its activities satisfies the activation condition. Where such events are counted, one of them
also lies in the time window, which is measured from the first event of the trace. What a trace
starts or ends with is looked at without the window. So only constraints on an end of the trace can
hold while no event is in time, and they do so exactly if the event at that end is all that the
constraint asks for but for the window (`Compiled.check_timed_iff`).
-/

namespace Declare

theorem Verdict.soFar_mem_iff {complete holds : Bool} :
    soFar complete holds ∈ [satisfied, possiblySatisfied] ↔ holds = true := by
  cases complete <;> cases holds <;> decide

/-- The event that a template looks at because of its place at an end of the trace. -/
def Template.endEvent? : Template → List Event → Option Event
  | init, events => events.head?
  | ending, events => events.getLast?
  | _, _ => none

theorem Template.mem_of_mem_endEvent? {t : Template} {events : List Event} {e : Event}
    (h : e ∈ t.endEvent? events) : e ∈ events := by
  cases t with
  | init => exact List.mem_of_head? h
  | ending => exact List.mem_of_getLast? h
  | _ => cases h

/-- The activities that the template looks at; one that is missing counts as the empty name. -/
def Constraint.operands (c : Constraint) : List String :=
  (List.range c.template.arity).map fun i => c.activities.getD i ""

theorem Constraint.first_mem_operands (c : Constraint) : c.activities.getD 0 "" ∈ c.operands := by
  refine List.mem_map_of_mem (List.mem_range.2 ?_)
  rw [Template.arity]
  split <;> decide

theorem Constraint.second_mem_operands {c : Constraint} (binary : c.template.isBinary) :
    c.activities.getD 1 "" ∈ c.operands := by
  refine List.mem_map_of_mem (List.mem_range.2 ?_)
  rw [Template.arity, if_pos binary]
  decide

namespace Predicates

variable (p : Predicates) (template : Template) (a b : String) (n : Nat) (events : List Event)

/-- Some event of the activity satisfies the activation condition and lies in the time window that
starts with the trace. -/
def OccursInTime (activity : String) : Prop :=
  ∃ first ∈ events.head?, ∃ e ∈ events, e.activity = activity ∧ p.activatesRelativeTo e first

theorem occurrences_pos_iff (activity : String) :
    0 < p.occurrences events activity ↔ p.OccursInTime events activity := by
  cases events with
  | nil => simp [occurrences, OccursInTime]
  | cons first rest =>
      rw [occurrences, List.countP_pos_iff]
      simp [OccursInTime]

variable {p template a b n events} {complete : Bool} {v : Verdict}

/-- The event at an end of the trace is enough for a constraint on that end, whatever the window. -/
theorem exists_verdict?_of_endEvent? {e : Event} (at_end : e ∈ template.endEvent? events)
    (occurrence : p.isOccurrence a e) :
    ∃ v, p.verdict? template a b n events complete = some v ∧
      v ∈ [.satisfied, .possiblySatisfied] := by
  cases template with
  | init =>
      obtain ⟨rest, rfl⟩ : ∃ rest, events = e :: rest := List.head?_eq_some_iff.1 at_end
      exact ⟨.satisfied, congrArg some (if_pos occurrence), List.mem_cons_self⟩
  | ending =>
      have last : events.getLast? = some e := at_end
      refine ⟨_, rfl, Verdict.soFar_mem_iff.2 ?_⟩
      rw [last]
      exact occurrence
  | _ => cases at_end

/-- A constraint without counts holds because of the event at an end of the trace, or because one of
its activities occurs in time. -/
theorem occursInTime_of_verdict?
    (uncounted : template ∈ [.existence, .exactly, .init, .ending, .choice, .exclusiveChoice])
    (counting : template ∈ [.existence, .exactly] → 1 ≤ n)
    (decided : p.verdict? template a b n events complete = some v)
    (holds : v ∈ [.satisfied, .possiblySatisfied]) :
    (∃ e ∈ template.endEvent? events, p.isOccurrence a e) ∨ p.OccursInTime events a ∨
      template.isBinary ∧ p.OccursInTime events b := by
  rw [← occurrences_pos_iff, ← occurrences_pos_iff]
  cases template with
  | existence =>
      have least := counting (by decide)
      obtain rfl := Option.some.inj decided
      split at holds
      · exact .inr (.inl (by omega))
      · cases Verdict.soFar_mem_iff.1 holds
  | exactly =>
      have least := counting (by decide)
      obtain rfl := Option.some.inj decided
      split at holds
      · simp at holds
      · have count := of_decide_eq_true (Verdict.soFar_mem_iff.1 holds)
        exact .inr (.inl (by omega))
  | init =>
      cases events with
      | nil =>
          obtain rfl := Option.some.inj decided
          cases Verdict.soFar_mem_iff.1 holds
      | cons first rest =>
          obtain rfl := Option.some.inj decided
          split at holds
          · next occurrence => exact .inl ⟨first, rfl, occurrence⟩
          · simp at holds
  | ending =>
      obtain rfl := Option.some.inj decided
      obtain ⟨last, found, occurrence⟩ :=
        (Option.any_eq_true _ _).1 (Verdict.soFar_mem_iff.1 holds)
      exact .inl ⟨last, found, occurrence⟩
  | choice =>
      obtain rfl := Option.some.inj decided
      split at holds
      · next occurs =>
          simp only [Bool.or_eq_true, decide_eq_true_eq] at occurs
          exact .inr (occurs.imp_right fun second => ⟨rfl, second⟩)
      · cases Verdict.soFar_mem_iff.1 holds
  | exclusiveChoice =>
      obtain rfl := Option.some.inj decided
      split at holds
      · simp at holds
      · have occurs := Verdict.soFar_mem_iff.1 holds
        simp only [Bool.or_eq_true, decide_eq_true_eq] at occurs
        exact .inr (occurs.imp_right fun second => ⟨rfl, second⟩)
  | _ => simp at uncounted

end Predicates

namespace Compiled

variable {c : Compiled} {events : List Event}

/-- The verdict on a constraint without counts. -/
theorem verdict?_eq_check
    (uncounted : c.constraint.template ∈
      [.existence, .exactly, .init, .ending, .choice, .exclusiveChoice])
    (events : List Event) (complete vacuity : Bool) :
    c.predicates.verdict? c.constraint.template (c.constraint.activities.getD 0 "")
        (c.constraint.activities.getD 1 "") (c.constraint.cardinality.elim 1 (·.toNat)) events
        complete =
      some (c.check events complete vacuity).verdict := by
  have decided := c.predicates.isSome_verdict? c.constraint.template
    (c.constraint.activities.getD 0 "") (c.constraint.activities.getD 1 "")
    (c.constraint.cardinality.elim 1 (·.toNat)) events complete
  have noCounts : c.constraint.template.countsActivations = false := by
    generalize c.constraint.template = template at uncounted
    revert template
    decide
  rw [noCounts] at decided
  obtain ⟨v, decided⟩ := Option.isSome_iff_exists.1 decided
  rw [check]
  simp only [decided]

/-- Some event of an activity of the constraint satisfies the activation condition and lies in the
time window that starts with the trace. -/
def OccursInTime (c : Compiled) (events : List Event) : Prop :=
  ∃ first ∈ events.head?, ∃ e ∈ events, e.activity ∈ c.constraint.operands ∧
    c.predicates.activatesRelativeTo e first

theorem occursInTime_of_activity {activity : String} (operand : activity ∈ c.constraint.operands)
    (occurs : c.predicates.OccursInTime events activity) : c.OccursInTime events := by
  obtain ⟨first, start, e, mem, rfl, inTime⟩ := occurs
  exact ⟨first, start, e, mem, operand, inTime⟩

theorem OccursInTime.exists_activates (occurs : c.OccursInTime events) :
    ∃ e ∈ events, e.activity ∈ c.constraint.operands ∧ c.predicates.activates e := by
  obtain ⟨first, -, e, mem, operand, inTime⟩ := occurs
  rw [Predicates.activatesRelativeTo, Bool.and_eq_true] at inTime
  exact ⟨e, mem, operand, inTime.1⟩

/-- A constraint without counts holds only if an event satisfies its activation condition. That such
an event is also in time fails only for constraints on an end of the trace: if the event at that end
satisfies the activation condition, but neither it nor any other one does so in time. -/
theorem check_timed_iff (c : Compiled) (events : List Event) (complete vacuity : Bool)
    (uncounted : c.constraint.template ∈
      [.existence, .exactly, .init, .ending, .choice, .exclusiveChoice])
    (counting : c.constraint.template ∈ [.existence, .exactly] →
      1 ≤ c.constraint.cardinality.elim 1 (·.toNat)) :
    let holds := (c.check events complete vacuity).verdict ∈ [.satisfied, .possiblySatisfied]
    (holds → ∃ e ∈ events, e.activity ∈ c.constraint.operands ∧ c.predicates.activates e) ∧
      ((holds → c.OccursInTime events) ↔
        ∀ e ∈ c.constraint.template.endEvent? events,
          c.predicates.isOccurrence (c.constraint.activities.getD 0 "") e →
            c.OccursInTime events) := by
  intro holds
  have decided := verdict?_eq_check uncounted events complete vacuity
  have reasons (h : holds) : (∃ e ∈ c.constraint.template.endEvent? events,
      c.predicates.isOccurrence (c.constraint.activities.getD 0 "") e) ∨ c.OccursInTime events := by
    rcases Predicates.occursInTime_of_verdict? uncounted counting decided h with
      at_end | first | ⟨binary, second⟩
    · exact .inl at_end
    · exact .inr (occursInTime_of_activity c.constraint.first_mem_operands first)
    · exact .inr (occursInTime_of_activity (c.constraint.second_mem_operands binary) second)
  refine ⟨?_, ?_, ?_⟩
  · intro h
    rcases reasons h with ⟨e, at_end, occurrence⟩ | occurs
    · rw [Predicates.isOccurrence, Bool.and_eq_true, decide_eq_true_iff] at occurrence
      refine ⟨e, Template.mem_of_mem_endEvent? at_end, ?_, occurrence.2⟩
      rw [occurrence.1]
      exact c.constraint.first_mem_operands
    · exact occurs.exists_activates
  · intro timed e at_end occurrence
    obtain ⟨v, decided', h⟩ := Predicates.exists_verdict?_of_endEvent? at_end occurrence
    obtain rfl := Option.some.inj (decided'.symm.trans decided)
    exact timed h
  · intro timed h
    rcases reasons h with ⟨e, at_end, occurrence⟩ | occurs
    · exact timed e at_end occurrence
    · exact occurs

/-- Of two orders, one and three hours after the start of the trace, exactly one is in the window,
and it is the reason why the constraint holds. -/
theorem check_timed_twoOrders :
    let c : Compiled :=
      { constraint := .unary .exactly "Order"
        predicates := { window := some ⟨3600000, 7200000⟩ } }
    let events : List Event :=
      [⟨"Check", .epoch, []⟩, ⟨"Order", Time.Timestamp.epoch.afterHours 1, []⟩,
        ⟨"Order", Time.Timestamp.epoch.afterHours 3, []⟩]
    c.constraint.template ∈ [.existence, .exactly, .init, .ending, .choice, .exclusiveChoice] ∧
      1 ≤ c.constraint.cardinality.elim 1 (·.toNat) ∧
      (c.check events false false).verdict = .possiblySatisfied ∧ c.OccursInTime events := by
  intro c events
  have verdict : (c.check events false false).verdict = .possiblySatisfied := by decide
  have timed := c.check_timed_iff events false false (by decide) fun _ => by decide
  exact ⟨by decide, by decide, verdict, timed.2.2 nofun (by rw [verdict]; decide)⟩

/-- A trace has to start with an order one to two hours after it started. -/
def lateStart : Constraint where
  template := .init
  activities := ["Order"]
  timeCondition := "1,2,h"

theorem compile_lateStart (catalog : Catalog) :
    lateStart.compile catalog =
      .ok { constraint := lateStart, predicates := { window := some ⟨3600000, 7200000⟩ } } :=
  Constraint.compile_eq_ok (Condition.read_empty _ _) (Condition.read_empty _ _) rfl

/-- The first event is no time away from itself, and still satisfies the constraint. -/
theorem not_forall_check_occursInTime :
    ¬∀ (constraint : Constraint) (catalog : Catalog) (c : Compiled) (events : List Event)
        (complete vacuity : Bool),
      constraint.compile catalog = .ok c →
      c.constraint.template ∈ [.existence, .exactly, .init, .ending, .choice, .exclusiveChoice] →
      (c.constraint.template ∈ [.existence, .exactly] →
        1 ≤ c.constraint.cardinality.elim 1 (·.toNat)) →
      (c.check events complete vacuity).verdict ∈ [.satisfied, .possiblySatisfied] →
      ∃ first ∈ events.head?, ∃ e ∈ events, e.activity ∈ c.constraint.activities ∧
        c.predicates.activatesRelativeTo e first := by
  intro all
  obtain ⟨first, start, e, mem, -, inTime⟩ :=
    all lateStart (.ofNames []) _ [⟨"Order", .epoch, []⟩] true false (compile_lateStart _)
      (by decide) (by decide) (by decide)
  obtain rfl := Option.some.inj start
  obtain rfl := List.mem_singleton.1 mem
  revert inTime
  decide

end Compiled

end Declare
