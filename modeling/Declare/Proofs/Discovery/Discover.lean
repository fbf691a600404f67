import Declare.Proofs.Discovery.Candidates
import Declare.Proofs.Discovery.Support
import Declare.Proofs.Model.Built

/-!
# Discovery is exact

A discovered model declares the activities of its log. It holds the constraints that are tried, are
on activities that occur together often enough, are satisfied often enough and are well-formed, in
the order in which they are tried. Nothing is lost on the way from itemsets to candidates, from
there to the scan, and from there into the model.
-/

namespace Declare

namespace Discovery

/-- Activities that are new are all declared. -/
theorem foldl_addActivity {names : List String} {m : Model}
    (new : (m.activities.map (·.name) ++ names).Nodup) :
    names.foldl (fun m a => (m.addActivity a).2) m =
      { m with activities := m.activities ++ names.map fun a => { name := a } } := by
  induction names generalizing m with
  | nil => rw [List.map_nil, List.append_nil]; rfl
  | cons name names ih =>
      have fresh : m.hasActivity name = false := by
        rw [Bool.eq_false_iff]
        intro declared
        have mem := Model.hasActivity_iff.1 declared
        exact (List.nodup_append.1 new).2.2 _ mem _ List.mem_cons_self rfl
      have added : (m.addActivity name).2 =
          { m with activities := m.activities ++ [{ name := name }] } := by
        rw [Model.addActivity, fresh]
        rfl
      rw [List.foldl_cons, added, ih]
      · simp
      · simpa using new

theorem activitiesOf_eq (log : Log) :
    activitiesOf log = { activities := log.activities.map fun a => { name := a } } :=
  foldl_addActivity (m := {}) (Itemset.pairwise_activities log).nodup

private theorem filterMap_zipIdx {p : Constraint → Bool}
    {f : Constraint × Nat → Option Constraint}
    (test : ∀ c i, f (c, i) = if p c then some c else none) (cs : List Constraint) (k : Nat) :
    (cs.zipIdx k).filterMap f = cs.filter p := by
  induction cs generalizing k with
  | nil => rfl
  | cons c cs ih =>
      rw [List.zipIdx_cons, List.filterMap_cons, List.filter_cons, ih, test]
      cases p c <;> rfl

/-- Without cancellation all candidates that the log supports are found. -/
theorem supported_never (log : Log) (options : DiscoveryOptions) (cs : List Constraint) :
    supported log options .never cs =
      cs.filter fun c =>
        ({ constraint := c } : Compiled).isSupported log options.vacuity options.minSupport :=
  filterMap_zipIdx (fun _ _ => rfl) cs 0

/-- A model takes the well-formed ones of constraints on its activities. -/
theorem foldl_accept {cs : List Constraint} {d : Discovery}
    (declared : ∀ c ∈ cs, ∀ a ∈ c.activities, d.model.hasActivity a) :
    (cs.foldl accept d).model =
      { d.model with constraints := d.model.constraints ++ cs.filter (·.fault?.isNone) } := by
  induction cs generalizing d with
  | nil => rw [List.filter_nil, List.append_nil]; rfl
  | cons c cs ih =>
      obtain ⟨here, rest⟩ := List.forall_mem_cons.1 declared
      cases sound : c.fault? with
      | some fault =>
          have same : (d.accept c).model = d.model := by
            simp only [accept, Model.addConstraint, sound]
          rw [List.foldl_cons, ih (by rwa [same]), same, List.filter_cons, sound]
          rfl
      | none =>
          have all : c.activities.find? (!d.model.hasActivity ·) = none := by simpa using here
          have taken : (d.accept c).model =
              { d.model with constraints := d.model.constraints ++ [c] } := by
            simp only [accept, Model.addConstraint, sound, all]
          rw [List.foldl_cons, ih (by rw [taken]; exact rest), taken, List.filter_cons, sound]
          simp

end Discovery

/-- A log whose traces are all readable has nothing else. -/
theorem Log.length_readable {log : Log} (readable : ∀ t ∈ log.traces, t.isSome) :
    log.readable.length = log.size :=
  List.filterMap_length_eq_length.2 readable

theorem Log.activities_eq_nil {log : Log} (empty : log.size = 0) : log.activities = [] := by
  rw [Log.activities, Log.readable, List.length_eq_zero_iff.1 empty]
  rfl

theorem Log.mem_activities {log : Log} {a : String} :
    a ∈ log.activities ↔ ∃ t, some t ∈ log.traces ∧ t.occurs a := by
  simp [Log.activities, Log.readable, Trace.occurs]

/-- Of all candidates, the model of a log holds those that pass the three tests. -/
theorem discover_never {log : Log} {options : DiscoveryOptions}
    (size : log.size < UInt64.size) (valid : options.fault? = none) :
    ∃ d, discover log options .never = .ok d ∧
      d.model.activities = log.activities.map (fun a => { name := a }) ∧
      d.model.constraints =
        ((candidates options.maxCardinality ((activitySets log.activities).filter
          (Itemset.isFrequent log.readable options.itemsetsSupport))).filter fun c =>
            ({ constraint := c } : Compiled).isSupported log options.vacuity
              options.minSupport).filter (·.fault?.isNone) := by
  rw [discover, valid]
  by_cases empty : log.size = 0
  · refine ⟨_, if_pos empty, ?_, ?_⟩
    · rw [Discovery.activitiesOf_eq]
    · rw [Discovery.activitiesOf_eq, Log.activities_eq_nil empty]
      rfl
  · refine ⟨_, if_neg empty, ?_⟩
    rw [map_items_frequent_two _ size, Discovery.supported_never, Discovery.foldl_accept,
      Discovery.activitiesOf_eq]
    · exact ⟨rfl, List.nil_append _⟩
    · intro c mem a used
      obtain ⟨items, frequent, made⟩ := List.mem_flatMap.1 (List.mem_of_mem_filter mem)
      have perm := perm_of_mem_candidatesOn made
      have sub := (mem_activitySets.1 (List.mem_of_mem_filter frequent)).1
      rw [Discovery.activitiesOf_eq, Model.hasActivity_iff]
      simpa using sub.subset (perm.mem_iff.1 used)

/-- A constraint is discovered if it is tried, its activities occur together in enough traces,
enough traces satisfy it, and it is well-formed. -/
structure Constraint.IsDiscovered (log : Log) (options : DiscoveryOptions) (c : Constraint) :
    Prop where
  candidate : c.IsCandidate log.activities options.maxCardinality
  together : options.itemsetsSupport ≤
    share (log.readable.countP fun t => c.activities.all t.occurs) log.size
  satisfied : options.minSupport ≤
    share (log.readable.countP (({ constraint := c } : Compiled).isSatisfied options.vacuity))
      log.size
  sound : c.fault? = none

theorem Constraint.isDiscovered_iff {log : Log} {options : DiscoveryOptions} {c : Constraint}
    (readable : ∀ t ∈ log.traces, t.isSome) (size : log.size < UInt64.size) :
    c.IsDiscovered log options ↔
      (c.IsCandidate log.activities options.maxCardinality ∧
        Itemset.isFrequent log.readable options.itemsetsSupport c.activities) ∧
      ({ constraint := c } : Compiled).isSupported log options.vacuity options.minSupport ∧
      c.fault?.isNone := by
  have total := Log.length_readable readable
  rw [Itemset.isFrequent, decide_eq_true_iff, Itemset.supportOf, total,
    Compiled.isSupported_eq _ _ _ size, Bool.and_eq_true, reaches, decide_eq_true_iff,
    Option.isNone_iff_eq_none]
  constructor
  · rintro ⟨candidate, together, satisfied, sound⟩
    have ne : log.size ≠ 0 := by
      intro empty
      obtain ⟨a, -, mem⟩ := candidate.exists_mem
      rw [Log.activities_eq_nil empty] at mem
      cases mem
    exact ⟨⟨candidate, together⟩, ⟨bne_iff_ne.2 ne, satisfied⟩, sound⟩
  · rintro ⟨⟨candidate, together⟩, ⟨-, satisfied⟩, sound⟩
    exact ⟨candidate, together, satisfied, sound⟩

/-- A log whose traces are all readable and whose size is a machine word has a model. It declares
the sorted activities of the log and holds, in the order in which they are tried and each once, the
constraints that are discovered on it. -/
theorem discover_exact {log : Log} {options : DiscoveryOptions}
    (readable : ∀ t ∈ log.traces, t.isSome) (size : log.size < UInt64.size)
    (valid : options.fault? = none) :
    ∃ d, discover log options .never = .ok d ∧
      d.model.activities = log.activities.map (fun a => { name := a }) ∧
      log.activities.Pairwise (· < ·) ∧
      (∀ a, a ∈ log.activities ↔ ∃ t, some t ∈ log.traces ∧ t.occurs a) ∧
      d.model.constraints.Sublist
        (candidates options.maxCardinality (activitySets log.activities)) ∧
      d.model.constraints.Nodup ∧
      ∀ c, c ∈ d.model.constraints ↔ c.IsDiscovered log options := by
  obtain ⟨d, found, declared, constraints⟩ := discover_never size valid
  have sorted := Itemset.pairwise_activities log
  refine ⟨d, found, declared, sorted, fun a => Log.mem_activities, ?_, ?_, ?_⟩
  · rw [constraints]
    exact (List.filter_sublist.trans List.filter_sublist).trans
      (List.filter_sublist.flatMap _)
  · rw [constraints]
    refine .filter _ (.filter _ (nodup_candidates _ ?_ (.filter _ ?_)))
    · intro items mem
      exact sorted.sublist (mem_activitySets.1 (List.mem_of_mem_filter mem)).1
    · exact (sorted_activitySets sorted).nodup
  · intro c
    rw [constraints, List.mem_filter, List.mem_filter, mem_candidates_filter,
      mem_candidates_iff sorted, Constraint.isDiscovered_iff readable size, and_assoc]
    exact fun _ _ => Itemset.isFrequent_of_perm

/-- Two orders, only one of which is paid for. -/
def orderLog : Log where
  traces :=
    [some { events := [⟨"Order", .epoch, []⟩, ⟨"Pay", .epoch, []⟩] },
      some { events := [⟨"Order", .epoch, []⟩] }]

/-- With thresholds of a half, one of two cases is enough to discover that payments follow orders,
and none is not enough to discover that orders follow payments. -/
theorem discover_orderLog :
    ∃ d, discover orderLog { itemsetsSupport := 0.5, minSupport := 0.5 } .never = .ok d ∧
      d.model.activities = [{ name := "Order" }, { name := "Pay" }] ∧
      .binary .response "Order" "Pay" ∈ d.model.constraints ∧
      .binary .response "Pay" "Order" ∉ d.model.constraints := by
  obtain ⟨d, found, declared, -, -, -, -, mem_iff⟩ :=
    @discover_exact orderLog { itemsetsSupport := 0.5, minSupport := 0.5 } (by decide) (by decide)
      (by decide)
  refine ⟨d, found, declared, (mem_iff _).2 ⟨?_, ?_, ?_, ?_⟩, ?_⟩
  · exact .binary rfl rfl (by decide) (by decide) (by decide)
  · decide
  · decide
  · decide
  · intro mem
    have satisfied := ((mem_iff _).1 mem).satisfied
    revert satisfied
    decide

end Declare
