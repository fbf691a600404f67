import Declare.Proofs.Check.Vacuity
import Declare.Proofs.Discovery.Discover

/-!
# Weaker options discover more

Options can ask for less in four ways, each of which acts at a stage of its own: fewer common
traces let more sets of activities through, greater cardinalities make more candidates, satisfied
vacuous constraints are found on more traces, and fewer traces are enough. No stage changes the
order of what it lets through, so the discovered constraints stay in place and others come between
them (`discover_relaxed`).
-/

namespace Declare

/-- The second options ask for no more than the first ones. -/
structure DiscoveryOptions.Relaxes (o o' : DiscoveryOptions) : Prop where
  itemsetsSupport : o'.itemsetsSupport ≤ o.itemsetsSupport
  minSupport : o'.minSupport ≤ o.minSupport
  maxCardinality : o.maxCardinality ≤ o'.maxCardinality
  vacuity : o.vacuity → o'.vacuity

theorem Template.cardinalities_sublist (t : Template) {n n' : UInt64} (le : n ≤ n') :
    (t.cardinalities n).Sublist (t.cardinalities n') := by
  rw [cardinalities, cardinalities]
  split
  · exact (List.range'_sublist_right.2 (UInt64.le_iff_toNat_le.1 le)).map _
  · exact .refl _

theorem candidatesOn_sublist {n n' : UInt64} (le : n ≤ n') (items : List String) :
    (candidatesOn n items).Sublist (candidatesOn n' items) := by
  match items with
  | [] => exact .refl _
  | [a] => exact .flatMap_right _ fun t _ => (t.cardinalities_sublist le).map _
  | [a, b] => exact .refl _
  | _ :: _ :: _ :: _ => exact .refl _

/-- More sets and greater cardinalities make more candidates. -/
theorem candidates_sublist {n n' : UInt64} (le : n ≤ n') {sets sets' : List (List String)}
    (sub : sets.Sublist sets') : (candidates n sets).Sublist (candidates n' sets') :=
  (sub.flatMap _).trans (.flatMap_right _ fun items _ => candidatesOn_sublist le items)

theorem Itemset.isFrequent_of_le {s s' : Float} (le : s' ≤ s) {traces : List Trace}
    {items : List String} (h : isFrequent traces s items) : isFrequent traces s' items := by
  rw [isFrequent, decide_eq_true_iff] at h ⊢
  exact float_le_trans le h

theorem reaches_of_threshold_le {s s' : Float} (le : s' ≤ s) {total k : Nat}
    (h : reaches s total k) : reaches s' total k := by
  rw [reaches, decide_eq_true_iff] at h ⊢
  exact float_le_trans le h

/-- What satisfies a constraint also does if vacuous constraints are satisfied: on a trace where
that makes a difference, there are no activations, and the constraint was violated. -/
theorem Compiled.isSatisfied_true_of_false {c : Compiled} {t : Trace}
    (h : c.isSatisfied false t) : c.isSatisfied true t := by
  have differ := c.check_vacuity t.events t.complete
  rw [isSatisfied, decide_eq_true_iff, checkTrace] at h ⊢
  by_contra unsatisfied
  have different : (c.check t.events t.complete true).verdict ≠
      (c.check t.events t.complete false).verdict := by
    rw [h]
    exact unsatisfied
  have violated := (differ.unactivated (differ.differ_iff.1 different)).2
  rw [h] at violated
  cases complete : t.complete <;> rw [complete] at violated <;> cases violated

theorem Compiled.isSatisfied_of_vacuity {c : Compiled} {t : Trace} {vacuity vacuity' : Bool}
    (implied : vacuity → vacuity') (h : c.isSatisfied vacuity t) : c.isSatisfied vacuity' t := by
  cases vacuity with
  | true =>
      rw [implied rfl]
      exact h
  | false =>
      cases vacuity' with
      | true => exact isSatisfied_true_of_false h
      | false => exact h

/-- A supported constraint stays so with a lower threshold and more satisfied traces. -/
theorem Compiled.isSupported_of_relaxed {c : Compiled} {log : Log} {vacuity vacuity' : Bool}
    {s s' : Float} (size : log.size < UInt64.size) (implied : vacuity → vacuity') (le : s' ≤ s)
    (h : c.isSupported log vacuity s) : c.isSupported log vacuity' s' := by
  rw [isSupported_eq _ _ _ size, Bool.and_eq_true] at h ⊢
  obtain ⟨nonempty, enough⟩ := h
  have more : log.readable.countP (c.isSatisfied vacuity) ≤
      log.readable.countP (c.isSatisfied vacuity') :=
    List.countP_mono_left fun t _ => isSatisfied_of_vacuity implied
  have all : log.readable.countP (c.isSatisfied vacuity') ≤ log.size :=
    List.countP_le_length.trans log.length_readable_le
  exact ⟨nonempty, reaches_of_threshold_le le (reaches_of_le size more all enough)⟩

/-- Options that ask for no more find the same activities, and all constraints that were found, in
the same order. -/
theorem discover_relaxed {log : Log} {o o' : DiscoveryOptions} (size : log.size < UInt64.size)
    (valid : o.fault? = none) (valid' : o'.fault? = none) (relaxes : o.Relaxes o') :
    ∃ d d', discover log o .never = .ok d ∧ discover log o' .never = .ok d' ∧
      d.model.activities = d'.model.activities ∧
      d.model.constraints.Sublist d'.model.constraints := by
  obtain ⟨d, found, declared, constraints⟩ := discover_never size valid
  obtain ⟨d', found', declared', constraints'⟩ := discover_never size valid'
  refine ⟨d, d', found, found', declared.trans declared'.symm, ?_⟩
  have frequent : ((activitySets log.activities).filter
      (Itemset.isFrequent log.readable o.itemsetsSupport)).Sublist
        ((activitySets log.activities).filter
          (Itemset.isFrequent log.readable o'.itemsetsSupport)) :=
    List.monotone_filter_right _ fun _ => Itemset.isFrequent_of_le relaxes.itemsetsSupport
  have tried := candidates_sublist relaxes.maxCardinality frequent
  have supported (c : Constraint)
      (h : ({ constraint := c } : Compiled).isSupported log o.vacuity o.minSupport) :
      ({ constraint := c } : Compiled).isSupported log o'.vacuity o'.minSupport :=
    Compiled.isSupported_of_relaxed size relaxes.vacuity relaxes.minSupport h
  rw [constraints, constraints']
  exact ((tried.filter _).trans (List.monotone_filter_right _ supported)).filter _

/-- Options that ask for half of the cases, for up to two occurrences and for vacuous constraints
as well. -/
def generous : DiscoveryOptions where
  itemsetsSupport := 0.5
  minSupport := 0.5
  maxCardinality := 2
  vacuity := true

/-- Half of the orders are paid for: asking for half of the cases finds no less than asking for all
of them. -/
theorem discover_relaxed_orderLog :
    ∃ d d', discover orderLog {} .never = .ok d ∧ discover orderLog generous .never = .ok d' ∧
      d.model.activities = d'.model.activities ∧
      d.model.constraints.Sublist d'.model.constraints :=
  @discover_relaxed orderLog {} generous (by decide) (by decide) (by decide)
    ⟨by decide, by decide, by decide, fun _ => rfl⟩

end Declare
