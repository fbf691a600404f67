import Declare.Proofs.Discovery.Itemsets
import Mathlib.Data.Finset.Dedup

/-!
# Exactly the frequent sets are found

A list of the search stands for a set of activities. The search finds every set of at most so many
activities that occur together in a large enough share of the readable traces, finds it once, and
finds no other (`Itemset.frequent_exact`). With each set it gives that share. The order is that of
size and then the alphabet.
-/

namespace Declare

namespace Itemset

/-- The share of the traces in which all activities of a set occur. -/
def setSupport (traces : List Trace) (set : Finset String) : Float :=
  share (traces.countP fun t => ∀ a ∈ set, t.occurs a) traces.length

theorem supportOf_eq_setSupport (traces : List Trace) (items : List String) :
    supportOf traces items = setSupport traces items.toFinset := by
  have same (t : Trace) : items.all t.occurs = decide (∀ a ∈ items.toFinset, t.occurs a) := by
    rw [Bool.eq_iff_iff, List.all_eq_true, decide_eq_true_iff]
    simp only [List.mem_toFinset]
  simp only [supportOf, setSupport, same]

theorem support_of_mem_filterMap {traces : List Trace} {s : Float} {sets : List (List String)}
    {x : Itemset} (h : x ∈ sets.filterMap (frequent? traces s)) :
    x.support = supportOf traces x.items := by
  obtain ⟨items, -, found⟩ := List.mem_filterMap.1 h
  rw [frequent?_eq] at found
  split at found
  · cases found
    rfl
  · cases found

/-- If the supports of a level are right, those of the levels above it are, too. -/
theorem support_of_mem_levels {traces : List Trace} {s : Float} {level : List Itemset}
    (right : ∀ x ∈ level, x.support = supportOf traces x.items) (more : ℕ) :
    ∀ x ∈ levels traces s level more, x.support = supportOf traces x.items := by
  induction more generalizing level with
  | zero => exact right
  | succ more ih =>
      rw [levels]
      split
      · exact List.forall_mem_nil _
      · intro x mem
        rcases List.mem_append.1 mem with here | above
        · exact right x here
        · -- a level above is made by the same test, whatever the level below it holds
          exact ih (fun _ => support_of_mem_filterMap) x above

theorem support_of_mem_frequent {log : Log} {s : Float} {maxSize : ℕ} :
    ∀ x ∈ frequent log s maxSize, x.support = supportOf log.readable x.items := by
  cases maxSize with
  | zero => exact List.forall_mem_nil _
  | succ more =>
      rw [frequent]
      split
      · exact List.forall_mem_nil _
      · exact support_of_mem_levels (fun _ => support_of_mem_filterMap) more

theorem eq_of_toFinset_eq {items items' : List String} (sorted : items.Pairwise (· < ·))
    (sorted' : items'.Pairwise (· < ·)) (same : items.toFinset = items'.toFinset) :
    items = items' := by
  have perm := List.perm_of_nodup_nodup_toFinset_eq sorted.nodup sorted'.nodup same
  exact perm.eq_of_pairwise (fun a b _ _ less less' => absurd less' (lt_asymm less)) sorted sorted'

/-- A set of names from a sorted list is made up by a sublist of it. -/
theorem exists_sublist_toFinset_eq {names : List String} (sorted : names.Pairwise (· < ·))
    {set : Finset String} (sub : ∀ a ∈ set, a ∈ names) :
    ∃ items : List String,
      items.Sublist names ∧ items.toFinset = set ∧ items.length = set.card := by
  have part : (names.filter (· ∈ set)).toFinset = set := by
    ext a
    simpa using sub a
  refine ⟨names.filter (· ∈ set), List.filter_sublist, part, ?_⟩
  rw [← List.toFinset_card_of_nodup (sorted.nodup.filter _), part]

theorem mem_activities_iff {log : Log} {a : String} :
    a ∈ log.activities ↔ ∃ t ∈ log.readable, t.occurs a := by
  simp [Log.activities, Trace.occurs]

/-- The search finds exactly the frequent sets of one to `maxSize` activities of a log, each once,
sorted and with its support, by size and then in alphabetical order. A log without readable traces
has none. -/
theorem frequent_exact {log : Log} (size : log.size < UInt64.size) (s : Float) (maxSize : ℕ) :
    let found := frequent log s maxSize
    (∀ set : Finset String, (∃ x ∈ found, x.items.toFinset = set) ↔
        (∀ a ∈ set, ∃ t ∈ log.readable, t.occurs a) ∧ 1 ≤ set.card ∧ set.card ≤ maxSize ∧
          s ≤ setSupport log.readable set) ∧
      (found.map (·.items.toFinset)).Nodup ∧
      (∀ x ∈ found, x.items.Pairwise (· < ·) ∧
        x.support = setSupport log.readable x.items.toFinset) ∧
      found.Pairwise (fun x y => List.Shortlex (· < ·) x.items y.items) ∧
      (log.readable = [] → found = []) := by
  intro found
  obtain ⟨sorted, mem_iff⟩ := frequent_spec s size maxSize
  have names := pairwise_activities log
  have isSublist {x : Itemset} (mem : x ∈ found) : x.items.Sublist log.activities :=
    ((mem_iff x.items).1 (List.mem_map_of_mem mem)).1
  have ordered : found.Pairwise fun x y => List.Shortlex (· < ·) x.items y.items :=
    List.pairwise_map.1 sorted
  refine ⟨fun set => ?_, ?_, fun x mem => ⟨names.sublist (isSublist mem), ?_⟩, ordered, ?_⟩
  · constructor
    · rintro ⟨x, mem, rfl⟩
      obtain ⟨sub, ⟨pos, le⟩, enough⟩ := (mem_iff x.items).1 (List.mem_map_of_mem mem)
      rw [isFrequent, decide_eq_true_iff, supportOf_eq_setSupport] at enough
      rw [List.toFinset_card_of_nodup (names.sublist sub).nodup]
      exact ⟨fun a mem => mem_activities_iff.1 (sub.subset (List.mem_toFinset.1 mem)), pos, le,
        enough⟩
    · rintro ⟨occur, pos, le, enough⟩
      obtain ⟨items, sub, rfl, length⟩ :=
        exists_sublist_toFinset_eq names fun a mem => mem_activities_iff.2 (occur a mem)
      rw [← supportOf_eq_setSupport] at enough
      have listed := (mem_iff items).2 ⟨sub, ⟨by omega, by omega⟩, decide_eq_true enough⟩
      obtain ⟨x, mem, rfl⟩ := List.mem_map.1 listed
      exact ⟨x, mem, rfl⟩
  · refine List.pairwise_map.2 (ordered.imp_of_mem fun mem mem' less same => ?_)
    have equal := eq_of_toFinset_eq (names.sublist (isSublist mem)) (names.sublist (isSublist mem'))
      same
    rw [equal] at less
    exact irrefl _ less
  · rw [support_of_mem_frequent x mem, supportOf_eq_setSupport]
  · intro empty
    change frequent log s maxSize = []
    cases maxSize with
    | zero => rfl
    | succ more =>
        rw [frequent, empty]
        rfl

/-- Three cases that can be read and one that cannot. -/
def shippingLog : Log where
  traces :=
    [some { events := [⟨"Order", .epoch, []⟩, ⟨"Pay", .epoch, []⟩, ⟨"Ship", .epoch, []⟩] },
      none,
      some { events := [⟨"Pay", .epoch, []⟩, ⟨"Order", .epoch, []⟩] },
      some { events := [⟨"Order", .epoch, []⟩, ⟨"Ship", .epoch, []⟩] }]

/-- Orders are paid for in two of three cases and shipped in two of three, but both happens in one
of them only. -/
theorem frequent_exact_shippingLog :
    let found := frequent shippingLog 0.5 3
    shippingLog.size < UInt64.size ∧
      (∃ x ∈ found, x.items.toFinset = {"Order", "Pay"}) ∧
      (∃ x ∈ found, x.items.toFinset = {"Order", "Ship"}) ∧
      (¬∃ x ∈ found, x.items.toFinset = {"Pay", "Ship"}) ∧
      (found.map (·.items.toFinset)).Nodup := by
  intro found
  have size : shippingLog.size < UInt64.size := by decide
  obtain ⟨mem_iff, once, -⟩ := frequent_exact size 0.5 3
  refine ⟨size, (mem_iff _).2 ?_, (mem_iff _).2 ?_, fun mem => ?_, once⟩
  · decide
  · decide
  · have enough := ((mem_iff _).1 mem).2.2.2
    revert enough
    decide

end Itemset

end Declare
