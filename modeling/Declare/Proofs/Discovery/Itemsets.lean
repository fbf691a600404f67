import Declare.Discovery.Support
import Declare.Proofs.Decimal.Share

/-!
# Frequent itemsets are found

The sets of activities are the sublists of the sorted activities of a log. A level of the search
holds the frequent sets of one size in alphabetical order (`Itemset.IsLevel`), and joining its sets
gives the next level: a frequent set comes from the two sets that leave out one of its last two
activities, and both are frequent because a subset occurs in no fewer traces.
-/

namespace Declare

namespace Itemset

/-- Whether all the activities occur together in a large enough share of the readable traces. -/
def isFrequent (traces : List Trace) (s : Float) (items : List String) : Bool :=
  s ≤ supportOf traces items

theorem frequent?_eq (traces : List Trace) (s : Float) (items : List String) :
    frequent? traces s items =
      if isFrequent traces s items then some ⟨items, supportOf traces items⟩ else none := by
  simp [frequent?, isFrequent]

theorem map_items_filterMap_frequent? (traces : List Trace) (s : Float)
    (sets : List (List String)) :
    (sets.filterMap (frequent? traces s)).map (·.items) = sets.filter (isFrequent traces s) := by
  induction sets with
  | nil => rfl
  | cons items sets ih =>
      rw [List.filterMap_cons, List.filter_cons, frequent?_eq _ _ items]
      cases isFrequent traces s items with
      | true => exact congrArg (items :: ·) ih
      | false => exact ih

/-- The order of the activities plays no role. -/
theorem isFrequent_of_perm {traces : List Trace} {s : Float} {items items' : List String}
    (perm : items.Perm items') : isFrequent traces s items = isFrequent traces s items' := by
  have same : (fun t : Trace => items.all t.occurs) = fun t => items'.all t.occurs :=
    funext fun _ => perm.all_eq
  rw [isFrequent, isFrequent, supportOf, supportOf, same]

/-- A subset occurs in no fewer traces. -/
theorem isFrequent_of_subset {traces : List Trace} {s : Float} {items items' : List String}
    (size : traces.length < UInt64.size) (sub : items' ⊆ items)
    (h : isFrequent traces s items) : isFrequent traces s items' := by
  have more : (traces.countP fun t => items.all t.occurs) ≤
      traces.countP fun t => items'.all t.occurs := by
    apply List.countP_mono_left
    intro t _ all
    rw [List.all_eq_true] at all ⊢
    exact fun a mem => all a (sub mem)
  rw [isFrequent, decide_eq_true_iff] at h ⊢
  exact le_share_of_le size more List.countP_le_length h

theorem join?_eq_some_iff {a b items : List String} :
    join? a b = some items ↔ ∃ last, b = a.dropLast ++ [last] ∧ items = a ++ [last] := by
  rw [join?]
  constructor
  · intro joined
    split at joined
    · next same =>
        obtain ⟨last, found, rfl⟩ := Option.map_eq_some_iff.1 joined
        obtain ⟨before, rfl⟩ := List.getLast?_eq_some_iff.1 found
        rw [List.dropLast_concat] at same
        exact ⟨last, by rw [same], rfl⟩
    · cases joined
  · rintro ⟨last, rfl, rfl⟩
    rw [List.dropLast_concat, if_pos rfl, List.getLast?_concat]
    rfl

theorem exists_of_mem_joins {sets : List (List String)} (sorted : sets.Pairwise (· < ·))
    {items : List String} (h : items ∈ joins sets) :
    ∃ a ∈ sets, ∃ b ∈ sets, a < b ∧ join? a b = some items := by
  induction sets with
  | nil => cases h
  | cons first sets ih =>
      obtain ⟨least, rest⟩ := List.pairwise_cons.1 sorted
      rw [joins, List.mem_append, List.mem_filterMap] at h
      rcases h with ⟨b, mem, joined⟩ | h
      · exact ⟨first, List.mem_cons_self, b, List.mem_cons_of_mem _ mem, least b mem, joined⟩
      · obtain ⟨a, memA, b, memB, less, joined⟩ := ih rest h
        exact ⟨a, List.mem_cons_of_mem _ memA, b, List.mem_cons_of_mem _ memB, less, joined⟩

theorem mem_joins_of_lt {sets : List (List String)} (sorted : sets.Pairwise (· < ·))
    {a b items : List String} (memA : a ∈ sets) (memB : b ∈ sets) (less : a < b)
    (joined : join? a b = some items) : items ∈ joins sets := by
  induction sets with
  | nil => cases memA
  | cons first sets ih =>
      obtain ⟨least, rest⟩ := List.pairwise_cons.1 sorted
      rw [joins, List.mem_append, List.mem_filterMap]
      rcases List.mem_cons.1 memA with rfl | memA'
      · rcases List.mem_cons.1 memB with rfl | memB'
        · exact absurd less (lt_irrefl _)
        · exact .inl ⟨b, memB', joined⟩
      · rcases List.mem_cons.1 memB with rfl | memB'
        · exact absurd less (lt_asymm (least a memA'))
        · exact .inr (ih rest memA' memB')

/-- Lists of the same length are ordered by what they start with. -/
theorem append_lt_append {a b : List String} (less : a < b) (length : a.length = b.length)
    (x y : List String) : a ++ x < b ++ y := by
  induction less with
  | nil => cases length
  | rel less => exact .rel less
  | cons _ ih => exact .cons (ih (Nat.succ.inj length))

theorem lt_of_append_lt_append {before : List String} {u v : String}
    (less : before ++ [u] < before ++ [v]) : u < v := by
  rcases lt_trichotomy u v with less' | rfl | greater
  · exact less'
  · exact absurd less (lt_irrefl _)
  · have reversed : before ++ [v] < before ++ [u] := List.append_left_lt (.rel greater)
    exact absurd less (lt_asymm reversed)

theorem sorted_joins {sets : List (List String)} {n : Nat} (sorted : sets.Pairwise (· < ·))
    (length : ∀ items ∈ sets, items.length = n) : (joins sets).Pairwise (· < ·) := by
  induction sets with
  | nil => exact .nil
  | cons first sets ih =>
      obtain ⟨least, rest⟩ := List.pairwise_cons.1 sorted
      obtain ⟨here, lengths⟩ := List.forall_mem_cons.1 length
      rw [joins, List.pairwise_append]
      refine ⟨List.pairwise_filterMap.2 ?_, ih rest lengths, ?_⟩
      · apply rest.imp
        intro b b' less items joined items' joined'
        obtain ⟨last, rfl, rfl⟩ := join?_eq_some_iff.1 joined
        obtain ⟨last', rfl, rfl⟩ := join?_eq_some_iff.1 joined'
        exact List.append_left_lt (.rel (lt_of_append_lt_append less))
      · intro items mem items' mem'
        obtain ⟨b, -, joined⟩ := List.mem_filterMap.1 mem
        obtain ⟨a, memA, b', -, -, joined'⟩ := exists_of_mem_joins rest mem'
        obtain ⟨last, -, rfl⟩ := join?_eq_some_iff.1 joined
        obtain ⟨last', -, rfl⟩ := join?_eq_some_iff.1 joined'
        exact append_lt_append (least a memA) (here.trans (lengths a memA).symm) _ _

/-- A level holds the frequent sets of one size in alphabetical order. -/
structure IsLevel (log : Log) (s : Float) (n : Nat) (sets : List (List String)) : Prop where
  sorted : sets.Pairwise (· < ·)
  mem_iff : ∀ items, items ∈ sets ↔
    items.Sublist log.activities ∧ items.length = n ∧ isFrequent log.readable s items

theorem pairwise_activities (log : Log) : log.activities.Pairwise (· < ·) :=
  pairwise_sortNames _

/-- The single activities make up the first level. -/
theorem isLevel_one (log : Log) (s : Float) :
    IsLevel log s 1 ((log.activities.map ([·])).filter (isFrequent log.readable s)) where
  sorted := by
    refine List.Pairwise.filter _ (List.pairwise_map.2 ?_)
    exact (pairwise_activities log).imp fun less => .rel less
  mem_iff items := by
    rw [List.mem_filter, List.mem_map, ← and_assoc]
    apply and_congr_left
    intro _
    constructor
    · rintro ⟨a, mem, rfl⟩
      exact ⟨List.singleton_sublist.2 mem, rfl⟩
    · rintro ⟨sub, length⟩
      obtain ⟨a, rfl⟩ := List.length_eq_one_iff.1 length
      exact ⟨a, List.singleton_sublist.1 sub, rfl⟩

/-- The sets of one more activity that are joined from a level, and have only frequent subsets. -/
def candidateSets (sets : List (List String)) : List (List String) :=
  (joins sets).filter fun items => (subsets items).all sets.contains

/-- Sets that differ in their last activity only have a set as their union. -/
theorem sublist_of_join? {names a b items : List String} (sorted : names.Pairwise (· < ·))
    (subA : a.Sublist names) (subB : b.Sublist names) (ne : a ≠ []) (less : a < b)
    (joined : join? a b = some items) : items.Sublist names := by
  obtain ⟨last, rfl, rfl⟩ := join?_eq_some_iff.1 joined
  obtain ⟨before, u, rfl⟩ := (List.eq_nil_or_concat a).resolve_left ne
  rw [List.concat_eq_append, List.dropLast_concat] at *
  have after : u < last := lt_of_append_lt_append less
  have sortedA := sorted.sublist subA
  have sortedB := List.pairwise_append.1 (sorted.sublist subB)
  have union : (before ++ [u] ++ [last]).Pairwise (· < ·) := by
    refine List.pairwise_append.2 ⟨sortedA, List.pairwise_singleton _ _, ?_⟩
    intro x mem y mem'
    rw [List.mem_singleton.1 mem']
    rcases List.mem_append.1 mem with mem | mem
    · exact sortedB.2.2 x mem last List.mem_cons_self
    · rwa [List.mem_singleton.1 mem]
  have subset : before ++ [u] ++ [last] ⊆ names :=
    List.append_subset.2 ⟨subA.subset, fun x mem => subB.subset (List.mem_append_right _ mem)⟩
  exact List.sublist_of_subperm_of_pairwise (List.subperm_of_subset union.nodup subset) union sorted

/-- A set of at least two activities is joined from those that leave out one of its last two. -/
theorem exists_join?_eq {names items : List String} {n : Nat} (sorted : names.Pairwise (· < ·))
    (sub : items.Sublist names) (length : items.length = n + 2) :
    ∃ a b, a.Sublist items ∧ b.Sublist items ∧ a.length = n + 1 ∧ b.length = n + 1 ∧ a < b ∧
      join? a b = some items := by
  obtain ⟨a, v, rfl⟩ := (List.eq_nil_or_concat items).resolve_left
    (List.ne_nil_of_length_eq_add_one length)
  rw [List.length_concat] at length
  obtain ⟨before, u, rfl⟩ := (List.eq_nil_or_concat a).resolve_left
    (List.ne_nil_of_length_eq_add_one (Nat.succ.inj length))
  simp only [List.concat_eq_append, List.length_append, List.length_singleton] at *
  have less : u < v := by
    have whole := sorted.sublist sub
    exact (List.pairwise_append.1 whole).2.2 u (by simp) v (by simp)
  refine ⟨before ++ [u], before ++ [v], List.sublist_append_left _ _, ?_, ?_, ?_,
    List.append_left_lt (.rel less), join?_eq_some_iff.2 ⟨v, ?_, rfl⟩⟩
  · rw [List.append_assoc]
    exact (List.sublist_cons_self u [v]).append_left before
  · rw [List.length_append, List.length_singleton]
    omega
  · rw [List.length_append, List.length_singleton]
    omega
  · rw [List.dropLast_concat]

theorem isLevel_succ {log : Log} {s : Float} {n : Nat} {sets : List (List String)}
    (size : log.size < UInt64.size) (h : IsLevel log s (n + 1) sets) :
    IsLevel log s (n + 2) ((candidateSets sets).filter (isFrequent log.readable s)) where
  sorted :=
    ((sorted_joins h.sorted fun items mem => ((h.mem_iff items).1 mem).2.1).filter _).filter _
  mem_iff items := by
    have sizeReadable := log.length_readable_le.trans_lt size
    rw [List.mem_filter, candidateSets, List.mem_filter]
    constructor
    · rintro ⟨⟨mem, -⟩, frequent⟩
      obtain ⟨a, memA, b, memB, less, joined⟩ := exists_of_mem_joins h.sorted mem
      obtain ⟨subA, lengthA, -⟩ := (h.mem_iff a).1 memA
      obtain ⟨subB, -, -⟩ := (h.mem_iff b).1 memB
      have ne : a ≠ [] := List.ne_nil_of_length_eq_add_one lengthA
      refine ⟨sublist_of_join? (pairwise_activities log) subA subB ne less joined, ?_, frequent⟩
      obtain ⟨last, -, rfl⟩ := join?_eq_some_iff.1 joined
      rw [List.length_append, lengthA, List.length_singleton]
    · rintro ⟨sub, length, frequent⟩
      have known {part : List String} (partOf : part.Sublist items) (length : part.length = n + 1) :
          part ∈ sets :=
        (h.mem_iff part).2
          ⟨partOf.trans sub, length, isFrequent_of_subset sizeReadable partOf.subset frequent⟩
      obtain ⟨a, b, subA, subB, lengthA, lengthB, less, joined⟩ :=
        exists_join?_eq (pairwise_activities log) sub length
      refine ⟨⟨mem_joins_of_lt h.sorted (known subA lengthA) (known subB lengthB) less joined,
        ?_⟩, frequent⟩
      rw [subsets, List.all_map, List.all_eq_true]
      intro i inside
      have bound := List.mem_range.1 inside
      have part := known (List.eraseIdx_sublist items i)
        (by rw [List.length_eraseIdx_of_lt bound, length]; rfl)
      simpa using part

theorem map_items_nextLevel (traces : List Trace) (s : Float) (level : List Itemset) :
    (nextLevel traces s level).map (·.items) =
      (candidateSets (level.map (·.items))).filter (isFrequent traces s) := by
  have contains (known : List (List String)) :
      known.contains = fun items => decide (items ∈ known) :=
    funext fun items => List.contains_eq_mem items known
  rw [nextLevel, map_items_filterMap_frequent?, candidateSets, contains]

/-- Without a frequent set of one size there is none of a greater size. -/
theorem IsLevel.not_frequent_of_nil {log : Log} {s : Float} {n : Nat}
    (size : log.size < UInt64.size) (h : IsLevel log s n []) {items : List String}
    (sub : items.Sublist log.activities) (length : n ≤ items.length) :
    isFrequent log.readable s items = false := by
  rw [Bool.eq_false_iff]
  intro frequent
  have part := List.take_sublist n items
  have mem := (h.mem_iff (items.take n)).2 ⟨part.trans sub, List.length_take_of_le length,
    isFrequent_of_subset (log.length_readable_le.trans_lt size) part.subset frequent⟩
  cases mem

/-- The levels from one size on hold the frequent sets of that size and of the sizes above it. -/
theorem levels_spec {log : Log} {s : Float} (size : log.size < UInt64.size) {n : Nat}
    {level : List Itemset} (h : IsLevel log s (n + 1) (level.map (·.items))) (more : Nat) :
    ((levels log.readable s level more).map (·.items)).Pairwise (List.Shortlex (· < ·)) ∧
      ∀ items, items ∈ (levels log.readable s level more).map (·.items) ↔
        items.Sublist log.activities ∧ (n + 1 ≤ items.length ∧ items.length ≤ n + 1 + more) ∧
          isFrequent log.readable s items := by
  have short : (level.map (·.items)).Pairwise (List.Shortlex (· < ·)) :=
    h.sorted.imp_of_mem fun mem mem' less =>
      .of_lex (((h.mem_iff _).1 mem).2.1.trans ((h.mem_iff _).1 mem').2.1.symm) less
  induction more generalizing n level with
  | zero =>
      refine ⟨short, fun items => (h.mem_iff items).trans ?_⟩
      exact and_congr_right fun _ => and_congr_left fun _ => by omega
  | succ more ih =>
      rw [levels]
      split
      · next empty =>
          rw [List.isEmpty_iff.1 empty] at h
          refine ⟨.nil, fun items => iff_of_false List.not_mem_nil ?_⟩
          rintro ⟨sub, length, frequent⟩
          rw [h.not_frequent_of_nil size sub length.1] at frequent
          cases frequent
      · have next : IsLevel log s (n + 2) ((nextLevel log.readable s level).map (·.items)) := by
          rw [map_items_nextLevel]
          exact isLevel_succ size h
        have short' := next.sorted.imp_of_mem fun mem mem' less =>
          List.Shortlex.of_lex
            (((next.mem_iff _).1 mem).2.1.trans ((next.mem_iff _).1 mem').2.1.symm) less
        obtain ⟨sorted, mem_iff⟩ := ih next short'
        rw [List.map_append]
        refine ⟨List.pairwise_append.2 ⟨short, sorted, ?_⟩, ?_⟩
        · intro items mem items' mem'
          have length := ((h.mem_iff items).1 mem).2.1
          have length' := ((mem_iff items').1 mem').2.1.1
          exact .of_length_lt (by omega)
        · intro items
          rw [List.mem_append, h.mem_iff, mem_iff]
          constructor
          · rintro (⟨sub, length, frequent⟩ | ⟨sub, length, frequent⟩)
            · exact ⟨sub, by omega, frequent⟩
            · exact ⟨sub, by omega, frequent⟩
          · rintro ⟨sub, length, frequent⟩
            rcases length.1.eq_or_lt with same | more
            · exact .inl ⟨sub, same.symm, frequent⟩
            · exact .inr ⟨sub, by omega, frequent⟩

/-- The search finds the frequent sets up to a size, by size and then in alphabetical order. -/
theorem frequent_spec {log : Log} (s : Float) (size : log.size < UInt64.size) (maxSize : Nat) :
    ((frequent log s maxSize).map (·.items)).Pairwise (List.Shortlex (· < ·)) ∧
      ∀ items, items ∈ (frequent log s maxSize).map (·.items) ↔
        items.Sublist log.activities ∧ (1 ≤ items.length ∧ items.length ≤ maxSize) ∧
          isFrequent log.readable s items := by
  cases maxSize with
  | zero =>
      refine ⟨.nil, fun items => iff_of_false List.not_mem_nil ?_⟩
      rintro ⟨-, length, -⟩
      omega
  | succ more =>
      rw [frequent]
      split
      · next empty =>
          have none : log.activities = [] := by
            rw [Log.activities, List.isEmpty_iff.1 empty]
            rfl
          refine ⟨.nil, fun items => iff_of_false List.not_mem_nil ?_⟩
          rintro ⟨sub, length, -⟩
          rw [none, List.sublist_nil] at sub
          rw [sub] at length
          cases length.1
      · have first : IsLevel log s (0 + 1) (((log.activities.map ([·])).filterMap
            (frequent? log.readable s)).map (·.items)) := by
          rw [map_items_filterMap_frequent?]
          exact isLevel_one log s
        have found := levels_spec size first more
        simp only [Nat.zero_add, Nat.add_comm 1 more] at found
        exact found

end Itemset

end Declare
