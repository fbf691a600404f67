import Declare.Discovery.Basic
import Declare.Proofs.Discovery.Itemsets

/-!
# The constraints that are tried

Candidates are made from sets of one or two activities (`activitySets`). No candidate is made twice:
its activities tell the set it was made from. Leaving out sets that are not frequent is the same as
leaving out the candidates on them.
-/

namespace Declare

/-- The pairs of a name with one that comes after it. -/
def laterPairs : List String → List (List String)
  | [] => []
  | name :: names => names.map ([name, ·]) ++ laterPairs names

/-- The sets of one or two names, by size and then in alphabetical order. -/
def activitySets (names : List String) : List (List String) :=
  names.map ([·]) ++ laterPairs names

theorem mem_laterPairs {names items : List String} :
    items ∈ laterPairs names ↔ items.Sublist names ∧ items.length = 2 := by
  induction names with
  | nil =>
      refine iff_of_false List.not_mem_nil ?_
      rintro ⟨sub, length⟩
      rw [List.sublist_nil.1 sub] at length
      cases length
  | cons name names ih =>
      rw [laterPairs, List.mem_append, List.mem_map, ih, List.sublist_cons_iff, or_and_right,
        or_comm]
      refine or_congr_right ⟨?_, ?_⟩
      · rintro ⟨other, mem, rfl⟩
        exact ⟨⟨[other], rfl, List.singleton_sublist.2 mem⟩, rfl⟩
      · rintro ⟨⟨rest, rfl, sub⟩, length⟩
        obtain ⟨other, rfl⟩ := List.length_eq_one_iff.1 (Nat.succ.inj length)
        exact ⟨other, List.singleton_sublist.1 sub, rfl⟩

theorem mem_activitySets {names items : List String} :
    items ∈ activitySets names ↔
      items.Sublist names ∧ 1 ≤ items.length ∧ items.length ≤ 2 := by
  rw [activitySets, List.mem_append, List.mem_map, mem_laterPairs]
  constructor
  · rintro (⟨name, mem, rfl⟩ | ⟨sub, length⟩)
    · exact ⟨List.singleton_sublist.2 mem, le_rfl, Nat.le_succ 1⟩
    · exact ⟨sub, by omega, by omega⟩
  · rintro ⟨sub, least, most⟩
    rcases least.eq_or_lt with one | two
    · obtain ⟨name, rfl⟩ := List.length_eq_one_iff.1 one.symm
      exact .inl ⟨name, List.singleton_sublist.1 sub, rfl⟩
    · exact .inr ⟨sub, by omega⟩

theorem sorted_laterPairs {names : List String} (h : names.Pairwise (· < ·)) :
    (laterPairs names).Pairwise (· < ·) := by
  induction names with
  | nil => exact .nil
  | cons name names ih =>
      obtain ⟨least, rest⟩ := List.pairwise_cons.1 h
      refine List.pairwise_append.2 ⟨List.pairwise_map.2 ?_, ih rest, ?_⟩
      · exact rest.imp fun less => .cons (.rel less)
      · intro items mem items' mem'
        obtain ⟨other, -, rfl⟩ := List.mem_map.1 mem
        obtain ⟨sub, length⟩ := mem_laterPairs.1 mem'
        obtain ⟨a, b, rfl⟩ := List.length_eq_two.1 length
        exact .rel (least a (sub.subset List.mem_cons_self))

theorem sorted_activitySets {names : List String} (h : names.Pairwise (· < ·)) :
    (activitySets names).Pairwise (List.Shortlex (· < ·)) := by
  refine List.pairwise_append.2 ⟨List.pairwise_map.2 ?_, ?_, ?_⟩
  · exact h.imp fun less => .of_lex rfl (.rel less)
  · apply (sorted_laterPairs h).imp_of_mem
    intro items items' mem mem' less
    exact .of_lex ((mem_laterPairs.1 mem).2.trans (mem_laterPairs.1 mem').2.symm) less
  · intro items mem items' mem'
    obtain ⟨name, -, rfl⟩ := List.mem_map.1 mem
    refine .of_length_lt ?_
    rw [(mem_laterPairs.1 mem').2]
    exact Nat.lt_succ_self 1

/-- The search for frequent sets of up to two activities leaves out the sets that are not. -/
theorem map_items_frequent_two {log : Log} (s : Float) (size : log.size < UInt64.size) :
    (Itemset.frequent log s 2).map (·.items) =
      (activitySets log.activities).filter (Itemset.isFrequent log.readable s) := by
  obtain ⟨sorted, mem_iff⟩ := Itemset.frequent_spec s size 2
  apply sorted.eq_of_mem_iff ((sorted_activitySets (Itemset.pairwise_activities log)).filter _)
  intro items
  rw [mem_iff, List.mem_filter, mem_activitySets, ← and_assoc]

theorem Template.mem_unary {t : Template} : t ∈ unary ↔ t.isBinary = false := by
  simp only [unary, List.mem_filter, mem_all, true_and, Bool.not_eq_true']

theorem Template.mem_binary {t : Template} : t ∈ binary ↔ t.isBinary ∧ t.isDerived = false := by
  simp only [binary, List.mem_filter, mem_all, true_and, Bool.and_eq_true, Bool.not_eq_true']

theorem mem_cardinalities {t : Template} {greatest : UInt64} {n : Option UInt64} :
    n ∈ t.cardinalities greatest ↔
      if t.takesCardinality then ∃ k, 1 ≤ k ∧ k ≤ greatest ∧ n = some k else n = none := by
  rw [Template.cardinalities]
  split
  · rw [List.mem_map]
    constructor
    · rintro ⟨k, mem, rfl⟩
      obtain ⟨least, most⟩ := List.mem_range'_1.1 mem
      have fits := greatest.toNat_lt_size
      have same : (UInt64.ofNat k).toNat = k := UInt64.toNat_ofNat_of_lt' (by omega)
      refine ⟨.ofNat k, UInt64.le_iff_toNat_le.2 ?_, UInt64.le_iff_toNat_le.2 ?_, rfl⟩
      · rw [same]
        exact least
      · rw [same]
        omega
    · rintro ⟨k, least, most, rfl⟩
      have least := UInt64.le_iff_toNat_le.1 least
      have most := UInt64.le_iff_toNat_le.1 most
      exact ⟨k.toNat, List.mem_range'_1.2 ⟨least, by omega⟩, by rw [UInt64.ofNat_toNat]⟩
  · exact List.mem_singleton

theorem nodup_cardinalities (t : Template) (greatest : UInt64) :
    (t.cardinalities greatest).Nodup := by
  rw [Template.cardinalities]
  split
  · apply List.Nodup.map_on _ List.nodup_range'
    intro j mem k mem' same
    have fits := greatest.toNat_lt_size
    have most := (List.mem_range'_1.1 mem).2
    have most' := (List.mem_range'_1.1 mem').2
    have numbers := congrArg UInt64.toNat (Option.some.inj same)
    rwa [UInt64.toNat_ofNat_of_lt' (by omega), UInt64.toNat_ofNat_of_lt' (by omega)] at numbers
  · exact List.nodup_singleton none

theorem mem_candidatesOn_single {greatest : UInt64} {a : String} {c : Constraint} :
    c ∈ candidatesOn greatest [a] ↔ ∃ t : Template, t.isBinary = false ∧
      ∃ n ∈ t.cardinalities greatest,
        { template := t, activities := [a], cardinality := n } = c := by
  simp only [candidatesOn, List.mem_flatMap, List.mem_map, Template.mem_unary]

theorem mem_candidatesOn_pair {greatest : UInt64} {a b : String} {c : Constraint} :
    c ∈ candidatesOn greatest [a, b] ↔ ∃ t : Template, (t.isBinary ∧ t.isDerived = false) ∧
      (c = .binary t a b ∨ c = .binary t b a) := by
  simp only [candidatesOn, List.mem_flatMap, Template.mem_binary, List.mem_cons,
    List.not_mem_nil, or_false]

theorem perm_of_mem_candidatesOn {greatest : UInt64} {items : List String} {c : Constraint}
    (h : c ∈ candidatesOn greatest items) : c.activities.Perm items := by
  match items with
  | [] => cases h
  | [a] =>
      obtain ⟨t, -, n, -, rfl⟩ := mem_candidatesOn_single.1 h
      exact .rfl
  | [a, b] =>
      obtain ⟨t, -, rfl | rfl⟩ := mem_candidatesOn_pair.1 h
      · exact .rfl
      · exact .swap ..
  | _ :: _ :: _ :: _ => cases h

theorem nodup_candidatesOn (greatest : UInt64) {items : List String} (h : items.Nodup) :
    (candidatesOn greatest items).Nodup := by
  match items with
  | [] => exact .nil
  | [a] =>
      refine List.nodup_flatMap.2 ⟨?_, ?_⟩
      · intro t _
        apply (nodup_cardinalities t greatest).map
        intro m n same
        exact (Constraint.mk.inj same).2.2.1
      · apply (by decide : Template.unary.Nodup).imp
        intro t t' different c made made'
        obtain ⟨n, -, rfl⟩ := List.mem_map.1 made
        obtain ⟨n', -, same⟩ := List.mem_map.1 made'
        exact different (Constraint.mk.inj same).1.symm
  | [a, b] =>
      have different : a ≠ b := by simpa using h
      refine List.nodup_flatMap.2 ⟨?_, ?_⟩
      · intro t _
        simp [Constraint.binary, different]
      · apply (by decide : Template.binary.Nodup).imp
        intro t t' different c made made'
        have template {t : Template} (made : c ∈ [.binary t a b, .binary t b a]) :
            c.template = t := by
          simp only [List.mem_cons, List.not_mem_nil, or_false] at made
          rcases made with rfl | rfl <;> rfl
        exact different ((template made).symm.trans (template made'))
  | _ :: _ :: _ :: _ => exact .nil

/-- No candidate is made twice. -/
theorem nodup_candidates (greatest : UInt64) {sets : List (List String)}
    (sorted : ∀ items ∈ sets, items.Pairwise (· < ·)) (nodup : sets.Nodup) :
    (candidates greatest sets).Nodup := by
  refine List.nodup_flatMap.2 ⟨?_, ?_⟩
  · intro items mem
    exact nodup_candidatesOn greatest (sorted items mem).nodup
  · apply nodup.imp_of_mem
    intro items items' mem mem' different c made made'
    have same := (perm_of_mem_candidatesOn made).symm.trans (perm_of_mem_candidatesOn made')
    exact different (same.eq_of_pairwise' (sorted items mem) (sorted items' mem'))

/-- Sets can be left out before candidates are made from them or afterwards. -/
theorem mem_candidates_filter {greatest : UInt64} {sets : List (List String)}
    {p : List String → Bool} (perm : ∀ items items', items.Perm items' → p items = p items')
    {c : Constraint} :
    c ∈ candidates greatest (sets.filter p) ↔ c ∈ candidates greatest sets ∧ p c.activities := by
  simp only [candidates, List.mem_flatMap, List.mem_filter]
  constructor
  · rintro ⟨items, ⟨mem, kept⟩, made⟩
    rw [perm _ _ (perm_of_mem_candidatesOn made)]
    exact ⟨⟨items, mem, made⟩, kept⟩
  · rintro ⟨⟨items, mem, made⟩, kept⟩
    rw [perm _ _ (perm_of_mem_candidatesOn made)] at kept
    exact ⟨items, ⟨mem, kept⟩, made⟩

/-- A constraint is made from a template and activities as they are tried. -/
inductive Constraint.IsCandidate (names : List String) (greatest : UInt64) : Constraint → Prop
  | counting {t : Template} {a : String} {n : UInt64} (takes : t.takesCardinality)
      (mem : a ∈ names) (least : 1 ≤ n) (most : n ≤ greatest) :
      IsCandidate names greatest ((Constraint.unary t a).withCardinality n)
  | unary {t : Template} {a : String} (isUnary : t.isBinary = false)
      (plain : t.takesCardinality = false) (mem : a ∈ names) :
      IsCandidate names greatest (.unary t a)
  | binary {t : Template} {a b : String} (isBinary : t.isBinary) (notDerived : t.isDerived = false)
      (memA : a ∈ names) (memB : b ∈ names) (different : a ≠ b) :
      IsCandidate names greatest (.binary t a b)

theorem Constraint.IsCandidate.exists_mem {names : List String} {greatest : UInt64}
    {c : Constraint} (h : c.IsCandidate names greatest) : ∃ a ∈ c.activities, a ∈ names := by
  cases h with
  | counting _ mem _ _ => exact ⟨_, List.mem_cons_self, mem⟩
  | unary _ _ mem => exact ⟨_, List.mem_cons_self, mem⟩
  | binary _ _ mem _ _ => exact ⟨_, List.mem_cons_self, mem⟩

private theorem pair_sublist {names : List String} (sorted : names.Pairwise (· < ·))
    {a b : String} (memA : a ∈ names) (memB : b ∈ names) (less : a < b) : [a, b].Sublist names := by
  have pair : [a, b].Pairwise (· < ·) := List.pairwise_pair.2 less
  have subset : [a, b] ⊆ names := by simp [memA, memB]
  exact List.sublist_of_subperm_of_pairwise (List.subperm_of_subset pair.nodup subset) pair sorted

/-- The candidates on all sets of one or two names. -/
theorem mem_candidates_iff {names : List String} (sorted : names.Pairwise (· < ·))
    {greatest : UInt64} {c : Constraint} :
    c ∈ candidates greatest (activitySets names) ↔ c.IsCandidate names greatest := by
  rw [candidates, List.mem_flatMap]
  constructor
  · rintro ⟨items, mem, made⟩
    obtain ⟨sub, least, most⟩ := mem_activitySets.1 mem
    match items, made with
    | [a], made =>
        obtain ⟨t, isUnary, n, admitted, rfl⟩ := mem_candidatesOn_single.1 made
        have used := List.singleton_sublist.1 sub
        rw [mem_cardinalities] at admitted
        split at admitted
        · next takes =>
            obtain ⟨k, least, most, rfl⟩ := admitted
            exact .counting takes used least most
        · next plain =>
            rw [Bool.not_eq_true] at plain
            have made := @Constraint.IsCandidate.unary names greatest t a isUnary plain used
            rw [Constraint.unary, plain] at made
            rw [admitted]
            exact made
    | [a, b], made =>
        have less : a < b := List.pairwise_pair.1 (sorted.sublist sub)
        have memA := sub.subset (List.mem_cons_self)
        have memB := sub.subset (List.mem_cons_of_mem a List.mem_cons_self)
        obtain ⟨t, ⟨isBinary, notDerived⟩, rfl | rfl⟩ := mem_candidatesOn_pair.1 made
        · exact .binary isBinary notDerived memA memB less.ne
        · exact .binary isBinary notDerived memB memA less.ne'
  · intro candidate
    cases candidate with
    | @counting t a n takes mem least most =>
        have isUnary : t.isBinary = false := by
          cases t <;> first | rfl | cases takes
        refine ⟨[a], mem_activitySets.2 ⟨List.singleton_sublist.2 mem, le_rfl, Nat.le_succ 1⟩,
          mem_candidatesOn_single.2 ⟨t, isUnary, some n, ?_, rfl⟩⟩
        rw [mem_cardinalities, if_pos takes]
        exact ⟨n, least, most, rfl⟩
    | @unary t a isUnary plain mem =>
        refine ⟨[a], mem_activitySets.2 ⟨List.singleton_sublist.2 mem, le_rfl, Nat.le_succ 1⟩,
          mem_candidatesOn_single.2 ⟨t, isUnary, none, ?_, ?_⟩⟩
        · rw [mem_cardinalities, plain]
          rfl
        · rw [Constraint.unary, plain]
          rfl
    | @binary t a b isBinary notDerived memA memB different =>
        rcases lt_or_gt_of_ne different with less | greater
        · have sub := pair_sublist sorted memA memB less
          exact ⟨[a, b], mem_activitySets.2 ⟨sub, Nat.le_succ 1, le_rfl⟩,
            mem_candidatesOn_pair.2 ⟨t, ⟨isBinary, notDerived⟩, .inl rfl⟩⟩
        · have sub := pair_sublist sorted memB memA greater
          exact ⟨[b, a], mem_activitySets.2 ⟨sub, Nat.le_succ 1, le_rfl⟩,
            mem_candidatesOn_pair.2 ⟨t, ⟨isBinary, notDerived⟩, .inr rfl⟩⟩

end Declare
