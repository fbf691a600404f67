import Declare.Json.Basic
import Declare.Proofs.Json.Values
import Mathlib.Data.List.Nodup

/-!
# Decoding encoded values

What the encoders of parts of a record write is exact, and the decoders that go with them give it
back: a value or null (`asOption?_ofOption`), a list (`asList?_ofList`), a count of 32 bits
(`asCount?_nat`), and the fields of an object, whose names tell them apart (`record?_ofFields`).
-/

namespace Declare.Json

variable {α : Type}

namespace IsExact

theorem nat {n : Nat} (h : n < UInt64.size) : IsExact (.nat n) := by
  refine number ⟨?_, Int.ofNat_lt.2 h⟩
  exact Int.le_trans (by decide) (Int.natCast_nonneg n)

theorem ofOption {write : α → Json} {o : Option α} (h : ∀ a ∈ o, IsExact (write a)) :
    IsExact (.ofOption write o) := by
  cases o with
  | none => exact null
  | some a => exact h a rfl

theorem ofList {write : α → Json} {as : List α} (h : ∀ a ∈ as, IsExact (write a)) :
    IsExact (.ofList write as) := by
  refine array fun j mem => ?_
  obtain ⟨a, inList, rfl⟩ := List.mem_map.1 mem
  exact h a inList

theorem ofFields {fields : List (String × Json)} (h : ∀ f ∈ fields, IsExact f.2) :
    IsExact (.ofFields fields) := by
  refine object (fun g mem => ?_) fun g mem => ?_
  all_goals obtain ⟨f, inList, rfl⟩ := List.mem_map.1 mem
  · rfl
  · exact h f inList

end IsExact

theorem mapM_eq_map {β : Type} {f : α → Option β} {g : α → β} {as : List α}
    (h : ∀ a ∈ as, f a = some (g a)) : as.mapM f = some (as.map g) := by
  induction as with
  | nil => rfl
  | cons a as ih =>
      rw [List.mapM_cons, h a List.mem_cons_self, ih fun b mem => h b (List.mem_cons_of_mem a mem)]
      rfl

theorem asCount?_nat {n : Nat} (h : n < UInt32.size) : (nat n).asCount? = some n := by
  have range : (0 : Int) ≤ n ∧ (n : Int) ≤ UInt32.size - 1 := by omega
  rw [asCount?, nat, asWhole?, if_pos range]
  rfl

theorem asOption?_ofOption {write : α → Json} {decode : Json → Option α} {o : Option α}
    (h : ∀ a ∈ o, decode (write a) = some a) (present : ∀ a, write a ≠ null) :
    (ofOption write o).asOption? decode = some o := by
  cases o with
  | none => rfl
  | some a => rw [ofOption, asOption?.eq_2 _ _ (present a), h a rfl, Option.map_some]

theorem asList?_ofList {write : α → Json} {decode : Json → Option α} {as : List α}
    (h : ∀ a ∈ as, decode (write a) = some a) : (ofList write as).asList? decode = some as := by
  have decoded : (as.map write).mapM decode = some (as.map id) := by
    rw [List.mapM_map]
    exact mapM_eq_map h
  rw [ofList, asList?, decoded, List.map_id]

section Records

variable {fields : List (String × Json)} (distinct : (fields.map (·.1)).Nodup)
include distinct

theorem find?_ofFields {f : String × Json} (mem : f ∈ fields) :
    (fields.map fun f => (some f.1, f.2)).find? (·.1 = some f.1) = some (some f.1, f.2) := by
  have found : fields.find? (·.1 = f.1) = some f := by
    cases search : fields.find? (·.1 = f.1) with
    | none => simpa using List.find?_eq_none.1 search f mem
    | some g =>
        have sameName := List.find?_some search
        rw [List.inj_on_of_nodup_map distinct (List.mem_of_find?_eq_some search) mem
          (of_decide_eq_true sameName)]
  rw [List.find?_map, Function.comp_def]
  simp only [Option.some.injEq, found, Option.map_some]

theorem countP_ofFields (name : String) :
    (fields.map fun f => (some f.1, f.2)).countP (·.1 = some name) ≤ 1 := by
  have once := List.nodup_iff_count_le_one.1 distinct name
  rw [List.count, List.countP_map] at once
  rw [List.countP_map]
  simpa [Function.comp_def, beq_eq_decide] using once

/-- Each part of a record is found in the field of its name. -/
theorem mapM_field?_ofFields {picked : List (String × Json)} {parts : List (String × Presence)}
    (among : picked ⊆ fields) (names : picked.map (·.1) = parts.map (·.1)) :
    parts.mapM (field? (fields.map fun f => (some f.1, f.2))) =
      some (picked.map fun f => some f.2) := by
  induction picked generalizing parts with
  | nil =>
      obtain rfl := List.map_eq_nil_iff.1 names.symm
      rfl
  | cons f fs ih =>
      obtain ⟨p, ps, rfl, sameName, sameNames⟩ := List.map_eq_cons_iff.1 names.symm
      have first : field? (fields.map fun f => (some f.1, f.2)) p = some (some f.2) := by
        simp only at sameName
        simp only [field?, sameName, find?_ofFields distinct (among List.mem_cons_self)]
      rw [List.mapM_cons, first, ih (List.subset_of_cons_subset among) sameNames.symm]
      rfl

end Records

/-- An object is decoded by the names of its fields. -/
theorem record?_ofFields {fields : List (String × Json)} {parts : List (String × Presence)}
    (names : fields.map (·.1) = parts.map (·.1)) (distinct : (parts.map (·.1)).Nodup) :
    (ofFields fields).record? parts = some (fields.map fun f => some f.2) := by
  have apart : (fields.map (·.1)).Nodup := names ▸ distinct
  have known : (fields.map fun f => (some f.1, f.2)).all (·.1.isSome) := by
    simp
  have once : parts.all fun part =>
      (fields.map fun f => (some f.1, f.2)).countP (fun f => f.1 = some part.1) ≤ 1 :=
    List.all_eq_true.2 fun part _ => decide_eq_true (countP_ofFields apart part.1)
  rw [ofFields, record?, known, once, Bool.true_and, if_pos rfl]
  exact mapM_field?_ofFields apart (List.Subset.refl fields) names

end Declare.Json
