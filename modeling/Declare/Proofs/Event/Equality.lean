import Declare.Event.Basic
import Declare.Proofs.Decimal.Equality

/-!
# Equality and hashes of attribute values

Values are equal exactly if they have the same key and are not NaN (`Value.beq_iff_key`). So
equality is symmetric and transitive, equal values have equal hashes, and all values but NaN are
equal to themselves. A set finds a value again that was put into it, whatever its hash takes from a
number, as long as it takes the same from equal ones; only NaN is new every time
(`Value.equality_contract`, `Value.not_forall_beq_self`).
-/

namespace Declare.Value

open Decimal (numberBits beq_iff_numberBits ne_notANumber_of_beq isNaN_iff)

/-- Whether the value is NaN. -/
def isNaN : Value → Bool
  | float x => x.isNaN
  | _ => false

theorem key_float (x : Float) : (float x).key = .float (numberBits x) :=
  rfl

/-- Apart from NaN, values are equal if their keys are. -/
theorem beq_iff_key {v w : Value} : (v == w) = true ↔ v.isNaN = false ∧ v.key = w.key := by
  change v.same w = true ↔ _
  cases v with
  | float x =>
      cases w with
      | float y =>
          rw [key_float, key_float, Key.float.injEq]
          exact beq_iff_numberBits
      | _ => simp [same, key]
  | date t =>
      cases w with
      | date s =>
          simp only [key, Key.instant.injEq, isNaN, true_and]
          exact Time.Timestamp.sameInstant_iff
      | _ => simp [same, key]
  | _ => cases w <;> simp [same, key, isNaN]

theorem isNaN_of_beq {v w : Value} (h : (v == w) = true) : w.isNaN = false := by
  cases w with
  | float y =>
      cases v with
      | float x =>
          rw [isNaN, Bool.eq_false_iff, Ne, isNaN_iff]
          exact ne_notANumber_of_beq h
      | _ => cases h
  | _ => rfl

theorem beq_self (v : Value) : (v == v) = !v.isNaN := by
  rw [Bool.eq_iff_iff, beq_iff_key, Bool.not_eq_true']
  exact and_iff_left rfl

theorem beq_symm {v w : Value} (h : (v == w) = true) : (w == v) = true :=
  beq_iff_key.2 ⟨isNaN_of_beq h, (beq_iff_key.1 h).2.symm⟩

theorem beq_trans {u v w : Value} (h : (u == v) = true) (h' : (v == w) = true) :
    (u == w) = true := by
  obtain ⟨number, same⟩ := beq_iff_key.1 h
  exact beq_iff_key.2 ⟨number, same.trans (beq_iff_key.1 h').2⟩

/-- What a hash of a value is computed from if it takes `bits` from a floating-point number. -/
def keyBy (bits : Float → UInt64) : Value → Key
  | float x => .float (bits x)
  | v => v.key

section

variable {bits : Float → UInt64} (respects : ∀ x y : Float, (x == y) = true → bits x = bits y)
include respects

theorem keyBy_eq_of_beq {v w : Value} (h : (v == w) = true) : v.keyBy bits = w.keyBy bits := by
  have same := (beq_iff_key.1 h).2
  cases v with
  | float x =>
      cases w with
      | float y => exact congrArg Key.float (respects x y h)
      | _ => cases h
  | _ =>
      cases w with
      | float y => cases h
      | _ => exact same

end

/-- Whether a set with the given keys holds the value. -/
def isInBy (key : Value → Key) (v : Value) (members : List Value) : Bool :=
  members.any fun w => key w = key v && w == v

/-- Puts values into a set with the given keys one after the other and says of each whether it was
new. -/
def insertAllBy (key : Value → Key) (members : List Value) : List Value → List Bool
  | [] => []
  | v :: vs =>
    if v.isInBy key members then false :: insertAllBy key members vs
    else true :: insertAllBy key (v :: members) vs

/-- Keys only tell values apart that are not equal anyway. -/
theorem isInBy_eq {key : Value → Key} (respects : ∀ v w : Value, (v == w) = true → key v = key w)
    (v : Value) (members : List Value) : v.isInBy key members = members.any (· == v) := by
  rw [isInBy]
  congr 1
  funext w
  cases same : w == v with
  | false => exact Bool.and_false _
  | true => simp [respects w v same]

theorem isIn_eq (v : Value) (members : List Value) : v.isIn members = members.any (· == v) :=
  isInBy_eq (fun _ _ h => (beq_iff_key.1 h).2) v members

/-- The answers of a set do not depend on its keys. -/
theorem insertAllBy_eq {key : Value → Key}
    (respects : ∀ v w : Value, (v == w) = true → key v = key w) (members vs : List Value) :
    insertAllBy key members vs = insertAll members vs := by
  induction vs generalizing members with
  | nil => rfl
  | cons v vs ih => rw [insertAllBy, insertAll, isInBy_eq respects, isIn_eq, ih, ih]

theorem any_beq_of_beq {members : List Value} {v w : Value} (held : members.any (· == v) = true)
    (same : (v == w) = true) : members.any (· == w) = true := by
  obtain ⟨u, mem, equal⟩ := List.any_eq_true.1 held
  exact List.any_eq_true.2 ⟨u, mem, beq_trans equal same⟩

/-- A value is new if no value before it is equal, neither a member nor one that was put in. -/
theorem getElem?_insertAll {members vs : List Value} {k : Nat} {v : Value}
    (here : vs[k]? = some v) :
    (insertAll members vs)[k]? = some (!(members.any (· == v) || (vs.take k).any (· == v))) := by
  induction vs generalizing members k with
  | nil => cases here
  | cons first vs ih =>
      rw [insertAll, isIn_eq]
      cases k with
      | zero =>
          obtain rfl := Option.some.inj here
          cases held : members.any (· == first) <;> simp
      | succ k =>
          have later (members : List Value) := @ih members k here
          cases held : members.any (· == first) with
          | false =>
              rw [if_neg Bool.false_ne_true, List.getElem?_cons_succ, later, List.take_succ_cons,
                List.any_cons, List.any_cons, Bool.or_assoc, Bool.or_left_comm]
          | true =>
              rw [if_pos rfl, List.getElem?_cons_succ, later, List.take_succ_cons, List.any_cons]
              -- what is equal to the first value is already held
              cases same : first == v with
              | true => rw [any_beq_of_beq held same, Bool.true_or, Bool.true_or]
              | false => rw [Bool.false_or]

/-- A value is new to an empty set if no value that was put in before is equal. -/
theorem getElem?_insertAll_nil {vs : List Value} {k : Nat} {v : Value} (here : vs[k]? = some v) :
    (insertAll [] vs)[k]? = some (!(vs.take k).any (· == v)) :=
  getElem?_insertAll here

theorem length_insertAll (members vs : List Value) :
    (insertAll members vs).length = vs.length := by
  induction vs generalizing members with
  | nil => rfl
  | cons v vs ih => rw [insertAll]; split <;> simp [ih]

/-- A value equals one of the values in front of it exactly if it is put in again and is not NaN. -/
theorem any_beq_of_mem {vs : List Value} {v : Value} (mem : v ∈ vs) :
    vs.any (· == v) = !v.isNaN := by
  cases nan : v.isNaN with
  | false => exact List.any_eq_true.2 ⟨v, mem, by rw [beq_self, nan]; rfl⟩
  | true =>
      rw [Bool.not_true, List.any_eq_false]
      intro w _ same
      rw [isNaN_of_beq same] at nan
      cases nan

/-- Putting values in again, only NaN is new. -/
theorem insertAll_append_of_subset {vs again : List Value} (subset : again ⊆ vs) :
    insertAll [] (vs ++ again) = insertAll [] vs ++ again.map isNaN := by
  have length := length_insertAll [] vs
  apply List.ext_getElem?
  intro k
  rcases Nat.lt_or_ge k vs.length with first | behind
  · have here : (vs ++ again)[k]? = some vs[k] := by
      rw [List.getElem?_append_left first, List.getElem?_eq_getElem first]
    rw [getElem?_insertAll_nil here, List.getElem?_append_left (first.trans_eq length.symm),
      getElem?_insertAll_nil (List.getElem?_eq_getElem first),
      List.take_append_of_le_length first.le]
  · rw [List.getElem?_append_right (length.trans_le behind), length, List.getElem?_map]
    cases value : again[k - vs.length]? with
    | none =>
        rw [Option.map_none, List.getElem?_eq_none_iff, length_insertAll, List.length_append]
        have := List.getElem?_eq_none_iff.1 value
        omega
    | some v =>
        have here : (vs ++ again)[k]? = some v := by
          rw [List.getElem?_append_right behind, value]
        have mem : v ∈ (vs ++ again).take k := by
          rw [List.take_append, List.take_of_length_le behind]
          exact List.mem_append_left _ (subset (List.mem_of_getElem? value))
        rw [getElem?_insertAll_nil here, any_beq_of_mem mem, Bool.not_not, Option.map_some]

/-- Equality of values is symmetric and transitive, and hashes respect it; NaN alone does not equal
itself. In a set a value is new exactly if none before it is equal, whichever bits of numbers its
hash takes; so all values that were put in before are found again but NaN. -/
theorem equality_contract (bits : Float → UInt64)
    (respects : ∀ x y : Float, (x == y) = true → bits x = bits y) :
    (∀ v : Value, (v == v) = !v.isNaN) ∧
      (∀ v w : Value, (v == w) = true → (w == v) = true) ∧
      (∀ u v w : Value, (u == v) = true → (v == w) = true → (u == w) = true) ∧
      (∀ v w : Value, (v == w) = true → v.keyBy bits = w.keyBy bits) ∧
      ∀ vs : List Value, insertAllBy (keyBy bits) [] vs = insertAll [] vs ∧
        (∀ k v, vs[k]? = some v →
          (insertAll [] vs)[k]? = some (!(vs.take k).any (· == v))) ∧
        ∀ again ⊆ vs, insertAll [] (vs ++ again) = insertAll [] vs ++ again.map isNaN := by
  have hashed (v w : Value) (h : (v == w) = true) : v.keyBy bits = w.keyBy bits :=
    keyBy_eq_of_beq respects h
  refine ⟨beq_self, fun _ _ => beq_symm, fun _ _ _ => beq_trans, hashed, ?_⟩
  intro vs
  refine ⟨insertAllBy_eq hashed [] vs, ?_, ?_⟩
  · intro k v here
    exact getElem?_insertAll_nil here
  · intro again subset
    exact insertAll_append_of_subset subset

/-- A measurement that failed. -/
def notANumber : Value :=
  float (0.0 / 0.0)

/-- Zeros of both signs, NaN, and one instant on two clocks. -/
def readings : List Value :=
  [float (-0.0), int 0, float 0.0, notANumber, date ⟨0, 0, 0⟩, date ⟨0, 0, 7200⟩]

/-- The second zero and the second date are not new, and put in again only NaN is. -/
theorem equality_contract_readings :
    (∀ x y : Float, (x == y) = true → numberBits x = numberBits y) ∧
      (float 0.0).keyBy numberBits = (float (-0.0)).keyBy numberBits ∧
      insertAllBy (keyBy numberBits) [] readings = insertAll [] readings ∧
      (insertAll [] readings)[2]? = some false ∧ (insertAll [] readings)[5]? = some false ∧
      insertAll [] (readings ++ [notANumber, float 0.0]) =
        insertAll [] readings ++ [true, false] := by
  have respects (x y : Float) (h : (x == y) = true) : numberBits x = numberBits y :=
    Decimal.numberBits_eq_of_beq h
  obtain ⟨-, -, -, hashed, sets⟩ := equality_contract numberBits respects
  obtain ⟨keys, new, again⟩ := sets readings
  refine ⟨respects, hashed _ _ (by decide), keys, ?_, ?_, ?_⟩
  · rw [new 2 _ rfl]
    decide
  · rw [new 5 _ rfl]
    decide
  · rw [again [notANumber, float 0.0] (by simp [readings])]
    rfl

/-- NaN does not equal itself, and a set that it was put into does not find it. -/
theorem not_forall_beq_self :
    (¬∀ v : Value, (v == v) = true) ∧
      ¬∀ vs : List Value, ∀ v ∈ vs, insertAll [] (vs ++ [v]) = insertAll [] vs ++ [false] := by
  constructor
  · intro reflexive
    exact absurd (reflexive notANumber) (by decide)
  · intro found
    have again := found [notANumber] notANumber List.mem_cons_self
    exact absurd again (by decide)

end Declare.Value
