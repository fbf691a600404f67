import Declare.Proofs.Decimal.Share

/-!
# Equality of floating-point numbers

Floating-point numbers are compared after they were unpacked from their bits. Two of them are equal
if they are unpacked to the same number, where zero has no sign and NaN is not a number
(`beq_iff`). Unpacking loses nothing else, so numbers are equal exactly if their bits are the same,
where zeros count as one (`beq_iff_numberBits`), and a hash may be taken of the bits.
-/

namespace Declare.Decimal

open Float.Model Float.Model.UnpackedFloat

/-- The number without the sign of a zero, which comparisons do not see. -/
def unsignedZero : UnpackedFloat → UnpackedFloat
  | .zero _ => .zero .positive
  | u => u

theorem compare_eq_eq_iff {u v : UnpackedFloat} :
    u.compare v = some .eq ↔ u ≠ .notANumber ∧ unsignedZero u = unsignedZero v := by
  cases u with
  | notANumber => simp [UnpackedFloat.compare]
  | infinity s =>
      cases s <;> rcases v with (_ | _) | _ | (_ | _) | (_ | _) <;>
        simp [UnpackedFloat.compare, unsignedZero] <;> decide
  | zero s =>
      rcases v with (_ | _) | _ | (_ | _) | (_ | _) <;>
        simp [UnpackedFloat.compare, unsignedZero]
  | finite s m e positive =>
      cases s <;> rcases v with (_ | _) | _ | (_ | _) | (_ | _) <;>
        simp [UnpackedFloat.compare, unsignedZero, and_comm]

theorem beq_iff {x y : Float} :
    (x == y) = true ↔ x.toModel.unpack ≠ .notANumber ∧
      unsignedZero x.toModel.unpack = unsignedZero y.toModel.unpack := by
  rw [← compare_eq_eq_iff]
  change (x.toModel.unpack.compare y.toModel.unpack == some .eq) = true ↔ _
  exact beq_iff_eq

theorem isNaN_iff {x : Float} : x.isNaN = true ↔ x.toModel.unpack = .notANumber := by
  change x.toModel.unpack.isNaN = true ↔ _
  cases x.toModel.unpack <;> simp [UnpackedFloat.isNaN]

/-- NaN is the only floating-point number that is not equal to itself. -/
theorem beq_self (x : Float) : (x == x) = !x.isNaN := by
  rw [Bool.eq_iff_iff, beq_iff, Bool.not_eq_true', Bool.eq_false_iff, Ne, Ne, isNaN_iff]
  exact and_iff_left rfl

/-- What equals something is a number. -/
theorem ne_notANumber_of_beq {x y : Float} (h : (x == y) = true) :
    y.toModel.unpack ≠ .notANumber := by
  obtain ⟨number, same⟩ := beq_iff.1 h
  intro nan
  rw [nan] at same
  cases unpacked : x.toModel.unpack with
  | notANumber => exact number unpacked
  | _ => rw [unpacked] at same; cases same

theorem beq_symm {x y : Float} (h : (x == y) = true) : (y == x) = true :=
  beq_iff.2 ⟨ne_notANumber_of_beq h, (beq_iff.1 h).2.symm⟩

theorem beq_trans {x y z : Float} (h : (x == y) = true) (h' : (y == z) = true) :
    (x == z) = true := by
  obtain ⟨number, same⟩ := beq_iff.1 h
  exact beq_iff.2 ⟨number, same.trans (beq_iff.1 h').2⟩

/-- The two are one number: as it is computed with, and as the value of its bits. -/
inductive Represents : UnpackedFloat → Exact → Prop
  | nan : Represents .notANumber .nan
  | infinite (s : Sign) : Represents (.infinity s) (.infinite (s matches .negative))
  | zero (s : Sign) : Represents (.zero s) (.finite (s matches .negative) 0 (-1074))
  | finite (s : Sign) {m : ℕ} (e : ℤ) (positive : 0 < m) :
    Represents (.finite s m e positive) (.finite (s matches .negative) m e)

theorem Represents.unique {u : UnpackedFloat} {d e : Exact} (h : Represents u d)
    (h' : Represents u e) : d = e := by
  cases h <;> cases h' <;> rfl

section

variable (b : BitVec 64)

theorem toNat_unpackMantissa :
    (@unpackMantissa .binary64 b).toNat = b.toNat % Nat.pow 2 52 := by
  simp [unpackMantissa]

theorem toNat_unpackExponent :
    (@unpackExponent .binary64 b).toNat = b.toNat / Nat.pow 2 52 % 2048 := by
  simp [unpackExponent, Nat.shiftRight_eq_div_pow]

theorem unpackSign_matches :
    (Sign.ofBitVec (@unpackSign .binary64 b) matches .negative) =
      (b.toNat / Nat.pow 2 63 % 2 == 1) := by
  have value : (@unpackSign .binary64 b).toNat = b.toNat / Nat.pow 2 63 % 2 := by
    simp [unpackSign, Nat.shiftRight_eq_div_pow]
  rw [← value]
  generalize @unpackSign .binary64 b = s
  revert s
  decide

/-- Bits are unpacked to the number that they stand for. -/
theorem represents_ofBits :
    Represents (UnpackedFloat.unpack .binary64 b) (.ofBits b.toNat) := by
  have toNat_eq {w : ℕ} (x y : BitVec w) : x = y ↔ x.toNat = y.toNat := BitVec.toNat_inj.symm
  rw [UnpackedFloat.unpack, Exact.ofBits]
  simp only [← toNat_unpackMantissa, ← toNat_unpackExponent, ← unpackSign_matches, toNat_eq]
  -- the same cases on both sides, with the widths and the bias of the format as numbers
  change Represents
    (if _ = 2047 then if _ = 0 then _ else _
      else if _ = 0 then if h : _ = 0 then _ else .finite _ _ (_ - (1023 + 52) + 1) _
      else .finite _ _ (_ - (1023 + 52)) _) _
  split
  · split
    · exact .infinite _
    · exact .nan
  split
  next subnormal =>
    rw [subnormal]
    split
    next none =>
      rw [none]
      exact .zero _
    · exact .finite _ (-1074) _
  · have mantissa := toNat_leadingOne (@unpackMantissa .binary64 b)
    have exponent : ((@unpackExponent .binary64 b).toNat : ℤ) - (1023 + 52) =
        (@unpackExponent .binary64 b).toNat - 1075 := by
      omega
    rw [exponent]
    simp only [mantissa]
    exact .finite _ _ _

end

theorem represents_exact (x : Float) : Represents x.toModel.unpack (exact x) :=
  represents_ofBits x.toModel.toBits.toBitVec

/-- The value of a sign, an exponent and a fraction as bits hold them. -/
private def ofParts (negative : Bool) (exponent fraction : ℕ) : Exact :=
  if exponent = 2047 then
    if fraction = 0 then .infinite negative else .nan
  else if exponent = 0 then .finite negative fraction (-1074)
  else .finite negative (Nat.pow 2 52 + fraction) (exponent - 1075)

private theorem ofParts_inj {s t : Bool} {e e' f f' : ℕ} (hf : f < Nat.pow 2 52)
    (hf' : f' < Nat.pow 2 52) (same : ofParts s e f = ofParts t e' f')
    (number : ofParts s e f ≠ .nan) : s = t ∧ e = e' ∧ f = f' := by
  -- only that the leading bit is larger than every fraction matters here
  generalize leading : Nat.pow 2 52 = one at *
  simp only [ofParts, leading] at same number
  clear leading
  grind

/-- Different bits stand for different values, unless that is NaN. -/
theorem Exact.ofBits_inj {a b : ℕ} (ha : a < 2 ^ 64) (hb : b < 2 ^ 64)
    (same : ofBits a = ofBits b) (number : ofBits a ≠ .nan) : a = b := by
  obtain ⟨sign, exponent, fraction⟩ :=
    ofParts_inj (Nat.mod_lt a (by decide)) (Nat.mod_lt b (by decide)) same number
  have sign : a / 2 ^ 63 % 2 = b / 2 ^ 63 % 2 := by
    rw [Bool.eq_iff_iff, beq_iff_eq, beq_iff_eq] at sign
    simp only [Nat.pow_eq] at sign
    omega
  simp only [Nat.pow_eq] at exponent fraction
  omega

theorem toBits_eq_of_unpack {x y : Float} (same : x.toModel.unpack = y.toModel.unpack)
    (number : x.toModel.unpack ≠ .notANumber) : x.toBits = y.toBits := by
  have value := represents_exact x
  have values : exact x = exact y := value.unique (same ▸ represents_exact y)
  have notNan : exact x ≠ .nan := by
    intro nan
    rw [nan] at value
    cases unpacked : x.toModel.unpack with
    | notANumber => exact number unpacked
    | _ => rw [unpacked] at value; cases value
  exact UInt64.toNat_inj.1
    (Exact.ofBits_inj x.toBits.toNat_lt y.toBits.toNat_lt values notNan)

/-- The bits of a number, where zeros of both signs have the same. -/
def numberBits (x : Float) : UInt64 :=
  if x == 0.0 then 0 else x.toBits

theorem numberBits_eq_of_beq {x y : Float} (h : (x == y) = true) : numberBits x = numberBits y := by
  have zero : (x == 0.0) = (y == 0.0) := by
    rw [Bool.eq_iff_iff]
    exact ⟨fun x_zero => beq_trans (beq_symm h) x_zero, fun y_zero => beq_trans h y_zero⟩
  rw [numberBits, numberBits, ← zero]
  split
  · rfl
  next nonzero =>
    obtain ⟨number, same⟩ := beq_iff.1 h
    have unsigned {z : Float} (hz : ¬(z == 0.0) = true) :
        unsignedZero z.toModel.unpack = z.toModel.unpack := by
      cases unpacked : z.toModel.unpack with
      | zero s =>
          refine absurd (beq_iff.2 ⟨?_, ?_⟩) hz
          · simp [unpacked]
          · rw [unpacked]
            rfl
      | _ => rfl
    rw [unsigned nonzero, unsigned (zero ▸ nonzero)] at same
    exact toBits_eq_of_unpack same number

theorem eq_of_toBits_eq {x y : Float} (h : x.toBits = y.toBits) : x = y := by
  obtain ⟨⟨bits, valid⟩⟩ := x
  obtain ⟨⟨bits', valid'⟩⟩ := y
  cases (h : bits = bits')
  rfl

/-- Floating-point numbers are equal exactly if they are numbers and have the same bits. -/
theorem beq_iff_numberBits {x y : Float} :
    (x == y) = true ↔ x.isNaN = false ∧ numberBits x = numberBits y := by
  constructor
  · intro h
    refine ⟨?_, numberBits_eq_of_beq h⟩
    rw [Bool.eq_false_iff, Ne, isNaN_iff]
    exact (beq_iff.1 h).1
  · rintro ⟨number, same⟩
    have ofZero {z : Float} (h : (0 : UInt64) = z.toBits) : (z == 0.0) = true := by
      obtain rfl : 0.0 = z := eq_of_toBits_eq h
      rfl
    rw [numberBits, numberBits] at same
    split at same
    next x_zero =>
      split at same
      next y_zero => exact beq_trans x_zero (beq_symm y_zero)
      next nonzero => exact absurd (ofZero same) nonzero
    next nonzero =>
      split at same
      next y_zero => exact absurd (ofZero same.symm) nonzero
      · rw [eq_of_toBits_eq same, beq_self, ← eq_of_toBits_eq same, number]
        rfl

end Declare.Decimal
