import Mathlib

/-!
# Rounding to floating-point numbers

Floating-point results are rounded: the mantissa is shifted until 53 bits are left, and two bits
remember what was shifted out. Here the value behind each step is a rational number. Rounding goes
to a nearest mantissa (`IsNearest`), a half to the even one, and therefore preserves order
(`Rounded.mono`). Only results in the normal range are looked at.
-/

namespace Declare.Decimal

open Float.Model Float.Model.UnpackedFloat

/-- The natural number nearest to a rational one, an even one if two are equally near. -/
structure IsNearest (y : ℚ) (r : ℕ) : Prop where
  ge : (r : ℚ) - 1 / 2 ≤ y
  le : y ≤ r + 1 / 2
  even : y = r - 1 / 2 ∨ y = r + 1 / 2 → r % 2 = 0

theorem IsNearest.mono {y y' : ℚ} {r r' : ℕ} (h : IsNearest y r) (h' : IsNearest y' r')
    (le : y ≤ y') : r ≤ r' := by
  by_contra greater
  have next : (r' : ℚ) + 1 ≤ r := by exact_mod_cast not_le.1 greater
  -- Both numbers lie halfway between `r'` and `r`, which are both even but next to each other.
  have low := h.ge
  have high := h'.le
  have half : y = r - 1 / 2 := by linarith
  have half' : y' = r' + 1 / 2 := by linarith
  have same : (r : ℚ) = r' + 1 := by linarith
  have even := h.even (.inl half)
  have even' := h'.even (.inr half')
  have same : r = r' + 1 := by exact_mod_cast same
  omega

theorem isNearest_self (n : ℕ) : IsNearest n n := by
  refine ⟨by linarith, by linarith, ?_⟩
  rintro (half | half) <;> linarith

/-- The extended mantissa keeps, of a rational number, the whole part and what rounding needs to
know of the rest: whether it reaches a half, and whether there is anything beside the half. -/
def Keeps (em : ExtendedMantissa) (y : ℚ) : Prop :=
  ∃ rest : ℚ, 0 ≤ rest ∧ rest < 1 / 2 ∧ (em.stickyBit = true ↔ 0 < rest) ∧
    y = em.mantissa + (if em.roundBit then 1 / 2 else 0) + rest

theorem Keeps.shiftRightOne {em : ExtendedMantissa} {y : ℚ} (h : Keeps em y) :
    Keeps em.shiftRightOne (y / 2) := by
  obtain ⟨m, roundBit, stickyBit⟩ := em
  obtain ⟨rest, nonneg, small, sticky, rfl⟩ := h
  refine ⟨(if roundBit then 1 / 4 else 0) + rest / 2, ?_, ?_, ?_, ?_⟩
  · split <;> linarith
  · split <;> linarith
  · cases roundBit with
    | false =>
        simp only [ExtendedMantissa.shiftRightOne, Bool.false_or, Bool.false_eq_true, ↓reduceIte,
          sticky]
        constructor <;> intro <;> linarith
    | true =>
        simp only [ExtendedMantissa.shiftRightOne, Bool.true_or, ↓reduceIte, true_iff]
        linarith
  · obtain ⟨k, rfl | rfl⟩ := Nat.even_or_odd' m
    · have half : 2 * k / 2 = k := by omega
      have bit : 2 * k % 2 = 0 := by omega
      simp only [ExtendedMantissa.shiftRightOne, half, bit]
      split <;> push_cast <;> simp <;> ring
    · have half : (2 * k + 1) / 2 = k := by omega
      have bit : (2 * k + 1) % 2 = 1 := by omega
      simp only [ExtendedMantissa.shiftRightOne, half, bit]
      split <;> push_cast <;> simp <;> ring

theorem Keeps.shiftRight {em : ExtendedMantissa} {y : ℚ} (h : Keeps em y) (n : ℕ) :
    Keeps (em >>> n) (y / 2 ^ n) := by
  induction n with
  | zero =>
      rw [pow_zero, div_one]
      exact h
  | succ n ih =>
      rw [pow_succ, ← div_div]
      exact ih.shiftRightOne

theorem Keeps.isNearest {em : ExtendedMantissa} {y : ℚ} (h : Keeps em y) :
    IsNearest y em.roundedMantissa := by
  obtain ⟨m, roundBit, stickyBit⟩ := em
  obtain ⟨rest, nonneg, small, sticky, rfl⟩ := h
  have exact (none : rest = 0) {z : ℚ} : z + rest = z := by rw [none, add_zero]
  cases roundBit <;> cases stickyBit <;>
    simp only [Bool.false_eq_true, ↓reduceIte, add_zero, false_iff, true_iff, not_lt] at sticky ⊢
  case false.false =>
      rw [exact (le_antisymm sticky nonneg)]
      exact isNearest_self m
  case false.true =>
      change IsNearest _ m
      refine ⟨by linarith, by linarith, ?_⟩
      rintro (half | half) <;> linarith
  case true.false =>
      rw [exact (le_antisymm sticky nonneg)]
      change IsNearest _ (m + m % 2)
      rcases Nat.mod_two_eq_zero_or_one m with bit | bit
      · rw [bit, add_zero]
        exact ⟨by linarith, le_rfl, fun _ => bit⟩
      · rw [bit]
        refine ⟨?_, ?_, fun _ => by omega⟩ <;> push_cast <;> linarith
  case true.true =>
      change IsNearest _ (m + 1)
      refine ⟨?_, ?_, ?_⟩
      · push_cast
        linarith
      · push_cast
        linarith
      · push_cast
        rintro (half | half) <;> linarith

theorem keeps_exact (m : ℕ) : Keeps (.ofMantissaAndAccuracy m .exact) m :=
  ⟨0, le_rfl, by norm_num, by simp [ExtendedMantissa.ofMantissaAndAccuracy], by
    simp [ExtendedMantissa.ofMantissaAndAccuracy]⟩

/-- What is left of a division says where the quotient lies above its whole part. -/
theorem keeps_quotient (m : ℕ) {rest divisor : ℕ} (small : rest < divisor) :
    Keeps (.ofMantissaAndAccuracy m (accuracyOfFraction rest divisor)) (m + rest / divisor) := by
  have positive : (0 : ℚ) < divisor := by exact_mod_cast Nat.zero_lt_of_lt small
  rw [accuracyOfFraction]
  split
  · next none => simpa [none] using keeps_exact m
  · next some =>
      have some : (0 : ℚ) < rest := by exact_mod_cast Nat.pos_of_ne_zero some
      have fraction : 0 < (rest : ℚ) / divisor := div_pos some positive
      have below : (rest : ℚ) / divisor < 1 := (div_lt_one positive).2 (by exact_mod_cast small)
      cases order : compare (2 * rest) divisor with
      | lt =>
          have half : (rest : ℚ) / divisor < 1 / 2 := by
            rw [div_lt_div_iff₀ positive two_pos]
            have := Nat.compare_eq_lt.1 order
            exact_mod_cast (by omega : rest * 2 < 1 * divisor)
          exact ⟨rest / divisor, fraction.le, half,
            by simp [ExtendedMantissa.ofMantissaAndAccuracy, fraction],
            by simp [ExtendedMantissa.ofMantissaAndAccuracy]⟩
      | eq =>
          have half : (rest : ℚ) / divisor = 1 / 2 := by
            rw [div_eq_div_iff positive.ne' two_ne_zero]
            have := Nat.compare_eq_eq.1 order
            exact_mod_cast (by omega : rest * 2 = 1 * divisor)
          exact ⟨0, le_rfl, by norm_num, by simp [ExtendedMantissa.ofMantissaAndAccuracy],
            by simp [ExtendedMantissa.ofMantissaAndAccuracy, half]⟩
      | gt =>
          have half : 1 / 2 < (rest : ℚ) / divisor := by
            rw [div_lt_div_iff₀ two_pos positive]
            have := Nat.compare_eq_gt.1 order
            exact_mod_cast (by omega : 1 * divisor < rest * 2)
          exact ⟨rest / divisor - 1 / 2, by linarith, by linarith,
            by simpa [ExtendedMantissa.ofMantissaAndAccuracy] using half,
            by simp [ExtendedMantissa.ofMantissaAndAccuracy]⟩

/-- Rounding a positive number to a mantissa of 53 bits gives `v`. -/
def Rounded (x v : ℚ) : Prop :=
  ∃ (t : ℤ) (r : ℕ), 2 ^ (t + 52) ≤ x ∧ x < 2 ^ (t + 53) ∧ IsNearest (x / 2 ^ t) r ∧ v = r * 2 ^ t

private theorem zpow_add_52 (t : ℤ) : (2 : ℚ) ^ (t + 52) = 2 ^ 52 * 2 ^ t := by
  rw [zpow_add₀ two_ne_zero, mul_comm]
  rfl

private theorem zpow_add_53 (t : ℤ) : (2 : ℚ) ^ (t + 53) = 2 ^ 53 * 2 ^ t := by
  rw [zpow_add₀ two_ne_zero, mul_comm]
  rfl

/-- The rounded mantissa has 53 bits, or is the least number with 54. -/
private theorem mantissa_bounds {x : ℚ} {t : ℤ} {r : ℕ} (low : 2 ^ (t + 52) ≤ x)
    (high : x < 2 ^ (t + 53)) (near : IsNearest (x / 2 ^ t) r) : 2 ^ 52 ≤ r ∧ r ≤ 2 ^ 53 := by
  have unit : (0 : ℚ) < 2 ^ t := by positivity
  constructor
  · refine (isNearest_self (2 ^ 52)).mono near ?_
    rw [le_div_iff₀ unit, Nat.cast_pow, Nat.cast_ofNat, ← zpow_add_52 t]
    exact low
  · refine near.mono (isNearest_self (2 ^ 53)) ?_
    rw [div_le_iff₀ unit, Nat.cast_pow, Nat.cast_ofNat, ← zpow_add_53 t]
    exact high.le

theorem Rounded.mono {x y v w : ℚ} (h : Rounded x v) (h' : Rounded y w) (le : x ≤ y) : v ≤ w := by
  obtain ⟨t, r, low, high, near, rfl⟩ := h
  obtain ⟨t', r', low', high', near', rfl⟩ := h'
  have unit : (0 : ℚ) < 2 ^ t := by positivity
  have exponents : t ≤ t' := by
    have := (zpow_lt_zpow_iff_right₀ one_lt_two).1 (low.trans_lt (le.trans_lt high'))
    omega
  rcases exponents.eq_or_lt with rfl | smaller
  · have mantissas := near.mono near' (div_le_div_of_nonneg_right le unit.le)
    exact mul_le_mul_of_nonneg_right (by exact_mod_cast mantissas) unit.le
  · have upper := (mantissa_bounds low high near).2
    have lower := (mantissa_bounds low' high' near').1
    calc (r : ℚ) * 2 ^ t
        ≤ 2 ^ 53 * 2 ^ t := mul_le_mul_of_nonneg_right (by exact_mod_cast upper) unit.le
      _ = 2 ^ (t + 53) := (zpow_add_53 t).symm
      _ ≤ 2 ^ (t' + 52) := zpow_le_zpow_right₀ one_le_two (by omega)
      _ = 2 ^ 52 * 2 ^ t' := zpow_add_52 t'
      _ ≤ r' * 2 ^ t' := mul_le_mul_of_nonneg_right (by exact_mod_cast lower) (by positivity)

theorem Rounded.unique {x v w : ℚ} (h : Rounded x v) (h' : Rounded x w) : v = w :=
  le_antisymm (h.mono h' le_rfl) (h'.mono h le_rfl)

/-- A number with 53 bits of mantissa is not changed. -/
theorem rounded_self {m : ℕ} (low : 2 ^ 52 ≤ m) (high : m < 2 ^ 53) (e : ℤ) :
    Rounded (m * 2 ^ e) (m * 2 ^ e) := by
  have unit : (0 : ℚ) < 2 ^ e := by positivity
  refine ⟨e, m, ?_, ?_, ?_, rfl⟩
  · rw [zpow_add_52 e]
    exact mul_le_mul_of_nonneg_right (by exact_mod_cast low) unit.le
  · rw [zpow_add_53 e]
    exact mul_lt_mul_of_pos_right (by exact_mod_cast high) unit
  · rw [mul_div_cancel_right₀ _ unit.ne']
    exact isNearest_self m

/-- The number is positive and has a mantissa `m` of 53 bits and the exponent `e`. -/
structure IsNormal (u : UnpackedFloat) (m : ℕ) (e : ℤ) : Prop where
  unpacked : ∃ positive, u = .finite .positive m e positive
  low : 2 ^ 52 ≤ m
  high : m < 2 ^ 53

private theorem shiftToExponent_of_le {m : ℕ} {e t : ℤ} (h : e ≤ t) (a : Accuracy) :
    shiftToExponent m e a t =
      (ExtendedMantissa.ofMantissaAndAccuracy m a >>> (t - e).toNat, t) := by
  rw [shiftToExponent]
  simp only [Prod.mk.injEq, true_and]
  omega

theorem targetExponent_of_le {m : ℕ} {e : ℤ} (h : -1022 ≤ m.log2 + e) :
    Format.binary64.targetExponent (totalExponent m e) = m.log2 + e - 52 := by
  simp only [Format.targetExponent, totalExponent, Format.mantissaBits, Format.minExponent]
  omega

theorem Keeps.bounds {m : ℕ} {a : Accuracy} {y : ℚ}
    (h : Keeps (.ofMantissaAndAccuracy m a) y) : (m : ℚ) ≤ y ∧ y < m + 1 := by
  have mantissa : (ExtendedMantissa.ofMantissaAndAccuracy m a).mantissa = m := by
    cases a with
    | exact => rfl
    | inexact order => cases order <;> rfl
  obtain ⟨rest, nonneg, small, -, rfl⟩ := h
  rw [mantissa]
  constructor <;> split <;> linarith

theorem log2_normal {m : ℕ} (low : 2 ^ 52 ≤ m) (high : m < 2 ^ 53) : m.log2 = 52 :=
  (Nat.log2_eq_iff (by omega)).2 ⟨low, high⟩

/-- A rounded mantissa with 54 bits is shifted once more. -/
private theorem shift_rounded {r : ℕ} {t : ℤ} (low : 2 ^ 52 ≤ r) (high : r ≤ 2 ^ 53)
    (notSmall : -1074 ≤ t) :
    ∃ m e, ((shiftToTargetExponent .binary64 r t .exact).1.mantissa,
        (shiftToTargetExponent .binary64 r t .exact).2) = (m, e) ∧
      2 ^ 52 ≤ m ∧ m < 2 ^ 53 ∧ t ≤ e ∧ e ≤ t + 1 ∧ (r * 2 ^ t : ℚ) = m * 2 ^ e := by
  rcases high.eq_or_lt with rfl | high
  · have target : Format.binary64.targetExponent (totalExponent (2 ^ 53) t) = t + 1 := by
      rw [targetExponent_of_le (by rw [Nat.log2_two_pow]; omega), Nat.log2_two_pow]
      omega
    refine ⟨2 ^ 52, t + 1, ?_, le_rfl, by norm_num, by omega, le_rfl, ?_⟩
    · rw [shiftToTargetExponent, target, shiftToExponent_of_le (by omega)]
      have once : (t + 1 - t).toNat = 1 := by omega
      rw [once]
      rfl
    · rw [zpow_add₀ two_ne_zero]
      push_cast
      ring
  · have target : Format.binary64.targetExponent (totalExponent r t) = t := by
      rw [targetExponent_of_le (by rw [log2_normal low high]; omega), log2_normal low high]
      omega
    refine ⟨r, t, ?_, low, high, le_rfl, by omega, rfl⟩
    rw [shiftToTargetExponent, target, shiftToExponent_of_le le_rfl]
    have never : (t - t).toNat = 0 := by omega
    rw [never]
    rfl

/-- Rounding a number that is long enough and not too small. -/
theorem roundWithAccuracy_normal {m : ℕ} {e : ℤ} {a : Accuracy} {y : ℚ}
    (keeps : Keeps (.ofMantissaAndAccuracy m a) y) (long : 2 ^ 52 ≤ m)
    (notSmall : -1022 ≤ m.log2 + e) :
    ∃ m' e', IsNormal (roundWithAccuracy .binary64 .positive m e a) m' e' ∧
      Rounded (y * 2 ^ e) (m' * 2 ^ e') ∧ m.log2 + e - 52 ≤ e' ∧ e' ≤ m.log2 + e - 51 := by
  obtain ⟨t, ht⟩ : ∃ t : ℤ, m.log2 + e - 52 = t := ⟨_, rfl⟩
  have ne : m ≠ 0 := by omega
  have bits : 52 ≤ m.log2 := (Nat.le_log2 ne).2 long
  have first : shiftToTargetExponent .binary64 m e a =
      (ExtendedMantissa.ofMantissaAndAccuracy m a >>> (t - e).toNat, t) := by
    rw [shiftToTargetExponent, targetExponent_of_le notSmall, ht, shiftToExponent_of_le (by omega)]
  have near := (keeps.shiftRight (t - e).toNat).isNearest
  obtain ⟨r, hr⟩ :
      ∃ r, (ExtendedMantissa.ofMantissaAndAccuracy m a >>> (t - e).toNat).roundedMantissa = r :=
    ⟨_, rfl⟩
  rw [hr] at near
  have scaled : y * 2 ^ e / 2 ^ t = y / 2 ^ (t - e).toNat := by
    have exponent : t = e + (t - e).toNat := by omega
    have unit : (2 : ℚ) ^ e ≠ 0 := by positivity
    nth_rewrite 1 [exponent]
    rw [zpow_add₀ two_ne_zero, zpow_natCast, mul_comm, mul_div_mul_left _ _ unit]
  obtain ⟨whole, below⟩ := keeps.bounds
  have unit : (0 : ℚ) < 2 ^ e := by positivity
  have low : (2 : ℚ) ^ (t + 52) ≤ y * 2 ^ e := by
    have digits : (2 : ℚ) ^ m.log2 ≤ m := by exact_mod_cast Nat.log2_self_le ne
    rw [show t + 52 = m.log2 + e by omega, zpow_add₀ two_ne_zero, zpow_natCast]
    exact mul_le_mul_of_nonneg_right (digits.trans whole) unit.le
  have high : y * 2 ^ e < (2 : ℚ) ^ (t + 53) := by
    have digits : (m : ℚ) + 1 ≤ 2 ^ (m.log2 + 1) := by exact_mod_cast Nat.lt_log2_self
    rw [show t + 53 = (m.log2 + 1 : ℕ) + e by omega, zpow_add₀ two_ne_zero, zpow_natCast]
    exact mul_lt_mul_of_pos_right (below.trans_le digits) unit
  rw [← scaled] at near
  obtain ⟨lowR, highR⟩ := mantissa_bounds low high near
  obtain ⟨m', e', final, low', high', exponent, exponent', value⟩ :=
    shift_rounded lowR highR (by omega : -1074 ≤ t)
  refine ⟨m', e', ⟨⟨by omega, ?_⟩, low', high'⟩, ⟨t, r, low, high, near, value.symm⟩,
    by omega, by omega⟩
  obtain ⟨hm, he⟩ := Prod.mk.inj final
  rw [roundWithAccuracy, first]
  simp only [hr, hm, he]
  rw [dif_neg (by omega)]

end Declare.Decimal
