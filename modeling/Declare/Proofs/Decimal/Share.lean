import Declare.Log.Basic
import Declare.Proofs.Decimal.Rounding

/-!
# Shares in order

A share is a quotient of two rounded numbers, and is rounded itself. For the sizes that a log can
have nothing overflows on the way, so of two parts of a log the larger one has the larger share
(`le_share_of_le`). A threshold that a part of a log reaches is reached by every larger part.
-/

namespace Declare

namespace Decimal

open Float.Model Float.Model.UnpackedFloat

theorem toNat_leadingOne (fraction : BitVec 52) :
    (1#1 ++ fraction).toNat = 2 ^ 52 + fraction.toNat := by
  rw [BitVec.toNat_append, ← Nat.shiftLeft_add_eq_or_of_lt fraction.isLt]
  rfl

/-- Packing loses nothing of a number with 53 bits of mantissa whose exponent fits. -/
theorem unpack_pack_finite (s : Sign) {m : ℕ} {e : ℤ} (positive : 0 < m) (lowM : 2 ^ 52 ≤ m)
    (highM : m < 2 ^ 53) (low : -1074 ≤ e) (high : e ≤ 971) :
    (Float.Model.pack (.finite s m e positive)).unpack = .finite s m e positive := by
  have bits := log2_normal lowM highM
  have biased : (e + Format.binary64.exponentBias +
      Format.binary64.mantissaBitsWithoutImplicit).toNat = (e + 1075).toNat := by
    change (e + (1023 : ℕ) + (52 : ℕ)).toNat = _
    omega
  have packed : UnpackedFloat.pack .binary64 (.finite s m e positive) =
      packComponents .binary64 s (.ofNat _ (e + 1075).toNat) (.ofNat _ m) := by
    rw [UnpackedFloat.pack]
    simp only [bits, biased]
    rw [if_neg (by omega)]
    exact if_pos rfl
  have exponent : (BitVec.ofNat 11 (e + 1075).toNat).toNat = (e + 1075).toNat := by
    rw [BitVec.toNat_ofNat]
    omega
  have notSpecial : BitVec.ofNat 11 (e + 1075).toNat ≠ -1#_ := by
    intro ones
    have := exponent.symm.trans (congrArg BitVec.toNat ones)
    simp at this
    omega
  have notSubnormal : BitVec.ofNat 11 (e + 1075).toNat ≠ 0#_ := by
    intro zero
    have := exponent.symm.trans (congrArg BitVec.toNat zero)
    simp at this
    omega
  have mantissa : (1#1 ++ BitVec.ofNat 52 m).toNat = m := by
    rw [toNat_leadingOne, BitVec.toNat_ofNat]
    omega
  have unbiased : ((e + 1075).toNat : ℤ) - (Format.binary64.exponentBias +
      Format.binary64.mantissaBitsWithoutImplicit) = e := by
    change ((e + 1075).toNat : ℤ) - ((1023 : ℕ) + (52 : ℕ)) = e
    omega
  have sign : Sign.ofBitVec s.toBitVec = s := by cases s <;> rfl
  change UnpackedFloat.unpack .binary64 (UnpackedFloat.pack .binary64 _) = _
  rw [packed, UnpackedFloat.unpack]
  simp only [unpackMantissa_packComponents, unpackExponent_packComponents,
    unpackSign_packComponents, if_neg notSpecial, if_neg notSubnormal, mantissa, exponent, unbiased,
    sign]

theorem unpack_pack_normal {u : UnpackedFloat} {m : ℕ} {e : ℤ} (h : IsNormal u m e)
    (low : -1074 ≤ e) (high : e ≤ 971) : (Float.Model.pack u).unpack = u := by
  obtain ⟨⟨positive, rfl⟩, lowM, highM⟩ := h
  exact unpack_pack_finite .positive positive lowM highM low high

private theorem log2_shiftLeft {n : ℕ} (pos : 0 < n) (s : ℕ) : (n <<< s).log2 = n.log2 + s := by
  induction s with
  | zero => rfl
  | succ s ih =>
      have ne : n <<< s ≠ 0 := by
        rw [Nat.shiftLeft_eq]
        positivity
      rw [Nat.shiftLeft_succ, Nat.log2_two_mul ne, ih, Nat.add_assoc]

private theorem log2_mul_pow {n : ℕ} (pos : 0 < n) (s : ℕ) : (n * 2 ^ s).log2 = n.log2 + s := by
  rw [← Nat.shiftLeft_eq, log2_shiftLeft pos]

private theorem long_of_log2 {n : ℕ} (h : 52 ≤ n.log2) : 2 ^ 52 ≤ n := by
  have ne : n ≠ 0 := by
    rintro rfl
    exact absurd h (by decide)
  exact (Nat.le_log2 ne).1 h

private theorem shiftLeft_mul_zpow (n s : ℕ) : ((n <<< s : ℕ) : ℚ) * 2 ^ (-s : ℤ) = n := by
  rw [Nat.shiftLeft_eq, zpow_neg, zpow_natCast, Nat.cast_mul, Nat.cast_pow, Nat.cast_ofNat]
  field_simp

/-- A natural number with at most 53 bits is not changed. -/
theorem rounded_natCast {n : ℕ} (pos : 0 < n) (small : n < 2 ^ 53) : Rounded n n := by
  have bits : n.log2 ≤ 52 := Nat.le_of_lt_succ ((Nat.log2_lt pos.ne').2 small)
  have shifted : (n <<< (52 - n.log2)).log2 = 52 := by
    rw [log2_shiftLeft pos]
    omega
  have long := long_of_log2 shifted.ge
  have short := (Nat.log2_lt (by omega)).1 (shifted.trans_lt (Nat.lt_succ_self 52))
  have same := rounded_self long short (-(52 - n.log2 : ℕ))
  rwa [shiftLeft_mul_zpow] at same

/-- A natural number that is rounded as it is. -/
theorem round_normal {n : ℕ} (pos : 0 < n) :
    ∃ m e, IsNormal (UnpackedFloat.round .binary64 .positive n 0) m e ∧
      Rounded n (m * 2 ^ e) ∧ n.log2 - 52 ≤ e ∧ e ≤ n.log2 - 51 := by
  have target : Format.binary64.targetExponent (totalExponent n 0) = n.log2 - 52 := by
    rw [targetExponent_of_le (by omega)]
    omega
  have shift : (0 - (n.log2 - 52 : ℤ)).toNat = 52 - n.log2 := by omega
  have bits := log2_shiftLeft pos (52 - n.log2)
  obtain ⟨m, e, normal, rounded, low, high⟩ :=
    roundWithAccuracy_normal (e := -(52 - n.log2 : ℕ)) (keeps_exact (n <<< (52 - n.log2)))
      (long_of_log2 (by omega)) (by omega)
  refine ⟨m, e, ?_, ?_, by omega, by omega⟩
  · rw [UnpackedFloat.round, target, decreaseExponent, shift, zero_sub]
    exact normal
  · rwa [shiftLeft_mul_zpow] at rounded

theorem mul_normal {m m' : ℕ} (e e' : ℤ) (pos : 0 < m) (pos' : 0 < m')
    (long : 52 ≤ (m * m').log2) (notSmall : -1022 ≤ (m * m').log2 + (e + e')) :
    ∃ m'' e'',
      IsNormal (mul .binary64 (.finite .positive m e pos) (.finite .positive m' e' pos')) m'' e'' ∧
      Rounded ((m * m' : ℕ) * 2 ^ (e + e')) (m'' * 2 ^ e'') ∧
      (m * m').log2 + (e + e') - 52 ≤ e'' ∧ e'' ≤ (m * m').log2 + (e + e') - 51 :=
  roundWithAccuracy_normal (keeps_exact _) (long_of_log2 long) notSmall

private theorem toFloat_eq_round {n : ℕ} (pos : 0 < n) (small : n < UInt64.size) :
    n.toUInt64.toFloat.toModel = .pack (UnpackedFloat.round .binary64 .positive n 0) := by
  have order : compare (n : ℤ) 0 = .gt := by
    rw [Int.compare_eq_gt]
    omega
  have same : n.toUInt64.toNat = n := UInt64.toNat_ofNat_of_lt' small
  change Float.Model.pack (UnpackedFloat.normalize .binary64 (n.toUInt64.toNat : ℤ) 0 .positive) = _
  rw [same, UnpackedFloat.normalize, order]
  rfl

/-- A natural number below 2^53 is multiplied by one, and nothing is rounded. -/
private theorem ofNat_normal_of_lt {n : ℕ} (pos : 0 < n) (small : n < 2 ^ 53) :
    ∃ m e, IsNormal (Float.ofNat n).toModel.unpack m e ∧ Rounded n (m * 2 ^ e) ∧
      -53 ≤ e ∧ e ≤ 13 := by
  have float : Float.ofNat n = n.toUInt64.toFloat * Float.ofBits 0x3FF0000000000000 := by
    change Float.ofScientific n false 0 = _
    rw [Float.ofScientific, dif_pos ⟨small, by decide⟩]
    rfl
  have one : (Float.ofBits 0x3FF0000000000000).toModel.unpack =
      .finite .positive (2 ^ 52) (-52) (by decide) := rfl
  have bits : n.log2 ≤ 52 := Nat.le_of_lt_succ ((Nat.log2_lt pos.ne').2 small)
  obtain ⟨m, e, normal, rounded, low, high⟩ := round_normal pos
  have unpacked := unpack_pack_normal normal (by omega) (by omega)
  obtain ⟨⟨positive, factor⟩, lowM, highM⟩ := normal
  have exact : (m * 2 ^ e : ℚ) = n := rounded.unique (rounded_natCast pos small)
  have bitsM : (m * 2 ^ 52).log2 = 104 := by
    rw [log2_mul_pow positive, log2_normal lowM highM]
  obtain ⟨m', e', normal', rounded', low', high'⟩ :=
    mul_normal e (-52) positive (by decide : 0 < 2 ^ 52) (by omega) (by omega)
  have product : (Float.ofNat n).toModel.unpack = mul .binary64 (.finite .positive m e positive)
      (.finite .positive (2 ^ 52) (-52) (by decide)) := by
    rw [float]
    change (Float.Model.pack (mul .binary64 n.toUInt64.toFloat.toModel.unpack
      (Float.ofBits 0x3FF0000000000000).toModel.unpack)).unpack = _
    rw [one, toFloat_eq_round pos (small.trans (by decide)), unpacked, factor]
    exact unpack_pack_normal normal' (by omega) (by omega)
  refine ⟨m', e', ?_, ?_, by omega, by omega⟩
  · rw [product]
    exact normal'
  · have value : ((m * 2 ^ 52 : ℕ) : ℚ) * 2 ^ (e + -52) = n := by
      have inverse : (2 : ℚ) ^ (-52 : ℤ) = (2 ^ 52)⁻¹ := rfl
      rw [zpow_add₀ two_ne_zero, inverse, ← exact, Nat.cast_mul, Nat.cast_pow, Nat.cast_ofNat]
      field_simp
    rwa [value] at rounded'

/-- Other natural numbers are multiplied by a power of two that is one. -/
private theorem ofNat_normal_of_le {n : ℕ} (large : 2 ^ 53 ≤ n) (small : n < UInt64.size) :
    ∃ m e, IsNormal (Float.ofNat n).toModel.unpack m e ∧ Rounded n (m * 2 ^ e) ∧
      -53 ≤ e ∧ e ≤ 13 := by
  have pos : 0 < n := by omega
  have float : (Float.ofNat n).toModel = .pack (mul .binary64
      (.finite .positive (n <<< 53) (-53) (by rw [Nat.shiftLeft_eq]; positivity))
      (.finite .positive 1 0 (by decide))) := by
    change (Float.ofScientific n false 0).toModel = _
    rw [Float.ofScientific, dif_neg (by omega)]
    change Float.Model.pack (UnpackedFloat.ofScientific .binary64 n 0) = _
    have notTiny : ¬(0 : ℤ) < -((2 ^ Format.binary64.exponentBits : ℤ) + n.log2) := by
      change ¬(0 : ℤ) < -((2 ^ 11 : ℤ) + n.log2)
      omega
    rw [UnpackedFloat.ofScientific, dif_neg pos.ne', if_neg (by decide), if_neg notTiny,
      if_pos le_rfl]
    rfl
  have bits : n.log2 < 64 := (Nat.log2_lt pos.ne').2 small
  have bits' : 53 ≤ n.log2 := (Nat.le_log2 pos.ne').2 large
  have shifted : (n <<< 53 * 1).log2 = n.log2 + 53 := by
    rw [Nat.mul_one, log2_shiftLeft pos]
  obtain ⟨m, e, normal, rounded, low, high⟩ :=
    mul_normal (-53) 0 (by rw [Nat.shiftLeft_eq]; positivity : 0 < n <<< 53)
      one_pos (by omega) (by omega)
  refine ⟨m, e, ?_, ?_, by omega, by omega⟩
  · rw [float, unpack_pack_normal normal (by omega) (by omega)]
    exact normal
  · have value : ((n <<< 53 * 1 : ℕ) : ℚ) * 2 ^ (-53 + 0 : ℤ) = n := by
      rw [Nat.mul_one, add_zero]
      exact shiftLeft_mul_zpow n 53
    rwa [value] at rounded

theorem ofNat_normal {n : ℕ} (pos : 0 < n) (small : n < UInt64.size) :
    ∃ m e, IsNormal (Float.ofNat n).toModel.unpack m e ∧ Rounded n (m * 2 ^ e) ∧
      -53 ≤ e ∧ e ≤ 13 := by
  rcases Nat.lt_or_ge n (2 ^ 53) with below | above
  · exact ofNat_normal_of_lt pos below
  · exact ofNat_normal_of_le above small

/-- A quotient of normal numbers is computed with 53 more bits. -/
private theorem div_eq_round {m m' : ℕ} {e e' : ℤ} {positive : 0 < m} {positive' : 0 < m'}
    (lowM : 2 ^ 52 ≤ m) (highM : m < 2 ^ 53) (lowM' : 2 ^ 52 ≤ m') (highM' : m' < 2 ^ 53)
    (notSmall : -1000 ≤ e - e') :
    div .binary64 (.finite .positive m e positive) (.finite .positive m' e' positive') =
      roundWithAccuracy .binary64 .positive (m <<< 53 / m') (e - e' - 53)
        (accuracyOfFraction (m <<< 53 % m') m') := by
  have target : min (e - e') (Format.binary64.targetExponent
      (totalExponent m e - totalExponent m' e')) = e - e' - 53 := by
    simp only [Format.targetExponent, totalExponent, Format.mantissaBits, Format.minExponent,
      log2_normal lowM highM, log2_normal lowM' highM']
    omega
  have shift : (e - e' - (e - e' - 53)).toNat = 53 := by omega
  rw [UnpackedFloat.div, divCore]
  simp only [target, shift]
  rfl

theorem div_normal {u u' : UnpackedFloat} {m m' : ℕ} {e e' : ℤ} (h : IsNormal u m e)
    (h' : IsNormal u' m' e') (low : -100 ≤ e - e') (high : e - e' ≤ 100) :
    ∃ m'' e'', IsNormal (div .binary64 u u') m'' e'' ∧
      Rounded (m * 2 ^ e / (m' * 2 ^ e')) (m'' * 2 ^ e'') ∧ -1074 ≤ e'' ∧ e'' ≤ 971 := by
  obtain ⟨⟨positive, rfl⟩, lowM, highM⟩ := h
  obtain ⟨⟨positive', rfl⟩, lowM', highM'⟩ := h'
  have long : 2 ^ 52 ≤ m <<< 53 / m' := by
    rw [Nat.le_div_iff_mul_le positive', Nat.shiftLeft_eq]
    omega
  have short : m <<< 53 / m' < 2 ^ 54 := by
    rw [Nat.div_lt_iff_lt_mul positive', Nat.shiftLeft_eq]
    omega
  have bits := (Nat.le_log2 (by omega)).2 long
  have bits' := (Nat.log2_lt (by omega)).2 short
  have keeps := keeps_quotient (m <<< 53 / m') (Nat.mod_lt (m <<< 53) positive')
  obtain ⟨m'', e'', normal, rounded, low', high'⟩ :=
    roundWithAccuracy_normal (e := e - e' - 53) keeps long (by omega)
  refine ⟨m'', e'', ?_, ?_, by omega, by omega⟩
  · rw [div_eq_round lowM highM lowM' highM' (by omega)]
    exact normal
  · have value : ((m <<< 53 / m' : ℕ) + (m <<< 53 % m' : ℕ) / (m' : ℚ)) * 2 ^ (e - e' - 53) =
        m * 2 ^ e / (m' * 2 ^ e') := by
      have whole : ((m <<< 53 / m' : ℕ) * m' + (m <<< 53 % m' : ℕ) : ℚ) = m * 2 ^ 53 := by
        have parts := Nat.div_add_mod' (m <<< 53) m'
        rw [Nat.shiftLeft_eq] at parts ⊢
        exact_mod_cast parts
      have unit : (2 : ℚ) ^ (e - e' - 53) = 2 ^ e / 2 ^ e' / 2 ^ 53 := by
        rw [zpow_sub₀ two_ne_zero, zpow_sub₀ two_ne_zero]
        rfl
      have divisor : (m' : ℚ) ≠ 0 := by exact_mod_cast positive'.ne'
      have quotient : ((m <<< 53 / m' : ℕ) + (m <<< 53 % m' : ℕ) / (m' : ℚ)) =
          m * 2 ^ 53 / m' := by
        rw [eq_div_iff divisor, add_mul, div_mul_cancel₀ _ divisor, whole]
      rw [quotient, unit]
      field_simp
    rwa [value] at rounded

theorem le_of_le_zero {u v : UnpackedFloat} {m : ℕ} {e : ℤ} (h : u.le (.zero .positive))
    (normal : IsNormal v m e) : u.le v := by
  obtain ⟨⟨positive, rfl⟩, -⟩ := normal
  cases u with
  | notANumber => cases h
  | infinity s => cases s with
      | positive => cases h
      | negative => rfl
  | zero s => rfl
  | finite s m e pos => cases s with
      | positive => cases h
      | negative => rfl

/-- Normal numbers are ordered by their exponents first. -/
theorem lex_of_value_le {m m' : ℕ} {e e' : ℤ} (low : 2 ^ 52 ≤ m) (high' : m' < 2 ^ 53)
    (le : (m * 2 ^ e : ℚ) ≤ m' * 2 ^ e') : e < e' ∨ e = e' ∧ m ≤ m' := by
  rcases lt_trichotomy e e' with less | rfl | greater
  · exact .inl less
  · have unit : (0 : ℚ) < 2 ^ e := by positivity
    exact .inr ⟨rfl, by exact_mod_cast le_of_mul_le_mul_right le unit⟩
  · have unit : (0 : ℚ) < 2 ^ e' := by positivity
    have above : (m' * 2 ^ e' : ℚ) < m * 2 ^ e := by
      calc (m' * 2 ^ e' : ℚ)
          < 2 ^ 53 * 2 ^ e' := mul_lt_mul_of_pos_right (by exact_mod_cast high') unit
        _ = 2 ^ 52 * 2 ^ (e' + 1) := by rw [zpow_add₀ two_ne_zero, zpow_one]; ring
        _ ≤ 2 ^ 52 * 2 ^ e :=
          mul_le_mul_of_nonneg_left (zpow_le_zpow_right₀ one_le_two (by omega)) (by positivity)
        _ ≤ m * 2 ^ e := mul_le_mul_of_nonneg_right (by exact_mod_cast low) (by positivity)
    exact absurd le above.not_ge

private theorem le_finite_iff {m m' : ℕ} {e e' : ℤ} {positive : 0 < m} {positive' : 0 < m'} :
    UnpackedFloat.le (.finite .positive m e positive) (.finite .positive m' e' positive') ↔
      e < e' ∨ e = e' ∧ m ≤ m' := by
  change ((compare e e').then (compare m m')).isLE = true ↔ _
  rw [Ordering.isLE_then_iff_or, Int.compare_eq_lt, Int.compare_eq_eq, Nat.isLE_compare]

theorem le_of_le_normal {u v w : UnpackedFloat} {m m' : ℕ} {e e' : ℤ} (h : u.le v)
    (hv : IsNormal v m e) (hw : IsNormal w m' e') (le : (m * 2 ^ e : ℚ) ≤ m' * 2 ^ e') :
    u.le w := by
  have lex := lex_of_value_le hv.low hw.high le
  obtain ⟨⟨positive, rfl⟩, -⟩ := hv
  obtain ⟨⟨positive', rfl⟩, -⟩ := hw
  cases u with
  | notANumber => cases h
  | infinity s => cases s with
      | positive => cases h
      | negative => rfl
  | zero s => rfl
  | finite s k f pos => cases s with
      | positive =>
          rw [le_finite_iff] at h ⊢
          omega
      | negative => rfl

/-- The place of a number among all others, which its sign decides first, then its exponent. -/
def position? : UnpackedFloat → Option (ℤ ×ₗ ℤ ×ₗ ℤ)
  | .notANumber => none
  | .infinity .negative => some (toLex (-2, toLex (0, 0)))
  | .finite .negative m e _ => some (toLex (-1, toLex (-e, -m)))
  | .zero _ => some (toLex (0, toLex (0, 0)))
  | .finite .positive m e _ => some (toLex (1, toLex (e, m)))
  | .infinity .positive => some (toLex (2, toLex (0, 0)))

theorem le_iff_position {u v : UnpackedFloat} :
    u.le v ↔ ∃ p ∈ position? u, ∃ q ∈ position? v, p ≤ q := by
  -- Numbers of different signs are told apart by their signs alone.
  rcases u with (_ | _) | _ | _ | ⟨_ | _, m, e, positive⟩ <;>
    rcases v with (_ | _) | _ | _ | ⟨_ | _, m', e', positive'⟩ <;>
    simp [position?, UnpackedFloat.le, UnpackedFloat.compare, Prod.Lex.le_iff]
  case infinity.negative.infinity.negative => rfl
  case infinity.negative.infinity.positive => rfl
  case infinity.positive.infinity.negative => rfl
  case infinity.positive.infinity.positive => rfl
  case finite.negative.finite.negative =>
    rw [← Ordering.isLE_swap, Ordering.swap_then, Int.compare_swap, Nat.compare_swap,
      Ordering.isLE_then_iff_or, Int.compare_eq_lt, Int.compare_eq_eq, Nat.isLE_compare, eq_comm]
  case finite.positive.finite.positive =>
    rw [Ordering.isLE_then_iff_or, Int.compare_eq_lt, Int.compare_eq_eq, Nat.isLE_compare]

theorem unpacked_le_trans {u v w : UnpackedFloat} (h : u.le v) (h' : v.le w) : u.le w := by
  obtain ⟨p, atU, q, atV, pq⟩ := le_iff_position.1 h
  obtain ⟨q', atV', r, atW, qr⟩ := le_iff_position.1 h'
  obtain rfl : q = q' := Option.some.inj (atV.symm.trans atV')
  exact le_iff_position.2 ⟨p, atU, r, atW, pq.trans qr⟩

end Decimal

open Decimal Float.Model Float.Model.UnpackedFloat

/-- What is computed for a share of at least one trace, next to the value behind it. -/
private theorem share_normal {k total : ℕ} (pos : 0 < k) (le : k ≤ total)
    (size : total < UInt64.size) {n : ℕ} {f : ℤ}
    (whole : IsNormal (Float.ofNat total).toModel.unpack n f) (low : -53 ≤ f) (high : f ≤ 13) :
    ∃ x m e, Rounded k x ∧ IsNormal (share k total).toModel.unpack m e ∧
      Rounded (x / (n * 2 ^ f)) (m * 2 ^ e) := by
  obtain ⟨m, e, part, rounded, low', high'⟩ := ofNat_normal pos (le.trans_lt size)
  obtain ⟨m', e', normal, rounded', low'', high''⟩ :=
    div_normal part whole (by omega) (by omega)
  refine ⟨_, m', e', rounded, ?_, rounded'⟩
  change IsNormal (Float.Model.pack (UnpackedFloat.div .binary64 _ _)).unpack m' e'
  rw [unpack_pack_normal normal low'' high'']
  exact normal

private theorem share_zero {total : ℕ} {n : ℕ} {f : ℤ}
    (whole : IsNormal (Float.ofNat total).toModel.unpack n f) :
    (share 0 total).toModel.unpack = .zero .positive := by
  obtain ⟨⟨positive, unpacked⟩, -⟩ := whole
  change (Float.Model.pack (UnpackedFloat.div .binary64 (Float.ofNat 0).toModel.unpack
    (Float.ofNat total).toModel.unpack)).unpack = _
  have zero : (Float.ofNat 0).toModel.unpack = .zero .positive := rfl
  have quotient : UnpackedFloat.div .binary64 (.zero .positive) (.finite .positive n f positive) =
      .zero .positive := by
    rw [UnpackedFloat.div]
    rfl
  rw [unpacked, zero, quotient]
  rfl

private theorem le_iff {x y : Float} : x ≤ y ↔ x.toModel.unpack.le y.toModel.unpack = true := by
  change decide (x.toModel ≤ y.toModel) = true ↔ _
  rw [decide_eq_true_iff]
  rfl

theorem float_le_trans {x y z : Float} (h : x ≤ y) (h' : y ≤ z) : x ≤ z :=
  le_iff.2 (unpacked_le_trans (le_iff.1 h) (le_iff.1 h'))

/-- A threshold that a part of a log reaches is reached by a larger part. -/
theorem le_share_of_le {s : Float} {j k total : ℕ} (size : total < UInt64.size) (jk : j ≤ k)
    (le : k ≤ total) (h : s ≤ share j total) : s ≤ share k total := by
  rcases jk.eq_or_lt with rfl | less
  · exact h
  obtain ⟨n, f, whole, -, low, high⟩ := ofNat_normal (by omega : 0 < total) size
  obtain ⟨x, m, e, rounded, normal, quotient⟩ := share_normal (by omega) le size whole low high
  rw [le_iff] at h ⊢
  rcases Nat.eq_zero_or_pos j with rfl | pos
  · rw [share_zero whole] at h
    exact le_of_le_zero h normal
  · obtain ⟨x', m', e', rounded', normal', quotient'⟩ :=
      share_normal pos (by omega) size whole low high
    have parts := rounded'.mono rounded (by exact_mod_cast jk)
    have quotients := quotient'.mono quotient
      (div_le_div_of_nonneg_right parts (by positivity))
    exact le_of_le_normal h normal' normal quotients

end Declare
