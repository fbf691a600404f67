import Declare.Decimal.Numeral
import Declare.Proofs.Decimal.Share

/-!
# Whole numbers as floating-point numbers

A whole number with more than 53 bits may be none of the floating-point numbers. It then stands for
the nearest one, and of two that are equally near for the even one (`roundInt`); so different whole
numbers may stand for the same floating-point number. Up to 2^53 nothing is rounded
(`roundInt_eq_self`), and rounding never turns the order of two numbers round (`roundInt_mono`).
Reading the text of a whole number gives the same floating-point number as converting the number
(`read?_toString`).
-/

namespace Declare.Decimal

open Float.Model Float.Model.UnpackedFloat

/-- A quotient rounded to the nearest natural number, to the even one if two are equally near. -/
def nearestQuotient (n d : ℕ) : ℕ :=
  if 2 * (n % d) < d ∨ 2 * (n % d) = d ∧ n / d % 2 = 0 then n / d else n / d + 1

theorem isNearest_nearestQuotient (n : ℕ) {d : ℕ} (pos : 0 < d) :
    IsNearest (n / d) (nearestQuotient n d) := by
  obtain ⟨q, hq⟩ : ∃ q, n / d = q := ⟨_, rfl⟩
  obtain ⟨r, hr⟩ : ∃ r, n % d = r := ⟨_, rfl⟩
  have divisor : (0 : ℚ) < d := by exact_mod_cast pos
  have value : (n / d : ℚ) = q + r / d := by
    have parts : q * d + r = n := by
      rw [← hq, ← hr]
      exact Nat.div_add_mod' n d
    rw [eq_comm, eq_div_iff divisor.ne', add_mul, div_mul_cancel₀ _ divisor.ne']
    exact_mod_cast parts
  have nonneg : (0 : ℚ) ≤ r / d := by positivity
  have below : (r / d : ℚ) < 1 := by
    rw [div_lt_one divisor, ← hr]
    exact_mod_cast Nat.mod_lt n pos
  rw [nearestQuotient, hq, hr, value]
  split
  next down =>
    rcases down with less | ⟨half, even⟩
    · have less : (r / d : ℚ) < 1 / 2 := by
        rw [div_lt_div_iff₀ divisor two_pos]
        exact_mod_cast (by omega : r * 2 < 1 * d)
      refine ⟨by linarith, by linarith, ?_⟩
      rintro (tie | tie) <;> linarith
    · have half : (r / d : ℚ) = 1 / 2 := by
        rw [div_eq_div_iff divisor.ne' two_ne_zero]
        exact_mod_cast (by omega : r * 2 = 1 * d)
      exact ⟨by linarith, by linarith, fun _ => even⟩
  next up =>
    have half : (1 / 2 : ℚ) ≤ r / d := by
      rw [div_le_div_iff₀ two_pos divisor]
      exact_mod_cast (by omega : 1 * d ≤ r * 2)
    refine ⟨?_, ?_, ?_⟩
    · push_cast
      linarith
    · push_cast
      linarith
    · push_cast
      rintro (tie | tie)
      · have half : (r / d : ℚ) = 1 / 2 := by linarith
        rw [div_eq_div_iff divisor.ne' two_ne_zero] at half
        have half : r * 2 = 1 * d := by exact_mod_cast half
        omega
      · linarith

/-- A natural number with more than 53 bits is rounded to 53 bits. -/
def roundNat (n : ℕ) : ℕ :=
  if n < 2 ^ 53 then n
  else nearestQuotient n (2 ^ (n.log2 - 52)) * 2 ^ (n.log2 - 52)

theorem rounded_roundNat {n : ℕ} (pos : 0 < n) : Rounded n (roundNat n) := by
  rw [roundNat]
  split
  next small => exact rounded_natCast pos small
  next large =>
    obtain ⟨k, hk⟩ := Nat.exists_eq_add_of_le'
      ((Nat.le_log2 pos.ne').2 ((by decide : 2 ^ 52 ≤ 2 ^ 53).trans (not_lt.1 large)))
    have near := isNearest_nearestQuotient n (Nat.two_pow_pos k)
    rw [hk, Nat.add_sub_cancel]
    refine ⟨k, nearestQuotient n (2 ^ k), ?_, ?_, ?_, ?_⟩
    · have digits : 2 ^ (k + 52) ≤ n := hk ▸ Nat.log2_self_le pos.ne'
      exact_mod_cast digits
    · have digits : n < 2 ^ (k + 53) := (Nat.log2_lt pos.ne').1 (by omega)
      exact_mod_cast digits
    · exact_mod_cast near
    · push_cast
      rfl

theorem roundNat_mono : Monotone roundNat := by
  intro n m le
  rcases Nat.eq_zero_or_pos n with rfl | pos
  · exact Nat.zero_le _
  · have rounded := (rounded_roundNat pos).mono (rounded_roundNat (pos.trans_le le))
      (by exact_mod_cast le)
    exact_mod_cast rounded

theorem roundNat_eq_self {n : ℕ} (small : n ≤ 2 ^ 53) : roundNat n = n := by
  rcases small.eq_or_lt with rfl | less
  · decide
  · exact if_pos less

/-- A whole number with more than 53 bits is rounded to 53 bits, and keeps its sign. -/
def roundInt (i : ℤ) : ℤ :=
  i.sign * roundNat i.natAbs

theorem roundInt_natCast (n : ℕ) : roundInt n = roundNat n := by
  rw [roundInt, Int.natAbs_natCast]
  cases n with
  | zero => rfl
  | succ n => rw [Int.sign_eq_one_of_pos (Int.natCast_pos.2 n.succ_pos), one_mul]

theorem roundInt_neg (i : ℤ) : roundInt (-i) = -roundInt i := by
  rw [roundInt, roundInt, Int.sign_neg, Int.natAbs_neg, neg_mul]

theorem roundInt_eq_self {i : ℤ} (small : i.natAbs ≤ 2 ^ 53) : roundInt i = i := by
  rw [roundInt, roundNat_eq_self small, Int.sign_mul_natAbs]

theorem roundInt_mono : Monotone roundInt := by
  have nonneg (n : ℕ) : 0 ≤ roundInt n := by
    rw [roundInt_natCast]
    exact Int.natCast_nonneg _
  intro i j le
  obtain ⟨n, rfl | rfl⟩ := i.eq_nat_or_neg <;> obtain ⟨m, rfl | rfl⟩ := j.eq_nat_or_neg
  · rw [roundInt_natCast, roundInt_natCast]
    exact_mod_cast roundNat_mono (by exact_mod_cast le)
  · obtain ⟨rfl, rfl⟩ : n = 0 ∧ m = 0 := by omega
    exact le_rfl
  · rw [roundInt_neg]
    exact (Int.neg_nonpos_of_nonneg (nonneg n)).trans (nonneg m)
  · rw [roundInt_neg, roundInt_neg, roundInt_natCast, roundInt_natCast]
    have order : m ≤ n := by omega
    exact Int.neg_le_neg (by exact_mod_cast roundNat_mono order)

/-- The order of two numbers is kept if one of them is less than 2^53 in magnitude. -/
theorem cmp_roundInt {i j : ℤ} (small : i.natAbs < 2 ^ 53 ∨ j.natAbs < 2 ^ 53) :
    cmp (roundInt i) (roundInt j) = cmp i j := by
  have above {i j : ℤ} (small : i.natAbs < 2 ^ 53 ∨ j.natAbs < 2 ^ 53) (less : i < j) :
      roundInt i < roundInt j := by
    rcases small with small | small
    · have next := roundInt_mono (by omega : i + 1 ≤ j)
      rw [roundInt_eq_self (by omega : (i + 1).natAbs ≤ 2 ^ 53)] at next
      rw [roundInt_eq_self small.le]
      omega
    · have last := roundInt_mono (by omega : i ≤ j - 1)
      rw [roundInt_eq_self (by omega : (j - 1).natAbs ≤ 2 ^ 53)] at last
      rw [roundInt_eq_self small.le]
      omega
  rcases lt_trichotomy i j with less | rfl | greater
  · rw [(cmp_eq_lt_iff i j).2 less]
    exact (cmp_eq_lt_iff _ _).2 (above small less)
  · rw [cmp_self_eq_eq, cmp_self_eq_eq]
  · rw [(cmp_eq_gt_iff i j).2 greater]
    exact (cmp_eq_gt_iff _ _).2 (above small.symm greater)

/-- The number is zero, or has 53 bits of mantissa, and its value is `v`. -/
inductive StandsFor : UnpackedFloat → ℚ → Prop
  | zero (s : Sign) : StandsFor (.zero s) 0
  | positive {m : ℕ} {e : ℤ} (positive : 0 < m) (low : 2 ^ 52 ≤ m) (high : m < 2 ^ 53) :
    StandsFor (.finite .positive m e positive) (m * 2 ^ e)
  | negative {m : ℕ} {e : ℤ} (positive : 0 < m) (low : 2 ^ 52 ≤ m) (high : m < 2 ^ 53) :
    StandsFor (.finite .negative m e positive) (-(m * 2 ^ e))

private theorem then_compare_eq_lt {m m' : ℕ} {e e' : ℤ} (low : 2 ^ 52 ≤ m) (high' : m' < 2 ^ 53)
    (less : (m * 2 ^ e : ℚ) < m' * 2 ^ e') : (compare e e').then (compare m m') = .lt := by
  rw [Ordering.then_eq_lt, Int.compare_eq_lt, Int.compare_eq_eq, Nat.compare_eq_lt]
  rcases lex_of_value_le low high' less.le with smaller | ⟨rfl, le⟩
  · exact .inl smaller
  · refine .inr ⟨rfl, le.lt_of_ne ?_⟩
    rintro rfl
    exact less.false

/-- Mantissas of 53 bits are compared by their exponents first. -/
theorem then_compare_eq_cmp {m m' : ℕ} {e e' : ℤ} (low : 2 ^ 52 ≤ m) (high : m < 2 ^ 53)
    (low' : 2 ^ 52 ≤ m') (high' : m' < 2 ^ 53) :
    (compare e e').then (compare m m') = cmp (m * 2 ^ e : ℚ) (m' * 2 ^ e') := by
  rcases lt_trichotomy (m * 2 ^ e : ℚ) (m' * 2 ^ e') with less | same | greater
  · rw [(cmp_eq_lt_iff _ _).2 less]
    exact then_compare_eq_lt low high' less
  · rw [(cmp_eq_eq_iff _ _).2 same, Ordering.then_eq_eq, Int.compare_eq_eq, Nat.compare_eq_eq]
    have forth := lex_of_value_le low high' same.le
    have back := lex_of_value_le low' high same.ge
    omega
  · rw [(cmp_eq_gt_iff _ _).2 greater, ← Ordering.swap_inj, Ordering.swap_then, Int.compare_swap,
      Nat.compare_swap]
    exact then_compare_eq_lt low' high greater

/-- Numbers compare as their values do. -/
theorem StandsFor.compare_eq {u u' : UnpackedFloat} {v v' : ℚ} (h : StandsFor u v)
    (h' : StandsFor u' v') : u.compare u' = some (cmp v v') := by
  have less {v v' : ℚ} (order : v < v') : some .lt = some (cmp v v') := by
    rw [(cmp_eq_lt_iff v v').2 order]
  have greater {v v' : ℚ} (order : v' < v) : some .gt = some (cmp v v') := by
    rw [(cmp_eq_gt_iff v v').2 order]
  have above {m : ℕ} (pos : 0 < m) (e : ℤ) : (0 : ℚ) < m * 2 ^ e := by positivity
  have below {m : ℕ} (pos : 0 < m) (e : ℤ) : (-(m * 2 ^ e) : ℚ) < 0 := neg_neg_of_pos (above pos e)
  -- The signs decide, unless they are the same.
  cases h with
  | zero s =>
      cases h' with
      | zero s' => rfl
      | positive pos' low' high' => exact less (above pos' _)
      | negative pos' low' high' => exact greater (below pos' _)
  | positive pos low high =>
      cases h' with
      | zero s' => exact greater (above pos _)
      | positive pos' low' high' => exact congrArg some (then_compare_eq_cmp low high low' high')
      | negative pos' low' high' => exact greater ((below pos' _).trans (above pos _))
  | negative pos low high =>
      cases h' with
      | zero s' => exact less (below pos _)
      | positive pos' low' high' => exact less ((below pos _).trans (above pos' _))
      | @negative m' e' pos' low' high' =>
          have turns : StrictAnti (Neg.neg : ℚ → ℚ) := fun _ _ => neg_lt_neg
          change some ((compare _ _).then (compare _ _)).swap = _
          rw [turns.cmp_map_eq, then_compare_eq_cmp low high low' high', cmp_swap]

theorem standsFor_ofNat {n : ℕ} (size : n < UInt64.size) :
    StandsFor (Float.ofNat n).toModel.unpack (roundNat n) ∧
      StandsFor (Float.ofNat n).neg.toModel.unpack (-roundNat n) := by
  rcases Nat.eq_zero_or_pos n with rfl | pos
  · have zero : (roundNat 0 : ℚ) = 0 := rfl
    rw [zero, neg_zero]
    exact ⟨.zero .positive, .zero .negative⟩
  obtain ⟨m, e, normal, rounded, low, high⟩ := ofNat_normal pos size
  rw [(rounded_roundNat pos).unique rounded]
  obtain ⟨⟨positive, unpacked⟩, lowM, highM⟩ := normal
  have negated : (Float.ofNat n).neg.toModel.unpack = .finite .negative m e positive := by
    change (Float.Model.pack (Float.ofNat n).toModel.unpack.neg).unpack = _
    rw [unpacked]
    exact unpack_pack_finite .negative positive lowM highM (by omega) (by omega)
  rw [unpacked, negated]
  exact ⟨.positive positive lowM highM, .negative positive lowM highM⟩

/-- A whole number is converted to the floating-point number that it is rounded to. -/
theorem standsFor_ofInt {i : ℤ} (size : i.natAbs < UInt64.size) :
    StandsFor (Float.ofInt i).toModel.unpack (roundInt i) := by
  cases i with
  | ofNat n =>
      have rounded : (roundInt (Int.ofNat n) : ℚ) = roundNat n := by
        exact_mod_cast roundInt_natCast n
      rw [rounded]
      exact (standsFor_ofNat size).1
  | negSucc n =>
      have rounded : (roundInt (Int.negSucc n) : ℚ) = -roundNat (n + 1) := by
        rw [Int.negSucc_eq, roundInt_neg]
        push_cast
        exact_mod_cast congrArg Neg.neg (roundInt_natCast (n + 1))
      rw [rounded]
      exact (standsFor_ofNat size).2

theorem toLower_eq_of_isDigit {c : Char} (h : c.isDigit) : c.toLower = c := by
  simp only [Char.isDigit, Char.toLower, Bool.and_eq_true, decide_eq_true_iff] at h ⊢
  grind

theorem ofScientific_eq_ofNat {n : ℕ} (size : n < UInt64.size) :
    ofScientific n 0 = Float.ofNat n := by
  have short : (Text.digits n).length ≤ 20 :=
    (Nat.length_toDigits_le_iff (by decide) (by decide)).2 (size.trans (by decide))
  rw [ofScientific]
  split
  next zero =>
    obtain rfl : n = 0 := by
      simp only [Bool.or_eq_true, decide_eq_true_iff] at zero
      omega
    rfl
  · rw [if_neg (by omega)]
    rfl

theorem unsigned?_digits (n : ℕ) : unsigned? (Text.digits n) = some (ofScientific n 0) := by
  have digit {c : Char} (h : c ∈ Text.digits n) : c.isDigit := Text.isDigit_of_mem_digits h
  have whole : (Text.digits n).takeWhile Char.isDigit = Text.digits n :=
    List.takeWhile_eq_self_iff.2 fun _ => digit
  have nothing : (Text.digits n).dropWhile Char.isDigit = [] :=
    List.dropWhile_eq_nil_iff.2 fun _ => digit
  have some : (Text.digits n).isEmpty = false := by simp [Text.digits_ne_nil]
  have number : Nat.ofDigitChars 10 (Text.digits n) 0 = n := Nat.ofDigitChars_ten_toDigits
  rw [unsigned?, whole, nothing]
  simp only [some, List.append_nil, number]
  rfl

/-- The digits of a number are read as that number. -/
theorem magnitude?_digits {n : ℕ} (size : n < UInt64.size) :
    magnitude? (Text.digits n) = some (Float.ofNat n) := by
  have digit {c : Char} (h : c ∈ Text.digits n) : c.isDigit := Text.isDigit_of_mem_digits h
  have lower : (Text.digits n).map Char.toLower = Text.digits n :=
    (List.map_congr_left fun c h => toLower_eq_of_isDigit (digit h)).trans (List.map_id _)
  have notName {name : List Char} (letter : 'n' ∈ name) : Text.digits n ≠ name := by
    rintro rfl
    exact absurd (digit letter) (by decide)
  have notInf := notName (by decide : 'n' ∈ ['i', 'n', 'f'])
  have notInfinity := notName (by decide : 'n' ∈ ['i', 'n', 'f', 'i', 'n', 'i', 't', 'y'])
  have notNan := notName (by decide : 'n' ∈ ['n', 'a', 'n'])
  rw [magnitude?, lower, decide_eq_false notInf, decide_eq_false notInfinity, if_neg nofun,
    if_neg notNan, unsigned?_digits, ofScientific_eq_ofNat size]

/-- The text of a whole number is read as the number that it is converted to. -/
theorem read?_toString {i : ℤ} (size : i.natAbs < UInt64.size) :
    read? (toString i).toList = some (Float.ofInt i) := by
  have digits (n : ℕ) : (Nat.repr n).toList = Text.digits n := by
    rw [Nat.repr_eq_ofList_toDigits, String.toList_ofList, Text.digits]
  cases i with
  | ofNat n =>
      have unsigned {c : Char} (sign : c.isDigit = false) (cs : List Char) :
          Text.digits n ≠ c :: cs := by
        intro h
        have digit := Text.isDigit_of_mem_digits (h ▸ List.mem_cons_self : c ∈ Text.digits n)
        exact Bool.false_ne_true (sign.symm.trans digit)
      change read? (Nat.repr n).toList = _
      rw [digits, read?]
      · exact magnitude?_digits size
      · exact unsigned (by decide)
      · exact unsigned (by decide)
  | negSucc n =>
      change read? ("-" ++ Nat.repr (n + 1)).toList = _
      rw [String.toList_append, digits]
      change (magnitude? (Text.digits (n + 1))).map _ = _
      have read : magnitude? (Text.digits (n + 1)) = some (Float.ofNat (n + 1)) :=
        magnitude?_digits size
      rw [read]
      rfl

end Declare.Decimal
