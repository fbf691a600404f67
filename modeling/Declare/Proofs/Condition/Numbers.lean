import Declare.Proofs.Condition.Checked
import Declare.Proofs.Decimal.Whole

/-!
# Whole numbers in conditions

An attribute that is a 64-bit whole number is compared with a whole number in a condition as a
floating-point number, and so is the literal. Both are rounded to 53 bits: the condition says of the
rounded numbers what it seems to say of the numbers themselves
(`Condition.int_compares_rounded`). Where one of the two is less than 2^53 in magnitude that is the
same (`Decimal.cmp_roundInt`). Beyond, a number may be equal to its neighbour
(`Condition.not_forall_int_compares`).
-/

namespace Declare

open Decimal (StandsFor roundInt standsFor_ofInt read?_toString)

namespace Comparison

/-- Whether two whole numbers compare in that way. -/
def holdsInt (c : Comparison) (i j : ℤ) : Bool :=
  match c with
  | lt => i < j
  | le => i ≤ j
  | eq => i = j
  | ne => i ≠ j
  | gt => j < i
  | ge => j ≤ i

/-- Whether numbers in that order compare in that way. -/
def admits (c : Comparison) (order : Ordering) : Bool :=
  match c with
  | lt => order == .lt
  | le => order.isLE
  | eq => order == .eq
  | ne => order != .eq
  | gt => order == .gt
  | ge => order.isGE

theorem holdsInt_eq_admits (c : Comparison) (i j : ℤ) : c.holdsInt i j = c.admits (cmp i j) := by
  rcases lt_trichotomy i j with less | rfl | greater
  · rw [(cmp_eq_lt_iff i j).2 less]
    cases c <;> simp [holdsInt, admits, less, less.le, less.ne, less.not_gt]
  · rw [cmp_self_eq_eq]
    cases c <;> simp [holdsInt, admits]
  · rw [(cmp_eq_gt_iff i j).2 greater]
    cases c <;> simp [holdsInt, admits, greater, greater.le, greater.ne', greater.not_gt]

private theorem decide_lt (x y : Float) :
    decide (x < y) = (x.toModel.unpack.compare y.toModel.unpack == some .lt) := by
  change decide (decide (_ = true) = true) = _
  rw [Bool.decide_eq_true, Bool.decide_eq_true]
  rfl

private theorem decide_le (x y : Float) :
    decide (x ≤ y) = (x.toModel.unpack.compare y.toModel.unpack).any (·.isLE) := by
  change decide (decide (_ = true) = true) = _
  rw [Bool.decide_eq_true, Bool.decide_eq_true]
  rfl

private theorem beq_eq (x y : Float) :
    (x == y) = (x.toModel.unpack.compare y.toModel.unpack == some .eq) :=
  rfl

/-- Floating-point numbers compare as their values do. -/
theorem holds_eq_admits (c : Comparison) {x y : Float} {v w : ℚ}
    (hx : StandsFor x.toModel.unpack v) (hy : StandsFor y.toModel.unpack w) :
    c.holds x y = c.admits (cmp v w) := by
  have forth := hx.compare_eq hy
  have back := hy.compare_eq hx
  rw [← cmp_swap] at back
  cases c with
  | lt =>
      rw [holds, decide_lt, forth]
      rfl
  | le =>
      rw [holds, decide_le, forth]
      rfl
  | eq =>
      rw [holds, beq_eq, forth]
      rfl
  | ne =>
      rw [holds, bne, beq_eq, forth]
      rfl
  | gt =>
      rw [holds, decide_lt, back]
      cases cmp v w <;> rfl
  | ge =>
      rw [holds, decide_le, back]
      cases cmp v w <;> rfl

/-- Whole numbers compare as what they are rounded to. -/
theorem holds_ofInt (c : Comparison) {i j : ℤ} (size : i.natAbs < UInt64.size)
    (size' : j.natAbs < UInt64.size) :
    c.holds (.ofInt i) (.ofInt j) = c.holdsInt (roundInt i) (roundInt j) := by
  rw [c.holds_eq_admits (standsFor_ofInt size) (standsFor_ofInt size'),
    Int.cast_strictMono.cmp_map_eq, holdsInt_eq_admits]

end Comparison

theorem natAbs_toInt_lt (i : Int64) : i.toInt.natAbs < UInt64.size := by
  have low := i.le_toInt
  have high := i.toInt_lt
  simp only [UInt64.size]
  omega

theorem Value.accepts_toString (i j : Int64) :
    (Value.int i).accepts (toString j.toInt) =
      decide (roundInt i.toInt = roundInt j.toInt) := by
  have same := Comparison.eq.holds_ofInt (natAbs_toInt_lt i) (natAbs_toInt_lt j)
  simp only [accepts, number?, read?_toString (natAbs_toInt_lt j)]
  exact same

namespace Condition

variable {scope : Scope} {x : String} {op : Comparison}

/-- A comparison does not begin with a keyword: a constant is over before the comparison, and the
other keywords are followed by an attribute. -/
theorem word_of_ofTokens_comparison {rest : List Token} {c : Condition}
    (h : ofTokens scope (.word x :: .comparison op :: rest) = .ok c) :
    ∀ keyword ∈ atomKeywords, Token.spells keyword x = false := by
  obtain ⟨atom, behind, left, more, readAtom, readAnd, readOr⟩ :=
    (ofTokens_word_eq_ok_iff scope).1 h
  have leftOver (b : Bool) (constant : (atom, behind) = (.const b, .comparison op :: rest)) :
      False := by
    cases constant
    have stop (keyword : List Char) :
        ∀ t ∈ (Token.comparison op :: rest).head?, t.isKeyword keyword = false := by
      rintro t ⟨⟩
      rfl
    cases (readAndTail_of_stop (stop _) _).symm.trans readAnd
    cases (readOrTail_of_stop (stop _) _).symm.trans readOr
  rw [readWord] at readAtom
  split at readAtom
  · exact (leftOver true (Except.ok.inj readAtom).symm).elim
  split at readAtom
  · exact (leftOver false (Except.ok.inj readAtom).symm).elim
  split at readAtom
  · cases readAtom
  split at readAtom
  · cases readAtom
  next notTrue notFalse notSame notDifferent =>
    simp only [atomKeywords, List.forall_mem_cons, Bool.eq_false_iff]
    exact ⟨notTrue, notFalse, notSame, notDifferent, List.forall_mem_nil _⟩

/-- A comparison with a number is read if the operand is admitted and its domain has an order. -/
theorem ofTokens_comparison_eq_ok_iff {w : String} {bound : Float}
    (number : Decimal.read? w.toList = some bound) {c : Condition} :
    ofTokens scope [.word x, .comparison op, .word w] = .ok c ↔
      (∀ keyword ∈ atomKeywords, Token.spells keyword x = false) ∧
        (checkOperand scope x = .ok (Operand.ofWord x) ∧
          ∀ d ∈ scope.catalog.domain? (Operand.ofWord x).attr, d.isNumeric = true) ∧
        c = .compare (Operand.ofWord x) op bound := by
  constructor
  · intro h
    have word := word_of_ofTokens_comparison h
    refine ⟨word, ?_⟩
    obtain ⟨atom, behind, left, more, readAtom, readAnd, readOr⟩ :=
      (ofTokens_word_eq_ok_iff scope).1 h
    rw [result_readWord_operand scope word] at readAtom
    obtain ⟨o, operand, readAtom⟩ := exists_of_bind_eq_ok readAtom
    rw [result_readPredicate_comparison scope o [] op number] at readAtom
    obtain ⟨⟨⟩, ordered, readAtom⟩ := exists_of_map_eq_ok readAtom
    cases readAtom
    cases (result_readAndTail_nil scope _).symm.trans readAnd
    cases (result_readOrTail_nil scope _).symm.trans readOr
    obtain ⟨rfl, -⟩ := checkOperand_eq_ok_iff.1 operand
    exact ⟨⟨operand, checkComparison_eq_ok_iff.1 ordered⟩, rfl⟩
  · rintro ⟨word, ⟨operand, ordered⟩, rfl⟩
    have readAtom : (readWord scope x [.comparison op, .word w]).result =
        .ok (.compare (Operand.ofWord x) op bound, []) := by
      rw [result_readWord_operand scope word, operand]
      refine (result_readPredicate_comparison scope _ [] op number).trans ?_
      rw [checkComparison_eq_ok_iff.2 ordered]
      rfl
    apply (ofTokens_word_eq_ok_iff scope).2
    exact ⟨_, _, _, _, readAtom, result_readAndTail_nil scope _, result_readOrTail_nil scope _⟩

/-- A whole number in a condition is compared with a whole number as an attribute after both were
rounded, in all six ways, and so they are where the condition says what the attribute is. That makes
no difference if one of the two is less than 2^53 in magnitude. -/
theorem int_compares_rounded (i j : Int64) :
    (Value.int i).accepts (toString j.toInt) =
        decide (roundInt i.toInt = roundInt j.toInt) ∧
      (∀ (x : String) (op : Comparison) (text : String),
        Token.Layout [.word x, .comparison op, .word (toString j.toInt)] text.toList →
        ∀ (role : Role) (catalog : Catalog) (c : Condition), read role catalog text = .ok c →
          ∀ (a : Event) (t : Option Event), (Operand.ofWord x).value? a t = some (.int i) →
            c.eval a t = op.holdsInt (roundInt i.toInt) (roundInt j.toInt)) ∧
      (i.toInt.natAbs < 2 ^ 53 ∨ j.toInt.natAbs < 2 ^ 53 →
        ∀ op : Comparison,
          op.holdsInt (roundInt i.toInt) (roundInt j.toInt) = op.holdsInt i.toInt j.toInt) := by
  refine ⟨Value.accepts_toString i j, ?_, ?_⟩
  · intro x op text shown role catalog c compiled a t value
    have spelled := (read_eq_ok_iff_ofTokens (Token.tokenize_of_layout shown)).1 compiled
    have number := read?_toString (natAbs_toInt_lt j)
    obtain ⟨-, -, rfl⟩ := (ofTokens_comparison_eq_ok_iff number).1 spelled
    rw [eval, value]
    exact op.holds_ofInt (natAbs_toInt_lt i) (natAbs_toInt_lt j)
  · intro small op
    rw [Comparison.holdsInt_eq_admits, Decimal.cmp_roundInt small, Comparison.holdsInt_eq_admits]

/-- An event with a whole number. -/
def payment (amount : Int64) : Event :=
  ⟨"Pay", .epoch, [⟨"amount", .int amount⟩]⟩

/-- The number is 2^53 + 1. -/
theorem layout_amount :
    Token.Layout
      [.word "amount", .comparison .lt, .word (toString (9007199254740993 : Int64).toInt)]
      "amount < 9007199254740993".toList := by
  have blank : Text.isBlank ' ' = true := by decide
  have pieces : "amount < 9007199254740993".toList =
      "amount".toList ++ (' ' :: (Comparison.lt.symbol.toList ++ (' ' ::
        ((toString (9007199254740993 : Int64).toInt).toList ++ [])))) := by
    decide +kernel
  rw [pieces]
  refine .token (.word (by decide)) rfl (.blank blank ?_)
  refine .token (.comparison .lt) rfl (.blank blank ?_)
  exact .token (.word (by decide +kernel)) rfl .nil

/-- The number 2^53 + 1 is rounded, so 2^53 is not less than it; 2^53 - 1 is. -/
theorem int_compares_rounded_amount :
    ∃ c, read .activation (.ofNames ["amount"]) "amount < 9007199254740993" = .ok c ∧
      c.eval (payment 9007199254740992) none = false ∧
      c.eval (payment 9007199254740991) none = true := by
  have compiled : read .activation (.ofNames ["amount"]) "amount < 9007199254740993" =
      .ok (.compare ⟨.activation, "amount"⟩ .lt (.ofInt (9007199254740993 : Int64).toInt)) := by
    apply (read_eq_ok_iff_ofTokens (Token.tokenize_of_layout layout_amount)).2
    apply (ofTokens_comparison_eq_ok_iff (read?_toString (natAbs_toInt_lt _))).2
    refine ⟨by decide, ⟨checkOperand_eq_ok_iff.2 ⟨rfl, by decide, by decide, nofun⟩, nofun⟩, rfl⟩
  obtain ⟨-, rounded, -⟩ := int_compares_rounded 9007199254740992 9007199254740993
  obtain ⟨-, unrounded, exact⟩ := int_compares_rounded 9007199254740991 9007199254740993
  refine ⟨_, compiled, ?_, ?_⟩
  · rw [rounded "amount" .lt _ layout_amount _ _ _ compiled _ none rfl]
    decide +kernel
  · rw [unrounded "amount" .lt _ layout_amount _ _ _ compiled _ none rfl,
      exact (by decide) .lt]
    decide

/-- Whole numbers are not compared exactly: 2^53 + 1 is accepted where 2^53 is written. -/
theorem not_forall_int_compares :
    ¬∀ i j : Int64,
      ((Value.int i).accepts (toString j.toInt) = true ↔ i = j) ∧
        ∀ (x : String) (op : Comparison) (text : String),
          Token.Layout [.word x, .comparison op, .word (toString j.toInt)] text.toList →
          ∀ (role : Role) (catalog : Catalog) (c : Condition), read role catalog text = .ok c →
            ∀ (a : Event) (t : Option Event), (Operand.ofWord x).value? a t = some (.int i) →
              c.eval a t = op.holdsInt i.toInt j.toInt := by
  intro exactly
  have accepted : (Value.int 9007199254740993).accepts
      (toString (9007199254740992 : Int64).toInt) = true := by
    decide +kernel
  have same := (exactly 9007199254740993 9007199254740992).1.1 accepted
  exact absurd same (by decide)

end Condition

end Declare
