import Declare.Model.Domain
import Declare.Proofs.Text.Join
import Mathlib

/-!
# Domains that read back

A domain that reads as an equal one reads as itself (`Domain.read_text`). For numbers this needs a
closer look, since equal numbers may differ: the two zeros do. Their texts `0.0` and `-0.0` are read
exactly, on their own and as a bound of a range, whatever the other bound is.
-/

namespace Declare

open Text

namespace Decimal

/-- The characters of written numbers. -/
def writtenChars : List Char :=
  ['0', '1', '2', '3', '4', '5', '6', '7', '8', '9', '-', '.', 'e', 'i', 'n', 'f', 'N', 'a']

/-- The text has characters of written numbers only. -/
def IsWritten (cs : List Char) : Prop :=
  ∀ c ∈ cs, c ∈ writtenChars

instance (cs : List Char) : Decidable (IsWritten cs) :=
  List.decidableBAll (· ∈ writtenChars) cs

private theorem IsWritten.append {cs cs' : List Char} (h : IsWritten cs) (h' : IsWritten cs') :
    IsWritten (cs ++ cs') :=
  List.forall_mem_append.2 ⟨h, h'⟩

private theorem IsWritten.sublist {cs cs' : List Char} (h : IsWritten cs) (sub : cs'.Sublist cs) :
    IsWritten cs' :=
  fun c hc => h c (sub.mem hc)

private theorem isWritten_digits (n : Nat) : IsWritten (digits n) := by
  intro c hc
  exact of_isDigit (by decide) (isDigit_of_mem_digits hc)

private theorem isWritten_zeros (n : Nat) : IsWritten (List.replicate n '0') := by
  intro c hc
  rw [List.eq_of_mem_replicate hc]
  decide

theorem isWritten_toString (i : Int) : IsWritten (toString i).toList := by
  have natural : ∀ n : Nat, IsWritten n.repr.toList := by
    intro n
    rw [Nat.toList_repr]
    exact isWritten_digits n
  cases i with
  | ofNat n => exact natural n
  | negSucc n =>
      rw [show toString (Int.negSucc n) = "-" ++ Nat.repr (n + 1) from rfl, String.toList_append]
      exact IsWritten.append (by decide) (natural _)

private theorem isWritten_positionalText {ds : List Char} (h : IsWritten ds) (pointZero : Bool)
    (e : Int) : IsWritten (positionalText pointZero ds e) := by
  have point : IsWritten ['.'] := by decide
  by_cases negative : e < 0
  · have zero : IsWritten ['0', '.'] := by decide
    rw [positionalText, if_pos negative]
    exact zero.append ((isWritten_zeros _).append h)
  · by_cases short : ds.length ≤ e.toNat + 1
    · rw [positionalText, if_neg negative, if_pos short]
      refine (h.append (isWritten_zeros _)).append ?_
      split <;> decide
    · rw [positionalText, if_neg negative, if_neg short]
      exact (h.sublist (List.take_sublist _ _)).append
        (point.append (h.sublist (List.drop_sublist _ _)))

private theorem isWritten_exponentText {ds : List Char} (h : IsWritten ds) (e : Int) :
    IsWritten (exponentText false ds e) := by
  have point : IsWritten ['.'] := by decide
  have fraction : IsWritten (if ds.length ≤ 1 then [] else '.' :: ds.drop 1) := by
    split
    · decide
    · exact point.append (h.sublist (List.drop_sublist _ _))
  have mark : IsWritten (['e'] ++ []) := by decide
  have first := h.sublist (List.take_sublist 1 ds)
  simpa [exponentText] using
    (first.append fraction).append (mark.append (isWritten_toString e))

private theorem positionalText_ne_nil {ds : List Char} (h : ds ≠ []) (pointZero : Bool) (e : Int) :
    positionalText pointZero ds e ≠ [] := by
  by_cases negative : e < 0
  · simp [positionalText, negative]
  · by_cases short : ds.length ≤ e.toNat + 1 <;> simp [positionalText, negative, short, h]

private theorem exponentText_ne_nil (plusSign : Bool) (ds : List Char) (e : Int) :
    exponentText plusSign ds e ≠ [] := by
  simp [exponentText]

/-- What holds of all ways in which digits are laid out holds of all written numbers. -/
private theorem written_cases {p : List Char → Prop} (x : Float)
    (special : p "NaN".toList ∧ p "-inf".toList ∧ p "inf".toList)
    (positional : ∀ sign ∈ ["-", ""], ∀ n e, p (sign.toList ++ positionalText true (digits n) e))
    (exponent : ∀ sign ∈ ["-", ""], ∀ n e, p (sign.toList ++ exponentText false (digits n) e)) :
    p (Layout.pointed.write x).toList := by
  rw [Layout.write]
  split
  · exact special.1
  · next negative _ =>
      cases negative
      · exact special.2.2
      · exact special.2.1
  · next negative m q _ =>
      have sign : (if negative then "-" else "") ∈ ["-", ""] := by cases negative <;> decide
      have laid : ∃ n e, Layout.pointed.magnitude m q =
          if Layout.pointed.positional e then positionalText true (digits n) e
          else exponentText false (digits n) e := ⟨_, _, rfl⟩
      obtain ⟨n, e, laid⟩ := laid
      rw [String.toList_append, String.toList_ofList, laid]
      by_cases inside : Layout.pointed.positional e
      · rw [if_pos inside]
        exact positional _ sign n e
      · rw [if_neg inside]
        exact exponent _ sign n e

theorem isWritten_write (x : Float) : IsWritten (Layout.pointed.write x).toList := by
  have signs : ∀ sign ∈ ["-", ""], IsWritten sign.toList := by decide
  apply written_cases (p := IsWritten) x (by decide)
  · intro sign h n e
    exact (signs sign h).append (isWritten_positionalText (isWritten_digits n) _ e)
  · intro sign h n e
    exact (signs sign h).append (isWritten_exponentText (isWritten_digits n) e)

theorem write_ne_nil (x : Float) : (Layout.pointed.write x).toList ≠ [] := by
  apply written_cases (p := (· ≠ [])) x (by decide)
  · intro sign _ n e
    exact List.append_ne_nil_of_right_ne_nil _ (positionalText_ne_nil (digits_ne_nil n) _ e)
  · intro sign _ n e
    exact List.append_ne_nil_of_right_ne_nil _ (exponentText_ne_nil _ _ e)

theorem not_isBlank_of_written : ∀ c ∈ writtenChars, isBlank c = false :=
  forall_mem_of_all (by decide)

end Decimal

theorem lowercase_eq_map {cs : List Char} (h : ∀ c ∈ cs, c ≠ 'Σ' ∧ c ≠ 'İ') :
    lowercase cs = cs.map smallLetter := by
  have after : ∀ before, lowercaseAfter before cs = cs.map smallLetter := by
    induction cs with
    | nil => exact fun _ => rfl
    | cons c cs ih =>
        intro before
        obtain ⟨here, rest⟩ := List.forall_mem_cons.1 h
        simp only [lowercaseAfter, if_neg here.1, if_neg here.2, ih rest]
        rfl
  exact after []

namespace Domain

/-- The text of a number as a bound of a range, as it is read. -/
private def boundText (x : Float) : List Char :=
  lowercase (Decimal.Layout.pointed.write x).toList

private theorem plain_of_mem_write {x : Float} :
    ∀ c ∈ (Decimal.Layout.pointed.write x).toList, c ≠ 'Σ' ∧ c ≠ 'İ' := by
  have plain : ∀ c ∈ Decimal.writtenChars, c ≠ 'Σ' ∧ c ≠ 'İ' := forall_mem_of_all (by decide)
  exact fun c hc => plain c (Decimal.isWritten_write x c hc)

private theorem boundText_eq (x : Float) :
    boundText x = (Decimal.Layout.pointed.write x).toList.map smallLetter :=
  lowercase_eq_map plain_of_mem_write

private theorem not_isBlank_of_mem_boundText {x : Float} {c : Char} (h : c ∈ boundText x) :
    isBlank c = false := by
  have solid : ∀ c ∈ Decimal.writtenChars, isBlank (smallLetter c) = false :=
    forall_mem_of_all (by decide)
  rw [boundText_eq, List.mem_map] at h
  obtain ⟨d, hd, rfl⟩ := h
  exact solid d (Decimal.isWritten_write x d hd)

private theorem trim_boundText (x : Float) : trim (boundText x) = boundText x := by
  apply trim_eq_self
  · rintro c r eq
    exact not_isBlank_of_mem_boundText (x := x) (by simp [eq])
  · rintro r c eq
    exact not_isBlank_of_mem_boundText (x := x) (by simp [eq])

/-- The bounds of a range are read one by one. -/
private theorem readBounds_eq_ok {α : Type} {read : List Char → Option α} {exceeds : α → α → Bool}
    {low high : List Char} (one : ' ' ∉ low) (trimLow : trim low = low)
    (trimHigh : trim high = high) {x y : α} :
    readBounds read exceeds (low ++ " and ".toList ++ high) = .ok (x, y) ↔
      read low = some x ∧ read high = some y ∧ exceeds x y = false := by
  have cut : cut? " and ".toList (low ++ " and ".toList ++ high) = some (low, high) := by
    rw [List.append_assoc]
    exact cut?_append_of_not_mem one _ _
  rw [readBounds, cut]
  simp only [trimLow, trimHigh]
  cases read low with
  | none => simp [bind, Except.bind]
  | some x' =>
      cases read high with
      | none => simp [bind, Except.bind]
      | some y' =>
          cases above : exceeds x' y' <;> simp [bind, Except.bind, above] <;> grind

private theorem toList_text_floatRange (a b : Float) :
    (floatRange a b).text.toList = "float between ".toList ++
      ((Decimal.Layout.pointed.write a).toList ++ (" and ".toList ++
        (Decimal.Layout.pointed.write b).toList)) := by
  have text : (floatRange a b).text = "float between " ++ Decimal.Layout.pointed.write a ++
      " and " ++ Decimal.Layout.pointed.write b := rfl
  rw [text, String.toList_append, String.toList_append, String.toList_append, List.append_assoc,
    List.append_assoc]

private theorem trim_text_floatRange (a b : Float) :
    trim (floatRange a b).text.toList = (floatRange a b).text.toList := by
  rw [toList_text_floatRange]
  have ends : EndsSolid (Decimal.Layout.pointed.write b).toList := by
    have last := List.getLast?_eq_some_getLast (Decimal.write_ne_nil b)
    exact ⟨_, last, Decimal.not_isBlank_of_written _
      (Decimal.isWritten_write b _ (List.mem_of_getLast? last))⟩
  exact trim_of_solid (startsSolid_cons (by decide) _) (((ends.append _).append _).append _)

private theorem lowercase_text_floatRange (a b : Float) :
    lowercase (floatRange a b).text.toList =
      "float between ".toList ++ (boundText a ++ " and ".toList ++ boundText b) := by
  rw [toList_text_floatRange, lowercase_eq_map]
  · rw [List.map_append, List.map_append, List.map_append, ← boundText_eq, ← boundText_eq,
      List.append_assoc]
    rfl
  · simp only [List.forall_mem_append]
    exact ⟨forall_mem_of_all (by decide), plain_of_mem_write, forall_mem_of_all (by decide),
      plain_of_mem_write⟩

private theorem read_text_floatRange (a b : Float) :
    Domain.read (floatRange a b).text.toList =
      (readBounds Decimal.read? (fun a b => b < a)
        (boundText a ++ " and ".toList ++ boundText b)).map fun r => .floatRange r.1 r.2 := by
  have notInt : int64? (floatRange a b).text.toList = none := by
    rw [toList_text_floatRange]
    simp [int64?, integer?, natural?]
  have notFloat : Decimal.read? (floatRange a b).text.toList = none := by
    rw [toList_text_floatRange]
    simp [Decimal.read?, Decimal.magnitude?, Decimal.unsigned?]
  have notInteger (cs : List Char) :
      stripPrefix? "integer between ".toList ("float between ".toList ++ cs) = none := rfl
  rw [Domain.read]
  simp only [trim_text_floatRange, lowercase_text_floatRange, notInt, notFloat, notInteger,
    Option.filter_none, stripPrefix?_append]
  rfl

private theorem eq_of_read?_boundText {x y : Float} (h : Decimal.read? (boundText x) = some y)
    (same : (y == x) = true) : y = x := by
  have zero : Decimal.read? (boundText 0) = some 0 := by decide
  have negativeZero : Decimal.read? (boundText (-0)) = some (-0) := by decide
  obtain ⟨-, -, rfl | ⟨-, rfl⟩ | ⟨-, rfl⟩⟩ := Float.beq_iff_ne_nan_and_eq.1 same
  · rfl
  · exact Option.some.inj (h.symm.trans negativeZero)
  · exact Option.some.inj (h.symm.trans zero)

private theorem eq_of_read_text_float {x y : Float}
    (h : Domain.read (float x).text.toList = .ok (.float y)) (same : (y == x) = true) : y = x := by
  have zero : Domain.read (float 0).text.toList = .ok (float 0) := rfl
  have negativeZero : Domain.read (float (-0)).text.toList = .ok (float (-0)) := rfl
  obtain ⟨-, -, rfl | ⟨-, rfl⟩ | ⟨-, rfl⟩⟩ := Float.beq_iff_ne_nan_and_eq.1 same
  · rfl
  · cases negativeZero.symm.trans h
    rfl
  · cases zero.symm.trans h
    rfl

private theorem eq_of_read_text_floatRange {a b a' b' : Float}
    (h : Domain.read (floatRange a b).text.toList = .ok (floatRange a' b'))
    (low : (a' == a) = true) (high : (b' == b) = true) : a' = a ∧ b' = b := by
  have one : ' ' ∉ boundText a := by
    intro mem
    cases not_isBlank_of_mem_boundText mem
  rw [read_text_floatRange] at h
  cases bounds : readBounds Decimal.read? (fun a b => b < a)
      (boundText a ++ " and ".toList ++ boundText b) with
  | error e =>
      rw [bounds] at h
      cases h
  | ok r =>
      simp only [bounds, Except.map, Except.ok.injEq, floatRange.injEq] at h
      obtain ⟨readLow, readHigh, -⟩ :=
        (readBounds_eq_ok one (trim_boundText a) (trim_boundText b) (x := r.1) (y := r.2)).1 bounds
      rw [h.1] at readLow
      rw [h.2] at readHigh
      exact ⟨eq_of_read?_boundText readLow low, eq_of_read?_boundText readHigh high⟩

/-- A domain that reads as an equal one reads as itself. -/
theorem read_text {d : Domain} (h : d.readsBack) : Domain.read d.text.toList = .ok d := by
  rw [readsBack] at h
  split at h
  · next d' found =>
      rw [found]
      cases d with
      | integer n =>
          cases d' with
          | integer n' => exact congrArg _ (congrArg _ (beq_iff_eq.1 h))
          | _ => cases h
      | float x =>
          cases d' with
          | float x' => rw [eq_of_read_text_float found h]
          | _ => cases h
      | integerRange min max =>
          cases d' with
          | integerRange min' max' =>
              obtain ⟨low, high⟩ := Bool.and_eq_true_iff.1 h
              rw [beq_iff_eq.1 low, beq_iff_eq.1 high]
          | _ => cases h
      | floatRange min max =>
          cases d' with
          | floatRange min' max' =>
              obtain ⟨low, high⟩ := Bool.and_eq_true_iff.1 h
              obtain ⟨rfl, rfl⟩ := eq_of_read_text_floatRange found low high
              rfl
          | _ => cases h
      | enumeration values =>
          cases d' with
          | enumeration values' => exact congrArg _ (congrArg _ (beq_iff_eq.1 h))
          | _ => cases h
  · cases h

end Domain

end Declare
