import Declare.Json.Token
import Mathlib.Data.List.Basic

/-!
# Reading written tokens

A written token is read back if it is exact: a whole number that fits into 64 bits, a string that is
a text, or any word or sign. Real numbers are left out, since reading them may change their last
bits, and so are numbers and strings that cannot be written. Only a number depends on the text after
it, which must not go on with a character of numbers (`Token.tokenize_text`).
-/

namespace Declare.Json

/-- A reading gives `a` and leaves `rest`. -/
def Leaves {α β : Type} {l : List β} (reading : Option (α × ProperRest l)) (a : α)
    (rest : List β) : Prop :=
  ∃ r, reading = some (a, r) ∧ r.list = rest

/-- The part of a string as which a written character is read: control characters that have no
escape of their own are named by their unit. -/
def Piece.ofChar (c : Char) : Piece :=
  match escapes.find? (·.1 = c) with
  | some _ => .char c
  | none => if c.toNat < 32 then .unit c.toNat else .char c

/-- Reading a string gives its parts and leaves `rest`. -/
def TakesString (cs : List Char) (ps : List Piece) (rest : List Char) : Prop :=
  ∃ r, takeString? cs = some (ps, r) ∧ r.list = rest

theorem takesString_quote (rest : List Char) : TakesString ('"' :: rest) [] rest :=
  ⟨(Rest.all rest).cons, rfl, rfl⟩

namespace TakesString

variable {cs rest : List Char} {ps : List Piece}

theorem cons_letter (h : TakesString cs ps rest) {c letter : Char} (mem : (c, letter) ∈ escapes) :
    TakesString ('\\' :: letter :: cs) (.char c :: ps) rest := by
  -- no letter begins an escape that names a unit
  have known : ∀ e ∈ escapes, e.2 ≠ 'u' ∧ unescape? e.2 = some e.1 := by decide
  obtain ⟨notUnit, unescaped⟩ := known _ mem
  obtain ⟨r, taken, left⟩ := h
  refine ⟨r.cons.cons, ?_, left⟩
  rw [takeString?.eq_4 _ _ fun _ _ _ _ _ isUnit => absurd isUnit notUnit, unescaped, taken]
  rfl

theorem cons_unit (h : TakesString cs ps rest) {u : Nat} (control : u < 32) :
    TakesString
      ('\\' :: 'u' :: '0' :: '0' :: Nat.digitChar (u / 16) :: Nat.digitChar (u % 16) :: cs)
      (.unit u :: ps) rest := by
  have named : ∀ u < 32,
      hexUnit? '0' '0' (Nat.digitChar (u / 16)) (Nat.digitChar (u % 16)) = some u := by
    decide
  obtain ⟨r, taken, left⟩ := h
  refine ⟨r.cons.cons.cons.cons.cons.cons, ?_, left⟩
  rw [takeString?.eq_3, named u control, taken]
  rfl

theorem cons_char (h : TakesString cs ps rest) {c : Char} (free : c ∉ escapes.map (·.1))
    (visible : 32 ≤ c.toNat) : TakesString (c :: cs) (.char c :: ps) rest := by
  -- the quote and the backslash have escapes of their own
  have notQuote : c ≠ '"' := by rintro rfl; exact free (by decide)
  have notBackslash : c ≠ '\\' := by rintro rfl; exact free (by decide)
  obtain ⟨r, taken, left⟩ := h
  refine ⟨r.cons, ?_, left⟩
  rw [takeString?.eq_5 _ _ notQuote (fun _ _ _ _ _ h => absurd h notBackslash)
    (fun _ _ h => absurd h notBackslash), taken]
  simp [notBackslash, visible]

/-- A written character is read as one part. -/
theorem cons_escape (h : TakesString cs ps rest) (c : Char) :
    TakesString (escape c ++ cs) (.ofChar c :: ps) rest := by
  rw [Json.escape, Piece.ofChar]
  cases found : escapes.find? (·.1 = c) with
  | some e =>
      have same := List.find?_some found
      obtain rfl : e.1 = c := of_decide_eq_true same
      exact h.cons_letter (List.mem_of_find?_eq_some found)
  | none =>
      by_cases control : c.toNat < 32
      · simp only [if_pos control]
        exact h.cons_unit control
      · simp only [if_neg control]
        refine h.cons_char ?_ (Nat.le_of_not_lt control)
        intro special
        obtain ⟨e, mem, rfl⟩ := List.mem_map.1 special
        simpa using List.find?_eq_none.1 found e mem

end TakesString

/-- A written text is read as one part for each of its characters. -/
theorem takesString_flatMap_escape (cs rest : List Char) :
    TakesString (cs.flatMap escape ++ '"' :: rest) (cs.map .ofChar) rest := by
  induction cs with
  | nil => exact takesString_quote rest
  | cons c cs ih =>
      rw [List.flatMap_cons, List.append_assoc]
      exact ih.cons_escape c

namespace Piece

/-- A unit that is no half of a character is a character. -/
theorem decode?_unit {u : Nat} (h : u < 0xD800) (ps : List Piece) :
    decode? (.unit u :: ps) = (decode? ps).map (Char.ofNat u :: ·) := by
  have noLead : isLead u = false := by
    have : ¬ 0xD800 ≤ u := by omega
    simp [isLead, this]
  have noTrail : isTrail u = false := by
    have : ¬ 0xDC00 ≤ u := by omega
    simp [isTrail, this]
  match ps with
  | .unit v :: ps => simp [decode?, noLead, noTrail]
  | .char c :: ps => simp [decode?, noLead, noTrail]
  | [] => simp [decode?, noLead, noTrail]

theorem decode?_ofChar (c : Char) (ps : List Piece) :
    decode? (ofChar c :: ps) = (decode? ps).map (c :: ·) := by
  rw [ofChar]
  cases escapes.find? (·.1 = c) with
  | some e => rfl
  | none =>
      by_cases control : c.toNat < 32
      · simp only [if_pos control]
        rw [decode?_unit (by omega), Char.ofNat_toNat]
      · simp only [if_neg control]
        rfl

/-- The parts of a written text spell the text. -/
theorem decode?_map_ofChar (cs : List Char) : decode? (cs.map ofChar) = some cs := by
  induction cs with
  | nil => rfl
  | cons c cs ih => rw [List.map_cons, decode?_ofChar, ih]; rfl

end Piece

/-- Whether a number can go on with a character. -/
def continuesNumber (c : Char) : Bool :=
  c.isDigit || c ∈ ['.', 'e', 'E']

/-- Whether a number that stands before a text ends there. -/
def EndsNumber (rest : List Char) : Prop :=
  rest.head?.any continuesNumber = false

theorem EndsNumber.not_isDigit {c : Char} {rest : List Char} (h : EndsNumber (c :: rest)) :
    c.isDigit = false := by
  have : continuesNumber c = false := h
  exact (Bool.or_eq_false_iff.1 this).1

/-- Digits that fit into 64 bits are all kept. -/
theorem Numeral.fill_eq (cs : List Char) (start : Nat)
    (fits : Nat.ofDigitChars 10 cs start < UInt64.size) :
    fill start cs = (Nat.ofDigitChars 10 cs start, 0) := by
  induction cs generalizing start with
  | nil => rfl
  | cons c cs ih =>
      rw [Nat.ofDigitChars_cons, Nat.mul_comm] at fits ⊢
      -- the significand only grows, so it fits at every digit if it fits at the last one
      have kept : start * 10 + digitValue c < UInt64.size := by
        refine Nat.lt_of_le_of_lt ?_ fits
        rw [Nat.ofDigitChars_eq_ofDigitChars_zero]
        exact Nat.le_add_right_of_le (Nat.le_mul_of_pos_left _ (Nat.pow_pos (by decide)))
      rw [fill, if_pos kept]
      exact ih _ fits

/-- Only zero is written with a zero in front. -/
theorem digits_ne_zero_cons {n : Nat} (h : n ≠ 0) (cs : List Char) :
    Text.digits n ≠ '0' :: cs := by
  induction n using Nat.strongRecOn generalizing cs with
  | ind n ih =>
      rw [Text.digits, Nat.toDigits_eq_if (by decide)]
      split
      · next single =>
          have oneDigit : ∀ d < 10, d ≠ 0 → Nat.digitChar d ≠ '0' := by decide
          exact fun spelled => oneDigit n single h (List.cons.inj spelled).1
      · -- the first digit of `n` is that of `n / 10`
        intro spelled
        have front : n / 10 ≠ 0 := by omega
        obtain ⟨c, ds, more⟩ := List.exists_cons_of_ne_nil (Text.digits_ne_nil (n / 10))
        rw [← Text.digits, more] at spelled
        obtain ⟨rfl, -⟩ := List.cons.inj spelled
        exact ih (n / 10) (by omega) front ds more

theorem takeWhole?_digits (n : Nat) {rest : List Char} (ends : EndsNumber rest) :
    Leaves (takeWhole? (Text.digits n ++ rest)) (Text.digits n) rest := by
  have stop : rest.takeWhile Char.isDigit = [] ∧ rest.dropWhile Char.isDigit = rest := by
    cases rest with
    | nil => exact ⟨rfl, rfl⟩
    | cons c rest => simp [ends.not_isDigit]
  rcases eq_or_ne n 0 with rfl | nonzero
  · exact ⟨.tail _ rest, rfl, rfl⟩
  · obtain ⟨c, cs, spelled⟩ := List.exists_cons_of_ne_nil (Text.digits_ne_nil n)
    have isDigit : ∀ d ∈ c :: cs, d.isDigit := by
      rw [← spelled]
      exact fun d => Text.isDigit_of_mem_digits
    have inner : ∀ d ∈ cs, d.isDigit := fun d mem => isDigit d (List.mem_cons_of_mem _ mem)
    have notZero (more : List Char) : c :: (cs ++ rest) ≠ '0' :: more := by
      intro zero
      obtain ⟨rfl, -⟩ := List.cons.inj zero
      exact digits_ne_zero_cons nonzero cs spelled
    rw [spelled, List.cons_append]
    refine ⟨(Rest.dropWhile Char.isDigit (cs ++ rest)).proper, ?_, ?_⟩
    · rw [takeWhole?.eq_2 _ notZero, takeDigits?, if_pos (isDigit c List.mem_cons_self),
        List.takeWhile_append_of_pos inner, stop.1, List.append_nil]
    · exact (List.dropWhile_append_of_pos inner).trans stop.2

theorem takeFraction?_eq_none {rest : List Char} (ends : EndsNumber rest) :
    takeFraction? rest = some (none, .all rest) := by
  refine takeFraction?.eq_2 rest ?_
  rintro more rfl
  exact absurd ends (by simp [EndsNumber, continuesNumber])

theorem takeExponent?_eq_none {rest : List Char} (ends : EndsNumber rest) :
    takeExponent? rest = some (none, .all rest) := by
  cases rest with
  | nil => rfl
  | cons c rest =>
      have other : ¬ (c = 'e' || c = 'E') := by
        rw [Bool.or_eq_true, decide_eq_true_eq, decide_eq_true_eq]
        rintro (rfl | rfl) <;> exact absurd ends (by simp [EndsNumber, continuesNumber])
      rw [takeExponent?, if_neg other]

/-- Digits that are followed by neither a point nor an exponent make up a number. -/
theorem Leaves.takeNumeral? {cs digits rest : List Char}
    (whole : Leaves (takeWhole? cs) digits rest) (ends : EndsNumber rest) (negative : Bool) :
    Leaves (takeNumeral? negative cs) { negative, whole := digits } rest := by
  obtain ⟨r, whole, rfl⟩ := whole
  have fraction := takeFraction?_eq_none ends
  have exponent : takeExponent? (Rest.all r.list).list = some (none, .all r.list) :=
    takeExponent?_eq_none ends
  refine ⟨r.trans ((Rest.all r.list).trans (Rest.all r.list)), ?_, rfl⟩
  simp [Json.takeNumeral?, whole, fraction, exponent]

/-- A written natural number is read up to its end. -/
theorem takeNumeral?_digits (negative : Bool) (n : Nat) {rest : List Char}
    (ends : EndsNumber rest) :
    Leaves (takeNumeral? negative (Text.digits n ++ rest)) { negative, whole := Text.digits n }
      rest :=
  (takeWhole?_digits n ends).takeNumeral? ends negative

namespace Numeral

theorem fill_digits {n : Nat} (fits : n < UInt64.size) : fill 0 (Text.digits n) = (n, 0) := by
  have same : Nat.ofDigitChars 10 (Text.digits n) 0 = n :=
    Nat.ofDigitChars_toDigits (by decide) (by decide)
  rw [fill_eq _ _ (by rwa [same]), same]

theorem value_digits {n : Nat} (fits : n < UInt64.size) :
    value { negative := false, whole := Text.digits n } = .whole n := by
  rw [value, fill_digits fits]
  rfl

/-- A negative number may be one more than the largest positive one. -/
theorem value_neg_digits {n : Nat} (pos : 0 < n) (fits : n ≤ 9223372036854775808) :
    value { negative := true, whole := Text.digits n } = .whole (-n) := by
  have word : n < UInt64.size := Nat.lt_of_le_of_lt fits (by decide)
  rw [value, fill_digits word]
  simp only [Bool.not_true, Bool.false_eq_true, if_false, pos, fits, and_self, if_true]

end Numeral

/-- Whether a number is read back as it was written. -/
def Number.IsExact : Number → Prop
  | whole i => -9223372036854775808 ≤ i ∧ i < UInt64.size
  | _ => False

namespace Token

/-- Whether a token is read back as it was written. -/
def IsExact : Token → Prop
  | number n => n.IsExact
  | string s => s.isSome
  | _ => True

/-- Whether a text may follow a token directly. -/
def MayPrecede : Token → List Char → Prop
  | number _, rest => EndsNumber rest
  | _, _ => True

section

variable {rest : List Char} {tokens : List Token}

theorem tokenize_of_leaves {c : Char} {cs : List Char} {token : Token}
    (h : Leaves (scan c cs) (some token) rest) (more : tokenize rest = some tokens) :
    tokenize (c :: cs) = some (token :: tokens) := by
  obtain ⟨r, scanned, rfl⟩ := h
  rw [Token.tokenize, scanned]
  simp only [more]
  rfl

theorem leaves_scan_string (s : String) :
    Leaves (scan '"' (s.toList.flatMap escape ++ '"' :: rest)) (some (string (some s))) rest := by
  obtain ⟨r, taken, left⟩ := takesString_flatMap_escape s.toList rest
  refine ⟨r.proper, ?_, left⟩
  have word : scan '"' (s.toList.flatMap escape ++ '"' :: rest) =
      (scanWord '"' (s.toList.flatMap escape ++ '"' :: rest)).map fun (t, r) => (some t, r) := rfl
  simp [word, scanWord, taken, Piece.decode?_map_ofChar]

/-- Whatever begins with a digit is a number. -/
theorem leaves_scan_digit {c : Char} (h : c.isDigit) {cs : List Char} {n : Numeral}
    (taken : Leaves (takeNumeral? false (c :: cs)) n rest) :
    Leaves (scan c cs) (some (number n.value)) rest := by
  have notBlank : isBlank c = false := by
    refine decide_eq_false ?_
    intro mem
    simp only [List.mem_cons, List.not_mem_nil, or_false] at mem
    rcases mem with rfl | rfl | rfl | rfl <;> exact absurd h (by decide)
  have noSign : ofChar? c = none := by
    rw [ofChar?]
    all_goals rintro rfl; exact absurd h (by decide)
  obtain ⟨r, taken, left⟩ := taken
  refine ⟨r, ?_, left⟩
  rw [scan, if_neg (Bool.eq_false_iff.1 notBlank), noSign, scanWord.eq_6, taken]
  · rfl
  all_goals
    intros
    subst_vars
    exact absurd h (by decide)

theorem tokenize_natural {n : Nat} (fits : n < UInt64.size) (ends : EndsNumber rest)
    (more : tokenize rest = some tokens) :
    tokenize (Text.digits n ++ rest) = some (number (.whole n) :: tokens) := by
  have taken := takeNumeral?_digits false n ends
  rw [← Numeral.value_digits fits]
  obtain ⟨c, cs, spelled⟩ := List.exists_cons_of_ne_nil (Text.digits_ne_nil n)
  have isDigit : c.isDigit := Text.isDigit_of_mem_digits (spelled ▸ List.mem_cons_self)
  rw [spelled] at taken ⊢
  exact tokenize_of_leaves (leaves_scan_digit isDigit taken) more

theorem tokenize_negative {n : Nat} (pos : 0 < n) (fits : n ≤ 9223372036854775808)
    (ends : EndsNumber rest) (more : tokenize rest = some tokens) :
    tokenize ('-' :: Text.digits n ++ rest) = some (number (.whole (-n)) :: tokens) := by
  obtain ⟨r, taken, left⟩ := takeNumeral?_digits true n ends
  refine tokenize_of_leaves ⟨r.cons, ?_, left⟩ more
  have word : scan '-' (Text.digits n ++ rest) =
      (scanWord '-' (Text.digits n ++ rest)).map fun (t, r) => (some t, r) := rfl
  simp [word, scanWord, taken, Numeral.value_neg_digits pos fits]

theorem tokenize_number {n : Number} (exact : n.IsExact) (ends : EndsNumber rest)
    (more : tokenize rest = some tokens) :
    tokenize (n.text ++ rest) = some (number n :: tokens) := by
  match n, exact with
  | .whole i, ⟨least, greatest⟩ =>
      rw [Number.text]
      rcases Int.lt_or_le i 0 with neg | nonneg
      · have magnitude : -(i.natAbs : Int) = i := by omega
        have read := tokenize_negative (n := i.natAbs) (by omega) (by omega) ends more
        rw [if_pos neg]
        rwa [magnitude] at read
      · have magnitude : (i.natAbs : Int) = i := by omega
        have read := tokenize_natural (n := i.natAbs) (by omega) ends more
        rw [if_neg (Int.not_lt.2 nonneg)]
        rwa [magnitude] at read

/-- A written token that is exact is read back. -/
theorem tokenize_text {t : Token} (exact : t.IsExact) (apart : t.MayPrecede rest)
    (more : tokenize rest = some tokens) :
    tokenize (t.text ++ rest) = some (t :: tokens) := by
  cases t with
  | number n => exact tokenize_number exact apart more
  | string s =>
      obtain ⟨s, rfl⟩ := Option.isSome_iff_exists.1 exact
      have spelled : (string (some s)).text ++ rest =
          '"' :: (s.toList.flatMap escape ++ '"' :: rest) := by
        simp [text]
      rw [spelled]
      exact tokenize_of_leaves (leaves_scan_string s) more
  | null => exact tokenize_of_leaves ⟨_, rfl, rfl⟩ more
  | boolean b => cases b <;> exact tokenize_of_leaves ⟨_, rfl, rfl⟩ more
  | _ => exact tokenize_of_leaves ⟨_, rfl, rfl⟩ more

end

end Token

end Declare.Json
