import Declare.Proofs.Condition.Blanks

/-!
# Rounds of reading tokens

Tokens are taken from the front of a text in rounds, and the first character decides what a round
takes. A word is the run of word characters from there on. It would be empty, and the next round the
same again, if a character neither began another token nor could stand in a word. There is none, so
every round takes something (`Token.exists_taken`), and the rounds end with the tokens of the text
(`Token.rounds_eq`).
-/

namespace Declare.Condition.Token

/-- The token of a comparison, if the symbol that was taken is one. -/
def ofSymbol (symbol : List Char) (op : Option Comparison) : Except Malformed (Option Token) :=
  match op with
  | some op => .ok (some (comparison op))
  | none => .error (.unknownComparison (.ofList symbol))

/-- A round at the beginning of a comparison. -/
def roundComparison (c : Char) (cs : List Char) : Except Malformed (Option Token) × List Char :=
  match cs with
  | '=' :: rest => (ofSymbol [c, '='] (comparison? c true), rest)
  | rest => (ofSymbol [c] (comparison? c false), rest)

/-- A round at a quote. -/
def roundQuoted (quote : Char) (cs : List Char) : Except Malformed (Option Token) × List Char :=
  match cs.dropWhile (· ≠ quote) with
  | [] => (.error .unterminatedQuote, [])
  | _ :: rest => (.ok (some (quoted (.ofList (cs.takeWhile (· ≠ quote))))), rest)

/-- A round at the character `c`: the token that it takes, if that is not a blank, or what is wrong;
and in any case the characters that are left. -/
def round (c : Char) (cs : List Char) : Except Malformed (Option Token) × List Char :=
  if Text.isBlank c then (.ok none, cs)
  else if c = '(' then (.ok (some openParen), cs)
  else if c = ')' then (.ok (some closeParen), cs)
  else if c = ',' then (.ok (some comma), cs)
  else if c ∈ ['<', '>', '=', '!'] then roundComparison c cs
  else if c ∈ ['"', '\''] then roundQuoted c cs
  else
    (.ok (some (word (.ofList ((c :: cs).takeWhile isWordChar)))), (c :: cs).dropWhile isWordChar)

/-- Rounds up to the end of the text, or to one where something is wrong, after some tokens were
taken. There is no result if they have not ended after `n` rounds. -/
def rounds (n : Nat) (taken : List Token) (cs : List Char) :
    Option (Except Malformed (List Token)) :=
  match n, cs with
  | _, [] => some (.ok taken)
  | 0, _ :: _ => none
  | n + 1, c :: cs =>
    match round c cs with
    | (.error e, _) => some (.error e)
    | (.ok token, rest) => rounds n (taken ++ token.toList) rest

theorem isWordChar_of_other {c : Char} (solid : ¬Text.isBlank c = true) (openParen : c ≠ '(')
    (closeParen : c ≠ ')') (comma : c ≠ ',') (comparison : c ∉ ['<', '>', '=', '!'])
    (quote : c ∉ ['"', '\'']) : isWordChar c = true := by
  simp only [List.mem_cons, List.not_mem_nil, or_false, not_or] at comparison quote
  simp [isWordChar, special, solid, openParen, closeParen, comma, comparison, quote]

theorem roundComparison_isSuffix (c : Char) (cs : List Char) :
    (roundComparison c cs).2 <:+ cs := by
  unfold roundComparison
  split
  · exact List.suffix_cons _ _
  · exact List.suffix_refl _

theorem roundQuoted_isSuffix (quote : Char) (cs : List Char) :
    (roundQuoted quote cs).2 <:+ cs := by
  unfold roundQuoted
  split
  · exact List.nil_suffix
  next closing rest left =>
    have behind : closing :: rest <:+ cs := left ▸ List.dropWhile_suffix _
    exact (List.suffix_cons closing rest).trans behind

/-- What is left is behind the first character, also if something is wrong. -/
theorem round_isSuffix (c : Char) (cs : List Char) : (round c cs).2 <:+ cs := by
  rw [round]
  split
  · exact List.suffix_refl cs
  split
  · exact List.suffix_refl cs
  split
  · exact List.suffix_refl cs
  split
  · exact List.suffix_refl cs
  split
  · exact roundComparison_isSuffix c cs
  split
  · exact roundQuoted_isSuffix c cs
  next solid openParen closeParen comma comparison quote =>
    have first := isWordChar_of_other solid openParen closeParen comma comparison quote
    rw [List.dropWhile_cons_of_pos first]
    exact List.dropWhile_suffix _

/-- Every round takes at least one character. -/
theorem exists_taken (c : Char) (cs : List Char) :
    ∃ taken, taken ≠ [] ∧ c :: cs = taken ++ (round c cs).2 := by
  obtain ⟨front, split⟩ := round_isSuffix c cs
  exact ⟨c :: front, List.cons_ne_nil c front, by rw [List.cons_append, split]⟩

/-- A round that was made, where nothing was wrong. -/
def roundResult (r : Except Malformed (Option Token) × List Char) :
    Except Malformed (Option Token × List Char) :=
  r.1.map fun token => (token, r.2)

theorem result_scanComparison_eq (c : Char) (cs : List Char) :
    result (scanComparison c cs) = roundResult (roundComparison c cs) := by
  by_cases equality : ∃ rest, cs = '=' :: rest
  · obtain ⟨rest, rfl⟩ := equality
    rw [result_scanComparison_equality, roundComparison]
    cases comparison? c true <;> rfl
  · rw [scanComparison.eq_2, roundComparison.eq_2]
    · cases comparison? c false <;> rfl
    all_goals
      rintro rest rfl
      exact equality ⟨rest, rfl⟩

theorem result_scanQuoted_eq (quote : Char) (cs : List Char) :
    result (scanQuoted quote cs) = roundResult (roundQuoted quote cs) := by
  unfold scanQuoted roundQuoted
  cases left : cs.dropWhile (· ≠ quote) with
  | nil =>
      rw [Rest.next?_eq_none left]
      rfl
  | cons closing rest =>
      obtain ⟨r, next, rfl⟩ := Rest.exists_next?_eq (r := .dropWhile (· ≠ quote) cs) left
      rw [next]
      rfl

theorem result_scan_eq (c : Char) (cs : List Char) :
    result (scan c cs) = roundResult (round c cs) := by
  rw [scan, round]
  split
  · rfl
  split
  · rfl
  split
  · rfl
  split
  · rfl
  split
  · exact result_scanComparison_eq c cs
  split
  · exact result_scanQuoted_eq c cs
  next solid openParen closeParen comma comparison quote =>
    have first := isWordChar_of_other solid openParen closeParen comma comparison quote
    rw [List.dropWhile_cons_of_pos first, List.takeWhile_cons_of_pos first]
    rfl

/-- The rounds end, after at most one for each character, and the tokens that they take are those of
the text. -/
theorem rounds_eq {n : Nat} {cs : List Char} (enough : cs.length ≤ n) (tokens : List Token) :
    rounds n tokens cs = some ((tokenize cs).map (tokens ++ ·)) := by
  induction n generalizing cs tokens with
  | zero =>
      obtain rfl := List.length_eq_zero_iff.1 (Nat.le_zero.1 enough)
      rw [rounds, tokenize]
      simp [Except.map]
  | succ n ih =>
      cases cs with
      | nil =>
          rw [rounds, tokenize]
          simp [Except.map]
      | cons c cs =>
          have shorter := (round_isSuffix c cs).length_le
          rw [rounds, tokenize_cons, result_scan_eq]
          generalize round c cs = made at shorter ⊢
          obtain ⟨e | token, rest⟩ := made
          · rfl
          · have left : rest.length ≤ n := shorter.trans (Nat.le_of_succ_le_succ enough)
            change rounds n (tokens ++ token.toList) rest = _
            rw [ih left]
            change _ = some (((tokenize rest).map (token.toList ++ ·)).map (tokens ++ ·))
            cases tokenize rest <;> simp [Except.map]

/-- A round takes one token at most. -/
theorem length_le_of_rounds {n : Nat} {taken tokens : List Token} {cs : List Char}
    (h : rounds n taken cs = some (.ok tokens)) : tokens.length ≤ taken.length + n := by
  induction n generalizing taken cs with
  | zero =>
      cases cs with
      | nil => cases h; exact le_rfl
      | cons c cs => cases h
  | succ n ih =>
      cases cs with
      | nil => cases h; exact Nat.le_add_right _ _
      | cons c cs =>
          rw [rounds] at h
          split at h
          · cases h
          next token rest _ =>
            have one : token.toList.length ≤ 1 := by cases token <;> simp
            have later := ih h
            rw [List.length_append] at later
            omega

/-- There are no more tokens than characters. -/
theorem length_tokenize_le {cs : List Char} {tokens : List Token} (h : tokenize cs = .ok tokens) :
    tokens.length ≤ cs.length := by
  have ended := rounds_eq (le_refl cs.length) []
  rw [h] at ended
  exact (length_le_of_rounds ended).trans_eq (Nat.zero_add _)

end Declare.Condition.Token
