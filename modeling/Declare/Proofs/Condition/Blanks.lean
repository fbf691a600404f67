import Declare.Condition.Reader
import Declare.Proofs.Condition.Layout
import Declare.Proofs.Text.Join

/-!
# Blanks around conditions

A constraint keeps its conditions without the blanks around them. That is the same condition: blanks
before the first token and after the last one are no part of any token (`Token.tokenize_trim`), so a
condition reads the same with and without them, and so does a time window.
-/

namespace Declare

namespace Condition.Token

/-- The token that was read, unless it is a blank, and the text that is left. -/
def result {cs : List Char} (r : Except Malformed (Scanned cs)) :
    Except Malformed (Option Token × List Char) :=
  r.map fun (token, rest) => (token, rest.list)

theorem Scans.result_eq {c : Char} {cs rest : List Char} {token : Option Token}
    (h : Scans c cs token rest) : result (scan c cs) = .ok (token, rest) := by
  obtain ⟨r, read, rfl⟩ := h
  rw [read]
  rfl

theorem tokenize_cons (c : Char) (cs : List Char) :
    tokenize (c :: cs) =
      (result (scan c cs)).bind fun (token, rest) => (tokenize rest).map (token.toList ++ ·) := by
  rw [tokenize]
  cases scan c cs with
  | error e => rfl
  | ok read =>
      simp only [result, Except.map, Except.bind]
      cases tokenize read.2.list <;> rfl

theorem scanQuoted_eq_error {quote : Char} {cs : List Char} (h : quote ∉ cs) :
    scanQuoted quote cs = .error .unterminatedQuote := by
  have left : cs.dropWhile (· ≠ quote) = [] := by
    rw [List.dropWhile_eq_nil_iff]
    intro c mem
    simpa using fun same : c = quote => h (same ▸ mem)
  rw [scanQuoted, Rest.next?_eq_none left]

/-- Only an equality sign is read as a part of a comparison. -/
theorem result_scanComparison {c : Char} {cs : List Char}
    (apart : cs.head?.any (· = '=') = false) :
    result (scanComparison c cs) =
      match comparison? c false with
      | some op => .ok (some (comparison op), cs)
      | none => .error (.unknownComparison (.ofList [c])) := by
  rw [scanComparison]
  · cases comparison? c false <;> rfl
  · rintro rest rfl
    cases apart

theorem result_scanComparison_equality (c : Char) (cs : List Char) :
    result (scanComparison c ('=' :: cs)) =
      match comparison? c true with
      | some op => .ok (some (comparison op), cs)
      | none => .error (.unknownComparison (.ofList [c, '='])) := by
  rw [scanComparison]
  cases comparison? c true <;> rfl

/-- A character that ends a run of others stays behind it. -/
theorem takeWhile_dropWhile_concat {p : Char → Bool} {b : Char} (h : p b = false)
    (cs : List Char) :
    (cs ++ [b]).takeWhile p = cs.takeWhile p ∧ (cs ++ [b]).dropWhile p = cs.dropWhile p ++ [b] := by
  induction cs with
  | nil => simp [h]
  | cons c cs ih => cases hc : p c <;> simp [hc, ih]

section

variable {b : Char} (blank : Text.isBlank b = true)
include blank

theorem tokenize_cons_blank (cs : List Char) : tokenize (b :: cs) = tokenize cs := by
  rw [tokenize_cons, (scans_blank blank cs).result_eq]
  cases h : tokenize cs <;> simp [Except.bind, Except.map, h]

theorem result_scanComparison_concat (c : Char) (cs : List Char) :
    result (scanComparison c (cs ++ [b])) =
      (result (scanComparison c cs)).map fun (token, rest) => (token, rest ++ [b]) := by
  cases cs with
  | nil =>
      have other : b ≠ '=' := by
        rintro rfl
        exact absurd blank (by decide)
      rw [result_scanComparison (by simpa using other), result_scanComparison rfl]
      cases comparison? c false <;> rfl
  | cons x cs =>
      by_cases equality : x = '='
      · subst equality
        refine (result_scanComparison_equality c (cs ++ [b])).trans ?_
        rw [result_scanComparison_equality]
        cases comparison? c true <;> rfl
      · rw [result_scanComparison (by simpa using equality),
          result_scanComparison (by simpa using equality)]
        cases comparison? c false <;> rfl

theorem result_scan_quote_concat {c : Char} (quote : c ∈ ['"', '\'']) (cs : List Char) :
    result (scan c (cs ++ [b])) =
      (result (scan c cs)).map fun (token, rest) => (token, rest ++ [b]) := by
  by_cases closed : c ∈ cs
  · obtain ⟨inner, rest, rfl, free⟩ := List.eq_append_cons_of_mem closed
    rw [List.append_assoc, List.cons_append, (scans_quoted quote free _).result_eq,
      (scans_quoted quote free _).result_eq]
    rfl
  · simp only [List.mem_cons, List.not_mem_nil, or_false] at quote
    have quoted (cs : List Char) : scan c cs = scanQuoted c cs := by
      rcases quote with rfl | rfl <;> rfl
    have other : c ≠ b := by
      rintro rfl
      rcases quote with rfl | rfl <;> exact absurd blank (by decide)
    have unclosed : c ∉ cs ++ [b] := by simpa using ⟨closed, other⟩
    rw [quoted, quoted, scanQuoted_eq_error closed, scanQuoted_eq_error unclosed]
    rfl

/-- A blank at the end of a text is left over by every token. -/
theorem result_scan_concat (c : Char) (cs : List Char) :
    result (scan c (cs ++ [b])) =
      (result (scan c cs)).map fun (token, rest) => (token, rest ++ [b]) := by
  by_cases quote : c ∈ ['"', '\'']
  · exact result_scan_quote_concat blank quote cs
  · have apart : isWordChar b = false := by simp [isWordChar, blank]
    obtain ⟨taken, left⟩ := takeWhile_dropWhile_concat apart cs
    -- blanks and marks are single characters, so only comparisons and words look at the rest
    rw [scan, scan]
    split
    · rfl
    split
    · rfl
    split
    · rfl
    split
    · rfl
    split
    · exact result_scanComparison_concat blank c cs
    · simp only [result, Except.map, Rest.dropWhile, taken, left]

theorem tokenize_concat_blank (cs : List Char) : tokenize (cs ++ [b]) = tokenize cs := by
  -- along the tokens: none, a malformed one, one before a malformed text, one before others
  induction cs using tokenize.induct with
  | case1 => exact tokenize_cons_blank blank []
  | case2 c cs e scans =>
      rw [List.cons_append, tokenize_cons, tokenize_cons, result_scan_concat blank, scans]
      rfl
  | case3 c cs token rest scans e failed ih =>
      rw [List.cons_append, tokenize_cons, tokenize_cons, result_scan_concat blank, scans]
      simp only [result, Except.map, Except.bind, ih]
  | case4 c cs token rest scans tokens more ih =>
      rw [List.cons_append, tokenize_cons, tokenize_cons, result_scan_concat blank, scans]
      simp only [result, Except.map, Except.bind, ih]

end

theorem tokenize_trimStart (cs : List Char) : tokenize (Text.trimStart cs) = tokenize cs := by
  induction cs with
  | nil => rfl
  | cons c cs ih =>
      cases blank : Text.isBlank c with
      | false => rw [Text.trimStart_of_startsSolid (Text.startsSolid_cons blank cs)]
      | true =>
          rw [tokenize_cons_blank blank, ← ih]
          exact congrArg tokenize (List.dropWhile_cons_of_pos blank)

theorem tokenize_trimEnd (cs : List Char) : tokenize (Text.trimEnd cs) = tokenize cs := by
  induction cs using List.reverseRecOn with
  | nil => rfl
  | append_singleton cs c ih =>
      cases blank : Text.isBlank c with
      | false => rw [Text.trimEnd_of_endsSolid ⟨c, by simp, blank⟩]
      | true => rw [Text.trimEnd_concat_blank blank, ih, tokenize_concat_blank blank]

/-- The blanks around a text are no part of its tokens. -/
theorem tokenize_trim (cs : List Char) : tokenize (Text.trim cs) = tokenize cs := by
  rw [Text.trim, tokenize_trimEnd, tokenize_trimStart]

end Condition.Token

/-- Without the blanks around it, a text spells the same condition. -/
theorem Condition.read_trimmed (role : Role) (catalog : Catalog) (text : String) :
    read role catalog (Text.trimmed text) =
      (read role catalog text).mapError fun e => { e with text := Text.trimmed text } := by
  rw [read, read, Text.toList_trimmed, Token.tokenize_trim]
  cases (Token.tokenize text.toList).mapError ConditionProblem.malformed with
  | error e => rfl
  | ok tokens =>
      simp only [bind, Except.bind]
      cases ofTokens ⟨role, catalog⟩ tokens <;> rfl

/-- Without the blanks around it, a text spells the same window. -/
theorem Window.read_trimmed (text : String) : read (Text.trimmed text) = read text := by
  rw [read, read, Text.toList_trimmed, Text.trim_trim]

end Declare
