import Declare.Condition.Token

/-!
# Texts of tokens

A list of tokens can be laid out as a text in many ways: blanks may stand before, between and after
the tokens, a quoted text may stand in quotes of either kind that it does not hold, and only where a
token would run into the next one a blank has to separate them (`Token.Layout`). Every layout has
the tokens that were laid out (`Token.tokenize_of_layout`), and all tokens that can be written at
all have a layout (`Token.exists_layout`).
-/

namespace Declare.Condition.Token

/-- A text that is a single word: not empty, without blanks and characters of other tokens. -/
def IsWord (w : String) : Prop :=
  w.toList ≠ [] ∧ ∀ c ∈ w.toList, isWordChar c = true

instance (w : String) : Decidable (IsWord w) :=
  -- the characters of the word are tried, and not all that there are
  @instDecidableAnd _ _ _ (List.decidableBAll _ _)

/-- The characters that a token is written with. -/
inductive Shows : Token → List Char → Prop
  | openParen : Shows openParen ['(']
  | closeParen : Shows closeParen [')']
  | comma : Shows comma [',']
  | comparison (c : Comparison) : Shows (comparison c) c.symbol.toList
  | word {w : String} (h : IsWord w) : Shows (word w) w.toList
  | quoted {s : String} {quote : Char} (h : quote ∈ ['"', '\'']) (free : quote ∉ s.toList) :
      Shows (quoted s) (quote :: (s.toList ++ [quote]))

/-- Whether a character that follows the token directly is read as a part of it. -/
def absorbs : Token → Char → Bool
  | word _, c => isWordChar c
  | comparison _, c => c = '='
  | _, _ => false

/-- The texts that show a list of tokens one after the other, with blanks around them. -/
inductive Layout : List Token → List Char → Prop
  | nil : Layout [] []
  | blank {tokens : List Token} {b : Char} {cs : List Char} (h : Text.isBlank b = true)
      (rest : Layout tokens cs) : Layout tokens (b :: cs)
  | token {t : Token} {tokens : List Token} {shown cs : List Char} (shows : Shows t shown)
      (apart : cs.head?.any t.absorbs = false) (rest : Layout tokens cs) :
      Layout (t :: tokens) (shown ++ cs)

/-- Reading `c` off the front of a text gives `token` and leaves `rest`. -/
def Scans (c : Char) (cs : List Char) (token : Option Token) (rest : List Char) : Prop :=
  ∃ r, scan c cs = .ok (token, r) ∧ r.list = rest

theorem Scans.tokenize {c : Char} {cs rest : List Char} {token : Option Token}
    (h : Scans c cs token rest) {tokens : List Token} (more : tokenize rest = .ok tokens) :
    tokenize (c :: cs) = .ok (token.toList ++ tokens) := by
  obtain ⟨r, scanned, rfl⟩ := h
  rw [Token.tokenize, scanned]
  simp only [more]

theorem scans_blank {b : Char} (h : Text.isBlank b = true) (cs : List Char) :
    Scans b cs none cs :=
  ⟨.all cs, by rw [scan, if_pos h], rfl⟩

theorem scans_openParen (cs : List Char) : Scans '(' cs (some openParen) cs :=
  ⟨.all cs, rfl, rfl⟩

theorem scans_closeParen (cs : List Char) : Scans ')' cs (some closeParen) cs :=
  ⟨.all cs, rfl, rfl⟩

theorem scans_comma (cs : List Char) : Scans ',' cs (some comma) cs :=
  ⟨.all cs, rfl, rfl⟩

theorem scan_eq_scanComparison {c : Char} (h : c ∈ ['<', '>', '=', '!']) (cs : List Char) :
    scan c cs = scanComparison c cs := by
  simp only [List.mem_cons, List.not_mem_nil, or_false] at h
  rcases h with rfl | rfl | rfl | rfl <;> rfl

/-- After a comparison, only an equality sign is read as a part of it. -/
theorem scans_comparison {c : Char} {cs : List Char} (apart : cs.head?.any (· = '=') = false)
    (first : c ∈ ['<', '>', '=', '!']) {op : Comparison} (h : comparison? c false = some op) :
    Scans c cs (some (comparison op)) cs := by
  rw [Scans, scan_eq_scanComparison first]
  cases cs with
  | nil => exact ⟨.all [], by rw [scanComparison, h]; simp, rfl⟩
  | cons x cs =>
      have other : x ≠ '=' := of_decide_eq_false apart
      refine ⟨.all (x :: cs), ?_, rfl⟩
      rw [scanComparison]
      · rw [h]
      · rintro rest ⟨⟩
        exact other rfl

theorem tokenize_comparison (op : Comparison) {cs : List Char}
    (apart : cs.head?.any (· = '=') = false) {tokens : List Token}
    (more : tokenize cs = .ok tokens) :
    tokenize (op.symbol.toList ++ cs) = .ok (comparison op :: tokens) := by
  have withEquality (c : Char) (h : Scans c ('=' :: cs) (some (comparison op)) cs) :
      tokenize (c :: '=' :: cs) = .ok (comparison op :: tokens) := h.tokenize more
  cases op with
  | lt => exact (scans_comparison apart (by decide) rfl).tokenize more
  | gt => exact (scans_comparison apart (by decide) rfl).tokenize more
  | eq => exact (scans_comparison apart (by decide) rfl).tokenize more
  | le => exact withEquality '<' ⟨(Rest.all cs).cons, rfl, rfl⟩
  | ge => exact withEquality '>' ⟨(Rest.all cs).cons, rfl, rfl⟩
  | ne => exact withEquality '!' ⟨(Rest.all cs).cons, rfl, rfl⟩

theorem scan_eq_word {c : Char} (h : isWordChar c = true) (cs : List Char) :
    scan c cs =
      .ok (some (word (.ofList (c :: cs.takeWhile isWordChar))), .dropWhile isWordChar cs) := by
  simp only [isWordChar, Bool.and_eq_true, Bool.not_eq_true', decide_eq_true_eq] at h
  obtain ⟨solid, other⟩ := h
  simp only [special, List.mem_cons, List.not_mem_nil, or_false, not_or] at other
  simp [scan, solid, other]

/-- A word ends where a character follows that cannot stand in words. -/
theorem tokenize_word {w : String} (h : IsWord w) {cs : List Char}
    (apart : cs.head?.any isWordChar = false) {tokens : List Token}
    (more : tokenize cs = .ok tokens) :
    tokenize (w.toList ++ cs) = .ok (word w :: tokens) := by
  obtain ⟨ne, chars⟩ := h
  obtain ⟨first, ws, spelled⟩ := List.exists_cons_of_ne_nil ne
  rw [spelled] at chars
  rw [spelled, List.cons_append]
  have inner : ∀ c ∈ ws, isWordChar c = true := fun c mem => chars c (List.mem_cons_of_mem _ mem)
  have stop : cs.takeWhile isWordChar = [] ∧ cs.dropWhile isWordChar = cs := by
    cases cs with
    | nil => exact ⟨rfl, rfl⟩
    | cons c cs =>
        have : isWordChar c = false := apart
        simp [this]
  have scans : Scans first (ws ++ cs) (some (word w)) cs := by
    refine ⟨.dropWhile isWordChar (ws ++ cs), ?_, ?_⟩
    · rw [scan_eq_word (chars first List.mem_cons_self), List.takeWhile_append_of_pos inner,
        stop.1, List.append_nil, ← spelled, String.ofList_toList]
    · exact (List.dropWhile_append_of_pos inner).trans stop.2
  exact scans.tokenize more

/-- A quoted text ends at the first quote of the kind that it starts with. -/
theorem scans_quoted {quote : Char} (h : quote ∈ ['"', '\'']) {inner : List Char}
    (free : quote ∉ inner) (cs : List Char) :
    Scans quote (inner ++ quote :: cs) (some (quoted (.ofList inner))) cs := by
  have other : ∀ c ∈ inner, decide (c ≠ quote) = true := by
    intro c mem
    simpa using fun same : c = quote => free (same ▸ mem)
  have taken : (inner ++ quote :: cs).takeWhile (· ≠ quote) = inner := by
    rw [List.takeWhile_append_of_pos other]
    simp
  have left : (inner ++ quote :: cs).dropWhile (· ≠ quote) = quote :: cs := by
    rw [List.dropWhile_append_of_pos other]
    simp
  have scanned : scan quote (inner ++ quote :: cs) = scanQuoted quote (inner ++ quote :: cs) := by
    simp only [List.mem_cons, List.not_mem_nil, or_false] at h
    rcases h with rfl | rfl <;> rfl
  obtain ⟨r, next, rest⟩ := Rest.exists_next?_eq (r := .dropWhile (· ≠ quote) _) left
  exact ⟨r, by rw [scanned, scanQuoted, next, taken], rest⟩

theorem tokenize_quoted {s : String} {quote : Char} (h : quote ∈ ['"', '\''])
    (free : quote ∉ s.toList) {cs : List Char} {tokens : List Token}
    (more : tokenize cs = .ok tokens) :
    tokenize (quote :: (s.toList ++ [quote]) ++ cs) = .ok (quoted s :: tokens) := by
  have scans := scans_quoted h free cs
  rw [String.ofList_toList] at scans
  rw [List.cons_append, List.append_assoc, List.singleton_append]
  exact scans.tokenize more

/-- A text has the tokens that it shows. -/
theorem tokenize_of_layout {tokens : List Token} {cs : List Char} (h : Layout tokens cs) :
    tokenize cs = .ok tokens := by
  induction h with
  | nil => rw [tokenize]
  | @blank tokens b cs blank rest ih => exact (scans_blank blank cs).tokenize ih
  | @token t tokens shown cs shows apart rest ih =>
      cases shows with
      | openParen => exact (scans_openParen cs).tokenize ih
      | closeParen => exact (scans_closeParen cs).tokenize ih
      | comma => exact (scans_comma cs).tokenize ih
      | comparison op => exact tokenize_comparison op apart ih
      | word w => exact tokenize_word w apart ih
      | quoted quote free => exact tokenize_quoted quote free ih

/-- The tokens of a text at hand are found by computing them. -/
theorem tokenize_eq_ok {cs : List Char} {tokens : List Token}
    (h : (tokenize cs).toOption = some tokens) : tokenize cs = .ok tokens := by
  cases read : tokenize cs with
  | error e =>
      rw [read] at h
      cases h
  | ok found =>
      rw [read] at h
      exact congrArg Except.ok (Option.some.inj h)

theorem absorbs_blank (t : Token) {b : Char} (h : Text.isBlank b = true) :
    t.absorbs b = false := by
  cases t with
  | word w => simp [absorbs, isWordChar, h]
  | comparison c =>
      have : b ≠ '=' := by
        rintro rfl
        exact absurd h (by decide)
      simpa [absorbs] using this
  | _ => rfl

/-- A blank after each token keeps all tokens apart. -/
theorem exists_layout {tokens : List Token} (h : ∀ t ∈ tokens, ∃ shown, Shows t shown) :
    ∃ cs, Layout tokens cs := by
  induction tokens with
  | nil => exact ⟨[], .nil⟩
  | cons t tokens ih =>
      obtain ⟨shown, shows⟩ := h t List.mem_cons_self
      obtain ⟨cs, layout⟩ := ih fun t mem => h t (List.mem_cons_of_mem _ mem)
      have blank : Text.isBlank ' ' = true := by decide
      exact ⟨shown ++ ' ' :: cs, .token shows (absorbs_blank t blank) (.blank blank layout)⟩

end Declare.Condition.Token
