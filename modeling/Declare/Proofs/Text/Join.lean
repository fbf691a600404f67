import Declare.Text.Split
import Mathlib.Data.List.DropRight

/-!
# Taking joined texts apart

Texts that were joined with a separator are found again by splitting, if none of them holds the
separator. Blanks that joining puts between them are trimmed away. A text that neither starts nor
ends with a blank, and is not empty, is solid at both ends; trimming a joined text only looks at the
ends of the first and the last piece.
-/

namespace Declare.Text

/-- What holds of the characters of a closed text is decided on that text. -/
theorem forall_mem_of_all {p : Char → Prop} [DecidablePred p] {cs : List Char}
    (h : cs.all (fun c => decide (p c)) = true) : ∀ c ∈ cs, p c := by
  simpa using h

/-- What holds of the ten digits holds of all digits. -/
theorem of_isDigit {p : Char → Prop} (h : ∀ n < 58, 48 ≤ n → p (Char.ofNat n)) {c : Char}
    (digit : c.isDigit) : p c := by
  obtain ⟨low, high⟩ := Char.isDigit_iff_toNat.1 digit
  rw [← Char.ofNat_toNat c]
  exact h _ (Nat.lt_succ_of_le high) low

theorem fields_of_not_mem {separator : Char} {cs : List Char} (h : separator ∉ cs) :
    fields separator cs = [cs] := by
  induction cs with
  | nil => rfl
  | cons c cs ih =>
      rw [List.mem_cons, not_or] at h
      rw [fields, if_neg (Ne.symm h.1), ih h.2]
      rfl

theorem fields_append_cons {separator : Char} {cs : List Char} (h : separator ∉ cs)
    (rest : List Char) :
    fields separator (cs ++ separator :: rest) = cs :: fields separator rest := by
  induction cs with
  | nil => simp [fields]
  | cons c cs ih =>
      rw [List.mem_cons, not_or] at h
      rw [List.cons_append, fields, if_neg (Ne.symm h.1), ih h.2]
      rfl

/-- Pieces without the separator are found again in the text that joins them. -/
theorem fields_intercalate {separator : Char} {pieces : List (List Char)} (ne : pieces ≠ [])
    (h : ∀ piece ∈ pieces, separator ∉ piece) :
    fields separator ([separator].intercalate pieces) = pieces := by
  induction pieces with
  | nil => exact absurd rfl ne
  | cons piece pieces ih =>
      cases pieces with
      | nil => simpa using fields_of_not_mem (h piece List.mem_cons_self)
      | cons next pieces =>
          have rest := ih (List.cons_ne_nil _ _) fun p mem => h p (List.mem_cons_of_mem _ mem)
          rw [List.intercalate_cons_cons, List.append_assoc, List.singleton_append,
            fields_append_cons (h piece List.mem_cons_self), rest]

/-- The lines of a text that joins lines which are not empty. -/
theorem lines_intercalate {ls : List (List Char)} (ne : ∀ l ∈ ls, l ≠ [])
    (h : ∀ l ∈ ls, '\n' ∉ l) : lines (['\n'].intercalate ls) = ls := by
  cases ls with
  | nil => rfl
  | cons l ls =>
      have last : (l :: ls).getLast? ≠ some [] := by
        intro mem
        exact ne [] (List.mem_of_getLast? mem) rfl
      rw [lines, fields_intercalate (List.cons_ne_nil _ _) h]
      exact if_neg last

theorem not_mem_intercalate {c : Char} {separator : List Char} {pieces : List (List Char)}
    (outside : c ∉ separator) (h : ∀ piece ∈ pieces, c ∉ piece) :
    c ∉ separator.intercalate pieces := by
  induction pieces with
  | nil => exact List.not_mem_nil
  | cons piece pieces ih =>
      obtain ⟨here, rest⟩ := List.forall_mem_cons.1 h
      cases pieces with
      | nil => simpa using here
      | cons next pieces =>
          rw [List.intercalate_cons_cons, List.mem_append, List.mem_append]
          exact not_or.2 ⟨not_or.2 ⟨here, outside⟩, ih rest⟩

theorem stripPrefix?_append (beginning rest : List Char) :
    stripPrefix? beginning (beginning ++ rest) = some rest :=
  stripPrefix?_eq_some_iff.2 rfl

theorem stripPrefix?_eq_none_iff {beginning cs : List Char} :
    stripPrefix? beginning cs = none ↔ ¬beginning <+: cs := by
  rw [← Option.not_isSome_iff_eq_none, not_congr]
  simp only [Option.isSome_iff_exists, stripPrefix?_eq_some_iff]
  exact ⟨fun ⟨rest, h⟩ => ⟨rest, h.symm⟩, fun ⟨rest, h⟩ => ⟨rest, h.symm⟩⟩

theorem cut?_append_of_not_mem {first : Char} {cs : List Char} (h : first ∉ cs)
    (others rest : List Char) :
    cut? (first :: others) (cs ++ first :: (others ++ rest)) = some (cs, rest) := by
  induction cs with
  | nil =>
      have found : stripPrefix? (first :: others) (first :: (others ++ rest)) = some rest :=
        stripPrefix?_append (first :: others) rest
      rw [List.nil_append, cut?, found]
  | cons c cs ih =>
      rw [List.mem_cons, not_or] at h
      rw [List.cons_append, cut?, stripPrefix?, if_neg h.1, ih h.2]
      rfl

/-- A text is cut at a separator of two different characters that it does not hold before. -/
theorem cut?_append_pair {x y : Char} (different : x ≠ y) {cs : List Char}
    (h : ¬[x, y] <:+: cs) (rest : List Char) :
    cut? [x, y] (cs ++ x :: y :: rest) = some (cs, rest) := by
  induction cs with
  | nil =>
      have found : stripPrefix? [x, y] (x :: y :: rest) = some rest :=
        stripPrefix?_append [x, y] rest
      rw [List.nil_append, cut?, found]
  | cons c cs ih =>
      have later : ¬[x, y] <:+: cs := by
        intro inside
        exact h (inside.trans (List.infix_cons (List.infix_refl _)))
      have here : stripPrefix? [x, y] (c :: (cs ++ x :: y :: rest)) = none := by
        rw [stripPrefix?_eq_none_iff]
        rintro ⟨_, eq⟩
        cases cs with
        | nil => simp_all
        | cons d cs =>
            obtain ⟨rfl, rfl⟩ : x = c ∧ y = d := by simp_all
            exact h ⟨[], cs, rfl⟩
      rw [List.cons_append, cut?, here, ih later]
      rfl

/-- A beginning without a certain character does not reach beyond it. -/
theorem prefix_of_prefix_append_cons {beginning cs rest : List Char} {c : Char}
    (h : c ∉ beginning) (hp : beginning <+: cs ++ c :: rest) : beginning <+: cs := by
  obtain ⟨t, ht⟩ := hp
  rcases List.append_eq_append_iff.1 ht with ⟨r, rfl, -⟩ | ⟨r, rfl, hr⟩
  · exact List.prefix_append _ _
  · cases r with
    | nil => simp
    | cons d r =>
        obtain ⟨rfl, -⟩ := List.cons.inj hr
        simp at h

/-- The text starts with a character that is not a blank. -/
def StartsSolid (cs : List Char) : Prop :=
  ∃ c ∈ cs.head?, isBlank c = false

/-- The text ends with a character that is not a blank. -/
def EndsSolid (cs : List Char) : Prop :=
  ∃ c ∈ cs.getLast?, isBlank c = false

theorem startsSolid_cons {c : Char} (h : isBlank c = false) (cs : List Char) :
    StartsSolid (c :: cs) :=
  ⟨c, rfl, h⟩

theorem StartsSolid.append {cs : List Char} (h : StartsSolid cs) (rest : List Char) :
    StartsSolid (cs ++ rest) := by
  obtain ⟨c, hc, solid⟩ := h
  exact ⟨c, by simp [List.head?_append, Option.mem_def.1 hc], solid⟩

theorem EndsSolid.append {cs : List Char} (h : EndsSolid cs) (before : List Char) :
    EndsSolid (before ++ cs) := by
  obtain ⟨c, hc, solid⟩ := h
  exact ⟨c, by simp [List.getLast?_append, Option.mem_def.1 hc], solid⟩

theorem trimStart_of_startsSolid {cs : List Char} (h : StartsSolid cs) : trimStart cs = cs := by
  apply trimStart_eq_self
  rintro c r rfl
  obtain ⟨d, hd, solid⟩ := h
  cases hd
  exact solid

theorem trimEnd_of_endsSolid {cs : List Char} (h : EndsSolid cs) : trimEnd cs = cs := by
  apply trimEnd_eq_self
  rintro r c rfl
  obtain ⟨d, hd, solid⟩ := h
  rw [List.getLast?_concat] at hd
  cases hd
  exact solid

theorem trim_of_solid {cs : List Char} (starts : StartsSolid cs) (ends : EndsSolid cs) :
    trim cs = cs := by
  rw [trim, trimStart_of_startsSolid starts, trimEnd_of_endsSolid ends]

private theorem length_trimEnd_le (cs : List Char) : (trimEnd cs).length ≤ cs.length :=
  (List.rdropWhile_prefix isBlank cs).length_le

/-- A trimmed text starts with a character that is not a blank, unless it is empty. -/
theorem startsSolid_of_trim {cs : List Char} (h : trim cs = cs) (ne : cs ≠ []) :
    StartsSolid cs := by
  cases cs with
  | nil => exact absurd rfl ne
  | cons c cs =>
      cases blank : isBlank c with
      | false => exact startsSolid_cons blank cs
      | true =>
          have shorter := length_trimEnd_le (trimStart cs)
          have shorter' := (List.dropWhile_sublist isBlank (l := cs)).length_le
          have same := congrArg List.length h
          simp only [trim, trimStart, List.dropWhile_cons, blank, ↓reduceIte,
            List.length_cons] at shorter same
          omega

theorem endsSolid_of_trim {cs : List Char} (h : trim cs = cs) (ne : cs ≠ []) : EndsSolid cs := by
  obtain ⟨r, c, rfl⟩ := (List.eq_nil_or_concat cs).resolve_left ne
  rw [List.concat_eq_append] at h ne ⊢
  cases blank : isBlank c with
  | false => exact ⟨c, by simp, blank⟩
  | true =>
      have starts := startsSolid_of_trim h ne
      have shorter := (List.dropWhile_sublist isBlank (l := r.reverse)).length_le
      have same := congrArg List.length h
      rw [trim, trimStart_of_startsSolid starts, trimEnd, List.reverse_concat,
        List.dropWhile_cons_of_pos blank] at same
      simp only [List.length_reverse, List.length_append, List.length_singleton] at same shorter
      omega

theorem trimEnd_append {cs rest : List Char} (h : trimEnd rest ≠ []) :
    trimEnd (cs ++ rest) = cs ++ trimEnd rest := by
  have ne : ((rest.reverse.dropWhile isBlank).isEmpty) = false := by
    simpa [trimEnd] using h
  simp [trimEnd, List.dropWhile_append, ne]

theorem trim_cons_blank {c : Char} (h : isBlank c) (cs : List Char) : trim (c :: cs) = trim cs := by
  rw [trim, trimStart, List.dropWhile_cons_of_pos h]
  rfl

theorem trimEnd_concat_blank {c : Char} (h : isBlank c) (cs : List Char) :
    trimEnd (cs ++ [c]) = trimEnd cs :=
  List.rdropWhile_concat_pos isBlank cs c h

theorem trimEnd_cons_of_solid {c : Char} (h : isBlank c = false) (cs : List Char) :
    trimEnd (c :: cs) = c :: trimEnd cs := by
  by_cases empty : trimEnd cs = []
  · have blank : cs.reverse.dropWhile isBlank = [] := by simpa [trimEnd] using empty
    simp [trimEnd, List.dropWhile_append, blank, h]
  · exact @trimEnd_append [c] cs empty

theorem trimEnd_cons_eq_nil {c : Char} (h : isBlank c) {cs : List Char} (empty : trimEnd cs = []) :
    trimEnd (c :: cs) = [] := by
  have blank : cs.reverse.dropWhile isBlank = [] := by simpa [trimEnd] using empty
  simp [trimEnd, List.dropWhile_append, blank, h]

theorem trimStart_trimEnd (cs : List Char) : trimStart (trimEnd cs) = trimEnd (trimStart cs) := by
  induction cs with
  | nil => rfl
  | cons c cs ih =>
      cases blank : isBlank c with
      | false =>
          rw [trimEnd_cons_of_solid blank, trimStart_of_startsSolid (startsSolid_cons blank _),
            trimStart_of_startsSolid (startsSolid_cons blank _), trimEnd_cons_of_solid blank]
      | true =>
          have dropped : trimStart (c :: cs) = trimStart cs := List.dropWhile_cons_of_pos blank
          rw [dropped, ← ih]
          by_cases empty : trimEnd cs = []
          · rw [trimEnd_cons_eq_nil blank empty, empty]
          · rw [show trimEnd (c :: cs) = c :: trimEnd cs from @trimEnd_append [c] cs empty]
            exact List.dropWhile_cons_of_pos blank

/-- Trimming the end first makes no difference. -/
theorem trim_trimEnd (cs : List Char) : trim (trimEnd cs) = trim cs := by
  rw [trim, trim, trimStart_trimEnd]
  exact List.rdropWhile_idempotent isBlank _

theorem trim_trimStart (cs : List Char) : trim (trimStart cs) = trim cs := by
  rw [trim, trim, trimStart, trimStart, List.dropWhile_idempotent]

/-- There are no blanks left to trim. -/
@[simp] theorem trim_trim (cs : List Char) : trim (trim cs) = trim cs := by
  conv_lhs => rw [show trim cs = trimEnd (trimStart cs) from rfl]
  rw [trim_trimEnd, trim_trimStart]

theorem trim_concat_blank {c : Char} (h : isBlank c) (cs : List Char) :
    trim (cs ++ [c]) = trim cs := by
  rw [← trim_trimEnd, trimEnd_concat_blank h, trim_trimEnd]

private theorem map_trim_fields_cons_blank {separator c : Char} (h : isBlank c)
    (different : c ≠ separator) (cs : List Char) :
    (fields separator (c :: cs)).map trim = (fields separator cs).map trim := by
  obtain ⟨piece, rest, found⟩ := List.exists_cons_of_ne_nil (fields_ne_nil separator cs)
  rw [fields, if_neg different, found]
  simp [trim_cons_blank h]

/-- Trimmed pieces are found again in a list that puts a blank after each separator. -/
theorem map_trim_fields_intercalate {separator : Char} (different : ' ' ≠ separator)
    {pieces : List (List Char)} (ne : pieces ≠ []) (h : ∀ piece ∈ pieces, separator ∉ piece)
    (trimmed : ∀ piece ∈ pieces, trim piece = piece) :
    (fields separator ([separator, ' '].intercalate pieces)).map trim = pieces := by
  induction pieces with
  | nil => exact absurd rfl ne
  | cons piece pieces ih =>
      have here := h piece List.mem_cons_self
      have same := trimmed piece List.mem_cons_self
      cases pieces with
      | nil => simp [fields_of_not_mem here, same]
      | cons next pieces =>
          have rest := ih (List.cons_ne_nil _ _) (fun p mem => h p (List.mem_cons_of_mem _ mem))
            fun p mem => trimmed p (List.mem_cons_of_mem _ mem)
          rw [List.intercalate_cons_cons, List.append_assoc, List.cons_append,
            List.singleton_append, fields_append_cons here, List.map_cons, same,
            map_trim_fields_cons_blank (by decide) different, rest]

end Declare.Text
