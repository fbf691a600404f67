import Declare.Proofs.Text.Join

/-!
# The pieces of a text

A piece that is split off, cut off or trimmed is a part of the text that it comes from. It does not
hold the separator at which the text was taken apart: the pieces of `fields` do not hold the
separator character, what is before a cut does not hold the separator, and lines hold no line feed.

The beginning of a text that ends with one of its lines has the lines up to that one, and no others
(`lines_firstLines`).
-/

namespace Declare.Text

variable {separator c : Char} {cs piece line : List Char}

theorem infix_trim (cs : List Char) : trim cs <:+: cs :=
  (List.rdropWhile_prefix isBlank (trimStart cs)).isInfix.trans
    (List.dropWhile_suffix isBlank).isInfix

/-- Only blanks are trimmed away. -/
theorem mem_trim_of_not_blank (mem : c ∈ cs) (solid : isBlank c = false) : c ∈ trim cs := by
  have kept {ds : List Char} (mem : c ∈ ds) : c ∈ ds.dropWhile isBlank := by
    rw [← List.takeWhile_append_dropWhile (p := isBlank) (l := ds)] at mem
    cases List.mem_append.1 mem with
    | inl dropped =>
        have blank := List.mem_takeWhile_imp dropped
        rw [solid] at blank
        cases blank
    | inr kept => exact kept
  exact List.mem_reverse.2 (kept (List.mem_reverse.2 (kept mem)))

theorem infix_intercalate (separator : List Char) {pieces : List (List Char)}
    (mem : piece ∈ pieces) : piece <:+: separator.intercalate pieces := by
  induction pieces with
  | nil => cases mem
  | cons first pieces ih =>
      cases pieces with
      | nil =>
          simp only [List.mem_singleton.1 mem, List.intercalate_singleton, List.infix_refl]
      | cons next pieces =>
          rw [List.intercalate_cons_cons]
          cases List.mem_cons.1 mem with
          | inl here =>
              rw [here, List.append_assoc]
              exact (List.prefix_append _ _).isInfix
          | inr later => exact (ih later).trans (List.suffix_append _ _).isInfix

theorem infix_of_mem_fields (mem : piece ∈ fields separator cs) : piece <:+: cs := by
  have inside := infix_intercalate [separator] mem
  rwa [intercalate_fields] at inside

theorem not_mem_of_mem_fields (mem : piece ∈ fields separator cs) : separator ∉ piece := by
  induction cs generalizing piece with
  | nil =>
      rw [List.mem_singleton.1 mem]
      exact List.not_mem_nil
  | cons c cs ih =>
      obtain ⟨first, rest, found⟩ := List.exists_cons_of_ne_nil (fields_ne_nil separator cs)
      rw [fields] at mem
      by_cases here : c = separator
      · rw [if_pos here] at mem
        cases List.mem_cons.1 mem with
        | inl empty =>
            rw [empty]
            exact List.not_mem_nil
        | inr later => exact ih later
      · rw [if_neg here, found] at mem
        rw [found] at ih
        cases List.mem_cons.1 mem with
        | inl start =>
            rw [start, List.mem_cons, not_or]
            exact ⟨Ne.symm here, ih List.mem_cons_self⟩
        | inr later => exact ih (List.mem_cons_of_mem _ later)

/-- A line is a piece between line feeds. -/
theorem mem_fields_of_mem_lines (mem : line ∈ lines cs) : line ∈ fields '\n' cs := by
  rw [lines] at mem
  split at mem
  · exact List.dropLast_subset _ mem
  · exact mem

theorem not_mem_of_mem_lines (mem : line ∈ lines cs) : '\n' ∉ line :=
  not_mem_of_mem_fields (mem_fields_of_mem_lines mem)

/-- A text is cut at the first separator. -/
theorem cut?_eq_some {separator before after : List Char} (ne : separator ≠ [])
    (h : cut? separator cs = some (before, after)) :
    cs = before ++ separator ++ after ∧ ¬separator <:+: before := by
  induction cs generalizing before with
  | nil =>
      rw [cut?, Option.map_eq_some_iff] at h
      obtain ⟨rest, found, same⟩ := h
      have empty := stripPrefix?_eq_some_iff.1 found
      exact absurd (List.append_eq_nil_iff.1 empty.symm).1 ne
  | cons c cs ih =>
      rw [cut?] at h
      split at h
      · next rest found =>
          obtain ⟨rfl, rfl⟩ := Prod.mk.inj (Option.some.inj h)
          refine ⟨stripPrefix?_eq_some_iff.1 found, ?_⟩
          intro inside
          exact ne (List.infix_nil.1 inside)
      · next absent =>
          rw [Option.map_eq_some_iff] at h
          obtain ⟨⟨before', after'⟩, found, same⟩ := h
          obtain ⟨rfl, rfl⟩ := Prod.mk.inj same
          obtain ⟨rfl, outside⟩ := ih found
          refine ⟨rfl, ?_⟩
          intro inside
          rw [List.infix_cons_iff] at inside
          cases inside with
          | inl start =>
              apply stripPrefix?_eq_none_iff.1 absent
              rw [List.append_assoc, ← List.cons_append]
              exact start.trans (List.prefix_append _ _)
          | inr later => exact outside later

/-- The beginning of a text with that many of its lines, or the whole text if it has no more. -/
def firstLines : Nat → List Char → List Char
  | 0, _ => []
  | _ + 1, [] => []
  | k + 1, c :: cs => c :: firstLines (if c = '\n' then k else k + 1) cs

theorem lines_cons_lineFeed (cs : List Char) : lines ('\n' :: cs) = [] :: lines cs := by
  have ne := fields_ne_nil '\n' cs
  rw [lines, lines, fields, if_pos rfl]
  rw [List.getLast?_cons_of_ne_nil ne, List.dropLast_cons_of_ne_nil ne]
  split <;> rfl

/-- A character that ends no line belongs to the first one. -/
theorem lines_cons {c : Char} (h : c ≠ '\n') (cs : List Char) :
    lines (c :: cs) = (c :: (lines cs).headD []) :: (lines cs).tail := by
  obtain ⟨piece, pieces, found⟩ := List.exists_cons_of_ne_nil (fields_ne_nil '\n' cs)
  rw [lines, lines, fields, if_neg h, found]
  cases pieces with
  | nil => cases piece <;> rfl
  | cons next pieces =>
      rw [List.modifyHead_cons, List.getLast?_cons_cons, List.getLast?_cons_cons,
        List.dropLast_cons_cons, List.dropLast_cons_cons]
      split <;> rfl

/-- The beginning of a text has the first lines of the text. -/
theorem lines_firstLines (k : Nat) (cs : List Char) :
    lines (firstLines k cs) = (lines cs).take k := by
  induction cs generalizing k with
  | nil => cases k <;> rfl
  | cons c cs ih =>
      cases k with
      | zero => rfl
      | succ k =>
          rw [firstLines]
          by_cases ends : c = '\n'
          · rw [if_pos ends, ends, lines_cons_lineFeed, lines_cons_lineFeed, ih,
              List.take_succ_cons]
          · rw [if_neg ends, lines_cons ends, lines_cons ends, ih, List.take_succ_cons]
            cases lines cs <;> simp

end Declare.Text
