import Declare.Proofs.Model.Lines
import Declare.Proofs.Model.RoundTrip

/-!
# What lines can hold

Whatever a line asks for is such that a line can hold it (`Model.Change.Legible`): names are trimmed
and not empty, and no text holds a separator of its place or a line feed. Changes of this kind keep
a model legible, so every model that was read is. What is not guaranteed is how the attributes with
domains begin: a line may give a domain to several attributes, and only the first of them stands at
its beginning.
-/

namespace Declare

open Text

namespace Domain

/-- Characters that the text of a domain can have on its own account. -/
def ordinaryChars : List Char :=
  Decimal.writtenChars ++ ['t', 'g', 'r', 'b', 'w', 'l', 'o', 'd', ',', ' ']

private theorem ordinary_of_written {cs : List Char} (h : Decimal.IsWritten cs) :
    cs ⊆ ordinaryChars :=
  fun _ mem => List.mem_append_left _ (h _ mem)

private theorem text_subset_of_isNumeric {d : Domain} (numeric : d.isNumeric) :
    d.text.toList ⊆ ordinaryChars := by
  have integerBetween : "integer between ".toList ⊆ ordinaryChars := by decide
  have floatBetween : "float between ".toList ⊆ ordinaryChars := by decide
  have and : " and ".toList ⊆ ordinaryChars := by decide
  have whole (i : Int) : (toString i).toList ⊆ ordinaryChars :=
    ordinary_of_written (Decimal.isWritten_toString i)
  have number (x : Float) : (Decimal.Layout.pointed.write x).toList ⊆ ordinaryChars :=
    ordinary_of_written (Decimal.isWritten_write x)
  cases d with
  | integer value => exact whole value.toInt
  | float value => exact number value
  | integerRange min max =>
      have text : (integerRange min max).text = "integer between " ++ toString min.toInt ++
          " and " ++ toString max.toInt := rfl
      rw [text, String.toList_append, String.toList_append, String.toList_append]
      exact List.append_subset.2 ⟨List.append_subset.2
        ⟨List.append_subset.2 ⟨integerBetween, whole min.toInt⟩, and⟩, whole max.toInt⟩
  | floatRange min max =>
      have text : (floatRange min max).text =
          "float between " ++ Decimal.Layout.pointed.write min ++ " and " ++
            Decimal.Layout.pointed.write max := rfl
      rw [text, String.toList_append, String.toList_append, String.toList_append]
      exact List.append_subset.2 ⟨List.append_subset.2
        ⟨List.append_subset.2 ⟨floatBetween, number min⟩, and⟩, number max⟩
  | enumeration values => cases numeric

/-- A list of values that was read consists of pieces of the text. -/
private theorem eq_listed_of_read {cs : List Char} {values : List String}
    (ok : Domain.read cs = .ok (.enumeration values)) : values = listed (trim cs) := by
  rw [Domain.read] at ok
  dsimp only at ok
  split at ok
  · cases ok
  · split at ok
    · cases ok
    · split at ok
      · next range _ =>
          cases bounds : readBounds int64? (fun a b => decide (b < a)) range <;>
            rw [bounds] at ok <;> cases ok
      · split at ok
        · next range _ =>
            cases bounds : readBounds Decimal.read? (fun a b => decide (b < a)) range <;>
              rw [bounds] at ok <;> cases ok
        · split at ok
          · cases ok
          · cases ok
            rfl

/-- The text of a domain that was read has no characters but ordinary ones and those it was read
from. -/
theorem not_mem_text_of_read {cs : List Char} {d : Domain} (ok : Domain.read cs = .ok d) {c : Char}
    (ordinary : c ∉ ordinaryChars) (outside : c ∉ cs) : c ∉ d.text.toList := by
  cases numeric : d.isNumeric with
  | true => exact fun mem => ordinary (text_subset_of_isNumeric numeric mem)
  | false =>
      have separator : ", ".toList ⊆ ordinaryChars := by decide
      cases d with
      | enumeration values =>
          obtain rfl := eq_listed_of_read ok
          have text : (enumeration (listed (trim cs))).text =
              ", ".intercalate (listed (trim cs)) := rfl
          rw [text, String.toList_intercalate]
          refine not_mem_intercalate (fun mem => ordinary (separator mem)) ?_
          intro piece mem
          obtain ⟨value, listed, rfl⟩ := List.mem_map.1 mem
          obtain ⟨trimmed, kept, rfl⟩ := List.mem_map.1 listed
          obtain ⟨field, inside, rfl⟩ := List.mem_map.1 (List.mem_of_mem_filter kept)
          have inside := (infix_of_mem_fields inside).trans (infix_trim cs)
          have whole := (infix_trim field).trans inside
          rw [String.toList_ofList]
          exact fun mem => outside (whole.subset mem)
      | _ => cases numeric

end Domain

/-- The constraint has no text that its line does not show whole: no line feed, and no correlation
condition if it is unary. -/
structure Constraint.Shown (c : Constraint) : Prop where
  oneLine : ∀ s ∈ c.activities ++ c.conditions, '\n' ∉ s.toList
  unary : c.template.isBinary = false → c.correlationCondition = ""

namespace Model

open Tolerant

/-- A line can hold what the change is about. -/
def Change.Legible : Change → Prop
  | .addActivity name => Holds name
  | .bind activity attr => ¬[':', ' '] <:+: activity.toList ∧ Holds attr ∧ ',' ∉ attr.toList
  | .setDomain attr d =>
    (mayBeDomain attr.toList ∧ ¬[':', ' '] <:+: attr.toList) ∧
      mayBeDomain d.text.toList ∧ '\n' ∉ d.text.toList
  | .addConstraint c => c.Shown

theorem mayBeDomain_iff {cs : List Char} :
    mayBeDomain cs ↔ '[' ∉ cs ∧ ']' ∉ cs ∧ '|' ∉ cs := by
  rw [mayBeDomain, List.all_eq_true]
  constructor
  · intro all
    refine ⟨?_, ?_, ?_⟩ <;> intro mem <;> simpa using all _ mem
  · rintro ⟨opening, closing, bar⟩ c mem
    have : c ≠ '[' ∧ c ≠ ']' ∧ c ≠ '|' := by
      refine ⟨?_, ?_, ?_⟩ <;> rintro rfl
      · exact opening mem
      · exact closing mem
      · exact bar mem
    simpa using this

private theorem holds_of_infix {cs line : List Char} (inside : cs <:+: line)
    (oneLine : '\n' ∉ line) (ne : trim cs ≠ []) : Holds (.ofList (trim cs)) where
  ne := by rwa [String.toList_ofList]
  trimmed := by rw [String.toList_ofList, trim_trim]
  oneLine := by
    rw [String.toList_ofList]
    exact fun mem => oneLine (((infix_trim cs).trans inside).subset mem)

/-- A line can hold what it asks for. -/
theorem Asks.legible {line : List Char} {c : Change} (h : Asks line c) (oneLine : '\n' ∉ line) :
    c.Legible := by
  cases h with
  | activity form ne =>
      refine holds_of_infix ?_ oneLine ne
      rw [form]
      exact (List.suffix_append _ _).isInfix
  | @binding binding activity attributes attr form cut mem ne =>
      obtain ⟨joined, noColon⟩ := cut?_eq_some (List.cons_ne_nil _ _) cut
      have whole : attributes <:+: line := by
        rw [form, joined]
        exact ((List.suffix_append _ _).trans (List.suffix_append _ _)).isInfix
      refine ⟨?_, holds_of_infix ((infix_of_mem_fields mem).trans whole) oneLine ne, ?_⟩
      · rw [String.toList_ofList]
        exact fun inside => noColon (inside.trans (infix_trim activity))
      · rw [String.toList_ofList]
        exact fun comma => not_mem_of_mem_fields mem ((infix_trim attr).subset comma)
  | @domain attributes domain attr d start noBracket cut read mem =>
      obtain ⟨joined, noColon⟩ := cut?_eq_some (List.cons_ne_nil _ _) cut
      have before : attributes <:+: line := by
        rw [joined, List.append_assoc]
        exact (List.prefix_append _ _).isInfix
      have behind : domain <:+: line := by
        rw [joined]
        exact (List.suffix_append _ _).isInfix
      have key : trim attr <:+: attributes := (infix_trim attr).trans (infix_of_mem_fields mem)
      rw [mayBeDomain_iff] at noBracket
      obtain ⟨opening, closing, bar⟩ := noBracket
      have outside {c : Char} (ordinary : c ∉ Domain.ordinaryChars) (absent : c ∉ line) :
          c ∉ d.text.toList :=
        Domain.not_mem_text_of_read read ordinary fun mem => absent (behind.subset mem)
      refine ⟨⟨?_, ?_⟩, ?_, outside (by decide) oneLine⟩
      · rw [String.toList_ofList, mayBeDomain_iff]
        have whole := (key.trans before).subset
        exact ⟨fun mem => opening (whole mem), fun mem => closing (whole mem),
          fun mem => bar (whole mem)⟩
      · rw [String.toList_ofList]
        exact fun inside => noColon (inside.trans key)
      · rw [mayBeDomain_iff]
        exact ⟨outside (by decide) opening, outside (by decide) closing, outside (by decide) bar⟩
  | constraint texts unary =>
      exact ⟨fun s mem newline => oneLine (texts s mem newline), unary⟩

theorem legible_empty : Legible {} where
  activities := nofun
  bound := nofun
  attributes := nofun
  keys := nofun
  domains := nofun
  constraints := nofun
  correlations := nofun

variable {m m' : Model}

private theorem legible_activity (h : m.Legible) {name : String} (holds : Holds name) :
    Legible { m with activities := m.activities ++ [{ name }] } := by
  refine { h with
    activities := ?_
    bound := ?_
    attributes := ?_ }
  · intro a mem
    cases List.mem_append.1 mem with
    | inl old => exact h.activities a old
    | inr new =>
        rw [List.mem_singleton.1 new]
        exact holds
  · intro a mem some
    cases List.mem_append.1 mem with
    | inl old => exact h.bound a old some
    | inr new =>
        rw [List.mem_singleton.1 new] at some
        exact absurd rfl some
  · intro a mem
    cases List.mem_append.1 mem with
    | inl old => exact h.attributes a old
    | inr new =>
        rw [List.mem_singleton.1 new]
        nofun

/-- Binding an attribute leaves an activity as it is, or appends the attribute to its own. -/
private theorem mem_appendAttribute {activity attr : String} {as : List Activity} {b : Activity}
    (mem : b ∈ appendAttribute activity attr as) :
    b ∈ as ∨ ∃ a ∈ as, a.name = activity ∧ b = { a with attributes := a.attributes ++ [attr] } := by
  induction as with
  | nil => cases mem
  | cons a as ih =>
      rw [appendAttribute] at mem
      by_cases here : a.name = activity
      · rw [if_pos here] at mem
        cases List.mem_cons.1 mem with
        | inl first => exact .inr ⟨a, List.mem_cons_self, here, first⟩
        | inr later => exact .inl (List.mem_cons_of_mem _ later)
      · rw [if_neg here] at mem
        cases List.mem_cons.1 mem with
        | inl first =>
            rw [first]
            exact .inl List.mem_cons_self
        | inr later =>
            cases ih later with
            | inl old => exact .inl (List.mem_cons_of_mem _ old)
            | inr new =>
                obtain ⟨a', mem', changed⟩ := new
                exact .inr ⟨a', List.mem_cons_of_mem _ mem', changed⟩

private theorem legible_binding (h : m.Legible) {activity attr : String}
    (legible : (Change.bind activity attr).Legible) :
    Legible { m with activities := appendAttribute activity attr m.activities } := by
  obtain ⟨noColon, holds, comma⟩ := legible
  refine { h with
    activities := ?_
    bound := ?_
    attributes := ?_ }
  · intro b mem
    cases mem_appendAttribute mem with
    | inl old => exact h.activities b old
    | inr changed =>
        obtain ⟨a, old, -, rfl⟩ := changed
        exact h.activities a old
  · intro b mem some
    cases mem_appendAttribute mem with
    | inl old => exact h.bound b old some
    | inr changed =>
        obtain ⟨a, -, here, rfl⟩ := changed
        rw [← here] at noColon
        exact noColon
  · intro b mem other bound
    cases mem_appendAttribute mem with
    | inl old => exact h.attributes b old other bound
    | inr changed =>
        obtain ⟨a, old, -, rfl⟩ := changed
        cases List.mem_append.1 bound with
        | inl before => exact h.attributes a old other before
        | inr last =>
            rw [List.mem_singleton.1 last]
            exact ⟨holds, comma⟩

private theorem legible_domain (h : m.Legible) {attr : String} {d : Domain}
    (legible : (Change.setDomain attr d).Legible) :
    Legible { m with domains := insertDomain attr d m.domains } := by
  refine { h with
    keys := ?_
    domains := ?_ }
  · intro entry mem
    cases mem_insertDomain mem with
    | inl new =>
        rw [new]
        exact legible.1
    | inr old => exact h.keys entry old
  · intro entry mem
    cases mem_insertDomain mem with
    | inl new =>
        rw [new]
        exact legible.2
    | inr old => exact h.domains entry old

private theorem legible_constraint (h : m.Legible) {c : Constraint}
    (legible : (Change.addConstraint c).Legible) :
    Legible { m with constraints := m.constraints ++ [c] } := by
  refine { h with
    constraints := ?_
    correlations := ?_ }
  · intro d mem
    cases List.mem_append.1 mem with
    | inl old => exact h.constraints d old
    | inr new =>
        rw [List.mem_singleton.1 new]
        exact legible.oneLine
  · intro d mem
    cases List.mem_append.1 mem with
    | inl old => exact h.correlations d old
    | inr new =>
        rw [List.mem_singleton.1 new]
        exact legible.unary

theorem Makes.legible {c : Change} (made : Makes m c m') (h : m.Legible) (legible : c.Legible) :
    m'.Legible := by
  cases made with
  | same => exact h
  | activity new => exact legible_activity h legible
  | binding found new => exact legible_binding h legible
  | domain bound stable => exact legible_domain h legible
  | constraint sound declared => exact legible_constraint h legible

theorem legible_foldl_change (h : m.Legible) {changes : List Change}
    (legible : ∀ c ∈ changes, c.Legible) : (changes.foldl change m).Legible := by
  induction changes generalizing m with
  | nil => exact h
  | cons c changes ih =>
      obtain ⟨first, later⟩ := List.forall_mem_cons.1 legible
      exact ih ((makes_change m c).legible h first) later

/-- A model that was read from a text is well-formed, and its lines can hold its texts. -/
theorem legible_of_read {mode : ReadMode} {text : String} (ok : read mode text = .ok m) :
    m.WellFormed ∧ m.Legible := by
  obtain ⟨changes, asked, rfl⟩ := exists_changes_of_read ok
  refine ⟨wellFormed_build changes, legible_foldl_change legible_empty ?_⟩
  intro c mem
  obtain ⟨line, inside, asks⟩ := asked c mem
  apply asks.legible
  intro newline
  exact not_mem_of_mem_lines inside ((infix_trim line).subset newline)

end Model

end Declare
