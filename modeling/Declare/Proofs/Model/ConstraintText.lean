import Declare.Model.Reader
import Declare.Proofs.Text.Join

/-!
# Constraints that read back

The line of a well-formed constraint is taken apart where it was put together: at the opening
bracket, before the digits of the cardinality, at the closing bracket, at the commas and at the
bars. What a well-formed constraint may not hold is what keeps these places unambiguous. Unary
constraints have no place for a correlation condition.
-/

namespace Declare

open Text

namespace Text

theorem isBlank_of_isDigit {c : Char} (h : c.isDigit) : isBlank c = false :=
  of_isDigit (p := (isBlank · = false)) (by decide) h

/-- Digits are split off a text that ends with another character. -/
theorem splitDigits_append {cs ds : List Char} {c : Char} (last : cs.getLast? = some c)
    (other : c.isDigit = false) (digits : ∀ d ∈ ds, d.isDigit) :
    splitDigits (cs ++ ds) = (cs, ds) := by
  obtain ⟨before, rfl⟩ := List.getLast?_eq_some_iff.1 last
  have all : ∀ d ∈ ds.reverse, d.isDigit := by
    intro d hd
    exact digits d (List.mem_reverse.1 hd)
  simp [splitDigits, List.dropWhile_append_of_pos all, List.takeWhile_append_of_pos all, other]

end Text

namespace Template

/-- A name starts with a letter that starts neither a comment nor a declaration. -/
theorem exists_head_name (t : Template) :
    ∃ c cs, t.name.toList = c :: cs ∧ isBlank c = false ∧ c ≠ '#' ∧ c ≠ 'a' ∧ c ≠ 'b' := by
  cases t <;> exact ⟨_, _, rfl, by decide⟩

theorem exists_last_name (t : Template) :
    ∃ c, t.name.toList.getLast? = some c ∧ isBlank c = false ∧ c.isDigit = false := by
  cases t <;> exact ⟨_, rfl, by decide⟩

theorem not_mem_name (t : Template) : ∀ c ∈ ['[', '\n'], c ∉ t.name.toList := by
  refine forall_mem_of_all ?_
  cases t <;> decide

end Template

namespace Constraint

/-- What a constraint without a fault satisfies. -/
structure Sound (c : Constraint) : Prop where
  arity : c.activities.length = c.template.arity
  writable_activities : ∀ a ∈ c.activities, writableActivity a
  writable_conditions : ∀ condition ∈ c.conditions, writableCondition condition
  cardinality : c.template.takesCardinality = c.cardinality.isSome

theorem sound_of_fault?_eq_none {c : Constraint} (h : c.fault? = none) : c.Sound := by
  rw [fault?] at h
  split at h
  · cases h
  · next arity =>
      split at h
      · cases h
      · simp only [Option.orElse_eq_orElse, Option.orElse_eq_or, Option.or_eq_none_iff,
          Option.map_eq_none_iff, List.find?_eq_none] at h
        obtain ⟨activities, conditions, -, cardinality⟩ := h
        exact {
          arity := of_not_not arity
          writable_activities := fun a mem => by simpa using activities a mem
          writable_conditions := fun condition mem => by simpa using conditions condition mem
          cardinality := by
            rw [cardinality?] at cardinality
            cases ht : c.template.takesCardinality <;> cases hc : c.cardinality <;> simp_all }

/-- The digits of the cardinality. -/
def cardinalityText (c : Constraint) : List Char :=
  c.cardinality.elim [] fun n => digits n.toNat

/-- The text after the activities, up to the blank and the bar before the conditions. -/
def conditionsText (c : Constraint) : List Char :=
  c.activationCondition.toList ++ ' ' ::
    ((if c.template.isBinary then '|' :: (c.correlationCondition.toList ++ [' ']) else []) ++
      '|' :: c.timeCondition.toList)

theorem toList_text (c : Constraint) : c.text.toList =
    (c.template.name.toList ++ c.cardinalityText) ++ '[' ::
      ([',', ' '].intercalate (c.activities.map String.toList) ++ ']' ::
        (' ' :: '|' :: c.conditionsText)) := by
  have cardinality :
      (c.cardinality.elim "" fun n => .ofList (digits n.toNat)).toList = c.cardinalityText := by
    cases h : c.cardinality <;> simp [cardinalityText, h]
  rw [text]
  simp only [String.toList_append, cardinality, String.toList_intercalate, conditionsText]
  split <;> simp

private theorem writableCondition_iff {condition : String} :
    writableCondition condition ↔
      trim condition.toList = condition.toList ∧ '|' ∉ condition.toList := by
  simp [writableCondition]

private theorem Sound.condition {c : Constraint} (h : c.Sound) {condition : String}
    (mem : condition ∈ c.conditions) :
    trim condition.toList = condition.toList ∧ '|' ∉ condition.toList :=
  writableCondition_iff.1 (h.writable_conditions condition mem)

private theorem endsSolid_conditionsText {c : Constraint} (h : c.Sound) :
    EndsSolid ('|' :: c.conditionsText) := by
  obtain ⟨trimmed, -⟩ := h.condition (by simp [conditions] : c.timeCondition ∈ c.conditions)
  have last : EndsSolid ('|' :: c.timeCondition.toList) := by
    by_cases empty : c.timeCondition.toList = []
    · rw [empty]
      exact ⟨'|', rfl, by decide⟩
    · exact (endsSolid_of_trim trimmed empty).append ['|']
  rw [conditionsText, List.append_cons, ← List.append_assoc, ← List.cons_append]
  exact last.append _

/-- The conditions that have a place in the text of a constraint. -/
def writtenConditions (c : Constraint) : List String :=
  if c.template.isBinary then c.conditions else [c.activationCondition, c.timeCondition]

theorem map_trim_fields_conditionsText {c : Constraint} (h : c.Sound) :
    (fields '|' c.conditionsText).map trim = c.writtenConditions.map String.toList := by
  obtain ⟨trimA, barA⟩ := h.condition (by simp [conditions] : c.activationCondition ∈ c.conditions)
  obtain ⟨trimC, barC⟩ := h.condition (by simp [conditions] : c.correlationCondition ∈ c.conditions)
  obtain ⟨trimT, barT⟩ := h.condition (by simp [conditions] : c.timeCondition ∈ c.conditions)
  have blank {cs : List Char} (trimmed : trim cs = cs) : trim (cs ++ [' ']) = cs := by
    rw [trim_concat_blank (by decide), trimmed]
  have noBar {cs : List Char} (bar : '|' ∉ cs) : '|' ∉ cs ++ [' '] := by
    simpa using bar
  cases binary : c.template.isBinary with
  | false =>
      have text : c.conditionsText =
          (c.activationCondition.toList ++ [' ']) ++ '|' :: c.timeCondition.toList := by
        simp [conditionsText, binary]
      rw [text, fields_append_cons (noBar barA), fields_of_not_mem barT]
      simp [writtenConditions, binary, blank trimA, trimT]
  | true =>
      have text : c.conditionsText = (c.activationCondition.toList ++ [' ']) ++ '|' ::
          ((c.correlationCondition.toList ++ [' ']) ++ '|' :: c.timeCondition.toList) := by
        simp [conditionsText, binary]
      rw [text, fields_append_cons (noBar barA), fields_append_cons (noBar barC),
        fields_of_not_mem barT]
      simp [writtenConditions, conditions, binary, blank trimA, blank trimC, trimT]

theorem readConditions_text {c : Constraint} (h : c.Sound) :
    Model.readConditions c.template (' ' :: '|' :: c.conditionsText) =
      .ok (c.writtenConditions.map String.toList) := by
  have tail : trim (' ' :: '|' :: c.conditionsText) = '|' :: c.conditionsText := by
    rw [trim_cons_blank (by decide)]
    exact trim_of_solid (startsSolid_cons (by decide) _) (endsSolid_conditionsText h)
  have few : ¬c.writtenConditions.length > if c.template.isBinary then 3 else 2 := by
    rw [writtenConditions]
    split <;> simp [conditions]
  rw [Model.readConditions, tail]
  simp only [map_trim_fields_conditionsText h, List.length_map]
  exact if_neg few

/-- Reading the written conditions completes a constraint, unless one of them is not written. -/
theorem withReadConditions_written {c : Constraint}
    (unary : c.template.isBinary = false → c.correlationCondition = "") :
    Model.withReadConditions
      { template := c.template, activities := c.activities, cardinality := c.cardinality }
      (c.writtenConditions.map String.toList) = c := by
  cases binary : c.template.isBinary with
  | true => simp [Model.withReadConditions, writtenConditions, conditions, binary]
  | false =>
      simp [Model.withReadConditions, writtenConditions, binary, ← unary binary]

theorem isDigit_of_mem_cardinalityText {c : Constraint} :
    ∀ d ∈ c.cardinalityText, d.isDigit := by
  intro d hd
  rw [cardinalityText] at hd
  cases present : c.cardinality with
  | none => simp [present] at hd
  | some n => exact isDigit_of_mem_digits (by simpa [present] using hd)

private theorem trim_name (t : Template) : trim t.name.toList = t.name.toList := by
  obtain ⟨first, rest, start, solid, -⟩ := t.exists_head_name
  obtain ⟨last, ends, solid', -⟩ := t.exists_last_name
  exact trim_of_solid ⟨first, by simp [start], solid⟩ ⟨last, ends, solid'⟩

private theorem splitDigits_head (c : Constraint) :
    splitDigits (trim (c.template.name.toList ++ c.cardinalityText)) =
      (c.template.name.toList, c.cardinalityText) := by
  obtain ⟨first, rest, start, solid, -⟩ := c.template.exists_head_name
  obtain ⟨last, ends, solid', other⟩ := c.template.exists_last_name
  have endsSolid : EndsSolid (c.template.name.toList ++ c.cardinalityText) := by
    by_cases empty : c.cardinalityText = []
    · rw [empty, List.append_nil]
      exact ⟨last, ends, solid'⟩
    · have digit := List.getLast?_eq_some_getLast empty
      exact EndsSolid.append ⟨_, digit, isBlank_of_isDigit
        (isDigit_of_mem_cardinalityText _ (List.mem_of_getLast? digit))⟩ _
  have startsSolid : StartsSolid c.template.name.toList := ⟨first, by simp [start], solid⟩
  rw [trim_of_solid (startsSolid.append _) endsSolid]
  exact splitDigits_append ends other isDigit_of_mem_cardinalityText

private theorem readCardinality_text {mode : ReadMode} {c : Constraint} (h : c.Sound) :
    Model.readCardinality mode c.template c.cardinalityText = .value c.cardinality := by
  have takes := h.cardinality
  cases present : c.cardinality with
  | none => simp [Model.readCardinality, cardinalityText, takes, present]
  | some n =>
      simp [Model.readCardinality, cardinalityText, takes, present, digits_ne_nil]

private theorem Sound.activity {c : Constraint} (h : c.Sound) {a : String}
    (mem : a ∈ c.activities) :
    trim a.toList = a.toList ∧ ',' ∉ a.toList ∧ ']' ∉ a.toList := by
  have writable := h.writable_activities a mem
  simp only [writableActivity, Bool.and_eq_true, decide_eq_true_eq, List.all_eq_true] at writable
  refine ⟨writable.1, ?_, ?_⟩
  · intro comma
    simpa using writable.2 _ comma
  · intro bracket
    simpa using writable.2 _ bracket

private theorem readActivities_text {c : Constraint} (h : c.Sound) :
    (fields ',' ([',', ' '].intercalate (c.activities.map String.toList))).map
      (fun a => String.ofList (trim a)) = c.activities := by
  have some : c.activities.map String.toList ≠ [] := by
    have positive : c.activities.length ≠ 0 := by
      rw [h.arity, Template.arity]
      split <;> decide
    simpa using positive
  have found := map_trim_fields_intercalate (by decide : ' ' ≠ ',') some
    (List.forall_mem_map.2 fun a mem => (h.activity mem).2.1)
    (List.forall_mem_map.2 fun a mem => (h.activity mem).1)
  have strings := congrArg (List.map String.ofList) found
  simpa [Function.comp_def] using strings

theorem readConstraint_text {mode : ReadMode} {m : Model} {c : Constraint} (sound : c.fault? = none)
    (declared : ∀ a ∈ c.activities, m.hasActivity a)
    (unary : c.template.isBinary = false → c.correlationCondition = "") :
    m.readConstraint mode (c.template.name.toList ++ c.cardinalityText)
        ([',', ' '].intercalate (c.activities.map String.toList) ++ ']' ::
          (' ' :: '|' :: c.conditionsText)) =
      .value { m with constraints := m.constraints ++ [c] } := by
  have h := sound_of_fault?_eq_none sound
  have bracket : ']' ∉ [',', ' '].intercalate (c.activities.map String.toList) :=
    not_mem_intercalate (by decide) (List.forall_mem_map.2 fun a mem => (h.activity mem).2.2)
  have cut := cut?_append_of_not_mem bracket [] (' ' :: '|' :: c.conditionsText)
  have allDeclared : c.activities.find? (!m.hasActivity ·) = none := by
    simpa using declared
  have added : m.addConstraint c = .ok { m with constraints := m.constraints ++ [c] } := by
    rw [Model.addConstraint, sound]
    simp only [allDeclared]
  rw [List.nil_append] at cut
  rw [Model.readConstraint, cut]
  simp only [splitDigits_head, trim_name, Template.ofName?_name, readCardinality_text h,
    readConditions_text h, readActivities_text h, Tolerant.value_bind, Tolerant.ofExcept_ok]
  rw [withReadConditions_written unary, added, Tolerant.ofExcept_ok]

private theorem readLine_eq_readOther {mode : ReadMode} {first : Char} (comment : first ≠ '#')
    (activity : first ≠ 'a') (bind : first ≠ 'b') (m : Model) (rest : List Char) :
    m.readLine mode (first :: rest) = m.readOther mode (first :: rest) := by
  have noActivity : stripPrefix? "activity ".toList (first :: rest) = none := if_neg activity.symm
  have noBinding : stripPrefix? "bind ".toList (first :: rest) = none := if_neg bind.symm
  rw [Model.readLine, noActivity, noBinding]
  simp [comment]

/-- The line of a well-formed constraint on declared activities adds that constraint. -/
theorem readLine_text {mode : ReadMode} {m : Model} {c : Constraint} (sound : c.fault? = none)
    (declared : ∀ a ∈ c.activities, m.hasActivity a)
    (unary : c.template.isBinary = false → c.correlationCondition = "") :
    m.readLine mode (trim c.text.toList) =
      .value { m with constraints := m.constraints ++ [c] } := by
  have h := sound_of_fault?_eq_none sound
  obtain ⟨first, rest, start, solid, comment, activity, bind⟩ := c.template.exists_head_name
  have starts : StartsSolid c.text.toList := by
    rw [toList_text, start]
    exact startsSolid_cons solid _
  have ends : EndsSolid c.text.toList := by
    rw [toList_text]
    have closed := ((endsSolid_conditionsText h).append [' ']).append [']']
    exact ((closed.append _).append ['[']).append _
  have bracket : '[' ∉ c.template.name.toList ++ c.cardinalityText := by
    rw [List.mem_append, not_or]
    refine ⟨c.template.not_mem_name _ (by decide), ?_⟩
    intro digit
    cases isDigit_of_mem_cardinalityText _ digit
  have cut := cut?_append_of_not_mem bracket []
    ([',', ' '].intercalate (c.activities.map String.toList) ++
      ']' :: (' ' :: '|' :: c.conditionsText))
  have notDomain : Model.mayBeDomain c.text.toList = false := by
    rw [toList_text]
    simp [Model.mayBeDomain]
  rw [List.nil_append, ← toList_text] at cut
  rw [trim_of_solid starts ends]
  have other : m.readLine mode c.text.toList = m.readOther mode c.text.toList := by
    rw [toList_text, start]
    exact readLine_eq_readOther comment activity bind m _
  rw [other, Model.readOther, notDomain, cut]
  exact readConstraint_text sound declared unary

end Constraint

end Declare
