import Declare.Model.Reader
import Declare.Proofs.Model.Built
import Declare.Proofs.Text.Pieces

/-!
# What lines ask for

A line that is read changes a model only by changes that it asks for: it declares the activity that
it names, binds the attributes that it lists, gives the attributes before its colon the domain
behind it, or adds a constraint with texts from the line (`Model.Asks`). A text that is read builds
a model by the changes that its lines ask for, one line after the other.
-/

namespace Declare

namespace Model

open Text Tolerant

/-- The text begins like a line that gives no domain: a comment, a declaration or a binding. -/
def BeginsOther (cs : List Char) : Prop :=
  cs.head? = some '#' ∨ "activity ".toList <+: cs ∨ "bind ".toList <+: cs

/-- The line asks for a change. -/
inductive Asks (line : List Char) : Change → Prop where
  | activity {name : List Char} (form : line = "activity ".toList ++ name) (ne : trim name ≠ []) :
      Asks line (.addActivity (.ofList (trim name)))
  | binding {binding activity attributes attr : List Char}
      (form : line = "bind ".toList ++ binding)
      (cut : cut? [':', ' '] binding = some (activity, attributes))
      (mem : attr ∈ fields ',' attributes) (ne : trim attr ≠ []) :
      Asks line (.bind (.ofList (trim activity)) (.ofList (trim attr)))
  | domain {attributes domain attr : List Char} {d : Domain} (start : ¬BeginsOther line)
      (noBracket : mayBeDomain line) (cut : cut? [':', ' '] line = some (attributes, domain))
      (read : Domain.read domain = .ok d) (mem : attr ∈ fields ',' attributes) :
      Asks line (.setDomain (.ofList (trim attr)) d)
  /-- The texts of the constraint have characters of the line only, and a condition without a place
  in the line is empty. -/
  | constraint {c : Constraint} (texts : ∀ s ∈ c.activities ++ c.conditions, s.toList ⊆ line)
      (unary : c.template.isBinary = false → c.correlationCondition = "") :
      Asks line (.addConstraint c)

variable {mode : ReadMode} {m m' : Model}

private theorem readActivity_eq_ok {name : List Char}
    (ok : (m.readActivity mode name).outcome = .ok m') :
    name ≠ [] ∧ m' = m.change (.addActivity (.ofList name)) := by
  rw [readActivity] at ok
  split at ok
  · cases ok
  · next some =>
      refine ⟨by simpa using some, ?_⟩
      rw [change]
      split at ok
      · next added =>
          rw [added]
          exact (Except.ok.inj ok).symm
      · next known =>
          rw [known]
          exact (Except.ok.inj (outcome_of_tolerate ok)).symm

private theorem bindAll_eq_ok {activity : String} {attrs : List (List Char)}
    (ok : (m.bindAll mode activity attrs).outcome = .ok m') :
    (∀ a ∈ attrs, a ≠ []) ∧
      m' = (attrs.map fun a => Change.bind activity (.ofList a)).foldl change m := by
  induction attrs generalizing m with
  | nil => exact ⟨nofun, (Except.ok.inj ok).symm⟩
  | cons a attrs ih =>
      rw [bindAll] at ok
      split at ok
      · cases ok
      · next some =>
          obtain ⟨⟨new, next⟩, bound, rest⟩ := outcome_bind_eq_ok.1 ok
          have changed : m.change (.bind activity (.ofList a)) = next := by
            rw [change, show m.bind activity (.ofList a) = .ok (new, next) from bound]
          have rest : (next.bindAll mode activity attrs).outcome = .ok m' := by
            cases new with
            | true => exact rest
            | false => exact outcome_of_tolerate rest
          obtain ⟨later, same⟩ := ih rest
          refine ⟨List.forall_mem_cons.2 ⟨by simpa using some, later⟩, ?_⟩
          rw [List.map_cons, List.foldl_cons, changed]
          exact same

private theorem setDomains_eq_ok {d : Domain} {attrs : List (List Char)}
    (ok : (m.setDomains mode d attrs).outcome = .ok m') :
    m' = (attrs.map fun a => Change.setDomain (.ofList a) d).foldl change m := by
  induction attrs generalizing m with
  | nil => exact (Except.ok.inj ok).symm
  | cons a attrs ih =>
      rw [setDomains] at ok
      obtain ⟨⟨previous, next⟩, set, rest⟩ := outcome_bind_eq_ok.1 ok
      have changed : m.change (.setDomain (.ofList a) d) = next := by
        rw [change, show m.setDomain (.ofList a) d = .ok (previous, next) from set]
      have rest : (next.setDomains mode d attrs).outcome = .ok m' := by
        cases previous with
        | none => exact rest
        | some _ => exact outcome_of_tolerate rest
      rw [List.map_cons, List.foldl_cons, changed]
      exact ih rest

private theorem readConditions_subset {template : Template} {tail : List Char}
    {conditions : List (List Char)} (ok : readConditions template tail = .ok conditions) :
    ∀ condition ∈ conditions, condition ⊆ tail := by
  rw [readConditions] at ok
  split at ok
  · obtain rfl := Except.ok.inj ok
    nofun
  · next rest trimmed =>
      generalize (if template.isBinary then 3 else 2) = most at ok
      dsimp only at ok
      split at ok
      · cases ok
      · obtain rfl := Except.ok.inj ok
        intro condition mem
        obtain ⟨piece, inside, rfl⟩ := List.mem_map.1 mem
        have bar : '|' :: rest <:+: tail := by
          rw [← trimmed]
          exact infix_trim tail
        have whole : piece <:+: tail :=
          (infix_of_mem_fields inside).trans ((List.suffix_cons _ _).isInfix.trans bar)
        exact ((infix_trim piece).trans whole).subset
  · cases ok

section WithReadConditions

variable {template : Template} {activities : List String} {cardinality : Option UInt64}
  {conditions : List (List Char)}

/-- The conditions of a constraint that was read are empty or were read. -/
private theorem mem_conditions_withReadConditions {s : String}
    (mem : s ∈ (withReadConditions { template, activities, cardinality } conditions).conditions) :
    s.toList = [] ∨ s.toList ∈ conditions := by
  have picked (i : Nat) : (String.ofList (conditions.getD i [])).toList = [] ∨
      (String.ofList (conditions.getD i [])).toList ∈ conditions := by
    rw [String.toList_ofList, List.getD_eq_getElem?_getD]
    cases found : conditions[i]? with
    | none => exact .inl rfl
    | some condition => exact .inr (List.mem_of_getElem? found)
  rw [withReadConditions] at mem
  cases binary : template.isBinary with
  | true =>
      simp only [binary, ↓reduceIte, Constraint.conditions, List.mem_cons, List.not_mem_nil,
        or_false] at mem
      obtain rfl | rfl | rfl := mem
      · exact picked 0
      · exact picked 1
      · exact picked 2
  | false =>
      simp only [binary, Bool.false_eq_true, ↓reduceIte, Constraint.conditions, List.mem_cons,
        List.not_mem_nil, or_false] at mem
      obtain rfl | rfl | rfl := mem
      · exact picked 0
      · exact .inl rfl
      · exact picked 1

private theorem correlation_withReadConditions (unary : template.isBinary = false) :
    (withReadConditions { template, activities, cardinality } conditions).correlationCondition =
      "" := by
  simp [withReadConditions, unary]

private theorem template_withReadConditions :
    (withReadConditions { template, activities, cardinality } conditions).template = template := by
  rw [withReadConditions]
  split <;> rfl

private theorem activities_withReadConditions :
    (withReadConditions { template, activities, cardinality } conditions).activities =
      activities := by
  rw [withReadConditions]
  split <;> rfl

end WithReadConditions

private theorem readConstraint_eq_ok {head rest : List Char}
    (ok : (m.readConstraint mode head rest).outcome = .ok m') :
    m' = m ∨ ∃ c : Constraint, (∀ s ∈ c.activities ++ c.conditions, s.toList ⊆ rest) ∧
      (c.template.isBinary = false → c.correlationCondition = "") ∧
      m' = m.change (.addConstraint c) := by
  rw [readConstraint] at ok
  split at ok
  · cases ok
  · next activities tail cut =>
      obtain ⟨rfl, -⟩ := cut?_eq_some (List.cons_ne_nil _ _) cut
      dsimp only at ok
      split at ok
      · exact .inl (Except.ok.inj (outcome_of_tolerate ok)).symm
      · next template _ =>
          obtain ⟨cardinality, -, ok⟩ := outcome_bind_eq_ok.1 ok
          obtain ⟨conditions, read, added⟩ := outcome_bind_eq_ok.1 ok
          refine .inr ⟨_, ?_, ?_, by rw [change, show m.addConstraint _ = .ok m' from added]⟩
          · intro s mem
            rw [activities_withReadConditions] at mem
            cases List.mem_append.1 mem with
            | inl activity =>
                obtain ⟨piece, inside, rfl⟩ := List.mem_map.1 activity
                rw [String.toList_ofList]
                have before : activities <+: activities ++ [']'] ++ tail :=
                  (List.prefix_append _ _).trans (List.prefix_append _ _)
                have here : trim piece <:+: activities :=
                  (infix_trim piece).trans (infix_of_mem_fields inside)
                exact (here.trans before.isInfix).subset
            | inr condition =>
                cases mem_conditions_withReadConditions condition with
                | inl empty =>
                    rw [empty]
                    exact List.nil_subset _
                | inr written =>
                    exact List.Subset.trans (readConditions_subset read _ written)
                      (List.suffix_append _ _).subset
          · rw [template_withReadConditions]
            exact correlation_withReadConditions

private theorem exists_changes_of_readOther {line : List Char} (start : ¬BeginsOther line)
    (ok : (m.readOther mode line).outcome = .ok m') :
    ∃ changes : List Change, (∀ c ∈ changes, Asks line c) ∧ m' = changes.foldl change m := by
  rw [readOther] at ok
  split at ok
  · next attributes domain form =>
      have noBracket : mayBeDomain line := by
        by_contra bracket
        rw [if_neg bracket] at form
        cases form
      rw [if_pos noBracket] at form
      rw [readDomain] at ok
      split at ok
      · cases ok
      · next d read =>
          refine ⟨_, ?_, setDomains_eq_ok ok⟩
          intro c mem
          rw [List.map_map] at mem
          obtain ⟨attr, inside, rfl⟩ := List.mem_map.1 mem
          exact .domain start noBracket form read inside
  · split at ok
    · next head rest form =>
        obtain ⟨rfl, -⟩ := cut?_eq_some (List.cons_ne_nil _ _) form
        cases readConstraint_eq_ok ok with
        | inl same => exact ⟨[], nofun, same⟩
        | inr added =>
            obtain ⟨c, texts, unary, changed⟩ := added
            refine ⟨[.addConstraint c], ?_, changed⟩
            intro c' mem
            rw [List.mem_singleton.1 mem]
            refine .constraint ?_ unary
            intro s mem
            exact List.Subset.trans (texts s mem) (List.suffix_append _ _).subset
    · cases ok

/-- A line that is read makes changes that it asks for. -/
theorem exists_changes_of_readLine {line : List Char}
    (ok : (m.readLine mode line).outcome = .ok m') :
    ∃ changes : List Change, (∀ c ∈ changes, Asks line c) ∧ m' = changes.foldl change m := by
  rw [readLine] at ok
  split at ok
  · exact ⟨[], nofun, (Except.ok.inj ok).symm⟩
  · next noComment =>
      split at ok
      · next name form =>
          obtain ⟨ne, changed⟩ := readActivity_eq_ok ok
          refine ⟨[.addActivity (.ofList (trim name))], ?_, changed⟩
          intro c mem
          rw [List.mem_singleton.1 mem]
          exact .activity (stripPrefix?_eq_some_iff.1 form) ne
      · next noActivity =>
          split at ok
          · next binding form =>
              rw [readBinding] at ok
              split at ok
              · cases ok
              · next activity attributes cut =>
                  obtain ⟨ne, changed⟩ := bindAll_eq_ok ok
                  refine ⟨_, ?_, changed⟩
                  intro c mem
                  rw [List.map_map] at mem
                  obtain ⟨attr, inside, rfl⟩ := List.mem_map.1 mem
                  exact .binding (stripPrefix?_eq_some_iff.1 form) cut inside
                    (ne _ (List.mem_map_of_mem inside))
          · next noBinding =>
              refine exists_changes_of_readOther ?_ ok
              rintro (comment | declaration | binding)
              · simp [comment] at noComment
              · exact stripPrefix?_eq_none_iff.1 noActivity declaration
              · exact stripPrefix?_eq_none_iff.1 noBinding binding

/-- Lines that are read make changes that they ask for. -/
theorem exists_changes_of_readLines {number : Nat} {ls : List (List Char)}
    (ok : (m.readLines mode number ls).outcome = .ok m') :
    ∃ changes : List Change, (∀ c ∈ changes, ∃ line ∈ ls, Asks (trim line) c) ∧
      m' = changes.foldl change m := by
  induction ls generalizing m number with
  | nil => exact ⟨[], nofun, (Except.ok.inj ok).symm⟩
  | cons line ls ih =>
      rw [readLines] at ok
      obtain ⟨next, read, rest⟩ := outcome_bind_eq_ok.1 ok
      obtain ⟨first, asked, same⟩ := exists_changes_of_readLine (outcome_mapFault_eq_ok.1 read)
      obtain ⟨later, askedLater, same'⟩ := ih rest
      refine ⟨first ++ later, ?_, ?_⟩
      · intro c mem
        cases List.mem_append.1 mem with
        | inl here => exact ⟨line, List.mem_cons_self, asked c here⟩
        | inr there =>
            obtain ⟨line', inside, asks⟩ := askedLater c there
            exact ⟨line', List.mem_cons_of_mem _ inside, asks⟩
      · rw [List.foldl_append, ← same]
        exact same'

/-- A model that was read from a text is built by the changes that the lines of the text ask for. -/
theorem exists_changes_of_read {text : String} (ok : read mode text = .ok m) :
    ∃ changes : List Change,
      (∀ c ∈ changes, ∃ line ∈ lines text.toList, Asks (trim line) c) ∧ m = build changes :=
  exists_changes_of_readLines ok

end Model

end Declare
