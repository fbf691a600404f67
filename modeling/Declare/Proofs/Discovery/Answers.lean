import Declare.Discovery.Query
import Declare.Proofs.Condition.Blanks
import Declare.Proofs.Condition.RoundTrip
import Declare.Proofs.Discovery.Candidates
import Declare.Proofs.Discovery.Support

/-!
# Answers to queries are exact

A query is answered by all ways to fill in its open parts that enough traces satisfy, each of them
once and in the order in which they are tried (`Query.answer_exact`). The conditions of a query are
read once, as they are written, while an answer carries a constraint with its own text of them,
without the blanks around it: read on its own, that constraint has the conditions that were checked
(`Query.compile_of_mem_assignments`).
-/

namespace Declare

namespace Query

variable {q : Query} {log : Log} {o : QueryOptions} {catalog : Catalog} {p : Predicates}

theorem template?_of_check {template : Option (Template × Option UInt64)}
    (h : q.check o = .ok template) : q.template? = .ok template := by
  -- the other checks can refuse the query, but they do not change its template
  rw [check] at h
  split at h
  · cases h
  · obtain ⟨read, found, h⟩ := exists_of_bind_eq_ok h
    rw [found]
    dsimp only at h
    split at h
    · split at h
      · cases h
      · split at h
        · cases h
        · exact h
    · split at h
      · cases h
      · exact h

theorem reads_of_predicates (h : q.predicates catalog = .ok p) :
    Window.read q.timeCondition = .ok p.window ∧
      Condition.read .activation catalog q.activationCondition = .ok p.activation ∧
      Condition.read .correlation catalog q.correlationCondition = .ok p.correlation := by
  obtain ⟨window, time, h⟩ := exists_of_bind_eq_ok h
  obtain ⟨activation, first, h⟩ := exists_of_bind_eq_ok h
  obtain ⟨correlation, second, h⟩ := exists_of_bind_eq_ok h
  cases h
  exact ⟨time, first, second⟩

/-- A well-formed query with readable conditions is answered by scanning what can be tried. -/
theorem answer_eq {template : Option (Template × Option UInt64)}
    (checked : q.check o = .ok template)
    (read : q.predicates (.ofNames log.attributeNames) = .ok p) :
    q.answer log o =
      let holds := fun a => (compiled p a).isSupported log o.vacuity o.minSupport
      let all := q.assignments log o template
      .ok (if o.returnFirst then (all.find? holds).toList else all.filter holds) := by
  rw [answer, checked, read]
  rfl

theorem exists_of_answer {found : List Assignment} (h : q.answer log o = .ok found) :
    ∃ template p, q.check o = .ok template ∧
      q.predicates (.ofNames log.attributeNames) = .ok p := by
  obtain ⟨template, checked, h⟩ := exists_of_bind_eq_ok h
  cases read : q.predicates (.ofNames log.attributeNames) with
  | error e =>
      rw [read] at h
      cases h
  | ok p => exact ⟨template, p, checked, rfl⟩

theorem read_trimmed_of_read {role : Role} {text : String} {c : Condition}
    (h : Condition.read role catalog text = .ok c) :
    Condition.read role catalog (Text.trimmed text) = .ok c := by
  rw [Condition.read_trimmed, h]
  rfl

theorem compile_binaryAssignment (h : q.predicates catalog = .ok p) (t : Template)
    (activation target : String) :
    (q.binaryAssignment t activation target).constraint.compile catalog =
      .ok (compiled p (q.binaryAssignment t activation target)) := by
  obtain ⟨time, first, second⟩ := reads_of_predicates h
  exact Constraint.compile_eq_ok (read_trimmed_of_read first) (read_trimmed_of_read second)
    ((Window.read_trimmed _).trans time)

/-- A unary constraint has no text of a correlation condition, and so no such condition. -/
theorem compile_unaryAssignment (h : q.predicates catalog = .ok p) (t : Template)
    (cardinality : Option UInt64) (activation : String) :
    (q.unaryAssignment t cardinality activation).constraint.compile catalog =
      .ok (compiled p (q.unaryAssignment t cardinality activation)) := by
  obtain ⟨time, first, -⟩ := reads_of_predicates h
  exact Constraint.compile_eq_ok (p := { p with correlation := .const true })
    (read_trimmed_of_read first) (Condition.read_empty _ _) ((Window.read_trimmed _).trans time)

/-- A name can stand in a part of a query: what is given there, or else any activity of the log. -/
def Fills (part : Option String) (log : Log) (name : String) : Prop :=
  match given? part with
  | some given => name = given
  | none => name ∈ log.activities

/-- A template with a number can stand in a query that tries numbers up to a greatest one: what is
given, or else any binary template that is not derived from others and, if no target is given, any
unary one. -/
inductive Admits (q : Query) (greatest : UInt64) : Template → Option UInt64 → Prop
  | given {t : Template} {n : Option UInt64} (h : q.template? = .ok (some (t, n))) :
      Admits q greatest t n
  | binary {t : Template} (opened : q.template? = .ok none) (isBinary : t.isBinary)
      (notDerived : t.isDerived = false) : Admits q greatest t none
  | unary {t : Template} (opened : q.template? = .ok none) (targetless : given? q.target = none)
      (isUnary : t.isBinary = false) (plain : t.takesCardinality = false) :
      Admits q greatest t none
  | counting {t : Template} {n : UInt64} (opened : q.template? = .ok none)
      (targetless : given? q.target = none) (takes : t.takesCardinality) (least : 1 ≤ n)
      (most : n ≤ greatest) : Admits q greatest t (some n)

/-- A way to fill in the open parts of a query with activities of a log. -/
inductive IsAssignment (q : Query) (log : Log) (greatest : UInt64) : Assignment → Prop
  | unary {t : Template} {n : Option UInt64} {activation : String}
      (admitted : q.Admits greatest t n) (isUnary : t.isBinary = false)
      (fills : Fills q.activation log activation) :
      IsAssignment q log greatest (q.unaryAssignment t n activation)
  | binary {t : Template} {n : Option UInt64} {activation target : String}
      (admitted : q.Admits greatest t n) (isBinary : t.isBinary)
      (fills : Fills q.activation log activation) (fillsTarget : Fills q.target log target)
      (different : activation ≠ target) :
      IsAssignment q log greatest (q.binaryAssignment t activation target)

/-- An assignment answers a query if its constraint, read against the attributes of the log, is
satisfied on a large enough share of the traces of a log that has any. -/
structure IsAnswer (q : Query) (log : Log) (o : QueryOptions) (a : Assignment) : Prop where
  assignment : q.IsAssignment log o.maxCardinality a
  satisfied : ∃ c, a.constraint.compile (.ofNames log.attributeNames) = .ok c ∧
    log.size ≠ 0 ∧
    o.minSupport ≤ share (log.readable.countP (c.isSatisfied o.vacuity)) log.size

theorem mem_choices {part : Option String} {name : String} :
    name ∈ (given? part).elim log.activities ([·]) ↔ Fills part log name := by
  rw [Fills]
  cases given? part with
  | none => rfl
  | some given => exact List.mem_singleton

theorem nodup_choices (part : Option String) (log : Log) :
    ((given? part).elim log.activities ([·])).Nodup := by
  cases given? part with
  | none => exact (Itemset.pairwise_activities log).nodup
  | some given => exact List.nodup_singleton given

theorem mem_openTemplates {target : Option String} {greatest : UInt64} {t : Template}
    {n : Option UInt64} :
    (t, n) ∈ openTemplates target greatest ↔
      (t.isBinary ∧ t.isDerived = false) ∧ n = none ∨
        target = none ∧ t.isBinary = false ∧ n ∈ t.cardinalities greatest := by
  have binary : (t, n) ∈ Template.binary.map (·, none) ↔
      (t.isBinary ∧ t.isDerived = false) ∧ n = none := by
    rw [← Template.mem_binary, List.mem_map]
    constructor
    · rintro ⟨t', mem, same⟩
      cases same
      exact ⟨mem, rfl⟩
    · rintro ⟨mem, rfl⟩
      exact ⟨t, mem, rfl⟩
  have unary : (t, n) ∈ Template.unary.flatMap (fun t => (t.cardinalities greatest).map (t, ·)) ↔
      t.isBinary = false ∧ n ∈ t.cardinalities greatest := by
    rw [← Template.mem_unary, List.mem_flatMap]
    constructor
    · rintro ⟨t', mem, made⟩
      obtain ⟨n', mem', same⟩ := List.mem_map.1 made
      cases same
      exact ⟨mem, mem'⟩
    · rintro ⟨mem, mem'⟩
      exact ⟨t, mem, List.mem_map.2 ⟨n, mem', rfl⟩⟩
  rw [openTemplates, List.mem_append, binary]
  cases target with
  | none => simpa using or_congr_right unary
  | some given => simp

theorem nodup_openTemplates (target : Option String) (greatest : UInt64) :
    (openTemplates target greatest).Nodup := by
  have binary : (Template.binary.map fun t => (t, (none : Option UInt64))).Nodup := by decide
  rw [openTemplates]
  cases target with
  | some given => exact List.nodup_append.2 ⟨binary, .nil, fun _ _ _ mem => nomatch mem⟩
  | none =>
      refine List.nodup_append.2 ⟨binary, List.nodup_flatMap.2 ⟨?_, ?_⟩, ?_⟩
      · intro t _
        exact (nodup_cardinalities t greatest).map fun _ _ same => (Prod.mk.inj same).2
      · apply (by decide : Template.unary.Nodup).imp
        intro t t' different choice made made'
        obtain ⟨n, -, rfl⟩ := List.mem_map.1 made
        obtain ⟨n', -, same⟩ := List.mem_map.1 made'
        exact different (Prod.mk.inj same).1.symm
      · intro choice mem choice' mem' same
        obtain ⟨t, isBinary, rfl⟩ := List.mem_map.1 mem
        obtain ⟨t', isUnary, made⟩ := List.mem_flatMap.1 mem'
        obtain ⟨n, -, rfl⟩ := List.mem_map.1 made
        obtain rfl : t = t' := congrArg Prod.fst same
        rw [Template.mem_unary] at isUnary
        rw [Template.mem_binary, isUnary] at isBinary
        exact absurd isBinary.1 Bool.false_ne_true

theorem mem_templates {template : Option (Template × Option UInt64)}
    (read : q.template? = .ok template) {greatest : UInt64} {t : Template} {n : Option UInt64} :
    (t, n) ∈ template.elim (openTemplates (given? q.target) greatest) ([·]) ↔
      q.Admits greatest t n := by
  cases template with
  | some given =>
      constructor
      · intro mem
        obtain rfl := List.mem_singleton.1 mem
        exact .given read
      · intro admitted
        cases admitted with
        | given h => simpa using Option.some.inj (Except.ok.inj (h.symm.trans read))
        | binary opened | unary opened | counting opened =>
            cases (Except.ok.inj (opened.symm.trans read))
  | none =>
      rw [Option.elim_none, mem_openTemplates, mem_cardinalities]
      constructor
      · rintro (⟨⟨isBinary, notDerived⟩, rfl⟩ | ⟨targetless, isUnary, numbers⟩)
        · exact .binary read isBinary notDerived
        · split at numbers
          · next takes =>
              obtain ⟨k, least, most, rfl⟩ := numbers
              exact .counting read targetless takes least most
          · next plain =>
              rw [numbers]
              exact .unary read targetless isUnary (Bool.eq_false_iff.2 plain)
      · intro admitted
        cases admitted with
        | given h => cases (Except.ok.inj (h.symm.trans read))
        | binary _ isBinary notDerived => exact .inl ⟨⟨isBinary, notDerived⟩, rfl⟩
        | unary _ targetless isUnary plain =>
            refine .inr ⟨targetless, isUnary, ?_⟩
            rw [plain]
            rfl
        | counting _ targetless takes least most =>
            have isUnary : t.isBinary = false := by
              cases t <;> first | rfl | cases takes
            refine .inr ⟨targetless, isUnary, ?_⟩
            rw [if_pos takes]
            exact ⟨_, least, most, rfl⟩

section

variable {activations targets : List String} {t : Template} {n : Option UInt64} {a : Assignment}

theorem mem_assignmentsOf :
    a ∈ q.assignmentsOf activations targets t n ↔
      if t.isBinary then
        ∃ x ∈ activations, ∃ y ∈ targets, x ≠ y ∧ q.binaryAssignment t x y = a
      else ∃ x ∈ activations, q.unaryAssignment t n x = a := by
  rw [assignmentsOf]
  split
  · simp only [List.mem_flatMap, List.mem_map, List.mem_filter, decide_eq_true_eq, and_assoc]
  · exact List.mem_map

/-- The template, and the number of a unary one, can be told from an assignment. -/
theorem template_of_mem_assignmentsOf (mem : a ∈ q.assignmentsOf activations targets t n) :
    a.constraint.template = t ∧ (t.isBinary = false → a.constraint.cardinality = n) := by
  rw [mem_assignmentsOf] at mem
  split at mem
  · next isBinary =>
      obtain ⟨x, -, y, -, -, rfl⟩ := mem
      refine ⟨?_, fun isUnary => absurd isBinary (by simp [isUnary])⟩
      rw [binaryAssignment]
      split <;> rfl
  · obtain ⟨x, -, rfl⟩ := mem
    exact ⟨rfl, fun _ => rfl⟩

theorem nodup_assignmentsOf (h : activations.Nodup) (h' : targets.Nodup) :
    (q.assignmentsOf activations targets t n).Nodup := by
  rw [assignmentsOf]
  split
  · refine List.nodup_flatMap.2 ⟨?_, ?_⟩
    · intro x _
      exact (h'.filter _).map fun _ _ same => Option.some.inj (congrArg Assignment.target same)
    · apply h.imp
      intro x x' different a made made'
      obtain ⟨y, -, rfl⟩ := List.mem_map.1 made
      obtain ⟨y', -, same⟩ := List.mem_map.1 made'
      exact different (congrArg Assignment.activation same).symm
  · exact h.map fun _ _ same => congrArg Assignment.activation same

end

variable {template : Option (Template × Option UInt64)} {a : Assignment}

theorem mem_assignments (read : q.template? = .ok template) :
    a ∈ q.assignments log o template ↔ q.IsAssignment log o.maxCardinality a := by
  rw [assignments, List.mem_flatMap]
  constructor
  · rintro ⟨⟨t, n⟩, mem, made⟩
    have admitted := (mem_templates read).1 mem
    rw [mem_assignmentsOf] at made
    split at made
    · next isBinary =>
        obtain ⟨x, fills, y, fillsTarget, different, rfl⟩ := made
        exact .binary admitted isBinary (mem_choices.1 fills) (mem_choices.1 fillsTarget) different
    · next isUnary =>
        obtain ⟨x, fills, rfl⟩ := made
        exact .unary admitted (Bool.eq_false_iff.2 isUnary) (mem_choices.1 fills)
  · intro assignment
    cases assignment with
    | @unary t n x admitted isUnary fills =>
        refine ⟨(t, n), (mem_templates read).2 admitted, mem_assignmentsOf.2 ?_⟩
        rw [isUnary]
        exact ⟨x, mem_choices.2 fills, rfl⟩
    | @binary t n x y admitted isBinary fills fillsTarget different =>
        refine ⟨(t, n), (mem_templates read).2 admitted, mem_assignmentsOf.2 ?_⟩
        rw [if_pos isBinary]
        exact ⟨x, mem_choices.2 fills, y, mem_choices.2 fillsTarget, different, rfl⟩

/-- Nothing is tried twice. -/
theorem nodup_assignments (q : Query) (log : Log) (o : QueryOptions)
    (template : Option (Template × Option UInt64)) : (q.assignments log o template).Nodup := by
  have ofEach (t : Template) (n : Option UInt64) :
      (q.assignmentsOf ((given? q.activation).elim log.activities ([·]))
        ((given? q.target).elim log.activities ([·])) t n).Nodup :=
    nodup_assignmentsOf (nodup_choices _ log) (nodup_choices _ log)
  rw [assignments]
  cases template with
  | some given => simpa using ofEach given.1 given.2
  | none =>
      refine List.nodup_flatMap.2 ⟨fun choice _ => ofEach choice.1 choice.2, ?_⟩
      apply (nodup_openTemplates _ _).imp_of_mem
      rintro ⟨t, n⟩ ⟨t', n'⟩ tried tried' different a made made'
      obtain ⟨template, number⟩ := template_of_mem_assignmentsOf made
      obtain ⟨template', number'⟩ := template_of_mem_assignmentsOf made'
      obtain rfl : t = t' := template.symm.trans template'
      -- a binary template is tried with no number, and a unary assignment tells its number
      apply different
      rcases mem_openTemplates.1 tried with ⟨-, rfl⟩ | ⟨-, isUnary, -⟩
      · rcases mem_openTemplates.1 tried' with ⟨-, rfl⟩ | ⟨-, isUnary, -⟩
        · rfl
        · exact congrArg _ ((number isUnary).symm.trans (number' isUnary))
      · exact congrArg _ ((number isUnary).symm.trans (number' isUnary))

theorem compile_of_isAssignment (read : q.predicates catalog = .ok p) {greatest : UInt64}
    (h : q.IsAssignment log greatest a) :
    a.constraint.compile catalog = .ok (compiled p a) := by
  cases h with
  | unary => exact compile_unaryAssignment read ..
  | binary => exact compile_binaryAssignment read ..

/-- The activity that a constraint names as its activation is the one that was filled in. -/
theorem activationActivity_of_isAssignment {greatest : UInt64}
    (h : q.IsAssignment log greatest a) : a.constraint.activationActivity = a.activation := by
  cases h with
  | @unary t n x => exact ite_self (c := t.isReversed = true) x
  | @binary t n x y =>
      cases reversed : t.isReversed <;>
        simp [binaryAssignment, Constraint.activationActivity, Constraint.withConditions,
          Constraint.binary, reversed]

/-- What is supported among what is tried is what answers the query. -/
theorem isAnswer_iff (size : log.size < UInt64.size)
    (read : q.predicates (.ofNames log.attributeNames) = .ok p) :
    q.IsAnswer log o a ↔
      q.IsAssignment log o.maxCardinality a ∧
        (compiled p a).isSupported log o.vacuity o.minSupport := by
  have supported_iff : (compiled p a).isSupported log o.vacuity o.minSupport ↔
      log.size ≠ 0 ∧
        o.minSupport ≤ share (log.readable.countP ((compiled p a).isSatisfied o.vacuity))
          log.size := by
    rw [Compiled.isSupported_eq _ _ _ size, Bool.and_eq_true, bne_iff_ne, reaches,
      decide_eq_true_iff]
  rw [supported_iff]
  constructor
  · rintro ⟨assignment, c, compiles, satisfied⟩
    rw [compile_of_isAssignment read assignment] at compiles
    cases compiles
    exact ⟨assignment, satisfied⟩
  · rintro ⟨assignment, satisfied⟩
    exact ⟨assignment, _, compile_of_isAssignment read assignment, satisfied⟩

/-- The answer to a query lists, in the order in which they are tried and each once, the ways to
fill in its open parts that enough traces satisfy. Each of them names its activation, and its
constraint can be compiled on its own and is supported then. If one is enough, it is the first. -/
theorem answer_exact {found : List Assignment} (size : log.size < UInt64.size)
    (answered : q.answer log { o with returnFirst := false } = .ok found) :
    (∃ template, q.template? = .ok template ∧ found.Sublist (q.assignments log o template)) ∧
      found.Nodup ∧
      (∀ a, a ∈ found ↔ q.IsAnswer log o a) ∧
      (∀ a ∈ found, a.constraint.activationActivity = a.activation ∧
        ∃ c, a.constraint.compile (.ofNames log.attributeNames) = .ok c ∧
          c.isSupported log o.vacuity o.minSupport) ∧
      q.answer log { o with returnFirst := true } = .ok found.head?.toList := by
  obtain ⟨template, p, checked, read⟩ := exists_of_answer answered
  have template_read : q.template? = .ok template := template?_of_check checked
  have found_eq : found = (q.assignments log o template).filter fun a =>
      (compiled p a).isSupported log o.vacuity o.minSupport := by
    rw [answer_eq checked read] at answered
    exact (Except.ok.inj answered).symm
  have mem_found (a : Assignment) : a ∈ found ↔ q.IsAssignment log o.maxCardinality a ∧
      (compiled p a).isSupported log o.vacuity o.minSupport := by
    rw [found_eq, List.mem_filter, mem_assignments template_read]
  refine ⟨⟨template, template_read, ?_⟩, ?_, ?_, ?_, ?_⟩
  · rw [found_eq]
    exact List.filter_sublist
  · rw [found_eq]
    exact (nodup_assignments q log o template).filter _
  · intro a
    rw [mem_found, isAnswer_iff size read]
  · intro a mem
    obtain ⟨assignment, supported⟩ := (mem_found a).1 mem
    exact ⟨activationActivity_of_isAssignment assignment, _,
      compile_of_isAssignment read assignment, supported⟩
  · rw [answer_eq (o := { o with returnFirst := true }) checked read, found_eq, List.head?_filter]
    rfl

/-- Two shipments, only one of them express. -/
def shipments : Log where
  traces :=
    [some { events :=
        [⟨"Order", .epoch, []⟩, ⟨"Ship", .epoch, [⟨"express", .string "yes"⟩]⟩] },
      some { events := [⟨"Pay", .epoch, []⟩, ⟨"Ship", .epoch, [⟨"express", .string "no"⟩]⟩] }]

/-- What comes directly before express shipments. -/
def beforeExpress : Query where
  template := some " chain precedence "
  activation := some "Ship"
  activationCondition := " A.express is 'yes' "

theorem predicates_beforeExpress :
    beforeExpress.predicates (.ofNames shipments.attributeNames) =
      .ok { activation := .is ⟨.activation, "express"⟩ "yes" false } := by
  have tokens : Condition.Token.tokenize " A.express is 'yes' ".toList =
      .ok [.word "A.express", .word "is", .quoted "yes"] := by decide +kernel
  have operand : Condition.Scope.HasOperand ⟨.activation, .ofNames shipments.attributeNames⟩
      ⟨.activation, "express"⟩ := ⟨⟨by decide, by decide +kernel⟩, nofun⟩
  have literal : Condition.Scope.HasLiterals ⟨.activation, .ofNames shipments.attributeNames⟩
      "express" ["yes"] := by
    intro v mem
    obtain rfl := List.mem_singleton.1 mem
    exact ⟨.inl (by decide), nofun⟩
  have activation : Condition.read .activation (.ofNames shipments.attributeNames)
      " A.express is 'yes' " = .ok (.is ⟨.activation, "express"⟩ "yes" false) := by
    rw [Condition.read, tokens]
    exact congrArg (Except.mapError _)
      (Condition.ofTokens_of_spells (.is _ "yes" false) ⟨operand, literal⟩)
  rw [predicates, show beforeExpress.activationCondition = " A.express is 'yes' " from rfl,
    activation, show beforeExpress.correlationCondition = "" from rfl,
    Condition.read_empty]
  rfl

theorem answer_beforeExpress :
    let order : Assignment :=
      { activation := "Ship"
        target := some "Order"
        constraint := (Constraint.binary .chainPrecedence "Order" "Ship").withConditions
          "A.express is 'yes'" "" "" }
    shipments.size < UInt64.size ∧
      beforeExpress.answer shipments { minSupport := 0.5 } = .ok [order] ∧
      beforeExpress.answer shipments { minSupport := 0.5, returnFirst := true } = .ok [order] := by
  intro order
  have size : shipments.size < UInt64.size := by decide
  have answered : beforeExpress.answer shipments { minSupport := 0.5 } = .ok [order] := by
    have checked : beforeExpress.check { minSupport := 0.5 } =
        .ok (some (.chainPrecedence, none)) := rfl
    rw [answer_eq checked predicates_beforeExpress]
    refine congrArg Except.ok ?_
    decide +kernel
  obtain ⟨-, -, -, -, first⟩ := answer_exact (o := { minSupport := 0.5 }) size answered
  exact ⟨size, answered, first⟩

end Query

end Declare
