import Declare.Proofs.Condition.RoundTrip

/-!
# What is known of a condition that was read

A condition is checked while it is read, each atom where it stands. So all atoms of a condition that
was read are admitted by the catalog and by the role, however deep they are nested, and a condition
on the activating event alone does not look at the target (`Condition.read_checked`).

Reading with the role of a correlation makes fewer checks and is the same otherwise. Both facts are
carried through the readers together, as a judgement on the results for one and the same tokens
(`Condition.Agrees`).
-/

namespace Declare

namespace Condition

/-- The parts of a condition that are no conjunctions and disjunctions, from left to right. -/
def atoms : Condition → List Condition
  | and l r | or l r => l.atoms ++ r.atoms
  | c => [c]

/-- The attribute that an atom speaks of. -/
def attr? : Condition → Option String
  | is o _ _ | member o _ _ | compare o _ _ => some o.attr
  | same attr | different attr => some attr
  | const _ | and _ _ | or _ _ => none

/-- The atoms that the catalog and the role admit. -/
def Scope.Allows (scope : Scope) : Condition → Prop
  | const _ => True
  | is o value _ => scope.MayRead o ∧ scope.catalog.IsLiteral o.attr value
  | member o values _ =>
    scope.MayRead o ∧ values ≠ [] ∧ ∀ v ∈ values, scope.catalog.IsLiteral o.attr v
  | compare o _ _ => scope.MayRead o ∧ ∀ d ∈ scope.catalog.domain? o.attr, d.isNumeric = true
  | same attr | different attr => scope.catalog.knows attr = true ∧ scope.role = .correlation
  | and _ _ | or _ _ => False

/-- All atoms of the condition are admitted. -/
def Checked (scope : Scope) (c : Condition) : Prop :=
  ∀ atom ∈ c.atoms, scope.Allows atom

theorem checked_of_allows {scope : Scope} {c : Condition} (h : scope.Allows c) :
    Checked scope c := by
  cases c with
  | and l r => cases h
  | or l r => cases h
  | _ => exact List.forall_mem_singleton.2 h

theorem Checked.and {scope : Scope} {l r : Condition} (left : Checked scope l)
    (right : Checked scope r) : Checked scope (.and l r) :=
  List.forall_mem_append.2 ⟨left, right⟩

theorem Checked.or {scope : Scope} {l r : Condition} (left : Checked scope l)
    (right : Checked scope r) : Checked scope (.or l r) :=
  List.forall_mem_append.2 ⟨left, right⟩

theorem Scope.Allows.known {scope : Scope} {c : Condition} (h : scope.Allows c) {attr : String}
    (speaks : attr ∈ c.attr?) : scope.catalog.knows attr = true := by
  cases c with
  | is o value negated => cases speaks; exact h.1.known
  | member o values negated => cases speaks; exact h.1.known
  | compare o op bound => cases speaks; exact h.1.known
  | same a => cases speaks; exact h.1
  | different a => cases speaks; exact h.1
  | _ => cases speaks

section

variable {scope : Scope} (role : scope.role = .activation)
include role

theorem Scope.MayRead.value?_eq {o : Operand} (h : scope.MayRead o) (a : Event)
    (t : Option Event) : o.value? a t = o.value? a none := by
  obtain ⟨side, attr⟩ := o
  cases side with
  | activation => rfl
  | target => cases role.symm.trans (h.side rfl)

/-- A condition that was checked in the role of an activation does not look at the target. -/
theorem Checked.eval_eq {c : Condition} (h : Checked scope c) (a : Event) (t : Option Event) :
    c.eval a t = c.eval a none := by
  induction c with
  | const b => rfl
  | and l r left right =>
      obtain ⟨hl, hr⟩ := List.forall_mem_append.1 h
      rw [eval, eval, left hl, right hr]
  | or l r left right =>
      obtain ⟨hl, hr⟩ := List.forall_mem_append.1 h
      rw [eval, eval, left hl, right hr]
  | is o value negated =>
      have allowed := List.forall_mem_singleton.1 h
      rw [eval, eval, allowed.1.value?_eq role]
  | member o values negated =>
      have allowed := List.forall_mem_singleton.1 h
      rw [eval, eval, allowed.1.value?_eq role]
  | compare o op bound =>
      have allowed := List.forall_mem_singleton.1 h
      rw [eval, eval, allowed.1.value?_eq role]
  | same attr => cases role.symm.trans (List.forall_mem_singleton.1 h).2
  | different attr => cases role.symm.trans (List.forall_mem_singleton.1 h).2

end

variable {scope : Scope}

theorem ne_nil_of_readValues {tokens rest : List Token} {values : List String}
    (h : (readValues tokens).result = .ok (values, rest)) : values ≠ [] := by
  rw [result_readValues] at h
  obtain ⟨⟨v, left⟩, -, h⟩ := exists_of_bind_eq_ok h
  dsimp only at h
  split at h
  · cases h
    exact List.cons_ne_nil _ []
  · obtain ⟨⟨vs, left⟩, -, h⟩ := exists_of_bind_eq_ok h
    cases h
    exact List.cons_ne_nil _ vs
  · cases h

section

variable {o : Operand} (mayRead : scope.MayRead o) {tokens rest : List Token} {c : Condition}
include mayRead

theorem allows_of_readIsValue {negated : Bool}
    (h : (readIsValue scope o negated tokens).result = .ok (c, rest)) : scope.Allows c := by
  rw [result_readIsValue] at h
  obtain ⟨⟨v, left⟩, -, h⟩ := exists_of_bind_eq_ok h
  obtain ⟨⟨⟩, literal, h⟩ := exists_of_map_eq_ok h
  cases h
  exact ⟨mayRead, (isLiteral_iff "is").2 literal⟩

theorem allows_of_readIs (h : (readIs scope o tokens).result = .ok (c, rest)) :
    scope.Allows c := by
  cases tokens with
  | nil => cases h
  | cons t more =>
      rw [readIs] at h
      split at h
      · rw [Takes.result_cons] at h
        exact allows_of_readIsValue mayRead h
      · exact allows_of_readIsValue mayRead h

theorem allows_of_readMember {negated : Bool}
    (h : (readMember scope o negated tokens).result = .ok (c, rest)) : scope.Allows c := by
  cases tokens with
  | nil => cases h
  | cons t more =>
      cases t with
      | openParen =>
          rw [result_readMember] at h
          obtain ⟨⟨vs, left⟩, values, h⟩ := exists_of_bind_eq_ok h
          obtain ⟨⟨⟩, literals, h⟩ := exists_of_map_eq_ok h
          cases h
          exact ⟨mayRead, ne_nil_of_readValues values, (checkLiterals_eq_ok_iff "in").1 literals⟩
      | _ => cases h

theorem allows_of_readNotMember (h : (readNotMember scope o tokens).result = .ok (c, rest)) :
    scope.Allows c := by
  cases tokens with
  | nil => cases h
  | cons t more =>
      rw [readNotMember] at h
      split at h
      · rw [Takes.result_cons] at h
        exact allows_of_readMember mayRead h
      · cases h

theorem allows_of_readBound {op : Comparison}
    (h : (readBound scope o op tokens).result = .ok (c, rest)) : scope.Allows c := by
  cases tokens with
  | nil => cases h
  | cons t more =>
      cases t with
      | word w =>
          rw [readBound] at h
          split at h
          · obtain ⟨⟨c', left⟩, read, h⟩ := exists_of_map_eq_ok h
            obtain ⟨⟨⟩, domain, read⟩ := exists_of_bind_eq_ok read
            cases read
            cases h
            exact ⟨mayRead, checkComparison_eq_ok_iff.1 domain⟩
          · cases h
      | _ => cases h

/-- What is said of an operand that may be read is admitted, whichever way it is said. -/
theorem allows_of_readPredicate (h : (readPredicate scope o tokens).result = .ok (c, rest)) :
    scope.Allows c := by
  cases tokens with
  | nil => cases h
  | cons t more =>
      rw [result_readPredicate_cons] at h
      split at h
      · exact allows_of_readIs mayRead h
      split at h
      · exact allows_of_readMember mayRead h
      split at h
      · exact allows_of_readNotMember mayRead h
      split at h
      · exact allows_of_readBound mayRead h
      · cases h

end

/-- The same catalog, in the role of a correlation. -/
def Scope.asCorrelation (scope : Scope) : Scope where
  role := .correlation
  catalog := scope.catalog

theorem Scope.asCorrelation_eq (h : scope.role = .correlation) : scope.asCorrelation = scope := by
  rw [asCorrelation, ← h]

/-- What the first reading gives is checked, and the second one gives the same. -/
def Agrees (scope : Scope) (r wide : Except ConditionProblem (Condition × List Token)) : Prop :=
  ∀ c rest, r = .ok (c, rest) → Checked scope c ∧ wide = .ok (c, rest)

theorem agrees_ok {c : Condition} (h : Checked scope c) (rest : List Token) :
    Agrees scope (.ok (c, rest)) (.ok (c, rest)) := by
  rintro c' rest' ⟨⟩
  exact ⟨h, rfl⟩

theorem agrees_error (e : ConditionProblem)
    (wide : Except ConditionProblem (Condition × List Token)) : Agrees scope (.error e) wide := by
  rintro c rest ⟨⟩

/-- Reading goes on from the same condition and the same tokens. -/
theorem Agrees.bind {r wide : Except ConditionProblem (Condition × List Token)}
    {next nextWide : Condition × List Token → Except ConditionProblem (Condition × List Token)}
    (h : Agrees scope r wide)
    (more : ∀ c rest, r = .ok (c, rest) → Checked scope c →
      Agrees scope (next (c, rest)) (nextWide (c, rest))) :
    Agrees scope (r.bind next) (wide.bind nextWide) := by
  intro c rest read
  obtain ⟨⟨first, left⟩, readFirst, readMore⟩ := exists_of_bind_eq_ok read
  obtain ⟨checked, sameFirst⟩ := h first left readFirst
  obtain ⟨checkedAll, same⟩ := more first left readFirst checked c rest readMore
  exact ⟨checkedAll, by rw [sameFirst]; exact same⟩

theorem agrees_readShared (keyword : String) {make : String → Condition}
    (allowed : ∀ attr, scope.catalog.knows attr = true → scope.role = .correlation →
      scope.Allows (make attr)) (tokens : List Token) :
    Agrees scope (readShared scope keyword make tokens).result
      (readShared scope.asCorrelation keyword make tokens).result := by
  intro c rest h
  cases tokens with
  | nil => cases h
  | cons t more =>
      cases t with
      | word attr =>
          cases role : scope.role with
          | activation =>
              rw [readShared, if_pos role] at h
              cases h
          | correlation =>
              rw [Scope.asCorrelation_eq role]
              refine ⟨?_, h⟩
              rw [result_readShared scope more role] at h
              obtain ⟨⟨⟩, known, h⟩ := exists_of_map_eq_ok h
              cases h
              exact checked_of_allows (allowed attr (checkAttribute_eq_ok_iff.1 known) role)
      | _ => cases h

theorem checkOperand_asCorrelation {w : String} {o : Operand}
    (h : checkOperand scope w = .ok o) : checkOperand scope.asCorrelation w = .ok o := by
  obtain ⟨word, named, mayRead⟩ := checkOperand_eq_ok_iff.1 h
  apply checkOperand_eq_ok_iff.2
  exact ⟨word, named, mayRead.known, fun _ => rfl⟩

theorem agrees_readOperand (w : String) (tokens : List Token) :
    Agrees scope (readOperand scope w tokens).result
      (readOperand scope.asCorrelation w tokens).result := by
  intro c rest h
  rw [result_readOperand] at h
  obtain ⟨o, operand, h⟩ := exists_of_bind_eq_ok h
  have mayRead := (checkOperand_eq_ok_iff.1 operand).2.2
  refine ⟨checked_of_allows (allows_of_readPredicate mayRead h), ?_⟩
  rw [result_readOperand, checkOperand_asCorrelation operand]
  -- what is said of an operand is checked against the catalog only
  exact h

theorem agrees_readWord (w : String) (tokens : List Token) :
    Agrees scope (readWord scope w tokens).result
      (readWord scope.asCorrelation w tokens).result := by
  have const (b : Bool) : Checked scope (.const b) := checked_of_allows trivial
  have same (attr : String) (known : scope.catalog.knows attr = true)
      (role : scope.role = .correlation) : scope.Allows (.same attr) := ⟨known, role⟩
  have different (attr : String) (known : scope.catalog.knows attr = true)
      (role : scope.role = .correlation) : scope.Allows (.different attr) := ⟨known, role⟩
  rw [readWord, readWord]
  split
  · exact agrees_ok (const true) tokens
  split
  · exact agrees_ok (const false) tokens
  split
  · rw [Takes.result_toReads, Takes.result_toReads]
    exact agrees_readShared w same tokens
  split
  · rw [Takes.result_toReads, Takes.result_toReads]
    exact agrees_readShared w different tokens
  · rw [Takes.result_toReads, Takes.result_toReads]
    exact agrees_readOperand w tokens

theorem length_lt_of_result {α : Type} {tokens rest : List Token} {r : Takes α tokens} {a : α}
    (h : r.result = .ok (a, rest)) : rest.length < tokens.length := by
  obtain ⟨left, -, rfl⟩ := Takes.exists_of_result h
  exact left.lt

mutual

theorem agrees_readAtom (scope : Scope) (tokens : List Token) :
    Agrees scope (readAtom scope tokens).result (readAtom scope.asCorrelation tokens).result := by
  match tokens with
  | [] =>
      rw [readAtom]
      exact agrees_error _ _
  | .openParen :: inner =>
      rw [result_readAtom_openParen, result_readAtom_openParen]
      apply (agrees_readOr scope inner).bind
      intro c rest _ checked
      cases rest with
      | nil => exact agrees_error _ _
      | cons t rest =>
          cases t with
          | closeParen => exact agrees_ok checked rest
          | _ => exact agrees_error _ _
  | .word w :: rest =>
      rw [result_readAtom_word, result_readAtom_word]
      exact agrees_readWord w rest
  | .closeParen :: _ | .comma :: _ | .comparison _ :: _ | .quoted _ :: _ =>
      rw [readAtom]
      · exact agrees_error _ _
      · nofun
      · nofun
termination_by (tokens.length, 0)

theorem agrees_readAnd (scope : Scope) (tokens : List Token) :
    Agrees scope (readAnd scope tokens).result (readAnd scope.asCorrelation tokens).result := by
  rw [result_readAnd, result_readAnd]
  apply (agrees_readAtom scope tokens).bind
  intro left rest read checked
  have shorter := length_lt_of_result read
  exact agrees_readAndTail scope checked rest
termination_by (tokens.length, 1)

theorem agrees_readAndTail (scope : Scope) {left : Condition} (checked : Checked scope left)
    (tokens : List Token) :
    Agrees scope (readAndTail scope left tokens).result
      (readAndTail scope.asCorrelation left tokens).result := by
  match tokens with
  | [] =>
      rw [result_readAndTail_nil, result_readAndTail_nil]
      exact agrees_ok checked []
  | t :: more =>
      rw [result_readAndTail_cons, result_readAndTail_cons]
      split
      · apply (agrees_readAtom scope more).bind
        intro right rest read checkedRight
        have shorter := length_lt_of_result read
        exact agrees_readAndTail scope (checked.and checkedRight) rest
      · exact agrees_ok checked (t :: more)
termination_by (tokens.length, 0)

theorem agrees_readOr (scope : Scope) (tokens : List Token) :
    Agrees scope (readOr scope tokens).result (readOr scope.asCorrelation tokens).result := by
  rw [result_readOr, result_readOr]
  apply (agrees_readAnd scope tokens).bind
  intro left rest read checked
  have shorter := length_lt_of_result read
  exact agrees_readOrTail scope checked rest
termination_by (tokens.length, 2)

theorem agrees_readOrTail (scope : Scope) {left : Condition} (checked : Checked scope left)
    (tokens : List Token) :
    Agrees scope (readOrTail scope left tokens).result
      (readOrTail scope.asCorrelation left tokens).result := by
  match tokens with
  | [] =>
      rw [result_readOrTail_nil, result_readOrTail_nil]
      exact agrees_ok checked []
  | t :: more =>
      rw [result_readOrTail_cons, result_readOrTail_cons]
      split
      · apply (agrees_readAnd scope more).bind
        intro right rest read checkedRight
        have shorter := length_lt_of_result read
        exact agrees_readOrTail scope (checked.or checkedRight) rest
      · exact agrees_ok checked (t :: more)
termination_by (tokens.length, 0)

end

theorem agrees_ofTokens {tokens : List Token} {c : Condition}
    (h : ofTokens scope tokens = .ok c) :
    Checked scope c ∧ ofTokens scope.asCorrelation tokens = .ok c := by
  cases tokens with
  | nil =>
      cases h
      exact ⟨checked_of_allows trivial, rfl⟩
  | cons t more =>
      have ne := List.cons_ne_nil t more
      obtain ⟨checked, same⟩ := agrees_readOr scope _ c [] ((ofTokens_eq_ok_iff scope ne).1 h)
      exact ⟨checked, (ofTokens_eq_ok_iff _ ne).2 same⟩

theorem Checked.not_enumeration {c : Condition} (h : Checked scope c) {o : Operand}
    {op : Comparison} {bound : Float} (mem : compare o op bound ∈ c.atoms) (values : List String) :
    scope.catalog.domain? o.attr ≠ some (.enumeration values) := by
  intro domain
  cases (h _ mem).2 _ domain

/-- A condition that was read speaks of known attributes only, compares no attribute with a number
whose domain lists values, and compares attributes with a numeric domain with numbers only; no list
of values in it is empty. As a condition on the activating event alone it does not depend on the
target, and it reads as the same condition in the role of a correlation. -/
theorem read_checked {role : Role} {catalog : Catalog} {text : String} {c : Condition}
    (h : read role catalog text = .ok c) :
    (∀ atom ∈ c.atoms, ∀ attr ∈ atom.attr?, catalog.knows attr = true) ∧
      (∀ o op bound, compare o op bound ∈ c.atoms →
        ∀ values, catalog.domain? o.attr ≠ some (.enumeration values)) ∧
      (∀ o value negated, is o value negated ∈ c.atoms → catalog.IsLiteral o.attr value) ∧
      (∀ o values negated, member o values negated ∈ c.atoms →
        values ≠ [] ∧ ∀ v ∈ values, catalog.IsLiteral o.attr v) ∧
      (role = .activation →
        (∀ a t, c.eval a t = c.eval a none) ∧ read .correlation catalog text = .ok c) := by
  obtain ⟨tokens, tokenized, spelled⟩ := read_eq_ok_iff.1 h
  obtain ⟨checked, same⟩ := agrees_ofTokens spelled
  refine ⟨?_, ?_, ?_, ?_, ?_⟩
  · intro atom mem attr speaks
    exact (checked atom mem).known speaks
  · intro o op bound mem
    exact checked.not_enumeration mem
  · intro o value negated mem
    exact (checked _ mem).2
  · intro o values negated mem
    exact (checked _ mem).2
  · intro activation
    exact ⟨checked.eval_eq activation, read_eq_ok_iff.2 ⟨tokens, tokenized, same⟩⟩

/-- A risk that is not low, and one of the two lowest grades. -/
def lowGrade : Condition :=
  .and (.is ⟨.activation, "risk"⟩ "low" true) (.member ⟨.activation, "grade"⟩ ["1", "2"] false)

theorem admitted_lowGrade : lowGrade.Admitted ⟨.activation, gradeCatalog⟩ := by
  have known (o : Operand) (word : Token.IsWord o.attr) (side : o.side = .activation)
      (knows : gradeCatalog.knows o.attr = true) :
      Scope.HasOperand ⟨.activation, gradeCatalog⟩ o := by
    refine ⟨⟨word, knows⟩, ?_⟩
    rw [side]
    rintro ⟨⟩
  refine ⟨⟨known _ (by decide) rfl rfl, ?_⟩, known _ (by decide) rfl rfl, by decide, ?_⟩
  · intro v mem
    obtain rfl := List.mem_singleton.1 mem
    refine ⟨.inl (by decide), ?_⟩
    rintro d ⟨⟩ numeric
    cases numeric
  · have numbers : ∀ v ∈ ["1", "2"], '"' ∉ v.toList ∧ (Decimal.read? v.toList).isSome := by
      decide +kernel
    intro v mem
    exact ⟨.inl (numbers v mem).1, fun _ _ _ => (numbers v mem).2⟩

/-- Both atoms are admitted, though one of them is negated and the other one is behind it. -/
theorem read_checked_lowGrade :
    read .activation gradeCatalog "A.risk is not 'low' and A.grade in ('1', '2')" = .ok lowGrade ∧
      gradeCatalog.IsLiteral "grade" "2" ∧
      (∀ a t, lowGrade.eval a t = lowGrade.eval a none) ∧
      read .correlation gradeCatalog "A.risk is not 'low' and A.grade in ('1', '2')" =
        .ok lowGrade := by
  have tokenized : Token.tokenize "A.risk is not 'low' and A.grade in ('1', '2')".toList =
      .ok [.word "A.risk", .word "is", .word "not", .quoted "low", .word "and", .word "A.grade",
        .word "in", .openParen, .quoted "1", .comma, .quoted "2", .closeParen] :=
    Token.tokenize_eq_ok (by decide +kernel)
  have spelled : Spells lowGrade [.word "A.risk", .word "is", .word "not", .quoted "low",
      .word "and", .word "A.grade", .word "in", .openParen, .quoted "1", .comma, .quoted "2",
      .closeParen] :=
    .and (.is _ "low" true) (.member _ ["1", "2"] false)
  have read : read .activation gradeCatalog "A.risk is not 'low' and A.grade in ('1', '2')" =
      .ok lowGrade :=
    read_eq_ok_iff.2 ⟨_, tokenized, ofTokens_of_spells spelled admitted_lowGrade⟩
  obtain ⟨-, -, -, literals, alone⟩ := read_checked read
  obtain ⟨eval, same⟩ := alone rfl
  have second := literals ⟨.activation, "grade"⟩ ["1", "2"] false (by simp [lowGrade, atoms])
  exact ⟨read, second.2 "2" (by decide), eval, same⟩

end Condition

end Declare
