import Declare.Condition.Reader

/-!
# What readers of conditions read and leave

The readers return what is left of their tokens with the fact that it is shorter, which reading
needs to end. What they read depends on the tokens only, and so does what they leave. Here each
reader is described by its `result`, without that fact: the descriptions are the grammar of
conditions, with one equation for each reader. The checks against the catalog are described by what
they let pass.
-/

namespace Declare

/-- What is computed in two steps went through both. -/
theorem exists_of_bind_eq_ok {ε α β : Type} {x : Except ε α} {f : α → Except ε β} {b : β}
    (h : (x >>= f) = .ok b) : ∃ a, x = .ok a ∧ f a = .ok b := by
  cases x with
  | error e => cases h
  | ok a => exact ⟨a, rfl, h⟩

/-- What is computed from a result needs that result. -/
theorem exists_of_map_eq_ok {ε α β : Type} {x : Except ε α} {f : α → β} {b : β}
    (h : x.map f = .ok b) : ∃ a, x = .ok a ∧ f a = b := by
  cases x with
  | error e => cases h
  | ok a => exact ⟨a, rfl, Except.ok.inj h⟩

/-- The value may be compared with the attribute: it is a number if the domain is numeric. -/
def Catalog.IsLiteral (catalog : Catalog) (attr value : String) : Prop :=
  ∀ d ∈ catalog.domain? attr, d.isNumeric = true → (Decimal.read? value.toList).isSome

namespace Condition

variable {α : Type} {tokens : List Token}

/-- What was read, and the tokens that are left. -/
def Takes.result (r : Takes α tokens) : Except ConditionProblem (α × List Token) :=
  r.map fun (a, rest) => (a, rest.list)

/-- What was read, and the tokens that are left. -/
def Reads.result (r : Reads α tokens) : Except ConditionProblem (α × List Token) :=
  r.map fun (a, rest) => (a, rest.list)

@[simp] theorem Takes.result_cons {t : Token} (r : Takes α tokens) :
    (r.cons (t := t)).result = r.result := by
  cases r <;> rfl

@[simp] theorem Takes.result_toReads (r : Takes α tokens) : r.toReads.result = r.result := by
  cases r <;> rfl

@[simp] theorem Reads.result_proper {t : Token} (r : Reads α tokens) :
    (r.proper (t := t)).result = r.result := by
  cases r <;> rfl

theorem Takes.exists_of_result {r : Takes α tokens} {a : α} {rest : List Token}
    (h : r.result = .ok (a, rest)) : ∃ left, r = .ok (a, left) ∧ left.list = rest := by
  cases r with
  | error e => cases h
  | ok read =>
      cases h
      exact ⟨_, rfl, rfl⟩

variable (scope : Scope)

section

variable {scope}

theorem checkAttribute_eq_ok_iff {attr : String} :
    checkAttribute scope attr = .ok () ↔ scope.catalog.knows attr = true := by
  rw [checkAttribute]
  split <;> simp_all

theorem checkLiterals_eq_ok_iff {attr : String} {values : List String} (operator : String) :
    checkLiterals scope attr operator values = .ok () ↔
      ∀ v ∈ values, scope.catalog.IsLiteral attr v := by
  rw [checkLiterals]
  cases domain : scope.catalog.domain? attr with
  | none => simp [Catalog.IsLiteral, domain]
  | some d =>
      cases numeric : d.isNumeric <;>
        simp [Catalog.IsLiteral, domain, numeric, Option.isSome_iff_ne_none]

theorem isLiteral_iff {attr value : String} (operator : String) :
    scope.catalog.IsLiteral attr value ↔ checkLiterals scope attr operator [value] = .ok () := by
  rw [checkLiterals_eq_ok_iff, List.forall_mem_singleton]

theorem checkComparison_eq_ok_iff {attr : String} {c : Comparison} :
    checkComparison scope attr c = .ok () ↔
      ∀ d ∈ scope.catalog.domain? attr, d.isNumeric = true := by
  rw [checkComparison]
  cases domain : scope.catalog.domain? attr with
  | none => simp
  | some d => cases numeric : d.isNumeric <;> simp [numeric]

end

theorem result_readValue_quoted (s : String) (tokens : List Token) :
    (readValue (.quoted s :: tokens)).result = .ok (s, tokens) :=
  rfl

theorem result_readValues (tokens : List Token) :
    (readValues tokens).result =
      (readValue tokens).result.bind fun
        | (v, .closeParen :: rest) => .ok ([v], rest)
        | (v, .comma :: rest) =>
          (readValues rest).result.bind fun (vs, rest) => .ok (v :: vs, rest)
        | _ => .error (.malformed .unclosedValues) := by
  rw [readValues]
  cases readValue tokens with
  | error e => rfl
  | ok read =>
      obtain ⟨v, list, lt⟩ := read
      cases list with
      | nil => rfl
      | cons t rest =>
          cases t with
          | comma =>
              simp only [ProperRest.next?, Takes.result, Except.map, Except.bind]
              cases readValues rest <;> rfl
          | _ => rfl

section

variable (o : Operand) (rest : List Token)

theorem result_readIsValue (negated : Bool) (tokens : List Token) :
    (readIsValue scope o negated tokens).result =
      (readValue tokens).result.bind fun (v, rest) =>
        (checkLiterals scope o.attr "is" [v]).map fun _ => (.is o v negated, rest) := by
  rw [readIsValue]
  cases readValue tokens with
  | error e => rfl
  | ok read =>
      simp only [bind, Except.bind, Takes.result, Except.map]
      cases checkLiterals scope o.attr "is" [read.1] <;> rfl

theorem result_readIs_not :
    (readIs scope o (.word "not" :: rest)).result = (readIsValue scope o true rest).result := by
  rw [readIs, if_pos (by decide), Takes.result_cons]

theorem result_readIs_quoted (s : String) :
    (readIs scope o (.quoted s :: rest)).result =
      (readIsValue scope o false (.quoted s :: rest)).result := by
  rw [readIs, if_neg nofun]

theorem result_readMember (negated : Bool) :
    (readMember scope o negated (.openParen :: rest)).result =
      (readValues rest).result.bind fun (vs, rest) =>
        (checkLiterals scope o.attr "in" vs).map fun _ => (.member o vs negated, rest) := by
  rw [readMember]
  cases readValues rest with
  | error e => rfl
  | ok read =>
      simp only [bind, Except.bind, Takes.result, Except.map]
      cases checkLiterals scope o.attr "in" read.1 <;> rfl

/-- The first token decides what is said of the operand. -/
theorem result_readPredicate_cons (t : Token) :
    (readPredicate scope o (t :: rest)).result =
      if t.isKeyword ['i', 's'] then (readIs scope o rest).result
      else if t.isKeyword ['i', 'n'] then (readMember scope o false rest).result
      else if t.isKeyword ['n', 'o', 't'] then (readNotMember scope o rest).result
      else
        match t with
        | .comparison c => (readBound scope o c rest).result
        | t => .error (.malformed (.missingPredicate o.attr (some t.text))) := by
  cases t with
  | comparison c => exact Takes.result_cons (readBound scope o c rest)
  | word w =>
      rw [readPredicate]
      · simp only [apply_ite Takes.result, Takes.result_cons]
        rfl
      · rintro c ⟨⟩
  | _ => rfl

theorem result_readPredicate_is :
    (readPredicate scope o (.word "is" :: rest)).result = (readIs scope o rest).result := by
  rw [result_readPredicate_cons, if_pos (by decide)]

theorem result_readPredicate_in :
    (readPredicate scope o (.word "in" :: rest)).result =
      (readMember scope o false rest).result := by
  rw [result_readPredicate_cons, if_neg (by decide), if_pos (by decide)]

theorem result_readPredicate_not_in :
    (readPredicate scope o (.word "not" :: .word "in" :: rest)).result =
      (readMember scope o true rest).result := by
  rw [result_readPredicate_cons, if_neg (by decide), if_neg (by decide), if_pos (by decide),
    readNotMember, if_pos (by decide), Takes.result_cons]

theorem result_readPredicate_comparison (c : Comparison) {w : String} {bound : Float}
    (number : Decimal.read? w.toList = some bound) :
    (readPredicate scope o (.comparison c :: .word w :: rest)).result =
      (checkComparison scope o.attr c).map fun _ => (.compare o c bound, rest) := by
  rw [result_readPredicate_cons, if_neg nofun, if_neg nofun, if_neg nofun]
  simp only [readBound, number]
  cases checkComparison scope o.attr c <;> rfl

/-- `same` or `different` with a word after it. -/
theorem result_readShared (role : scope.role = .correlation) (keyword attr : String)
    (make : String → Condition) :
    (readShared scope keyword make (.word attr :: rest)).result =
      (checkAttribute scope attr).map fun _ => (make attr, rest) := by
  rw [readShared, if_neg (by simp [role])]
  cases checkAttribute scope attr <;> rfl

end

/-- The operand that a word stands for, if a condition may speak of it. -/
def checkOperand (w : String) : Except ConditionProblem Operand :=
  let o := Operand.ofWord w
  if o.attr.isEmpty then .error (.malformed (.missingAttribute w))
  else if o.side = .target ∧ scope.role = .activation then .error .targetInActivation
  else (checkAttribute scope o.attr).map fun _ => o

/-- The attribute is known, and the role lets a condition speak of its event. -/
structure Scope.MayRead (scope : Scope) (o : Operand) : Prop where
  known : scope.catalog.knows o.attr = true
  side : o.side = .target → scope.role = .correlation

variable {scope} in
theorem checkOperand_eq_ok_iff {w : String} {o : Operand} :
    checkOperand scope w = .ok o ↔
      o = Operand.ofWord w ∧ o.attr.isEmpty = false ∧ scope.MayRead o := by
  rw [checkOperand]
  constructor
  · intro h
    split at h
    · cases h
    next named =>
      split at h
      · cases h
      next side =>
        obtain ⟨⟨⟩, known, rfl⟩ := exists_of_map_eq_ok h
        refine ⟨rfl, Bool.not_eq_true _ ▸ named, checkAttribute_eq_ok_iff.1 known, ?_⟩
        intro target
        cases role : scope.role with
        | activation => exact absurd ⟨target, role⟩ side
        | correlation => rfl
  · rintro ⟨rfl, named, known, side⟩
    have allowed : ¬((Operand.ofWord w).side = .target ∧ scope.role = .activation) := by
      rintro ⟨target, role⟩
      cases role.symm.trans (side target)
    rw [if_neg (Bool.not_eq_true _ ▸ named), if_neg allowed, checkAttribute_eq_ok_iff.2 known]
    rfl

theorem result_readOperand (w : String) (tokens : List Token) :
    (readOperand scope w tokens).result =
      (checkOperand scope w).bind fun o => (readPredicate scope o tokens).result := by
  rw [readOperand, checkOperand]
  split
  · rfl
  split
  · rfl
  cases checkAttribute scope (Operand.ofWord w).attr <;> rfl

/-- The words that an atom begins with which does not speak of an operand. -/
def atomKeywords : List (List Char) :=
  ["true".toList, "false".toList, "same".toList, "different".toList]

theorem result_readWord_operand {w : String}
    (operand : ∀ keyword ∈ atomKeywords, Token.spells keyword w = false) (rest : List Token) :
    (readWord scope w rest).result =
      (checkOperand scope w).bind fun o => (readPredicate scope o rest).result := by
  simp only [atomKeywords, List.forall_mem_cons] at operand
  obtain ⟨noTrue, noFalse, noSame, noDifferent, -⟩ := operand
  rw [readWord, noTrue, noFalse, noSame, noDifferent]
  simp only [Bool.false_eq_true, ↓reduceIte, Takes.result_toReads, result_readOperand]

theorem result_readAtom_openParen (inner : List Token) :
    (readAtom scope (.openParen :: inner)).result =
      (readOr scope inner).result.bind fun
        | (c, .closeParen :: rest) => .ok (c, rest)
        | _ => .error (.malformed .unclosedParenthesis) := by
  rw [readAtom]
  cases readOr scope inner with
  | error e => rfl
  | ok read =>
      obtain ⟨c, list, lt⟩ := read
      cases list with
      | nil => rfl
      | cons t rest => cases t <;> rfl

theorem result_readAtom_word (w : String) (rest : List Token) :
    (readAtom scope (.word w :: rest)).result = (readWord scope w rest).result := by
  rw [readAtom, Reads.result_proper]

theorem result_readAnd (tokens : List Token) :
    (readAnd scope tokens).result =
      (readAtom scope tokens).result.bind fun (left, rest) =>
        (readAndTail scope left rest).result := by
  rw [readAnd]
  cases readAtom scope tokens with
  | error e => rfl
  | ok read =>
      obtain ⟨left, rest⟩ := read
      simp only [Takes.result, Except.map, Except.bind]
      cases readAndTail scope left rest.list <;> rfl

theorem result_readAndTail_nil (left : Condition) :
    (readAndTail scope left []).result = .ok (left, []) := by
  rw [readAndTail]
  rfl

theorem result_readAndTail_cons (left : Condition) (t : Token) (more : List Token) :
    (readAndTail scope left (t :: more)).result =
      if t.isKeyword ['a', 'n', 'd'] then
        (readAtom scope more).result.bind fun (right, rest) =>
          (readAndTail scope (.and left right) rest).result
      else .ok (left, t :: more) := by
  rw [readAndTail]
  split
  · cases readAtom scope more with
    | error e => rfl
    | ok read =>
        obtain ⟨right, rest⟩ := read
        simp only [Takes.result, Except.map, Except.bind]
        cases readAndTail scope (.and left right) rest.list <;> rfl
  · rfl

theorem result_readOr (tokens : List Token) :
    (readOr scope tokens).result =
      (readAnd scope tokens).result.bind fun (left, rest) =>
        (readOrTail scope left rest).result := by
  rw [readOr]
  cases readAnd scope tokens with
  | error e => rfl
  | ok read =>
      obtain ⟨left, rest⟩ := read
      simp only [Takes.result, Except.map, Except.bind]
      cases readOrTail scope left rest.list <;> rfl

theorem result_readOrTail_nil (left : Condition) :
    (readOrTail scope left []).result = .ok (left, []) := by
  rw [readOrTail]
  rfl

theorem result_readOrTail_cons (left : Condition) (t : Token) (more : List Token) :
    (readOrTail scope left (t :: more)).result =
      if t.isKeyword ['o', 'r'] then
        (readAnd scope more).result.bind fun (right, rest) =>
          (readOrTail scope (.or left right) rest).result
      else .ok (left, t :: more) := by
  rw [readOrTail]
  split
  · cases readAnd scope more with
    | error e => rfl
    | ok read =>
        obtain ⟨right, rest⟩ := read
        simp only [Takes.result, Except.map, Except.bind]
        cases readOrTail scope (.or left right) rest.list <;> rfl
  · rfl

/-- A condition is read from tokens if no token is left after it. -/
theorem ofTokens_eq_ok_iff {tokens : List Token} (ne : tokens ≠ []) {c : Condition} :
    ofTokens scope tokens = .ok c ↔ (readOr scope tokens).result = .ok (c, []) := by
  rw [ofTokens]
  · constructor
    · intro h
      split at h
      · cases h
      next c' rest read =>
        split at h
        next nothing =>
          cases h
          rw [read, ← nothing]
          rfl
        · cases h
    · intro h
      obtain ⟨left, read, nothing⟩ := Takes.exists_of_result h
      rw [read]
      simp only [nothing]
  · exact ne

/-- A condition that begins with a word: first its atom, then the rest of the conjunction, then the
rest of the disjunction. -/
theorem ofTokens_word_eq_ok_iff {x : String} {tokens : List Token} {c : Condition} :
    ofTokens scope (.word x :: tokens) = .ok c ↔
      ∃ atom behind left more, (readWord scope x tokens).result = .ok (atom, behind) ∧
        (readAndTail scope atom behind).result = .ok (left, more) ∧
        (readOrTail scope left more).result = .ok (c, []) := by
  rw [ofTokens_eq_ok_iff scope (List.cons_ne_nil _ _), result_readOr, result_readAnd,
    result_readAtom_word]
  constructor
  · intro h
    obtain ⟨⟨left, more⟩, read, readOr⟩ := exists_of_bind_eq_ok h
    obtain ⟨⟨atom, behind⟩, readAtom, readAnd⟩ := exists_of_bind_eq_ok read
    exact ⟨atom, behind, left, more, readAtom, readAnd, readOr⟩
  · rintro ⟨atom, behind, left, more, readAtom, readAnd, readOr⟩
    rw [readAtom]
    change ((readAndTail scope atom behind).result.bind _) = _
    rw [readAnd]
    exact readOr

/-- A text spells a condition if its tokens do. -/
theorem read_eq_ok_iff {role : Role} {catalog : Catalog} {text : String} {c : Condition} :
    read role catalog text = .ok c ↔
      ∃ tokens, Token.tokenize text.toList = .ok tokens ∧
        ofTokens ⟨role, catalog⟩ tokens = .ok c := by
  rw [read]
  cases tokenized : Token.tokenize text.toList with
  | error e =>
      constructor
      · rintro ⟨⟩
      · rintro ⟨tokens, ⟨⟩, -⟩
  | ok tokens =>
      change (ofTokens ⟨role, catalog⟩ tokens).mapError _ = .ok c ↔ _
      constructor
      · intro h
        cases spelled : ofTokens ⟨role, catalog⟩ tokens with
        | error e =>
            rw [spelled] at h
            cases h
        | ok found =>
            rw [spelled] at h
            cases h
            exact ⟨tokens, rfl, spelled⟩
      · rintro ⟨same, ⟨⟩, spelled⟩
        rw [spelled]
        rfl

theorem read_eq_ok_iff_ofTokens {role : Role} {catalog : Catalog} {text : String}
    {tokens : List Token} (tokenized : Token.tokenize text.toList = .ok tokens) {c : Condition} :
    read role catalog text = .ok c ↔ ofTokens ⟨role, catalog⟩ tokens = .ok c := by
  rw [read_eq_ok_iff, tokenized]
  constructor
  · rintro ⟨same, ⟨⟩, spelled⟩
    exact spelled
  · intro spelled
    exact ⟨tokens, rfl, spelled⟩

end Condition

end Declare
