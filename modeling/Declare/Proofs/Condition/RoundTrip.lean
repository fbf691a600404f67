import Declare.Proofs.Condition.Layout
import Declare.Proofs.Condition.Reading

/-!
# Written conditions read back

A condition is written with as few parentheses as possible: around a disjunction that a conjunction
joins, and around a right part with the connective of the whole (`Condition.Spells`). The tokens may
be laid out in any way (`Condition.Prints`). Reading gives the condition back if it is admitted by
the catalog and its role, and every such condition can be written (`Condition.read_prints`).
-/

namespace Declare

/-- The word for an operand. -/
def Operand.word (o : Operand) : String :=
  match o.side with
  | .activation => "A." ++ o.attr
  | .target => "T." ++ o.attr

namespace Condition

/-- Whether the condition is a disjunction. -/
def isOr : Condition → Bool
  | or _ _ => true
  | _ => false

/-- Whether the condition is a conjunction. -/
def isAnd : Condition → Bool
  | and _ _ => true
  | _ => false

/-- The tokens, in parentheses if that is needed. -/
def bracketed (needed : Bool) (tokens : List Token) : List Token :=
  if needed then .openParen :: (tokens ++ [.closeParen]) else tokens

/-- The keyword for a negated predicate. -/
def negation (negated : Bool) : List Token :=
  if negated then [.word "not"] else []

/-- The tokens of values after an opening parenthesis. -/
def listed : List String → List Token
  | [] => [.closeParen]
  | [v] => [.quoted v, .closeParen]
  | v :: vs => .quoted v :: .comma :: listed vs

/-- The lists of tokens that a condition is written with. Only the words for numbers are a matter of
choice. -/
inductive Spells : Condition → List Token → Prop
  | const (b : Bool) : Spells (const b) [.word (if b then "true" else "false")]
  | is (o : Operand) (value : String) (negated : Bool) :
      Spells (is o value negated)
        (.word o.word :: .word "is" :: (negation negated ++ [.quoted value]))
  | member (o : Operand) (values : List String) (negated : Bool) :
      Spells (member o values negated)
        (.word o.word :: (negation negated ++ .word "in" :: .openParen :: listed values))
  | compare (o : Operand) (c : Comparison) {bound : Float} {w : String}
      (h : Decimal.read? w.toList = some bound) :
      Spells (compare o c bound) [.word o.word, .comparison c, .word w]
  | same (attr : String) : Spells (same attr) [.word "same", .word attr]
  | different (attr : String) : Spells (different attr) [.word "different", .word attr]
  | and {l r : Condition} {ls rs : List Token} (left : Spells l ls) (right : Spells r rs) :
      Spells (and l r)
        (bracketed l.isOr ls ++ .word "and" :: bracketed (r.isOr || r.isAnd) rs)
  | or {l r : Condition} {ls rs : List Token} (left : Spells l ls) (right : Spells r rs) :
      Spells (or l r) (ls ++ .word "or" :: bracketed r.isOr rs)

/-- The texts that a condition is written as. -/
def Prints (c : Condition) (cs : List Char) : Prop :=
  ∃ tokens, Spells c tokens ∧ Token.Layout tokens cs

/-- The attribute is known to the catalog, by a name that is a word. -/
def Scope.HasAttribute (scope : Scope) (attr : String) : Prop :=
  Token.IsWord attr ∧ scope.catalog.knows attr = true

/-- The attribute is known, and the role lets a condition speak of its event. -/
def Scope.HasOperand (scope : Scope) (o : Operand) : Prop :=
  scope.HasAttribute o.attr ∧ (o.side = .target → scope.role = .correlation)

/-- The values can be quoted, and are numbers if the domain of the attribute is numeric. -/
def Scope.HasLiterals (scope : Scope) (attr : String) (values : List String) : Prop :=
  ∀ v ∈ values, ('"' ∉ v.toList ∨ '\'' ∉ v.toList) ∧
    ∀ d ∈ scope.catalog.domain? attr, d.isNumeric = true → (Decimal.read? v.toList).isSome

/-- The conditions that can be written and that the catalog and the role admit. -/
def Admitted (scope : Scope) : Condition → Prop
  | const _ => True
  | and l r | or l r => Admitted scope l ∧ Admitted scope r
  | is o value _ => scope.HasOperand o ∧ scope.HasLiterals o.attr [value]
  | member o values _ =>
    scope.HasOperand o ∧ values ≠ [] ∧ scope.HasLiterals o.attr values
  | compare o _ bound =>
    scope.HasOperand o ∧ (∀ d ∈ scope.catalog.domain? o.attr, d.isNumeric = true) ∧
      ∃ w, Token.IsWord w ∧ Decimal.read? w.toList = some bound
  | same attr | different attr => scope.HasAttribute attr ∧ scope.role = .correlation

variable {scope : Scope}

theorem checkAttribute_eq_ok {attr : String} (h : scope.HasAttribute attr) :
    checkAttribute scope attr = .ok () :=
  checkAttribute_eq_ok_iff.2 h.2

theorem checkLiterals_eq_ok {attr : String} {values : List String}
    (h : scope.HasLiterals attr values) (operator : String) :
    checkLiterals scope attr operator values = .ok () :=
  (checkLiterals_eq_ok_iff operator).2 fun v mem => (h v mem).2

theorem ofWord_word (o : Operand) : Operand.ofWord o.word = o := by
  obtain ⟨side, attr⟩ := o
  cases side <;> simp [Operand.word, Operand.ofWord]

/-- The point in the word for an operand tells it from all keywords. -/
theorem not_spells_word (o : Operand) {keyword : List Char} (h : '.' ∉ keyword) :
    Token.spells keyword o.word = false := by
  have point : '.' ∈ o.word.toList.map Char.toLower := by
    have : '.' ∈ o.word.toList := by
      obtain ⟨side, attr⟩ := o
      cases side <;> simp [Operand.word]
    exact List.mem_map.2 ⟨'.', this, by decide⟩
  rw [Token.spells, decide_eq_false_iff_not]
  rintro rfl
  exact h point

theorem result_readAtom_operand {o : Operand} (h : scope.HasOperand o) (rest : List Token) :
    (readAtom scope (.word o.word :: rest)).result = (readPredicate scope o rest).result := by
  obtain ⟨known, target⟩ := h
  have points : ∀ keyword ∈ atomKeywords, '.' ∉ keyword := by decide
  have named : o.attr.isEmpty = false := by
    rw [← Bool.not_eq_true, String.isEmpty_iff]
    rintro empty
    exact known.1.1 (by simp [empty])
  have operand : checkOperand scope o.word = .ok o := by
    apply checkOperand_eq_ok_iff.2
    exact ⟨(ofWord_word o).symm, named, known.2, target⟩
  rw [result_readAtom_word, result_readWord_operand scope, operand]
  · rfl
  · intro keyword mem
    exact not_spells_word o (points keyword mem)

/-- A quoted value is read as it stands and checked afterwards. -/
theorem result_readPredicate_is_quoted (o : Operand) (value : String) (negated : Bool)
    (rest : List Token) :
    (readPredicate scope o (.word "is" :: (negation negated ++ .quoted value :: rest))).result =
      (checkLiterals scope o.attr "is" [value]).map fun _ => (.is o value negated, rest) := by
  have read : (readIsValue scope o negated (.quoted value :: rest)).result =
      (checkLiterals scope o.attr "is" [value]).map fun _ => (.is o value negated, rest) := by
    rw [result_readIsValue, result_readValue_quoted]
    rfl
  rw [result_readPredicate_is]
  cases negated with
  | true => exact (result_readIs_not scope o _).trans read
  | false => exact (result_readIs_quoted scope o rest value).trans read

theorem readPredicate_is {o : Operand} {value : String} (h : scope.HasLiterals o.attr [value])
    (negated : Bool) (rest : List Token) :
    (readPredicate scope o (.word "is" :: (negation negated ++ .quoted value :: rest))).result =
      .ok (.is o value negated, rest) := by
  rw [result_readPredicate_is_quoted, checkLiterals_eq_ok h]
  rfl

theorem readValues_listed {values : List String} (ne : values ≠ []) (rest : List Token) :
    (readValues (listed values ++ rest)).result = .ok (values, rest) := by
  induction values with
  | nil => exact absurd rfl ne
  | cons v values ih =>
      cases values with
      | nil =>
          rw [result_readValues]
          rfl
      | cons w values =>
          rw [result_readValues]
          change ((readValues (listed (w :: values) ++ rest)).result.bind fun read =>
            .ok (v :: read.1, read.2)) = _
          rw [ih (List.cons_ne_nil w values)]
          rfl

/-- Listed values are read as they stand and checked afterwards. -/
theorem result_readPredicate_in_listed (o : Operand) {values : List String} (ne : values ≠ [])
    (negated : Bool) (rest : List Token) :
    (readPredicate scope o
        (negation negated ++ .word "in" :: .openParen :: (listed values ++ rest))).result =
      (checkLiterals scope o.attr "in" values).map fun _ => (.member o values negated, rest) := by
  have read : (readMember scope o negated (.openParen :: (listed values ++ rest))).result =
      (checkLiterals scope o.attr "in" values).map fun _ => (.member o values negated, rest) := by
    rw [result_readMember, readValues_listed ne]
    rfl
  cases negated with
  | true => exact (result_readPredicate_not_in scope o _).trans read
  | false => exact (result_readPredicate_in scope o _).trans read

theorem readPredicate_in {o : Operand} {values : List String} (ne : values ≠ [])
    (h : scope.HasLiterals o.attr values) (negated : Bool) (rest : List Token) :
    (readPredicate scope o
        (negation negated ++ .word "in" :: .openParen :: (listed values ++ rest))).result =
      .ok (.member o values negated, rest) := by
  rw [result_readPredicate_in_listed o ne, checkLiterals_eq_ok h]
  rfl

theorem readWord_same {attr : String} (h : scope.HasAttribute attr)
    (role : scope.role = .correlation) (rest : List Token) :
    (readWord scope "same" (.word attr :: rest)).result = .ok (.same attr, rest) := by
  rw [readWord, if_neg (by decide), if_neg (by decide), if_pos (by decide), Takes.result_toReads,
    result_readShared scope rest role, checkAttribute_eq_ok h]
  rfl

theorem readWord_different {attr : String} (h : scope.HasAttribute attr)
    (role : scope.role = .correlation) (rest : List Token) :
    (readWord scope "different" (.word attr :: rest)).result = .ok (.different attr, rest) := by
  rw [readWord, if_neg (by decide), if_neg (by decide), if_neg (by decide), if_pos (by decide),
    Takes.result_toReads, result_readShared scope rest role, checkAttribute_eq_ok h]
  rfl

/-- An atom of an admitted condition is read off the front of any tokens. -/
theorem readAtom_of_spells {c : Condition} {tokens : List Token} (h : Spells c tokens)
    (atom : (c.isOr || c.isAnd) = false) (admitted : c.Admitted scope) (rest : List Token) :
    (readAtom scope (tokens ++ rest)).result = .ok (c, rest) := by
  cases h with
  | const b =>
      rw [List.singleton_append, result_readAtom_word, readWord]
      cases b <;> rfl
  | is o value negated =>
      obtain ⟨operand, literals⟩ := admitted
      rw [List.cons_append, result_readAtom_operand operand, List.cons_append, List.append_assoc]
      exact readPredicate_is literals negated rest
  | member o values negated =>
      obtain ⟨operand, ne, literals⟩ := admitted
      rw [List.cons_append, result_readAtom_operand operand, List.append_assoc]
      exact readPredicate_in ne literals negated rest
  | compare o c number =>
      obtain ⟨operand, domain, -⟩ := admitted
      rw [List.cons_append, result_readAtom_operand operand]
      refine (result_readPredicate_comparison scope o rest c number).trans ?_
      rw [checkComparison_eq_ok_iff.2 domain]
      rfl
  | same attr => exact (result_readAtom_word ..).trans (readWord_same admitted.1 admitted.2 rest)
  | different attr =>
      exact (result_readAtom_word ..).trans (readWord_different admitted.1 admitted.2 rest)
  | and left right => cases atom
  | or left right => cases atom

/-- The tokens are read as an atom, whatever follows them. -/
def ReadsAsAtom (scope : Scope) (c : Condition) (tokens : List Token) : Prop :=
  ∀ rest, (readAtom scope (tokens ++ rest)).result = .ok (c, rest)

/-- The tokens are read as the beginning of a conjunction: reading goes on with `c` as what was
joined so far. -/
def ReadsAsAnd (scope : Scope) (c : Condition) (tokens : List Token) : Prop :=
  ∀ rest, (readAnd scope (tokens ++ rest)).result = (readAndTail scope c rest).result

/-- The tokens are read as the beginning of a disjunction, if no conjunction goes on after them. -/
def ReadsAsOr (scope : Scope) (c : Condition) (tokens : List Token) : Prop :=
  ∀ rest, (∀ t ∈ rest.head?, t.isKeyword ['a', 'n', 'd'] = false) →
    (readOr scope (tokens ++ rest)).result = (readOrTail scope c rest).result

variable {c l r : Condition} {tokens ls rs : List Token}

theorem readAndTail_of_stop {rest : List Token}
    (stop : ∀ t ∈ rest.head?, t.isKeyword ['a', 'n', 'd'] = false) (c : Condition) :
    (readAndTail scope c rest).result = .ok (c, rest) := by
  cases rest with
  | nil => exact result_readAndTail_nil scope c
  | cons t rest =>
      rw [result_readAndTail_cons, stop t rfl]
      rfl

theorem readOrTail_of_stop {rest : List Token}
    (stop : ∀ t ∈ rest.head?, t.isKeyword ['o', 'r'] = false) (c : Condition) :
    (readOrTail scope c rest).result = .ok (c, rest) := by
  cases rest with
  | nil => exact result_readOrTail_nil scope c
  | cons t rest =>
      rw [result_readOrTail_cons, stop t rfl]
      rfl

theorem ReadsAsAtom.readsAsAnd (h : ReadsAsAtom scope c tokens) : ReadsAsAnd scope c tokens := by
  intro rest
  rw [result_readAnd, h rest]
  rfl

theorem ReadsAsAnd.readsAsOr (h : ReadsAsAnd scope c tokens) : ReadsAsOr scope c tokens := by
  intro rest stop
  rw [result_readOr, h rest, readAndTail_of_stop stop]
  rfl

/-- A closing parenthesis ends both connectives. -/
theorem ReadsAsOr.readsAsAtom_bracketed (h : ReadsAsOr scope c tokens) :
    ReadsAsAtom scope c (bracketed true tokens) := by
  intro rest
  have closed := h (.closeParen :: rest) (by rintro t ⟨⟩; rfl)
  rw [readOrTail_of_stop (by rintro t ⟨⟩; rfl)] at closed
  rw [bracketed, if_pos rfl, List.cons_append, List.append_assoc, result_readAtom_openParen,
    List.singleton_append, closed]
  rfl

theorem ReadsAsAnd.and (left : ReadsAsAnd scope l ls) (right : ReadsAsAtom scope r rs) :
    ReadsAsAnd scope (.and l r) (ls ++ .word "and" :: rs) := by
  intro rest
  rw [List.append_assoc, left, List.cons_append, result_readAndTail_cons, if_pos (by decide), right]
  rfl

theorem ReadsAsOr.or (left : ReadsAsOr scope l ls) (right : ReadsAsAnd scope r rs) :
    ReadsAsOr scope (.or l r) (ls ++ .word "or" :: rs) := by
  intro rest stop
  rw [List.append_assoc, left _ (by rintro t ⟨⟩; decide), List.cons_append,
    result_readOrTail_cons, if_pos (by decide), right, readAndTail_of_stop stop]
  rfl

/-- How the tokens of a condition are read by readers that expect connectives it does not have. -/
structure ReadsByLevel (scope : Scope) (c : Condition) (tokens : List Token) : Prop where
  asOr : ReadsAsOr scope c tokens
  asAnd : c.isOr = false → ReadsAsAnd scope c tokens
  asAtom : (c.isOr || c.isAnd) = false → ReadsAsAtom scope c tokens

theorem ReadsAsAtom.byLevel (h : ReadsAsAtom scope c tokens) : ReadsByLevel scope c tokens :=
  ⟨h.readsAsAnd.readsAsOr, fun _ => h.readsAsAnd, fun _ => h⟩

theorem ReadsByLevel.bracketed_isOr (h : ReadsByLevel scope c tokens) :
    ReadsAsAnd scope c (bracketed c.isOr tokens) := by
  cases level : c.isOr with
  | true => exact h.asOr.readsAsAtom_bracketed.readsAsAnd
  | false => exact h.asAnd level

theorem ReadsByLevel.bracketed_isOr_or_isAnd (h : ReadsByLevel scope c tokens) :
    ReadsAsAtom scope c (bracketed (c.isOr || c.isAnd) tokens) := by
  cases level : c.isOr || c.isAnd with
  | true => exact h.asOr.readsAsAtom_bracketed
  | false => exact h.asAtom level

/-- The tokens of an admitted condition are read as that condition. -/
theorem readsByLevel_of_spells (h : Spells c tokens) (admitted : c.Admitted scope) :
    ReadsByLevel scope c tokens := by
  have atom {c : Condition} {tokens : List Token} (h : Spells c tokens)
      (level : (c.isOr || c.isAnd) = false) (admitted : c.Admitted scope) :
      ReadsByLevel scope c tokens :=
    ReadsAsAtom.byLevel (readAtom_of_spells h level admitted)
  induction h with
  | const b => exact atom (.const b) rfl admitted
  | is o value negated => exact atom (.is o value negated) rfl admitted
  | member o values negated => exact atom (.member o values negated) rfl admitted
  | compare o c number => exact atom (.compare o c number) rfl admitted
  | same attr => exact atom (.same attr) rfl admitted
  | different attr => exact atom (.different attr) rfl admitted
  | and left right left_ih right_ih =>
      have asAnd := (left_ih admitted.1).bracketed_isOr.and
        (right_ih admitted.2).bracketed_isOr_or_isAnd
      exact ⟨asAnd.readsAsOr, fun _ => asAnd, nofun⟩
  | or left right left_ih right_ih =>
      have asOr := (left_ih admitted.1).asOr.or (right_ih admitted.2).bracketed_isOr
      exact ⟨asOr, nofun, nofun⟩

theorem Spells.ne_nil (h : Spells c tokens) : tokens ≠ [] := by
  cases h <;> simp

theorem ofTokens_of_spells (h : Spells c tokens) (admitted : c.Admitted scope) :
    ofTokens scope tokens = .ok c := by
  have read := (readsByLevel_of_spells h admitted).asOr [] (by rintro t ⟨⟩)
  rw [result_readOrTail_nil, List.append_nil] at read
  exact (ofTokens_eq_ok_iff scope h.ne_nil).2 read

/-- There is a text for each of the tokens. -/
def CanBeShown (tokens : List Token) : Prop :=
  ∀ t ∈ tokens, ∃ shown, Token.Shows t shown

theorem canBeShown_word {w : String} (h : Token.IsWord w) (rest : CanBeShown tokens) :
    CanBeShown (.word w :: tokens) :=
  List.forall_mem_cons.2 ⟨⟨_, .word h⟩, rest⟩

theorem canBeShown_quoted {v : String} (h : '"' ∉ v.toList ∨ '\'' ∉ v.toList)
    (rest : CanBeShown tokens) : CanBeShown (.quoted v :: tokens) := by
  refine List.forall_mem_cons.2 ⟨?_, rest⟩
  rcases h with free | free
  · exact ⟨_, .quoted (by decide) free⟩
  · exact ⟨_, .quoted (by decide) free⟩

theorem CanBeShown.append (first : CanBeShown ls) (second : CanBeShown rs) :
    CanBeShown (ls ++ rs) :=
  List.forall_mem_append.2 ⟨first, second⟩

theorem CanBeShown.bracketed (h : CanBeShown tokens) (needed : Bool) :
    CanBeShown (bracketed needed tokens) := by
  cases needed with
  | true =>
      refine List.forall_mem_cons.2 ⟨⟨_, .openParen⟩, h.append ?_⟩
      exact List.forall_mem_singleton.2 ⟨_, .closeParen⟩
  | false => exact h

theorem canBeShown_negation (negated : Bool) (rest : CanBeShown tokens) :
    CanBeShown (negation negated ++ tokens) := by
  cases negated with
  | true => exact canBeShown_word (by decide) rest
  | false => exact rest

theorem canBeShown_listed {values : List String}
    (h : ∀ v ∈ values, '"' ∉ v.toList ∨ '\'' ∉ v.toList) : CanBeShown (listed values) := by
  have closed : CanBeShown [.closeParen] := List.forall_mem_singleton.2 ⟨_, .closeParen⟩
  induction values with
  | nil => exact closed
  | cons v values ih =>
      have first := h v List.mem_cons_self
      have rest := ih fun v mem => h v (List.mem_cons_of_mem _ mem)
      cases values with
      | nil => exact canBeShown_quoted first closed
      | cons w values =>
          exact canBeShown_quoted first (List.forall_mem_cons.2 ⟨⟨_, .comma⟩, rest⟩)

theorem isWord_word {o : Operand} (h : Token.IsWord o.attr) : Token.IsWord o.word := by
  obtain ⟨side, attr⟩ := o
  obtain ⟨-, chars⟩ := h
  cases side <;>
    simpa [Token.IsWord, Operand.word, show Token.isWordChar '.' = true by decide,
      show Token.isWordChar 'A' = true by decide, show Token.isWordChar 'T' = true by decide]
      using chars

/-- An admitted condition has tokens that can be shown. -/
theorem exists_spells (admitted : c.Admitted scope) :
    ∃ tokens, Spells c tokens ∧ CanBeShown tokens := by
  have nothing : CanBeShown [] := by rintro t ⟨⟩
  induction c with
  | const b =>
      refine ⟨_, .const b, canBeShown_word ?_ nothing⟩
      cases b <;> decide
  | is o value negated =>
      obtain ⟨⟨known, -⟩, literals⟩ := admitted
      have quotable := (literals value List.mem_cons_self).1
      refine ⟨_, .is o value negated, canBeShown_word (isWord_word known.1) ?_⟩
      exact canBeShown_word (by decide) (canBeShown_negation negated
        (canBeShown_quoted quotable nothing))
  | member o values negated =>
      obtain ⟨⟨known, -⟩, -, literals⟩ := admitted
      have quotable := canBeShown_listed fun v mem => (literals v mem).1
      refine ⟨_, .member o values negated, canBeShown_word (isWord_word known.1) ?_⟩
      exact canBeShown_negation negated (canBeShown_word (by decide)
        (List.forall_mem_cons.2 ⟨⟨_, .openParen⟩, quotable⟩))
  | compare o op bound =>
      obtain ⟨⟨known, -⟩, -, w, isWord, number⟩ := admitted
      refine ⟨_, .compare o op number, canBeShown_word (isWord_word known.1) ?_⟩
      exact List.forall_mem_cons.2 ⟨⟨_, .comparison op⟩, canBeShown_word isWord nothing⟩
  | same attr =>
      exact ⟨_, .same attr, canBeShown_word (by decide) (canBeShown_word admitted.1.1 nothing)⟩
  | different attr =>
      exact ⟨_, .different attr,
        canBeShown_word (by decide) (canBeShown_word admitted.1.1 nothing)⟩
  | and l r left_ih right_ih =>
      obtain ⟨ls, left, leftShown⟩ := left_ih admitted.1
      obtain ⟨rs, right, rightShown⟩ := right_ih admitted.2
      exact ⟨_, .and left right, (leftShown.bracketed _).append
        (canBeShown_word (by decide) (rightShown.bracketed _))⟩
  | or l r left_ih right_ih =>
      obtain ⟨ls, left, leftShown⟩ := left_ih admitted.1
      obtain ⟨rs, right, rightShown⟩ := right_ih admitted.2
      exact ⟨_, .or left right,
        leftShown.append (canBeShown_word (by decide) (rightShown.bracketed _))⟩

/-- A condition that the catalog and the role admit can be written, and each text that it is written
as reads as the condition. -/
theorem read_prints {role : Role} {catalog : Catalog} {c : Condition}
    (admitted : c.Admitted ⟨role, catalog⟩) :
    (∃ cs, c.Prints cs) ∧
      ∀ text : String, c.Prints text.toList → read role catalog text = .ok c := by
  constructor
  · obtain ⟨tokens, spells, shown⟩ := exists_spells admitted
    obtain ⟨cs, layout⟩ := Token.exists_layout shown
    exact ⟨cs, tokens, spells, layout⟩
  · rintro text ⟨tokens, spells, layout⟩
    apply read_eq_ok_iff.2
    exact ⟨tokens, Token.tokenize_of_layout layout, ofTokens_of_spells spells admitted⟩

/-- A better grade, and either a risk that is not low or no change of the grade. -/
def gradeCondition : Condition :=
  .and (.compare ⟨.activation, "grade"⟩ .gt 5)
    (.or (.is ⟨.target, "risk"⟩ "low" true) (.same "grade"))

/-- Grades are from 1 to 10, and risks are low or high. -/
def gradeCatalog : Catalog where
  knows := (· ∈ ["grade", "risk"])
  domain? name :=
    if name = "grade" then some (.integerRange 1 10)
    else if name = "risk" then some (.enumeration ["low", "high"])
    else none

/-- The disjunction is in parentheses, and around the comparison there are no blanks. -/
theorem read_prints_gradeCondition :
    gradeCondition.Admitted ⟨.correlation, gradeCatalog⟩ ∧
      gradeCondition.Prints "A.grade>5 and (T.risk is not 'low' or same grade)".toList ∧
      read .correlation gradeCatalog "A.grade>5 and (T.risk is not 'low' or same grade)" =
        .ok gradeCondition := by
  have five : Decimal.read? "5".toList = some 5 := by decide +kernel
  have admitted : gradeCondition.Admitted ⟨.correlation, gradeCatalog⟩ := by
    refine ⟨⟨⟨⟨by decide, rfl⟩, nofun⟩, ?_, "5", by decide, five⟩,
      ⟨⟨⟨by decide, rfl⟩, fun _ => rfl⟩, ?_⟩, ⟨by decide, rfl⟩, rfl⟩
    · rintro d ⟨⟩
      rfl
    · intro v mem
      obtain rfl := List.mem_singleton.1 mem
      refine ⟨.inl (by decide), ?_⟩
      rintro d ⟨⟩ numeric
      cases numeric
  have prints : gradeCondition.Prints
      "A.grade>5 and (T.risk is not 'low' or same grade)".toList := by
    refine ⟨_, .and (.compare _ .gt five) (.or (.is _ "low" true) (.same "grade")), ?_⟩
    have blank : Text.isBlank ' ' = true := by decide
    have word (w : String) (h : Token.IsWord w) : Token.Shows (.word w) w.toList := .word h
    have pieces : "A.grade>5 and (T.risk is not 'low' or same grade)".toList =
        "A.grade".toList ++ (">".toList ++ ("5".toList ++ (' ' :: ("and".toList ++ (' ' ::
          (['('] ++ ("T.risk".toList ++ (' ' :: ("is".toList ++ (' ' :: ("not".toList ++ (' ' ::
            (('\'' :: ("low".toList ++ ['\''])) ++ (' ' :: ("or".toList ++ (' ' ::
              ("same".toList ++ (' ' :: ("grade".toList ++ ([')'] ++ [])))))))))))))))))))) := by
      decide
    rw [pieces]
    refine .token (word "A.grade" (by decide)) rfl ?_
    refine .token (.comparison .gt) rfl ?_
    refine .token (word "5" (by decide)) rfl (.blank blank ?_)
    refine .token (word "and" (by decide)) rfl (.blank blank ?_)
    refine .token .openParen rfl ?_
    refine .token (word "T.risk" (by decide)) rfl (.blank blank ?_)
    refine .token (word "is" (by decide)) rfl (.blank blank ?_)
    refine .token (word "not" (by decide)) rfl (.blank blank ?_)
    refine .token (.quoted (by decide) (by decide)) rfl (.blank blank ?_)
    refine .token (word "or" (by decide)) rfl (.blank blank ?_)
    refine .token (word "same" (by decide)) rfl (.blank blank ?_)
    refine .token (word "grade" (by decide)) rfl ?_
    exact .token .closeParen rfl .nil
  exact ⟨admitted, prints, (read_prints admitted).2 _ prints⟩

end Condition

end Declare
