import Declare.Proofs.Condition.Checked

/-!
# Membership as a chain of equalities

That an attribute is in a list of values can be said in two ways: as `x in (v, w)`, or as `x is v or
x is w`. In the negative these are `x not in (v, w)` and `x is not v and x is not w`. One of the two
texts is a condition if the other one is, and then the conditions say the same of all events
(`Condition.read_member_iff_chain`). Missing attributes make both of them false, also in the
negative, as long as there is a value to compare with at all.
-/

namespace Declare.Condition

/-- The tokens for: the operand is, or is not, the value. -/
def equalityTokens (x : String) (negated : Bool) (value : String) : List Token :=
  .word x :: .word "is" :: (negation negated ++ [.quoted value])

/-- The tokens for: the operand is, or is not, among the values. -/
def memberTokens (x : String) (negated : Bool) (values : List String) : List Token :=
  .word x :: (negation negated ++ .word "in" :: .openParen :: listed values)

/-- The keyword between equalities: one of them has to hold, or all of them if they are negated. -/
def connective (negated : Bool) : String :=
  if negated then "and" else "or"

/-- The tokens of the equalities behind the first one. -/
def furtherTokens (x : String) (negated : Bool) : List String → List Token
  | [] => []
  | v :: vs =>
    .word (connective negated) :: (equalityTokens x negated v ++ furtherTokens x negated vs)

/-- The tokens of a chain of equalities, for a first value and further ones. -/
def chainTokens (x : String) (negated : Bool) (v : String) (vs : List String) : List Token :=
  equalityTokens x negated v ++ furtherTokens x negated vs

/-- Conditions joined by the connective of a chain. -/
def join (negated : Bool) (l r : Condition) : Condition :=
  if negated then .and l r else .or l r

/-- A condition with equalities joined to it. -/
def further (o : Operand) (negated : Bool) (first : Condition) (vs : List String) : Condition :=
  vs.foldl (fun c v => join negated c (.is o v negated)) first

/-- The chain of equalities for a first value and further ones. -/
def chain (o : Operand) (negated : Bool) (v : String) (vs : List String) : Condition :=
  further o negated (.is o v negated) vs

variable {scope : Scope} {x : String} {o : Operand}

/-- Reading what is joined to a condition by the connective of a chain. -/
def readFurther (scope : Scope) (negated : Bool) (first : Condition) (tokens : List Token) :
    Except ConditionProblem (Condition × List Token) :=
  if negated then (readAndTail scope first tokens).result
  else (readOrTail scope first tokens).result

section

variable (word : ∀ keyword ∈ atomKeywords, Token.spells keyword x = false)
include word

/-- An atom that begins with the word for an operand is not read if the operand is not admitted. -/
theorem exists_operand_of_ofTokens {rest : List Token} {c : Condition}
    (h : ofTokens scope (.word x :: rest) = .ok c) : ∃ o, checkOperand scope x = .ok o := by
  obtain ⟨atom, behind, left, more, readAtom, -⟩ := (ofTokens_word_eq_ok_iff scope).1 h
  rw [result_readWord_operand scope word] at readAtom
  obtain ⟨o, operand, -⟩ := exists_of_bind_eq_ok readAtom
  exact ⟨o, operand⟩

variable (operand : checkOperand scope x = .ok o)
include operand

theorem result_readAtom_equality (negated : Bool) (v : String) (rest : List Token) :
    (readAtom scope (equalityTokens x negated v ++ rest)).result =
      (checkLiterals scope o.attr "is" [v]).map fun _ => (.is o v negated, rest) := by
  rw [equalityTokens, List.cons_append, List.cons_append, List.append_assoc, result_readAtom_word,
    result_readWord_operand scope word, operand]
  exact result_readPredicate_is_quoted o v negated rest

theorem result_readAtom_member (negated : Bool) {values : List String} (ne : values ≠ []) :
    (readAtom scope (memberTokens x negated values)).result =
      (checkLiterals scope o.attr "in" values).map fun _ => (.member o values negated, []) := by
  rw [memberTokens, result_readAtom_word, result_readWord_operand scope word, operand]
  have read := @result_readPredicate_in_listed scope o values ne negated []
  rwa [List.append_nil] at read

theorem ofTokens_member_eq_ok_iff (negated : Bool) {values : List String} (ne : values ≠ [])
    {c : Condition} :
    ofTokens scope (memberTokens x negated values) = .ok c ↔
      (∀ v ∈ values, scope.catalog.IsLiteral o.attr v) ∧ c = .member o values negated := by
  have some : memberTokens x negated values ≠ [] := List.cons_ne_nil _ _
  rw [ofTokens_eq_ok_iff scope some, result_readOr, result_readAnd,
    result_readAtom_member word operand negated ne, ← checkLiterals_eq_ok_iff "in"]
  cases checkLiterals scope o.attr "in" values with
  | error e => simp [Except.map, Except.bind]
  | ok u =>
      simp only [Except.map, Except.bind, result_readAndTail_nil, result_readOrTail_nil]
      simp [eq_comm]

/-- A chain of `or` has no `and` in it: behind each equality a conjunction ends. -/
theorem result_readAnd_equality (v : String) (vs : List String) :
    (readAnd scope (equalityTokens x false v ++ furtherTokens x false vs)).result =
      (checkLiterals scope o.attr "is" [v]).map fun _ =>
        (.is o v false, furtherTokens x false vs) := by
  have stop : ∀ t ∈ (furtherTokens x false vs).head?, t.isKeyword ['a', 'n', 'd'] = false := by
    cases vs with
    | nil => nofun
    | cons v vs =>
        rintro t ⟨⟩
        decide
  rw [result_readAnd, result_readAtom_equality word operand]
  cases checkLiterals scope o.attr "is" [v] with
  | error e => rfl
  | ok u => exact readAndTail_of_stop stop _

/-- One more equality is read if its value is a literal of the attribute. -/
theorem readFurther_cons (negated : Bool) (first : Condition) (v : String) (vs : List String) :
    readFurther scope negated first (furtherTokens x negated (v :: vs)) =
      (checkLiterals scope o.attr "is" [v]).bind fun _ =>
        readFurther scope negated (join negated first (.is o v negated))
          (furtherTokens x negated vs) := by
  cases negated with
  | true =>
      change (readAndTail scope first (.word "and" :: _)).result = _
      rw [result_readAndTail_cons, if_pos (by decide), result_readAtom_equality word operand]
      cases checkLiterals scope o.attr "is" [v] <;> rfl
  | false =>
      change (readOrTail scope first (.word "or" :: _)).result = _
      rw [result_readOrTail_cons, if_pos (by decide), result_readAnd_equality word operand]
      cases checkLiterals scope o.attr "is" [v] <;> rfl

theorem readFurther_eq_ok_iff (negated : Bool) (first : Condition) (vs : List String)
    {c : Condition} {rest : List Token} :
    readFurther scope negated first (furtherTokens x negated vs) = .ok (c, rest) ↔
      (∀ v ∈ vs, scope.catalog.IsLiteral o.attr v) ∧ c = further o negated first vs ∧
        rest = [] := by
  induction vs generalizing first with
  | nil =>
      have nothing : readFurther scope negated first [] = .ok (first, []) := by
        cases negated with
        | true => exact result_readAndTail_nil scope first
        | false => exact result_readOrTail_nil scope first
      rw [furtherTokens, nothing]
      simp [further, eq_comm]
  | cons v vs ih =>
      rw [readFurther_cons word operand, List.forall_mem_cons, and_assoc, further,
        List.foldl_cons, ← further, ← ih, isLiteral_iff "is"]
      cases checkLiterals scope o.attr "is" [v] <;> simp [Except.bind]

theorem ofTokens_chain_eq_ok_iff (negated : Bool) (v : String) (vs : List String)
    {c : Condition} :
    ofTokens scope (chainTokens x negated v vs) = .ok c ↔
      (∀ u ∈ v :: vs, scope.catalog.IsLiteral o.attr u) ∧ c = chain o negated v vs := by
  have some : chainTokens x negated v vs ≠ [] := List.cons_ne_nil _ _
  have rest := @readFurther_eq_ok_iff scope x o word operand negated (.is o v negated) vs c []
  rw [and_iff_left rfl] at rest
  rw [ofTokens_eq_ok_iff scope some, chainTokens, result_readOr, List.forall_mem_cons, and_assoc,
    chain, ← rest, isLiteral_iff "is"]
  cases negated with
  | false =>
      rw [result_readAnd_equality word operand]
      cases checkLiterals scope o.attr "is" [v] <;> simp [Except.map, Except.bind, readFurther]
  | true =>
      rw [result_readAnd, result_readAtom_equality word operand]
      cases checkLiterals scope o.attr "is" [v] with
      | error e => simp [Except.map, Except.bind]
      | ok u =>
          constructor
          · intro h
            obtain ⟨⟨c', left⟩, read, h⟩ := exists_of_bind_eq_ok h
            -- nothing is left for the disjunction to go on with
            obtain ⟨-, -, rfl⟩ := (readFurther_eq_ok_iff word operand true _ vs).1 read
            cases (result_readOrTail_nil scope c').symm.trans h
            exact ⟨rfl, read⟩
          · rintro ⟨-, read⟩
            change (readFurther scope true _ _).bind _ = _
            rw [read]
            exact result_readOrTail_nil scope c

end

theorem eval_join (negated : Bool) (l r : Condition) (a : Event) (t : Option Event) :
    (join negated l r).eval a t =
      if negated then l.eval a t && r.eval a t else l.eval a t || r.eval a t := by
  cases negated <;> rfl

/-- Further equalities on a missing value make nothing true. -/
theorem eval_further_of_missing (negated : Bool) {first : Condition} {a : Event}
    {t : Option Event} (missing : o.value? a t = none) (unknown : first.eval a t = false)
    (vs : List String) : (further o negated first vs).eval a t = false := by
  induction vs generalizing first with
  | nil => exact unknown
  | cons v vs ih =>
      apply ih
      rw [eval_join, unknown, eval, missing]
      cases negated <;> rfl

/-- Equalities on a value are true in the way that the connective says. -/
theorem eval_further_of_value (negated : Bool) {first : Condition} {a : Event}
    {t : Option Event} {value : Value} (found : o.value? a t = some value) {seen : List String}
    (so_far : first.eval a t = (seen.any value.accepts != negated)) (vs : List String) :
    (further o negated first vs).eval a t = ((seen ++ vs).any value.accepts != negated) := by
  induction vs generalizing first seen with
  | nil => rw [List.append_nil]; exact so_far
  | cons v vs ih =>
      rw [List.append_cons]
      apply ih
      rw [eval_join, so_far, eval, found]
      cases negated <;> simp

/-- A chain of equalities says what membership says. -/
theorem eval_chain (negated : Bool) (v : String) (vs : List String) (a : Event)
    (t : Option Event) :
    (chain o negated v vs).eval a t = (member o (v :: vs) negated).eval a t := by
  cases found : o.value? a t with
  | none =>
      rw [chain, eval_further_of_missing negated found (by rw [eval, found]; rfl), eval, found]
      rfl
  | some value =>
      have first : (is o v negated).eval a t = ([v].any value.accepts != negated) := by
        rw [eval, found]
        simp
      rw [chain, eval_further_of_value negated found first, eval, found]
      rfl

/-- The text that says that an operand is in a list of values is a condition if the chain of
equalities is one, for any values in quotes and any blanks between the tokens; and then both say the
same of all events. In the negative, the chain is one of `and`. -/
theorem read_member_iff_chain {x : String}
    (word : ∀ keyword ∈ atomKeywords, Token.spells keyword x = false) (negated : Bool) (v : String)
    (vs : List String) (role : Role) (catalog : Catalog) {text chained : String}
    (shown : Token.Layout (memberTokens x negated (v :: vs)) text.toList)
    (chainShown : Token.Layout (chainTokens x negated v vs) chained.toList) :
    ((∃ c, read role catalog text = .ok c) ↔ ∃ c, read role catalog chained = .ok c) ∧
      ∀ c c', read role catalog text = .ok c → read role catalog chained = .ok c' →
        ∀ a t, c.eval a t = c'.eval a t := by
  have reads {c : Condition} : read role catalog text = .ok c ↔ _ :=
    read_eq_ok_iff_ofTokens (Token.tokenize_of_layout shown)
  have readsChain {c : Condition} : read role catalog chained = .ok c ↔ _ :=
    read_eq_ok_iff_ofTokens (Token.tokenize_of_layout chainShown)
  cases operand : checkOperand ⟨role, catalog⟩ x with
  | error e =>
      have unread (rest : List Token) (c : Condition) :
          ofTokens ⟨role, catalog⟩ (.word x :: rest) ≠ .ok c := by
        intro h
        obtain ⟨o, admitted⟩ := exists_operand_of_ofTokens word h
        cases operand.symm.trans admitted
      constructor
      · constructor
        · rintro ⟨c, h⟩
          exact absurd (reads.1 h) (unread _ c)
        · rintro ⟨c, h⟩
          exact absurd (readsChain.1 h) (unread _ c)
      · intro c c' h
        exact absurd (reads.1 h) (unread _ c)
  | ok o =>
      have ne := List.cons_ne_nil v vs
      simp only [reads, readsChain, ofTokens_member_eq_ok_iff word operand negated ne,
        ofTokens_chain_eq_ok_iff word operand]
      constructor
      · simp
      · rintro c c' ⟨-, rfl⟩ ⟨-, rfl⟩ a t
        exact (eval_chain negated v vs a t).symm

/-- A grade that is neither of the two lowest ones, with quotes of either kind. -/
def notLowText : String := "A.grade not in ('1', \"2\")"

/-- The same as a chain, with fewer blanks. -/
def notLowChainText : String := "A.grade is not '1'and A.grade is not \"2\""

theorem layout_notLowText :
    Token.Layout (memberTokens "A.grade" true ["1", "2"]) notLowText.toList := by
  have blank : Text.isBlank ' ' = true := by decide
  have pieces : notLowText.toList =
      "A.grade".toList ++ (' ' :: ("not".toList ++ (' ' :: ("in".toList ++ (' ' :: (['('] ++
        (('\'' :: ("1".toList ++ ['\''])) ++ ([','] ++ (' ' ::
          (('"' :: ("2".toList ++ ['"'])) ++ ([')'] ++ []))))))))))) := by
    decide
  rw [pieces]
  refine .token (.word (by decide)) rfl (.blank blank ?_)
  refine .token (.word (by decide)) rfl (.blank blank ?_)
  refine .token (.word (by decide)) rfl (.blank blank ?_)
  refine .token .openParen rfl (.token (.quoted (by decide) (by decide)) rfl ?_)
  refine .token .comma rfl (.blank blank (.token (.quoted (by decide) (by decide)) rfl ?_))
  exact .token .closeParen rfl .nil

theorem layout_notLowChainText :
    Token.Layout (chainTokens "A.grade" true "1" ["2"]) notLowChainText.toList := by
  have blank : Text.isBlank ' ' = true := by decide
  have pieces : notLowChainText.toList =
      "A.grade".toList ++ (' ' :: ("is".toList ++ (' ' :: ("not".toList ++ (' ' ::
        (('\'' :: ("1".toList ++ ['\''])) ++ ("and".toList ++ (' ' ::
          ("A.grade".toList ++ (' ' :: ("is".toList ++ (' ' :: ("not".toList ++ (' ' ::
            (('"' :: ("2".toList ++ ['"'])) ++ []))))))))))))))) := by
    decide
  rw [pieces]
  refine .token (.word (by decide)) rfl (.blank blank ?_)
  refine .token (.word (by decide)) rfl (.blank blank ?_)
  refine .token (.word (by decide)) rfl (.blank blank ?_)
  refine .token (.quoted (by decide) (by decide)) rfl ?_
  refine .token (.word (by decide)) rfl (.blank blank ?_)
  refine .token (.word (by decide)) rfl (.blank blank ?_)
  refine .token (.word (by decide)) rfl (.blank blank ?_)
  refine .token (.word (by decide)) rfl (.blank blank ?_)
  exact .token (.quoted (by decide) (by decide)) rfl .nil

/-- Both texts are conditions, as the values are numbers, and they say the same. -/
theorem read_member_iff_chain_notLow :
    ∃ c, read .activation gradeCatalog notLowText =
        .ok (.member ⟨.activation, "grade"⟩ ["1", "2"] true) ∧
      read .activation gradeCatalog notLowChainText = .ok c ∧
      ∀ a t, (member ⟨.activation, "grade"⟩ ["1", "2"] true).eval a t = c.eval a t := by
  have word : ∀ keyword ∈ atomKeywords, Token.spells keyword "A.grade" = false := by decide
  have operand : checkOperand ⟨.activation, gradeCatalog⟩ "A.grade" =
      .ok ⟨.activation, "grade"⟩ :=
    checkOperand_eq_ok_iff.2 ⟨by decide, by decide, rfl, nofun⟩
  obtain ⟨same, eval⟩ := read_member_iff_chain word true "1" ["2"] .activation gradeCatalog
    layout_notLowText layout_notLowChainText
  have literals : ∀ v ∈ ["1", "2"], gradeCatalog.IsLiteral "grade" v := by
    have numbers : ∀ v ∈ ["1", "2"], (Decimal.read? v.toList).isSome := by decide +kernel
    intro v mem d domain numeric
    exact numbers v mem
  have read : read .activation gradeCatalog notLowText =
      .ok (.member ⟨.activation, "grade"⟩ ["1", "2"] true) := by
    apply (read_eq_ok_iff_ofTokens (Token.tokenize_of_layout layout_notLowText)).2
    exact (ofTokens_member_eq_ok_iff word operand true (by decide)).2 ⟨literals, rfl⟩
  obtain ⟨c, readChain⟩ := same.1 ⟨_, read⟩
  exact ⟨c, read, readChain, eval _ c read readChain⟩

end Declare.Condition
