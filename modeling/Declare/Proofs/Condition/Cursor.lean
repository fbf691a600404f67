import Declare.Proofs.Condition.Checked
import Declare.Proofs.Condition.Rounds
import Declare.Proofs.Condition.Walk

/-!
# Reading conditions by position

Conditions are read here by walks through their tokens, which call one another and themselves and
are cut off at a depth `n`, whatever they have read by then. They never get there if `n` is large
enough: each of them ends from every position, also from one behind the last token, and it ends as
its reader does (`ends_walkOr` and the theorems before it). Three calls for each token that is left
suffice. A walk that has read a condition has gone on by at least one token and not beyond the last
one, since a reader leaves fewer tokens than it was given (`follows_of_ends`). With the rounds that
read the tokens, this makes the compilation of a text one that ends, with the result of `read`
(`reading_ends`).
-/

namespace Declare.Condition

open Walk

/-- Reads words up to a connective or a token of another kind. -/
def walkWords (n : Nat) (tokens : List Token) (words : List String) : Walk (List String) :=
  match n with
  | 0 => cutOff
  | n + 1 => do
    match ← peek tokens with
    | some t =>
      if isValuePart t then
        skip
        walkWords n tokens (words ++ [t.text])
      else return words
    | none => return words

/-- Reads a value. -/
def walkValue (n : Nat) (tokens : List Token) : Walk String := do
  match ← peek tokens with
  | some (.quoted s) =>
    skip
    return s
  | _ =>
    let words ← walkWords n tokens []
    if words.isEmpty then throw (.malformed .missingValue)
    else return " ".intercalate words

/-- Reads the values after the first ones, up to a closing parenthesis. -/
def walkValues (n : Nat) (tokens : List Token) (values : List String) : Walk (List String) :=
  match n with
  | 0 => cutOff
  | n + 1 => do
    match ← next tokens with
    | some .comma =>
      let v ← walkValue n tokens
      walkValues n tokens (values ++ [v])
    | some .closeParen => return values
    | _ => throw (.malformed .unclosedValues)

section

variable (n : Nat) (scope : Scope) (tokens : List Token)

/-- Reads what follows `is`. -/
def walkIs (o : Operand) : Walk Condition := do
  let negated ← nextIs tokens ['n', 'o', 't']
  if negated then skip
  let v ← walkValue n tokens
  ensure (checkLiterals scope o.attr "is" [v])
  return .is o v negated

/-- Reads what follows `in`. -/
def walkMember (o : Operand) (negated : Bool) : Walk Condition := do
  match ← next tokens with
  | some .openParen =>
    let first ← walkValue n tokens
    let values ← walkValues n tokens [first]
    ensure (checkLiterals scope o.attr "in" values)
    return .member o values negated
  | _ => throw (.malformed .unopenedValues)

/-- Reads what follows `not`. -/
def walkNotMember (o : Operand) : Walk Condition := do
  match ← next tokens with
  | some t =>
    if t.isKeyword ['i', 'n'] then walkMember n scope tokens o true
    else throw (.malformed .missingIn)
  | none => throw (.malformed .missingIn)

/-- Reads the number that an attribute is compared with. -/
def walkBound (o : Operand) (c : Comparison) : Walk Condition := do
  match ← next tokens with
  | some (.word w) =>
    match Decimal.read? w.toList with
    | some bound =>
      ensure (checkComparison scope o.attr c)
      return .compare o c bound
    | none => throw (.malformed (.missingNumber c))
  | _ => throw (.malformed (.missingNumber c))

/-- Reads what a condition says of an attribute. -/
def walkPredicate (o : Operand) : Walk Condition := do
  match ← next tokens with
  | none => throw (.malformed (.missingPredicate o.attr none))
  | some t =>
    if t.isKeyword ['i', 's'] then walkIs n scope tokens o
    else if t.isKeyword ['i', 'n'] then walkMember n scope tokens o false
    else if t.isKeyword ['n', 'o', 't'] then walkNotMember n scope tokens o
    else
      match t with
      | .comparison c => walkBound scope tokens o c
      | t => throw (.malformed (.missingPredicate o.attr (some t.text)))

/-- Reads the attribute after `same` or `different`. -/
def walkShared (keyword : String) (make : String → Condition) : Walk Condition := do
  match ← next tokens with
  | some (.word attr) =>
    if scope.role = .activation then throw .targetInActivation
    else
      ensure (checkAttribute scope attr)
      return make attr
  | _ => throw (.malformed (.missingOperand keyword))

/-- Reads an atom that begins with a word. -/
def walkWord (w : String) : Walk Condition := do
  if Token.spells "true".toList w then return .const true
  else if Token.spells "false".toList w then return .const false
  else if Token.spells "same".toList w then walkShared scope tokens w .same
  else if Token.spells "different".toList w then walkShared scope tokens w .different
  else
    let o := Operand.ofWord w
    if o.attr.isEmpty then throw (.malformed (.missingAttribute w))
    else if o.side = .target ∧ scope.role = .activation then throw .targetInActivation
    else
      ensure (checkAttribute scope o.attr)
      walkPredicate n scope tokens o

end

mutual

/-- Reads a constant, a predicate, or a condition in parentheses. -/
def walkAtom (n : Nat) (scope : Scope) (tokens : List Token) : Walk Condition :=
  match n with
  | 0 => cutOff
  | n + 1 => do
    match ← next tokens with
    | none => throw (.malformed .unexpectedEnd)
    | some .openParen =>
      let c ← walkOr n scope tokens
      match ← next tokens with
      | some .closeParen => return c
      | _ => throw (.malformed .unclosedParenthesis)
    | some (.word w) => walkWord n scope tokens w
    | some t => throw (.malformed (.unexpected t.text))

/-- Reads atoms with `and` between them. -/
def walkAnd (n : Nat) (scope : Scope) (tokens : List Token) : Walk Condition :=
  match n with
  | 0 => cutOff
  | n + 1 => do
    let left ← walkAtom n scope tokens
    walkAndTail n scope tokens left

/-- Reads what is joined to a condition by `and`. -/
def walkAndTail (n : Nat) (scope : Scope) (tokens : List Token) (left : Condition) :
    Walk Condition :=
  match n with
  | 0 => cutOff
  | n + 1 => do
    if ← nextIs tokens ['a', 'n', 'd'] then
      skip
      let right ← walkAtom n scope tokens
      walkAndTail n scope tokens (.and left right)
    else return left

/-- Reads conjunctions with `or` between them. -/
def walkOr (n : Nat) (scope : Scope) (tokens : List Token) : Walk Condition :=
  match n with
  | 0 => cutOff
  | n + 1 => do
    let left ← walkAnd n scope tokens
    walkOrTail n scope tokens left

/-- Reads what is joined to a condition by `or`. -/
def walkOrTail (n : Nat) (scope : Scope) (tokens : List Token) (left : Condition) :
    Walk Condition :=
  match n with
  | 0 => cutOff
  | n + 1 => do
    if ← nextIs tokens ['o', 'r'] then
      skip
      let right ← walkAnd n scope tokens
      walkOrTail n scope tokens (.or left right)
    else return left

end

/-- There are fewer tokens behind the position where a reader stops. -/
theorem fewer_left {α : Type} {tokens : List Token} {start stop : Nat}
    {r : Takes α (tokens.drop start)} {a : α} (read : r.result = .ok (a, tokens.drop stop)) :
    tokens.length - stop < tokens.length - start := by
  have shorter := length_lt_of_result read
  rwa [List.length_drop, List.length_drop] at shorter

theorem ends_walkWords (tokens : List Token) {n start : Nat} (words : List String)
    (enough : tokens.length - start < n) :
    Ends tokens start ((walkWords n tokens words).endOf start)
      (.ok (words ++ ((tokens.drop start).takeWhile isValuePart).map Token.text,
        (tokens.drop start).dropWhile isValuePart)) := by
  induction n generalizing start words with
  | zero => exact absurd enough (Nat.not_lt_zero _)
  | succ n ih =>
      rw [walkWords, endOf_peek]
      rcases token_cases tokens start with ⟨here, left⟩ | ⟨t, here, left, inside⟩
      · rw [here, left, List.takeWhile_nil, List.map_nil, List.append_nil, List.dropWhile_nil,
          ← left]
        exact ends_return words le_rfl (le_max_left _ _)
      · rw [here, left]
        dsimp only
        split
        next part =>
          have later := ih (words ++ [t.text]) (show tokens.length - (start + 1) < n by omega)
          rw [List.append_assoc] at later
          rw [endOf_skip, List.takeWhile_cons_of_pos part, List.dropWhile_cons_of_pos part]
          exact later.behind inside
        next other =>
          rw [List.takeWhile_cons_of_neg other, List.dropWhile_cons_of_neg other, List.map_nil,
            List.append_nil, ← left]
          exact ends_return words le_rfl (le_max_left _ _)

/-- A value that is not quoted is made of the words in front. -/
theorem result_readValue_words {tokens : List Token} (h : ∀ s, tokens.head? ≠ some (.quoted s)) :
    (readValue tokens).result =
      if ((tokens.takeWhile isValuePart).map Token.text).isEmpty then
        .error (.malformed .missingValue)
      else
        .ok (" ".intercalate ((tokens.takeWhile isValuePart).map Token.text),
          tokens.dropWhile isValuePart) := by
  cases tokens with
  | nil => rfl
  | cons t rest =>
      have unquoted (s : String) : t ≠ .quoted s := fun same => h s (congrArg some same)
      cases part : isValuePart t with
      | true =>
          rw [List.takeWhile_cons_of_pos part, List.dropWhile_cons_of_pos part, readValue,
            if_pos part]
          · rfl
          · exact unquoted
      | false =>
          have other : ¬isValuePart t = true := Bool.eq_false_iff.1 part
          rw [List.takeWhile_cons_of_neg other, readValue, if_neg other]
          · rfl
          · exact unquoted

theorem ends_walkValue (tokens : List Token) {n start : Nat}
    (enough : tokens.length - start < n) :
    Ends tokens start ((walkValue n tokens).endOf start)
      (readValue (tokens.drop start)).result := by
  have words (h : ∀ s, (tokens.drop start).head? ≠ some (.quoted s)) :
      Ends tokens start
        ((walkWords n tokens [] >>= fun words =>
          if words.isEmpty then throw (.malformed .missingValue)
          else pure (" ".intercalate words)).endOf start)
        (readValue (tokens.drop start)).result := by
    rw [result_readValue_words h]
    have read := ends_walkWords tokens [] enough
    apply read.bind (g := fun r =>
      if r.1.isEmpty then .error (.malformed .missingValue)
      else .ok (" ".intercalate r.1, r.2))
    intro words stop _ forth inside
    dsimp only
    split
    · exact ends_throw _ (by omega)
    · exact ends_return _ forth inside
  rw [walkValue, endOf_peek]
  rcases token_cases tokens start with ⟨here, left⟩ | ⟨t, here, left, inside⟩
  · rw [here]
    apply words
    simp [left]
  · rw [here]
    cases t with
    | quoted s =>
        rw [left, result_readValue_quoted]
        dsimp only
        rw [endOf_skip]
        exact ends_return s (by omega) (by omega)
    | _ =>
        apply words
        simp [left]

/-- What is read after some values, up to the closing parenthesis. -/
def moreValues (values : List String) :
    List Token → Except ConditionProblem (List String × List Token)
  | .closeParen :: rest => .ok (values, rest)
  | .comma :: rest =>
    (readValues rest).result.map fun (vs, rest) => (values ++ vs, rest)
  | _ => .error (.malformed .unclosedValues)

theorem moreValues_append (values more : List String) (tokens : List Token) :
    moreValues (values ++ more) tokens =
      (moreValues more tokens).map fun (vs, rest) => (values ++ vs, rest) := by
  cases tokens with
  | nil => rfl
  | cons t rest =>
      cases t with
      | comma =>
          simp only [moreValues]
          cases (readValues rest).result <;> simp [Except.map]
      | _ => rfl

theorem result_readValues_eq (tokens : List Token) :
    (readValues tokens).result =
      (readValue tokens).result.bind fun (v, rest) => moreValues [v] rest := by
  rw [result_readValues]
  congr 1
  funext ⟨v, rest⟩
  cases rest with
  | nil => rfl
  | cons t rest =>
      cases t with
      | comma =>
          simp only [moreValues]
          cases (readValues rest).result <;> rfl
      | _ => rfl

theorem moreValues_comma (values : List String) (tokens : List Token) :
    moreValues values (.comma :: tokens) =
      (readValue tokens).result.bind fun (v, rest) => moreValues (values ++ [v]) rest := by
  rw [moreValues, result_readValues_eq]
  cases (readValue tokens).result with
  | error e => rfl
  | ok read => exact (moreValues_append values [read.1] read.2).symm

theorem ends_walkValues (tokens : List Token) {n start : Nat} (values : List String)
    (enough : tokens.length - start < n) :
    Ends tokens start ((walkValues n tokens values).endOf start)
      (moreValues values (tokens.drop start)) := by
  induction n generalizing start values with
  | zero => exact absurd enough (Nat.not_lt_zero _)
  | succ n ih =>
      rw [walkValues]
      apply ends_next (g := moreValues values)
      · exact ends_throw _ (by omega)
      · intro t inside
        cases t with
        | comma =>
            have value := ends_walkValue tokens (show tokens.length - (start + 1) < n by omega)
            rw [moreValues_comma]
            apply (value.behind inside).bind
            intro v stop read forth within
            have fewer := fewer_left read
            exact (ih (values ++ [v]) (by omega)).since forth within
        | closeParen => exact ends_return values (by omega) (by omega)
        | _ => exact ends_throw _ (by omega)

theorem Takes.result_checked {α : Type} {tokens : List Token}
    (check : Except ConditionProblem Unit) (a : α) (rest : ProperRest tokens) :
    Takes.result (check >>= fun _ => .ok (a, rest)) = check.map fun _ => (a, rest.list) := by
  cases check <;> rfl

section

variable (scope : Scope) (tokens : List Token) {n start : Nat}

theorem ends_walkIs (o : Operand) (enough : tokens.length - start < n) :
    Ends tokens start ((walkIs n scope tokens o).endOf start)
      (readIs scope o (tokens.drop start)).result := by
  have value (negated : Bool) {pos : Nat} (enough : tokens.length - pos < n) :=
    (ends_walkValue tokens enough).checked (fun v => checkLiterals scope o.attr "is" [v])
      fun v => Condition.is o v negated
  rw [walkIs, endOf_nextIs]
  rcases token_cases tokens start with ⟨here, left⟩ | ⟨t, here, left, inside⟩
  · have plain := value false enough
    rw [left] at plain ⊢
    rw [here]
    exact plain
  · rw [here, left, readIs, Option.any_some]
    cases isNot : t.isKeyword ['n', 'o', 't'] with
    | true =>
        rw [if_pos rfl, if_pos rfl, Takes.result_cons, result_readIsValue]
        have later : tokens.length - (start + 1) < n := by omega
        exact (value true later).behind inside
    | false =>
        rw [if_neg Bool.false_ne_true, if_neg Bool.false_ne_true, result_readIsValue, ← left]
        exact value false enough

theorem ends_walkMember (o : Operand) (negated : Bool) (enough : tokens.length - start < n) :
    Ends tokens start ((walkMember n scope tokens o negated).endOf start)
      (readMember scope o negated (tokens.drop start)).result := by
  rw [walkMember]
  apply ends_next (g := fun rest => (readMember scope o negated rest).result)
  · exact ends_throw _ (by omega)
  · intro t inside
    cases t with
    | openParen =>
        have value := ends_walkValue tokens (show tokens.length - (start + 1) < n by omega)
        have values : Ends tokens (start + 1)
            ((walkValue n tokens >>= fun v => walkValues n tokens [v]).endOf (start + 1))
            ((readValue (tokens.drop (start + 1))).result.bind fun (v, rest) =>
              moreValues [v] rest) := by
          apply value.bind
          intro v stop _ forth within
          exact (ends_walkValues tokens [v] (by omega)).since forth within
        have all := values.checked (fun vs => checkLiterals scope o.attr "in" vs)
          fun vs => Condition.member o vs negated
        dsimp only
        rw [result_readMember, result_readValues_eq]
        rw [bind_assoc] at all
        exact all.behind inside
    | _ => exact ends_throw _ (by omega)

theorem ends_walkNotMember (o : Operand) (enough : tokens.length - start < n) :
    Ends tokens start ((walkNotMember n scope tokens o).endOf start)
      (readNotMember scope o (tokens.drop start)).result := by
  rw [walkNotMember]
  apply ends_next (g := fun rest => (readNotMember scope o rest).result)
  · exact ends_throw _ (by omega)
  · intro t inside
    dsimp only
    rw [readNotMember]
    split
    · rw [Takes.result_cons]
      exact (ends_walkMember scope tokens o true (by omega)).behind inside
    · exact ends_throw _ (by omega)

theorem ends_walkBound (o : Operand) (c : Comparison) :
    Ends tokens start ((walkBound scope tokens o c).endOf start)
      (readBound scope o c (tokens.drop start)).result := by
  rw [walkBound]
  apply ends_next (g := fun rest => (readBound scope o c rest).result)
  · exact ends_throw _ (by omega)
  · intro t inside
    cases t with
    | word w =>
        dsimp only
        rw [readBound]
        cases Decimal.read? w.toList with
        | none => exact ends_throw _ (by omega)
        | some bound =>
            dsimp only
            rw [Takes.result_checked]
            exact ends_ensure _ _ (by omega) (by omega)
    | _ => exact ends_throw _ (by omega)

theorem ends_walkPredicate (o : Operand) (enough : tokens.length - start < n) :
    Ends tokens start ((walkPredicate n scope tokens o).endOf start)
      (readPredicate scope o (tokens.drop start)).result := by
  rw [walkPredicate]
  apply ends_next (g := fun rest => (readPredicate scope o rest).result)
  · exact ends_throw _ (by omega)
  · intro t inside
    have later : tokens.length - (start + 1) < n := by omega
    dsimp only
    rw [result_readPredicate_cons]
    split
    · exact (ends_walkIs scope tokens o later).behind inside
    split
    · exact (ends_walkMember scope tokens o false later).behind inside
    split
    · exact (ends_walkNotMember scope tokens o later).behind inside
    cases t with
    | comparison c => exact (ends_walkBound scope tokens o c).behind inside
    | _ => exact ends_throw _ (by omega)

theorem ends_walkShared (keyword : String) (make : String → Condition) :
    Ends tokens start ((walkShared scope tokens keyword make).endOf start)
      (readShared scope keyword make (tokens.drop start)).result := by
  rw [walkShared]
  apply ends_next (g := fun rest => (readShared scope keyword make rest).result)
  · exact ends_throw _ (by omega)
  · intro t inside
    cases t with
    | word attr =>
        dsimp only
        rw [readShared]
        split
        · exact ends_throw _ (by omega)
        · rw [Takes.result_checked]
          exact ends_ensure _ _ (by omega) (by omega)
    | _ => exact ends_throw _ (by omega)

theorem ends_walkWord (w : String) (enough : tokens.length - start < n) :
    Ends tokens start ((walkWord n scope tokens w).endOf start)
      (readWord scope w (tokens.drop start)).result := by
  have near : start ≤ max start tokens.length + 1 := by omega
  have const (b : Bool) : Ends tokens start ((pure (.const b) : Walk Condition).endOf start)
      (.ok (.const b, tokens.drop start)) := ends_return _ le_rfl (le_max_left _ _)
  rw [walkWord, readWord]
  split
  · exact const true
  split
  · exact const false
  split
  · rw [Takes.result_toReads]
    exact ends_walkShared scope tokens w .same
  split
  · rw [Takes.result_toReads]
    exact ends_walkShared scope tokens w .different
  rw [Takes.result_toReads, readOperand]
  dsimp only
  split
  · exact ends_throw _ near
  split
  · exact ends_throw _ near
  cases checkAttribute scope (Operand.ofWord w).attr with
  | error e => exact .error e near
  | ok u => exact ends_walkPredicate scope tokens (Operand.ofWord w) enough

end

theorem result_readAndTail (scope : Scope) (left : Condition) (tokens : List Token) :
    (readAndTail scope left tokens).result =
      joinedBy ['a', 'n', 'd'] left
        (fun more => (readAtom scope more).result.bind fun (right, rest) =>
          (readAndTail scope (.and left right) rest).result) tokens := by
  cases tokens with
  | nil => exact result_readAndTail_nil scope left
  | cons t more => exact result_readAndTail_cons scope left t more

theorem result_readOrTail (scope : Scope) (left : Condition) (tokens : List Token) :
    (readOrTail scope left tokens).result =
      joinedBy ['o', 'r'] left
        (fun more => (readAnd scope more).result.bind fun (right, rest) =>
          (readOrTail scope (.or left right) rest).result) tokens := by
  cases tokens with
  | nil => exact result_readOrTail_nil scope left
  | cons t more => exact result_readOrTail_cons scope left t more

-- a disjunction calls a conjunction and that an atom before a token is taken, so each token that is
-- left pays for three calls
mutual

theorem ends_walkAtom (scope : Scope) (tokens : List Token) {n start : Nat}
    (enough : 3 * (tokens.length - start) < n) :
    Ends tokens start ((walkAtom n scope tokens).endOf start)
      (readAtom scope (tokens.drop start)).result := by
  match n with
  | 0 => exact absurd enough (Nat.not_lt_zero _)
  | n + 1 =>
      rw [walkAtom]
      apply ends_next (g := fun rest => (readAtom scope rest).result)
      · rw [readAtom]
        exact ends_throw _ (by omega)
      · intro t inside
        cases t with
        | openParen =>
            have later : 3 * (tokens.length - (start + 1)) + 2 < n := by omega
            have inner := ends_walkOr scope tokens later
            dsimp only
            rw [result_readAtom_openParen]
            apply (inner.behind inside).bind
            intro c stop _ forth within
            apply ends_next (g := fun rest =>
              match (c, rest) with
              | (c, .closeParen :: rest) => .ok (c, rest)
              | _ => .error (.malformed .unclosedParenthesis))
            · exact ends_throw _ (by omega)
            · intro t inside
              cases t with
              | closeParen => exact ends_return c (by omega) (by omega)
              | _ => exact ends_throw _ (by omega)
        | word w =>
            have later : tokens.length - (start + 1) < n := by omega
            dsimp only
            rw [result_readAtom_word]
            exact (ends_walkWord scope tokens w later).behind inside
        | _ =>
            dsimp only
            rw [readAtom]
            · exact ends_throw _ (by omega)
            · nofun
            · nofun
termination_by n

theorem ends_walkAnd (scope : Scope) (tokens : List Token) {n start : Nat}
    (enough : 3 * (tokens.length - start) + 1 < n) :
    Ends tokens start ((walkAnd n scope tokens).endOf start)
      (readAnd scope (tokens.drop start)).result := by
  match n with
  | 0 => exact absurd enough (Nat.not_lt_zero _)
  | n + 1 =>
      have atom := ends_walkAtom scope tokens (Nat.lt_of_succ_lt_succ enough)
      rw [walkAnd, result_readAnd]
      apply atom.bind
      intro left stop read forth within
      have fewer := fewer_left read
      exact (ends_walkAndTail scope tokens left (by omega)).since forth within
termination_by n

theorem ends_walkAndTail (scope : Scope) (tokens : List Token) (left : Condition) {n start : Nat}
    (enough : 3 * (tokens.length - start) < n) :
    Ends tokens start ((walkAndTail n scope tokens left).endOf start)
      (readAndTail scope left (tokens.drop start)).result := by
  match n with
  | 0 => exact absurd enough (Nat.not_lt_zero _)
  | n + 1 =>
      rw [walkAndTail, result_readAndTail]
      apply ends_joinedBy
      intro inside
      have later : 3 * (tokens.length - (start + 1)) < n := by omega
      apply (ends_walkAtom scope tokens later).bind
      intro right stop read forth within
      have fewer := fewer_left read
      exact (ends_walkAndTail scope tokens (.and left right) (by omega)).since forth within
termination_by n

theorem ends_walkOr (scope : Scope) (tokens : List Token) {n start : Nat}
    (enough : 3 * (tokens.length - start) + 2 < n) :
    Ends tokens start ((walkOr n scope tokens).endOf start)
      (readOr scope (tokens.drop start)).result := by
  match n with
  | 0 => exact absurd enough (Nat.not_lt_zero _)
  | n + 1 =>
      have conjunction := ends_walkAnd scope tokens (Nat.lt_of_succ_lt_succ enough)
      rw [walkOr, result_readOr]
      apply conjunction.bind
      intro left stop read forth within
      have fewer := fewer_left read
      exact (ends_walkOrTail scope tokens left (by omega)).since forth within
termination_by n

theorem ends_walkOrTail (scope : Scope) (tokens : List Token) (left : Condition) {n start : Nat}
    (enough : 3 * (tokens.length - start) < n) :
    Ends tokens start ((walkOrTail n scope tokens left).endOf start)
      (readOrTail scope left (tokens.drop start)).result := by
  match n with
  | 0 => exact absurd enough (Nat.not_lt_zero _)
  | n + 1 =>
      rw [walkOrTail, result_readOrTail]
      apply ends_joinedBy
      intro inside
      have later : 3 * (tokens.length - (start + 1)) + 1 < n := by omega
      apply (ends_walkAnd scope tokens later).bind
      intro right stop read forth within
      have fewer := fewer_left read
      exact (ends_walkOrTail scope tokens (.or left right) (by omega)).since forth within
termination_by n

end

/-- Reads a condition up to the last token. -/
def walkAll (n : Nat) (scope : Scope) (tokens : List Token) : Walk Condition := do
  let c ← walkOr n scope tokens
  match ← peek tokens with
  | some t => throw (.malformed (.unexpected t.text))
  | none => return c

/-- Compiles a text: reads its tokens in rounds, and a condition from them by position. -/
def walkText (n : Nat) (role : Role) (catalog : Catalog) (text : String) :
    Option (Except ConditionError Condition) := do
  let result ← match ← Token.rounds n [] text.toList with
    | .error cause => pure (.error (.malformed cause))
    | .ok [] => pure (.ok (.const true))
    | .ok tokens =>
      let (result, _) ← (walkAll n ⟨role, catalog⟩ tokens).endOf 0
      pure result
  return result.mapError fun problem => ⟨text, problem⟩

theorem ofTokens_eq (scope : Scope) {tokens : List Token} (ne : tokens ≠ []) :
    ofTokens scope tokens =
      (readOr scope tokens).result.bind fun
        | (c, []) => .ok c
        | (_, t :: _) => .error (.malformed (.unexpected t.text)) := by
  rw [ofTokens]
  · cases readOr scope tokens with
    | error e => rfl
    | ok read =>
        obtain ⟨c, list, lt⟩ := read
        cases list <;> rfl
  · exact ne

theorem exists_endOf_walkAll (scope : Scope) {tokens : List Token} (ne : tokens ≠ []) {n : Nat}
    (enough : 3 * tokens.length + 2 < n) :
    ∃ stop, (walkAll n scope tokens).endOf 0 = some (ofTokens scope tokens, stop) := by
  have ends := ends_walkOr scope tokens (show 3 * (tokens.length - 0) + 2 < n from enough)
  rw [List.drop_zero] at ends
  rw [walkAll, endOf_bind, ofTokens_eq scope ne]
  generalize (walkOr n scope tokens).endOf 0 = ended at ends ⊢
  generalize (readOr scope tokens).result = r at ends ⊢
  cases ends with
  | error e near => exact ⟨_, rfl⟩
  | ok c forth inside =>
      rename_i stop
      refine ⟨stop, ?_⟩
      change (peek tokens >>= _).endOf stop = _
      rw [endOf_peek]
      rcases token_cases tokens stop with ⟨here, left⟩ | ⟨t, here, left, -⟩
      · rw [here, left]
        rfl
      · rw [here, left]
        rfl

/-- Compiling a text ends with the condition that reading it gives, or with the same failure. -/
theorem walkText_eq (role : Role) (catalog : Catalog) {text : String} {n : Nat}
    (enough : 3 * text.toList.length + 2 < n) :
    walkText n role catalog text = some (read role catalog text) := by
  rw [walkText, Token.rounds_eq (show text.toList.length ≤ n by omega), read]
  cases tokenized : Token.tokenize text.toList with
  | error cause => rfl
  | ok tokens =>
      cases tokens with
      | nil => rfl
      | cons t more =>
          have fewer := Token.length_tokenize_le tokenized
          obtain ⟨stop, ended⟩ := exists_endOf_walkAll ⟨role, catalog⟩ (List.cons_ne_nil t more)
            (show 3 * (t :: more).length + 2 < n by omega)
          simp only [Except.map, List.nil_append, Option.bind_eq_bind, Option.bind_some, ended]
          rfl

/-- From every position the walk ends as the reader does, within a depth that the number of tokens
bounds from there on. If it reads something it has gone on, and not beyond the end of the tokens; if
it fails it may be one position behind the end. -/
def Walk.Follows {α : Type} (tokens : List Token) (w : Nat → Walk α)
    (reader : (rest : List Token) → Takes α rest) : Prop :=
  ∀ start n, 3 * (tokens.length - start) + 2 < n →
    ∃ result stop, (w n).endOf start = some (result, stop) ∧
      (reader (tokens.drop start)).result = result.map (·, tokens.drop stop) ∧
      stop ≤ max start tokens.length + 1 ∧
      ∀ a, result = .ok a → start < stop ∧ stop ≤ tokens.length

theorem follows_of_ends {α : Type} {tokens : List Token} {w : Nat → Walk α}
    {reader : (rest : List Token) → Takes α rest}
    (h : ∀ {n start}, 3 * (tokens.length - start) + 2 < n →
      Ends tokens start ((w n).endOf start) (reader (tokens.drop start)).result) :
    Walk.Follows tokens w reader := by
  intro start n enough
  have ends := h enough
  generalize read : (reader (tokens.drop start)).result = r at ends
  generalize (w n).endOf start = ended at ends
  cases ends with
  | ok a forth inside =>
      have fewer := fewer_left read
      refine ⟨.ok a, _, rfl, rfl, by omega, ?_⟩
      rintro _ ⟨⟩
      omega
  | error e near => exact ⟨.error e, _, rfl, rfl, near, nofun⟩

/-- Reading ends on every text. Each round of reading tokens takes at least one character, so there
are no more rounds than characters. From every position in every list of tokens, reading a
disjunction, a conjunction or an atom ends, and a condition that was read ends behind the position,
at most at the end of the tokens. -/
theorem reading_ends (role : Role) (catalog : Catalog) :
    (∀ c cs, ∃ taken, taken ≠ [] ∧ c :: cs = taken ++ (Token.round c cs).2) ∧
      (∀ cs n, cs.length ≤ n → Token.rounds n [] cs = some (Token.tokenize cs)) ∧
      (∀ tokens,
        Walk.Follows tokens (walkOr · ⟨role, catalog⟩ tokens) (readOr ⟨role, catalog⟩) ∧
          Walk.Follows tokens (walkAnd · ⟨role, catalog⟩ tokens) (readAnd ⟨role, catalog⟩) ∧
          Walk.Follows tokens (walkAtom · ⟨role, catalog⟩ tokens) (readAtom ⟨role, catalog⟩)) ∧
      ∀ text n, 3 * text.toList.length + 2 < n →
        walkText n role catalog text = some (read role catalog text) := by
  refine ⟨Token.exists_taken, ?_, ?_, ?_⟩
  · intro cs n enough
    rw [Token.rounds_eq enough]
    cases Token.tokenize cs <;> rfl
  · intro tokens
    refine ⟨?_, ?_, ?_⟩
    · apply follows_of_ends
      exact fun enough => ends_walkOr _ tokens enough
    · apply follows_of_ends
      exact fun enough => ends_walkAnd _ tokens (by omega)
    · apply follows_of_ends
      exact fun enough => ends_walkAtom _ tokens (by omega)
  · intro text n enough
    exact walkText_eq role catalog enough

/-- The tokens of `(true or false)`. -/
def choiceTokens : List Token :=
  [.openParen, .word "true", .word "or", .word "false", .closeParen]

/-- From behind the opening parenthesis the walk goes up to the closing one. -/
theorem reading_ends_choice :
    (walkOr 15 ⟨.activation, .ofNames []⟩ choiceTokens).endOf 1 =
      some (.ok (.or (.const true) (.const false)), 4) := by
  have spelled : Spells (.or (.const true) (.const false))
      [.word "true", .word "or", .word "false"] :=
    .or (.const true) (.const false)
  have admitted : Admitted ⟨.activation, .ofNames []⟩ (.or (.const true) (.const false)) :=
    ⟨trivial, trivial⟩
  have reads := (readsByLevel_of_spells spelled admitted).asOr [.closeParen] (by rintro t ⟨⟩; rfl)
  rw [readOrTail_of_stop (by rintro t ⟨⟩; rfl)] at reads
  obtain ⟨-, -, walks, -⟩ := reading_ends .activation (.ofNames [])
  obtain ⟨result, stop, ended, same, -, within⟩ := (walks choiceTokens).1 1 15 (by decide)
  obtain ⟨c, rfl, read⟩ := exists_of_map_eq_ok (same.symm.trans reads)
  obtain ⟨rfl, left⟩ := Prod.mk.inj read
  have behind : choiceTokens.length - stop = 1 := by
    rw [← List.length_drop, left]
    rfl
  have four : stop = 4 := by
    change 5 - stop = 1 at behind
    omega
  rw [← four]
  exact ended

end Declare.Condition
