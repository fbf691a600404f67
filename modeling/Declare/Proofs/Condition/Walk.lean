import Declare.Proofs.Condition.Reading

/-!
# Walks through tokens

A walk reads tokens by their positions, as a reader takes them from the front of a list. It keeps
the position as a state, counts it up also where no token is left, and may go on for ever: a walk
whose calls and rounds were cut off at some depth has no result. `Ends` says that a walk has ended
as a reader does, and where; its rules follow the steps of a walk.
-/

namespace Declare.Condition

/-- A reader that goes through tokens by their positions. It begins at a position and ends at
another one, also if it fails; a reader that has not ended has no result. -/
abbrev Walk (α : Type) := ExceptT ConditionProblem (StateT Nat Option) α

namespace Walk

/-- What a walk from a position reads, or how it fails, and the position where it ends. -/
def endOf {α : Type} (w : Walk α) (start : Nat) : Option (Except ConditionProblem α × Nat) :=
  (ExceptT.run w).run start

/-- Does not end. -/
def cutOff {α : Type} : Walk α :=
  ExceptT.mk fun _ => none

/-- The token at the position. -/
def peek (tokens : List Token) : Walk (Option Token) := do
  return tokens[← get]?

/-- Goes to the next position. -/
def skip : Walk Unit :=
  modify (· + 1)

/-- The token at the position, and on to the next one. -/
def next (tokens : List Token) : Walk (Option Token) := do
  let t ← peek tokens
  skip
  return t

/-- Whether the token at the position is a keyword. -/
def nextIs (tokens : List Token) (keyword : List Char) : Walk Bool := do
  return (← peek tokens).any (·.isKeyword keyword)

/-- Fails if a check does. -/
def ensure (check : Except ConditionProblem Unit) : Walk Unit :=
  ExceptT.mk (pure check)

end Walk

open Walk

variable {α β : Type} {tokens : List Token} {start pos : Nat}

theorem endOf_bind (w : Walk α) (f : α → Walk β) (pos : Nat) :
    (w >>= f).endOf pos = (w.endOf pos).bind fun
      | (.ok a, stop) => (f a).endOf stop
      | (.error e, stop) => some (.error e, stop) := by
  change (w pos).bind _ = (w pos).bind _
  congr 1
  funext ⟨result, stop⟩
  cases result <;> rfl

theorem endOf_peek {f : Option Token → Walk α} :
    (peek tokens >>= f).endOf pos = (f tokens[pos]?).endOf pos :=
  rfl

theorem endOf_next {f : Option Token → Walk α} :
    (next tokens >>= f).endOf pos = (f tokens[pos]?).endOf (pos + 1) :=
  rfl

theorem endOf_skip {w : Walk α} : (skip >>= fun _ => w).endOf pos = w.endOf (pos + 1) :=
  rfl

theorem endOf_nextIs {keyword : List Char} {f : Bool → Walk α} :
    (nextIs tokens keyword >>= f).endOf pos =
      (f (tokens[pos]?.any (·.isKeyword keyword))).endOf pos :=
  rfl

/-- There is a token at a position, or none is left. -/
theorem token_cases (tokens : List Token) (pos : Nat) :
    tokens[pos]? = none ∧ tokens.drop pos = [] ∨
      ∃ t, tokens[pos]? = some t ∧ tokens.drop pos = t :: tokens.drop (pos + 1) ∧
        pos < tokens.length := by
  rcases Nat.lt_or_ge pos tokens.length with inside | behind
  · exact .inr ⟨tokens[pos], List.getElem?_eq_getElem inside, List.drop_eq_getElem_cons inside,
      inside⟩
  · exact .inl ⟨List.getElem?_eq_none behind, List.drop_eq_nil_of_le behind⟩

/-- A walk that began at `start` has ended as a reader of the tokens from there on does: with the
same result and at the tokens that the reader leaves, or with the same failure. It has not gone
back, and not beyond the end of the tokens but for one position if it failed. -/
inductive Ends (tokens : List Token) (start : Nat) :
    Option (Except ConditionProblem α × Nat) → Except ConditionProblem (α × List Token) → Prop
  | ok (a : α) {stop : Nat} (forth : start ≤ stop) (inside : stop ≤ max start tokens.length) :
    Ends tokens start (some (.ok a, stop)) (.ok (a, tokens.drop stop))
  | error (e : ConditionProblem) {stop : Nat} (near : stop ≤ max start tokens.length + 1) :
    Ends tokens start (some (.error e, stop)) (.error e)

theorem ends_return (a : α) (forth : start ≤ pos) (inside : pos ≤ max start tokens.length) :
    Ends tokens start ((pure a : Walk α).endOf pos) (.ok (a, tokens.drop pos)) :=
  .ok a forth inside

theorem ends_throw (e : ConditionProblem) (near : pos ≤ max start tokens.length + 1) :
    Ends tokens start ((throw e : Walk α).endOf pos) (.error e) :=
  .error e near

/-- Two walks after one another end as the two readers do. -/
theorem Ends.bind {w : Walk α} {f : α → Walk β} {r : Except ConditionProblem (α × List Token)}
    {g : α × List Token → Except ConditionProblem (β × List Token)}
    (h : Ends tokens start (w.endOf pos) r)
    (more : ∀ a stop, r = .ok (a, tokens.drop stop) → start ≤ stop →
      stop ≤ max start tokens.length →
      Ends tokens start ((f a).endOf stop) (g (a, tokens.drop stop))) :
    Ends tokens start ((w >>= f).endOf pos) (r.bind g) := by
  rw [endOf_bind]
  generalize w.endOf pos = ended at h
  cases h with
  | ok a forth inside => exact more a _ rfl forth inside
  | error e near => exact .error e near

/-- A walk from a later position is a walk from an earlier one, as far as its end goes. -/
theorem Ends.since {ended : Option (Except ConditionProblem α × Nat)}
    {r : Except ConditionProblem (α × List Token)} (h : Ends tokens pos ended r)
    (forth : start ≤ pos) (inside : pos ≤ max start tokens.length) : Ends tokens start ended r := by
  cases h with
  | ok a forth' inside' => exact .ok a (by omega) (by omega)
  | error e near => exact .error e (by omega)

theorem Ends.behind {ended : Option (Except ConditionProblem α × Nat)}
    {r : Except ConditionProblem (α × List Token)} (h : Ends tokens (start + 1) ended r)
    (inside : start < tokens.length) : Ends tokens start ended r :=
  h.since (Nat.le_succ start) (Nat.le_trans inside (Nat.le_max_right start _))

/-- A token is taken, where one is left. -/
theorem ends_next {f : Option Token → Walk α}
    {g : List Token → Except ConditionProblem (α × List Token)}
    (nothing : Ends tokens start ((f none).endOf (pos + 1)) (g []))
    (token : ∀ t, pos < tokens.length →
      Ends tokens start ((f (some t)).endOf (pos + 1)) (g (t :: tokens.drop (pos + 1)))) :
    Ends tokens start ((next tokens >>= f).endOf pos) (g (tokens.drop pos)) := by
  rw [endOf_next]
  rcases token_cases tokens pos with ⟨here, left⟩ | ⟨t, here, left, inside⟩
  · rw [here, left]
    exact nothing
  · rw [here, left]
    exact token t inside

/-- What is read after `left`: more of it behind a keyword, and nothing without the keyword. -/
def joinedBy (keyword : List Char) (left : α)
    (more : List Token → Except ConditionProblem (α × List Token)) :
    List Token → Except ConditionProblem (α × List Token)
  | [] => .ok (left, [])
  | t :: rest => if t.isKeyword keyword then more rest else .ok (left, t :: rest)

theorem ends_joinedBy {keyword : List Char} {left : α} {w : Walk α}
    {more : List Token → Except ConditionProblem (α × List Token)}
    (goesOn : start < tokens.length →
      Ends tokens (start + 1) (w.endOf (start + 1)) (more (tokens.drop (start + 1)))) :
    Ends tokens start
      ((nextIs tokens keyword >>= fun joined =>
        if joined then skip >>= fun _ => w else pure left).endOf start)
      (joinedBy keyword left more (tokens.drop start)) := by
  have stays : Ends tokens start ((pure left : Walk α).endOf start)
      (.ok (left, tokens.drop start)) :=
    ends_return left (Nat.le_refl start) (Nat.le_max_left start _)
  rw [endOf_nextIs]
  rcases token_cases tokens start with ⟨here, nothing⟩ | ⟨t, here, rest, inside⟩
  · rw [nothing] at stays ⊢
    rw [here]
    exact stays
  · rw [rest] at stays ⊢
    rw [here, joinedBy, Option.any_some]
    split
    · rw [endOf_skip]
      exact (goesOn inside).behind inside
    · exact stays

theorem ends_ensure (check : Except ConditionProblem Unit) (a : α) (forth : start ≤ pos)
    (inside : pos ≤ max start tokens.length) :
    Ends tokens start ((ensure check >>= fun _ => pure a).endOf pos)
      (check.map fun _ => (a, tokens.drop pos)) := by
  cases check with
  | error e => exact .error e (by omega)
  | ok u => exact .ok a forth inside

/-- What was read is checked, and something is made of it. -/
theorem Ends.checked {w : Walk α} {r : Except ConditionProblem (α × List Token)}
    (h : Ends tokens start (w.endOf pos) r) (check : α → Except ConditionProblem Unit)
    (make : α → β) :
    Ends tokens start ((w >>= fun a => ensure (check a) >>= fun _ => pure (make a)).endOf pos)
      (r.bind fun (a, rest) => (check a).map fun _ => (make a, rest)) :=
  h.bind fun a _ _ forth inside => ends_ensure (check a) (make a) forth inside

end Declare.Condition
