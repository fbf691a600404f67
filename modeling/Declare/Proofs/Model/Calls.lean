import Declare.Proofs.Model.DomainText
import Declare.Proofs.Model.Growth

/-!
# Calls on a model in place

A model can be kept in one place and be changed by calls that check and write step by step
(`Model.InPlace`). What such a call wrote before it met a fault would stay written. It never does:
each call makes all its checks before it writes, so it ends in the model that the change of the same
name gives (`perform_snd`), and a call that is refused leaves the model as it was. Every sequence of
calls, refused ones among them, leads to a well-formed model that only grows.
-/

namespace Declare

namespace Model

/-- A program on a model that is changed in place. Its writes outlast a fault that follows them. -/
abbrev InPlace (α : Type) : Type :=
  ExceptT Fault (StateM Model) α

namespace InPlace

/-- What a program on a model returns, and the model that it leaves behind. -/
def on {α : Type} (program : InPlace α) (m : Model) : Except Fault α × Model :=
  program.run.run m

/-- Declares an activity, and says whether it was new. -/
def addActivity (name : String) : InPlace Bool := do
  if (← get).hasActivity name then return false
  modify fun m => { m with activities := m.activities ++ [{ name }] }
  return true

/-- Binds an attribute to a declared activity, and says whether the binding was new. -/
def bind (activity attr : String) : InPlace Bool := do
  match (← get).activity? activity with
  | none => throw (.undeclared .activity activity)
  | some a =>
    if attr ∈ a.attributes then return false
    modify fun m => { m with activities := appendAttribute activity attr m.activities }
    return true

/-- Gives a bound attribute a domain that reads back, and returns the one it had before. -/
def setDomain (attr : String) (d : Domain) : InPlace (Option Domain) := do
  if !(← get).isBound attr then throw (.undeclared .attr attr)
  if !d.readsBack then throw (.unstableDomain d.text attr)
  let previous := (← get).domain? attr
  modify fun m => { m with domains := insertDomain attr d m.domains }
  return previous

/-- Appends a well-formed constraint on declared activities. -/
def addConstraint (c : Constraint) : InPlace Unit := do
  if let some fault := c.fault? then throw (.constraint fault)
  let m ← get
  if let some a := c.activities.find? (!m.hasActivity ·) then throw (.undeclared .activity a)
  modify fun m => { m with constraints := m.constraints ++ [c] }

end InPlace

/-- What a call returns if it meets no fault. -/
inductive Answer where
  /-- Whether an activity or a binding was new. -/
  | isNew (new : Bool)
  /-- The domain that an attribute had before. -/
  | previous (d : Option Domain)
  | done

namespace Change

/-- The call that asks for a change. -/
def call : Change → InPlace Answer
  | .addActivity name => Answer.isNew <$> InPlace.addActivity name
  | .bind activity attr => Answer.isNew <$> InPlace.bind activity attr
  | .setDomain attr d => Answer.previous <$> InPlace.setDomain attr d
  | .addConstraint c => (fun _ => Answer.done) <$> InPlace.addConstraint c

/-- What a call on a model returns, and the model that it leaves behind. -/
def perform (c : Change) (m : Model) : Except Fault Answer × Model :=
  c.call.on m

end Change

/-- Whether a call was refused: it met a fault, or what it asked for was there already. -/
def Refused : Except Fault Answer → Prop
  | .error _ => True
  | .ok (.isNew new) => new = false
  | .ok _ => False

/-- The model that a sequence of calls leaves behind, the first one made on the empty model. -/
def performAll (changes : List Change) : Model :=
  changes.foldl (fun m c => (c.perform m).2) {}

namespace InPlace

theorem on_get {α : Type} (next : Model → InPlace α) (m : Model) :
    (get >>= next).on m = (next m).on m := rfl

theorem on_addActivity (name : String) (m : Model) :
    (addActivity name).on m = (.ok (m.addActivity name).1, (m.addActivity name).2) := by
  rw [addActivity, on_get, Model.addActivity]
  by_cases known : m.hasActivity name
  · rw [if_pos known, if_pos known]
    rfl
  · rw [if_neg known, if_neg known]
    rfl

theorem on_bind (activity attr : String) (m : Model) :
    (bind activity attr).on m =
      match m.bind activity attr with
      | .ok (new, m') => (.ok new, m')
      | .error f => (.error f, m) := by
  rw [bind, on_get, Model.bind]
  cases m.activity? activity with
  | none => rfl
  | some a =>
      by_cases bound : attr ∈ a.attributes
      · simp only [bound, ↓reduceIte]
        rfl
      · simp only [bound, ↓reduceIte]
        rfl

theorem on_setDomain (attr : String) (d : Domain) (m : Model) :
    (setDomain attr d).on m =
      match m.setDomain attr d with
      | .ok (previous, m') => (.ok previous, m')
      | .error f => (.error f, m) := by
  rw [setDomain, on_get, Model.setDomain]
  cases m.isBound attr with
  | false => rfl
  | true =>
      cases d.readsBack with
      | false => rfl
      | true => rfl

theorem on_addConstraint (c : Constraint) (m : Model) :
    (addConstraint c).on m =
      match m.addConstraint c with
      | .ok m' => (.ok (), m')
      | .error f => (.error f, m) := by
  rw [addConstraint, Model.addConstraint]
  cases c.fault? with
  | some fault => rfl
  | none =>
      dsimp only
      rw [on_get]
      cases c.activities.find? (!m.hasActivity ·) with
      | some a => rfl
      | none => rfl

theorem on_map {α β : Type} (f : α → β) (program : InPlace α) (m : Model) :
    (f <$> program).on m = ((program.on m).1.map f, (program.on m).2) := by
  rw [on, ExceptT.run_map, StateT.run_map]
  rfl

end InPlace

variable {m : Model}

/-- The model that a call leaves behind is the model after the change that it asks for. -/
theorem perform_snd (c : Change) (m : Model) : (c.perform m).2 = m.change c := by
  cases c with
  | addActivity name =>
      rw [Change.perform, Change.call, InPlace.on_map, InPlace.on_addActivity]
      rfl
  | bind activity attr =>
      rw [Change.perform, Change.call, InPlace.on_map, InPlace.on_bind, change]
      cases m.bind activity attr <;> rfl
  | setDomain attr d =>
      rw [Change.perform, Change.call, InPlace.on_map, InPlace.on_setDomain, change]
      cases m.setDomain attr d <;> rfl
  | addConstraint c =>
      rw [Change.perform, Change.call, InPlace.on_map, InPlace.on_addConstraint, change]
      cases m.addConstraint c <;> rfl

theorem performAll_eq_build (changes : List Change) : performAll changes = build changes := by
  have same : (fun (m : Model) (c : Change) => (c.perform m).2) = change := by
    funext m c
    exact perform_snd c m
  rw [performAll, build, same]

theorem bind_of_not_new {activity attr : String} {m' : Model}
    (ok : m.bind activity attr = .ok (false, m')) : m' = m := by
  rw [bind] at ok
  split at ok
  · cases ok
  · split at ok
    · obtain ⟨-, rfl⟩ := Prod.mk.inj (Except.ok.inj ok)
      rfl
    · cases ok

/-- A call that is refused leaves the model as it was. -/
theorem perform_of_refused {c : Change} (h : Refused (c.perform m).1) : (c.perform m).2 = m := by
  cases c with
  | addActivity name =>
      rw [Change.perform, Change.call, InPlace.on_map, InPlace.on_addActivity] at h ⊢
      dsimp only [Except.map, Refused] at h ⊢
      rw [addActivity] at h ⊢
      split at h
      · next known => rw [if_pos known]
      · cases h
  | bind activity attr =>
      rw [Change.perform, Change.call, InPlace.on_map, InPlace.on_bind] at h ⊢
      cases bound : m.bind activity attr with
      | error f => rfl
      | ok result =>
          obtain ⟨new, m'⟩ := result
          rw [bound] at h
          obtain rfl : new = false := h
          exact bind_of_not_new bound
  | setDomain attr d =>
      rw [Change.perform, Change.call, InPlace.on_map, InPlace.on_setDomain] at h ⊢
      cases set : m.setDomain attr d with
      | error f => rfl
      | ok result =>
          rw [set] at h
          cases h
  | addConstraint c =>
      rw [Change.perform, Change.call, InPlace.on_map, InPlace.on_addConstraint] at h ⊢
      cases added : m.addConstraint c with
      | error f => rfl
      | ok m' =>
          rw [added] at h
          cases h

/-- After every sequence of calls, refused ones among them, the model is well-formed and its domains
read back as themselves; a call that is refused then leaves it as it is; and whatever calls come
next keep its activities, bindings and constraints in their places. -/
theorem performAll_safe (changes more : List Change) (c : Change) :
    (performAll changes).WellFormed ∧
      (∀ entry ∈ (performAll changes).domains, Domain.read entry.2.text.toList = .ok entry.2) ∧
      (Refused (c.perform (performAll changes)).1 →
        (c.perform (performAll changes)).2 = performAll changes) ∧
      (performAll changes).Extends (performAll (changes ++ more)) := by
  have wellFormed : (performAll changes).WellFormed := by
    rw [performAll_eq_build]
    exact wellFormed_build changes
  refine ⟨wellFormed, ?_, perform_of_refused, ?_⟩
  · intro entry mem
    exact Domain.read_text (wellFormed.domains_readBack entry mem)
  · rw [performAll_eq_build, performAll_eq_build, build, build, List.foldl_append]
    exact extends_foldl_change _ more

end Model

end Declare
