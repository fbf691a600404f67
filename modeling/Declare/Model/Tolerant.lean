/-!
# Reading with tolerance

Some faults of a text need not stop its reader. A strict reader stops at them all the same; a
lenient one passes over them and carries on (`Tolerant.tolerate`). A `Tolerant` reading is what a
reader of either mode does: its outcome, and the faults that it passed over on the way, in order.
-/

namespace Declare

/-- Whether a reader passes over questionable lines. -/
inductive ReadMode where
  | strict
  | lenient
deriving Repr, DecidableEq

/-- An outcome, and the faults that were passed over to reach it. -/
structure Tolerant (φ α : Type) where
  passed : List φ
  outcome : Except φ α

namespace Tolerant

variable {φ ψ α β : Type}

/-- Carries on with a value, passing over nothing. -/
def value (a : α) : Tolerant φ α := ⟨[], .ok a⟩

/-- Stops at a fault. -/
def stop (f : φ) : Tolerant φ α := ⟨[], .error f⟩

/-- Stops a strict reader at a fault; a lenient one passes over it. -/
def tolerate (mode : ReadMode) (f : φ) : Tolerant φ Unit :=
  match mode with
  | .strict => stop f
  | .lenient => ⟨[f], .ok ()⟩

/-- An outcome that passes over nothing. -/
def ofExcept (r : Except φ α) : Tolerant φ α := ⟨[], r⟩

/-- Carries on with what a reading gave, unless it stopped. -/
def andThen (r : Tolerant φ α) (next : α → Tolerant φ β) : Tolerant φ β :=
  match r.outcome with
  | .error f => ⟨r.passed, .error f⟩
  | .ok a => ⟨r.passed ++ (next a).passed, (next a).outcome⟩

instance : Monad (Tolerant φ) where
  pure := value
  bind := andThen

/-- The reading with every fault changed, such as by adding where it was found. -/
def mapFault (g : φ → ψ) (r : Tolerant φ α) : Tolerant ψ α :=
  ⟨r.passed.map g, r.outcome.mapError g⟩

@[simp] theorem value_bind (a : α) (next : α → Tolerant φ β) : (value a >>= next) = next a := rfl

@[simp] theorem ofExcept_ok (a : α) : (ofExcept (.ok a) : Tolerant φ α) = value a := rfl

theorem outcome_bind (r : Tolerant φ α) (next : α → Tolerant φ β) :
    (r >>= next).outcome = r.outcome.bind fun a => (next a).outcome := by
  obtain ⟨passed, outcome⟩ := r
  cases outcome <;> rfl

/-- A sequence is read if both its parts are. -/
theorem outcome_bind_eq_ok {r : Tolerant φ α} {next : α → Tolerant φ β} {b : β} :
    (r >>= next).outcome = .ok b ↔ ∃ a, r.outcome = .ok a ∧ (next a).outcome = .ok b := by
  rw [outcome_bind]
  cases r.outcome <;> simp [Except.bind]

/-- A reader that does not stop at a fault carries on as if it were none. -/
theorem outcome_of_tolerate {mode : ReadMode} {f : φ} {next : Unit → Tolerant φ α} {a : α}
    (ok : (tolerate mode f >>= next).outcome = .ok a) : (next ()).outcome = .ok a := by
  obtain ⟨_, -, rest⟩ := outcome_bind_eq_ok.1 ok
  exact rest

theorem outcome_mapFault (g : φ → ψ) (r : Tolerant φ α) :
    (r.mapFault g).outcome = r.outcome.mapError g := rfl

theorem outcome_mapFault_eq_ok {g : φ → ψ} {r : Tolerant φ α} {a : α} :
    (r.mapFault g).outcome = .ok a ↔ r.outcome = .ok a := by
  rw [outcome_mapFault]
  cases r.outcome with
  | error f => constructor <;> (intro h; cases h)
  | ok b => constructor <;> (intro h; cases h; rfl)

end Tolerant

end Declare
