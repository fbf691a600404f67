import Declare.Proofs.Model.Beginnings

/-!
# Strict and lenient readers

A strict reader and a lenient one change the same model in the same way, line by line and attribute
by attribute, until the first fault to be tolerated; there the strict one stops. So its run is the
lenient run cut off at the first fault that this one passes over (`Tolerant.Curtails`,
`Model.readText_strict_eq`). What is passed over is never an undeclared reference, so a reference at
which the strict reader stops also stops the lenient one (`Model.read_modes_agree`).
-/

namespace Declare

namespace Tolerant

/-- A run that passes over nothing, and goes like another run unless this one passes over a fault:
then it stops at the first of these faults, which is of a certain kind. -/
inductive Curtails {φ α : Type} (p : φ → Prop) : Tolerant φ α → Tolerant φ α → Prop where
  | together (r : Except φ α) : Curtails p (ofExcept r) (ofExcept r)
  | apart {f : φ} (passed : List φ) (outcome : Except φ α) (kind : p f) :
      Curtails p (stop f) ⟨f :: passed, outcome⟩

variable {φ ψ α β : Type} {p : φ → Prop}

theorem curtails_value (a : α) : Curtails p (value a) (value a) :=
  .together (.ok a)

theorem curtails_stop (f : φ) : Curtails p (stop f : Tolerant φ α) (stop f) :=
  .together (.error f)

theorem curtails_tolerate {f : φ} (kind : p f) :
    Curtails p (tolerate .strict f) (tolerate .lenient f) :=
  .apart [] (.ok ()) kind

namespace Curtails

variable {r r' : Tolerant φ α}

theorem bind {next next' : α → Tolerant φ β} (h : Curtails p r r')
    (rest : ∀ a, Curtails p (next a) (next' a)) : Curtails p (r >>= next) (r' >>= next') := by
  cases h with
  | together r =>
      cases r with
      | error f => exact curtails_stop f
      | ok a => exact rest a
  | apart passed outcome kind =>
      cases outcome with
      | error f => exact .apart passed (.error f) kind
      | ok a => exact .apart (passed ++ (next' a).passed) (next' a).outcome kind

theorem mapFault {q : ψ → Prop} {g : φ → ψ} (h : Curtails p r r') (kind : ∀ f, p f → q (g f)) :
    Curtails q (r.mapFault g) (r'.mapFault g) := by
  cases h with
  | together r => exact .together (r.mapError g)
  | apart passed outcome here =>
      exact .apart (passed.map g) (outcome.mapError g) (kind _ here)

/-- The first fault that is passed over ends the run that is cut off. -/
theorem eq_ofExcept (h : Curtails p r r') :
    r = ofExcept (r'.passed.head?.elim r'.outcome .error) := by
  cases h <;> rfl

theorem outcome_eq_ok {a : α} (h : Curtails p r r') (ok : r.outcome = .ok a) :
    r'.outcome = .ok a := by
  cases h with
  | together => exact ok
  | apart => cases ok

/-- A run that is cut off stops where the other one does, if not before. -/
theorem exists_outcome_eq_error {f : φ} (h : Curtails p r r') (stop : r'.outcome = .error f) :
    ∃ f', r.outcome = .error f' := by
  cases h with
  | together => exact ⟨f, stop⟩
  | @apart f' => exact ⟨f', rfl⟩

/-- A fault of another kind stops both runs. -/
theorem outcome_eq_error {f : φ} (h : Curtails p r r') (stop : r.outcome = .error f)
    (other : ¬p f) : r'.outcome = .error f := by
  cases h with
  | together => exact stop
  | apart _ _ kind =>
      obtain rfl := Except.error.inj stop
      exact absurd kind other

end Curtails

end Tolerant

namespace Model

open Text Tolerant

/-- The fault is not a reference to something undeclared. -/
abbrev NoReference (f : Fault) : Prop :=
  f.isReference = false

private theorem curtails_readActivity (m : Model) (name : List Char) :
    Curtails NoReference (m.readActivity .strict name) (m.readActivity .lenient name) := by
  rw [readActivity, readActivity]
  split
  · exact curtails_stop _
  · split
    · exact curtails_value _
    · exact Curtails.bind (curtails_tolerate rfl) fun _ => curtails_value _

private theorem curtails_bindAll (m : Model) (activity : String) (attrs : List (List Char)) :
    Curtails NoReference (m.bindAll .strict activity attrs)
      (m.bindAll .lenient activity attrs) := by
  induction attrs generalizing m with
  | nil => exact curtails_value _
  | cons a attrs ih =>
      rw [bindAll, bindAll]
      split
      · exact curtails_stop _
      · refine (Curtails.together _).bind ?_
        rintro ⟨new, m'⟩
        cases new with
        | false => exact Curtails.bind (curtails_tolerate rfl) fun _ => ih m'
        | true => exact ih m'

private theorem curtails_setDomains (m : Model) (d : Domain) (attrs : List (List Char)) :
    Curtails NoReference (m.setDomains .strict d attrs) (m.setDomains .lenient d attrs) := by
  induction attrs generalizing m with
  | nil => exact curtails_value _
  | cons a attrs ih =>
      rw [setDomains, setDomains]
      refine (Curtails.together _).bind ?_
      rintro ⟨previous, m'⟩
      cases previous with
      | none => exact ih m'
      | some _ => exact Curtails.bind (curtails_tolerate rfl) fun _ => ih m'

private theorem curtails_readCardinality (template : Template) (digits : List Char) :
    Curtails NoReference (readCardinality .strict template digits)
      (readCardinality .lenient template digits) := by
  rw [readCardinality, readCardinality]
  split
  · exact curtails_value _
  · split
    · exact curtails_stop _
    · split
      · exact curtails_value _
      · exact Curtails.bind (curtails_tolerate rfl) fun _ => curtails_value _

private theorem curtails_readConstraint (m : Model) (head rest : List Char) :
    Curtails NoReference (m.readConstraint .strict head rest)
      (m.readConstraint .lenient head rest) := by
  rw [readConstraint, readConstraint]
  split
  · exact curtails_stop _
  · dsimp only
    split
    · exact Curtails.bind (curtails_tolerate rfl) fun _ => curtails_value _
    · refine (curtails_readCardinality _ _).bind ?_
      intro cardinality
      refine (Curtails.together _).bind ?_
      intro conditions
      exact .together _

private theorem curtails_readOther (m : Model) (line : List Char) :
    Curtails NoReference (m.readOther .strict line) (m.readOther .lenient line) := by
  rw [readOther, readOther]
  split
  · rw [readDomain, readDomain]
    split
    · exact curtails_stop _
    · exact curtails_setDomains _ _ _
  · split
    · exact curtails_readConstraint _ _ _
    · exact curtails_stop _

theorem curtails_readLine (m : Model) (line : List Char) :
    Curtails NoReference (m.readLine .strict line) (m.readLine .lenient line) := by
  rw [readLine, readLine]
  split
  · exact curtails_value _
  · split
    · exact curtails_readActivity _ _
    · split
      · rw [readBinding, readBinding]
        split
        · exact curtails_stop _
        · exact curtails_bindAll _ _ _
      · exact curtails_readOther _ _

/-- Both readers go through the lines together until the strict one stops. -/
theorem curtails_readLines (m : Model) (number : Nat) (ls : List (List Char)) :
    Curtails (fun e : ModelError => NoReference e.fault) (m.readLines .strict number ls)
      (m.readLines .lenient number ls) := by
  induction ls generalizing m number with
  | nil => exact curtails_value _
  | cons line ls ih =>
      rw [readLines, readLines]
      refine Curtails.bind ((curtails_readLine m (trim line)).mapFault fun _ kind => kind) ?_
      intro m'
      exact ih m' (number + 1)

/-- A strict reader gives no warning: it stops for the first one that a lenient reader gives. -/
theorem readText_strict_eq (text : String) :
    readText .strict text =
      ofExcept ((warnings .lenient text).head?.elim (read .lenient text) .error) :=
  (curtails_readLines {} 1 (lines text.toList)).eq_ofExcept

/-- Where a lenient reader stops, a strict one has stopped in that line or before. -/
private theorem exists_stop_strict {m : Model} {number : Nat} {ls : List (List Char)}
    {e : ModelError} (stop : (m.readLines .lenient number ls).outcome = .error e) :
    ∃ l, e.line = some l ∧ ∃ e' l', (m.readLines .strict number ls).outcome = .error e' ∧
      e'.line = some l' ∧ l' ≤ l := by
  obtain ⟨i, -, line, -, here⟩ := exists_stop stop
  obtain ⟨e', stopped⟩ := (curtails_readLines _ _ _).exists_outcome_eq_error here
  obtain ⟨i', inside, line', -, -⟩ := exists_stop stopped
  refine ⟨number + i, line, e', number + i', outcome_readLines_eq_error stopped, line', ?_⟩
  rw [List.length_take] at inside
  omega

/-- What a strict reader accepts, a lenient one reads in the same way; where a lenient reader stops,
a strict one has stopped in that line or before; and a reference to something undeclared that stops
a strict reader stops a lenient one with the same error. -/
theorem read_modes_agree (text : String) :
    (∀ m, read .strict text = .ok m → read .lenient text = .ok m) ∧
    (∀ e, read .lenient text = .error e → ∃ l, e.line = some l ∧
      ∃ e' l', read .strict text = .error e' ∧ e'.line = some l' ∧ l' ≤ l) ∧
    (∀ e, read .strict text = .error e → e.fault.isReference → read .lenient text = .error e) := by
  have run := curtails_readLines {} 1 (lines text.toList)
  refine ⟨fun m ok => run.outcome_eq_ok ok, fun e stop => exists_stop_strict stop, ?_⟩
  intro e stop reference
  apply run.outcome_eq_error stop
  simp [reference]

/-- The second declaration stops the strict reader, and the lenient one goes on to the binding. -/
example : let text := "activity Order\nactivity Order\nbind Pay: total"
    read .strict text = .error ⟨some 2, .activityTwice "Order"⟩ ∧
      read .lenient text = .error ⟨some 3, .undeclared .activity "Pay"⟩ := ⟨rfl, rfl⟩

end Model

end Declare
