import Declare.Model.Basic
import Mathlib.Data.List.Nodup

/-!
# Models that are built by changes

A model is built from the empty one by changes, each of which may fail and then leaves the model as
it is. What every built model satisfies is stated as `Model.WellFormed`: names are not repeated,
domains are sorted and belong to bound attributes, and constraints are well-formed and on declared
activities. What a change can make of a model is said once, by `Model.Makes`. Each case of it
preserves well-formedness, and so does every sequence of changes.
-/

namespace Declare

namespace Model

/-- A change that is asked of a model. -/
inductive Change where
  | addActivity (name : String)
  | bind (activity attr : String)
  | setDomain (attr : String) (d : Domain)
  | addConstraint (c : Constraint)

/-- The model after a change. -/
def change (m : Model) : Change → Model
  | .addActivity name => (m.addActivity name).2
  | .bind activity attr =>
    match m.bind activity attr with
    | .ok (_, m') => m'
    | .error _ => m
  | .setDomain attr d =>
    match m.setDomain attr d with
    | .ok (_, m') => m'
    | .error _ => m
  | .addConstraint c =>
    match m.addConstraint c with
    | .ok m' => m'
    | .error _ => m

/-- The model that a sequence of changes builds from the empty one. -/
def build (changes : List Change) : Model :=
  changes.foldl change {}

/-- What a change can make of a model: the same model, or after the checks what it is for. -/
inductive Makes (m : Model) : Change → Model → Prop where
  | same (c : Change) : Makes m c m
  | activity {name : String} (new : ¬m.hasActivity name) :
      Makes m (.addActivity name) { m with activities := m.activities ++ [{ name }] }
  | binding {activity attr : String} {a : Activity} (found : m.activity? activity = some a)
      (new : attr ∉ a.attributes) :
      Makes m (.bind activity attr)
        { m with activities := appendAttribute activity attr m.activities }
  | domain {attr : String} {d : Domain} (bound : m.isBound attr) (stable : d.readsBack) :
      Makes m (.setDomain attr d) { m with domains := insertDomain attr d m.domains }
  | constraint {c : Constraint} (sound : c.fault? = none)
      (declared : ∀ a ∈ c.activities, m.hasActivity a) :
      Makes m (.addConstraint c) { m with constraints := m.constraints ++ [c] }

theorem makes_change (m : Model) (c : Change) : Makes m c (m.change c) := by
  cases c with
  | addActivity name =>
      rw [change, addActivity]
      split
      · exact .same _
      · next new => exact .activity new
  | bind activity attr =>
      rw [change, bind]
      cases found : m.activity? activity with
      | none => exact .same _
      | some a =>
          by_cases known : attr ∈ a.attributes
          · simp only [known, ↓reduceIte]
            exact .same _
          · simp only [known, ↓reduceIte]
            exact .binding found known
  | setDomain attr d =>
      rw [change, setDomain]
      cases bound : m.isBound attr with
      | false => exact .same _
      | true =>
          cases stable : d.readsBack with
          | false => exact .same _
          | true => exact .domain bound stable
  | addConstraint c =>
      rw [change, addConstraint]
      cases sound : c.fault? with
      | some fault => exact .same _
      | none =>
          cases undeclared : c.activities.find? (!m.hasActivity ·) with
          | some a => exact .same _
          | none =>
              refine .constraint sound ?_
              intro a used
              simpa using List.find?_eq_none.1 undeclared a used

variable {m m' : Model}

/-- What holds of every model that was built by changes. -/
structure WellFormed (m : Model) : Prop where
  activities_nodup : (m.activities.map (·.name)).Nodup
  attributes_nodup : ∀ a ∈ m.activities, a.attributes.Nodup
  domains_sorted : (m.domains.map (·.1)).Pairwise (· < ·)
  domains_bound : ∀ entry ∈ m.domains, m.isBound entry.1
  domains_readBack : ∀ entry ∈ m.domains, entry.2.readsBack
  constraints_sound : ∀ c ∈ m.constraints, c.fault? = none
  constraints_declared : ∀ c ∈ m.constraints, ∀ a ∈ c.activities, m.hasActivity a

theorem wellFormed_empty : WellFormed {} where
  activities_nodup := .nil
  attributes_nodup := nofun
  domains_sorted := .nil
  domains_bound := nofun
  domains_readBack := nofun
  constraints_sound := nofun
  constraints_declared := nofun

theorem hasActivity_iff {name : String} :
    m.hasActivity name ↔ name ∈ m.activities.map (·.name) := by
  simp [hasActivity]

theorem isBound_iff {attr : String} :
    m.isBound attr ↔ ∃ a ∈ m.activities, attr ∈ a.attributes := by
  simp [isBound]

private theorem wellFormed_activity (h : m.WellFormed) {name : String}
    (new : ¬m.hasActivity name) :
    WellFormed { m with activities := m.activities ++ [{ name }] } := by
  rw [hasActivity_iff] at new
  refine { h with
    activities_nodup := ?_
    attributes_nodup := ?_
    domains_bound := ?_
    constraints_declared := ?_ }
  · rw [List.map_append, List.map_singleton, ← List.concat_eq_append]
    exact h.activities_nodup.concat new
  · intro a mem
    cases List.mem_append.1 mem with
    | inl old => exact h.attributes_nodup a old
    | inr new =>
        rw [List.mem_singleton.1 new]
        exact .nil
  · intro entry mem
    obtain ⟨a, mem, bound⟩ := isBound_iff.1 (h.domains_bound entry mem)
    exact isBound_iff.2 ⟨a, List.mem_append_left _ mem, bound⟩
  · intro c mem a used
    have declared := hasActivity_iff.1 (h.constraints_declared c mem a used)
    rw [hasActivity_iff, List.map_append]
    exact List.mem_append_left _ declared

theorem map_name_appendAttribute (activity attr : String) (as : List Activity) :
    (appendAttribute activity attr as).map (·.name) = as.map (·.name) := by
  induction as with
  | nil => rfl
  | cons a as ih =>
      rw [appendAttribute]
      split
      · rfl
      · rw [List.map_cons, List.map_cons, ih]

/-- Binding an attribute keeps those that an activity had. -/
theorem exists_mem_appendAttribute {activity attr other : String} {as : List Activity}
    (h : ∃ a ∈ as, other ∈ a.attributes) :
    ∃ a ∈ appendAttribute activity attr as, other ∈ a.attributes := by
  induction as with
  | nil => exact h
  | cons a as ih =>
      obtain ⟨b, mem, bound⟩ := h
      rw [appendAttribute]
      rcases List.mem_cons.1 mem with rfl | mem
      · split
        · exact ⟨_, List.mem_cons_self, List.mem_append_left _ bound⟩
        · exact ⟨_, List.mem_cons_self, bound⟩
      · split
        · exact ⟨b, List.mem_cons_of_mem _ mem, bound⟩
        · obtain ⟨c, mem, bound⟩ := ih ⟨b, mem, bound⟩
          exact ⟨c, List.mem_cons_of_mem _ mem, bound⟩

private theorem nodup_appendAttribute {activity attr : String} {as : List Activity}
    (nodup : ∀ a ∈ as, a.attributes.Nodup) {a : Activity}
    (found : as.find? (·.name = activity) = some a) (new : attr ∉ a.attributes) :
    ∀ b ∈ appendAttribute activity attr as, b.attributes.Nodup := by
  induction as with
  | nil => cases found
  | cons c as ih =>
      intro b mem
      rw [appendAttribute] at mem
      by_cases here : c.name = activity
      · obtain rfl : c = a := by simpa [here] using found
        rw [if_pos here] at mem
        rcases List.mem_cons.1 mem with rfl | mem
        · simpa only [← List.concat_eq_append] using (nodup c List.mem_cons_self).concat new
        · exact nodup b (List.mem_cons_of_mem _ mem)
      · rw [if_neg here] at mem
        rw [List.find?_cons_of_neg (by simpa using here)] at found
        rcases List.mem_cons.1 mem with rfl | mem
        · exact nodup b List.mem_cons_self
        · exact ih (fun d mem => nodup d (List.mem_cons_of_mem _ mem)) found b mem

private theorem wellFormed_binding (h : m.WellFormed) {activity attr : String} {a : Activity}
    (found : m.activity? activity = some a) (new : attr ∉ a.attributes) :
    WellFormed { m with activities := appendAttribute activity attr m.activities } := by
  refine { h with
    activities_nodup := ?_
    attributes_nodup := nodup_appendAttribute h.attributes_nodup found new
    domains_bound := ?_
    constraints_declared := ?_ }
  · rw [map_name_appendAttribute]
    exact h.activities_nodup
  · intro entry mem
    exact isBound_iff.2 (exists_mem_appendAttribute (isBound_iff.1 (h.domains_bound entry mem)))
  · intro c mem a used
    rw [hasActivity_iff, map_name_appendAttribute]
    exact hasActivity_iff.1 (h.constraints_declared c mem a used)

theorem mem_insertDomain {attr : String} {d : Domain} {entries : List (String × Domain)}
    {entry : String × Domain} (h : entry ∈ insertDomain attr d entries) :
    entry = (attr, d) ∨ entry ∈ entries := by
  induction entries with
  | nil => exact .inl (List.mem_singleton.1 h)
  | cons first entries ih =>
      rw [insertDomain] at h
      split at h
      · exact List.mem_cons.1 h
      · split at h
        · exact (List.mem_cons.1 h).imp_right (List.mem_cons_of_mem _)
        · rcases List.mem_cons.1 h with rfl | h
          · exact .inr List.mem_cons_self
          · exact (ih h).imp_right (List.mem_cons_of_mem _)

theorem sorted_insertDomain {attr : String} {d : Domain} {entries : List (String × Domain)}
    (h : (entries.map (·.1)).Pairwise (· < ·)) :
    ((insertDomain attr d entries).map (·.1)).Pairwise (· < ·) := by
  induction entries with
  | nil => exact List.pairwise_singleton _ _
  | cons first entries ih =>
      obtain ⟨least, rest⟩ := List.pairwise_cons.1 h
      rw [insertDomain]
      split
      · next before =>
          refine List.pairwise_cons.2 ⟨?_, h⟩
          intro name mem
          rcases List.mem_cons.1 mem with rfl | mem
          · exact before
          · exact String.lt_trans before (least name mem)
      · split
        · next same => simpa only [List.map_cons, same] using h
        · next notBefore differs =>
            refine List.pairwise_cons.2 ⟨?_, ih rest⟩
            intro name mem
            obtain ⟨entry, inserted, rfl⟩ := List.mem_map.1 mem
            rcases mem_insertDomain inserted with rfl | mem
            · exact String.not_le.1 fun le =>
                differs (String.le_antisymm le (String.not_lt.1 notBefore))
            · exact least _ (List.mem_map_of_mem mem)

private theorem wellFormed_domain (h : m.WellFormed) {attr : String} {d : Domain}
    (bound : m.isBound attr) (stable : d.readsBack) :
    WellFormed { m with domains := insertDomain attr d m.domains } := by
  refine { h with
    domains_sorted := sorted_insertDomain h.domains_sorted
    domains_bound := ?_
    domains_readBack := ?_ }
  · intro entry mem
    cases mem_insertDomain mem with
    | inl new =>
        rw [new]
        exact bound
    | inr old => exact h.domains_bound entry old
  · intro entry mem
    cases mem_insertDomain mem with
    | inl new =>
        rw [new]
        exact stable
    | inr old => exact h.domains_readBack entry old

private theorem wellFormed_constraint (h : m.WellFormed) {c : Constraint} (sound : c.fault? = none)
    (declared : ∀ a ∈ c.activities, m.hasActivity a) :
    WellFormed { m with constraints := m.constraints ++ [c] } := by
  refine { h with
    constraints_sound := ?_
    constraints_declared := ?_ }
  · intro d mem
    cases List.mem_append.1 mem with
    | inl old => exact h.constraints_sound d old
    | inr new => rwa [List.mem_singleton.1 new]
  · intro d mem a used
    cases List.mem_append.1 mem with
    | inl old => exact h.constraints_declared d old a used
    | inr new =>
        rw [List.mem_singleton.1 new] at used
        exact declared a used

theorem Makes.wellFormed {c : Change} (made : Makes m c m') (h : m.WellFormed) : m'.WellFormed := by
  cases made with
  | same => exact h
  | activity new => exact wellFormed_activity h new
  | binding found new => exact wellFormed_binding h found new
  | domain bound stable => exact wellFormed_domain h bound stable
  | constraint sound declared => exact wellFormed_constraint h sound declared

theorem wellFormed_foldl_change (h : m.WellFormed) (changes : List Change) :
    (changes.foldl change m).WellFormed := by
  induction changes generalizing m with
  | nil => exact h
  | cons c changes ih => exact ih ((makes_change m c).wellFormed h)

/-- Every model that is built by changes is well-formed. -/
theorem wellFormed_build (changes : List Change) : (build changes).WellFormed :=
  wellFormed_foldl_change wellFormed_empty changes

end Model

end Declare
