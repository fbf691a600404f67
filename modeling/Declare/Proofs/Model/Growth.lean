import Declare.Proofs.Model.Built

/-!
# Models only grow

A change keeps every activity, every binding and every constraint in its place: what is new comes
behind what was there (`Model.Extends`). Domains are the only part of a model that a change can
replace. So a reference that was found once is found in every later model.
-/

namespace Declare

namespace Model

/-- The second model has what the first one has, in the same order, and perhaps more. -/
structure Extends (m m' : Model) : Prop where
  /-- Every activity keeps its place and its name, and its attributes come first. -/
  activities : ∀ (i : Nat) (a : Activity), m.activities[i]? = some a →
    ∃ a' : Activity, m'.activities[i]? = some a' ∧ a'.name = a.name ∧
      a.attributes <+: a'.attributes
  constraints : m.constraints <+: m'.constraints

theorem Extends.refl (m : Model) : m.Extends m where
  activities := fun _ a here => ⟨a, here, rfl, List.prefix_refl _⟩
  constraints := List.prefix_refl _

theorem Extends.trans {m m' m'' : Model} (h : m.Extends m') (h' : m'.Extends m'') :
    m.Extends m'' where
  activities := by
    intro i a here
    obtain ⟨a', here', name, attributes⟩ := h.activities i a here
    obtain ⟨a'', here'', name', attributes'⟩ := h'.activities i a' here'
    exact ⟨a'', here'', name'.trans name, attributes.trans attributes'⟩
  constraints := h.constraints.trans h'.constraints

theorem Extends.names_prefix {m m' : Model} (h : m.Extends m') :
    m.activities.map (·.name) <+: m'.activities.map (·.name) := by
  rw [List.prefix_iff_getElem?]
  intro i inside
  rw [List.length_map] at inside
  obtain ⟨a, here, name, -⟩ := h.activities i _ (List.getElem?_eq_getElem inside)
  rw [List.getElem?_map, here, List.getElem_map]
  exact congrArg some name

/-- An activity that was found by its name is found in the larger model. -/
theorem Extends.activity? {m m' : Model} (h : m.Extends m') {name : String} {a : Activity}
    (found : m.activity? name = some a) :
    ∃ a', m'.activity? name = some a' ∧ a.attributes <+: a'.attributes := by
  obtain ⟨named, i, inside, rfl, first⟩ := List.find?_eq_some_iff_getElem.1 found
  obtain ⟨a', here, same, attributes⟩ := h.activities i _ (List.getElem?_eq_getElem inside)
  obtain ⟨inside', rfl⟩ := List.getElem?_eq_some_iff.1 here
  refine ⟨_, List.find?_eq_some_iff_getElem.2 ⟨?_, i, inside', rfl, ?_⟩, attributes⟩
  · rw [same]
    exact named
  · intro j before
    have there := List.getElem?_eq_getElem (Nat.lt_trans before inside)
    obtain ⟨b, here, sameName, -⟩ := h.activities j _ there
    obtain ⟨there', rfl⟩ := List.getElem?_eq_some_iff.1 here
    rw [sameName]
    exact first j before

/-- Binding an attribute keeps each activity in its place, with what it had. -/
private theorem getElem?_appendAttribute (activity attr : String) {as : List Activity} {i : Nat}
    {a : Activity} (here : as[i]? = some a) :
    ∃ a', (appendAttribute activity attr as)[i]? = some a' ∧ a'.name = a.name ∧
      a.attributes <+: a'.attributes := by
  induction as generalizing i with
  | nil => cases here
  | cons b as ih =>
      rw [appendAttribute]
      by_cases found : b.name = activity
      · rw [if_pos found]
        cases i with
        | zero =>
            obtain rfl := Option.some.inj here
            exact ⟨_, rfl, rfl, List.prefix_append _ _⟩
        | succ i => exact ⟨a, here, rfl, List.prefix_refl _⟩
      · rw [if_neg found]
        cases i with
        | zero => exact ⟨a, here, rfl, List.prefix_refl _⟩
        | succ i => exact ih here

theorem Makes.extends {m m' : Model} {c : Change} (made : Makes m c m') : m.Extends m' := by
  cases made with
  | same => exact Extends.refl m
  | activity new =>
      refine ⟨?_, List.prefix_refl _⟩
      intro i a here
      obtain ⟨bound, -⟩ := List.getElem?_eq_some_iff.1 here
      exact ⟨a, by rwa [List.getElem?_append_left bound], rfl, List.prefix_refl _⟩
  | binding found new =>
      exact ⟨fun _ _ here => getElem?_appendAttribute _ _ here, List.prefix_refl _⟩
  | domain bound stable => exact ⟨(Extends.refl m).activities, List.prefix_refl _⟩
  | constraint sound declared => exact ⟨(Extends.refl m).activities, List.prefix_append _ _⟩

/-- A sequence of changes keeps what was there before it. -/
theorem extends_foldl_change (m : Model) (changes : List Change) :
    m.Extends (changes.foldl change m) := by
  induction changes generalizing m with
  | nil => exact Extends.refl m
  | cons c changes ih => exact (makes_change m c).extends.trans (ih (m.change c))

end Model

end Declare
