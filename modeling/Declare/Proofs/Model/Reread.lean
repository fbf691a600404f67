import Declare.Proofs.Model.Legible

/-!
# Reading again what was written

The text of a model that was read from another text is read as that model, unless an attribute with
a domain begins like a comment, a declaration or a binding (`Model.read_text_of_read`). Such an
attribute can get its domain from a line on which another attribute stands first; but in the text of
the model it stands first itself, and its line is not taken for the line of a domain.
-/

namespace Declare

namespace Model

open Text Tolerant

variable {m : Model}

theorem Legible.lineSafe (h : m.Legible)
    (keys : ∀ entry ∈ m.domains, ¬BeginsOther entry.1.toList) : m.LineSafe where
  activities := h.activities
  bound := h.bound
  attributes := h.attributes
  keys := by
    intro entry mem
    obtain ⟨noBracket, noColon⟩ := h.keys entry mem
    exact {
      noBracket := noBracket
      noColon := noColon
      noComment := fun comment => keys entry mem (.inl comment)
      noActivity := fun declaration => keys entry mem (.inr (.inl declaration))
      noBinding := fun binding => keys entry mem (.inr (.inr binding)) }
  domains := h.domains
  constraints := h.constraints
  correlations := h.correlations

instance (cs : List Char) : Decidable (BeginsOther cs) :=
  inferInstanceAs (Decidable (_ ∨ _ ∨ _))

private theorem BeginsOther.append {cs : List Char} (h : BeginsOther cs) (ne : cs ≠ [])
    (rest : List Char) : BeginsOther (cs ++ rest) := by
  obtain comment | declaration | binding := h
  · left
    rw [List.head?_append_of_ne_nil _ ne]
    exact comment
  · exact .inr (.inl (declaration.trans (List.prefix_append _ _)))
  · exact .inr (.inr (binding.trans (List.prefix_append _ _)))

/-- A change that is made for something else leaves the domains as they are. -/
private theorem Makes.mem_domains {m' : Model} {c : Change} (made : Makes m c m')
    {entry : String × Domain} (mem : entry ∈ m'.domains) :
    entry ∈ m.domains ∨ c = .setDomain entry.1 entry.2 := by
  cases made with
  | domain bound stable =>
      cases mem_insertDomain mem with
      | inl new =>
          rw [new]
          exact .inr rfl
      | inr old => exact .inl old
  | same => exact .inl mem
  | activity new => exact .inl mem
  | binding found new => exact .inl mem
  | constraint sound declared => exact .inl mem

private theorem mem_domains_foldl_change {changes : List Change} {entry : String × Domain}
    (mem : entry ∈ (changes.foldl change m).domains) :
    entry ∈ m.domains ∨ .setDomain entry.1 entry.2 ∈ changes := by
  induction changes generalizing m with
  | nil => exact .inl mem
  | cons c changes ih =>
      cases ih mem with
      | inl before =>
          cases (makes_change m c).mem_domains before with
          | inl old => exact .inl old
          | inr asked =>
              rw [asked]
              exact .inr List.mem_cons_self
      | inr later => exact .inr (List.mem_cons_of_mem _ later)

/-- In the text of a model the line of a domain begins with the attribute. -/
private theorem not_beginsOther_of_asks (h : m.WellFormed) (legible : m.Legible) {line : String}
    (written : line ∈ m.textLines) {attr : String} {d : Domain}
    (asks : Asks (trim line.toList) (.setDomain attr d)) : ¬BeginsOther attr.toList := by
  cases asks with
  | @domain attributes domain piece d start noBracket cut read mem =>
      simp only [textLines, List.mem_append, List.mem_map, List.mem_filter] at written
      obtain ((⟨a, declared, rfl⟩ | ⟨a, ⟨declared, some⟩, rfl⟩) | ⟨entry, given, rfl⟩) |
        ⟨c, added, rfl⟩ := written
      · rw [trim_activityLine (legible.activities a declared)] at start
        exact absurd (.inr (.inl (List.prefix_append _ _))) start
      · rw [trim_bindingLine (by simpa using some) (legible.attributes a declared)] at start
        exact absurd (.inr (.inr (List.prefix_append _ _))) start
      · obtain ⟨a, declared, bound⟩ := isBound_iff.1 (h.domains_bound entry given)
        obtain ⟨holds, comma⟩ := legible.attributes a declared entry.1 bound
        have noColon := (legible.keys entry given).2
        rw [trim_domainLine holds (h.domains_readBack entry given)] at start cut
        rw [cut?_append_pair (by decide) noColon] at cut
        obtain ⟨rfl, -⟩ := Prod.mk.inj (Option.some.inj cut)
        rw [fields_of_not_mem comma, List.mem_singleton] at mem
        rw [mem, holds.trimmed, String.toList_ofList]
        intro other
        exact start (other.append holds.ne _)
      · have bracket : '[' ∈ trim c.text.toList := by
          apply mem_trim_of_not_blank _ (by decide)
          rw [Constraint.toList_text]
          simp
        exact absurd bracket (mayBeDomain_iff.1 noBracket).1

/-- A model that was read from a text is read again from its own text exactly if no attribute with a
domain begins like a line that gives no domain. -/
theorem read_text_of_read {mode : ReadMode} {text : String} (ok : read mode text = .ok m) :
    read .lenient m.text = .ok m ↔ ∀ entry ∈ m.domains, ¬BeginsOther entry.1.toList := by
  obtain ⟨wellFormed, legible⟩ := legible_of_read ok
  constructor
  · intro again entry mem
    obtain ⟨changes, asked, built⟩ := exists_changes_of_read again
    rw [built] at mem
    cases mem_domains_foldl_change mem with
    | inl before => cases before
    | inr given =>
        obtain ⟨line, inside, asks⟩ := asked _ given
        rw [lines_text wellFormed legible, List.mem_map] at inside
        obtain ⟨written, mem, rfl⟩ := inside
        exact not_beginsOther_of_asks wellFormed legible mem asks
  · intro keys
    rw [read, readText_text wellFormed (legible.lineSafe keys)]
    rfl

/-- Orders with two attributes. -/
def sharedDomain (second : String) : Model where
  activities := [⟨"Order", ["amount", second]⟩]
  domains := insertDomain second (.enumeration ["low", "high"])
    [("amount", .enumeration ["low", "high"])]

/-- A text that gives both attributes their domain on one line. -/
def sharedDomainText (second : String) : String :=
  "activity Order\nbind Order: amount, " ++ second ++ "\namount, " ++ second ++ ": low, high"

theorem read_text_of_read_sharedDomain :
    read .strict (sharedDomainText "items") = .ok (sharedDomain "items") ∧
      read .lenient (sharedDomain "items").text = .ok (sharedDomain "items") := by
  have ok : read .strict (sharedDomainText "items") = .ok (sharedDomain "items") := rfl
  exact ⟨ok, (read_text_of_read ok).2 (by decide)⟩

/-- A domain is lost if its attribute begins with a number sign: the line that is written for it is
a comment. -/
theorem not_forall_read_text_of_read :
    ¬∀ (mode : ReadMode) (text : String) (m : Model), read mode text = .ok m →
      ∃ m', read .lenient m.text = .ok m' ∧ (m' == m) = true := by
  intro all
  have ok : read .strict (sharedDomainText "#items") = .ok (sharedDomain "#items") := rfl
  obtain ⟨m', again, same⟩ := all _ _ _ ok
  have lost : read .lenient (sharedDomain "#items").text =
      .ok { sharedDomain "#items" with
        domains := [("amount", .enumeration ["low", "high"])] } := rfl
  obtain rfl := Except.ok.inj (again.symm.trans lost)
  have different : ({ sharedDomain "#items" with
      domains := [("amount", .enumeration ["low", "high"])] } ==
        sharedDomain "#items") = false := rfl
  rw [different] at same
  cases same

end Model

end Declare
