import Declare.Json.Report
import Declare.Proofs.Json.Records

/-!
# Reports read back

A report whose counts fit into 32 bits is read back from its JSON text exactly as it was written,
whatever its labels, however long its rows and wherever its cells are empty
(`Report.read?_write_of_fits`).
-/

namespace Declare

theorem Verdict.ofJson?_tag (v : Verdict) : ofJson? (.text v.tag) = some v := by
  cases v <;> rfl

namespace Outcome

/-- The counts of an outcome. -/
def counts (o : Outcome) : List (Option Nat) :=
  [o.activations, o.fulfillments, o.violations, o.pendings]

/-- Whether all counts fit into 32 bits. -/
def Fits (o : Outcome) : Prop :=
  ∀ count ∈ o.counts, ∀ n ∈ count, n < UInt32.size

instance (o : Outcome) : Decidable o.Fits :=
  inferInstanceAs (Decidable (∀ count ∈ o.counts, ∀ n ∈ count, n < UInt32.size))

variable {o : Outcome} (fits : o.Fits)
include fits

theorem isExact_toJson : o.toJson.IsExact := by
  have parts : ∀ n ∈ o.counts, (Json.ofOption .nat n).IsExact := fun n mem =>
    .ofOption fun k present => .nat (Nat.lt_trans (fits n mem k present) (by decide))
  simp only [counts, List.forall_mem_cons] at parts
  obtain ⟨activations, fulfillments, violations, pendings, -⟩ := parts
  refine .ofFields ?_
  simp [activations, fulfillments, violations, pendings, Json.IsExact.text]

theorem ofJson?_toJson : ofJson? o.toJson = some o := by
  have parts : ∀ n ∈ o.counts, (Json.ofOption .nat n).asOption? Json.asCount? = some n :=
    fun n mem => Json.asOption?_ofOption
      (fun k present => Json.asCount?_nat (fits n mem k present)) nofun
  simp only [counts, List.forall_mem_cons] at parts
  obtain ⟨activations, fulfillments, violations, pendings, -⟩ := parts
  rw [ofJson?, toJson, Json.record?_ofFields]
  · simp [activations, fulfillments, violations, pendings, Verdict.ofJson?_tag]
  · rfl
  · decide

end Outcome

namespace Report

/-- Whether all counts of all cells fit into 32 bits. -/
def Fits (r : Report) : Prop :=
  ∀ row ∈ r.rows, ∀ cell ∈ row, ∀ o ∈ cell, o.Fits

instance (r : Report) : Decidable r.Fits :=
  inferInstanceAs (Decidable (∀ row ∈ r.rows, ∀ cell ∈ row, ∀ o ∈ cell, o.Fits))

section

variable {r : Report} (fits : r.Fits)
include fits

theorem isExact_toJson : r.toJson.IsExact := by
  have labels : (Json.ofList .text r.labels).IsExact := .ofList fun s _ => .text s
  have rows : (Json.ofList (.ofList (.ofOption Outcome.toJson)) r.rows).IsExact :=
    .ofList fun row inRows => .ofList fun cell inRow => .ofOption fun o present =>
      Outcome.isExact_toJson (fits row inRows cell inRow o present)
  refine .ofFields ?_
  simp [labels, rows]

theorem ofJson?_toJson : ofJson? r.toJson = some r := by
  have labels : (Json.ofList .text r.labels).asList? Json.asText? = some r.labels :=
    Json.asList?_ofList fun s _ => rfl
  have rows : (Json.ofList (.ofList (.ofOption Outcome.toJson)) r.rows).asList?
      (Json.asList? (Json.asOption? Outcome.ofJson?)) = some r.rows :=
    Json.asList?_ofList fun row inRows => Json.asList?_ofList fun cell inRow =>
      Json.asOption?_ofOption
        (fun o present => Outcome.ofJson?_toJson (fits row inRows cell inRow o present)) nofun
  rw [ofJson?, toJson, Json.record?_ofFields]
  · simp [labels, rows]
  · rfl
  · decide

/-- A written report is read back. -/
theorem read?_write_of_fits : read? r.write = some r := by
  rw [read?, write, Json.read?_write (isExact_toJson fits), Option.bind_some, ofJson?_toJson fits]

end

/-- A report with labels that have to be escaped, rows of different lengths, empty cells and the
greatest count. -/
def ragged : Report where
  labels := ["Init[\"Größe\"] |A.path is C:\\ |", "\x00\t\x1f\x7f", "", "𝄞 /"]
  rows :=
    [[],
      [none, some { activations := some 4294967295, fulfillments := some 0, verdict := .violated }],
      [some { violations := some 1, pendings := some 10, verdict := .possiblySatisfied }, none,
        some { verdict := .satisfied }]]

theorem read?_write_ragged : ragged.Fits ∧ read? ragged.write = some ragged :=
  have fits : ragged.Fits := by decide
  ⟨fits, read?_write_of_fits fits⟩

end Report

end Declare
