import Declare.Proofs.Discovery.Discover
import Declare.Proofs.Discovery.Workers

/-!
# Cancelled runs

When all workers have ended, a run looks at the token once more. A run that is not cancelled then
has left nothing out, and a run that has left something out reports that it was cancelled. So a
model is never returned in part (`Discovery.returns_all_or_nothing`). The results of runs are those
of discovery with some sightings of the token (`Discovery.returns_iff`).
-/

namespace Declare.Discovery

/-- Whether a candidate has enough support to be accepted. -/
def supports (log : Log) (options : DiscoveryOptions) (c : Constraint) : Bool :=
  ({ constraint := c } : Compiled).isSupported log options.vacuity options.minSupport

/-- The candidates of a run. -/
def tried (log : Log) (options : DiscoveryOptions) : List Constraint :=
  candidates options.maxCardinality
    ((Itemset.frequent log options.itemsetsSupport 2).map (·.items))

/-- What a run returns when its workers have ended: it looks at the token once more. -/
def Pool.result (pool : Pool) (log : Log) : Except DiscoveryError Discovery :=
  if pool.cancelled then .error .cancelled
  else .ok (pool.accepted.foldl accept { model := activitiesOf log })

/-- What a run can return, whose token may be cancelled before the run. -/
inductive Returns (log : Log) (options : DiscoveryOptions) (cancelled : Bool) :
    Except DiscoveryError Discovery → Prop
  | invalid {fault : OptionFault} (found : options.fault? = some fault) :
      Returns log options cancelled (.error (.invalidOptions fault))
  | empty (valid : options.fault? = none) (empty : log.size = 0) :
      Returns log options cancelled (.ok { model := activitiesOf log })
  | ended (valid : options.fault? = none) (nonempty : log.size ≠ 0) {pool : Pool}
      (run : Pool.Run (supports log options) (.start cancelled (tried log options)) pool)
      (ended : pool.HasEnded) : Returns log options cancelled (pool.result log)

variable {log : Log} {options : DiscoveryOptions} {cancelled : Bool}
variable {r : Except DiscoveryError Discovery}

theorem discover_of_fault {fault : OptionFault} (found : options.fault? = some fault)
    (token : Cancellation) :
    discover log options token = .error (.invalidOptions fault) := by
  rw [discover, found]

theorem discover_of_empty (valid : options.fault? = none) (empty : log.size = 0)
    (token : Cancellation) : discover log options token = .ok { model := activitiesOf log } := by
  rw [discover, valid]
  exact if_pos empty

theorem discover_of_nonempty (valid : options.fault? = none) (nonempty : log.size ≠ 0)
    (token : Cancellation) :
    discover log options token =
      if token.atEnd then .error .cancelled
      else .ok ((supported log options token (tried log options)).foldl accept
        { model := activitiesOf log }) := by
  rw [discover, valid]
  exact if_neg nonempty

/-- The sightings of the token make no difference, unless it is seen cancelled at the end. -/
theorem discover_eq_cancelled_or (token : Cancellation) :
    discover log options token = .error .cancelled ∨
      discover log options token = discover log options .never := by
  cases valid : options.fault? with
  | some fault =>
      right
      rw [discover_of_fault valid, discover_of_fault valid]
  | none =>
      by_cases empty : log.size = 0
      · right
        rw [discover_of_empty valid empty, discover_of_empty valid empty]
      · cases seen : token.atEnd with
        | true =>
            left
            rw [discover_of_nonempty valid empty, if_pos seen]
        | false =>
            right
            rw [Cancellation.eq_never seen]

/-- Discovery with sightings of the token returns what a run returns that has ended with them. -/
theorem result_ofSightings (valid : options.fault? = none) (nonempty : log.size ≠ 0)
    (token : Cancellation) :
    (Pool.ofSightings (supports log options) token (tried log options)).result log =
      discover log options token := by
  have accepted : (Pool.ofSightings (supports log options) token (tried log options)).accepted =
      supported log options token (tried log options) := by
    rw [Pool.accepted, Pool.ofSightings, List.filterMap_map, supported]
    apply List.filterMap_congr
    rintro ⟨c, i⟩ -
    simp only [Function.comp, Task.accepted?, supports]
    cases token.atUnit i <;>
      cases ({ constraint := c } : Compiled).isSupported log options.vacuity options.minSupport <;>
      rfl
  rw [discover_of_nonempty valid nonempty, Pool.result, accepted]
  rfl

/-- A run returns what discovery does with what the run has seen of the token. -/
theorem Returns.exists_discover_eq (h : Returns log options cancelled r) :
    ∃ token : Cancellation, discover log options token = r ∧
      (cancelled = true → token.atEnd = true) := by
  cases h with
  | invalid found => exact ⟨.beforehand, discover_of_fault found _, fun _ => rfl⟩
  | empty valid empty => exact ⟨.beforehand, discover_of_empty valid empty _, fun _ => rfl⟩
  | @ended valid nonempty pool run ended =>
      have sound := run.keeps_sound (Pool.sound_start _ _)
      refine ⟨pool.sightings sound, ?_, run.keeps_cancelled⟩
      rw [← result_ofSightings valid nonempty, ← Pool.eq_ofSightings sound ended]

/-- The results of runs are those of discovery with some sightings of the token. -/
theorem returns_iff : Returns log options false r ↔ ∃ token, discover log options token = r := by
  constructor
  · intro returns
    obtain ⟨token, same, -⟩ := returns.exists_discover_eq
    exact ⟨token, same⟩
  · rintro ⟨token, rfl⟩
    cases valid : options.fault? with
    | some fault =>
        rw [discover_of_fault valid]
        exact .invalid valid
    | none =>
        by_cases empty : log.size = 0
        · rw [discover_of_empty valid empty]
          exact .empty valid empty
        · rw [← result_ofSightings valid empty]
          exact .ended valid empty (Pool.run_ofSightings _ _ _) (Pool.hasEnded_ofSightings _ _ _)

theorem exists_returns (log : Log) (options : DiscoveryOptions) (cancelled : Bool) :
    ∃ r, Returns log options cancelled r := by
  cases valid : options.fault? with
  | some fault => exact ⟨_, .invalid valid⟩
  | none =>
      by_cases empty : log.size = 0
      · exact ⟨_, .empty valid empty⟩
      · obtain ⟨pool, run, ended⟩ := Pool.exists_run_hasEnded (supports log options)
          (.start cancelled (tried log options))
        exact ⟨_, .ended valid empty run ended⟩

/-- However the workers take turns and whenever the token is cancelled, a run reports that it was
cancelled, or it returns all that a run returns whose token is never cancelled. If the token was
cancelled before and there is something to do, it reports that. -/
theorem returns_all_or_nothing (log : Log) (options : DiscoveryOptions) (cancelled : Bool) :
    (∃ r, Returns log options cancelled r) ∧
      ∀ r, Returns log options cancelled r →
        (r = .error .cancelled ∨ r = discover log options .never) ∧
          (cancelled = true → options.fault? = none → log.size ≠ 0 → r = .error .cancelled) := by
  refine ⟨exists_returns log options cancelled, fun r returns => ?_⟩
  obtain ⟨token, rfl, seen⟩ := returns.exists_discover_eq
  refine ⟨discover_eq_cancelled_or token, fun before valid nonempty => ?_⟩
  rw [discover_of_nonempty valid nonempty, if_pos (seen before)]

theorem returns_all_or_nothing_orderLog :
    ∃ r, Returns orderLog {} true r ∧ r = .error .cancelled := by
  obtain ⟨⟨r, returns⟩, all⟩ := returns_all_or_nothing orderLog {} true
  obtain ⟨-, cancelledBefore⟩ := all r returns
  exact ⟨r, returns, cancelledBefore rfl (by decide) (by decide)⟩

end Declare.Discovery
