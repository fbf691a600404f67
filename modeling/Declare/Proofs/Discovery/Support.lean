import Declare.Discovery.Support
import Declare.Proofs.Check.Conservation
import Declare.Proofs.Decimal.Share

/-!
# The support scan counts

Whether a log supports a constraint is decided by a scan that stops when enough satisfied traces
have been found, or when too few are left. Since a larger part of the log never reaches less
(`reaches_of_le`), both exits give the result of counting to the end (`scanSupport_eq_reaches`). So
for every threshold, numbers outside the shares and NaN among them, the scan decides what the plain
count of the satisfied traces does (`Compiled.isSupported_iff_count`). Unreadable traces count for
the size of the log only.

The most that the scan can still find is what it has found and the size of the log, less what it has
seen. Numbers in words must not grow out of the words in that sum nor fall below zero in that
difference. They do not: the scan has found at most as many traces as it has seen, and has seen at
most as many as the log has (`scanSupport?_eq_some`).
-/

namespace Declare

theorem reaches_of_le {s : Float} {total j k : Nat} (size : total < UInt64.size) (jk : j ≤ k)
    (le : k ≤ total) (h : reaches s total j = true) : reaches s total k = true := by
  rw [reaches, decide_eq_true_iff] at h ⊢
  exact le_share_of_le size jk le h

/-- The scan of what is left of a log decides whether the count over all of it is large enough. -/
theorem scanSupport_eq_reaches {α : Type} (p : α → Bool) (s : Float) {total found seen : Nat}
    (size : total < UInt64.size) (foundLe : found ≤ seen) {ts : List α}
    (fits : seen + ts.length ≤ total) :
    scanSupport p s total found seen ts = reaches s total (found + ts.countP p) := by
  induction ts generalizing found seen with
  | nil => rfl
  | cons t ts ih =>
      obtain ⟨found', counted⟩ : ∃ found', (if p t then found + 1 else found) = found' := ⟨_, rfl⟩
      have foundLe' : found ≤ found' ∧ found' ≤ found + 1 := by
        rw [← counted]
        split <;> omega
      have count : found + (t :: ts).countP p = found' + ts.countP p := by
        rw [List.countP_cons, ← counted]
        split <;> omega
      have rest := List.countP_le_length (p := p) (l := ts)
      rw [List.length_cons] at fits
      rw [scanSupport, counted, count]
      split
      · next enough =>
          exact (reaches_of_le size (by omega) (by omega) enough).symm
      · split
        · next tooFew =>
            rw [Bool.not_eq_true'] at tooFew
            symm
            rw [Bool.eq_false_iff]
            intro enough
            have best := reaches_of_le size (by omega : found' + ts.countP p ≤
              found' + total - (seen + 1)) (by omega) enough
            rw [tooFew] at best
            cases best
        · exact ih (by omega) (by omega)

/-- A constraint is supported by a log with traces if it is satisfied on a large enough share. -/
theorem Compiled.isSupported_eq (c : Compiled) {log : Log} (vacuity : Bool) (s : Float)
    (size : log.size < UInt64.size) :
    c.isSupported log vacuity s =
      (log.size != 0 && reaches s log.size (log.readable.countP (c.isSatisfied vacuity))) := by
  have fits : 0 + log.readable.length ≤ log.size := by
    rw [Nat.zero_add]
    exact log.length_readable_le
  rw [Compiled.isSupported, scanSupport_eq_reaches _ _ size (Nat.le_refl 0) fits, Nat.zero_add]

/-- The scan of a log in numbers below `words`; nothing if a sum is no such number or a difference
falls below zero. -/
def scanSupport? {α : Type} (words : Nat) (p : α → Bool) (minSupport : Float)
    (total found seen : Nat) : List α → Option Bool
  | [] => some (reaches minSupport total found)
  | t :: ts => do
    let found := if p t then found + 1 else found
    if reaches minSupport total found then some true
    else
      let sum ← if found + total < words then some (found + total) else none
      let most ← Word.sub? sum (seen + 1)
      if !reaches minSupport total most then some false
      else scanSupport? words p minSupport total found (seen + 1) ts

/-- Whether enough traces of a log satisfy a constraint, in numbers below `words`. -/
def Compiled.isSupported? (words : Nat) (c : Compiled) (log : Log) (vacuity : Bool)
    (minSupport : Float) : Option Bool :=
  if log.size = 0 then some false
  else scanSupport? words (c.isSatisfied vacuity) minSupport log.size 0 0 log.readable

/-- As long as no more traces are found than seen, and no more scanned than there are, all sums are
at most twice their number and no difference falls below zero. -/
theorem scanSupport?_eq_some {α : Type} {words : Nat} (p : α → Bool) (s : Float)
    {total found seen : Nat} (enough : 2 * total < words) (foundLe : found ≤ seen) {ts : List α}
    (fits : seen + ts.length ≤ total) :
    scanSupport? words p s total found seen ts = some (scanSupport p s total found seen ts) := by
  induction ts generalizing found seen with
  | nil => rfl
  | cons t ts ih =>
      obtain ⟨found', counted⟩ : ∃ found', (if p t then found + 1 else found) = found' := ⟨_, rfl⟩
      have foundLe' : found' ≤ seen + 1 := by
        rw [← counted]
        split <;> omega
      rw [List.length_cons] at fits
      have sum : found' + total < words := by omega
      have most : Word.sub? (found' + total) (seen + 1) = some (found' + total - (seen + 1)) :=
        Word.sub?_eq_some (by omega)
      rw [scanSupport?, scanSupport]
      simp only [counted, if_pos sum, most, Option.bind_eq_bind, Option.bind_some]
      split
      · rfl
      · split
        · rfl
        · exact ih foundLe' (by omega)

namespace Compiled

/-- A constraint is supported if the log has traces and the share of those that satisfy it reaches
the threshold. In words that hold twice the size of the log, no sum of the scan leaves the words and
no difference falls below zero. -/
theorem isSupported_iff_count (c : Compiled) {log : Log} (size : log.size < UInt64.size)
    (vacuity : Bool) (s : Float) :
    (c.isSupported log vacuity s ↔
        0 < log.size ∧
          s ≤ share (log.readable.countP fun t => (c.checkTrace t vacuity).verdict = .satisfied)
            log.size) ∧
      ∀ words, 2 * log.size < words →
        c.isSupported? words log vacuity s = some (c.isSupported log vacuity s) := by
  constructor
  · rw [isSupported_eq c vacuity s size, Bool.and_eq_true, bne_iff_ne, Nat.pos_iff_ne_zero, reaches,
      decide_eq_true_iff]
    rfl
  · intro words enough
    have fits : 0 + log.readable.length ≤ log.size := by
      rw [Nat.zero_add]
      exact log.length_readable_le
    rw [isSupported?, isSupported]
    by_cases empty : log.size = 0
    · rw [if_pos empty, empty]
      rfl
    · rw [if_neg empty, scanSupport?_eq_some _ _ enough (Nat.le_refl 0) fits, bne_iff_ne.2 empty]
      rfl

/-- An order that is paid for, a case that cannot be read, and an order that is not paid for. -/
def paymentLog : Log where
  traces :=
    [some { events := [⟨"Order", .epoch, []⟩, ⟨"Pay", .epoch, []⟩] },
      none,
      some { events := [⟨"Order", .epoch, []⟩] }]

/-- One of three cases is enough for a quarter and not for a half, and nothing is enough for a
threshold that is no number. -/
theorem isSupported_iff_count_paymentLog :
    let c : Compiled := { constraint := .binary .response "Order" "Pay" }
    paymentLog.size < UInt64.size ∧ c.isSupported paymentLog false 0.25 ∧
      ¬c.isSupported paymentLog false 0.5 ∧ ¬c.isSupported paymentLog false (0 / 0) ∧
      c.isSupported? UInt64.size paymentLog false 0.5 =
        some (c.isSupported paymentLog false 0.5) := by
  intro c
  have size : paymentLog.size < UInt64.size := by decide
  have counted (s : Float) := c.isSupported_iff_count size false s
  refine ⟨size, (counted 0.25).1.2 (by decide), fun enough => ?_, fun enough => ?_,
    (counted 0.5).2 _ (by decide)⟩
  · have reached := ((counted 0.5).1.1 enough).2
    revert reached
    decide
  · have reached := ((counted (0 / 0)).1.1 enough).2
    revert reached
    decide

end Compiled

end Declare
