import Declare.Event.Basic
import Mathlib.Data.Nat.Find

/-!
# Timestamps that are filled in

The events of a trace keep the timestamps that their drafts state, and each other event comes an
hour after the one before it. So an event is as many hours after the latest stated timestamp as it
is behind the draft that states it, and without such a draft as many hours after the epoch as there
are events before it (`Event.ofDrafts_filled`). Timestamps have a range, and an hour that would
leave it cannot be added (`Event.ofDrafts?`); as long as none does, every draft becomes an event.
-/

namespace Declare

open Time (Timestamp)

namespace Time.Timestamp

theorem afterHours_add (t : Timestamp) (g h : Nat) :
    (t.afterHours g).afterHours h = t.afterHours (g + h) := by
  induction h with
  | zero => rfl
  | succ h ih => rw [afterHours_succ, ih, ← Nat.add_assoc, ← afterHours_succ]

/-- Outside a leap second only the instant moves. -/
theorem afterHours_of_nanos_lt {t : Timestamp} (h : t.nanos < second) (hours : Nat) :
    t.afterHours hours = ⟨t.seconds + 3600 * hours, t.nanos, t.offset⟩ := by
  cases hours with
  | zero => simp [afterHours]
  | succ hours => rw [afterHours, Nat.mod_eq_of_lt h]

theorem epoch_afterHours (hours : Nat) : epoch.afterHours hours = ⟨3600 * hours, 0, 0⟩ := by
  rw [afterHours_of_nanos_lt (by decide), epoch, Int.zero_add]

/-- Whether the timestamp lies on a day that timestamps can lie on. -/
def InRange (t : Timestamp) : Prop :=
  inRange (t.seconds / 86400)

instance (t : Timestamp) : Decidable t.InRange :=
  inferInstanceAs (Decidable (inRange (t.seconds / 86400) = true))

/-- The timestamp an hour later, if there is one. -/
def nextHour? (t : Timestamp) : Option Timestamp :=
  if (t.afterHours 1).InRange then some (t.afterHours 1) else none

end Time.Timestamp

/-- The second list is the first one without its first attribute of that name, if it has any. -/
inductive Attributes.WithoutFirst (key : String) : Attributes → Attributes → Prop where
  | absent {as : Attributes} (others : ∀ a ∈ as, a.key ≠ key) : WithoutFirst key as as
  | present {before after : Attributes} {a : Attribute} (named : a.key = key)
      (others : ∀ b ∈ before, b.key ≠ key) :
      WithoutFirst key (before ++ a :: after) (before ++ after)

theorem Attributes.withoutFirst_remove (as : Attributes) (key : String) :
    WithoutFirst key as (as.remove key) := by
  rw [remove]
  by_cases others : ∀ a ∈ as, a.key ≠ key
  · rw [List.eraseP_of_forall_not fun a mem => by simpa using others a mem]
    exact .absent others
  · push Not at others
    obtain ⟨a, mem, named⟩ := others
    obtain ⟨a, before, after, others, named, rfl, removed⟩ :=
      List.exists_of_eraseP (p := (·.key = key)) mem (by simpa using named)
    rw [removed]
    exact .present (by simpa using named) fun b mem => by simpa using others b mem

namespace Event

/-- The first attribute for the timestamp of the draft is a date. -/
def Draft.States (d : Draft) (t : Timestamp) : Prop :=
  ∃ before after, d.attributes = before ++ ⟨timestampKey, .date t⟩ :: after ∧
    ∀ a ∈ before, a.key ≠ timestampKey

theorem Draft.stamp?_eq_some_iff {d : Draft} {t : Timestamp} : d.stamp? = some t ↔ d.States t := by
  rw [stamp?, Option.bind_eq_some_iff]
  constructor
  · rintro ⟨v, found, date⟩
    rw [Attributes.value?, Option.map_eq_some_iff] at found
    obtain ⟨⟨key, value⟩, found, rfl⟩ := found
    obtain ⟨named, before, after, split, others⟩ := List.find?_eq_some_iff_append.1 found
    obtain rfl : key = timestampKey := by simpa using named
    cases value with
    | date s =>
        obtain rfl := Option.some.inj date
        exact ⟨before, after, split, fun a mem => by simpa using others a mem⟩
    | _ => cases date
  · rintro ⟨before, after, split, others⟩
    refine ⟨.date t, ?_, rfl⟩
    rw [Attributes.value?, Option.map_eq_some_iff]
    refine ⟨_, List.find?_eq_some_iff_append.2 ⟨by simp, before, after, split, ?_⟩, rfl⟩
    intro a mem
    simpa using others a mem

/-- What the draft at a position states. -/
def stampAt? (ds : List Draft) (i : Nat) : Option Timestamp :=
  ds[i]?.bind Draft.stamp?

theorem stampAt?_eq_some_iff {ds : List Draft} {i : Nat} {t : Timestamp} :
    stampAt? ds i = some t ↔ ∃ d, ds[i]? = some d ∧ d.States t := by
  simp only [stampAt?, Option.bind_eq_some_iff, Draft.stamp?_eq_some_iff]

/-- Among the drafts up to position `k`, the last one to state a timestamp is the one at position
`j`, and it states `t`. -/
structure LastStated (ds : List Draft) (k j : Nat) (t : Timestamp) : Prop where
  le : j ≤ k
  states : ∃ d, ds[j]? = some d ∧ d.States t
  silent : ∀ i, j < i → i ≤ k → ¬∃ d s, ds[i]? = some d ∧ d.States s

theorem stampAt?_eq_none_iff {ds : List Draft} {i : Nat} :
    stampAt? ds i = none ↔ ¬∃ d s, ds[i]? = some d ∧ d.States s := by
  rw [Option.eq_none_iff_forall_ne_some]
  simp only [ne_eq, stampAt?_eq_some_iff]
  push Not
  exact ⟨fun h d s at_i => h s d at_i, fun h s d at_i => h d s at_i⟩

theorem LastStated.stampAt?_eq {ds : List Draft} {k j : Nat} {t : Timestamp}
    (last : LastStated ds k j t) : stampAt? ds j = some t :=
  stampAt?_eq_some_iff.2 last.states

theorem LastStated.stampAt?_eq_none {ds : List Draft} {k j i : Nat} {t : Timestamp}
    (last : LastStated ds k j t) (after : j < i) (le : i ≤ k) : stampAt? ds i = none :=
  stampAt?_eq_none_iff.2 (last.silent i after le)

/-- A draft in front does not count if a later one states a timestamp. -/
theorem LastStated.tail {d : Draft} {ds : List Draft} {k j : Nat} {t : Timestamp}
    (last : LastStated (d :: ds) (k + 1) (j + 1) t) : LastStated ds k j t where
  le := Nat.le_of_succ_le_succ last.le
  states := last.states
  silent := fun i after le => last.silent (i + 1) (Nat.succ_lt_succ after) (Nat.succ_le_succ le)

/-- If any draft up to a position states a timestamp, there is a last one. -/
theorem exists_lastStated {ds : List Draft} {k i : Nat} {s : Timestamp} (le : i ≤ k)
    (states : stampAt? ds i = some s) : ∃ j t, LastStated ds k j t := by
  have some_stated : (stampAt? ds i).isSome := by rw [states]; rfl
  have last := Nat.findGreatest_spec (P := fun i => (stampAt? ds i).isSome) le some_stated
  obtain ⟨t, stated⟩ := Option.isSome_iff_exists.1 last
  refine ⟨_, t, Nat.findGreatest_le k, stampAt?_eq_some_iff.1 stated, ?_⟩
  intro j after le
  rw [← stampAt?_eq_none_iff, ← Option.not_isSome_iff_eq_none]
  exact Nat.findGreatest_is_greatest after le

theorem Draft.timestamp_finish_of_stated {d : Draft} {t : Timestamp} (stated : d.stamp? = some t)
    (previous : Option Timestamp) : (d.finish previous).timestamp = t := by
  rw [finish, stated, Option.getD_some]

theorem Draft.timestamp_finish_of_silent {d : Draft} (silent : d.stamp? = none)
    (previous : Option Timestamp) :
    (d.finish previous).timestamp = previous.elim .epoch (·.afterHours 1) := by
  rw [finish, silent, Option.getD_none]

/-- The timestamp of an event follows from the last one that a draft up to there states. If there is
none, it follows from the timestamp before the first draft. -/
theorem timestamp_finishAll {previous : Option Timestamp} {ds : List Draft} {k : Nat} {e : Event}
    (here : (finishAll previous ds)[k]? = some e) :
    (∀ j t, LastStated ds k j t → e.timestamp = t.afterHours (k - j)) ∧
      ((∀ i ≤ k, stampAt? ds i = none) →
        e.timestamp = (previous.elim .epoch (·.afterHours 1)).afterHours k) := by
  induction ds generalizing previous k with
  | nil => cases here
  | cons d ds ih =>
      cases k with
      | zero =>
          obtain rfl := Option.some.inj here
          constructor
          · intro j t last
            obtain rfl := Nat.le_zero.1 last.le
            exact d.timestamp_finish_of_stated last.stampAt?_eq previous
          · intro silent
            exact d.timestamp_finish_of_silent (silent 0 (Nat.le_refl 0)) previous
      | succ k =>
          obtain ⟨stated, unstated⟩ := ih here
          constructor
          · intro j t last
            cases j with
            | zero =>
                have filled := unstated fun i le =>
                  last.stampAt?_eq_none (Nat.succ_pos i) (Nat.succ_le_succ le)
                rw [filled, d.timestamp_finish_of_stated last.stampAt?_eq, Option.elim_some,
                  Timestamp.afterHours_add, Nat.sub_zero, Nat.add_comm]
            | succ j =>
                rw [stated j t last.tail, Nat.add_sub_add_right]
          · intro silent
            have filled := unstated fun i le => silent (i + 1) (Nat.succ_le_succ le)
            rw [filled, d.timestamp_finish_of_silent (silent 0 (Nat.zero_le _)), Option.elim_some,
              Timestamp.afterHours_add, Nat.add_comm]

/-- What a draft becomes apart from its timestamp. -/
theorem getElem?_finishAll (previous : Option Timestamp) {ds : List Draft} {k : Nat} {d : Draft}
    (here : ds[k]? = some d) :
    ∃ e, (finishAll previous ds)[k]? = some e ∧ e.activity = d.activity ∧
      d.attributes.WithoutFirst timestampKey e.attributes := by
  induction ds generalizing previous k with
  | nil => cases here
  | cons first ds ih =>
      cases k with
      | zero =>
          obtain rfl := Option.some.inj here
          exact ⟨_, rfl, rfl, Attributes.withoutFirst_remove _ _⟩
      | succ k => exact ih _ here

/-- The event of a draft, if the hour that it comes after the previous one can be added. -/
def Draft.finish? (previous : Option Timestamp) (d : Draft) : Option Event := do
  let timestamp ← d.stamp?.or (previous.elim (some .epoch) (·.nextHour?))
  some { activity := d.activity, timestamp, attributes := d.attributes.remove timestampKey }

/-- The events of drafts that follow an event with the given timestamp, if all hours can be
added. -/
def finishAll? (previous : Option Timestamp) : List Draft → Option (List Event)
  | [] => some []
  | d :: ds => do
    let e ← d.finish? previous
    let es ← finishAll? (some e.timestamp) ds
    some (e :: es)

/-- The events of the drafts of a whole trace, if all hours can be added. -/
def ofDrafts? (ds : List Draft) : Option (List Event) :=
  finishAll? none ds

theorem Draft.finish?_eq_some {previous : Option Timestamp} {d : Draft}
    (inRange : (d.finish previous).timestamp.InRange) :
    d.finish? previous = some (d.finish previous) := by
  rw [finish?, finish]
  cases stated : d.stamp? with
  | some t => rfl
  | none =>
      cases previous with
      | none => rfl
      | some s =>
          rw [timestamp_finish_of_silent stated, Option.elim_some] at inRange
          rw [Option.none_or, Option.elim_some, Timestamp.nextHour?, if_pos inRange]
          rfl

theorem finishAll?_eq_some {previous : Option Timestamp} {ds : List Draft}
    (inRange : ∀ e ∈ finishAll previous ds, e.timestamp.InRange) :
    finishAll? previous ds = some (finishAll previous ds) := by
  induction ds generalizing previous with
  | nil => rfl
  | cons d ds ih =>
      obtain ⟨here, later⟩ := List.forall_mem_cons.1 inRange
      rw [finishAll?, Draft.finish?_eq_some here]
      simp only [Option.bind_eq_bind, Option.bind_some, ih later]
      rfl

/-- As long as no timestamp leaves the range, each draft becomes an event in its place, with its
activity and with its attributes but the first one for the timestamp. Its timestamp is the last one
stated up to there and an hour more for each event since, or the epoch and an hour for each event
before. -/
theorem ofDrafts_filled (ds : List Draft)
    (inRange : ∀ e ∈ ofDrafts ds, e.timestamp.InRange) :
    ofDrafts? ds = some (ofDrafts ds) ∧ (ofDrafts ds).length = ds.length ∧
      ∀ k d, ds[k]? = some d → ∃ e, (ofDrafts ds)[k]? = some e ∧ e.activity = d.activity ∧
        d.attributes.WithoutFirst timestampKey e.attributes ∧
        (∀ j t, LastStated ds k j t → e.timestamp = t.afterHours (k - j)) ∧
        ((¬∃ j t, LastStated ds k j t) → e.timestamp = ⟨3600 * k, 0, 0⟩) := by
  refine ⟨finishAll?_eq_some inRange, length_finishAll none ds, ?_⟩
  intro k d here
  obtain ⟨e, event, activity, attributes⟩ := getElem?_finishAll none here
  obtain ⟨stated, unstated⟩ := timestamp_finishAll event
  refine ⟨e, event, activity, attributes, stated, ?_⟩
  intro nowhere
  rw [← Timestamp.epoch_afterHours]
  refine unstated ?_
  intro i le
  rw [Option.eq_none_iff_forall_ne_some]
  intro s states
  exact nowhere (exists_lastStated le states)

/-- A moment in the middle of a leap second, two hours ahead of universal time. -/
def paidAt : Timestamp := ⟨86399, 1500000000, 7200⟩

/-- Only the payment states when it happened: the check has no date where its timestamp would be. -/
def delivery : List Draft :=
  [⟨"Order", []⟩,
    ⟨"Check", [⟨"time:timestamp", .string "noon"⟩, ⟨"time:timestamp", .date paidAt⟩]⟩,
    ⟨"Pay", [⟨"by", .string "card"⟩, ⟨"time:timestamp", .date paidAt⟩]⟩,
    ⟨"Ship", []⟩]

theorem lastStated_delivery : LastStated delivery 3 2 paidAt where
  le := by decide
  states := ⟨_, rfl, [⟨"by", .string "card"⟩], [], rfl, by simp [timestampKey]⟩
  silent := by
    intro i after le
    obtain rfl : i = 3 := by omega
    exact stampAt?_eq_none_iff.1 rfl

/-- The shipment comes an hour after the payment, on the same clock and without the leap second. -/
theorem ofDrafts_filled_delivery :
    (∀ e ∈ ofDrafts delivery, e.timestamp.InRange) ∧
      ofDrafts? delivery = some (ofDrafts delivery) ∧
      ∃ e, (ofDrafts delivery)[3]? = some e ∧ e.activity = "Ship" ∧
        e.timestamp = ⟨89999, 500000000, 7200⟩ := by
  have inRange : ∀ e ∈ ofDrafts delivery, e.timestamp.InRange := by decide
  obtain ⟨through, -, filled⟩ := ofDrafts_filled delivery inRange
  obtain ⟨e, event, activity, -, stated, -⟩ := filled 3 _ rfl
  exact ⟨inRange, through, e, event, activity, stated 2 paidAt lastStated_delivery⟩

end Event

end Declare
