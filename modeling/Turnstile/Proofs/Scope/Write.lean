/-
What a call on a scope writes.

A call either writes nothing, or opens a counter, or makes one of five writes that the scope
notes.  `Scope.Write` lists them, with what the call has found in the ledger when it wrote.
Whatever is shown of all calls on scopes is shown by cases on it.
-/
import Turnstile.Proofs.Ledger.Log

namespace Turnstile

namespace Ledger

variable {l : Ledger} {k : CounterKey} {t : Tally}

/-- Setting a count that is there already changes nothing. -/
theorem setUsed_same (h : l.tally? k = some t) : l.setUsed k t.used = l := by
  refine ext_rows (by simp) ?_ (by simp) (by simp)
  intro other
  rw [tally?_setUsed]
  split
  · next hk =>
    subst hk
    rw [h]
    rfl
  · rfl

/-- Only the last of two counts that are set counts. -/
theorem setUsed_setUsed (l : Ledger) (k : CounterKey) (n m : Int) :
    (l.setUsed k n).setUsed k m = l.setUsed k m := by
  refine ext_rows (by simp) ?_ (by simp) (by simp)
  intro other
  simp only [tally?_setUsed]
  split
  · cases l.tally? k <;> simp
  · rfl

end Ledger

namespace Scope

/-- What a call does to its scope and to the ledger. -/
inductive Write (s : Scope) (l : Ledger) : Call → Scope → Ledger → Prop
  /-- Nothing is written. -/
  | nothing (c : Call) : Write s l c s l
  /-- A counter is opened, and nothing is noted. -/
  | opened (meter : String) (p : Period) :
      Write s l (.ensureCounter s.tenant meter p) s (l.ensureCounter s.tenant meter p)
  /-- The entitlement is inserted or replaced. -/
  | upserted {e : Entitlement} (htenant : e.tenant = s.tenant) :
      Write s l (.upsertEntitlement e)
        (s.note (.entitlement e.tenant (l.entitlement? e.tenant))) (l.putEntitlement e)
  /-- The period of the entitlement that is there is set. -/
  | moved {e : Entitlement} (hstored : l.entitlement? s.tenant = some e) (p : Period) :
      Write s l (.updatePeriod s.tenant p) (s.note (.period s.tenant e.period p))
        (l.setPeriod s.tenant p)
  /-- Units are reserved on a counter with room for them. -/
  | reserved {k : CounterKey} {row : Tally} {cost limit : Int} (htenant : k.tenant = s.tenant)
      (hrow : l.tally? k = some row) (hfits : Ledger.Fits row.used cost limit) :
      Write s l (.reserve k cost limit) (s.note (.reserved k cost))
        (l.setUsed k (row.used + cost))
  /-- Units are taken off a counter. -/
  | released {k : CounterKey} {row : Tally} {q : Int} (htenant : k.tenant = s.tenant)
      (hrow : l.tally? k = some row) (hpos : 0 < Ledger.releasable row.used q) :
      Write s l (.release k q) (s.note (.released k (Ledger.releasable row.used q)))
        (l.setUsed k (row.used - Ledger.releasable row.used q))
  /-- An event is recorded. -/
  | recorded {e : Event} (htenant : e.tenant = s.tenant) (hins : (l.record e).1 = .inserted) :
      Write s l (.record e) (s.note (.event e.id e.replay)) (l.record e).2

theorem write_reserve {s : Scope} {k : CounterKey} (htenant : k.tenant = s.tenant) (l : Ledger)
    (cost limit : Int) :
    Write s l (.reserve k cost limit) (s.reserve l k cost limit).2.1
      (s.reserve l k cost limit).2.2 := by
  unfold reserve
  generalize hr : l.reserve k cost limit = outcome
  obtain ⟨_ | _, l'⟩ := outcome
  · obtain ⟨row, hrow, hfits, rfl, rfl⟩ := Ledger.reserve_eq_reserved hr
    exact .reserved htenant hrow hfits
  · obtain rfl := Ledger.reserve_eq_rejected hr
    exact .nothing _

theorem write_release {s : Scope} {k : CounterKey} (htenant : k.tenant = s.tenant) (l : Ledger)
    (q : Int) : Write s l (.release k q) (s.release l k q).1 (s.release l k q).2 := by
  unfold release
  cases hrow : l.tally? k with
  | none =>
    rw [Ledger.release_of_absent hrow]
    exact .nothing _
  | some row =>
    rw [Ledger.release_of_tally? hrow]
    by_cases hpos : 0 < Ledger.releasable row.used q
    · simp only [if_pos hpos]
      exact .released htenant hrow hpos
    · have hnonneg := Ledger.releasable_nonneg row.used q
      have hzero : Ledger.releasable row.used q = 0 := by omega
      simp only [hzero, Int.sub_zero, Ledger.setUsed_same hrow]
      exact .nothing _

theorem write_record {s : Scope} {e : Event} (htenant : e.tenant = s.tenant) (l : Ledger) :
    Write s l (.record e) (s.record l e).2.1 (s.record l e).2.2 := by
  unfold record
  generalize hr : l.record e = outcome
  obtain ⟨_ | _, l'⟩ := outcome
  · have hins : (l.record e).1 = .inserted := by rw [hr]
    have hl : (l.record e).2 = l' := by rw [hr]
    rw [← hl]
    exact .recorded htenant hins
  · have hdup : (l.record e).1 = .duplicate := by rw [hr]
    have hl := Ledger.record_of_duplicate hdup
    rw [hr] at hl
    rw [show l' = l from hl]
    exact .nothing _

/-- **A call on a scope has one of the effects above.** -/
theorem write_perform (c : Call) (s : Scope) (l : Ledger) :
    Write s l c (perform c s l).2.1 (perform c s l).2.2 := by
  by_cases htenant : c.tenant = s.tenant
  · unfold perform
    rw [if_neg (not_not_intro htenant)]
    cases c with
    | getEntitlement tenant => exact .nothing _
    | upsertEntitlement e => exact .upserted htenant
    | updatePeriod tenant p =>
      obtain rfl : tenant = s.tenant := htenant
      dsimp only [updatePeriod]
      cases hstored : l.entitlement? s.tenant with
      | none => exact .nothing _
      | some e => exact .moved hstored p
    | ensureCounter tenant meter p =>
      obtain rfl : tenant = s.tenant := htenant
      exact .opened meter p
    | reserve k cost limit => exact write_reserve htenant l cost limit
    | release k q => exact write_release htenant l q
    | record e => exact write_record htenant l
  · rw [perform_of_ne l htenant]
    exact .nothing _

/-- A reservation with room is granted. -/
theorem ledger_reserve_of_fits {s : Scope} {l : Ledger} {k : CounterKey} {row : Tally}
    {cost limit : Int} (htenant : k.tenant = s.tenant) (hrow : l.tally? k = some row)
    (hfits : Ledger.Fits row.used cost limit) :
    (perform (.reserve k cost limit) s l).2.2 = l.setUsed k (row.used + cost) := by
  have hgranted : l.reserve k cost limit =
      (.reserved (row.used + cost), l.setUsed k (row.used + cost)) := by
    unfold Ledger.reserve
    simp only [hrow, if_pos hfits]
  have hown : ¬(Call.reserve k cost limit).tenant ≠ s.tenant := not_not_intro htenant
  unfold perform
  rw [if_neg hown]
  simp only [reserve, hgranted]

end Scope

end Turnstile
