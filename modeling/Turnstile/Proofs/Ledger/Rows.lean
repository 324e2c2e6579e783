/-
What each write does to the rows.

Most arguments about the ledger follow one number, the units on a counter.  `Ledger.used`
reads it, with zero for a counter that is not there, so that opening a counter changes
nothing and only three writes do: a reservation adds its cost, a release takes its amount
off, and setting a count sets it.  Every other write leaves the count alone, and the
writes to counters leave entitlements and events alone.
-/
import Turnstile.Ledger.Scope

namespace Turnstile.Ledger

variable {l : Ledger} {k : CounterKey}

/-- Units on a counter, none if it is not there. -/
def used (l : Ledger) (k : CounterKey) : Int := ((l.tally? k).map (·.used)).getD 0

theorem used_of_tally? {t : Tally} (h : l.tally? k = some t) : l.used k = t.used := by
  simp [used, h]

theorem used_of_absent (h : l.tally? k = none) : l.used k = 0 := by
  simp [used, h]

/-- A counter with units on it is there. -/
theorem exists_tally?_of_used_pos (h : 0 < l.used k) :
    ∃ t, l.tally? k = some t ∧ t.used = l.used k := by
  cases ht : l.tally? k with
  | none => rw [used_of_absent ht] at h; omega
  | some t => exact ⟨t, rfl, (used_of_tally? ht).symm⟩

/-- The end of a counter that is there. -/
def stop? (l : Ledger) (k : CounterKey) : Option Instant := (l.tally? k).map (·.stop)

/-- Two ledgers with the same rows are the same. -/
theorem ext_rows {l l' : Ledger} (hentitlements : l.entitlements = l'.entitlements)
    (hrows : ∀ k, l.tally? k = l'.tally? k) (hevents : l.events = l'.events)
    (hreplays : l.replays = l'.replays) : l = l' := by
  have hcounters : l.counters = l'.counters := Std.ExtTreeMap.ext_getElem? fun k => hrows k
  cases l
  cases l'
  simp_all

/-! ### Writes to entitlements -/

@[simp] theorem counters_setPeriod (l : Ledger) (tenant : String) (p : Period) :
    (l.setPeriod tenant p).counters = l.counters := by
  unfold setPeriod
  split <;> rfl

@[simp] theorem events_setPeriod (l : Ledger) (tenant : String) (p : Period) :
    (l.setPeriod tenant p).events = l.events := by
  unfold setPeriod
  split <;> rfl

@[simp] theorem replays_setPeriod (l : Ledger) (tenant : String) (p : Period) :
    (l.setPeriod tenant p).replays = l.replays := by
  unfold setPeriod
  split <;> rfl

@[simp] theorem tally?_setPeriod (l : Ledger) (tenant : String) (p : Period) (k : CounterKey) :
    (l.setPeriod tenant p).tally? k = l.tally? k := by
  simp [tally?]

@[simp] theorem used_setPeriod (l : Ledger) (tenant : String) (p : Period) (k : CounterKey) :
    (l.setPeriod tenant p).used k = l.used k := by
  simp [used]

@[simp] theorem stop?_setPeriod (l : Ledger) (tenant : String) (p : Period) (k : CounterKey) :
    (l.setPeriod tenant p).stop? k = l.stop? k := by
  simp [stop?]

/-! ### Writes to counters -/

@[simp] theorem entitlement?_ensureCounter (l : Ledger) (tenant meter : String) (p : Period)
    (other : String) :
    (l.ensureCounter tenant meter p).entitlement? other = l.entitlement? other := rfl

@[simp] theorem events_ensureCounter (l : Ledger) (tenant meter : String) (p : Period) :
    (l.ensureCounter tenant meter p).events = l.events := rfl

@[simp] theorem replays_ensureCounter (l : Ledger) (tenant meter : String) (p : Period) :
    (l.ensureCounter tenant meter p).replays = l.replays := rfl

@[simp] theorem entitlements_setUsed (l : Ledger) (k : CounterKey) (n : Int) :
    (l.setUsed k n).entitlements = l.entitlements := by
  unfold setUsed
  split <;> rfl

@[simp] theorem entitlement?_setUsed (l : Ledger) (k : CounterKey) (n : Int) (tenant : String) :
    (l.setUsed k n).entitlement? tenant = l.entitlement? tenant := by
  simp [entitlement?]

@[simp] theorem events_setUsed (l : Ledger) (k : CounterKey) (n : Int) :
    (l.setUsed k n).events = l.events := by
  unfold setUsed
  split <;> rfl

@[simp] theorem replays_setUsed (l : Ledger) (k : CounterKey) (n : Int) :
    (l.setUsed k n).replays = l.replays := by
  unfold setUsed
  split <;> rfl

/-- The counter that is opened is there, with the units that were on it. -/
theorem tally?_ensureCounter_self (l : Ledger) (tenant meter : String) (p : Period) :
    (l.ensureCounter tenant meter p).tally? ⟨tenant, meter, p.start⟩ =
      some ⟨p.stop, l.used ⟨tenant, meter, p.start⟩⟩ := by
  rw [tally?_ensureCounter, if_pos rfl]
  rfl

/-- Opening a counter, or moving its end, leaves its units alone. -/
@[simp] theorem used_ensureCounter (l : Ledger) (tenant meter : String) (p : Period)
    (k : CounterKey) : (l.ensureCounter tenant meter p).used k = l.used k := by
  unfold used
  rw [tally?_ensureCounter]
  split
  · simp
  · rfl

/-- A counter that is opened ends with its period. -/
theorem stop?_ensureCounter (l : Ledger) (tenant meter : String) (p : Period) (k : CounterKey) :
    (l.ensureCounter tenant meter p).stop? k =
      if ⟨tenant, meter, p.start⟩ = k then some p.stop else l.stop? k := by
  unfold stop?
  rw [tally?_ensureCounter]
  split <;> rfl

/-- Setting a count leaves all ends alone. -/
@[simp] theorem stop?_setUsed (l : Ledger) (k : CounterKey) (n : Int) (other : CounterKey) :
    (l.setUsed k n).stop? other = l.stop? other := by
  unfold stop?
  rw [tally?_setUsed]
  split
  · next h =>
    subst h
    cases l.tally? k <;> rfl
  · rfl

/-- Setting a count that is there sets it, and no other. -/
theorem used_setUsed {t : Tally} (h : l.tally? k = some t) (n : Int) (other : CounterKey) :
    (l.setUsed k n).used other = if k = other then n else l.used other := by
  unfold used
  rw [tally?_setUsed]
  split
  · simp [h]
  · rfl

/-! ### Rows that are listed -/

/-- The counters that are listed are those that a look-up finds. -/
theorem mem_counterRows {c : Counter} :
    c ∈ l.counterRows ↔ l.tally? c.key = some ⟨c.period.stop, c.used⟩ := by
  unfold counterRows tally?
  rw [List.mem_map]
  constructor
  · rintro ⟨⟨k, row⟩, hmem, rfl⟩
    exact Std.ExtTreeMap.mem_toList_iff_getElem?_eq_some.mp hmem
  · intro h
    exact ⟨(c.key, ⟨c.period.stop, c.used⟩),
      Std.ExtTreeMap.mem_toList_iff_getElem?_eq_some.mpr h, rfl⟩

/-- What holds of every entitlement that a look-up finds holds of every row. -/
theorem forall_entitlement_iff {P : String → Entitlement → Prop} :
    (∀ tenant e, l.entitlement? tenant = some e → P tenant e) ↔
      ∀ row ∈ l.entitlements.toList, P row.1 row.2 := by
  unfold entitlement?
  constructor
  · rintro h ⟨tenant, e⟩ hmem
    exact h tenant e (Std.ExtTreeMap.mem_toList_iff_getElem?_eq_some.mp hmem)
  · intro h tenant e he
    exact h (tenant, e) (Std.ExtTreeMap.mem_toList_iff_getElem?_eq_some.mpr he)

/-- The entitlements that are listed as expired are those that a look-up finds expired. -/
theorem mem_expired {now : Instant} {e : Entitlement} :
    e ∈ l.expired now ↔
      (∃ tenant, l.entitlement? tenant = some e) ∧ e.isExpired now = true := by
  unfold expired entitlement?
  rw [List.mem_filter, List.mem_map]
  refine and_congr_left fun _ => ?_
  constructor
  · rintro ⟨⟨tenant, e'⟩, hmem, rfl⟩
    exact ⟨tenant, Std.ExtTreeMap.mem_toList_iff_getElem?_eq_some.mp hmem⟩
  · rintro ⟨tenant, h⟩
    exact ⟨(tenant, e), Std.ExtTreeMap.mem_toList_iff_getElem?_eq_some.mpr h, rfl⟩

/-! ### Reservations -/

/-- A reservation that is granted finds its counter with room, and adds its cost. -/
theorem reserve_eq_reserved {l' : Ledger} {cost limit n : Int}
    (h : l.reserve k cost limit = (.reserved n, l')) :
    ∃ t, l.tally? k = some t ∧ Fits t.used cost limit ∧ n = t.used + cost ∧ l' = l.setUsed k n := by
  unfold reserve at h
  split at h
  · next t ht =>
    split at h
    · next hfits =>
      obtain ⟨hn, hl⟩ := Prod.mk.inj h
      have hn' : t.used + cost = n := by injection hn
      subst hn'
      exact ⟨t, ht, hfits, rfl, hl.symm⟩
    · exact absurd (Prod.mk.inj h).1 (by simp)
  · exact absurd (Prod.mk.inj h).1 (by simp)

/-- A reservation that is rejected changes nothing. -/
theorem reserve_eq_rejected {l' : Ledger} {cost limit : Int}
    (h : l.reserve k cost limit = (.rejected, l')) : l' = l := by
  unfold reserve at h
  split at h
  · split at h
    · exact absurd (Prod.mk.inj h).1 (by simp)
    · exact (Prod.mk.inj h).2.symm
  · exact (Prod.mk.inj h).2.symm

/-! ### Releases -/

theorem releasable_nonneg (used quantity : Int) : 0 ≤ releasable used quantity := by
  unfold releasable
  omega

theorem releasable_le_used {used : Int} (h : 0 ≤ used) (quantity : Int) :
    releasable used quantity ≤ used := by
  unfold releasable
  omega

/-- The floor is not reached while the units are there. -/
theorem releasable_eq {used quantity : Int} (hq : 0 ≤ quantity) (h : quantity ≤ used) :
    releasable used quantity = quantity := by
  unfold releasable
  omega

theorem release_of_tally? {t : Tally} (h : l.tally? k = some t) (q : Int) :
    l.release k q = (releasable t.used q, l.setUsed k (t.used - releasable t.used q)) := by
  simp [release, h]

theorem release_of_absent (h : l.tally? k = none) (q : Int) : l.release k q = (0, l) := by
  simp [release, h]

/-- A release does not take more than the quantity. -/
theorem release_amount_le (l : Ledger) (k : CounterKey) {q : Int} (hq : 0 ≤ q) :
    (l.release k q).1 ≤ q := by
  cases h : l.tally? k with
  | none => simpa [release_of_absent h] using hq
  | some t =>
    rw [release_of_tally? h]
    unfold releasable
    omega

theorem release_amount_nonneg (l : Ledger) (k : CounterKey) (q : Int) : 0 ≤ (l.release k q).1 := by
  cases h : l.tally? k with
  | none => simp [release_of_absent h]
  | some t => simpa [release_of_tally? h] using releasable_nonneg t.used q

/-- A release takes the amount that it reports off its own counter. -/
theorem used_release (l : Ledger) (k : CounterKey) (q : Int) (other : CounterKey) :
    (l.release k q).2.used other =
      if k = other then l.used other - (l.release k q).1 else l.used other := by
  cases h : l.tally? k with
  | none => simp [release_of_absent h]
  | some t =>
    rw [release_of_tally? h]
    simp only [used_setUsed h]
    split
    · next hk => rw [← hk, used_of_tally? h]
    · rfl

/-- With the units there, a release reports the whole quantity. -/
theorem release_amount_of_le {q : Int} (hq : 0 < q) (h : q ≤ l.used k) :
    (l.release k q).1 = q := by
  obtain ⟨t, ht, hused⟩ := exists_tally?_of_used_pos (l := l) (k := k) (by omega)
  rw [release_of_tally? ht]
  exact releasable_eq (by omega) (by omega)

@[simp] theorem entitlement?_release (l : Ledger) (k : CounterKey) (q : Int) (tenant : String) :
    (l.release k q).2.entitlement? tenant = l.entitlement? tenant := by
  cases h : l.tally? k with
  | none => simp [release_of_absent h]
  | some t => simp [release_of_tally? h]

@[simp] theorem events_release (l : Ledger) (k : CounterKey) (q : Int) :
    (l.release k q).2.events = l.events := by
  cases h : l.tally? k with
  | none => simp [release_of_absent h]
  | some t => simp [release_of_tally? h]

@[simp] theorem stop?_release (l : Ledger) (k : CounterKey) (q : Int) (other : CounterKey) :
    (l.release k q).2.stop? other = l.stop? other := by
  cases h : l.tally? k with
  | none => simp [release_of_absent h]
  | some t => simp [release_of_tally? h]

@[simp] theorem replays_release (l : Ledger) (k : CounterKey) (q : Int) :
    (l.release k q).2.replays = l.replays := by
  cases h : l.tally? k with
  | none => simp [release_of_absent h]
  | some t => simp [release_of_tally? h]

/-! ### Recording -/

@[simp] theorem entitlement?_record (l : Ledger) (e : Event) (tenant : String) :
    (l.record e).2.entitlement? tenant = l.entitlement? tenant := by
  unfold record
  split
  · rfl
  · split <;> rfl

@[simp] theorem tally?_record (l : Ledger) (e : Event) (k : CounterKey) :
    (l.record e).2.tally? k = l.tally? k := by
  unfold record
  split
  · rfl
  · split <;> rfl

@[simp] theorem used_record (l : Ledger) (e : Event) (k : CounterKey) :
    (l.record e).2.used k = l.used k := by
  simp [used]

@[simp] theorem stop?_record (l : Ledger) (e : Event) (k : CounterKey) :
    (l.record e).2.stop? k = l.stop? k := by
  simp [stop?]

end Turnstile.Ledger
