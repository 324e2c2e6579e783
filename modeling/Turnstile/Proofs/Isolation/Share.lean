/-
A tenant's share of the world.

Tenants have a ledger, a rate limiter and an observer in common, and each has a share of its
own in them: its entitlement, counters and events, its bucket, its denials and its warning.
Two worlds are `Alike` for a tenant if its share is the same in both and the clock as well.
The ids of events are drawn from one sequence for all tenants, so events are compared without
them.  Replay ids are recorded in one set for all tenants; of the set only the ids `own` are
compared, which are those that the tenant asks about.

There are two lemmas for each write.  Made in two worlds that are alike, a write leaves them
alike; and made for another tenant, it leaves a world like the one that it found.
-/
import Turnstile.Proofs.Ledger.Log
import Turnstile.Proofs.Telemetry.Observer

namespace Turnstile

/-! ### The log -/

/-- The event without the id that was drawn for it. -/
def Event.anonymous (e : Event) : Event := { e with id := .drawn 0 }

namespace Ledger

/-- The events of a tenant in the order of recording, without their ids. -/
def history (l : Ledger) (tenant : String) : List Event :=
  (l.eventsOf tenant).map Event.anonymous

section history

variable {l l' : Ledger} {e : Event} {tenant : String}

theorem history_of_events (h : l'.events = l.events) (tenant : String) :
    l'.history tenant = l.history tenant := by
  unfold history eventsOf
  rw [h]

/-- What the log says of a period is a matter of the tenant's own history. -/
theorem sum_eq_of_history (h : l'.history tenant = l.history tenant) (meter : String)
    (p : Period) : l'.sum tenant meter p = l.sum tenant meter p := by
  have hsum (l : Ledger) : l.sum tenant meter p =
      ((l.history tenant).filter fun e => e.counts tenant meter p).foldr
        (fun e n => e.quantity + n) 0 := by
    unfold sum history eventsOf
    rw [List.filter_map, List.foldr_map, List.filter_filter]
    refine congrArg (List.foldr _ 0) (List.filter_congr fun e _ => ?_)
    -- an event that counts toward a period of the tenant is one of its events
    show e.counts tenant meter p = (e.counts tenant meter p && decide (e.tenant = tenant))
    by_cases htenant : e.tenant = tenant
    · simp [htenant]
    · simp [Event.counts, htenant]
  rw [hsum, hsum, h]

/-- An event that is not a duplicate is added to the history of its tenant, and to no other. -/
theorem history_record (l : Ledger) (e : Event) (tenant : String) :
    (l.record e).2.history tenant =
      if (l.record e).1 = .inserted ∧ e.tenant = tenant then l.history tenant ++ [e.anonymous]
      else l.history tenant := by
  unfold history eventsOf
  cases houtcome : (l.record e).1 with
  | duplicate => simp [record_of_duplicate houtcome]
  | inserted =>
    rw [events_record_of_inserted houtcome, List.filter_append]
    by_cases htenant : e.tenant = tenant
    · simp [htenant]
    · simp [htenant]

end history

/-! ### Ledgers -/

/-- Two ledgers that hold the same for a tenant, and of the replay ids `own`. -/
structure Alike (tenant : String) (own : ReplayId → Prop) (l l' : Ledger) : Prop where
  entitlement : l'.entitlement? tenant = l.entitlement? tenant
  rows : ∀ k : CounterKey, k.tenant = tenant → l'.tally? k = l.tally? k
  history : l'.history tenant = l.history tenant
  replays : ∀ r, own r → (r ∈ l'.replays ↔ r ∈ l.replays)

namespace Alike

variable {tenant : String} {own : ReplayId → Prop} {l l' l'' : Ledger}

theorem refl (l : Ledger) : l.Alike tenant own l :=
  ⟨rfl, fun _ _ => rfl, rfl, fun _ _ => Iff.rfl⟩

theorem symm (h : l.Alike tenant own l') : l'.Alike tenant own l :=
  ⟨h.entitlement.symm, fun k hk => (h.rows k hk).symm, h.history.symm,
    fun r hr => (h.replays r hr).symm⟩

theorem trans (h : l.Alike tenant own l') (h' : l'.Alike tenant own l'') :
    l.Alike tenant own l'' :=
  ⟨h'.entitlement.trans h.entitlement, fun k hk => (h'.rows k hk).trans (h.rows k hk),
    h'.history.trans h.history, fun r hr => (h'.replays r hr).trans (h.replays r hr)⟩

theorem used (h : l.Alike tenant own l') {k : CounterKey} (hk : k.tenant = tenant) :
    l'.used k = l.used k := by
  unfold Ledger.used
  rw [h.rows k hk]

theorem sum (h : l.Alike tenant own l') (meter : String) (p : Period) :
    l'.sum tenant meter p = l.sum tenant meter p :=
  sum_eq_of_history h.history meter p

/-! ### Writes to both -/

theorem putEntitlement (h : l.Alike tenant own l') (e : Entitlement) :
    (l.putEntitlement e).Alike tenant own (l'.putEntitlement e) := by
  refine ⟨?_, h.rows, h.history, h.replays⟩
  rw [entitlement?_putEntitlement, entitlement?_putEntitlement, h.entitlement]

theorem setPeriod (h : l.Alike tenant own l') (p : Period) :
    (l.setPeriod tenant p).Alike tenant own (l'.setPeriod tenant p) := by
  refine ⟨?_, ?_, ?_, ?_⟩
  · rw [entitlement?_setPeriod, entitlement?_setPeriod, h.entitlement]
  · intro k hk
    rw [tally?_setPeriod, tally?_setPeriod, h.rows k hk]
  · rw [history_of_events (events_setPeriod ..), history_of_events (events_setPeriod ..), h.history]
  · intro r hr
    rw [replays_setPeriod, replays_setPeriod, h.replays r hr]

theorem ensureCounter (h : l.Alike tenant own l') (meter : String) (p : Period) :
    (l.ensureCounter tenant meter p).Alike tenant own (l'.ensureCounter tenant meter p) := by
  refine ⟨h.entitlement, ?_, h.history, h.replays⟩
  intro k hk
  rw [tally?_ensureCounter, tally?_ensureCounter, h.rows k hk]

theorem setUsed (h : l.Alike tenant own l') {k : CounterKey} (hk : k.tenant = tenant) (n : Int) :
    (l.setUsed k n).Alike tenant own (l'.setUsed k n) := by
  refine ⟨?_, ?_, ?_, ?_⟩
  · rw [entitlement?_setUsed, entitlement?_setUsed, h.entitlement]
  · intro other hother
    rw [tally?_setUsed, tally?_setUsed, h.rows k hk, h.rows other hother]
  · rw [history_of_events (events_setUsed ..), history_of_events (events_setUsed ..), h.history]
  · intro r hr
    rw [replays_setUsed, replays_setUsed, h.replays r hr]

theorem release (h : l.Alike tenant own l') {k : CounterKey} (hk : k.tenant = tenant) (q : Int) :
    (l.release k q).2.Alike tenant own (l'.release k q).2 := by
  have hrow := h.rows k hk
  cases hl : l.tally? k with
  | none => rwa [release_of_absent hl, release_of_absent (hrow.trans hl)]
  | some t =>
    rw [release_of_tally? hl, release_of_tally? (hrow.trans hl)]
    exact h.setUsed hk _

/-- One event under two ids is recorded in both, or is a duplicate in both. -/
theorem record (h : l.Alike tenant own l') {e e' : Event} (hsame : e'.anonymous = e.anonymous)
    (hown : ∀ r, e.replay = some r → own r) :
    (l'.record e').1 = (l.record e).1 ∧
      (l.record e).2.Alike tenant own (l'.record e').2 := by
  obtain ⟨-, htenant, -, -, -, hreplay, -⟩ := Event.mk.inj hsame
  have houtcome : (l'.record e').1 = (l.record e).1 := by
    cases hr : e.replay with
    | none => simp [Ledger.record, hreplay, hr]
    | some r =>
      rw [record_outcome hr, record_outcome (hreplay.trans hr)]
      simp only [h.replays r (hown r hr)]
  refine ⟨houtcome, ?_, ?_, ?_, ?_⟩
  · rw [entitlement?_record, entitlement?_record, h.entitlement]
  · intro k hk
    rw [tally?_record, tally?_record, h.rows k hk]
  · rw [history_record, history_record, houtcome, htenant, hsame, h.history]
  · intro r hr
    rw [mem_replays_record_iff, mem_replays_record_iff, hreplay, h.replays r hr]

end Alike

/-! ### Writes of another tenant -/

section Others

variable {tenant other : String} {own : ReplayId → Prop} (l : Ledger)

theorem alike_putEntitlement {e : Entitlement} (hne : e.tenant ≠ tenant) :
    l.Alike tenant own (l.putEntitlement e) := by
  refine ⟨?_, fun _ _ => rfl, rfl, fun _ _ => Iff.rfl⟩
  rw [entitlement?_putEntitlement, if_neg hne]

theorem alike_setPeriod (hne : other ≠ tenant) (p : Period) :
    l.Alike tenant own (l.setPeriod other p) := by
  refine ⟨?_, fun k _ => tally?_setPeriod l other p k, history_of_events (events_setPeriod ..) _, ?_⟩
  · rw [entitlement?_setPeriod, if_neg hne]
  · intro r _
    rw [replays_setPeriod]

theorem alike_ensureCounter (hne : other ≠ tenant) (meter : String) (p : Period) :
    l.Alike tenant own (l.ensureCounter other meter p) := by
  refine ⟨rfl, ?_, rfl, fun _ _ => Iff.rfl⟩
  rintro k rfl
  rw [tally?_ensureCounter, if_neg]
  rintro rfl
  exact hne rfl

theorem alike_setUsed {k : CounterKey} (hne : k.tenant ≠ tenant) (n : Int) :
    l.Alike tenant own (l.setUsed k n) := by
  refine ⟨entitlement?_setUsed l k n tenant, ?_, history_of_events (events_setUsed ..) _, ?_⟩
  · rintro k' rfl
    rw [tally?_setUsed, if_neg]
    rintro rfl
    exact hne rfl
  · intro r _
    rw [replays_setUsed]

theorem alike_release {k : CounterKey} (hne : k.tenant ≠ tenant) (q : Int) :
    l.Alike tenant own (l.release k q).2 := by
  cases hl : l.tally? k with
  | none => rw [release_of_absent hl]; exact .refl l
  | some t => rw [release_of_tally? hl]; exact l.alike_setUsed hne _

theorem alike_record {e : Event} (hne : e.tenant ≠ tenant)
    (hforeign : ∀ r, e.replay = some r → ¬ own r) : l.Alike tenant own (l.record e).2 := by
  refine ⟨entitlement?_record l e tenant, fun k _ => tally?_record l e k, ?_, ?_⟩
  · rw [history_record, if_neg fun h => hne h.2]
  · intro r hr
    rw [mem_replays_record_iff]
    exact or_iff_left fun hreplay => hforeign r hreplay hr

end Others

end Ledger

/-! ### Rate limiters -/

/-- A call finds no more of the limiter than the tenant's bucket. -/
theorem Limiter.allow_of_bucket? {l l' : Limiter Float} {tenant : String}
    (h : l'.bucket? tenant = l.bucket? tenant) (rate : Int) (now : Instant) :
    (l'.allow tenant rate now).1 = (l.allow tenant rate now).1 ∧
      (l'.allow tenant rate now).2.bucket? tenant = (l.allow tenant rate now).2.bucket? tenant := by
  unfold allow
  split
  · exact ⟨rfl, h⟩
  · rw [h]
    split <;> simp [bucket?]

/-- Two limiters of one kind, with the same bucket for a tenant. -/
inductive Throttle.Alike (tenant : String) : Throttle → Throttle → Prop
  | unlimited : Alike tenant .unlimited .unlimited
  | buckets {l l' : Limiter Float} (h : l'.bucket? tenant = l.bucket? tenant) :
      Alike tenant (.buckets l) (.buckets l')

namespace Throttle

variable {tenant other : String} {t t' t'' : Throttle}

theorem Alike.refl (t : Throttle) : t.Alike tenant t := by
  cases t with
  | unlimited => exact .unlimited
  | buckets l => exact .buckets rfl

theorem Alike.symm (h : t.Alike tenant t') : t'.Alike tenant t := by
  cases h with
  | unlimited => exact .unlimited
  | buckets h => exact .buckets h.symm

theorem Alike.trans (h : t.Alike tenant t') (h' : t'.Alike tenant t'') : t.Alike tenant t'' := by
  cases h with
  | unlimited => exact h'
  | buckets h =>
    cases h' with
    | buckets h' => exact .buckets (h'.trans h)

theorem Alike.bucket? (h : t.Alike tenant t') : t'.bucket? tenant = t.bucket? tenant := by
  cases h with
  | unlimited => rfl
  | buckets h => exact h

/-- A call is answered the same by both. -/
theorem Alike.allow (h : t.Alike tenant t') (rate : Int) (now : Instant) :
    (t'.allow tenant rate now).1 = (t.allow tenant rate now).1 ∧
      (t.allow tenant rate now).2.Alike tenant (t'.allow tenant rate now).2 := by
  cases h with
  | unlimited => exact ⟨rfl, .unlimited⟩
  | buckets h =>
    obtain ⟨hdecision, hbucket⟩ := Limiter.allow_of_bucket? h rate now
    exact ⟨hdecision, .buckets hbucket⟩

/-- A call of another tenant leaves the bucket alone. -/
theorem alike_allow (t : Throttle) (hne : other ≠ tenant) (rate : Int) (now : Instant) :
    t.Alike tenant (t.allow other rate now).2 := by
  cases t with
  | unlimited => exact .unlimited
  | buckets l => exact .buckets (l.bucket?_allow_of_ne rate now hne)

end Throttle

/-! ### Observers -/

/-- Two observers that are set up alike and have observed the same of a tenant. -/
structure Observer.Alike (tenant : String) (o o' : Observer) : Prop where
  config : o'.config = o.config
  denyCount : o'.denyCount tenant = o.denyCount tenant
  hasWarned : o'.hasWarned tenant = o.hasWarned tenant

namespace Observer

variable {tenant other : String} {o o' o'' : Observer}

theorem Alike.refl (o : Observer) : o.Alike tenant o := ⟨rfl, rfl, rfl⟩

theorem Alike.symm (h : o.Alike tenant o') : o'.Alike tenant o :=
  ⟨h.config.symm, h.denyCount.symm, h.hasWarned.symm⟩

theorem Alike.trans (h : o.Alike tenant o') (h' : o'.Alike tenant o'') : o.Alike tenant o'' :=
  ⟨h'.config.trans h.config, h'.denyCount.trans h.denyCount, h'.hasWarned.trans h.hasWarned⟩

theorem Alike.recordDeny (h : o.Alike tenant o') (reason : DenyReason) :
    (o.recordDeny tenant reason).2.Alike tenant (o'.recordDeny tenant reason).2 := by
  refine ⟨?_, ?_, ?_⟩
  · rw [config_recordDeny, config_recordDeny, h.config]
  · rw [denyCount_recordDeny, denyCount_recordDeny, h.denyCount]
  · rw [hasWarned_recordDeny, hasWarned_recordDeny, h.hasWarned]

theorem Alike.recordAllow (h : o.Alike tenant o') (used limit : Int) :
    (o.recordAllow tenant used limit).2.Alike tenant (o'.recordAllow tenant used limit).2 := by
  refine ⟨?_, ?_, ?_⟩
  · rw [config_recordAllow, config_recordAllow, h.config]
  · rw [denyCount_recordAllow, denyCount_recordAllow, h.denyCount]
  · rw [hasWarned_recordAllow, hasWarned_recordAllow, h.hasWarned, h.config]

theorem Alike.reset (h : o.Alike tenant o') :
    (o.reset tenant).Alike tenant (o'.reset tenant) := by
  refine ⟨h.config, ?_, ?_⟩
  · rw [denyCount_reset, denyCount_reset, h.denyCount]
  · rw [hasWarned_reset, hasWarned_reset, h.hasWarned]

theorem alike_recordDeny (o : Observer) (hne : other ≠ tenant) (reason : DenyReason) :
    o.Alike tenant (o.recordDeny other reason).2 := by
  refine ⟨config_recordDeny o other reason, ?_, hasWarned_recordDeny o other tenant reason⟩
  rw [denyCount_recordDeny, if_neg fun h => hne h.1]

theorem alike_recordAllow (o : Observer) (hne : other ≠ tenant) (used limit : Int) :
    o.Alike tenant (o.recordAllow other used limit).2 := by
  refine ⟨config_recordAllow .., denyCount_recordAllow .., ?_⟩
  rw [hasWarned_recordAllow, decide_eq_false hne, Bool.false_and, Bool.or_false]

theorem alike_reset (o : Observer) (hne : other ≠ tenant) : o.Alike tenant (o.reset other) := by
  refine ⟨rfl, ?_, ?_⟩
  · rw [denyCount_reset, if_neg hne]
  · rw [hasWarned_reset, decide_eq_true hne, Bool.true_and]

end Observer

/-! ### Worlds -/

/-- Two worlds that show the same time and hold the same for a tenant. -/
structure World.Alike (tenant : String) (own : ReplayId → Prop) (w w' : World) : Prop where
  now : w'.now = w.now
  ledger : w.ledger.Alike tenant own w'.ledger
  throttle : w.throttle.Alike tenant w'.throttle
  observer : w.observer.Alike tenant w'.observer

namespace World

variable {tenant other : String} {own : ReplayId → Prop} {w w' w'' : World}

theorem Alike.refl (w : World) : w.Alike tenant own w := ⟨rfl, .refl _, .refl _, .refl _⟩

theorem Alike.symm (h : w.Alike tenant own w') : w'.Alike tenant own w :=
  ⟨h.now.symm, h.ledger.symm, h.throttle.symm, h.observer.symm⟩

theorem Alike.trans (h : w.Alike tenant own w') (h' : w'.Alike tenant own w'') :
    w.Alike tenant own w'' :=
  ⟨h'.now.trans h.now, h.ledger.trans h'.ledger, h.throttle.trans h'.throttle,
    h.observer.trans h'.observer⟩

theorem Alike.withLedger (h : w.Alike tenant own w') {l l' : Ledger} (hl : l.Alike tenant own l') :
    (w.withLedger l).Alike tenant own (w'.withLedger l') :=
  ⟨h.now, hl, h.throttle, h.observer⟩

theorem Alike.deny (h : w.Alike tenant own w') (reason : DenyReason) :
    (w.deny tenant reason).Alike tenant own (w'.deny tenant reason) :=
  ⟨h.now, h.ledger, h.throttle, h.observer.recordDeny reason⟩

theorem Alike.setClock (h : w.Alike tenant own w') (now : Instant) :
    (w.setClock now).Alike tenant own (w'.setClock now) :=
  ⟨rfl, h.ledger, h.throttle, h.observer⟩

theorem alike_withLedger (w : World) {l : Ledger} (hl : w.ledger.Alike tenant own l) :
    w.Alike tenant own (w.withLedger l) :=
  ⟨rfl, hl, .refl _, .refl _⟩

theorem alike_deny (w : World) (hne : other ≠ tenant) (reason : DenyReason) :
    w.Alike tenant own (w.deny other reason) :=
  ⟨rfl, .refl _, .refl _, w.observer.alike_recordDeny hne reason⟩

end World

end Turnstile
