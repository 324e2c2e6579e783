/-
The ledger.

Four tables: entitlements by tenant, counters by tenant, meter and start of period,
the log of usage events in the order they were recorded, and the replay ids that have
been recorded.  Tables are sorted maps with at most one row a key, so two ledgers with
the same rows are equal.

Each operation is one indivisible step.  For every one that writes there is a lemma
that says what a look-up finds afterwards; nothing else needs to unfold it.
-/
import Std.Data.ExtTreeMap
import Std.Data.ExtTreeSet
import Turnstile.Usage.Record

namespace Turnstile

/-! ### Keys of counters -/

/-- What names a counter: no two counters share tenant, meter and start of period. -/
structure CounterKey where
  tenant : String
  meter : String
  start : Instant
deriving DecidableEq, Repr

namespace CounterKey

/-- By tenant, then meter, then start. -/
def order : CounterKey → CounterKey → Ordering :=
  compareLex (compareOn tenant) (compareLex (compareOn meter) (compareOn fun k => k.start.nanos))

instance : Ord CounterKey := ⟨order⟩

instance : Std.TransOrd CounterKey :=
  inferInstanceAs (Std.TransCmp (compareLex (compareOn tenant) _))

instance : Std.LawfulEqOrd CounterKey where
  eq_of_compare {a b} h := by
    change order a b = .eq at h
    simp only [order, compareLex, compareOn, Ordering.then_eq_eq,
      Std.LawfulEqCmp.compare_eq_iff_eq] at h
    obtain ⟨ht, hm, hs⟩ := h
    cases a; cases b
    simp_all [Instant.ext_iff']

end CounterKey

/-- A counter's row: the end of its period and the units used. -/
structure Tally where
  stop : Instant
  used : Int
deriving DecidableEq, Repr

/-- The counter of a row. -/
def Counter.ofRow (row : CounterKey × Tally) : Counter :=
  ⟨row.1.tenant, row.1.meter, ⟨row.1.start, row.2.stop⟩, row.2.used⟩

/-- The key of a counter. -/
def Counter.key (c : Counter) : CounterKey := ⟨c.tenant, c.meter, c.period.start⟩

/-! ### Errors -/

/-- Why a ledger call failed. -/
inductive LedgerError
  | notFound (what : String)
  /-- A scope was asked for another tenant than its own. -/
  | tenantMismatch (scope requested : String)
  | missingTenant
  | storage (message : String)
deriving DecidableEq, Repr

namespace LedgerError

/-- The words for it. -/
def message : LedgerError → String
  | notFound what => "Not found: " ++ what
  | tenantMismatch scope requested =>
    "Tenant scope violation: scope '" ++ scope ++ "' cannot access tenant '" ++ requested ++ "'"
  | missingTenant => "Missing tenant id"
  | storage message => "Storage error: " ++ message

/-- There is no entitlement for the tenant. -/
def noEntitlement (tenant : String) : LedgerError := .notFound ("entitlement " ++ tenant)

/-- There is no counter with the key. -/
def noCounter (k : CounterKey) : LedgerError :=
  .notFound ("usage counter " ++ k.tenant ++ "/" ++ k.meter ++ "@" ++ k.start.plainText)

end LedgerError

/-! ### The tables -/

/-- The state of a ledger. -/
structure Ledger where
  entitlements : Std.ExtTreeMap String Entitlement
  counters : Std.ExtTreeMap CounterKey Tally
  /-- Events in the order of recording. -/
  events : List Event
  /-- Replay ids that cannot be recorded again. -/
  replays : Std.ExtTreeSet String

namespace Ledger

/-- A ledger without rows. -/
def empty : Ledger := ⟨∅, ∅, [], ∅⟩

/-! ### Entitlements -/

/-- The tenant's entitlement. -/
def entitlement? (l : Ledger) (tenant : String) : Option Entitlement := l.entitlements[tenant]?

/-- Insert or replace a tenant's entitlement. -/
def putEntitlement (l : Ledger) (e : Entitlement) : Ledger :=
  { l with entitlements := l.entitlements.insert e.tenant e }

/-- Remove a tenant's entitlement. -/
def eraseEntitlement (l : Ledger) (tenant : String) : Ledger :=
  { l with entitlements := l.entitlements.erase tenant }

/-- Give a tenant's entitlement another period; without one there is nothing to do. -/
def setPeriod (l : Ledger) (tenant : String) (p : Period) : Ledger :=
  match l.entitlement? tenant with
  | some e => { l with entitlements := l.entitlements.insert tenant { e with period := p } }
  | none => l

/-- Entitlements whose period has ended before `now`, by tenant. -/
def expired (l : Ledger) (now : Instant) : List Entitlement :=
  (l.entitlements.toList.map (·.2)).filter (·.isExpired now)

/-! ### Counters -/

/-- The counter with a key. -/
def tally? (l : Ledger) (k : CounterKey) : Option Tally := l.counters[k]?

/-- Insert or replace a counter as it is. -/
def putCounter (l : Ledger) (c : Counter) : Ledger :=
  { l with counters := l.counters.insert c.key ⟨c.period.stop, c.used⟩ }

/-- See to it that there is a counter for a period: a new one starts at zero, one that is there
keeps its count and takes over the end. -/
def ensureCounter (l : Ledger) (tenant meter : String) (p : Period) : Ledger :=
  let k : CounterKey := ⟨tenant, meter, p.start⟩
  { l with counters := l.counters.insert k ⟨p.stop, ((l.tally? k).map (·.used)).getD 0⟩ }

/-- Set the count of a counter that is there. -/
def setUsed (l : Ledger) (k : CounterKey) (used : Int) : Ledger :=
  match l.tally? k with
  | some t => { l with counters := l.counters.insert k { t with used } }
  | none => l

/-- Is there room for a cost below a limit?  A negative cost may not take the count below the
least 64-bit number. -/
def Fits (used cost limit : Int) : Prop :=
  used + cost ≤ limit ∧ (0 ≤ cost ∨ Signed64.least ≤ used + cost)

instance (used cost limit : Int) : Decidable (Fits used cost limit) :=
  inferInstanceAs (Decidable (_ ∧ _))

/-- Add a cost to a counter that is there, if there is room for it. -/
def reserve (l : Ledger) (k : CounterKey) (cost limit : Int) : ReserveOutcome × Ledger :=
  match l.tally? k with
  | some t =>
    if Fits t.used cost limit then (.reserved (t.used + cost), l.setUsed k (t.used + cost))
    else (.rejected, l)
  | none => (.rejected, l)

/-- How much of a quantity can be taken off a count without going below zero. -/
def releasable (used quantity : Int) : Int := min (max quantity 0) (max used 0)

/-- Take a quantity off a counter, down to zero.  Gives the amount taken off. -/
def release (l : Ledger) (k : CounterKey) (quantity : Int) : Int × Ledger :=
  match l.tally? k with
  | some t =>
    let amount := releasable t.used quantity
    (amount, l.setUsed k (t.used - amount))
  | none => (0, l)

/-- All counters, by tenant, meter and start. -/
def counterRows (l : Ledger) : List Counter := l.counters.toList.map Counter.ofRow

/-! ### Events -/

/-- Append an event, unless its replay id has been recorded. -/
def record (l : Ledger) (e : Event) : RecordOutcome × Ledger :=
  match e.replay with
  | none => (.inserted, { l with events := l.events ++ [e] })
  | some r =>
    if l.replays.contains r then (.duplicate, l)
    else (.inserted, { l with events := l.events ++ [e], replays := l.replays.insert r })

/-- Take an event out of the log, and its replay id out of those recorded. -/
def unrecord (l : Ledger) (id : EventId) (replay : Option ReplayId) : Ledger where
  entitlements := l.entitlements
  counters := l.counters
  events := l.events.filter fun e => e.id ≠ id
  replays := match replay with
    | some r => l.replays.erase r
    | none => l.replays

/-- Units of the successful events of a tenant and meter in `[start, stop)`. -/
def sum (l : Ledger) (tenant meter : String) (p : Period) : Int :=
  (l.events.filter fun e => e.counts tenant meter p).foldr (fun e n => e.quantity + n) 0

/-- The events of a tenant, in the order of recording. -/
def eventsOf (l : Ledger) (tenant : String) : List Event :=
  l.events.filter fun e => e.tenant = tenant

/-! ### What a look-up finds after a write -/

@[simp] theorem entitlement?_putEntitlement (l : Ledger) (e : Entitlement) (tenant : String) :
    (l.putEntitlement e).entitlement? tenant =
      if e.tenant = tenant then some e else l.entitlement? tenant := by
  simp [putEntitlement, entitlement?, Std.ExtTreeMap.getElem?_insert]

@[simp] theorem entitlement?_setPeriod (l : Ledger) (tenant other : String) (p : Period) :
    (l.setPeriod tenant p).entitlement? other =
      if tenant = other then (l.entitlement? tenant).map ({ · with period := p })
      else l.entitlement? other := by
  unfold setPeriod
  cases h : l.entitlement? tenant with
  | none => by_cases ht : tenant = other <;> simp_all
  | some e => simp [entitlement?, Std.ExtTreeMap.getElem?_insert]

@[simp] theorem tally?_ensureCounter (l : Ledger) (tenant meter : String) (p : Period)
    (k : CounterKey) :
    (l.ensureCounter tenant meter p).tally? k =
      if ⟨tenant, meter, p.start⟩ = k then
        some ⟨p.stop, ((l.tally? k).map (·.used)).getD 0⟩
      else l.tally? k := by
  simp only [ensureCounter, tally?, Std.ExtTreeMap.getElem?_insert,
    Std.LawfulEqCmp.compare_eq_iff_eq]
  split
  · next h => rw [h]
  · rfl

@[simp] theorem tally?_setUsed (l : Ledger) (k other : CounterKey) (used : Int) :
    (l.setUsed k used).tally? other =
      if k = other then (l.tally? k).map ({ · with used }) else l.tally? other := by
  unfold setUsed
  cases h : l.tally? k with
  | none => by_cases ht : k = other <;> simp_all
  | some t => simp [tally?, Std.ExtTreeMap.getElem?_insert]

end Ledger

end Turnstile
