/-
Tenant scopes.

Work on a request goes through a scope that is opened for one tenant and refuses every
other.  Writes take effect at once, for everyone; beside each the scope notes how to
take it back.  Committing forgets the notes, dropping the scope without a commit
follows them, the last one first.

Other scopes may have written in the meantime, so the notes say what to take back and
not what the ledger was: units are given back and not restored, and a period only goes
back if it is still the one that was set.
-/
import Turnstile.Ledger.Basic

namespace Turnstile

/-- How to take a write back. -/
inductive Undo
  /-- Put the entitlement back, or remove it if there was none. -/
  | entitlement (tenant : String) (previous : Option Entitlement)
  /-- Set the period back, if it still is the one applied. -/
  | period (tenant : String) (previous applied : Period)
  /-- Give reserved units back. -/
  | reserved (key : CounterKey) (cost : Int)
  /-- Take released units again. -/
  | released (key : CounterKey) (amount : Int)
  /-- Take an event out of the log. -/
  | event (id : EventId) (replay : Option ReplayId)
deriving DecidableEq, Repr

/-- Take one write back. -/
def Undo.apply (u : Undo) (l : Ledger) : Ledger :=
  match u with
  | entitlement _ (some e) => l.putEntitlement e
  | entitlement tenant none => l.eraseEntitlement tenant
  | period tenant previous applied =>
    match l.entitlement? tenant with
    | some e => if e.period = applied then l.setPeriod tenant previous else l
    | none => l
  | reserved key cost => (l.release key cost).2
  | released key amount =>
    match l.tally? key with
    | some t => l.setUsed key (t.used + amount)
    | none => l
  | event id replay => l.unrecord id replay

/-- A scope: its tenant, and how to take its writes back, the last one first. -/
structure Scope where
  tenant : String
  undo : List Undo
deriving Repr

namespace Scope

/-- Open a scope for a tenant, which has to have a name. -/
def begin? (tenant : String) : Except LedgerError Scope :=
  if Text.isBlankText tenant then .error .missingTenant else .ok ⟨tenant, []⟩

/-- Take back every write since the scope was opened. -/
def drop (s : Scope) (l : Ledger) : Ledger := s.undo.foldl (fun l u => u.apply l) l

/-- Keep the writes: nothing is left to take back. -/
def commit (s : Scope) : Scope := { s with undo := [] }

/-- The scope with one more write to take back. -/
def note (s : Scope) (u : Undo) : Scope := { s with undo := u :: s.undo }

/-! ### Calls on a scope -/

/-- A call on a scope. -/
inductive Call
  | getEntitlement (tenant : String)
  | upsertEntitlement (e : Entitlement)
  | updatePeriod (tenant : String) (p : Period)
  | ensureCounter (tenant meter : String) (p : Period)
  | reserve (key : CounterKey) (cost limit : Int)
  | release (key : CounterKey) (quantity : Int)
  | record (e : Event)

/-- The tenant a call names. -/
def Call.tenant : Call → String
  | .getEntitlement tenant => tenant
  | .upsertEntitlement e => e.tenant
  | .updatePeriod tenant _ => tenant
  | .ensureCounter tenant _ _ => tenant
  | .reserve key _ _ => key.tenant
  | .release key _ => key.tenant
  | .record e => e.tenant

/-- What a call answers. -/
inductive Reply
  | done
  | entitlement (e : Option Entitlement)
  | reserved (outcome : ReserveOutcome)
  | recorded (outcome : RecordOutcome)

/-! ### The calls one by one, for the scope's own tenant -/

/-- The tenant's entitlement. -/
def getEntitlement (s : Scope) (l : Ledger) : Option Entitlement := l.entitlement? s.tenant

/-- Insert or replace an entitlement. -/
def upsertEntitlement (s : Scope) (l : Ledger) (e : Entitlement) : Scope × Ledger :=
  (s.note (.entitlement e.tenant (l.entitlement? e.tenant)), l.putEntitlement e)

/-- Give the tenant's entitlement another period. -/
def updatePeriod (s : Scope) (l : Ledger) (tenant : String) (p : Period) : Scope × Ledger :=
  match l.entitlement? tenant with
  | some e => (s.note (.period tenant e.period p), l.setPeriod tenant p)
  | none => (s, l)

/-- See to it that there is a counter.  It stays when the scope is dropped: other scopes may
already count on it. -/
def ensureCounter (s : Scope) (l : Ledger) (tenant meter : String) (p : Period) :
    Scope × Ledger :=
  (s, l.ensureCounter tenant meter p)

/-- Add a cost to a counter if there is room below the limit. -/
def reserve (s : Scope) (l : Ledger) (key : CounterKey) (cost limit : Int) :
    ReserveOutcome × Scope × Ledger :=
  match l.reserve key cost limit with
  | (.reserved usedAfter, l) => (.reserved usedAfter, s.note (.reserved key cost), l)
  | (.rejected, l) => (.rejected, s, l)

/-- Take a quantity off a counter, down to zero. -/
def release (s : Scope) (l : Ledger) (key : CounterKey) (quantity : Int) : Scope × Ledger :=
  match l.release key quantity with
  | (amount, l) => (if 0 < amount then s.note (.released key amount) else s, l)

/-- Append an event, unless its replay id has been recorded. -/
def record (s : Scope) (l : Ledger) (e : Event) : RecordOutcome × Scope × Ledger :=
  match l.record e with
  | (.inserted, l) => (.inserted, s.note (.event e.id e.replay), l)
  | (.duplicate, l) => (.duplicate, s, l)

/-- Make a call.  One that names another tenant changes neither the scope nor the ledger. -/
def perform (c : Call) (s : Scope) (l : Ledger) : Except LedgerError Reply × Scope × Ledger :=
  if c.tenant ≠ s.tenant then (.error (.tenantMismatch s.tenant c.tenant), s, l)
  else
    match c with
    | .getEntitlement _ => (.ok (.entitlement (s.getEntitlement l)), s, l)
    | .upsertEntitlement e => (.ok .done, s.upsertEntitlement l e)
    | .updatePeriod tenant p => (.ok .done, s.updatePeriod l tenant p)
    | .ensureCounter tenant meter p => (.ok .done, s.ensureCounter l tenant meter p)
    | .reserve key cost limit =>
      let (outcome, s, l) := s.reserve l key cost limit
      (.ok (.reserved outcome), s, l)
    | .release key quantity => (.ok .done, s.release l key quantity)
    | .record e =>
      let (outcome, s, l) := s.record l e
      (.ok (.recorded outcome), s, l)

/-! ### Small facts -/

@[simp] theorem drop_nil (tenant : String) (l : Ledger) : drop ⟨tenant, []⟩ l = l := rfl

@[simp] theorem drop_commit (s : Scope) (l : Ledger) : s.commit.drop l = l := rfl

@[simp] theorem drop_note (s : Scope) (u : Undo) (l : Ledger) :
    (s.note u).drop l = s.drop (u.apply l) := rfl

theorem begin?_eq_ok_iff {tenant : String} {s : Scope} :
    begin? tenant = .ok s ↔ Text.isBlankText tenant = false ∧ s = ⟨tenant, []⟩ := by
  unfold begin?
  split
  · simp_all
  · simp_all only [Except.ok.injEq, Bool.not_eq_true, true_and]
    exact eq_comm

theorem perform_of_ne {c : Call} {s : Scope} (l : Ledger) (h : c.tenant ≠ s.tenant) :
    perform c s l = (.error (.tenantMismatch s.tenant c.tenant), s, l) :=
  if_pos h

end Scope

end Turnstile
