/-
Synchronising a subscription.

Billing reports the status of a subscription, and perhaps a plan, limits and a period.
The parts that are reported replace what is stored, each by itself; the grace of a
tenant that is past due is computed anew.  A tenant that is not known yet needs a plan
and a period.
-/
import Turnstile.Service.Procedure

namespace Turnstile

/-- A change of a subscription. -/
structure SubscriptionUpdate where
  status : Status
  plan : Option String
  limits : Option Limits
  period : Option Period
deriving DecidableEq, Repr

namespace SubscriptionUpdate

/-- The entitlement to change: the one that is there, else a new one if the update has the
parts it needs. -/
def base? (u : SubscriptionUpdate) (tenant : String) (stored : Option Entitlement) :
    Option Entitlement :=
  match stored, u.plan, u.period with
  | some e, _, _ => some e
  | none, some plan, some period => some (.new tenant plan period)
  | none, _, _ => none

/-- The entitlement after the change. -/
def apply (u : SubscriptionUpdate) (graceDays : Int) (now : Instant) (e : Entitlement) :
    Entitlement :=
  let period := u.period.getD e.period
  { tenant := e.tenant
    plan := u.plan.getD e.plan
    status := u.status
    limits := u.limits.getD e.limits
    period
    graceUntil := Entitlement.graceFor u.status period.stop graceDays
    updatedAt := now }

end SubscriptionUpdate

/-- How a synchronisation ends. -/
abbrev Synced := Outcome ServiceError Entitlement

/-- An update on its way into the ledger. -/
inductive Sync
  /-- Nothing has been done. -/
  | arriving (tenant : String) (update : SubscriptionUpdate)
  /-- A scope is open; the stored entitlement has to be read. -/
  | reading (scope : Scope) (update : SubscriptionUpdate)
  /-- The changed entitlement has to be written. -/
  | writing (scope : Scope) (update : SubscriptionUpdate) (e : Entitlement)
  /-- The new period needs its counter. -/
  | ensuring (scope : Scope) (e : Entitlement)
  /-- The scope has to commit. -/
  | committing (scope : Scope) (e : Entitlement)
  /-- Nothing is to be kept; the scope has to be dropped. -/
  | closing (scope : Scope) (answer : Synced)
  /-- Nothing is left to do. -/
  | finished (answer : Synced)

namespace Sync

/-- The answer, once there is one. -/
def result? : Sync → Option Synced
  | finished answer => some answer
  | _ => none

/-- The ledger call that the next step makes. -/
def access? : Sync → Option Access
  | arriving tenant _ => some ⟨.begin, tenant⟩
  | reading scope _ => some ⟨.scopeGetEntitlement, scope.tenant⟩
  | writing scope _ _ => some ⟨.scopeUpsertEntitlement, scope.tenant⟩
  | ensuring scope _ => some ⟨.scopeEnsureCounter, scope.tenant⟩
  | committing scope _ => some ⟨.scopeCommit, scope.tenant⟩
  | closing _ _ => none
  | finished _ => none

/-- Open a scope for the tenant. -/
def arrive (tenant : String) (update : SubscriptionUpdate) (w : World) : Sync × World :=
  match Scope.begin? tenant with
  | .ok scope => (reading scope update, w)
  | .error e => (finished (.error (.ledger e)), w)

/-- Read the stored entitlement and change it. -/
def read (svc : Service) (scope : Scope) (update : SubscriptionUpdate) (w : World) :
    Sync × World :=
  match update.base? scope.tenant (scope.getEntitlement w.ledger) with
  | some e => (writing scope update (update.apply svc.graceDays w.now e), w)
  | none => (closing scope (.error (.ledger (.noEntitlement scope.tenant))), w)

/-- Write the changed entitlement. -/
def write (scope : Scope) (update : SubscriptionUpdate) (e : Entitlement) (w : World) :
    Sync × World :=
  let (scope, ledger) := scope.upsertEntitlement w.ledger e
  (if update.period.isSome then ensuring scope e else committing scope e, w.withLedger ledger)

/-- See to it that the new period has its counter. -/
def ensure (svc : Service) (scope : Scope) (e : Entitlement) (w : World) : Sync × World :=
  let (scope, ledger) := scope.ensureCounter w.ledger scope.tenant svc.meter e.period
  (committing scope e, w.withLedger ledger)

/-- The next step. -/
def step (svc : Service) (refusal : Option LedgerError) (s : Sync) (w : World) : Sync × World :=
  match s, refusal with
  | arriving _ _, some e => (finished (.error (.ledger e)), w)
  | arriving tenant update, none => arrive tenant update w
  | reading scope _, some e => (closing scope (.error (.ledger e)), w)
  | reading scope update, none => read svc scope update w
  | writing scope _ _, some e => (closing scope (.error (.ledger e)), w)
  | writing scope update e, none => write scope update e w
  | ensuring scope _, some e => (closing scope (.error (.ledger e)), w)
  | ensuring scope e, none => ensure svc scope e w
  | committing scope _, some e => (closing scope (.error (.ledger e)), w)
  | committing _ e, none => (finished (.ok e), w)
  | closing scope answer, _ => (finished answer, w.withLedger (scope.drop w.ledger))
  | finished answer, _ => (finished answer, w)

/-- Steps that are left at the most. -/
def rank : Sync → Nat
  | arriving _ _ => 6
  | reading _ _ => 5
  | writing _ _ _ => 4
  | ensuring _ _ => 3
  | committing _ _ => 2
  | closing _ _ => 1
  | finished _ => 0

theorem rank_step_lt (svc : Service) (refusal : Option LedgerError) (s : Sync) (w : World)
    (h : s.result? = none) : (s.step svc refusal w).1.rank < s.rank := by
  cases s with
  | arriving =>
    cases refusal with
    | some => simp [step, rank]
    | none => simp only [step, arrive]; split <;> simp [rank]
  | reading =>
    cases refusal with
    | some => simp [step, rank]
    | none => simp only [step, read]; split <;> simp [rank]
  | writing =>
    cases refusal with
    | some => simp [step, rank]
    | none => simp only [step, write]; split <;> simp [rank]
  | ensuring => cases refusal <;> simp [step, ensure, rank]
  | committing => cases refusal <;> simp [step, rank]
  | closing => simp [step, rank]
  | finished => simp [result?] at h

/-- Synchronisation as a procedure. -/
def procedure (svc : Service) : Procedure Sync Synced where
  result?
  access?
  step := step svc
  rank s := (0, s.rank)
  rank_step refusal s w h := .right _ (rank_step_lt svc refusal s w h)

end Sync

end Turnstile
