/-
Admission of a call.

Before a tool runs, its tenant's period is rolled forward if it has ended, the
subscription and the rate limit are checked, and the cost of the tool is reserved on
the counter of the period.  Everything happens in one scope of the tenant: a denial or
an error drops it, so that a roll made on the way is taken back, and only an admitted
call commits.

The states of `Admission` are the points between two steps.
-/
import Turnstile.Rollover
import Turnstile.Service.Procedure

namespace Turnstile

/-- How an admission ends. -/
abbrev Admitted := Outcome ServiceError Reservation

/-- A call on its way to being admitted. -/
inductive Admission
  /-- Nothing has been done; the caller's tenant and tool are known. -/
  | arriving (tenant tool : String)
  /-- A scope is open; `cost` is the price of the tool and `now` the time of arrival. -/
  | reading (scope : Scope) (cost : Int) (now : Instant)
  /-- The tenant's period has ended and has to be set to the next one. -/
  | rolling (scope : Scope) (cost : Int) (now : Instant) (e : Entitlement) (next : Period)
  /-- The period is the one at `now`; subscription and rate are to be checked. -/
  | screening (scope : Scope) (cost : Int) (now : Instant) (e : Entitlement) (rolled : Bool)
  /-- The call is welcome; its counter has to be there. -/
  | ensuring (scope : Scope) (cost : Int) (e : Entitlement) (rolled : Bool)
  /-- The cost has to be reserved. -/
  | reserving (scope : Scope) (cost : Int) (e : Entitlement) (rolled : Bool)
  /-- The cost is reserved; the scope has to commit. -/
  | committing (scope : Scope) (cost : Int) (e : Entitlement) (rolled : Bool) (usedAfter : Int)
  /-- The call has been turned away; the scope has to be dropped. -/
  | closing (scope : Scope) (answer : Admitted)
  /-- Nothing is left to do. -/
  | finished (answer : Admitted)

namespace Admission

/-- The answer, once there is one. -/
def result? : Admission → Option Admitted
  | finished answer => some answer
  | _ => none

/-- The ledger call that the next step makes. -/
def access? : Admission → Option Access
  | arriving tenant _ =>
    if Text.isBlankText tenant then none else some ⟨.begin, tenant⟩
  | reading scope _ _ => some ⟨.scopeGetEntitlement, scope.tenant⟩
  | rolling scope _ _ _ _ => some ⟨.scopeUpdatePeriod, scope.tenant⟩
  | screening _ _ _ _ _ => none
  | ensuring scope _ _ _ => some ⟨.scopeEnsureCounter, scope.tenant⟩
  | reserving scope _ _ _ => some ⟨.scopeReserve, scope.tenant⟩
  | committing scope _ _ _ _ => some ⟨.scopeCommit, scope.tenant⟩
  | closing _ _ => none
  | finished _ => none

/-- Turn a call away for a reason that the observer counts. -/
def turnAway (scope : Scope) (w : World) (reason : DenyReason) (e : ServiceError) :
    Admission × World :=
  (closing scope (.error e), w.deny scope.tenant reason)

/-- End a call because a ledger call failed. -/
def abort (scope : Scope) (w : World) (e : LedgerError) : Admission × World :=
  (closing scope (.error (.ledger e)), w)

/-- Arrive: the caller has to act for a tenant, and a scope is opened for it. -/
def arrive (svc : Service) (refusal : Option LedgerError) (tenant tool : String) (w : World) :
    Admission × World :=
  if Text.isBlankText tenant then
    (finished (.error (.subscriptionInactive DenyReason.missingTenant.text)),
      w.deny tenant .missingTenant)
  else match refusal with
    | some e => (finished (.error (.ledger e)), w)
    | none => (reading ⟨tenant, []⟩ (svc.costs.costOf tool) w.now, w)

/-- Read the tenant's entitlement, and find the period that counts. -/
def read (scope : Scope) (cost : Int) (now : Instant) (w : World) : Admission × World :=
  match scope.getEntitlement w.ledger with
  | none =>
    turnAway scope w .missingEntitlement
      (.subscriptionInactive DenyReason.missingEntitlement.text)
  | some e =>
    if e.isExpired now then
      match e.period.roll? now with
      | some next => (rolling scope cost now e next, w)
      | none => (closing scope .crashed, w)
    else (screening scope cost now e false, w)

/-- Set the tenant's period to the next one. -/
def roll (scope : Scope) (cost : Int) (now : Instant) (e : Entitlement) (next : Period)
    (w : World) : Admission × World :=
  let (scope, ledger) := scope.updatePeriod w.ledger scope.tenant next
  (screening scope cost now { e with period := next } true, w.withLedger ledger)

/-- Check the subscription, then the rate. -/
def screen (scope : Scope) (cost : Int) (now : Instant) (e : Entitlement) (rolled : Bool)
    (w : World) : Admission × World :=
  match e.checkAccess now with
  | .error denied =>
    turnAway scope w (.subscription denied.status) (.subscriptionInactive denied.reason)
  | .ok () =>
    let (decision, throttle) := w.throttle.allow scope.tenant e.limits.ratePerMinute w.now
    let w := { w with throttle }
    if decision.allowed then (ensuring scope cost e rolled, w)
    else turnAway scope w .rateLimited (.rateLimited decision.retryAfter)

/-- See to it that the counter of the period is there. -/
def ensure (svc : Service) (scope : Scope) (cost : Int) (e : Entitlement) (rolled : Bool)
    (w : World) : Admission × World :=
  let (scope, ledger) := scope.ensureCounter w.ledger scope.tenant svc.meter e.period
  (reserving scope cost e rolled, w.withLedger ledger)

/-- Reserve the cost. -/
def reserve (svc : Service) (scope : Scope) (cost : Int) (e : Entitlement) (rolled : Bool)
    (w : World) : Admission × World :=
  match scope.reserve w.ledger ⟨scope.tenant, svc.meter, e.period.start⟩ cost
      e.limits.monthlyUnits with
  | (.reserved usedAfter, scope, ledger) =>
    (committing scope cost e rolled usedAfter, w.withLedger ledger)
  | (.rejected, scope, ledger) =>
    turnAway scope (w.withLedger ledger) .quotaExceeded (.quotaExceeded e.limits.monthlyUnits)

/-- The reservation of an admitted call. -/
def reservation (svc : Service) (tenant : String) (cost : Int) (e : Entitlement)
    (usedAfter : Int) : Reservation where
  tenant
  meter := svc.meter
  period := e.period
  quantity := cost
  monthlyUnits := e.limits.monthlyUnits
  usedAfter
  status := e.status

/-- Commit.  A tenant whose period has rolled starts the new one with a clean record. -/
def commit (svc : Service) (scope : Scope) (cost : Int) (e : Entitlement) (rolled : Bool)
    (usedAfter : Int) (w : World) : Admission × World :=
  let observer := if rolled then w.observer.reset scope.tenant else w.observer
  let observer := (observer.recordAllow scope.tenant usedAfter e.limits.monthlyUnits).2
  (finished (.ok (reservation svc scope.tenant cost e usedAfter)), { w with observer })

/-- The next step. -/
def step (svc : Service) (refusal : Option LedgerError) (s : Admission) (w : World) :
    Admission × World :=
  match s with
  | arriving tenant tool => arrive svc refusal tenant tool w
  | reading scope cost now =>
    match refusal with
    | some e => abort scope w e
    | none => read scope cost now w
  | rolling scope cost now e next =>
    match refusal with
    | some err => abort scope w err
    | none => roll scope cost now e next w
  | screening scope cost now e rolled => screen scope cost now e rolled w
  | ensuring scope cost e rolled =>
    match refusal with
    | some err => abort scope w err
    | none => ensure svc scope cost e rolled w
  | reserving scope cost e rolled =>
    match refusal with
    | some err => abort scope w err
    | none => reserve svc scope cost e rolled w
  | committing scope cost e rolled usedAfter =>
    match refusal with
    | some err => abort scope w err
    | none => commit svc scope cost e rolled usedAfter w
  | closing scope answer => (finished answer, w.withLedger (scope.drop w.ledger))
  | finished answer => (finished answer, w)

/-- Steps that are left at the most. -/
def rank : Admission → Nat
  | arriving _ _ => 8
  | reading _ _ _ => 7
  | rolling _ _ _ _ _ => 6
  | screening _ _ _ _ _ => 5
  | ensuring _ _ _ _ => 4
  | reserving _ _ _ _ => 3
  | committing _ _ _ _ _ => 2
  | closing _ _ => 1
  | finished _ => 0

theorem rank_step_lt (svc : Service) (refusal : Option LedgerError) (s : Admission) (w : World)
    (h : s.result? = none) : (s.step svc refusal w).1.rank < s.rank := by
  cases s with
  | arriving =>
    simp only [step, arrive]
    split
    · simp [rank]
    · split <;> simp [rank]
  | reading =>
    simp only [step]
    split
    · simp [abort, rank]
    · unfold read
      split
      · simp [turnAway, rank]
      · split
        · split <;> simp [rank]
        · simp [rank]
  | rolling =>
    simp only [step]
    split <;> simp [abort, roll, rank]
  | screening =>
    simp only [step, screen]
    split
    · simp [turnAway, rank]
    · split <;> simp [turnAway, rank]
  | ensuring =>
    simp only [step]
    split <;> simp [abort, ensure, rank]
  | reserving =>
    simp only [step]
    split
    · simp [abort, rank]
    · unfold reserve
      split <;> simp [turnAway, rank]
  | committing =>
    simp only [step]
    split <;> simp [abort, commit, rank]
  | closing => simp [step, rank]
  | finished => simp [result?] at h

/-- Admission as a procedure. -/
def procedure (svc : Service) : Procedure Admission Admitted where
  result?
  access?
  step := step svc
  rank s := (0, s.rank)
  rank_step refusal s w h := .right _ (rank_step_lt svc refusal s w h)

end Admission

end Turnstile
