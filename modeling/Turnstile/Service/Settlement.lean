/-
Settlement of a reservation.

When an admitted call is done its event is recorded, under its replay id if it has one,
and units reserved for a call that failed are given back.  A replay id that has been
recorded makes the whole settlement a no-op, so a delivery that is repeated neither
counts nor gives back twice.
-/
import Turnstile.Service.Procedure

namespace Turnstile

/-- How a settlement ends. -/
abbrev Settled := Outcome ServiceError RecordOutcome

/-- What is reported about a call that is done. -/
structure Report where
  reservation : Reservation
  tool : String
  replay : ReplayId
  audit : Option String
  status : Execution
deriving DecidableEq, Repr

/-- The event of a report, with the id and at the time given. -/
def Report.event (r : Report) (id : EventId) (now : Instant) : Event :=
  (({ id, tenant := r.reservation.tenant, meter := r.reservation.meter
      quantity := r.reservation.quantity, tool := r.tool, replay := none, audit := none
      status := r.status, occurredAt := now : Event }).withReplay r.replay).withAudit r.audit

/-- The counter that a report's reservation is on. -/
def Report.counter (r : Report) : CounterKey :=
  ⟨r.reservation.tenant, r.reservation.meter, r.reservation.period.start⟩

/-- A report on its way to being settled. -/
inductive Settlement
  /-- Nothing has been done. -/
  | arriving (report : Report)
  /-- A scope is open; the event has to be recorded. -/
  | recording (scope : Scope) (report : Report)
  /-- The call failed; its units have to be given back. -/
  | releasing (scope : Scope) (report : Report)
  /-- The scope has to commit. -/
  | committing (scope : Scope) (report : Report)
  /-- Nothing is to be kept; the scope has to be dropped. -/
  | closing (scope : Scope) (answer : Settled)
  /-- Nothing is left to do. -/
  | finished (answer : Settled)

namespace Settlement

/-- The answer, once there is one. -/
def result? : Settlement → Option Settled
  | finished answer => some answer
  | _ => none

/-- The ledger call that the next step makes. -/
def access? : Settlement → Option Access
  | arriving report => some ⟨.begin, report.reservation.tenant⟩
  | recording scope _ => some ⟨.scopeRecord, scope.tenant⟩
  | releasing scope _ => some ⟨.scopeRelease, scope.tenant⟩
  | committing scope _ => some ⟨.scopeCommit, scope.tenant⟩
  | closing _ _ => none
  | finished _ => none

/-- Open a scope for the reservation's tenant. -/
def arrive (report : Report) (w : World) : Settlement × World :=
  match Scope.begin? report.reservation.tenant with
  | .ok scope => (recording scope report, w)
  | .error e => (finished (.error (.ledger e)), w)

/-- Record the event under an id of its own. -/
def record (scope : Scope) (report : Report) (w : World) : Settlement × World :=
  match scope.record w.ledger (report.event (.drawn w.drawn) w.now) with
  | (outcome, scope, ledger) =>
    let w := { w with ledger, drawn := w.drawn + 1 }
    match outcome with
    | .duplicate => (closing scope (.ok .duplicate), w)
    | .inserted =>
      (match report.status with
        | .success => committing scope report
        | .failed => releasing scope report, w)

/-- Give the units back. -/
def release (scope : Scope) (report : Report) (w : World) : Settlement × World :=
  let (scope, ledger) := scope.release w.ledger report.counter report.reservation.quantity
  (committing scope report, w.withLedger ledger)

/-- Commit, and count the call among those that failed if it did. -/
def commit (scope : Scope) (report : Report) (w : World) : Settlement × World :=
  (finished (.ok .inserted),
    match report.status with
    | .success => w
    | .failed => w.deny scope.tenant .executionFailed)

/-- The next step. -/
def step (refusal : Option LedgerError) (s : Settlement) (w : World) : Settlement × World :=
  match s, refusal with
  | arriving _, some e => (finished (.error (.ledger e)), w)
  | arriving report, none => arrive report w
  | recording scope _, some e => (closing scope (.error (.ledger e)), w)
  | recording scope report, none => record scope report w
  | releasing scope _, some e => (closing scope (.error (.ledger e)), w)
  | releasing scope report, none => release scope report w
  | committing scope _, some e => (closing scope (.error (.ledger e)), w)
  | committing scope report, none => commit scope report w
  | closing scope answer, _ => (finished answer, w.withLedger (scope.drop w.ledger))
  | finished answer, _ => (finished answer, w)

/-- Steps that are left at the most. -/
def rank : Settlement → Nat
  | arriving _ => 5
  | recording _ _ => 4
  | releasing _ _ => 3
  | committing _ _ => 2
  | closing _ _ => 1
  | finished _ => 0

theorem rank_step_lt (refusal : Option LedgerError) (s : Settlement) (w : World)
    (h : s.result? = none) : (s.step refusal w).1.rank < s.rank := by
  cases s with
  | arriving =>
    cases refusal with
    | some => simp [step, rank]
    | none => simp only [step, arrive]; split <;> simp [rank]
  | recording =>
    cases refusal with
    | some => simp [step, rank]
    | none =>
      simp only [step, record]
      split
      · simp [rank]
      · dsimp only
        split <;> simp [rank]
  | releasing => cases refusal <;> simp [step, release, rank]
  | committing => cases refusal <;> simp [step, commit, rank]
  | closing => simp [step, rank]
  | finished => simp [result?] at h

/-- Settlement as a procedure. -/
def procedure : Procedure Settlement Settled where
  result?
  access?
  step
  rank s := (0, s.rank)
  rank_step refusal s w h := .right _ (rank_step_lt refusal s w h)

end Settlement

end Turnstile
