/-
The usage snapshot.

A look at a tenant's usage that changes nothing.  A period that has ended is reported as
the one that the next admission would roll to, with the usage that is already there.
-/
import Turnstile.Rollover
import Turnstile.Service.Procedure

namespace Turnstile

/-- A tenant's usage in the period that counts. -/
structure Snapshot where
  tenant : String
  plan : String
  status : Status
  period : Period
  used : Int
  monthlyUnits : Int
deriving DecidableEq, Repr

/-- Units left in the period. -/
def Snapshot.remaining (s : Snapshot) : Int := max (s.monthlyUnits - s.used) 0

/-- How a look ends. -/
abbrev Seen := Outcome ServiceError Snapshot

/-- A look on its way. -/
inductive Look
  /-- The entitlement has to be read. -/
  | reading (tenant : String)
  /-- The counter of the period has to be read. -/
  | counting (key : CounterKey) (e : Entitlement) (p : Period)
  /-- Nothing is left to do. -/
  | finished (answer : Seen)

namespace Look

/-- The answer, once there is one. -/
def result? : Look → Option Seen
  | finished answer => some answer
  | _ => none

/-- The ledger call that the next step makes. -/
def access? : Look → Option Access
  | reading tenant => some ⟨.getEntitlement, tenant⟩
  | counting key _ _ => some ⟨.getUsed, key.tenant⟩
  | finished _ => none

/-- Read the entitlement, and find the period that counts. -/
def read (svc : Service) (tenant : String) (w : World) : Look :=
  match w.ledger.entitlement? tenant with
  | none => finished (.error (.ledger (.noEntitlement tenant)))
  | some e =>
    match e.period.roll? w.now with
    | some p => counting ⟨tenant, svc.meter, p.start⟩ e p
    | none => finished .crashed

/-- The snapshot of a tenant that has used so many units of a period. -/
def snapshot (e : Entitlement) (p : Period) (used : Int) : Snapshot :=
  ⟨e.tenant, e.plan, e.status, p, used, e.limits.monthlyUnits⟩

/-- The next step.  A counter that is not there has not been used. -/
def step (svc : Service) (refusal : Option LedgerError) (s : Look) (w : World) : Look × World :=
  match s, refusal with
  | reading _, some e => (finished (.error (.ledger e)), w)
  | reading tenant, none => (read svc tenant w, w)
  | counting _ _ _, some e => (finished (.error (.ledger e)), w)
  | counting key e p, none =>
    (finished (.ok (snapshot e p (((w.ledger.tally? key).map (·.used)).getD 0))), w)
  | finished answer, _ => (finished answer, w)

/-- Steps that are left at the most. -/
def rank : Look → Nat
  | reading _ => 2
  | counting _ _ _ => 1
  | finished _ => 0

theorem rank_step_lt (svc : Service) (refusal : Option LedgerError) (s : Look) (w : World)
    (h : s.result? = none) : (s.step svc refusal w).1.rank < s.rank := by
  cases s with
  | reading =>
    cases refusal with
    | some => simp [step, rank]
    | none =>
      simp only [step, read]
      split
      · simp [rank]
      · split <;> simp [rank]
  | counting => cases refusal <;> simp [step, rank]
  | finished => simp [result?] at h

/-- A look as a procedure. -/
def procedure (svc : Service) : Procedure Look Seen where
  result?
  access?
  step := step svc
  rank s := (0, s.rank)
  rank_step refusal s w h := .right _ (rank_step_lt svc refusal s w h)

end Look

end Turnstile
