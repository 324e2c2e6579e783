/-
Procedures: calls of the service as sequences of single steps.

A call of the service makes several calls to the ledger, and between two of them other
calls may go on.  So each is a machine: a state that says what has been done and what
comes next, and a step that makes one call to the ledger.  A step is told beforehand
whether that call is refused.

`Procedure.run` lets a machine go to its end with nothing in between.  It ends because
every step lowers a rank, first the phase and within it the work that is left.
-/
import Turnstile.CostTable
import Turnstile.Ledger.Outage
import Turnstile.Limiter.Table
import Turnstile.Service.Error
import Turnstile.Telemetry.Observer

namespace Turnstile

/-- Everything that calls of the service share. -/
structure World where
  ledger : Ledger
  throttle : Throttle
  observer : Observer
  now : Instant
  /-- Ids drawn so far. -/
  drawn : Nat

namespace World

/-- The world with another ledger. -/
def withLedger (w : World) (ledger : Ledger) : World := { w with ledger }

/-- Record a denial. -/
def deny (w : World) (tenant : String) (reason : DenyReason) : World :=
  { w with observer := (w.observer.recordDeny tenant reason).2 }

/-- Set the clock. -/
def setClock (w : World) (now : Instant) : World := { w with now }

/-- Move the clock, if that stays inside the calendar. -/
def advance? (w : World) (d : Int) : Option World := (w.now.after? d).map w.setClock

end World

/-- How a service is set up. -/
structure Service where
  costs : CostTable
  /-- The meter that calls are charged to. -/
  meter : String
  /-- Days of grace for a tenant that is past due. -/
  graceDays : Int

/-- No prices, so that every tool costs one unit, the usual meter and a week of grace. -/
def Service.standard : Service := ⟨.uniform 0, defaultMeter, 7⟩

/-- A machine with states `σ` that ends with an answer in `α`. -/
structure Procedure (σ α : Type) where
  /-- The answer, in a state in which nothing is left to do. -/
  result? : σ → Option α
  /-- The ledger call that the next step makes. -/
  access? : σ → Option Access
  /-- The next step, when its ledger call is refused and when it is not. -/
  step : Option LedgerError → σ → World → σ × World
  rank : σ → Nat × Nat
  rank_step : ∀ refusal s w, result? s = none →
    Prod.Lex (· < ·) (· < ·) (rank (step refusal s w).1) (rank s)

namespace Procedure

variable {σ α : Type}

/-- Ask what stands in front of the ledger about the next step. -/
def ask (p : Procedure σ α) (b : Backend) (s : σ) : Option LedgerError × Backend :=
  match p.access? s with
  | some a => b.refuse a
  | none => (none, b)

/-- Make every step that is left, with nothing in between. -/
def run (p : Procedure σ α) (b : Backend) (s : σ) (w : World) : α × Backend × World :=
  match h : p.result? s with
  | some a => (a, b, w)
  | none =>
    let next := p.step (p.ask b s).1 s w
    have := p.rank_step (p.ask b s).1 s w h
    run p (p.ask b s).2 next.1 next.2
termination_by p.rank s
decreasing_by exact this

/-- A finished machine answers. -/
theorem run_of_result (p : Procedure σ α) {b : Backend} {s : σ} {w : World} {a : α}
    (h : p.result? s = some a) : p.run b s w = (a, b, w) := by
  rw [run]
  split <;> simp_all

/-- A machine that has not finished makes a step. -/
theorem run_of_step (p : Procedure σ α) {b : Backend} {s : σ} {w : World}
    (h : p.result? s = none) :
    p.run b s w = p.run (p.ask b s).2 (p.step (p.ask b s).1 s w).1 (p.step (p.ask b s).1 s w).2 := by
  rw [run]
  split <;> simp_all

end Procedure

end Turnstile
