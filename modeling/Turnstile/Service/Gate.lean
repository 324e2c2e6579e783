/-
The gate: a service, the sweep beside it, and everything they share.

`Gate` offers whole calls, each run to its end with nothing in between, and the single
calls of the ledger and its scopes.  Every call to the ledger goes past what stands in
front of it.
-/
import Turnstile.Reconcile.Schedule
import Turnstile.Reconcile.Sweep
import Turnstile.Service.Admission
import Turnstile.Service.Settlement
import Turnstile.Service.Snapshot
import Turnstile.Service.Sync

namespace Turnstile

/-- A service with its surroundings. -/
structure Gate where
  service : Service
  sweeper : Sweeper
  backend : Backend
  world : World

namespace Gate

/-- Run a procedure to its end. -/
def run {σ α : Type} (g : Gate) (p : Procedure σ α) (s : σ) : α × Gate :=
  let (answer, backend, world) := p.run g.backend s g.world
  (answer, { g with backend, world })

/-! ### Calls of the service -/

/-- Admit a call of a tool for a tenant. -/
def authorize (g : Gate) (tenant tool : String) : Admitted × Gate :=
  g.run (Admission.procedure g.service) (.arriving tenant tool)

/-- Settle a reservation. -/
def settle (g : Gate) (report : Report) : Settled × Gate :=
  g.run Settlement.procedure (.arriving report)

/-- Apply a change of a tenant's subscription. -/
def sync (g : Gate) (tenant : String) (update : SubscriptionUpdate) : Synced × Gate :=
  g.run (Sync.procedure g.service) (.arriving tenant update)

/-- Look at a tenant's usage. -/
def look (g : Gate) (tenant : String) : Seen × Gate :=
  g.run (Look.procedure g.service) (.reading tenant)

/-- Sweep once. -/
def sweep (g : Gate) : Swept × Gate := g.run (Sweep.procedure g.sweeper) .listing

/-- Sweep so many times, or until a sweep ends without an answer.  Says how many sweeps were
begun, and whether the last of them ended with an answer. -/
def sweepTimes (g : Gate) : Nat → Nat × Bool × Gate
  | 0 => (0, true, g)
  | n + 1 =>
    match g.sweep with
    | (.crashed, g) => (1, false, g)
    | (_, g) =>
      let (count, alive, g) := g.sweepTimes n
      (count + 1, alive, g)

/-! ### Calls of the ledger -/

/-- Ask what stands in front of the ledger about a call. -/
def ask (g : Gate) (a : Access) : Option LedgerError × Gate :=
  let (refusal, backend) := g.backend.refuse a
  (refusal, { g with backend })

/-- Make a store-wide call. -/
def perform (g : Gate) (c : Ledger.Call) : Except LedgerError Ledger.Reply × Gate :=
  match g.ask c.access with
  | (some e, g) => (.error e, g)
  | (none, g) =>
    let (reply, ledger) := Ledger.perform c g.world.ledger
    (reply, { g with world := g.world.withLedger ledger })

/-- Open a scope for a tenant. -/
def beginScope (g : Gate) (tenant : String) : Except LedgerError Scope × Gate :=
  match g.ask ⟨.begin, tenant⟩ with
  | (some e, g) => (.error e, g)
  | (none, g) => (Scope.begin? tenant, g)

/-- Make a call on a scope. -/
def performIn (g : Gate) (s : Scope) (c : Scope.Call) :
    Except LedgerError Scope.Reply × Scope × Gate :=
  match g.ask ⟨c.method, c.tenant⟩ with
  | (some e, g) => (.error e, s, g)
  | (none, g) =>
    let (reply, s, ledger) := Scope.perform c s g.world.ledger
    (reply, s, { g with world := g.world.withLedger ledger })

/-- Drop a scope. -/
def dropScope (g : Gate) (s : Scope) : Gate :=
  { g with world := g.world.withLedger (s.drop g.world.ledger) }

/-- Commit a scope.  One that cannot commit is dropped. -/
def commitScope (g : Gate) (s : Scope) : Except LedgerError Unit × Gate :=
  match g.ask ⟨.scopeCommit, s.tenant⟩ with
  | (some e, g) => (.error e, g.dropScope s)
  | (none, g) => (.ok (), g.dropScope s.commit)

/-! ### Descriptions -/

/-- The name of a ledger. -/
def ledgerName (g : Gate) : String :=
  match g.backend with
  | .memory _ => "memory"
  | .unreachable _ => "postgres"

/-- The description of the service in diagnostics. -/
def describeService (g : Gate) : String :=
  "EntitlementService \x7b ledger: " ++ Text.quoted g.ledgerName ++ ", meter: " ++
    Text.quoted g.service.meter ++ ", costs: " ++ g.service.costs.describe ++
    ", past_due_grace_days: " ++ toString g.service.graceDays ++ ", .. \x7d"

/-- The description of the sweep in diagnostics. -/
def describeSweeper (g : Gate) : String :=
  "ReconcileService \x7b ledger: " ++ Text.quoted g.ledgerName ++ ", meter: " ++
    Text.quoted g.sweeper.meter ++ ", .. \x7d"

end Gate

end Turnstile
