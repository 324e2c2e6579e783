/-
Calls that fail.

Before a call reaches the ledger something else may refuse it: a planned outage, or a
database that cannot be reached.  A refused call has no effect.  `Backend` is what
stands in front of the ledger, and `Backend.refuse` asks it about the next call.
-/
import Turnstile.Ledger.Call

namespace Turnstile

/-- The calls of a ledger and its scopes, by name. -/
inductive Method
  | begin
  | getEntitlement
  | upsertEntitlement
  | updatePeriod
  | ensureCounter
  | getUsed
  | setUsed
  | listCounters
  | sum
  | listExpired
  | scopeGetEntitlement
  | scopeUpsertEntitlement
  | scopeUpdatePeriod
  | scopeEnsureCounter
  | scopeReserve
  | scopeRelease
  | scopeRecord
  | scopeCommit
deriving DecidableEq, Repr

namespace Method

/-- The name of a call in reports. -/
def text : Method → String
  | begin => "begin"
  | getEntitlement => "get_entitlement"
  | upsertEntitlement => "upsert_entitlement"
  | updatePeriod => "update_usage_period"
  | ensureCounter => "ensure_usage_counter"
  | getUsed => "get_usage_counter_used"
  | setUsed => "set_usage_counter_used"
  | listCounters => "list_usage_counters"
  | sum => "sum_usage_events"
  | listExpired => "list_expired_entitlements"
  | scopeGetEntitlement => "scope.get_entitlement"
  | scopeUpsertEntitlement => "scope.upsert_entitlement"
  | scopeUpdatePeriod => "scope.update_usage_period"
  | scopeEnsureCounter => "scope.ensure_usage_counter"
  | scopeReserve => "scope.reserve_units"
  | scopeRelease => "scope.release_units"
  | scopeRecord => "scope.record_usage_event"
  | scopeCommit => "scope.commit"

/-- What a database says it was doing when a call fails. -/
def context : Method → String
  | begin => "begin"
  | getEntitlement | scopeGetEntitlement => "get entitlement"
  | upsertEntitlement | scopeUpsertEntitlement => "upsert entitlement"
  | updatePeriod | scopeUpdatePeriod => "update usage period"
  | ensureCounter | scopeEnsureCounter => "ensure usage counter"
  | getUsed => "get usage counter"
  | setUsed => "set usage counter"
  | listCounters => "list usage counters"
  | sum => "sum usage events"
  | listExpired => "list expired entitlements"
  | scopeReserve => "reserve units"
  | scopeRelease => "release units"
  | scopeRecord => "record usage event"
  | scopeCommit => "commit"

end Method

/-- A call as far as an outage can tell it from others: its name, and the tenant it is for, empty
where it is for none. -/
structure Access where
  method : Method
  tenant : String
deriving DecidableEq, Repr

/-- The access of a store-wide call. -/
def Ledger.Call.access : Ledger.Call → Access
  | .getEntitlement tenant => ⟨.getEntitlement, tenant⟩
  | .upsertEntitlement e => ⟨.upsertEntitlement, e.tenant⟩
  | .updatePeriod tenant _ => ⟨.updatePeriod, tenant⟩
  | .ensureCounter tenant _ _ => ⟨.ensureCounter, tenant⟩
  | .getUsed key => ⟨.getUsed, key.tenant⟩
  | .setUsed key _ => ⟨.setUsed, key.tenant⟩
  | .listCounters => ⟨.listCounters, ""⟩
  | .sum tenant _ _ => ⟨.sum, tenant⟩
  | .listExpired _ => ⟨.listExpired, ""⟩

/-- The name of a call on a scope. -/
def Scope.Call.method : Scope.Call → Method
  | .getEntitlement _ => .scopeGetEntitlement
  | .upsertEntitlement _ => .scopeUpsertEntitlement
  | .updatePeriod _ _ => .scopeUpdatePeriod
  | .ensureCounter _ _ _ => .scopeEnsureCounter
  | .reserve _ _ _ => .scopeReserve
  | .release _ _ => .scopeRelease
  | .record _ => .scopeRecord

/-- A planned failure of some calls. -/
structure Outage where
  method : Method
  /-- Only calls for this tenant, or all of them. -/
  tenant : Option String
  /-- How many calls are still to fail, or all of them. -/
  left : Option Nat
deriving DecidableEq, Repr

namespace Outage

/-- Does the outage strike the call? -/
def strikes (o : Outage) (a : Access) : Bool :=
  o.method = a.method && o.tenant.all (· = a.tenant) && o.left != some 0

/-- The first outage that strikes a call is used up by one. -/
def spend (a : Access) : List Outage → Option (List Outage)
  | [] => none
  | o :: rest =>
    if o.strikes a then some ({ o with left := o.left.map (· - 1) } :: rest)
    else (spend a rest).map (o :: ·)

end Outage

/-- What stands in front of the ledger. -/
inductive Backend
  /-- The ledger is at hand; planned outages strike some calls. -/
  | memory (outages : List Outage)
  /-- A database that no call gets through to, for the cause given. -/
  | unreachable (cause : String)

namespace Backend

/-- A ledger at hand without outages. -/
def reliable : Backend := .memory []

/-- Is the call refused, and what stands in front of the ledger after it was asked?  A database
finds a missing tenant before it tries to connect. -/
def refuse (b : Backend) (a : Access) : Option LedgerError × Backend :=
  match b with
  | memory outages =>
    match Outage.spend a outages with
    | some outages => (some (.storage ("injected " ++ a.method.text)), memory outages)
    | none => (none, memory outages)
  | unreachable cause =>
    if a.method = .begin && Text.isBlankText a.tenant then (some .missingTenant, b)
    else (some (.storage (a.method.context ++ ": " ++ cause)), b)

end Backend

end Turnstile
