/-
Usage: executions, events, counters and reservations.

A gated call reserves units before it runs and is recorded as an event when it is
done.  Events are the source of truth; a counter caches the units of the successful
events of one tenant, meter and period, plus what is reserved for calls that still
run.  A replay id names one call across deliveries, so that recording it twice has
no effect; a blank one names nothing.
-/
import Turnstile.Entitlement
import Turnstile.Usage.Uuid

namespace Turnstile

/-- The meter that tool calls are charged to. -/
def defaultMeter : String := "mcp_units"

/-! ### Executions -/

/-- How a gated call ended. -/
inductive Execution
  | success
  | failed
deriving DecidableEq, Repr

namespace Execution

/-- The text of an outcome. -/
def text : Execution → String
  | success => "success"
  | failed => "failed"

/-- Read a reported outcome: everything but `success` counts as a failure. -/
def normalize (raw : String) : Execution :=
  if Text.lowerAscii (Text.trim raw) = "success" then success else failed

end Execution

/-! ### Replay ids -/

/-- An id that names one gated call. -/
abbrev ReplayId := String

namespace ReplayId

/-- A blank id names nothing. -/
def isEmpty (r : ReplayId) : Bool := Text.isBlankText r

/-- A fresh id with a serial number. -/
def ofSerial (n : Nat) : ReplayId := (Uuid.ofSerial n).text

end ReplayId

/-! ### Events -/

/-- The identity of an event: drawn by its recorder, or given by whoever reports it. -/
inductive EventId
  | drawn (serial : Nat)
  | given (id : Uuid)
deriving DecidableEq, Repr

/-- An entry of the usage log. -/
structure Event where
  id : EventId
  tenant : String
  meter : String
  quantity : Int
  tool : String
  replay : Option ReplayId
  audit : Option String
  status : Execution
  occurredAt : Instant
deriving DecidableEq, Repr

namespace Event

/-- The event with a replay id, or without one if it is blank. -/
def withReplay (e : Event) (replay : ReplayId) : Event :=
  { e with replay := if replay.isEmpty then none else some replay }

/-- The event with an audit id, trimmed, or without one if nothing is left of it. -/
def withAudit (e : Event) (audit : Option String) : Event :=
  { e with audit := (audit.map Text.trim).filter fun a => !a.isEmpty }

/-- Does the event count toward a meter of a tenant in `[start, stop)`? -/
def counts (e : Event) (tenant meter : String) (p : Period) : Bool :=
  e.tenant = tenant && e.meter = meter && e.status = .success &&
    p.start ≤ e.occurredAt && e.occurredAt < p.stop

end Event

/-! ### Counters -/

/-- A counter of one tenant, meter and period. -/
structure Counter where
  tenant : String
  meter : String
  period : Period
  used : Int
deriving DecidableEq, Repr

/-! ### Reservations -/

/-- Units set aside for one call before it runs. -/
structure Reservation where
  tenant : String
  meter : String
  period : Period
  quantity : Int
  monthlyUnits : Int
  /-- The counter once the units were set aside. -/
  usedAfter : Int
  status : Status
deriving DecidableEq, Repr

namespace Reservation

/-- Units left in the period. -/
def remaining (r : Reservation) : Int := max (r.monthlyUnits - r.usedAfter) 0

end Reservation

/-- The share of a limit that is used, 0 where there is no limit to share. -/
def utilization (used limit : Int) : Float :=
  if 0 < limit then Float.ofInt used / Float.ofInt limit else 0.0

/-! ### Outcomes of ledger writes -/

/-- What came of a conditional increment: the new count, if there was room. -/
inductive ReserveOutcome
  | reserved (usedAfter : Int)
  | rejected
deriving DecidableEq, Repr

/-- Whether recording an event added it or found its replay id taken. -/
inductive RecordOutcome
  | inserted
  | duplicate
deriving DecidableEq, Repr

/-- The text of an outcome. -/
def RecordOutcome.text : RecordOutcome → String
  | inserted => "inserted"
  | duplicate => "duplicate"

end Turnstile
