/-
Records on the wire.

Entitlements, counters, events and reservations travel as JSON objects.  On the wire
their times are timestamps, which can name a leap second; in the ledger they are
instants.  Each record has an encoding, a decoder that takes exactly what it accepts,
and conversions from and to the record of the ledger.
-/
import Turnstile.CostTable
import Turnstile.Principal
import Turnstile.Usage.Record
import Turnstile.Wire.Decoder

namespace Turnstile.Wire

/-! ### Parts of records -/

/-- A timestamp. -/
def encodeTime (t : Timestamp) : Json := .string t.text

/-- A status, by its text. -/
def encodeStatus (s : Status) : Json := .string s.text

/-- Decode a status; any text is one. -/
def decodeStatus : Decoder Status := fun t => (Decoder.text t).map Status.parse

/-- An outcome of a call. -/
def encodeExecution (e : Execution) : Json := .string e.text

/-- Decode an outcome, which has to be spelled exactly. -/
def decodeExecution : Decoder Execution :=
  .word [("success", .success), ("failed", .failed)]

/-- Decode an id in any of its forms. -/
def decodeUuid : Decoder Uuid := fun t => (Decoder.text t).bind Uuid.parse?

/-! ### Entitlements -/

/-- An entitlement on the wire. -/
structure Entitlement where
  tenant : String
  plan : String
  status : Status
  limits : Limits
  periodStart : Timestamp
  periodEnd : Timestamp
  graceUntil : Option Timestamp
  updatedAt : Timestamp
deriving DecidableEq, Repr

namespace Entitlement

/-- The names of the fields, in order. -/
def names : List String :=
  ["tenant_id", "plan_code", "subscription_status", "rate_per_minute", "monthly_units",
    "usage_period_start", "usage_period_end", "grace_until", "updated_at"]

/-- The object of an entitlement. -/
def encode (e : Entitlement) : Json :=
  .ofMembers [("tenant_id", .string e.tenant), ("plan_code", .string e.plan),
    ("subscription_status", encodeStatus e.status),
    ("rate_per_minute", .whole e.limits.ratePerMinute),
    ("monthly_units", .whole e.limits.monthlyUnits),
    ("usage_period_start", encodeTime e.periodStart),
    ("usage_period_end", encodeTime e.periodEnd),
    ("grace_until", .orNull encodeTime e.graceUntil), ("updated_at", encodeTime e.updatedAt)]

/-- Decode an entitlement. -/
def decode : Decoder Entitlement := fun t => do
  let f ← Fields.ofTree names t
  let tenant ← f.required 0 .text
  let plan ← f.required 1 .text
  let status ← f.required 2 decodeStatus
  let ratePerMinute ← f.required 3 .count
  let monthlyUnits ← f.required 4 .count
  let periodStart ← f.required 5 .timestamp
  let periodEnd ← f.required 6 .timestamp
  let graceUntil ← f.optional 7 .timestamp
  let updatedAt ← f.required 8 .timestamp
  some { tenant, plan, status, limits := ⟨ratePerMinute, monthlyUnits⟩, periodStart, periodEnd,
         graceUntil, updatedAt }

/-- An entitlement of the ledger, for the wire. -/
def ofLedger (e : Turnstile.Entitlement) : Entitlement where
  tenant := e.tenant
  plan := e.plan
  status := e.status
  limits := e.limits
  periodStart := .ofInstant e.period.start
  periodEnd := .ofInstant e.period.stop
  graceUntil := e.graceUntil.map .ofInstant
  updatedAt := .ofInstant e.updatedAt

/-- An entitlement from the wire, for the ledger. -/
def toLedger (e : Entitlement) : Turnstile.Entitlement where
  tenant := e.tenant
  plan := e.plan
  status := e.status
  limits := e.limits
  period := ⟨e.periodStart.instant, e.periodEnd.instant⟩
  graceUntil := e.graceUntil.map (·.instant)
  updatedAt := e.updatedAt.instant

@[simp] theorem toLedger_ofLedger (e : Turnstile.Entitlement) : (ofLedger e).toLedger = e := by
  obtain ⟨_, _, _, _, _, grace, _⟩ := e
  cases grace <;> rfl

end Entitlement

/-! ### Limits -/

/-- The object of a plan's limits. -/
def encodeLimits (l : Limits) : Json :=
  .ofMembers [("rate_per_minute", .whole l.ratePerMinute), ("monthly_units", .whole l.monthlyUnits)]

/-- Decode a plan's limits. -/
def decodeLimits : Decoder Limits := fun t => do
  let f ← Fields.ofTree ["rate_per_minute", "monthly_units"] t
  let ratePerMinute ← f.required 0 .count
  let monthlyUnits ← f.required 1 .count
  some ⟨ratePerMinute, monthlyUnits⟩

/-! ### Counters -/

/-- A counter on the wire. -/
structure Counter where
  tenant : String
  meter : String
  periodStart : Timestamp
  periodEnd : Timestamp
  used : Int
deriving DecidableEq, Repr

namespace Counter

/-- The object of a counter. -/
def encode (c : Counter) : Json :=
  .ofMembers [("tenant_id", .string c.tenant), ("meter", .string c.meter),
    ("period_start", encodeTime c.periodStart), ("period_end", encodeTime c.periodEnd),
    ("used", .whole c.used)]

/-- Decode a counter. -/
def decode : Decoder Counter := fun t => do
  let f ← Fields.ofTree ["tenant_id", "meter", "period_start", "period_end", "used"] t
  let tenant ← f.required 0 .text
  let meter ← f.required 1 .text
  let periodStart ← f.required 2 .timestamp
  let periodEnd ← f.required 3 .timestamp
  let used ← f.required 4 .count
  some { tenant, meter, periodStart, periodEnd, used }

/-- A counter of the ledger, for the wire. -/
def ofLedger (c : Turnstile.Counter) : Counter :=
  ⟨c.tenant, c.meter, .ofInstant c.period.start, .ofInstant c.period.stop, c.used⟩

end Counter

/-! ### Events -/

/-- An event on the wire. -/
structure Event where
  id : Uuid
  tenant : String
  meter : String
  quantity : Int
  tool : String
  replay : Option ReplayId
  audit : Option String
  status : Execution
  occurredAt : Timestamp
deriving DecidableEq, Repr

namespace Event

/-- The members of an event's object without its id. -/
def members (e : Event) : List (String × Json) :=
  [("tenant_id", .string e.tenant), ("meter", .string e.meter), ("quantity", .whole e.quantity),
    ("tool_name", .string e.tool), ("replay_id", .orNull .string e.replay),
    ("audit_id", .orNull .string e.audit), ("status", encodeExecution e.status),
    ("occurred_at", encodeTime e.occurredAt)]

/-- The object of an event. -/
def encode (e : Event) : Json := .ofMembers (("id", .string e.id.text) :: e.members)

/-- The object of an event without its id. -/
def encodeAnonymous (e : Event) : Json := .ofMembers e.members

/-- Decode an event. -/
def decode : Decoder Event := fun t => do
  let f ← Fields.ofTree ["id", "tenant_id", "meter", "quantity", "tool_name", "replay_id",
    "audit_id", "status", "occurred_at"] t
  let id ← f.required 0 decodeUuid
  let tenant ← f.required 1 .text
  let meter ← f.required 2 .text
  let quantity ← f.required 3 .count
  let tool ← f.required 4 .text
  let replay ← f.optional 5 .text
  let audit ← f.optional 6 .text
  let status ← f.required 7 decodeExecution
  let occurredAt ← f.required 8 .timestamp
  some { id, tenant, meter, quantity, tool, replay, audit, status, occurredAt }

/-- The id of an event on the wire: the one it was given, or one made of its serial number. -/
def idOf : EventId → Uuid
  | .given id => id
  | .drawn serial => .ofSerial serial

/-- An event of the ledger, for the wire. -/
def ofLedger (e : Turnstile.Event) : Event where
  id := idOf e.id
  tenant := e.tenant
  meter := e.meter
  quantity := e.quantity
  tool := e.tool
  replay := e.replay
  audit := e.audit
  status := e.status
  occurredAt := .ofInstant e.occurredAt

end Event

/-! ### Reservations -/

/-- A reservation on the wire. -/
structure Reservation where
  tenant : String
  meter : String
  periodStart : Timestamp
  periodEnd : Timestamp
  quantity : Int
  monthlyUnits : Int
  usedAfter : Int
  status : Status
deriving DecidableEq, Repr

namespace Reservation

/-- The members of a reservation's object. -/
def members (r : Reservation) : List (String × Json) :=
  [("tenant_id", .string r.tenant), ("meter", .string r.meter),
    ("period_start", encodeTime r.periodStart), ("period_end", encodeTime r.periodEnd),
    ("quantity", .whole r.quantity), ("monthly_units", .whole r.monthlyUnits),
    ("used_after", .whole r.usedAfter), ("subscription", encodeStatus r.status)]

/-- The object of a reservation. -/
def encode (r : Reservation) : Json := .ofMembers r.members

/-- Decode a reservation. -/
def decode : Decoder Reservation := fun t => do
  let f ← Fields.ofTree ["tenant_id", "meter", "period_start", "period_end", "quantity",
    "monthly_units", "used_after", "subscription"] t
  let tenant ← f.required 0 .text
  let meter ← f.required 1 .text
  let periodStart ← f.required 2 .timestamp
  let periodEnd ← f.required 3 .timestamp
  let quantity ← f.required 4 .count
  let monthlyUnits ← f.required 5 .count
  let usedAfter ← f.required 6 .count
  let status ← f.required 7 decodeStatus
  some { tenant, meter, periodStart, periodEnd, quantity, monthlyUnits, usedAfter, status }

/-- A reservation of the ledger, for the wire. -/
def ofLedger (r : Turnstile.Reservation) : Reservation where
  tenant := r.tenant
  meter := r.meter
  periodStart := .ofInstant r.period.start
  periodEnd := .ofInstant r.period.stop
  quantity := r.quantity
  monthlyUnits := r.monthlyUnits
  usedAfter := r.usedAfter
  status := r.status

/-- A reservation from the wire, for the ledger. -/
def toLedger (r : Reservation) : Turnstile.Reservation where
  tenant := r.tenant
  meter := r.meter
  period := ⟨r.periodStart.instant, r.periodEnd.instant⟩
  quantity := r.quantity
  monthlyUnits := r.monthlyUnits
  usedAfter := r.usedAfter
  status := r.status

@[simp] theorem toLedger_ofLedger (r : Turnstile.Reservation) : (ofLedger r).toLedger = r := rfl

end Reservation

/-! ### Callers and prices -/

/-- The object of a caller.  A token and a method that are not known are left out. -/
def encodePrincipal (p : Principal) : Json :=
  let named (name : String) (v : Option String) : List (String × Json) :=
    match v with
    | some s => [(name, .string s)]
    | none => []
  .ofMembers ([("tenant_id", .string p.tenant), ("actor_id", .string p.actor),
    ("scopes", .array (p.scopes.map .string))] ++ named "token_id" p.token ++
    named "auth_method" p.method)

/-- Decode a caller. -/
def decodePrincipal : Decoder Principal := fun t => do
  let f ← Fields.ofTree ["tenant_id", "actor_id", "token_id", "scopes", "auth_method"] t
  let tenant ← f.required 0 .text
  let actor ← f.required 1 .text
  let token ← f.withDefault 2 none (Decoder.nullable .text)
  let scopes ← f.withDefault 3 [] (.list .text)
  let method ← f.withDefault 4 none (Decoder.nullable .text)
  some { tenant, actor, token, scopes, method }

/-- The object of a cost table. -/
def encodeCosts (c : CostTable) : Json :=
  .ofMembers [("default_unit_cost", .whole c.default),
    ("tools", .ofMembers (c.tools.map fun (name, cost) => (name, .whole cost)))]

/-- Decode a cost table. -/
def decodeCosts : Decoder CostTable := fun t => do
  let f ← Fields.ofTree ["default_unit_cost", "tools"] t
  let default ← f.withDefault 0 0 .count
  let tools ← f.withDefault 1 [] (.table .count)
  some { default, tools }

/-! ### Records by name -/

/-- Decode a text as a record of the kind named, and encode it again. -/
def recode? (kind text : String) : Option Json :=
  match kind with
  | "SubscriptionStatus" => (decodeStatus.parse? text).map encodeStatus
  | "ExecutionStatus" => (decodeExecution.parse? text).map encodeExecution
  | "ReplayId" => (Decoder.text.parse? text).map .string
  | "Principal" => (decodePrincipal.parse? text).map encodePrincipal
  | "Entitlement" => (Entitlement.decode.parse? text).map (·.encode)
  | "PlanLimits" => (decodeLimits.parse? text).map encodeLimits
  | "UsageCounter" => (Counter.decode.parse? text).map (·.encode)
  | "UsageEvent" => (Event.decode.parse? text).map (·.encode)
  | "Reservation" => (Reservation.decode.parse? text).map (·.encode)
  | "CostTable" => (decodeCosts.parse? text).map encodeCosts
  | _ => none

end Turnstile.Wire
