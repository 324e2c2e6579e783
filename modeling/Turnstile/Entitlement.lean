/-
Entitlements.

An entitlement is a tenant's plan, its limits, the state of its subscription and the
usage period it is in.  The subscription decides whether the tenant may work at all
(`Entitlement.admits`); the limits decide how much.
-/
import Turnstile.Subscription
import Turnstile.Time.Timestamp

namespace Turnstile

/-- A usage period: it starts at `start`, and work up to and at `stop` belongs to it. -/
structure Period where
  start : Instant
  stop : Instant
deriving DecidableEq, Repr

/-- What a plan grants. -/
structure Limits where
  /-- Calls a minute that the rate limiter lets through. -/
  ratePerMinute : Int
  /-- Units that a usage period holds. -/
  monthlyUnits : Int
deriving DecidableEq, Repr

/-- A tenant's plan, limits, subscription and current usage period. -/
structure Entitlement where
  tenant : String
  plan : String
  status : Status
  limits : Limits
  period : Period
  /-- How long a tenant that is past due may go on working. -/
  graceUntil : Option Instant
  updatedAt : Instant
deriving DecidableEq, Repr

namespace Entitlement

/-- A new entitlement: active, sixty calls a minute, and no units until a plan grants some. -/
def new (tenant plan : String) (period : Period) : Entitlement where
  tenant
  plan
  status := .active
  limits := ⟨60, 0⟩
  period
  graceUntil := none
  updatedAt := period.start

/-- Has the usage period ended before `now`? -/
def isExpired (e : Entitlement) (now : Instant) : Bool := e.period.stop < now

/-- May the tenant work at `now`?  A trial or an active subscription always may; one that is past
due up to the end of its grace, a canceled one up to the end of the period that was paid. -/
def admits (e : Entitlement) (now : Instant) : Bool :=
  match e.status with
  | .trialing | .active => true
  | .pastDue => match e.graceUntil with
    | some grace => now ≤ grace
    | none => false
  | .canceled => now ≤ e.period.stop
  | .unpaid | .unknown _ => false

/-- The end of the grace for a status: whole days after the end of the period, at least one, for
a tenant that is past due and for nobody else. -/
def graceFor (status : Status) (periodEnd : Instant) (graceDays : Int) : Option Instant :=
  if status = .pastDue then
    periodEnd.after? ((if graceDays ≤ 0 then 1 else graceDays) * Span.day)
  else none

end Entitlement

/-- The subscription does not allow the work. -/
structure SubscriptionDenied where
  status : Status

namespace SubscriptionDenied

/-- The machine-readable reason. -/
def reason (d : SubscriptionDenied) : String := "subscription_" ++ d.status.text

/-- The words for it. -/
def message (d : SubscriptionDenied) : String := "Subscription inactive: " ++ d.status.text

end SubscriptionDenied

/-- Check that the subscription allows work at `now`. -/
def Entitlement.checkAccess (e : Entitlement) (now : Instant) : Except SubscriptionDenied Unit :=
  if e.admits now then .ok () else .error ⟨e.status⟩

end Turnstile
