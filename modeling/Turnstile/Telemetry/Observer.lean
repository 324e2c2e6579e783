/-
The observer of admissions.

It counts what is allowed and denied, warns once when a tenant's usage reaches a
threshold, and raises an alert on every so many denials of one tenant.  The warning
latch and the count of denials belong to a tenant until they are reset, which happens
when its period has rolled.
-/
import Std.Data.ExtTreeMap
import Std.Data.ExtTreeSet
import Turnstile.Subscription
import Turnstile.Telemetry.Metrics
import Turnstile.Usage.Record

namespace Turnstile

/-- Why a call was denied. -/
inductive DenyReason
  | missingTenant
  | missingEntitlement
  | subscription (status : Status)
  | rateLimited
  | quotaExceeded
  /-- The work failed after it was admitted, and its units were given back. -/
  | executionFailed
deriving DecidableEq, Repr

namespace DenyReason

/-- The kind of a reason. -/
def kind : DenyReason → String
  | missingTenant => "missing_tenant"
  | missingEntitlement => "missing_entitlement"
  | subscription _ => "subscription"
  | rateLimited => "rate_limited"
  | quotaExceeded => "quota_exceeded"
  | executionFailed => "tool_execution_failed"

/-- The reason in full. -/
def text : DenyReason → String
  | subscription status => "subscription_" ++ status.text
  | reason => reason.kind

/-- The counter that a denial adds to, besides the one for all denials. -/
def counter : DenyReason → Metrics.Name
  | rateLimited => .rateLimited
  | quotaExceeded => .quotaExceeded
  | executionFailed => .failedExecutions
  | missingTenant | missingEntitlement | subscription _ => .subscriptionDenied

end DenyReason

/-- When the observer speaks up. -/
structure ObserverConfig where
  /-- The share of a limit at which a tenant gets its warning. -/
  warnUtilization : Float
  /-- Every so many denials of a tenant raise an alert. -/
  alertEvery : Nat

namespace ObserverConfig

/-- A warning at four fifths and an alert on every tenth denial. -/
def standard : ObserverConfig := ⟨0.8, 10⟩

/-- Another threshold for the warning. -/
def withWarning (c : ObserverConfig) (threshold : Float) : ObserverConfig :=
  { c with warnUtilization := threshold }

/-- Another distance between alerts, at least one. -/
def withAlerts (c : ObserverConfig) (n : Nat) : ObserverConfig := { c with alertEvery := max n 1 }

/-- Does the use of a limit reach the threshold? -/
def reaches (c : ObserverConfig) (used limit : Int) : Bool :=
  c.warnUtilization ≤ utilization used limit

end ObserverConfig

/-- What has been observed. -/
structure Observer where
  config : ObserverConfig
  /-- Denials of each tenant since its last reset. -/
  denyCounts : Std.ExtTreeMap String Nat
  /-- Tenants that have had their warning. -/
  warned : Std.ExtTreeSet String
  metrics : Metrics

namespace Observer

/-- Nothing observed yet. -/
def new (config : ObserverConfig) : Observer := ⟨config, ∅, ∅, .zero⟩

/-- Denials of a tenant since its last reset. -/
def denyCount (o : Observer) (tenant : String) : Nat := o.denyCounts[tenant]?.getD 0

/-- Has the tenant had its warning? -/
def hasWarned (o : Observer) (tenant : String) : Bool := o.warned.contains tenant

/-- Record an admitted call.  Says whether it raised the tenant's warning. -/
def recordAllow (o : Observer) (tenant : String) (used limit : Int) : Bool × Observer :=
  let o := { o with metrics := o.metrics.add 1 .allowed }
  if o.config.reaches used limit && !o.hasWarned tenant then
    (true, { o with warned := o.warned.insert tenant })
  else (false, o)

/-- Record a denial.  Gives the tenant's denials so far, or 0 for a call without a tenant, which
only the metrics count. -/
def recordDeny (o : Observer) (tenant : String) (reason : DenyReason) : Nat × Observer :=
  let o := { o with metrics := (o.metrics.add 1 reason.counter).add 1 .denied }
  if Text.isBlankText tenant then (0, o)
  else
    let count := o.denyCount tenant + 1
    let o := { o with denyCounts := o.denyCounts.insert tenant count }
    if count % max o.config.alertEvery 1 = 0 then
      (count, { o with metrics := o.metrics.add 1 .alerts })
    else (count, o)

/-- Forget a tenant's denials and its warning. -/
def reset (o : Observer) (tenant : String) : Observer :=
  { o with denyCounts := o.denyCounts.erase tenant, warned := o.warned.erase tenant }

end Observer

end Turnstile
