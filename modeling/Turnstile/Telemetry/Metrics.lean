/-
Admission metrics.

Counters count modulo 2^64.
-/

namespace Turnstile

/-- A counter that wraps after 2^64 - 1. -/
abbrev WordCounter := UInt64

/-- What has happened since a process began. -/
structure Metrics where
  allowed : WordCounter
  denied : WordCounter
  rateLimited : WordCounter
  quotaExceeded : WordCounter
  subscriptionDenied : WordCounter
  failedExecutions : WordCounter
  alerts : WordCounter
deriving DecidableEq, Repr

namespace Metrics

/-- Nothing has happened yet. -/
def zero : Metrics := ⟨0, 0, 0, 0, 0, 0, 0⟩

/-- The share of decisions that let a call through, 0 before the first. -/
def allowRatio (m : Metrics) : Float :=
  let total := m.allowed + m.denied
  if total = 0 then 0.0 else m.allowed.toFloat / total.toFloat

/-- Names of the counters, as reports use them. -/
inductive Name
  | allowed
  | denied
  | rateLimited
  | quotaExceeded
  | subscriptionDenied
  | failedExecutions
  | alerts
deriving DecidableEq, Repr

/-- Add to one of the counters. -/
def add (m : Metrics) (n : UInt64) : Name → Metrics
  | .allowed => { m with allowed := m.allowed + n }
  | .denied => { m with denied := m.denied + n }
  | .rateLimited => { m with rateLimited := m.rateLimited + n }
  | .quotaExceeded => { m with quotaExceeded := m.quotaExceeded + n }
  | .subscriptionDenied => { m with subscriptionDenied := m.subscriptionDenied + n }
  | .failedExecutions => { m with failedExecutions := m.failedExecutions + n }
  | .alerts => { m with alerts := m.alerts + n }

/-- The name of a counter in reports. -/
def Name.text : Name → String
  | .allowed => "allowed"
  | .denied => "denied"
  | .rateLimited => "rate_limited"
  | .quotaExceeded => "quota_exceeded"
  | .subscriptionDenied => "subscription_denied"
  | .failedExecutions => "failed_executions"
  | .alerts => "alerts"

/-- All the names, in the order of reports. -/
def Name.all : List Name :=
  [.allowed, .denied, .rateLimited, .quotaExceeded, .subscriptionDenied, .failedExecutions,
    .alerts]

/-- The value of a counter. -/
def value (m : Metrics) : Name → UInt64
  | .allowed => m.allowed
  | .denied => m.denied
  | .rateLimited => m.rateLimited
  | .quotaExceeded => m.quotaExceeded
  | .subscriptionDenied => m.subscriptionDenied
  | .failedExecutions => m.failedExecutions
  | .alerts => m.alerts

/-- Adding to a counter leaves the others alone. -/
theorem value_add (m : Metrics) (n : UInt64) (added read : Name) :
    (m.add n added).value read = if added = read then m.value read + n else m.value read := by
  cases added <;> cases read <;> rfl

@[simp] theorem value_zero (name : Name) : zero.value name = 0 := by
  cases name <;> rfl

end Metrics

end Turnstile
