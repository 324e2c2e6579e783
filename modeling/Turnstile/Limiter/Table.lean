/-
The rate limiter: a token bucket for each tenant.

A tenant's bucket is made by its first call.  A rate that is not positive and a tenant
without a name are refused outright and leave no bucket behind.
-/
import Std.Data.ExtTreeMap
import Turnstile.Limiter.Bucket

namespace Turnstile

/-- Buckets by tenant. -/
abbrev Limiter (α : Type) := Std.ExtTreeMap String (Bucket α)

namespace Limiter

variable {α : Type} [Amount α]

/-- The tenant's bucket, if it has one. -/
def bucket? (l : Limiter α) (tenant : String) : Option (Bucket α) := l[tenant]?

/-- One call of a tenant at `now` under its rate. -/
def allow (l : Limiter α) (tenant : String) (rate : Int) (now : Instant) :
    Decision × Limiter α :=
  if rate ≤ 0 || tenant.isEmpty then (.deny Decision.fallbackRetry, l)
  else
    match l.bucket? tenant with
    | none => (.allow, l.insert tenant (.fresh (Amount.ofInt rate) now))
    | some b =>
      let (decision, b) := b.call rate now
      (decision, l.insert tenant b)

/-- Drop a tenant's bucket; its next call finds a full one.  Says whether there was one. -/
def forget (l : Limiter α) (tenant : String) : Bool × Limiter α :=
  ((l.bucket? tenant).isSome, l.erase tenant)

/-- The description of a limiter in diagnostics. -/
def describe (l : Limiter α) : String :=
  "TokenBucketLimiter \x7b tenants: " ++ toString l.size ++ " \x7d"

section allow

variable {l : Limiter α} {tenant : String} {rate : Int} {now : Instant}

/-- A rate that is not positive and a tenant without a name are refused, and leave the limiter as it
was. -/
theorem allow_of_refused (h : rate ≤ 0 ∨ tenant = "") :
    l.allow tenant rate now = (.deny Decision.fallbackRetry, l) := by
  unfold allow
  rw [if_pos]
  simpa using h

/-- The first call under a rate finds a new bucket. -/
theorem allow_of_absent (hnamed : tenant ≠ "") (hrate : 0 < rate)
    (h : l.bucket? tenant = none) (now : Instant) :
    (l.allow tenant rate now).1 = .allow ∧
      (l.allow tenant rate now).2.bucket? tenant =
        some (.fresh (Amount.ofInt rate) now) := by
  have hvalid : ¬ (decide (rate ≤ 0) || tenant.isEmpty) = true := by simp [hrate, hnamed]
  unfold allow
  rw [if_neg hvalid, h]
  exact ⟨rfl, by simp [bucket?]⟩

/-- Every later call goes to the tenant's bucket. -/
theorem allow_of_present {b : Bucket α} (hnamed : tenant ≠ "") (hrate : 0 < rate)
    (h : l.bucket? tenant = some b) (now : Instant) :
    (l.allow tenant rate now).1 = (b.call rate now).1 ∧
      (l.allow tenant rate now).2.bucket? tenant = some (b.call rate now).2 := by
  have hvalid : ¬ (decide (rate ≤ 0) || tenant.isEmpty) = true := by simp [hrate, hnamed]
  unfold allow
  rw [if_neg hvalid, h]
  exact ⟨rfl, by simp [bucket?]⟩

end allow

/-- A call of another tenant leaves a tenant's bucket alone. -/
theorem bucket?_allow_of_ne (l : Limiter α) {tenant other : String} (rate : Int) (now : Instant)
    (h : other ≠ tenant) : (l.allow other rate now).2.bucket? tenant = l.bucket? tenant := by
  unfold allow
  split
  · rfl
  · split <;> simp [bucket?, Std.ExtTreeMap.getElem?_insert, h]

/-- What a look-up finds after a bucket has been dropped. -/
theorem bucket?_forget {α : Type} (l : Limiter α) (tenant other : String) :
    (l.forget tenant).2.bucket? other = if tenant = other then none else l.bucket? other := by
  simp [forget, bucket?, Std.ExtTreeMap.getElem?_erase]

end Limiter

/-- What stands between a tenant and its calls a minute. -/
inductive Throttle
  /-- Every call may go on. -/
  | unlimited
  /-- Each tenant has a bucket. -/
  | buckets (l : Limiter Float)

namespace Throttle

/-- One call of a tenant at `now` under its rate. -/
def allow (t : Throttle) (tenant : String) (rate : Int) (now : Instant) : Decision × Throttle :=
  match t with
  | unlimited => (.allow, unlimited)
  | buckets l =>
    let (decision, l) := l.allow tenant rate now
    (decision, buckets l)

/-- The tenant's bucket, if it has one. -/
def bucket? (t : Throttle) (tenant : String) : Option (Bucket Float) :=
  match t with
  | unlimited => none
  | buckets l => l.bucket? tenant

/-- Drop a tenant's bucket.  Says whether there was one. -/
def forget (t : Throttle) (tenant : String) : Bool × Throttle :=
  match t with
  | unlimited => (false, unlimited)
  | buckets l =>
    let (found, l) := l.forget tenant
    (found, buckets l)

end Throttle

end Turnstile
