/-
What the service answers when it cannot grant what it was asked for.

Every error belongs to a category, which says who has to do something about it, and a
rate limit says when to try again.
-/
import Turnstile.Ledger.Basic
import Turnstile.Outcome

namespace Turnstile

/-- Why a call of the service failed. -/
inductive ServiceError
  /-- The subscription, or its lack, does not allow the call. -/
  | subscriptionInactive (reason : String)
  | rateLimited (retryAfter : Nat)
  | quotaExceeded (limit : Int)
  | ledger (e : LedgerError)
deriving DecidableEq, Repr

/-- What an operator does about an error. -/
inductive Category
  | billing
  | transient
  | resourceLimit
  | configuration
  | storage
deriving DecidableEq, Repr

/-- The name of a category. -/
def Category.text : Category → String
  | billing => "Billing"
  | transient => "Transient"
  | resourceLimit => "ResourceLimit"
  | configuration => "Configuration"
  | storage => "Storage"

/-- The category of a ledger error: a missing or wrong tenant is the caller's. -/
def LedgerError.category : LedgerError → Category
  | missingTenant | tenantMismatch _ _ => .billing
  | notFound _ | storage _ => .storage

namespace ServiceError

/-- The words for it. -/
def message : ServiceError → String
  | subscriptionInactive reason => "Subscription inactive: " ++ reason
  | rateLimited secs => "Rate limited: retry after " ++ toString secs ++ "s"
  | quotaExceeded limit => "Quota exceeded: monthly limit of " ++ toString limit ++ " units reached"
  | ledger e => e.message

/-- The category of an error. -/
def category : ServiceError → Category
  | subscriptionInactive _ => .billing
  | rateLimited _ => .transient
  | quotaExceeded _ => .resourceLimit
  | ledger e => e.category

/-- May the same call succeed later without anyone's doing? -/
def isRetryable : ServiceError → Bool
  | rateLimited _ => true
  | _ => false

/-- Is it a decision about the caller, and not a breakdown? -/
def isDenial : ServiceError → Bool
  | ledger _ => false
  | _ => true

/-- Is the quota used up? -/
def isQuota : ServiceError → Bool
  | quotaExceeded _ => true
  | _ => false

/-- Seconds after which to try again. -/
def retryAfter? : ServiceError → Option Nat
  | rateLimited secs => some secs
  | _ => none

end ServiceError

end Turnstile
