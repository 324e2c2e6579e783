/-
Everything that can go wrong, for callers that meet all of it.
-/
import Turnstile.Config.Error
import Turnstile.Service.Error

namespace Turnstile

/-- A failure of the gate, of the ledger or of the configuration. -/
inductive Failure
  | service (e : ServiceError)
  | ledger (e : LedgerError)
  | config (e : ConfigError)

namespace Failure

/-- The words for it, where they are known. -/
def message? : Failure → Option String
  | service e => some e.message
  | ledger e => some ("Ledger error: " ++ e.message)
  | config e => e.message?.map ("Configuration error: " ++ ·)

/-- The category of a failure. -/
def category : Failure → Category
  | service e => e.category
  | ledger e => e.category
  | config _ => .configuration

/-- Only what passes by itself is worth another try. -/
def isRetryable (f : Failure) : Bool := f.category = .transient

/-- Seconds after which to try again. -/
def retryAfter? : Failure → Option Nat
  | service e => e.retryAfter?
  | ledger _ | config _ => none

end Failure

end Turnstile
