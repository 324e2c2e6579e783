/-
Callers.

A principal is the authenticated caller of a gated tool; the tenant it acts for is
what a call is admitted and charged under.
-/
import Turnstile.Text.Blank

namespace Turnstile

/-- An authenticated caller. -/
structure Principal where
  tenant : String
  actor : String
  token : Option String
  scopes : List String
  /-- How the caller proved who it is. -/
  method : Option String
deriving DecidableEq, Repr

namespace Principal

/-- A caller known by tenant and actor only. -/
def new (tenant actor : String) : Principal := ⟨tenant, actor, none, [], none⟩

/-- Does the caller act for a tenant? -/
def hasTenant (p : Principal) : Bool := !Text.isBlankText p.tenant

end Principal

end Turnstile
