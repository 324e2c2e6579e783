/-
Store-wide calls.

Beside the scopes of single tenants a ledger answers calls about any tenant; the sweep
and the usage snapshot work through them.  As with the calls on a scope, each is a
value, so that a caller's next call can be looked at before it is made.
-/
import Turnstile.Ledger.Scope

namespace Turnstile.Ledger

/-- A call about any tenant. -/
inductive Call
  | getEntitlement (tenant : String)
  | upsertEntitlement (e : Entitlement)
  | updatePeriod (tenant : String) (p : Period)
  | ensureCounter (tenant meter : String) (p : Period)
  | getUsed (key : CounterKey)
  | setUsed (key : CounterKey) (used : Int)
  | listCounters
  | sum (tenant meter : String) (p : Period)
  | listExpired (now : Instant)

/-- What a call answers. -/
inductive Reply
  | done
  | entitlement (e : Option Entitlement)
  | units (n : Int)
  | counters (cs : List Counter)
  | entitlements (es : List Entitlement)

/-- The units used on a counter, which has to be there. -/
def used? (l : Ledger) (key : CounterKey) : Except LedgerError Int :=
  match l.tally? key with
  | some t => .ok t.used
  | none => .error (.noCounter key)

/-- Make a call. -/
def perform (c : Call) (l : Ledger) : Except LedgerError Reply × Ledger :=
  match c with
  | .getEntitlement tenant => (.ok (.entitlement (l.entitlement? tenant)), l)
  | .upsertEntitlement e => (.ok .done, l.putEntitlement e)
  | .updatePeriod tenant p => (.ok .done, l.setPeriod tenant p)
  | .ensureCounter tenant meter p => (.ok .done, l.ensureCounter tenant meter p)
  | .getUsed key => ((l.used? key).map .units, l)
  | .setUsed key used => (.ok .done, l.setUsed key used)
  | .listCounters => (.ok (.counters l.counterRows), l)
  | .sum tenant meter p => (.ok (.units (l.sum tenant meter p)), l)
  | .listExpired now => (.ok (.entitlements (l.expired now)), l)

end Turnstile.Ledger
