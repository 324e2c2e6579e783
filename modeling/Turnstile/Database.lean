/-
The database behind a ledger, as far as it shows without a server: its settings and what
comes of connecting to one that is not there.
-/
import Turnstile.Ledger.Outage

namespace Turnstile

/-- Settings of a database; times are in milliseconds. -/
structure DatabaseConfig where
  maxConnections : Nat
  acquireTimeout : Nat
  /-- How long a statement may take. -/
  statementTimeout : Option Nat
deriving DecidableEq, Repr

namespace DatabaseConfig

/-- Ten connections, ten seconds for one of them, five seconds for a statement. -/
def standard : DatabaseConfig := ⟨10, 10000, some 5000⟩

/-- Another number of connections, at least one. -/
def withConnections (c : DatabaseConfig) (n : Nat) : DatabaseConfig :=
  { c with maxConnections := max n 1 }

/-- Another time for a statement. -/
def withTimeout (c : DatabaseConfig) (ms : Nat) : DatabaseConfig :=
  { c with statementTimeout := some ms }

/-- No limit for a statement. -/
def withoutTimeout (c : DatabaseConfig) : DatabaseConfig := { c with statementTimeout := none }

end DatabaseConfig

/-- A time in the largest unit that it reaches, with a fraction if it needs one. -/
def spanText (ms : Nat) : String :=
  if ms = 0 then "0ns"
  else if ms < 1000 then toString ms ++ "ms"
  else
    let thousandths := (toString (1000 + ms % 1000)).toList.tail
    let fraction := (thousandths.reverse.dropWhile (· = '0')).reverse
    toString (ms / 1000) ++ (if fraction.isEmpty then "" else "." ++ String.ofList fraction) ++ "s"

namespace Database

/-- The words of a database that is not there. -/
def unreachable : String := "error communicating with database: No such file or directory (os error 2)"

/-- The description of a ledger on a database in diagnostics; no connection is open. -/
def describe (c : DatabaseConfig) : String :=
  let timeout := match c.statementTimeout with
    | some ms => "Some(" ++ spanText ms ++ ")"
    | none => "None"
  "PostgresLedger \x7b pool_size: 0, config: PostgresConfig \x7b max_connections: " ++
    toString c.maxConnections ++ ", acquire_timeout: " ++ spanText c.acquireTimeout ++
    ", statement_timeout: " ++ timeout ++ " \x7d \x7d"

/-- A backend on a database that is not there. -/
def backend : Backend := .unreachable unreachable

end Database

end Turnstile
