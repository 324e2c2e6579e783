/-
What a client makes of the address of a database.

The parts of an address and of its query set where the client connects and how; parts of
the query that mean nothing are passed over, and the log says so.  An address with a part
that cannot be read leads nowhere.  No server is there to be connected to, so the rest
is about the ways of failing.
-/
import Turnstile.Address.Basic
import Turnstile.Database
import Turnstile.Text.Quoted

namespace Turnstile.Database

/-- Why an address cannot be used. -/
inductive AddressFault
  | malformed (e : AddressError)
  /-- A part is no text once its percent signs are read. -/
  | notText (f : Text.Utf8Fault)
  | number (e : NumberError)
  | notNumeric
  | unknownSslMode (value : String)
deriving DecidableEq, Repr

/-- The words for it. -/
def AddressFault.message : AddressFault → String
  | malformed e => e.message
  | notText f => f.message
  | number e => e.message
  | notNumeric => "invalid IP address syntax"
  | unknownSslMode value =>
    "error with configuration: unknown value " ++ Text.quoted value ++ " for \x60ssl_mode\x60"

/-- Where a client connects. -/
structure Connection where
  /-- The directory of a socket on this machine, if the database is reached through one. -/
  directory : Option String
  port : Nat
  /-- Parts of the query that mean nothing, with their values. -/
  ignored : List (String × String)
deriving DecidableEq, Repr

namespace Connection

/-- The port of a database that has set none. -/
def standard : Connection := ⟨none, 5432, []⟩

/-- How much a client may ask for an encrypted connection. -/
def sslModes : List String := ["disable", "allow", "prefer", "require", "verify-ca", "verify-full"]

/-- Parts of the query that matter only once there is a connection. -/
def laterKeys : List String :=
  ["sslrootcert", "ssl-root-cert", "ssl-ca", "sslcert", "ssl-cert", "sslkey", "ssl-key", "dbname",
    "user", "password", "application_name", "options"]

/-- Read a whole number of a range. -/
def readNumber (r : WholeRange) (s : String) : Except AddressFault Nat :=
  match r.read s with
  | .ok n => .ok n.toNat
  | .error e => .error (.number e)

/-- What a part of the query sets. -/
def set (c : Connection) (key value : String) : Except AddressFault Connection :=
  if key = "sslmode" || key = "ssl-mode" then
    if sslModes.contains (Text.lowerAscii value) then .ok c else .error (.unknownSslMode value)
  else if key = "statement-cache-capacity" then (readNumber .word value).map fun _ => c
  else if key = "port" then (readNumber ⟨0, 65535⟩ value).map fun port => { c with port }
  else if key = "host" then
    .ok (if value.startsWith "/" then { c with directory := some value } else c)
  else if key = "hostaddr" then
    if Internet.isNumeric value then .ok c else .error .notNumeric
  else if laterKeys.contains key || key.startsWith "options[" then .ok c
  else .ok { c with ignored := c.ignored ++ [(key, value)] }

/-- What the parts of a query set, up to one that cannot be read. -/
def setAll (c : Connection) : List (String × String) → Connection × Option AddressFault
  | [] => (c, none)
  | (key, value) :: rest =>
    match c.set key value with
    | .ok c => c.setAll rest
    | .error e => (c, some e)

/-- The parts of a query, by name. -/
def pairs (query : String) : List (String × String) :=
  let read (cs : List Char) : String := Text.ofBytes (Text.queryDecoded (String.ofList cs))
  ((query.toList.splitOn '&').filter fun cs => !cs.isEmpty).map fun cs =>
    let key := cs.takeWhile (· ≠ '=')
    (read key, read (cs.drop (key.length + 1)))

/-- The text that a part with percent signs means. -/
def readPart (s : String) : Except AddressFault String :=
  match Text.decode (Text.percentDecoded s) with
  | .ok s => .ok s
  | .error f => .error (.notText f)

/-- What the parts of an address before its query set. -/
def ofParts (a : Address) : Except AddressFault Connection := do
  let c ← match a.host with
    | some host =>
      if (Text.percentDecoded host).head? = some 0x2F then
        (readPart host).map fun directory => { standard with directory := some directory }
      else pure standard
    | none => pure standard
  let _ ← readPart a.user
  let _ ← readPart (a.password.getD "")
  let _ ← readPart (String.ofList (a.path.toList.dropWhile (· = '/')))
  return { c with port := a.port.getD c.port }

/-- What an address sets, as far as it can be read. -/
def ofAddress (s : String) : Connection × Option AddressFault :=
  match Address.parse s with
  | .error e => (standard, some (.malformed e))
  | .ok a =>
    match ofParts a with
    | .error e => (standard, some e)
    | .ok c => c.setAll (pairs (a.query.getD ""))

/-- What is wrong with the name of a socket. -/
def nameFault? (c : Connection) : Option String :=
  c.directory.bind fun directory =>
    let name := directory ++ "/.s.PGSQL." ++ toString c.port
    if name.toList.contains (Char.ofNat 0) then
      some "paths must not contain interior null bytes"
    else if 108 ≤ name.utf8ByteSize then some "path must be shorter than SUN_LEN"
    else none

end Connection

/-- What comes of connecting to an address. -/
def connectError (address : String) : String :=
  match Connection.ofAddress address with
  | (_, some fault) => "error with configuration: " ++ fault.message
  | (c, none) => match c.nameFault? with
    | some words => "error communicating with database: " ++ words
    | none => unreachable

/-- Parts of an address that are passed over before the connection fails. -/
def ignoredParts (address : String) : List (String × String) :=
  (Connection.ofAddress address).1.ignored

end Turnstile.Database
