/-
Settings of the service.

Nine keys are read one after another into a draft, which starts from the defaults.  An error
does not stop the reading: it is noted, and the next key is read.  Loading gives the settings
of the draft if nothing was noted, and otherwise all that was noted.
-/
import Turnstile.Config.Layer
import Turnstile.CostTable.Document
import Turnstile.Telemetry.Observer
import Turnstile.Usage.Record

namespace Turnstile

/-- Settings of the service and the sweep. -/
structure Settings where
  meter : String
  costs : CostTable
  /-- The file that the cost table comes from. -/
  costPath : Option String
  /-- Days of grace after the end of a period that is not paid. -/
  graceDays : Int
  observer : ObserverConfig
  /-- Seconds from one sweep to the next. -/
  interval : Nat
  databaseUrl : Option String
  /-- Milliseconds that a statement may take. -/
  statementTimeout : Option Nat

namespace Settings

/-- What a configuration answers for a key. -/
abbrev Answers := String → Except ConfigError (Option String)

/-- What reading a cost table from a file of a given name gives. -/
abbrev CostFiles := String → Except ValueError CostTable

/-! ### The keys -/

def meterKey : String := "metering.meter"

def costPathKey : String := "metering.tool_cost_path"

def unitCostKey : String := "metering.default_unit_cost"

def graceDaysKey : String := "metering.past_due_grace_days"

def warningKey : String := "observer.warn_utilization"

def alertKey : String := "observer.alert_every"

def intervalKey : String := "reconcile.interval_secs"

def databaseUrlKey : String := "database.url"

def statementTimeoutKey : String := "database.statement_timeout_ms"

/-- The keys in the order in which they are read. -/
def keys : List String :=
  [meterKey, costPathKey, unitCostKey, graceDaysKey, warningKey, alertKey, intervalKey,
    databaseUrlKey, statementTimeoutKey]

/-! ### Defaults -/

/-- The price of a call when nothing sets one. -/
def standardCost : Int := 1

/-- The days of grace when nothing sets them. -/
def standardGraceDays : Int := 7

/-- The seconds between sweeps when nothing sets them. -/
def standardInterval : Nat := 300

/-- The settings when no key is set. -/
def standard : Settings where
  meter := defaultMeter
  costs := .uniform standardCost
  costPath := none
  graceDays := standardGraceDays
  observer := .standard
  interval := standardInterval
  databaseUrl := none
  statementTimeout := none

/-- The settings with another price for tools that have none of their own. -/
def withUnitCost (s : Settings) (cost : Int) : Settings :=
  { s with costs := { s.costs with default := cost } }

/-! ### Drafts -/

/-- Settings on their way: what the keys have said so far, and what was wrong with them. -/
structure Draft where
  settings : Settings
  errors : List ConfigError

namespace Draft

/-- Nothing has been read. -/
def start : Draft := ⟨standard, []⟩

/-- Note what is wrong. -/
def note (d : Draft) (e : ConfigError) : Draft := { d with errors := d.errors ++ [e] }

/-- Change the settings. -/
def edit (d : Draft) (f : Settings → Settings) : Draft := { d with settings := f d.settings }

/-- Take the value of a key.  If there is an error instead, it is noted, and there is no value. -/
def take {α : Type} (d : Draft) : Except ConfigError (Option α) → Option α × Draft
  | .ok value => (value, d)
  | .error e => (none, d.note e)

/-- Note a rule that is broken. -/
def check (d : Draft) (kept : Bool) (key words : String) : Draft :=
  if kept then d else d.note (.invalidValue key (.rule words))

/-- The settings, or what was wrong. -/
def result (d : Draft) : Except ConfigError Settings :=
  match d.errors with
  | [] => .ok d.settings
  | errors => .error (.ofList errors)

end Draft

/-! ### Numbers -/

/-- Read a number of unsigned 64 bits. -/
def readWord (s : String) : Except NumberError Nat := (WholeRange.word.read s).map Int.toNat

/-- A key for a number: how the number is read, and the rule that it has to keep. -/
structure NumberKey (α : Type) where
  key : String
  read : String → Except NumberError α
  rule : α → Bool
  words : String

namespace NumberKey

/-- The price of tools that have none of their own. -/
def unitCost : NumberKey Int :=
  ⟨unitCostKey, WholeRange.signed.read, fun n => 0 < n, "must be positive"⟩

/-- Days of grace after the end of a period that is not paid. -/
def graceDays : NumberKey Int :=
  ⟨graceDaysKey, WholeRange.signed.read, fun n => 0 ≤ n, "must not be negative"⟩

/-- The share of a limit at which a tenant is warned. -/
def warning : NumberKey Float :=
  ⟨warningKey, readFloat, fun x => 0.0 < x && x ≤ 1.0, "must be in (0, 1]"⟩

/-- A number of at least one. -/
def count (key : String) : NumberKey Nat :=
  ⟨key, readWord, fun n => 1 ≤ n, "must be at least 1"⟩

/-- Denials from one alert to the next. -/
def alerts : NumberKey Nat := count alertKey

/-- Seconds from one sweep to the next. -/
def interval : NumberKey Nat := count intervalKey

/-- Milliseconds that a statement may take. -/
def statementTimeout : NumberKey Nat := count statementTimeoutKey

end NumberKey

/-- The number of a key. -/
def number {α : Type} (answers : Answers) (k : NumberKey α) : Except ConfigError (Option α) :=
  (answers k.key).bind (Config.asValue k.key k.read)

/-! ### Reading the keys -/

/-- The text of a key. -/
def text (answers : Answers) (key : String) : Except ConfigError (Option String) :=
  (answers key).map Config.asText

/-- Read a number and store it.  One that breaks its rule is stored as well: a draft with an error
comes to nothing. -/
def readNumber {α : Type} (answers : Answers) (k : NumberKey α) (store : α → Settings → Settings)
    (d : Draft) : Draft :=
  match d.take (number answers k) with
  | (some n, d) => (d.check (k.rule n) k.key k.words).edit (store n)
  | (none, d) => d

/-- Read the meter. -/
def readMeter (answers : Answers) (d : Draft) : Draft :=
  match d.take (text answers meterKey) with
  | (some meter, d) => d.edit fun s => { s with meter }
  | (none, d) => d

/-- Read the name of a cost table's file, and the table in it. -/
def readCosts (answers : Answers) (files : CostFiles) (d : Draft) : Draft :=
  let (costPath, d) := d.take (text answers costPathKey)
  let d := d.edit fun s => { s with costPath }
  match costPath with
  | none => d
  | some path =>
    match files path with
    | .ok costs => d.edit fun s => { s with costs }
    | .error e => d.note (.invalidValue costPathKey e)

/-- Read the price of tools that have none of their own.  It comes before the one of the table;
where neither is set it is the standard one. -/
def readUnitCost (answers : Answers) (d : Draft) : Draft :=
  let k := NumberKey.unitCost
  match d.take (number answers k) with
  | (some cost, d) => (d.check (k.rule cost) k.key k.words).edit fun s => s.withUnitCost cost
  | (none, d) =>
    d.edit fun s => if s.costs.default ≤ 0 then s.withUnitCost standardCost else s

/-- Read the address of the database. -/
def readDatabaseUrl (answers : Answers) (d : Draft) : Draft :=
  let (databaseUrl, d) := d.take (text answers databaseUrlKey)
  d.edit fun s => { s with databaseUrl }

/-- See to it that there is a meter, whatever has been read. -/
def checkMeter (d : Draft) : Draft :=
  d.check (!d.settings.meter.isEmpty) meterKey "must not be empty"

/-- Read all keys in their order. -/
def draft (answers : Answers) (files : CostFiles) : Draft :=
  Draft.start
    |> readMeter answers
    |> readCosts answers files
    |> readUnitCost answers
    |> readNumber answers .graceDays (fun n s => { s with graceDays := n })
    |> readNumber answers .warning (fun x s => { s with observer := s.observer.withWarning x })
    |> readNumber answers .alerts (fun n s => { s with observer := s.observer.withAlerts n })
    |> readNumber answers .interval (fun n s => { s with interval := max n 1 })
    |> readDatabaseUrl answers
    |> readNumber answers .statementTimeout (fun n s => { s with statementTimeout := some n })
    |> checkMeter

/-- Load settings. -/
def load (answers : Answers) (files : CostFiles) : Except ConfigError Settings :=
  (draft answers files).result

/-- The address of the database, which some callers cannot do without. -/
def requireDatabaseUrl (s : Settings) : Except ConfigError String :=
  match s.databaseUrl with
  | some url => .ok url
  | none => .error (.notFound databaseUrlKey)

/-! ### From layers and files -/

/-- Read a cost table from a file. -/
def costFiles (files : Config.Files) : CostFiles := fun path =>
  match files.read path with
  | .error e => .error (.file e)
  | .ok content => match CostTable.ofYaml? content with
    | some table => .ok table
    | none => .error .yaml

/-- Load settings from a layer. -/
def ofLayer (s : Config.Surroundings) (l : Config.Layer) :
    Except ConfigError Settings × Config.Layer :=
  let (answers, l) := l.getAll s keys
  (load (fun key => (answers.lookup key).getD (.ok none)) (costFiles s.files), l)

end Settings

end Turnstile
