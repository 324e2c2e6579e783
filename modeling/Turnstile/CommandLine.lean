/-
The command that sweeps once.

It loads settings from environment variables, below which a variable may put a file,
and connects to the database they name.  What keeps it from going on is logged, and
before that the file that was read and the parts of the database's address that mean
nothing, as far as the log filter lets them through.
-/
import Turnstile.Config.Settings
import Turnstile.Database.Connection
import Turnstile.Telemetry.LogFilter

namespace Turnstile.CommandLine

open Config

/-- How the command ended. -/
structure Exit where
  code : Nat
  lines : List String
deriving DecidableEq, Repr

/-- The start of the names of the variables that settings come from. -/
def stem : String := "ENTITLEMENTS_"

/-- The file that settings come from, if a variable names one. -/
def configPath? (env : Environment) : Option String :=
  match env.get (stem ++ "CONFIG") with
  | .ok path => some path
  | .error _ => none

/-- The layers of the configuration: variables, then the file. -/
def layer (env : Environment) : Layer :=
  .stack (.environment stem :: match configPath? env with
    | some path => [.file path true none]
    | none => [])

/-- The file of the cost table, if one is set. -/
def costPath? (s : Surroundings) : Option String :=
  match ((layer s.environment).get s Settings.costPathKey).1 with
  | .ok raw => asText raw
  | .error _ => none

/-- The log filter: the one a variable sets if it can be read, else one for lines of interest to
everyone. -/
def logFilter (env : Environment) : LogFilter :=
  let usual : LogFilter := ⟨[⟨.info, none, false, []⟩]⟩
  match env.get "RUST_LOG" with
  | .ok s => (LogFilter.parse? s).getD usual
  | .error _ => usual

/-- A line of the log, the part of the program it comes from, and its fields. -/
structure Line where
  level : LogLevel
  target : String
  message : String
  fields : List (String × String)

namespace Line

/-- The name of a level in a line. -/
def word : LogLevel → String
  | .off => ""
  | .error => "ERROR"
  | .warn => "WARN"
  | .info => "INFO"
  | .debug => "DEBUG"
  | .trace => "TRACE"

/-- The line as it is written. -/
def text (l : Line) : String :=
  word l.level ++ " " ++ l.message ++ String.join (l.fields.map fun (k, v) => " " ++ k ++ "=" ++ v)

/-- Does the filter let the line through? -/
def passes (f : LogFilter) (l : Line) : Bool :=
  f.writes l.level l.target ("message" :: l.fields.map (·.1))

/-- A file was read. -/
def loaded (path : String) (texts : Texts) : Line :=
  ⟨.debug, "entitlement_gate::config::file", "Loaded config file",
    [("path", path), ("keys", toString texts.length)]⟩

/-- A part of an address means nothing. -/
def ignored (key value : String) : Line :=
  ⟨.warn, "sqlx_postgres::options::parse", "ignoring unrecognized connect parameter",
    [("key", key), ("value", value)]⟩

/-- The command failed. -/
def failed (cause : String) : Line :=
  ⟨.error, "entitlement_reconcile", "Reconciliation failed", [("error", cause)]⟩

end Line

/-- The files that layers have read. -/
def filesRead (l : Layer) : List Line :=
  l.layers.filterMap fun
    | .file path _ (some texts) => some (Line.loaded path texts)
    | _ => none

/-- The log of a run, up to what keeps the command from sweeping. -/
def log (s : Surroundings) : List Line :=
  let (settings, l) := Settings.ofLayer s (layer s.environment)
  filesRead l ++ match settings.bind fun settings => settings.requireDatabaseUrl with
    | .ok address =>
      (Database.ignoredParts address).map (fun (key, value) => Line.ignored key value) ++
        [Line.failed (Database.connectError address)]
    | .error e => [Line.failed (e.message?.getD "")]

/-- Run the command. -/
def run (s : Surroundings) : Exit :=
  let filter := logFilter s.environment
  ⟨1, ((log s).filter (Line.passes filter)).flatMap fun l => l.text.splitOn "\n"⟩

end Turnstile.CommandLine
