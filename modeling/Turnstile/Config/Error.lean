/-
What can be wrong with a configuration.
-/
import Turnstile.Config.Environment
import Turnstile.Config.Files
import Turnstile.Number.Reading

namespace Turnstile

open Config

/-- Why a value is not what its key needs. -/
inductive ValueError
  | number (e : NumberError)
  /-- The value breaks a rule, given in words. -/
  | rule (words : String)
  /-- The value is no JSON of the right kind. -/
  | json
  /-- The file that the value names cannot be read. -/
  | file (e : FileError)
  /-- The file that the value names is no YAML of the right kind. -/
  | yaml
deriving DecidableEq, Repr

/-- What is wrong with a configuration. -/
inductive ConfigError
  | notFound (key : String)
  | invalidValue (key : String) (cause : ValueError)
  | file (e : FileError)
  /-- Reading or writing failed, for a reason given in words. -/
  | io (words : String)
  /-- A file is no YAML; its reader's words may not be known. -/
  | yaml (words : Option String)
  | json
  | environment (e : VariableError)
  | provider (words : String)
  /-- Several things at once. -/
  | several (errors : List ConfigError)
deriving Repr

/-- The words for it, where they are known. -/
def ValueError.message? : ValueError → Option String
  | number e => some e.message
  | rule words => some words
  | file e => some ("IO error: " ++ e.message)
  | json | yaml => none

namespace ConfigError

mutual

/-- The words for it, where they are known. -/
def message? : ConfigError → Option String
  | notFound key => some ("Key not found: " ++ key)
  | invalidValue key cause => cause.message?.map fun m => "Invalid value for " ++ key ++ ": " ++ m
  | file e => some ("IO error: " ++ e.message)
  | io words => some ("IO error: " ++ words)
  | yaml words => words.map ("YAML error: " ++ ·)
  | json => none
  | environment e => some ("Environment error: " ++ e.message)
  | provider words => some ("Provider error: " ++ words)
  | several errors => (messages? errors).map fun ms => "Validation failed: " ++ "; ".intercalate ms

/-- The words for each of several errors. -/
def messages? : List ConfigError → Option (List String)
  | [] => some []
  | e :: rest => do
    let m ← message? e
    let ms ← messages? rest
    some (m :: ms)

end

/-- One error for a list of them: the only one stands for itself. -/
def ofList : List ConfigError → ConfigError
  | [e] => e
  | errors => several errors

end ConfigError

end Turnstile
