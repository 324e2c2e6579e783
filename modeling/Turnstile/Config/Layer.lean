/-
Layers of configuration.

A layer answers for a key with a text, with nothing, or with an error.  Texts come from
memory, from environment variables, from a file, or from a stack of layers where the
first one that has the key wins.  A file is read when it is first needed; once that
succeeds the layer keeps what it read, so an answer comes with the layer as it is
afterwards.
-/
import Turnstile.Config.Error
import Turnstile.Config.Flat
import Turnstile.Json.Reader
import Turnstile.Outcome
import Turnstile.Text.Blank
import Turnstile.Text.LetterCase
import Turnstile.Wire.Decoder
import Turnstile.Yaml.Schema

namespace Turnstile.Config

/-- What layers read from. -/
structure Surroundings where
  files : Files
  environment : Environment

/-- Texts by key, sorted. -/
abbrev Texts := List (String × String)

/-- A layer of configuration. -/
inductive Layer
  | memory (name : String) (values : Texts)
  /-- The variables whose names start with `stem`. -/
  | environment (stem : String)
  /-- A file, and what was read from it.  One that is not required may be absent. -/
  | file (path : String) (required : Bool) (kept : Option Texts)
  /-- Layers, the first before the others. -/
  | stack (layers : List Layer)

/-! ### Files -/

/-- Is the file YAML?  Every other one is JSON. -/
def isYamlFile (path : String) : Bool :=
  let ext := Files.extension? path
  ext = some "yaml" || ext = some "yml"

/-- The texts of a file's content. -/
def textsOf (yaml : Bool) (content : String) : Except ConfigError Texts :=
  if yaml then
    match Yaml.value? content with
    | some v => .ok (flat v)
    | none => .error (.yaml none)
  else
    match Json.parse? content with
    | some v => .ok (flat v)
    | none => .error .json

/-- Read a file; one that is not required and absent holds no texts. -/
def loadFile (files : Files) (path : String) (required : Bool) : Except ConfigError Texts :=
  if !required && !files.has path then .ok []
  else match files.read path with
    | .ok content => textsOf (isYamlFile path) content
    | .error e => .error (.file e)

/-! ### Environment variables -/

/-- The variable for a key: in capitals after the stem, with underscores for points. -/
def variableName (stem key : String) : String :=
  stem ++ String.ofList ((Text.upper key).toList.map fun c => if c = '.' then '_' else c)

/-- The text of the variable for a key. -/
def variableText? (env : Environment) (stem key : String) : Except ConfigError (Option String) :=
  match env.get (variableName stem key) with
  | .ok s => .ok (some s)
  | .error .missing => .ok none
  | .error e => .error (.environment e)

/-- The variables for the keys that start with a text, without the stem and in small letters. -/
def variableKeys (stem start : String) (names : List String) : List String :=
  let sought := (variableName stem start).toList
  (names.filter fun n => sought.isPrefixOf n.toList).map fun n =>
    Text.lower (String.ofList (n.toList.drop stem.length))

/-! ### Keys in order -/

/-- Put a key among sorted ones, once. -/
def insertKey (key : String) : List String → List String
  | [] => [key]
  | k :: rest =>
    if key = k then k :: rest
    else if key < k then key :: k :: rest
    else k :: insertKey key rest

/-- The keys of two lists, sorted, each once. -/
def unite (added sorted : List String) : List String := added.foldr insertKey sorted

/-- The keys of texts that start with a text. -/
def keysOf (start : String) (ts : Texts) : List String :=
  (ts.map (·.1)).filter fun k => start.toList.isPrefixOf k.toList

namespace Layer

/-- The name of a layer. -/
def name : Layer → String
  | memory name _ => name
  | environment _ => "env"
  | file .. => "file"
  | stack _ => "composite"

/-- The layers of a stack. -/
def layers : Layer → List Layer
  | stack ls => ls
  | l => [l]

mutual

/-- The text a layer has for a key. -/
def get (s : Surroundings) (key : String) : Layer → Except ConfigError (Option String) × Layer
  | memory name values => (.ok (values.lookup key), memory name values)
  | environment stem => (variableText? s.environment stem key, environment stem)
  | file path required (some kept) => (.ok (kept.lookup key), file path required (some kept))
  | file path required none =>
    match loadFile s.files path required with
    | .ok texts => (.ok (texts.lookup key), file path required (some texts))
    | .error e => (.error e, file path required none)
  | stack ls =>
    let (answer, ls) := first s key ls
    (answer.map fun found => found.map (·.1), stack ls)

/-- The text of the first layer that has one for the key, and the name of that layer. -/
def first (s : Surroundings) (key : String) :
    List Layer → Except ConfigError (Option (String × String)) × List Layer
  | [] => (.ok none, [])
  | l :: rest =>
    match get s key l with
    | (.error e, l) => (.error e, l :: rest)
    | (.ok (some text), l) => (.ok (some (text, name l)), l :: rest)
    | (.ok none, l) =>
      let (answer, rest) := first s key rest
      (answer, l :: rest)

end

mutual

/-- The keys of a layer that start with a text.  Variables are listed only if all of them are
text. -/
def list (s : Surroundings) (start : String) : Layer → Outcome ConfigError (List String) × Layer
  | memory name values => (.ok (keysOf start values), memory name values)
  | environment stem =>
    match s.environment.names? with
    | some names => (.ok (variableKeys stem start names).mergeSort, environment stem)
    | none => (.crashed, environment stem)
  | file path required (some kept) => (.ok (keysOf start kept), file path required (some kept))
  | file path required none =>
    match loadFile s.files path required with
    | .ok texts => (.ok (keysOf start texts), file path required (some texts))
    | .error e => (.error e, file path required none)
  | stack ls =>
    let (answer, ls) := union s start ls
    (answer, stack ls)

/-- The keys of several layers, sorted, each once. -/
def union (s : Surroundings) (start : String) :
    List Layer → Outcome ConfigError (List String) × List Layer
  | [] => (.ok [], [])
  | l :: rest =>
    match list s start l with
    | (.ok keys, l) =>
      match union s start rest with
      | (.ok more, rest) => (.ok (unite keys more), l :: rest)
      | (failed, rest) => (failed, l :: rest)
    | (failed, l) => (failed, l :: rest)

end

/-- The text of a key and the name of the layer of a stack that has it. -/
def source (s : Surroundings) (key : String) (l : Layer) :
    Except ConfigError (Option (String × String)) × Layer :=
  let (answer, ls) := first s key l.layers
  (answer, match l with
    | stack _ => stack ls
    | l => ls.headD l)

/-- The answers for several keys, one after another. -/
def getAll (s : Surroundings) (l : Layer) :
    List String → List (String × Except ConfigError (Option String)) × Layer
  | [] => ([], l)
  | key :: rest =>
    let (answer, l) := l.get s key
    let (answers, l) := l.getAll s rest
    ((key, answer) :: answers, l)

/-! ### Layers in memory -/

/-- A layer in memory with texts in any order. -/
def ofTexts (name : String) (texts : Texts) : Layer := memory name (Json.sortMembers texts)

/-- Set a text of a layer in memory. -/
def insert (key text : String) : Layer → Layer
  | memory name values => memory name (Json.insertMember key text values)
  | l => l

/-- Remove a text of a layer in memory. -/
def erase (key : String) : Layer → Layer
  | memory name values => memory name (values.filter (·.1 ≠ key))
  | l => l

/-- How many texts a layer in memory has. -/
def size : Layer → Nat
  | memory _ values => values.length
  | _ => 0

/-- The description of a layer in diagnostics. -/
def describe : Layer → String
  | file path required _ =>
    "FileConfigProvider \x7b path: " ++ Text.quotedName path ++ ", required: " ++
      toString required ++ " \x7d"
  | l =>
    "CompositeConfigProvider \x7b providers: " ++ Text.quotedList (l.layers.map name) ++ " \x7d"

end Layer

/-! ### Typed values -/

/-- A text without blanks at its ends; one that is all blank counts as absent. -/
def asText (raw : Option String) : Option String :=
  (raw.map Text.trim).filter fun s => !s.isEmpty

/-- A value that a text spells, between blanks. -/
def asValue {α : Type} (key : String) (read : String → Except NumberError α)
    (raw : Option String) : Except ConfigError (Option α) :=
  match raw with
  | none => .ok none
  | some s => match read (Text.trim s) with
    | .ok a => .ok (some a)
    | .error e => .error (.invalidValue key (.number e))

/-- A value that a JSON text holds. -/
def asJson {α : Type} (key : String) (d : Wire.Decoder α) (raw : Option String) :
    Except ConfigError (Option α) :=
  match raw with
  | none => .ok none
  | some s => match (Json.Tree.parse? s).bind d with
    | some a => .ok (some a)
    | none => .error (.invalidValue key .json)

end Turnstile.Config
