/-
Environment variables.

The environment is a list of entries `name=value`; what is after the name may be any
bytes.  A look-up takes the first entry that starts with the name and an equals sign.
-/
import Turnstile.Text.Utf8

namespace Turnstile.Config

/-- Why a variable has no text. -/
inductive VariableError
  | missing
  | notText (value : List UInt8)
deriving DecidableEq, Repr

/-- The words for it. -/
def VariableError.message : VariableError → String
  | missing => "environment variable not found"
  | notText value => "environment variable was not valid unicode: " ++ Text.quotedBytes value

/-- Variables and the bytes of their values. -/
structure Environment where
  bindings : List (String × List UInt8)

namespace Environment

/-- No variables. -/
def empty : Environment := ⟨[]⟩

/-- Remove a variable. -/
def erase (env : Environment) (name : String) : Environment :=
  ⟨env.bindings.filter (·.1 ≠ name)⟩

/-- Set a variable. -/
def put (env : Environment) (name : String) (value : List UInt8) : Environment :=
  ⟨(name, value) :: (env.erase name).bindings⟩

/-- What follows a name and an equals sign in an entry.  The name may reach into the value, where
that holds an equals sign of its own. -/
def valueOf? (name : String) (entry : String × List UInt8) : Option (List UInt8) :=
  let sought := name.toUTF8.toList ++ [0x3D]
  let bytes := entry.1.toUTF8.toList ++ 0x3D :: entry.2
  if sought.isPrefixOf bytes then some (bytes.drop sought.length) else none

/-- The value of a variable. -/
def get (env : Environment) (name : String) : Except VariableError String :=
  if name.isEmpty || name.toList.any fun c => c.toNat = 0 then .error .missing
  else match env.bindings.findSome? (valueOf? name) with
    | none => .error .missing
    | some value => match Text.ofBytes? value with
      | some s => .ok s
      | none => .error (.notText value)

/-- The names of all variables, if all their values are text. -/
def names? (env : Environment) : Option (List String) :=
  env.bindings.mapM fun (name, value) => (Text.ofBytes? value).map fun _ => name

end Environment

end Turnstile.Config
