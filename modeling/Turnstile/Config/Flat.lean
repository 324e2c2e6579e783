/-
Nested configuration as flat keys.

A file's value is a tree; a key of the configuration is a path through its objects, with
points between the names.  A leaf is kept as text: a string as it is, anything else as
JSON.  Nulls leave no key.
-/
import Turnstile.Json.Value

namespace Turnstile.Config

/-- A key below another; at the root it stands alone. -/
def joinKey (parent key : String) : String :=
  if parent.isEmpty then key else parent ++ "." ++ key

mutual

/-- The keys and texts below a key, in the order of their names. -/
def flatten (key : String) : Json → List (String × String)
  | .null => []
  | .string s => [(key, s)]
  | .object members => flattenMembers key members
  | v => [(key, v.compact)]

/-- The keys and texts of an object's members. -/
def flattenMembers (key : String) : List (String × Json) → List (String × String)
  | [] => []
  | (k, v) :: rest => flatten (joinKey key k) v ++ flattenMembers key rest

end

/-- The texts of a value by key, sorted; of two leaves with one key the later stays. -/
def flat (v : Json) : List (String × String) := Json.sortMembers (flatten "" v)

end Turnstile.Config
