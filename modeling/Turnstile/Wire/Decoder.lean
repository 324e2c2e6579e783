/-
Decoding JSON text into records.

A decoder looks at the tree of a text and answers with a value, or not at all.  A record
is an object with a member for each field, or an array of the fields in their order.
Members that no field has are passed over, whatever they hold; a field that comes twice
is an error.
-/
import Turnstile.Json.Reader
import Turnstile.Time.Timestamp

namespace Turnstile.Wire

open Json (Tree)

/-- Reads a value from the tree of a JSON text. -/
abbrev Decoder (α : Type) := Tree → Option α

namespace Decoder

/-! ### Simple values -/

/-- A string. -/
def text : Decoder String
  | .string s => s
  | _ => none

/-- A signed 64-bit number. -/
def count : Decoder Int
  | .number n => match n.value? with
    | some (.whole i) => Signed64.check? i
    | _ => none
  | _ => none

/-- A truth value. -/
def truth : Decoder Bool
  | .bool b => some b
  | _ => none

/-- A timestamp. -/
def timestamp : Decoder Timestamp := fun t => (text t).bind Timestamp.parse?

/-- A value, or nothing for `null`. -/
def nullable {α : Type} (d : Decoder α) : Decoder (Option α)
  | .null => some none
  | t => (d t).map some

/-- A list. -/
def list {α : Type} (d : Decoder α) : Decoder (List α)
  | .array ts => ts.mapM d
  | _ => none

/-- Values by name, sorted; the last of several with one name stays. -/
def table {α : Type} (d : Decoder α) : Decoder (List (String × α))
  | .object ms => (ms.mapM fun (m : Option String × Tree) => do
      let k ← m.1
      let v ← d m.2
      some (k, v)).map Json.sortMembers
  | _ => none

/-- One of several words, by itself or as the only member of an object, with `null`. -/
def word {α : Type} (words : List (String × α)) : Decoder α
  | .string (some w) => words.lookup w
  | .object [(some w, .null)] => words.lookup w
  | _ => none

end Decoder

/-! ### Records -/

/-- What a text says about the fields of a record. -/
structure Fields where
  /-- The tree of each field in order, if it is there. -/
  trees : List (Option Tree)
  /-- Were the fields given by position? -/
  positional : Bool

namespace Fields

/-- Sort members to fields by name. -/
def place (names : List String) : List (Option String × Tree) → List (Option Tree) →
    Option (List (Option Tree))
  | [], found => some found
  | (none, _) :: _, _ => none
  | (some k, t) :: rest, found =>
    match names.findIdx? (· = k) with
    | none => place names rest found
    | some i =>
      if (found[i]?.join).isSome then none else place names rest (found.set i (some t))

/-- The fields of a record with the names given. -/
def ofTree (names : List String) : Tree → Option Fields
  | .object ms =>
    (place names ms (List.replicate names.length none)).map fun trees => ⟨trees, false⟩
  | .array ts =>
    if ts.length ≤ names.length then
      some ⟨ts.map some ++ List.replicate (names.length - ts.length) none, true⟩
    else none
  | _ => none

/-- The tree of a field, if it is there. -/
def tree? (f : Fields) (i : Nat) : Option Tree := f.trees[i]?.join

/-- A field that has to be there. -/
def required {α : Type} (f : Fields) (i : Nat) (d : Decoder α) : Option α := (f.tree? i).bind d

/-- A field that may hold `null`.  By name it may be left out, by position it may not. -/
def optional {α : Type} (f : Fields) (i : Nat) (d : Decoder α) : Option (Option α) :=
  match f.tree? i with
  | some t => d.nullable t
  | none => if f.positional then none else some none

/-- A field with a value for when it is left out. -/
def withDefault {α : Type} (f : Fields) (i : Nat) (value : α) (d : Decoder α) : Option α :=
  match f.tree? i with
  | some t => d t
  | none => some value

end Fields

/-- Decode a text. -/
def Decoder.parse? {α : Type} (d : Decoder α) (s : String) : Option α := do
  let t ← Tree.parse? s
  d t

end Turnstile.Wire
