/-
Cost tables as YAML documents.

A document is a mapping that may set the price of other tools and the prices of named
ones; other members are passed over.  Null stands for an empty mapping.
-/
import Turnstile.CostTable
import Turnstile.Yaml.Schema

namespace Turnstile.CostTable

open Yaml (Document Following Manner Node)

/-- A table that sets no price. -/
def unset : CostTable := uniform 0

/-- A price: a plain whole number in the range of signed 64 bits.  A rich reading passes over tags
of one's own. -/
def price (d : Document) (m : Manner) (n : Node) : Following Int := do
  match ← d.follow n with
  | .scalar tag plain s =>
    let untagged := tag.all fun t => m = .rich && Yaml.isOwnTag t
    if (plain && untagged) || tag = some "tag:yaml.org,2002:int" then
      (Yaml.whole? s).bind Signed64.check?
    else failure
  | _ => failure

/-- Nothing is written here; in a rich reading, null. -/
def isBlank (m : Manner) : Node → Bool
  | .scalar tag plain s =>
    plain && (s.isEmpty || (m = .rich && Yaml.isNull s && tag.all Yaml.isOwnTag)) ||
      (m = .rich && tag = some "tag:yaml.org,2002:null" && Yaml.isNullWord s)
  | _ => false

/-- Prices by tool. -/
def prices (d : Document) (m : Manner) (n : Node) : Following (List (String × Int)) := do
  match ← d.follow n with
  | .mapping _ members =>
    let prices ← (← d.members m members).mapM fun p => do return (p.1, ← price d m p.2)
    return Json.sortMembers prices
  | n => if isBlank m n then return [] else failure

/-- The table of a node. -/
def ofNode (d : Document) (m : Manner) (n : Node) : Following CostTable := do
  match ← d.follow n with
  | .mapping _ members =>
    let ms ← d.members m members
    let default ← match ms.lookup "default_unit_cost" with
      | some n => price d m n
      | none => pure unset.default
    let tools ← match ms.lookup "tools" with
      | some n => prices d m n
      | none => pure unset.tools
    return ⟨default, tools⟩
  | n => if isBlank m n then return unset else failure

/-- The table of a YAML text. -/
def ofYaml? (text : String) : Option CostTable :=
  match Document.ofText? text with
  | some (some d) => d.reading? (ofNode d)
  | some none => some unset
  | none => none

end Turnstile.CostTable
