/-
What YAML nodes mean.

Plain scalars read as null, a truth value, a whole number or a float if they are spelled
like one, and as text if not.  Only `true` and `false`, in any case of letters, are truth
values, and digits after a leading zero are text.  A quoted scalar is text.  Keys are the
text of a scalar, and no mapping has one twice.

A document is read simply first.  Where that gives no answer it is read richly: then
scalars may spell bytes, and the key `<<` takes in the members of another mapping, but
keys have to be text by themselves, and all of the document has to make sense, also what
is not asked for.

An alias has the value of the node it stands for.  How many aliases may be followed grows
with the size of the document, so that a small document has no huge value.
-/
import Turnstile.Json.Value
import Turnstile.Number.Reading
import Turnstile.Text.Base64
import Turnstile.Yaml.Document

namespace Turnstile.Yaml

/-! ### Scalars -/

/-- The words for null. -/
def isNullWord (s : String) : Bool := s = "null" || s = "Null" || s = "NULL" || s = "~"

/-- The spellings of null. -/
def isNull (s : String) : Bool := s.isEmpty || isNullWord s

/-- The truth value a text spells. -/
def truth? (s : String) : Option Bool :=
  match s.toLower with
  | "true" => some true
  | "false" => some false
  | _ => none

/-- The truth value of a word that is said to be one. -/
def truthWord? (s : String) : Option Bool :=
  match s.toLower with
  | "y" | "yes" | "on" => some true
  | "n" | "no" | "off" => some false
  | _ => truth? s

/-- The value of digits in a base, at least one. -/
def digits? (base : Nat) (cs : List Char) : Option Nat :=
  if cs.isEmpty then none
  else cs.foldlM (fun n c => do
    let d ← Text.hexValue? c
    if d < base then some (n * base + d) else none) 0

/-- A whole number without its sign: decimal digits with no zero in front, or digits of another
base behind its mark. -/
def magnitude? : List Char → Option Nat
  | '0' :: 'x' :: rest => digits? 16 rest
  | '0' :: 'o' :: rest => digits? 8 rest
  | '0' :: 'b' :: rest => digits? 2 rest
  | '0' :: _ :: _ => none
  | cs => digits? 10 cs

/-- The whole number a text spells. -/
def whole? (s : String) : Option Int :=
  match s.toList with
  | '-' :: cs => (magnitude? cs).map fun n => -(n : Int)
  | '+' :: cs => (magnitude? cs).map fun n => (n : Int)
  | cs => (magnitude? cs).map fun n => (n : Int)

/-- Decimal digits behind a zero, perhaps with a sign. -/
def isPadded (s : String) : Bool :=
  let cs := match s.toList with
    | '-' :: rest => rest
    | '+' :: rest => rest
    | cs => cs
  cs.length > 1 && cs.head? = some '0' && cs.all Char.isDigit

/-- The float a text spells; infinity and no number have marks of their own. -/
def float? (s : String) : Option Float :=
  let cs := match s.toList with
    | '+' :: rest => rest
    | cs => cs
  let word := String.ofList cs
  let signed := s.startsWith "+" && (cs.head? = some '+' || cs.head? = some '-')
  if signed then none
  else if word = ".inf" || word = ".Inf" || word = ".INF" then some Decimal.infinity
  else if word = "-.inf" || word = "-.Inf" || word = "-.INF" then some (-Decimal.infinity)
  else if s = ".nan" || s = ".NaN" || s = ".NAN" then some (0.0 / 0.0)
  else match readFloat word with
    | .ok x => if x.isFinite then some x else none
    | .error _ => none

/-- Whole numbers between the least and greatest of 128 bits are numbers, if too large for use. -/
def isWide (n : Int) : Bool :=
  -(Int.ofNat (1 <<< 127)) ≤ n && n < Int.ofNat (1 <<< 128)

/-- Whole numbers that a value can hold. -/
def isHeld (n : Int) : Bool := Signed64.least ≤ n && n ≤ WholeRange.word.greatest

/-- The value of a plain scalar. -/
def plainValue? (s : String) : Option Json :=
  if isNull s then some .null
  else match truth? s, (whole? s).filter isWide with
    | some b, _ => some (.bool b)
    | none, some n => if isHeld n then some (.whole n) else none
    | none, none =>
      match if isPadded s then none else float? s with
      | some x => some (if x.isFinite then .float x else .null)
      | none => some (.string s)

/-- How a document is read. -/
inductive Manner
  /-- The key `<<` and bytes mean nothing. -/
  | simple
  /-- The key `<<` and bytes have their meaning, and keys are text. -/
  | rich
  /-- As richly, but tags of one's own are passed over, and keys may be any scalar. -/
  | loose
deriving DecidableEq

/-- Tags of one's own have no meaning here. -/
def isOwnTag (tag : String) : Bool := tag.startsWith "!"

/-- The value of a scalar with a tag. -/
def taggedValue? (m : Manner) (tag s : String) : Option Json :=
  match tag with
  | "tag:yaml.org,2002:bool" => (truthWord? s).map .bool
  | "tag:yaml.org,2002:int" => ((whole? s).filter isHeld).map .whole
  | "tag:yaml.org,2002:float" => (float? s).map fun x => if x.isFinite then .float x else .null
  | "tag:yaml.org,2002:null" => if isNullWord s then some .null else none
  | "tag:yaml.org,2002:binary" =>
    if m ≠ .simple then
      (Text.Base64.decode? s.toList).map fun bytes => .array (bytes.map fun b => .whole b.toNat)
    else none
  | _ => if isOwnTag tag then none else some (.string s)

/-- The value of a scalar that has no tag. -/
def untaggedValue? (plain : Bool) (s : String) : Option Json :=
  if plain then plainValue? s else some (.string s)

/-- The value of a scalar. -/
def scalarValue? (m : Manner) (tag : Option String) (plain : Bool) (s : String) : Option Json :=
  match tag with
  | some t => if m = .loose && isOwnTag t then untaggedValue? plain s else taggedValue? m t s
  | none => untaggedValue? plain s

/-- A collection with the tag has no value. -/
def refusesTag (m : Manner) (tag : Option String) : Bool := m ≠ .loose && tag.any isOwnTag

/-! ### Aliases -/

/-- A reading that may follow a number of aliases. -/
abbrev Following (α : Type) : Type := StateT Nat Option α

/-- A document asks for no more aliases to be followed than so many for each of its parts. -/
def aliasesPerPart : Nat := 100

namespace Document

/-- The node itself, or the node that it stands for. -/
def follow (d : Document) : Node → Following Node
  | .alias number => fun left =>
    match left, d.anchored? number with
    | n + 1, some target => some (target, n)
    | _, _ => none
  | n => pure n

/-! ### Collections -/

/-- The text of a key. -/
def key (d : Document) (m : Manner) (n : Node) : Following String := do
  match ← d.follow n, m with
  | .scalar tag plain s, .rich =>
    match scalarValue? m tag plain s with
    | some (.string k) => return k
    | _ => failure
  | .scalar _ _ s, _ => return s
  | _, _ => failure

/-- No key comes twice. -/
def distinctKeys {α : Type} : List (String × α) → Bool
  | [] => true
  | (k, _) :: rest => (rest.lookup k).isNone && distinctKeys rest

/-- The members that a mapping has by itself. -/
def ownMembers (d : Document) (m : Manner) (ms : List (Node × Node)) :
    Following (List (String × Node)) := do
  let keyed ← ms.mapM fun p => do return (← d.key m p.1, p.2)
  if distinctKeys keyed then return keyed else failure

/-- The key that takes in the members of another mapping, or of several. -/
def mergeKey : String := "<<"

/-- Add members to others, where those that are there already stay. -/
def addMembers (own added : List (String × Node)) : List (String × Node) :=
  own ++ added.filter fun p => (own.lookup p.1).isNone

/-- The members of a mapping that another one takes in. -/
def takenFrom (d : Document) (m : Manner) (n : Node) : Following (List (String × Node)) := do
  match ← d.follow n with
  | .mapping tag ms => if tag.any isOwnTag then failure else d.ownMembers m ms
  | _ => failure

/-- The members that a value of the key `<<` brings.  Of several mappings a later one goes before
an earlier one. -/
def taken (d : Document) (m : Manner) (n : Node) : Following (List (String × Node)) := do
  match ← d.follow n with
  | .sequence tag ns =>
    if tag.any isOwnTag then failure
    else return (← ns.mapM (d.takenFrom m)).foldl (fun earlier later => addMembers later earlier) []
  | n => d.takenFrom m n

/-- The members of a mapping by their keys.  Its own members go before those it takes in. -/
def members (d : Document) (m : Manner) (ms : List (Node × Node)) :
    Following (List (String × Node)) := do
  let own ← d.ownMembers m ms
  match m, own.lookup mergeKey with
  | .simple, _ | _, none => return own
  | _, some n => return addMembers (own.filter (·.1 ≠ mergeKey)) (← d.taken m n)

/-- Collections nest no deeper than this. -/
def depthLimit : Nat := 128

/-- The value of a node that nests no deeper than the fuel. -/
def valueWithin (d : Document) (m : Manner) : Nat → Node → Following Json
  | 0, n => do
    match ← d.follow n with
    | .scalar tag plain s => scalarValue? m tag plain s
    | _ => failure
  | fuel + 1, n => do
    match ← d.follow n with
    | .scalar tag plain s => scalarValue? m tag plain s
    | .sequence tag ns =>
      if refusesTag m tag then failure
      else return .array (← ns.mapM (valueWithin d m fuel))
    | .mapping tag ms =>
      if refusesTag m tag then failure
      else
        let values ← (← d.members m ms).mapM fun p => do return (p.1, ← valueWithin d m fuel p.2)
        return .ofMembers values
    | .alias _ => failure

/-- Read from the root of a document. -/
def run? {α : Type} (d : Document) (read : Node → Following α) : Option α :=
  ((read d.root).run (aliasesPerPart * d.parts)).map (·.1)

/-- All of the document makes sense. -/
def isSound (d : Document) : Bool := (d.run? (d.valueWithin .loose depthLimit)).isSome

/-- The answer of a reading, simple if it gives one and rich if not. -/
def reading? {α : Type} (d : Document) (read : Manner → Node → Following α) : Option α :=
  match d.run? (read .simple) with
  | some a => some a
  | none => if d.isSound then d.run? (read .rich) else none

/-- The value of a document. -/
def value? (d : Document) : Option Json := d.reading? fun m => d.valueWithin m depthLimit

end Document

/-- The value of a YAML text; a text without a document is null. -/
def value? (text : String) : Option Json :=
  match Document.ofText? text with
  | some (some d) => d.value?
  | some none => some .null
  | none => none

end Turnstile.Yaml
