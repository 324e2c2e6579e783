/-
The nodes of a YAML document.

A document is one node: a scalar, a sequence or a mapping.  An anchor names a node, and an
alias stands for the node named so last before it.  What an alias stands for is looked up
when the value is read, and a node may hold an alias of itself.  `Document.first?` has no
answer where the first document breaks a rule.
-/
import Turnstile.Yaml.Token

namespace Turnstile.Yaml

/-- A node, with its tag if it has one. -/
inductive Node
  | scalar (tag : Option String) (plain : Bool) (text : String)
  | sequence (tag : Option String) (items : List Node)
  | mapping (tag : Option String) (members : List (Node × Node))
  /-- The node with a number. -/
  | alias (number : Nat)

/-- A node that has an anchor. -/
structure Anchored where
  /-- The number that aliases of it hold. -/
  number : Nat
  /-- How many anchors come before it. -/
  order : Nat
  node : Node

namespace Node

/-- The node where there is nothing. -/
def blank : Node := .scalar none true ""

/-- What is left to read of a document, and what was found so far. -/
structure Rest where
  tokens : List Token
  /-- The names in use, with the numbers they stand for. -/
  names : List (String × Nat)
  /-- How many anchors there are. -/
  anchors : Nat
  /-- How many aliases there are. -/
  aliases : Nat
  /-- How many scalars and aliases there are, and starts and ends of collections. -/
  parts : Nat
  /-- The nodes that have an anchor. -/
  anchored : List Anchored

namespace Rest

/-- Nothing is read yet. -/
def start (tokens : List Token) : Rest := ⟨tokens, [], 0, 0, 0, []⟩

/-- Go on from other tokens. -/
def goto (tokens : List Token) (r : Rest) : Rest := { r with tokens }

/-- Count some parts. -/
def count (n : Nat) (r : Rest) : Rest := { r with parts := r.parts + n }

/-- Name the node that starts here.  Its number is the number of names so far, so that a name
given again makes the next new name share a number. -/
def name (a : String) (r : Rest) : Rest :=
  { r with
    names := (a, r.names.length) :: r.names.filter (·.1 ≠ a)
    anchors := r.anchors + 1 }

end Rest

/-- What stands before a node. -/
structure Properties where
  anchor : Option String
  tag : Option String

/-- Short and full names of tags. -/
abbrev Handles := List (String × String)

/-- The handles that need no direction. -/
def handles : Handles := [("!", "!"), ("!!", "tag:yaml.org,2002:")]

/-- The full name of a tag. -/
def tagName? (hs : Handles) (handle suffix : String) : Option String :=
  if handle.isEmpty then some suffix else (hs.lookup handle).map (· ++ suffix)

/-- The anchor and the tag before a node, in either order. -/
def properties? (hs : Handles) : List Token → Option (Properties × List Token)
  | .anchor a :: .tag h s :: rest => (tagName? hs h s).map fun t => (⟨some a, some t⟩, rest)
  | .tag h s :: .anchor a :: rest => (tagName? hs h s).map fun t => (⟨some a, some t⟩, rest)
  | .anchor a :: rest => some (⟨some a, none⟩, rest)
  | .tag h s :: rest => (tagName? hs h s).map fun t => (⟨none, some t⟩, rest)
  | rest => some (⟨none, none⟩, rest)

/-- A tag that says nothing leaves a scalar as it is. -/
def scalarTag (tag : Option String) : Option String := if tag = some "!" then none else tag

/-- No value stands before these tokens in a block. -/
def endsMember : List Token → Bool
  | .key :: _ | .value :: _ | .closeBlock :: _ => true
  | _ => false

/-- No item stands before these tokens in a sequence that has no indentation of its own. -/
def endsItem : List Token → Bool
  | .item :: _ => true
  | ts => endsMember ts

/-- No value stands before these tokens in a flow mapping. -/
def endsBraces : List Token → Bool
  | .comma :: _ | .closeBraces :: _ => true
  | _ => false

/-- No value stands before these tokens in a pair of a flow sequence. -/
def endsList : List Token → Bool
  | .comma :: _ | .closeList :: _ => true
  | _ => false

mutual

/-- Read a node.  In a block it may be a block itself; as a key or a value it may be a sequence
whose dashes are indented no further. -/
def read? (hs : Handles) (inBlock asMember : Bool) : Nat → Rest → Option (Node × Rest)
  | 0, _ => none
  | fuel + 1, r =>
    match r.tokens with
    | .alias name :: rest => do
      let number ← r.names.lookup name
      some (.alias number, { r with tokens := rest, aliases := r.aliases + 1, parts := r.parts + 1 })
    | tokens => do
      let (p, ts) ← properties? hs tokens
      let named := (p.anchor.map (r.name ·)).getD r
      let bare := if p.anchor.isSome || p.tag.isSome then
          match ts with
          | .broken :: _ => none
          | _ => some (Node.scalar p.tag true "", (named.goto ts).count 1)
        else none
      let (n, r') ← match ts with
        | .item :: _ =>
          if asMember then do
            let (items, r') ← looseItems? hs fuel ((named.goto ts).count 2)
            some (Node.sequence p.tag items, r')
          else bare
        | .scalar plain text :: rest =>
          some (.scalar (scalarTag p.tag) plain text, (named.goto rest).count 1)
        | .openList :: rest => do
          let (items, r') ← flowItems? hs true fuel ((named.goto rest).count 2)
          some (.sequence p.tag items, r')
        | .openBraces :: rest => do
          let (members, r') ← flowMembers? hs true fuel ((named.goto rest).count 2)
          some (.mapping p.tag members, r')
        | .openSequence :: rest =>
          if inBlock then do
            let (items, r') ← blockItems? hs fuel ((named.goto rest).count 2)
            some (.sequence p.tag items, r')
          else bare
        | .openMapping :: rest =>
          if inBlock then do
            let (members, r') ← blockMembers? hs fuel ((named.goto rest).count 2)
            some (.mapping p.tag members, r')
          else bare
        | _ => bare
      match p.anchor.bind fun a => named.names.lookup a with
      | some number =>
        some (n, { r' with anchored := ⟨number, r.anchors, n⟩ :: r'.anchored })
      | none => some (n, r')

/-- Read the items of a block sequence up to its end. -/
def blockItems? (hs : Handles) : Nat → Rest → Option (List Node × Rest)
  | 0, _ => none
  | fuel + 1, r =>
    match r.tokens with
    | .closeBlock :: rest => some ([], r.goto rest)
    | .item :: rest => do
      let r := r.goto rest
      let empty := match rest with
        | .item :: _ | .closeBlock :: _ => true
        | _ => false
      let (n, r) ← if empty then some (blank, r.count 1) else read? hs true false fuel r
      let (ns, r) ← blockItems? hs fuel r
      some (n :: ns, r)
    | _ => none

/-- Read the items of a sequence that has no indentation of its own. -/
def looseItems? (hs : Handles) : Nat → Rest → Option (List Node × Rest)
  | 0, _ => none
  | fuel + 1, r =>
    match r.tokens with
    | .item :: rest => do
      let r := r.goto rest
      let (n, r) ← if endsItem rest then some (blank, r.count 1) else read? hs true false fuel r
      let (ns, r) ← looseItems? hs fuel r
      some (n :: ns, r)
    | _ => some ([], r)

/-- Read the members of a block mapping up to its end. -/
def blockMembers? (hs : Handles) : Nat → Rest → Option (List (Node × Node) × Rest)
  | 0, _ => none
  | fuel + 1, r =>
    match r.tokens with
    | .closeBlock :: rest => some ([], r.goto rest)
    | .key :: rest => do
      let r := r.goto rest
      let (k, r) ← if endsMember rest then some (blank, r.count 1) else read? hs true true fuel r
      let (v, r) ← blockValue? hs fuel r
      let (ms, r) ← blockMembers? hs fuel r
      some ((k, v) :: ms, r)
    | _ => none

/-- Read the value of a block mapping's member, if it has one. -/
def blockValue? (hs : Handles) : Nat → Rest → Option (Node × Rest)
  | 0, _ => none
  | fuel + 1, r =>
    match r.tokens with
    | .value :: rest =>
      let r := r.goto rest
      if endsMember rest then some (blank, r.count 1) else read? hs true true fuel r
    | _ => some (blank, r.count 1)

/-- Read the items of a flow sequence up to its bracket.  Where a pair has no key, the token that
stands for it is passed over. -/
def flowItems? (hs : Handles) (first : Bool) : Nat → Rest → Option (List Node × Rest)
  | 0, _ => none
  | fuel + 1, r => do
    let tokens ← match first, r.tokens with
      | _, .closeList :: _ => some r.tokens
      | true, ts => some ts
      | false, .comma :: rest => some rest
      | false, _ => none
    let r := r.goto tokens
    match tokens with
    | .closeList :: rest => some ([], r.goto rest)
    | .key :: rest => do
      let r := (r.goto rest).count 2
      let noKey := match rest with
        | .value :: _ => true
        | ts => endsList ts
      let (k, r) ← if noKey then some (blank, (r.goto (rest.drop 1)).count 1)
        else read? hs false false fuel r
      let (v, r) ← match r.tokens with
        | .value :: rest =>
          let r := r.goto rest
          if endsList rest then some (blank, r.count 1) else read? hs false false fuel r
        | _ => some (blank, r.count 1)
      let (ns, r) ← flowItems? hs false fuel r
      some (.mapping none [(k, v)] :: ns, r)
    | _ => do
      let (n, r) ← read? hs false false fuel r
      let (ns, r) ← flowItems? hs false fuel r
      some (n :: ns, r)

/-- Read the members of a flow mapping up to its brace. -/
def flowMembers? (hs : Handles) (first : Bool) : Nat → Rest → Option (List (Node × Node) × Rest)
  | 0, _ => none
  | fuel + 1, r => do
    let tokens ← match first, r.tokens with
      | _, .closeBraces :: _ => some r.tokens
      | true, ts => some ts
      | false, .comma :: rest => some rest
      | false, _ => none
    let r := { r with tokens }
    match tokens with
    | .closeBraces :: rest => some ([], r.goto rest)
    | .key :: rest => do
      let r := r.goto rest
      let noKey := match rest with
        | .value :: _ => true
        | ts => endsBraces ts
      let (k, r) ← if noKey then some (blank, r.count 1) else read? hs false false fuel r
      let (v, r) ← match r.tokens with
        | .value :: rest =>
          let r := r.goto rest
          if endsBraces rest then some (blank, r.count 1) else read? hs false false fuel r
        | _ => some (blank, r.count 1)
      let (ms, r) ← flowMembers? hs false fuel r
      some ((k, v) :: ms, r)
    | _ => do
      let (k, r) ← read? hs false false fuel r
      let (ms, r) ← flowMembers? hs false fuel (r.count 1)
      some ((k, blank) :: ms, r)

end

end Node

/-! ### Documents -/

/-- A document. -/
structure Document where
  root : Node
  /-- The nodes that have an anchor. -/
  anchored : List Anchored
  /-- How many anchors there are. -/
  anchors : Nat
  /-- How many aliases there are. -/
  aliases : Nat
  /-- How many scalars and aliases there are, and starts and ends of collections. -/
  parts : Nat

namespace Document

open Node (Handles Rest)

/-- The node that an alias stands for: of those with its number, the one that starts last. -/
def anchored? (d : Document) (number : Nat) : Option Node :=
  ((d.anchored.filter (·.number = number)).foldl (fun best a =>
    match best with
    | some b => if b.order < a.order then some a else some b
    | none => some a) (none : Option Anchored)).map (·.node)

/-- The directions before a document; only versions 1.1 and 1.2 are known, and none comes twice. -/
def directions? : Bool → Handles → List Token → Option (Handles × List Token)
  | seen, hs, .version major minor :: rest =>
    if seen || major ≠ 1 || (minor ≠ 1 && minor ≠ 2) then none else directions? true hs rest
  | seen, hs, .handle name stem :: rest =>
    if (hs.lookup name).isSome then none else directions? seen ((name, stem) :: hs) rest
  | _, hs, rest => some (hs, rest)

/-- These tokens do not belong to the document before them, and none of them breaks a rule. -/
def isOutside : List Token → Bool
  | [] | .version .. :: _ | .handle .. :: _ | .startDocument :: _ | .endDocument :: _ => true
  | _ => false

/-- Read the start of a document: whether it says that it starts, its handles and the rest. -/
def start? (tokens : List Token) : Option (Bool × Handles × List Token) := do
  let directed := match tokens with
    | .version .. :: _ | .handle .. :: _ => true
    | _ => false
  let (hs, ts) ← directions? false [] tokens
  match ts with
  | .startDocument :: rest => some (true, hs ++ Node.handles, rest)
  | _ => if directed then none else some (false, hs ++ Node.handles, ts)

/-- Read a document, and say what follows it. -/
def first? (tokens : List Token) : Option (Document × List Token) := do
  let (explicit, hs, ts) ← start? tokens
  if explicit && isOutside ts then some (⟨Node.blank, [], 0, 0, 1⟩, ts)
  else
    let (n, r) ← Node.read? hs true false (3 * ts.length + 3) (.start ts)
    some (⟨n, r.anchored, r.anchors, r.aliases, r.parts⟩, r.tokens)

/-- A further document starts here, and its first node can be read. -/
def starts (tokens : List Token) : Bool :=
  match start? tokens with
  | some (true, hs, ts) =>
    isOutside ts || match Node.properties? hs ts with
      | some (p, t :: _) =>
        match t with
        | .scalar .. | .openList | .openBraces | .openSequence | .openMapping => true
        | .broken => false
        | _ => p.anchor.isSome || p.tag.isSome
      | some (p, []) => p.anchor.isSome || p.tag.isSome
      | none => false
  | _ => false

/-- The document is the only one.  What stands behind the mark of its end does not matter unless
it is a document. -/
def isLast : List Token → Bool
  | .endDocument :: rest =>
    !starts (rest.dropWhile fun
      | .endDocument => true
      | _ => false)
  | rest => rest.isEmpty

/-- The document goes no further than these tokens, by itself or by a mark. -/
def ends : List Token → Bool
  | .version .. :: _ | .handle .. :: _ => false
  | ts => isOutside ts

end Document

end Turnstile.Yaml
