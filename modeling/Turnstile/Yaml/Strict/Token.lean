/-
The tokens of a YAML text, by the stricter rules of layout.

These rules ask for more than `Yaml.Token` does: a comment needs a blank before it, what
is in brackets has to be indented like the block around it, and tabs do not indent.  In a
flow collection a key may stand on several lines, and a pair of a flow sequence is put
between braces of its own.  Scalars have no text here.
-/
import Turnstile.Yaml.Strict.Scalar
import Turnstile.Yaml.Token

namespace Turnstile.Yaml.Strict

/-- An indentation. -/
structure Indent where
  column : Nat
  /-- A block stands at the column.  Otherwise the column is only held for what a key or a dash
  brings. -/
  block : Bool

/-- A text read up to a place. -/
structure Lexer where
  place : Place
  tokens : Array Token
  /-- The indentations in force, innermost first. -/
  indents : List Indent
  /-- How deep in flow collections the place is. -/
  flow : Nat
  /-- A key may begin here. -/
  keyAllowed : Bool
  /-- Where a key may have begun: here, and around each open flow collection. -/
  keys : List (Option KeyStart)
  /-- Where a colon needs no blank behind it. -/
  adjacent : Nat
  /-- The entry here belongs to a mapping that was opened by a brace or a question mark. -/
  inMapping : Bool
  /-- For each open flow sequence, how deep the pair is that its entry turned out to be. -/
  pairs : List (Option Nat)

namespace Lexer

/-- The start of a text. -/
def start (text : List Char) : Lexer :=
  ⟨.start text, #[], [], 0, true, [none], 0, false, []⟩

/-- Add a token. -/
def push (t : Token) (x : Lexer) : Lexer := { x with tokens := x.tokens.push t }

/-- Put a token among the others. -/
def insert (index : Nat) (t : Token) (x : Lexer) : Lexer :=
  { x with tokens := x.tokens.insertIdxIfInBounds index t }

/-- Go on from another place. -/
def goto (p : Place) (x : Lexer) : Lexer := { x with place := p }

/-- Say whether a key may begin next. -/
def allowKey (allowed : Bool) (x : Lexer) : Lexer := { x with keyAllowed := allowed }

/-- The column that is indented to, if any is. -/
def indent (x : Lexer) : Option Nat := x.indents.head?.map (·.column)

/-- The first column to the right of the indentation. -/
def floor (x : Lexer) : Nat := x.indent.elim 0 (· + 1)

/-! ### Indentation -/

/-- Hold the next column in a block, unless one is held already. -/
def hold (x : Lexer) : Lexer :=
  match x.indents with
  | i :: _ =>
    if x.flow = 0 && i.block then { x with indents := ⟨i.column + 1, false⟩ :: x.indents } else x
  | [] => x

/-- Let go of the columns that are only held. -/
def release (x : Lexer) : Lexer := { x with indents := x.indents.dropWhile (!·.block) }

/-- Open a block at a column, unless one is open there or to its right. -/
def openBlock (column index : Nat) (t : Token) (x : Lexer) : Lexer :=
  if 0 < x.flow then x
  else
    let indents := match x.indents with
      | i :: rest => if !i.block && i.column ≤ column then rest else x.indents
      | [] => []
    let x := { x with indents }
    if (indents.head?.map fun i => decide (i.column < column)).getD true then
      { x.insert index t with indents := ⟨column, true⟩ :: indents }
    else x

/-- Close the blocks indented to the right of a column, or all of them. -/
def closeBlocks (column : Option Nat) (x : Lexer) : Lexer :=
  if 0 < x.flow then x
  else
    let inner := x.indents.takeWhile fun i => match column with
      | some n => n < i.column
      | none => true
    { x with
      tokens := x.tokens ++ Array.replicate (inner.filter (·.block)).length .closeBlock
      indents := x.indents.drop inner.length }

/-! ### Between tokens -/

/-- Pass blanks, comments and line breaks.  A tab in the indentation of a block is refused on a line
that holds anything. -/
def skipGapFrom? : Nat → Lexer → Option Lexer
  | 0, x => some x
  | fuel + 1, x =>
    match x.place.newline? with
    | some next => skipGapFrom? fuel ((x.allowKey (x.keyAllowed || x.flow = 0)).goto next)
    | none =>
      match x.place.rest with
      | c :: _ =>
        if c = '\t' && x.place.indenting && x.place.isLeftOf x.indent then do
          let (_, p) ← x.place.comment?
          if endsLine p.rest then skipGapFrom? fuel (x.goto p) else none
        else if isSpace c then skipGapFrom? fuel (x.goto (x.place.passBlanks 1))
        else if c = '#' then skipGapFrom? fuel (x.goto x.place.passLine)
        else some x
      | [] => some x

/-- Pass everything up to the next token. -/
def skipGap? (x : Lexer) : Option Lexer := skipGapFrom? (x.place.rest.length + 1) x

/-- Pass a comment behind a token, which needs a blank before it. -/
def skipComment? (x : Lexer) : Option Lexer := x.place.comment?.map fun (_, p) => x.goto p

/-- Pass blanks, comments and line breaks behind a question mark; there has to be something. -/
def skipSpaceFrom? : Nat → Bool → Lexer → Option Lexer
  | 0, _, _ => none
  | fuel + 1, found, x =>
    match x.place.newline? with
    | some next => skipSpaceFrom? fuel true ((x.allowKey (x.keyAllowed || x.flow = 0)).goto next)
    | none =>
      match x.place.rest.head? with
      | some ' ' => skipSpaceFrom? fuel true (x.goto (x.place.passBlanks 1))
      | some '#' => skipSpaceFrom? fuel found (x.goto x.place.passLine)
      | _ => if found then some x else none

/-- Give up a key of a block that began too far back; a key that had to be there is missed. -/
def dropStaleKey? (x : Lexer) : Option Lexer :=
  match x.keys with
  | some k :: rest =>
    if x.flow = 0 && (k.line < x.place.line || k.offset + 1024 < x.place.offset) then
      if k.required then none else some { x with keys := none :: rest }
    else some x
  | _ => some x

/-! ### Keys -/

/-- No key began here; it is missed if one had to. -/
def dropKey? (x : Lexer) : Option Lexer :=
  match x.keys with
  | some k :: rest => if k.required then none else some { x with keys := none :: rest }
  | _ => some x

/-- A key may begin here, if one is allowed. -/
def saveKey (x : Lexer) : Lexer :=
  if !x.keyAllowed then x
  else
    let p := x.place
    let required := match x.indents with
      | i :: _ => x.flow = 0 && i.block && i.column = p.column
      | [] => false
    let key : KeyStart := ⟨x.tokens.size, required, p.line, p.column, p.offset⟩
    { x with keys := some key :: x.keys.tail }

/-- The entry ends, and with it the braces around a pair at this depth. -/
def endPair (depth : Nat) (x : Lexer) : Lexer :=
  match x.pairs with
  | some d :: rest =>
    if d = depth then ({ x with inMapping := false, pairs := none :: rest }).push .closeBraces else x
  | _ => x

/-! ### Single tokens -/

/-- The end of the text. -/
def finish? (x : Lexer) : Option Lexer := do
  let x ← x.dropKey?
  if 0 < x.flow then none else some (x.closeBlocks none)

/-- A mark before a document. -/
def startDocument? (x : Lexer) : Option Lexer := do
  let x ← (x.closeBlocks none).dropKey?
  some ((x.allowKey false).push .startDocument |>.goto (x.place.pass 3))

/-- A mark after a document; nothing but a comment may follow on its line. -/
def endDocument? (x : Lexer) : Option Lexer := do
  let x ← (x.closeBlocks none).dropKey?
  let x ← ((x.allowKey false).push .endDocument |>.goto (x.place.pass 3)).skipComment?
  if endsLine x.place.rest then some x else none

/-- A line with a direction, and perhaps a comment at its end. -/
def directive? (x : Lexer) : Option Lexer := do
  let x ← (x.closeBlocks none).dropKey?
  let (token, n) ← Yaml.Lexer.direction? (x.place.rest.drop 1)
  let x ← ((x.allowKey false).push token |>.goto (x.place.pass (n + 1))).skipComment?
  if endsLine x.place.rest then some (x.goto (x.place.newline?.getD x.place)) else none

/-- Flow collections nest no deeper than this. -/
def flowLimit : Nat := 255

/-- The bracket or brace that opens a flow collection. -/
def openFlow? (list : Bool) (x : Lexer) : Option Lexer := do
  let x := x.saveKey.hold
  if flowLimit ≤ x.flow then none
  else
    let x := { x with flow := x.flow + 1, keys := none :: x.keys }
    let x := (x.allowKey true).goto (x.place.pass 1)
    let x := if list then { x with pairs := none :: x.pairs } else { x with inMapping := true }
    let x ← x.skipComment?
    some (x.push (if list then .openList else .openBraces))

/-- The bracket or brace that closes a flow collection. -/
def closeFlow? (list : Bool) (x : Lexer) : Option Lexer := do
  if x.flow = 0 then none
  else
    let depth := x.flow
    let x ← x.dropKey?
    let x := { x with flow := depth - 1, keys := x.keys.tail } |>.allowKey false
    let x := if list then let y := x.endPair depth; { y with pairs := y.pairs.tail } else x
    let x ← (x.goto (x.place.pass 1)).skipComment?
    let x := if 0 < x.flow then { x with adjacent := x.place.offset } else x
    some (x.push (if list then .closeList else .closeBraces))

/-- The comma between the entries of a flow collection. -/
def comma? (x : Lexer) : Option Lexer := do
  let x ← x.dropKey?
  let x ← ((x.allowKey true).endPair x.flow |>.goto (x.place.pass 1)).skipComment?
  some (x.push .comma)

/-- A dash before an item. -/
def item? (x : Lexer) : Option Lexer := do
  if 0 < x.flow || !x.keyAllowed then none
  else
    let x := x.openBlock x.place.column x.tokens.size .openSequence
    let (blanks, p) ← (x.place.pass 1).comment?
    let nested := match p.rest with
      | '-' :: rest => endsWord rest
      | _ => false
    if nested && blanks.contains '\t' then none
    else
      let x := x.goto p
      let holds := match p.rest with
        | c :: _ => isNewline c || isFlowMark c
        | [] => false
      let x ← (if holds then x.hold else x).dropKey?
      some ((x.allowKey true).push .item)

/-- A question mark before a key. -/
def key? (x : Lexer) : Option Lexer := do
  if x.flow = 0 && !x.keyAllowed then none
  else
    let x := if x.flow = 0 then x.openBlock x.place.column x.tokens.size .openMapping
      else { x with inMapping := true }
    let x ← x.dropKey?
    let x := (x.allowKey (x.flow = 0)).goto (x.place.pass 1)
    let x ← skipSpaceFrom? (x.place.rest.length + 1) false x
    if x.place.rest.head? = some '\t' then none else some (x.push .key)

/-- Pass the colon before a value.  Behind tabs alone no word may follow on the line. -/
def skipColon? (p : Place) : Option Place :=
  let p := p.pass 1
  if p.rest.head? = some '\t' then do
    let (blanks, q) ← p.comment?
    let word := (q.rest.head?.map Yaml.Lexer.isNameChar).getD false
    if word && !blanks.contains ' ' then none else some q
  else some p

/-- A colon before a value.  If a key may have begun on the way here, it did. -/
def value? (x : Lexer) : Option Lexer := do
  let pair := !x.pairs.isEmpty && !x.inMapping
  let line := x.place.line
  let column := x.place.column
  let x := if pair then { x with pairs := some x.flow :: x.pairs.tail } else x
  let x := x.goto (← skipColon? x.place)
  match x.keys with
  | some k :: rest =>
    if pair && k.line < line then none
    else
      let x := { x with keys := none :: rest }.insert k.index .key
      let x := if pair then x.insert k.index .openBraces else x
      some ((x.openBlock k.column k.index .openMapping).hold.allowKey false |>.push .value)
  | _ =>
    let x := if pair then x.push .openBraces else x
    if x.flow = 0 && !x.keyAllowed then none
    else
      let x := (x.openBlock column x.tokens.size .openMapping).hold
      some ((x.allowKey (x.flow = 0)).push .value)

/-- A colon in a flow collection that has no blank behind it.  Unless it follows a quoted scalar or
a collection, no collection may follow it. -/
def flowValue? (x : Lexer) : Option Lexer :=
  let opens := match x.place.rest with
    | _ :: c :: _ => c = '[' || c = '\x7b'
    | _ => false
  if opens && x.place.offset ≠ x.adjacent then none else x.value?

/-- Characters of the name of an anchor. -/
def isAnchorChar (c : Char) : Bool := !(isSpace c || isNewline c || isFlowMark c || isOrderMark c)

/-- An anchor or an alias. -/
def anchor? (token : String → Token) (x : Lexer) : Option Lexer :=
  let x := x.saveKey.allowKey false
  let name := (x.place.rest.drop 1).takeWhile isAnchorChar
  if name.isEmpty then none
  else some (x.push (token (String.ofList name)) |>.goto (x.place.pass (name.length + 1)))

/-- A tag. -/
def tag? (x : Lexer) : Option Lexer := do
  let x := x.saveKey.allowKey false
  let (handle, suffix, n) ← Yaml.Lexer.tagParts? x.place.rest
  let after := x.place.rest.drop n
  if endsWord after || (0 < x.flow && (after.head?.map isFlowMark).getD false) then
    some (x.push (.tag handle suffix) |>.goto (x.place.pass n))
  else none

/-- A block scalar. -/
def block? (x : Lexer) : Option Lexer := do
  let x := (x.saveKey.allowKey true).release
  some ((x.goto (← Strict.block? x.indent x.place)).push (.scalar false ""))

/-- A quoted scalar. -/
def quoted? (double : Bool) (x : Lexer) : Option Lexer := do
  let x := x.saveKey.allowKey false
  let x ← (x.goto (← Strict.quoted? (0 < x.flow) double x.indent x.place)).skipGap?
  some ({ x with adjacent := x.place.offset }.push (.scalar false ""))

/-- A plain scalar. -/
def plain? (x : Lexer) : Option Lexer := do
  let x := (x.saveKey.allowKey false).release
  let x := x.goto (← Strict.plain? (0 < x.flow) x.floor x.place)
  some ((x.allowKey (x.keyAllowed || x.place.indenting)).push (.scalar true ""))

/-! ### All tokens -/

/-- Read the token that starts here. -/
def token? (x : Lexer) : Option Lexer :=
  let inFlow := 0 < x.flow
  let first := x.place.column = 0
  match x.place.rest with
  | [] => none
  | c :: rest =>
    if first && c = '%' then x.directive?
    else if first && isMark '-' (c :: rest) then x.startDocument?
    else if first && isMark '.' (c :: rest) then x.endDocument?
    else if x.place.isLeftOf x.indent then none
    else if c = '[' then x.openFlow? true
    else if c = '\x7b' then x.openFlow? false
    else if c = ']' then x.closeFlow? true
    else if c = '\x7d' then x.closeFlow? false
    else if c = ',' then x.comma?
    else if c = '-' && endsWord rest then x.item?
    else if c = '?' && endsWord rest then x.key?
    else if c = ':' && endsWord rest then x.value?
    else if c = ':' && inFlow &&
        ((rest.head?.map isFlowMark).getD false || x.place.offset = x.adjacent) then
      x.flowValue?
    else if c = '*' then x.anchor? .alias
    else if c = '&' then x.anchor? .anchor
    else if c = '!' then x.tag?
    else if (c = '|' || c = '>') && !inFlow then x.block?
    else if c = '\'' then x.quoted? false
    else if c = '"' then x.quoted? true
    else if c = '%' || c = '@' || c.toNat = 0x60 then none
    else x.plain?

/-- Read tokens up to the end of the text, or to where it breaks a rule. -/
def run : Nat → Lexer → Lexer
  | 0, x => x.push .broken
  | fuel + 1, x =>
    match x.skipGap?.bind dropStaleKey? with
    | none => x.push .broken
    | some y =>
      let y := y.closeBlocks (some y.place.column)
      if y.place.rest.isEmpty then y.finish?.getD (y.push .broken)
      else match y.token? with
        | some z => run fuel z
        | none => y.push .broken

end Lexer

/-- The tokens of a text. -/
def tokens (text : String) : List Token :=
  let cs := text.toList
  (Lexer.run (cs.length + 2) (.start cs)).tokens.toList

end Turnstile.Yaml.Strict
