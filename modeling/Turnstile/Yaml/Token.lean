/-
The tokens of a YAML text.

Indentation is turned into tokens that open and close blocks, and a key's token is put
where the key began once the colon behind it is found.  Such a key has to stand on one
line and within 1024 characters.  Where a text breaks a rule of spelling the tokens end
with a mark that no document contains; which tokens may follow each other is for `Node`
to say.
-/
import Turnstile.Yaml.Scalar

namespace Turnstile.Yaml

/-- A token. -/
inductive Token
  /-- The version of YAML that a document asks for. -/
  | version (major minor : Nat)
  /-- What a tag's handle stands for. -/
  | handle (name stem : String)
  | startDocument
  | endDocument
  | openSequence
  | openMapping
  /-- The end of a block, at a line indented less. -/
  | closeBlock
  /-- A dash before an item of a block. -/
  | item
  | key
  | value
  | openList
  | closeList
  | openBraces
  | closeBraces
  | comma
  | anchor (name : String)
  | alias (name : String)
  | tag (handle suffix : String)
  /-- A scalar, plain or not. -/
  | scalar (plain : Bool) (text : String)
  /-- The text breaks a rule here, and what follows is not read. -/
  | broken

/-- Where a key would begin if a colon follows. -/
structure KeyStart where
  /-- How many tokens come before it. -/
  index : Nat
  /-- Nothing but a key can stand here. -/
  required : Bool
  line : Nat
  column : Nat
  offset : Nat

/-- A text read up to a place. -/
structure Lexer where
  cursor : Cursor
  tokens : Array Token
  /-- Columns of the open blocks, innermost first. -/
  blocks : List Nat
  /-- How deep in flow collections the place is. -/
  flow : Nat
  /-- A key may begin here. -/
  keyAllowed : Bool
  /-- Where a key may have begun: here, and around each open flow collection. -/
  keys : List (Option KeyStart)

namespace Lexer

/-- The start of a text. -/
def start (text : List Char) : Lexer := ⟨.start text, #[], [], 0, true, [none]⟩

/-- Add a token. -/
def push (t : Token) (x : Lexer) : Lexer := { x with tokens := x.tokens.push t }

/-- Go on from another place. -/
def goto (c : Cursor) (x : Lexer) : Lexer := { x with cursor := c }

/-- Pass some characters. -/
def skip (n : Nat) (x : Lexer) : Lexer := x.goto (x.cursor.skip n)

/-- Say whether a key may begin next. -/
def allowKey (allowed : Bool) (x : Lexer) : Lexer := { x with keyAllowed := allowed }

/-! ### Between tokens -/

/-- Pass a byte order mark at the start of a line. -/
def skipOrderMark (c : Cursor) : Cursor :=
  if c.column = 0 && (c.rest.head?.map isOrderMark).getD false then c.skip 1 else c

/-- Pass blanks, comments and line breaks.  A tab passes for a blank only where no key may
begin. -/
def skipGapFrom : Nat → Lexer → Lexer
  | 0, x => x
  | fuel + 1, x =>
    let tabs := 0 < x.flow || !x.keyAllowed
    let c := ((skipOrderMark x.cursor).skipWhile fun b =>
      b = ' ' || (b = '\t' && tabs)).skipComment
    match c.lineBreak? with
    | some (_, next) => skipGapFrom fuel (({ x with keyAllowed := x.keyAllowed || x.flow = 0 }).goto next)
    | none => x.goto c

/-- Pass everything up to the next token. -/
def skipGap (x : Lexer) : Lexer := skipGapFrom (x.cursor.rest.length + 1) x

/-- Give up keys that began too far back; a key that had to be there is missed. -/
def dropStaleKeys? (x : Lexer) : Option Lexer := do
  let keys ← x.keys.mapM fun
    | some k =>
      if k.line < x.cursor.line || k.offset + 1024 < x.cursor.offset then
        if k.required then none else some none
      else some (some k)
    | none => some none
  some { x with keys }

/-- Close the blocks indented to the right of a column, or all of them. -/
def closeBlocks (column : Option Nat) (x : Lexer) : Lexer :=
  if 0 < x.flow then x
  else
    let inner := x.blocks.takeWhile fun b => match column with
      | some n => n < b
      | none => true
    { x with
      tokens := x.tokens ++ Array.replicate inner.length .closeBlock
      blocks := x.blocks.drop inner.length }

/-- Open a block at a column, unless one is open there or to its right.  Its token goes to a
place among the others. -/
def openBlock (column index : Nat) (t : Token) (x : Lexer) : Lexer :=
  if 0 < x.flow || (x.blocks.head?.map fun b => decide (column ≤ b)).getD false then x
  else { x with
    tokens := x.tokens.insertIdxIfInBounds index t
    blocks := column :: x.blocks }

/-! ### Keys -/

/-- No key began here; it is missed if one had to. -/
def dropKey? (x : Lexer) : Option Lexer :=
  match x.keys with
  | some k :: rest => if k.required then none else some { x with keys := none :: rest }
  | _ => some x

/-- A key may begin here, if one is allowed. -/
def saveKey? (x : Lexer) : Option Lexer :=
  if !x.keyAllowed then some x
  else do
    let x ← x.dropKey?
    let c := x.cursor
    let key : KeyStart :=
      { index := x.tokens.size
        required := x.flow = 0 && x.blocks.head? = some c.column
        line := c.line, column := c.column, offset := c.offset }
    some { x with keys := some key :: x.keys.tail }

/-! ### Single tokens -/

/-- The end of the text. -/
def finish? (x : Lexer) : Option Lexer := do
  let x ← (x.closeBlocks none).dropKey?
  some x

/-- A mark before or after a document. -/
def marker? (t : Token) (x : Lexer) : Option Lexer := do
  let x ← (x.closeBlocks none).dropKey?
  some ((x.allowKey false).push t |>.skip 3)

/-- The bracket that opens a flow collection. -/
def openFlow? (t : Token) (x : Lexer) : Option Lexer := do
  let x ← x.saveKey?
  some ({ x with flow := x.flow + 1, keys := none :: x.keys } |>.allowKey true |>.push t |>.skip 1)

/-- The bracket that closes a flow collection. -/
def closeFlow? (t : Token) (x : Lexer) : Option Lexer := do
  let x ← x.dropKey?
  let x := if 0 < x.flow then { x with flow := x.flow - 1, keys := x.keys.tail } else x
  some ((x.allowKey false).push t |>.skip 1)

/-- The comma between the entries of a flow collection. -/
def comma? (x : Lexer) : Option Lexer := do
  let x ← x.dropKey?
  some ((x.allowKey true).push .comma |>.skip 1)

/-- A dash before an item. -/
def item? (x : Lexer) : Option Lexer := do
  if x.flow = 0 && !x.keyAllowed then none
  else
    let x ← (x.openBlock x.cursor.column x.tokens.size .openSequence).dropKey?
    some ((x.allowKey true).push .item |>.skip 1)

/-- A question mark before a key. -/
def key? (x : Lexer) : Option Lexer := do
  if x.flow = 0 && !x.keyAllowed then none
  else
    let x ← (x.openBlock x.cursor.column x.tokens.size .openMapping).dropKey?
    some ((x.allowKey (x.flow = 0)).push .key |>.skip 1)

/-- A colon before a value.  If a key may have begun on the way here, it did. -/
def value? (x : Lexer) : Option Lexer :=
  match x.keys with
  | some k :: rest =>
    let x := { x with tokens := x.tokens.insertIdxIfInBounds k.index .key, keys := none :: rest }
    some ((x.openBlock k.column k.index .openMapping).allowKey false |>.push .value |>.skip 1)
  | _ =>
    if x.flow = 0 && !x.keyAllowed then none
    else
      let x := x.openBlock x.cursor.column x.tokens.size .openMapping
      some ((x.allowKey (x.flow = 0)).push .value |>.skip 1)

/-- Characters of an anchor's name and of a tag's handle. -/
def isNameChar (c : Char) : Bool := c.isAlphanum || c = '-' || c = '_'

/-- An anchor or an alias. -/
def anchor? (token : String → Token) (x : Lexer) : Option Lexer := do
  let x ← x.saveKey?
  let name := (x.cursor.rest.drop 1).takeWhile isNameChar
  let after := x.cursor.rest.drop (1 + name.length)
  let ends := endsWord after || (after.head?.map fun c => "?:,]\x7d%@".toList.contains c).getD false
  if name.isEmpty || (!ends && after.head?.map Char.toNat ≠ some 0x60) then none
  else some ((x.allowKey false).push (token (String.ofList name)) |>.skip (1 + name.length))

/-- Characters of a tag; the exclamation mark and some brackets stand only inside a full name. -/
def isTagChar (full : Bool) (c : Char) : Bool :=
  isNameChar c || ";/?:@&=+$.~*'()%".toList.contains c || (full && "!,[]".toList.contains c)

/-- A character spelled by the hexadecimal digits of its bytes, and the length of its spelling.
Two bytes at most are read. -/
def escapedTagChar? : List Char → Option (Char × Nat)
  | '%' :: a :: b :: rest => do
    let lead ← Text.ofHex? [a, b]
    if lead < 0x80 then some (Char.ofNat lead, 3)
    else match rest with
      | '%' :: c :: d :: _ => do
        let trail ← Text.ofHex? [c, d]
        if 0xC0 ≤ lead && lead < 0xD8 && 0x80 ≤ trail && trail < 0xC0 then
          some (Char.ofNat ((lead - 0xC0) * 64 + (trail - 0x80)), 6)
        else none
      | _ => none
  | _ => none

/-- The characters of a tag from here on, and how long their spelling is. -/
def tagChars? (full : Bool) : Nat → List Char → Option (List Char × Nat)
  | 0, _ => some ([], 0)
  | _ + 1, [] => some ([], 0)
  | fuel + 1, c :: rest =>
    if !isTagChar full c then some ([], 0)
    else do
      let (x, n) ← if c = '%' then escapedTagChar? (c :: rest) else some (c, 1)
      let (xs, m) ← tagChars? full fuel ((c :: rest).drop n)
      some (x :: xs, n + m)

/-- The text of a tag's name or suffix, and how long its spelling is. -/
def tagText? (full : Bool) (cs : List Char) : Option (String × Nat) :=
  (tagChars? full cs.length cs).map fun (xs, n) => (String.ofList xs, n)

/-- A handle that stands by itself, between exclamation marks or one of them alone. -/
def tagHandle? : List Char → Option String
  | '!' :: rest =>
    let name := rest.takeWhile isNameChar
    if (rest.drop name.length).head? = some '!' then some (String.ofList ('!' :: name ++ ['!']))
    else if name.isEmpty then some "!"
    else none
  | _ => none

/-- The handle and the suffix of a tag, and how long it is.  A tag without a handle has its full
name for a suffix. -/
def tagParts? : List Char → Option (String × String × Nat)
  | '!' :: '<' :: rest => do
    let (name, n) ← tagText? true rest
    if n = 0 || (rest.drop n).head? ≠ some '>' then none else some ("", name, n + 3)
  | '!' :: rest => do
    let name := rest.takeWhile isNameChar
    let after := rest.drop name.length
    if after.head? = some '!' then
      let (suffix, n) ← tagText? false (after.drop 1)
      if n = 0 then none
      else some (String.ofList ('!' :: name ++ ['!']), suffix, name.length + n + 2)
    else
      let (suffix, n) ← tagText? false rest
      some (if n = 0 then ("", "!", 1) else ("!", suffix, n + 1))
  | _ => none

/-- A tag. -/
def tag? (x : Lexer) : Option Lexer := do
  let x ← x.saveKey?
  let (handle, suffix, n) ← tagParts? x.cursor.rest
  let after := x.cursor.rest.drop n
  if endsWord after || (0 < x.flow && after.head? = some ',') then
    some ((x.allowKey false).push (.tag handle suffix) |>.skip n)
  else none

/-- A block scalar. -/
def block? (folded : Bool) (x : Lexer) : Option Lexer := do
  let x ← x.dropKey?
  let (text, c) ← Yaml.block? folded x.blocks.head? x.cursor
  some ((x.allowKey true).push (.scalar false (String.ofList text)) |>.goto c)

/-- A quoted scalar. -/
def quoted? (double : Bool) (x : Lexer) : Option Lexer := do
  let x ← x.saveKey?
  let (text, c) ← Yaml.quoted? double x.cursor
  some ((x.allowKey false).push (.scalar false (String.ofList text)) |>.goto c)

/-- A plain scalar. -/
def plain? (x : Lexer) : Option Lexer := do
  let x ← x.saveKey?
  let p ← Yaml.plain? (0 < x.flow) (x.blocks.head?.elim 0 (· + 1)) x.cursor
  some ((x.allowKey p.broken).push (.scalar true (String.ofList p.text)) |>.goto p.next)

/-- A number of at most nine digits, and how long it is. -/
def versionNumber? (cs : List Char) : Option (Nat × Nat) :=
  let digits := cs.takeWhile Char.isDigit
  if 9 < digits.length then none
  else (String.ofList digits).toNat?.map (·, digits.length)

/-- A version, such as `1.2`, and how long it is. -/
def version? (cs : List Char) : Option (Token × Nat) := do
  let (major, m) ← versionNumber? cs
  if (cs.drop m).head? ≠ some '.' then none
  else
    let (minor, n) ← versionNumber? (cs.drop (m + 1))
    some (.version major minor, m + 1 + n)

/-- A handle with what it stands for, and how long both are. -/
def handleStem? (cs : List Char) : Option (Token × Nat) := do
  let name ← tagHandle? cs
  let after := cs.drop name.length
  let blanks := (after.takeWhile isSpace).length
  let (stem, n) ← tagText? true (after.drop blanks)
  if blanks = 0 || n = 0 || !endsWord (after.drop (blanks + n)) then none
  else some (.handle name stem, name.length + blanks + n)

/-- A direction to the reader behind its percent sign, and how long it is. -/
def direction? (cs : List Char) : Option (Token × Nat) := do
  let name := cs.takeWhile isNameChar
  let after := cs.drop name.length
  let blanks := (after.takeWhile isSpace).length
  let (t, n) ← match String.ofList name with
    | "YAML" => version? (after.drop blanks)
    | "TAG" => handleStem? (after.drop blanks)
    | _ => none
  if endsWord after then some (t, name.length + blanks + n) else none

/-- A line with a direction, and perhaps a comment at its end. -/
def directive? (x : Lexer) : Option Lexer := do
  let x ← (x.closeBlocks none).dropKey?
  let (token, n) ← direction? (x.cursor.rest.drop 1)
  let x := (x.allowKey false).push token |>.skip (n + 1)
  let c := (x.cursor.skipWhile isSpace).skipComment
  if endsLine c.rest then some (x.goto c) else none

/-! ### All tokens -/

/-- Marks that no plain scalar begins with. -/
def isIndicator (c : Char) : Bool :=
  isFlowMark c || c.toNat = 0x60 || "-?:#&*!|>'\"%@".toList.contains c

/-- A plain scalar may begin here. -/
def startsPlain (inFlow : Bool) (cs : List Char) : Bool :=
  match cs with
  | [] => false
  | c :: rest =>
    !(endsWord cs || isIndicator c) || (c = '-' && !(rest.head?.map isSpace).getD false) ||
      (!inFlow && (c = '?' || c = ':') && !endsWord rest)

/-- Read the token that starts here. -/
def token? (x : Lexer) : Option Lexer :=
  let inFlow := 0 < x.flow
  match x.cursor.rest with
  | [] => none
  | c :: rest =>
    if c = '%' && x.cursor.column = 0 then x.directive?
    else if x.cursor.isMarker '-' then x.marker? .startDocument
    else if x.cursor.isMarker '.' then x.marker? .endDocument
    else if c = '[' then x.openFlow? .openList
    else if c = '\x7b' then x.openFlow? .openBraces
    else if c = ']' then x.closeFlow? .closeList
    else if c = '\x7d' then x.closeFlow? .closeBraces
    else if c = ',' then x.comma?
    else if c = '-' && endsWord rest then x.item?
    else if c = '?' && (inFlow || endsWord rest) then x.key?
    else if c = ':' && (inFlow || endsWord rest) then x.value?
    else if c = '*' then x.anchor? .alias
    else if c = '&' then x.anchor? .anchor
    else if c = '!' then x.tag?
    else if c = '|' && !inFlow then x.block? false
    else if c = '>' && !inFlow then x.block? true
    else if c = '\'' then x.quoted? false
    else if c = '"' then x.quoted? true
    else if startsPlain inFlow x.cursor.rest then x.plain?
    else none

/-- Read tokens up to the end of the text, or to where it breaks a rule. -/
def run : Nat → Lexer → Lexer
  | 0, x => x.push .broken
  | fuel + 1, x =>
    match x.skipGap.dropStaleKeys? with
    | none => x.push .broken
    | some y =>
      let y := y.closeBlocks (some y.cursor.column)
      if y.cursor.rest.isEmpty then y.finish?.getD (x.push .broken)
      else match y.token? with
        | some z => run fuel z
        | none => y.push .broken

end Lexer

/-- The tokens of a text. -/
def Token.list (text : String) : List Token :=
  let cs := text.toList
  if cs.all isPrintable then (Lexer.run (cs.length + 2) (.start cs)).tokens.toList
  else [.broken]

end Turnstile.Yaml
