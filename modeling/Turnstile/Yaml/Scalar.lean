/-
The scalars of a YAML text.

A scalar is written plainly, between quotes, or as a block below its mark.  Each
reader takes a cursor at the scalar's first character and answers with the text and
the cursor behind it.
-/
import Turnstile.Text.Hex
import Turnstile.Yaml.Cursor

namespace Turnstile.Yaml

/-! ### Plain scalars -/

/-- Brackets and the comma, which part the words of a flow collection. -/
def isFlowMark (c : Char) : Bool :=
  c = ',' || c = '[' || c = ']' || c = '\x7b' || c = '\x7d'

/-- A colon that stands before a mark of a flow collection, where it belongs to nothing. -/
def strayColon : List Char → Bool
  | ':' :: x :: _ => isFlowMark x || x = '?'
  | _ => false

/-- The characters of one word of a plain scalar, none if the word breaks a rule. -/
def plainWord? (inFlow : Bool) : List Char → Option (List Char)
  | [] => some []
  | c :: rest =>
    if endsWord (c :: rest) then some []
    else if inFlow && strayColon (c :: rest) then none
    else if (c = ':' && endsWord rest) || (inFlow && isFlowMark c) then some []
    else (plainWord? inFlow rest).map (c :: ·)

/-- A plain scalar, the cursor behind the gap that follows it, and whether that gap ends the
line. -/
structure Plain where
  text : List Char
  broken : Bool
  next : Cursor

/-- The words of a plain scalar from here on, after `text` and a gap.  Lines have to be indented
to the column `floor`, except in a flow collection. -/
def plainWords? (inFlow : Bool) (floor : Nat) : Nat → List Char → Gap → Cursor → Option Plain
  | 0, text, gap, c => some ⟨text, gap.broken, c⟩
  | fuel + 1, text, gap, c =>
    if c.atMarker || c.rest.head? = some '#' then some ⟨text, gap.broken, c⟩
    else do
      let word ← plainWord? inFlow c.rest
      if word.isEmpty then some ⟨text, gap.broken, c⟩
      else
        let text := text ++ gap.text ++ word
        let c := c.skip word.length
        if c.rest.isEmpty || !endsWord c.rest then some ⟨text, false, c⟩
        else
          let (gap, c) ← Gap.empty.read? floor c
          if !inFlow && c.column < floor then some ⟨text, gap.broken, c⟩
          else plainWords? inFlow floor fuel text gap c

/-- Read a plain scalar. -/
def plain? (inFlow : Bool) (floor : Nat) (c : Cursor) : Option Plain :=
  plainWords? inFlow floor (c.rest.length + 1) [] .empty c

/-! ### Quoted scalars -/

/-- The character that a letter names after a backslash. -/
def escaped? : Char → Option Char
  | '0' => some (Char.ofNat 0)
  | 'a' => some (Char.ofNat 7)
  | 'b' => some (Char.ofNat 8)
  | 't' => some '\t'
  | '\t' => some '\t'
  | 'n' => some '\n'
  | 'v' => some (Char.ofNat 11)
  | 'f' => some (Char.ofNat 12)
  | 'r' => some '\r'
  | 'e' => some (Char.ofNat 27)
  | ' ' => some ' '
  | '"' => some '"'
  | '/' => some '/'
  | '\\' => some '\\'
  | 'N' => some (Char.ofNat 0x85)
  | '_' => some (Char.ofNat 0xA0)
  | 'L' => some (Char.ofNat 0x2028)
  | 'P' => some (Char.ofNat 0x2029)
  | _ => none

/-- How many hexadecimal digits follow a letter after a backslash. -/
def escapeLength? : Char → Option Nat
  | 'x' => some 2
  | 'u' => some 4
  | 'U' => some 8
  | _ => none

/-- An escape after its backslash: the character and how many characters spell it. -/
def escape? : List Char → Option (Char × Nat)
  | [] => none
  | letter :: rest =>
    match escapeLength? letter with
    | none => (escaped? letter).map (·, 1)
    | some n => do
      let code ← if (rest.take n).length = n then Text.ofHex? (rest.take n) else none
      if code.isValidChar then some (Char.ofNat code, n + 1) else none

/-- The rest of a quoted scalar, after `text`.  Between double quotes a backslash escapes; between
single quotes a quote is written twice. -/
def quotedRest? (double : Bool) : Nat → List Char → Cursor → Option (List Char × Cursor)
  | 0, _, _ => none
  | fuel + 1, text, c =>
    if c.atMarker then none
    else match c.rest with
      | [] => none
      | x :: rest =>
        if endsWord (x :: rest) then do
          let (gap, c) ← Gap.empty.read? 0 c
          quotedRest? double fuel (text ++ gap.text) c
        else if x = '"' && double then some (text, c.skip 1)
        else if x = '\'' && !double then
          if rest.head? = some '\'' then quotedRest? double fuel (text ++ ['\'']) (c.skip 2)
          else some (text, c.skip 1)
        else if x = '\\' && double then
          match (c.skip 1).lineBreak? with
          | some (_, next) => do
            let (gap, c) ← Gap.read? 0 ⟨[], true, [], []⟩ next
            quotedRest? double fuel (text ++ gap.text) c
          | none => do
            let (e, n) ← escape? rest
            quotedRest? double fuel (text ++ [e]) (c.skip (n + 1))
        else quotedRest? double fuel (text ++ [x]) (c.skip 1)

/-- Read a quoted scalar. -/
def quoted? (double : Bool) (c : Cursor) : Option (List Char × Cursor) :=
  quotedRest? double (c.rest.length + 1) [] (c.skip 1)

/-! ### Block scalars -/

/-- What becomes of the line breaks at the end of a block. -/
inductive Chomp
  | strip
  | clip
  | keep
deriving DecidableEq

/-- The marks behind the first character of a block scalar. -/
structure BlockMarks where
  chomp : Chomp
  /-- How far the block is indented, if it says so. -/
  indent : Option Nat

/-- How a block ends, by its mark. -/
def chomp? : Char → Option Chomp
  | '+' => some .keep
  | '-' => some .strip
  | _ => none

/-- A digit that says how far a block is indented. -/
def indentDigit? (c : Char) : Option Nat := if c.isDigit then some (c.toNat - 48) else none

/-- Read the marks, in either order; an indentation of zero is refused. -/
def blockMarks? (cs : List Char) : Option (BlockMarks × Nat) :=
  let result : BlockMarks × Nat := match cs with
    | [] => (⟨.clip, none⟩, 0)
    | x :: rest =>
      match chomp? x, indentDigit? x with
      | some ch, _ => match rest.head?.bind indentDigit? with
        | some n => (⟨ch, some n⟩, 2)
        | none => (⟨ch, none⟩, 1)
      | none, some n => match rest.head?.bind chomp? with
        | some ch => (⟨ch, some n⟩, 2)
        | none => (⟨.clip, some n⟩, 1)
      | none, none => (⟨.clip, none⟩, 0)
  if result.1.indent = some 0 then none else some result

/-- Pass empty lines and the indentation after them.  While the block's indentation is open, all
blanks count, and the widest of the empty lines is kept. -/
def blockBreaks? (indent : Option Nat) :
    Nat → Nat → List Char → Cursor → Option (Nat × List Char × Cursor)
  | 0, widest, breaks, c => some (widest, breaks, c)
  | fuel + 1, widest, breaks, c =>
    let blanks := (c.rest.takeWhile (· = ' ')).length
    let c := c.skip (match indent with
      | some n => min blanks (n - c.column)
      | none => blanks)
    let widest := max widest c.column
    let inside := match indent with
      | some n => c.column < n
      | none => true
    if inside && c.rest.head? = some '\t' then none
    else match c.lineBreak? with
      | some (b, next) => blockBreaks? indent fuel widest (breaks ++ [b]) next
      | none => some (widest, breaks, c)

/-- The lines of a block from here on.  In a folded block a line break between two lines that do
not start with a space reads as a blank. -/
def blockLines? (folded : Bool) (indent : Nat) (chomp : Chomp) :
    Nat → (text first more : List Char) → (indented : Bool) → Cursor →
      Option (List Char × Cursor)
  | 0, _, _, _, _, _ => none
  | fuel + 1, text, first, more, indented, c =>
    if c.column = indent && !c.rest.isEmpty then do
      let spaced := (c.rest.head?.map isSpace).getD false
      let joint :=
        if folded && first = ['\n'] && !indented && !spaced then
          (if more.isEmpty then [' '] else [])
        else first
      let line := c.rest.takeWhile fun x => !isBreak x
      let c := c.skip line.length
      let (first', c) : List Char × Cursor := match c.lineBreak? with
        | some (b, next) => ([b], next)
        | none => ([], c)
      let (_, more', c) ← blockBreaks? (some indent) (c.rest.length + 1) 0 [] c
      blockLines? folded indent chomp fuel (text ++ joint ++ more ++ line) first' more' spaced c
    else
      let ending := match chomp with
        | .strip => []
        | .clip => first
        | .keep => first ++ more
      some (text ++ ending, c)

/-- Read a block scalar, below a block indented to the column `parent` if there is one. -/
def block? (folded : Bool) (parent : Option Nat) (c : Cursor) : Option (List Char × Cursor) := do
  let (marks, n) ← blockMarks? (c.rest.drop 1)
  let c := ((c.skip (n + 1)).skipWhile isSpace).skipComment
  if !endsLine c.rest then none
  else
    let c := match c.lineBreak? with
      | some (_, next) => next
      | none => c
    let indent := marks.indent.map fun k => parent.getD 0 + k
    let (widest, more, c) ← blockBreaks? indent (c.rest.length + 1) 0 [] c
    let indent := indent.getD (max 1 (max widest (parent.elim 0 (· + 1))))
    blockLines? folded indent marks.chomp (c.rest.length + 1) [] [] more false c

end Turnstile.Yaml
