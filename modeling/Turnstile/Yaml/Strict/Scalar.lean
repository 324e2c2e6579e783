/-
Where scalars end, by the stricter rules of layout.

A scalar that goes on over several lines has to be indented: a plain one further than the
block around it, a quoted one as far, and no tab may stand in the indentation.  Only the
ends of scalars are found here; their text is for `Yaml.Scalar` to read.
-/
import Turnstile.Yaml.Scalar
import Turnstile.Yaml.Strict.Place

namespace Turnstile.Yaml.Strict

/-! ### Plain scalars -/

/-- How long the word of a plain scalar is that starts here. -/
def plainLength (inFlow : Bool) : List Char → Nat
  | [] => 0
  | c :: rest =>
    let ends := endsWord (c :: rest) || (inFlow && isFlowMark c) ||
      (c = ':' && (endsWord rest || (inFlow && (rest.head?.map isFlowMark).getD false)))
    if ends then 0 else plainLength inFlow rest + 1

/-- Pass blanks and line breaks inside a plain scalar.  A tab left of the column `floor` is refused
on a line that holds anything. -/
def plainGap? (floor : Nat) : Nat → Place → Option Place
  | 0, p => some p
  | fuel + 1, p =>
    match p.newline? with
    | some next => plainGap? floor fuel next
    | none =>
      match p.rest with
      | c :: _ =>
        if !isSpace c then some p
        else if p.indenting && p.column < floor && c = '\t' then do
          let (_, p) ← p.comment?
          if endsLine p.rest then plainGap? floor fuel p else none
        else plainGap? floor fuel (p.passBlanks 1)
      | [] => some p

/-- A dash that stands before a mark of a flow collection. -/
def strayDash : List Char → Bool
  | '-' :: c :: _ => isFlowMark c
  | _ => false

/-- Pass the words of a plain scalar from here on. -/
def plainWords? (inFlow : Bool) (floor : Nat) : Nat → Place → Option Place
  | 0, p => some p
  | fuel + 1, p =>
    if (p.indenting && isDocumentMark p.rest) || p.rest.head? = some '#' then some p
    else if inFlow && strayDash p.rest then none
    else
      let n := plainLength inFlow p.rest
      let p := if n = 0 then p else p.pass n
      if p.rest.isEmpty || !endsWord p.rest then some p
      else do
        let p ← plainGap? floor (p.rest.length + 1) p
        if !inFlow && p.column < floor then some p else plainWords? inFlow floor fuel p

/-- Pass a plain scalar; its lines have to be indented to the column `floor`. -/
def plain? (inFlow : Bool) (floor : Nat) (p : Place) : Option Place :=
  if inFlow && p.column < floor then none
  else
    (plainWords? inFlow floor (p.rest.length + 1) p).filter fun q => p.offset < q.offset

/-! ### Quoted scalars -/

/-- Pass the characters of a quoted scalar up to a blank, a line break or the closing quote, and say
whether a line break was escaped. -/
def quotedWord? (double : Bool) : Nat → Place → Option (Bool × Place)
  | 0, p => some (false, p)
  | fuel + 1, p =>
    match p.rest with
    | [] => some (false, p)
    | c :: rest =>
      if endsWord (c :: rest) || (double && c = '"') then some (false, p)
      else if !double && c = '\'' then
        if rest.head? = some '\'' then quotedWord? double fuel (p.pass 2) else some (false, p)
      else if double && c = '\\' then
        match (p.pass 1).newline? with
        | some next => some (true, next)
        | none => do
          let (_, n) ← escape? rest
          quotedWord? double fuel (p.pass (n + 1))
      else quotedWord? double fuel (p.pass 1)

/-- Pass blanks and line breaks inside a quoted scalar.  On a further line a tab in the indentation
is refused. -/
def quotedGap? (indent : Option Nat) : Nat → Bool → Place → Option Place
  | 0, _, p => some p
  | fuel + 1, broken, p =>
    match p.newline? with
    | some next => quotedGap? indent fuel true next
    | none =>
      match p.rest with
      | c :: _ =>
        if !isSpace c then some p
        else if broken && c = '\t' && p.isLeftOf indent then none
        else quotedGap? indent fuel broken (p.passBlanks 1)
      | [] => some p

/-- Pass the rest of a quoted scalar with its closing quote. -/
def quotedRest? (double : Bool) (indent : Option Nat) : Nat → Place → Option Place
  | 0, _ => none
  | fuel + 1, p =>
    if (p.column = 0 && isDocumentMark p.rest) || p.rest.isEmpty || p.isLeftOf indent then none
    else do
      let (broken, p) ← quotedWord? double (p.rest.length + 1) p
      if p.rest.head? = some (if double then '"' else '\'') then some (p.pass 1)
      else
        let p ← quotedGap? indent (p.rest.length + 1) broken p
        quotedRest? double indent fuel p

/-- What may stand behind a quoted scalar that started on a line: a line break, a colon, or in a flow
collection the end of an entry.  In a block the colon has to be on that line. -/
def followsQuoted (inFlow : Bool) (line : Nat) (p : Place) : Bool :=
  endsLine p.rest || match p.rest with
    | ':' :: _ => inFlow || line = p.line
    | c :: _ => inFlow && (c = ',' || c = ']' || c = '\x7d')
    | [] => true

/-- Pass a quoted scalar and what stands behind it on its last line. -/
def quoted? (inFlow double : Bool) (indent : Option Nat) (p : Place) : Option Place := do
  let q ← quotedRest? double indent (p.rest.length + 1) (p.pass 1)
  let (_, q) ← q.comment?
  if followsQuoted inFlow p.line q then some q else none

/-! ### Block scalars -/

/-- Pass the lines of a block that are indented to a column. -/
def blockLines (column : Nat) : Nat → Place → Place
  | 0, p => p
  | fuel + 1, p =>
    if p.column ≠ column || p.rest.isEmpty || (column = 0 && isMark '.' p.rest) then p
    else match p.passLine.newline? with
      | none => p.passLine
      | some next => blockLines column fuel (next.passLines (some column) (next.rest.length + 1) 0).2

/-- Pass a block scalar, below a block indented to the column `parent` if there is one. -/
def block? (parent : Option Nat) (p : Place) : Option Place := do
  let (marks, n) ← blockMarks? (p.rest.drop 1)
  let (_, p) ← (p.pass (n + 1)).comment?
  if !endsLine p.rest then none
  else
    let p := p.newline?.getD p
    let floor := parent.elim 0 (· + 1)
    let given := marks.indent.map fun k => parent.getD 0 + k
    let (widest, q) := p.passLines given (p.rest.length + 1) 0
    let column := given.getD (max widest floor)
    if p.rest.head? = some '\t' then none
    else if q.rest.isEmpty then some q
    else if q.column < column && floor ≤ q.column then none
    else some (blockLines column (q.rest.length + 1) q)

end Turnstile.Yaml.Strict
