/-
Places in a YAML text, by the stricter rules of layout.

By these rules only a line feed and a carriage return end a line, a comment needs a blank
before it, and it matters whether anything but blanks stands before a place on its line.
-/
import Turnstile.Yaml.Cursor

namespace Turnstile.Yaml.Strict

/-- Characters that end a line. -/
def isNewline (c : Char) : Bool := c = '\n' || c = '\r'

/-- A word ends before a space, a line break and the end of the text. -/
def endsWord : List Char → Bool
  | [] => true
  | c :: _ => isSpace c || isNewline c

/-- A line ends before a line break and the end of the text. -/
def endsLine : List Char → Bool
  | [] => true
  | c :: _ => isNewline c

/-- Three equal characters that stand as a word. -/
def isMark (mark : Char) : List Char → Bool
  | x :: y :: z :: rest => x = mark && y = mark && z = mark && endsWord rest
  | _ => false

/-- A mark before or after a document. -/
def isDocumentMark (cs : List Char) : Bool := isMark '-' cs || isMark '.' cs

/-- A place in a text. -/
structure Place extends Cursor where
  /-- Nothing but blanks stands before it on its line. -/
  indenting : Bool

namespace Place

/-- The start of a text. -/
def start (text : List Char) : Place := ⟨.start text, true⟩

/-- Pass some characters. -/
def pass (n : Nat) (p : Place) : Place := ⟨p.toCursor.skip n, false⟩

/-- Pass some characters that count as blanks. -/
def passBlanks (n : Nat) (p : Place) : Place := { p with toCursor := p.toCursor.skip n }

/-- Pass a line break, if there is one here. -/
def newline? (p : Place) : Option Place :=
  match p.rest with
  | '\r' :: '\n' :: rest => some ⟨⟨rest, p.line + 1, 0, p.offset + 2⟩, true⟩
  | c :: rest => if isNewline c then some ⟨⟨rest, p.line + 1, 0, p.offset + 1⟩, true⟩ else none
  | [] => none

/-- Pass everything up to the end of the line. -/
def passLine (p : Place) : Place :=
  p.passBlanks (p.rest.takeWhile fun c => !isNewline c).length

/-- The place left of a column, if there is a column to be right of. -/
def isLeftOf (column : Option Nat) (p : Place) : Bool :=
  (column.map fun n => decide (p.column < n)).getD false

/-- Pass blanks and a comment behind them; a comment without a blank before it is refused.  The
blanks are answered too. -/
def comment? (p : Place) : Option (List Char × Place) :=
  let blanks := p.rest.takeWhile isSpace
  let q := p.passBlanks blanks.length
  if q.rest.head? = some '#' then (if blanks.isEmpty then none else some (blanks, q.passLine))
  else some (blanks, q)

/-- Pass empty lines and blanks up to a column, or all blanks.  The widest indentation is answered
too. -/
def passLines (column : Option Nat) : Nat → Nat → Place → Nat × Place
  | 0, widest, p => (widest, p)
  | fuel + 1, widest, p =>
    let blanks := (p.rest.takeWhile (· = ' ')).length
    let p := p.passBlanks (match column with
      | some n => min blanks (n - p.column)
      | none => blanks)
    match p.newline? with
    | some next => passLines column fuel (max widest p.column) next
    | none => (max widest p.column, p)

end Place

end Turnstile.Yaml.Strict
