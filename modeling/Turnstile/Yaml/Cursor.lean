/-
Walking over a YAML text.

A cursor holds the text ahead and the place reached, by line and column.  A line ends
at a line feed, a carriage return, both together, or one of three wider breaks.
-/
namespace Turnstile.Yaml

/-- A place in a text. -/
structure Cursor where
  rest : List Char
  line : Nat
  column : Nat
  /-- Characters passed so far. -/
  offset : Nat

/-- Characters that end a line. -/
def isBreak (c : Char) : Bool :=
  c = '\n' || c = '\r' || c.toNat = 0x85 || c.toNat = 0x2028 || c.toNat = 0x2029

/-- The byte order mark, which may stand at the start of a line. -/
def isOrderMark (c : Char) : Bool := c.toNat = 0xFEFF

/-- Characters that part words on a line. -/
def isSpace (c : Char) : Bool := c = ' ' || c = '\t'

/-- A word ends before a space, a line break and the end of the text. -/
def endsWord : List Char → Bool
  | [] => true
  | c :: _ => isSpace c || isBreak c

/-- A line ends before a line break and the end of the text. -/
def endsLine : List Char → Bool
  | [] => true
  | c :: _ => isBreak c

/-- Characters that a YAML text may hold. -/
def isPrintable (c : Char) : Bool :=
  let n := c.toNat
  n = 9 || n = 10 || n = 13 || n = 0x85 || (0x20 ≤ n && n ≤ 0x7E) ||
    (0xA0 ≤ n && n ≠ 0xFFFE && n ≠ 0xFFFF)

namespace Cursor

/-- The start of a text. -/
def start (text : List Char) : Cursor := ⟨text, 0, 0, 0⟩

/-- Pass a number of characters, none of them a line break. -/
def skip (n : Nat) (c : Cursor) : Cursor :=
  ⟨c.rest.drop n, c.line, c.column + n, c.offset + n⟩

/-- Pass a line break, if there is one here, and say what it reads as. -/
def lineBreak? (c : Cursor) : Option (Char × Cursor) :=
  match c.rest with
  | '\r' :: '\n' :: rest => some ('\n', ⟨rest, c.line + 1, 0, c.offset + 2⟩)
  | b :: rest =>
    if isBreak b then
      let kept := b.toNat = 0x2028 || b.toNat = 0x2029
      some (if kept then b else '\n', ⟨rest, c.line + 1, 0, c.offset + 1⟩)
    else none
  | [] => none

/-- Pass the characters of a class. -/
def skipWhile (p : Char → Bool) (c : Cursor) : Cursor := c.skip (c.rest.takeWhile p).length

/-- Pass a comment, if one starts here. -/
def skipComment (c : Cursor) : Cursor :=
  match c.rest with
  | '#' :: _ => c.skipWhile fun x => !isBreak x
  | _ => c

/-- Three equal characters that stand as a word at the start of a line: dashes before a
document, points after it. -/
def isMarker (mark : Char) (c : Cursor) : Bool :=
  c.column = 0 &&
    match c.rest with
    | x :: y :: z :: rest => x = mark && y = mark && z = mark && endsWord rest
    | _ => false

/-- A document starts or ends here. -/
def atMarker (c : Cursor) : Bool := c.isMarker '-' || c.isMarker '.'

end Cursor

/-! ### Gaps between words

A scalar over several lines is one text: a single line break becomes a blank, and of
several the first is dropped.
-/

/-- What stands between two words of a scalar. -/
structure Gap where
  /-- Spaces on the first line. -/
  spaces : List Char
  /-- There is a line break. -/
  broken : Bool
  /-- The first break, unless it was escaped. -/
  first : List Char
  /-- The breaks after it. -/
  more : List Char

namespace Gap

/-- No gap yet. -/
def empty : Gap := ⟨[], false, [], []⟩

/-- What the gap reads as. -/
def text (g : Gap) : List Char :=
  if !g.broken then g.spaces
  else if g.first = ['\n'] then (if g.more.isEmpty then [' '] else g.more)
  else g.first ++ g.more

/-- Pass spaces and line breaks.  After a break, a tab left of the column `floor` is refused. -/
def extend? (floor : Nat) : Nat → Gap → Cursor → Option (Gap × Cursor)
  | 0, g, c => some (g, c)
  | fuel + 1, g, c =>
    match c.lineBreak? with
    | some (b, next) =>
      extend? floor fuel
        (if g.broken then { g with more := g.more ++ [b] } else ⟨[], true, [b], []⟩) next
    | none =>
      match c.rest with
      | x :: _ =>
        if !isSpace x then some (g, c)
        else if !g.broken then
          extend? floor fuel { g with spaces := g.spaces ++ [x] } (c.skip 1)
        else if x = '\t' && c.column < floor then none
        else extend? floor fuel g (c.skip 1)
      | [] => some (g, c)

/-- Pass all spaces and line breaks from here on. -/
def read? (floor : Nat) (g : Gap) (c : Cursor) : Option (Gap × Cursor) :=
  extend? floor (c.rest.length + 1) g c

end Gap

end Turnstile.Yaml
