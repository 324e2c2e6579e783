/-
Reading JSON text.

`Json.Tree` is the tree that a text spells out: members in their order with
repeats, numbers as their digits, strings as far as their escapes name characters.
Reading it fails only where the text is no JSON.  `Tree.value?` makes a value of
it, and fails where a string names half of a surrogate pair, a number is past the
largest float, or nesting goes deeper than 127.

The two are apart because a record's reader looks only at the members it knows:
what stands in the others has to be JSON, but need not have a value.
-/
import Turnstile.Json.Value

namespace Turnstile.Json

/-- A number as it is spelled. -/
structure Numeral where
  negative : Bool
  whole : List Char
  fraction : Option (List Char)
  /-- A negative sign, and digits. -/
  exponent : Option (Bool × List Char)

/-- The tree of a JSON text.  A string is absent when its escapes name no character. -/
inductive Tree
  | null
  | bool (b : Bool)
  | number (n : Numeral)
  | string (s : Option String)
  | array (items : List Tree)
  | object (members : List (Option String × Tree))

/-! ### Strings -/

/-- A piece of a string: a character that stands for itself, or a code unit from an escape. -/
inductive Piece
  | char (c : Char)
  | unit (n : Nat)


/-- The character after a backslash. -/
def escape? : Char → Option Char
  | '"' => some '"'
  | '\\' => some '\\'
  | '/' => some '/'
  | 'b' => some (Char.ofNat 8)
  | 'f' => some (Char.ofNat 12)
  | 'n' => some '\n'
  | 'r' => some '\r'
  | 't' => some '\t'
  | _ => none

/-- The pieces up to the closing quote, and what follows it. -/
def pieces? : List Char → Option (List Piece × List Char)
  | '"' :: rest => some ([], rest)
  | '\\' :: 'u' :: a :: b :: c :: d :: rest => do
    let n ← Text.ofHex? [a, b, c, d]
    let (ps, rest) ← pieces? rest
    some (.unit n :: ps, rest)
  | '\\' :: e :: rest => do
    let c ← escape? e
    let (ps, rest) ← pieces? rest
    some (.char c :: ps, rest)
  | c :: rest =>
    if c.toNat < 0x20 || c = '\\' then none
    else (pieces? rest).map fun (ps, rest) => (.char c :: ps, rest)
  | [] => none

/-- The characters of the pieces, unless a surrogate stands alone. -/
def joinPieces? : List Piece → Option (List Char)
  | [] => some []
  | .char c :: rest => (joinPieces? rest).map (c :: ·)
  | .unit hi :: .unit lo :: rest =>
    if 0xD800 ≤ hi && hi < 0xDC00 then
      if 0xDC00 ≤ lo && lo < 0xE000 then
        (joinPieces? rest).map (Char.ofNat (0x10000 + (hi - 0xD800) * 0x400 + (lo - 0xDC00)) :: ·)
      else none
    else if 0xDC00 ≤ hi && hi < 0xE000 then none
    else (joinPieces? (.unit lo :: rest)).map (Char.ofNat hi :: ·)
  | .unit n :: rest =>
    if 0xD800 ≤ n && n < 0xE000 then none
    else (joinPieces? rest).map (Char.ofNat n :: ·)

/-- The string after an opening quote. -/
def string? (cs : List Char) : Option (Option String × List Char) :=
  (pieces? cs).map fun (ps, rest) => ((joinPieces? ps).map String.ofList, rest)

/-! ### Numbers -/

/-- Digits, at least one of them. -/
def digits? (cs : List Char) : Option (List Char × List Char) :=
  let ds := cs.takeWhile Char.isDigit
  if ds.isEmpty then none else some (ds, cs.dropWhile Char.isDigit)

/-- The digits before any point: a zero alone, or digits that do not start with one. -/
def wholePart? : List Char → Option (List Char × List Char)
  | '0' :: rest => if (rest.head?.map Char.isDigit).getD false then none else some (['0'], rest)
  | cs => digits? cs

/-- The digits after a point, if there is one. -/
def fractionPart? : List Char → Option (Option (List Char) × List Char)
  | '.' :: rest => (digits? rest).map fun (ds, rest) => (some ds, rest)
  | rest => some (none, rest)

/-- The exponent, if there is one. -/
def exponentPart? : List Char → Option (Option (Bool × List Char) × List Char)
  | c :: rest =>
    if c = 'e' || c = 'E' then
      let (negative, rest) : Bool × List Char := match rest with
        | '-' :: r => (true, r)
        | '+' :: r => (false, r)
        | r => (false, r)
      (digits? rest).map fun (ds, rest) => (some (negative, ds), rest)
    else some (none, c :: rest)
  | [] => some (none, [])

/-- A number in front of the text. -/
def numeral? (cs : List Char) : Option (Numeral × List Char) := do
  let (negative, rest) : Bool × List Char := match cs with
    | '-' :: r => (true, r)
    | r => (false, r)
  let (digits, rest) ← wholePart? rest
  let (fraction, rest) ← fractionPart? rest
  let (exponent, rest) ← exponentPart? rest
  some (⟨negative, digits, fraction, exponent⟩, rest)

/-! ### Trees -/

/-- Remove blanks in front. -/
def skipBlanks (cs : List Char) : List Char :=
  cs.dropWhile fun c => c = ' ' || c = '\n' || c = '\t' || c = '\r'

/-- Remove a word in front. -/
def word? : List Char → List Char → Option (List Char)
  | [], rest => some rest
  | _ :: _, [] => none
  | w :: ws, c :: cs => if w = c then word? ws cs else none

mutual

/-- A value in front of the text.  Every call is for text that is at least a character
shorter, so the length of the text is fuel enough. -/
def value? : Nat → List Char → Option (Tree × List Char)
  | 0, _ => none
  | fuel + 1, cs =>
    match skipBlanks cs with
    | '"' :: rest => (string? rest).map fun (s, rest) => (.string s, rest)
    | '[' :: rest =>
      match skipBlanks rest with
      | ']' :: rest => some (.array [], rest)
      | rest => (items? fuel rest).map fun (vs, rest) => (.array vs, rest)
    | '\x7b' :: rest =>
      match skipBlanks rest with
      | '\x7d' :: rest => some (.object [], rest)
      | rest => (members? fuel rest).map fun (ms, rest) => (.object ms, rest)
    | 't' :: rest => (word? ['r', 'u', 'e'] rest).map fun rest => (.bool true, rest)
    | 'f' :: rest => (word? ['a', 'l', 's', 'e'] rest).map fun rest => (.bool false, rest)
    | 'n' :: rest => (word? ['u', 'l', 'l'] rest).map fun rest => (.null, rest)
    | rest => (numeral? rest).map fun (n, rest) => (.number n, rest)

/-- Items up to the closing bracket. -/
def items? : Nat → List Char → Option (List Tree × List Char)
  | 0, _ => none
  | fuel + 1, cs => do
    let (v, rest) ← value? fuel cs
    match skipBlanks rest with
    | ',' :: rest =>
      let (vs, rest) ← items? fuel rest
      some (v :: vs, rest)
    | ']' :: rest => some ([v], rest)
    | _ => none

/-- Members up to the closing brace. -/
def members? : Nat → List Char → Option (List (Option String × Tree) × List Char)
  | 0, _ => none
  | fuel + 1, cs =>
    match skipBlanks cs with
    | '"' :: rest => do
      let (k, rest) ← string? rest
      match skipBlanks rest with
      | ':' :: rest =>
        let (v, rest) ← value? fuel rest
        match skipBlanks rest with
        | ',' :: rest =>
          let (ms, rest) ← members? fuel rest
          some ((k, v) :: ms, rest)
        | '\x7d' :: rest => some ([(k, v)], rest)
        | _ => none
      | _ => none
    | _ => none

end

/-- The tree of a text that holds one value and nothing else. -/
def Tree.parse? (s : String) : Option Tree :=
  let cs := s.toList
  match value? (2 * cs.length + 2) cs with
  | some (v, rest) => if (skipBlanks rest).isEmpty then some v else none
  | none => none

/-! ### Values -/

namespace Numeral

/-- The digits that fit into a 64-bit significand, and how many did not. -/
def gather : Nat → Nat → List Char → Nat × Nat
  | n, dropped, [] => (n, dropped)
  | n, dropped, c :: cs =>
    let next := n * 10 + (c.toNat - 48)
    if dropped = 0 ∧ next ≤ greatestWord then gather next 0 cs else gather n (dropped + 1) cs

/-- An exponent's digits, as far as a signed 32-bit number goes. -/
def exponentValue? (ds : List Char) : Option Nat :=
  let n := ds.foldl (fun n c => if n > 2147483647 then n else n * 10 + (c.toNat - 48)) 0
  if n > 2147483647 then none else some n

/-- The number a numeral stands for.  Whole numbers that fit a 64-bit word stay whole; minus
zero and everything else is a float.  Nothing is past the largest float. -/
def value? (n : Numeral) : Option Json :=
  let signed (x : Float) : Json := .float (if n.negative then -x else x)
  let (significand, long) := gather 0 0 n.whole
  match n.fraction, n.exponent with
  | none, none =>
    if long = 0 then
      if !n.negative then some (.whole significand)
      else if significand = 0 ∨ significand > 9223372036854775808 then
        some (signed significand.toUInt64.toFloat)
      else some (.whole (-(significand : Int)))
    else (Decimal.scaled ⟨significand, long⟩).map signed
  | fraction, exponent =>
    let ds := fraction.getD []
    let (significand, short) := gather significand 0 ds
    let scale : Int := long - (ds.length - short : Nat)
    match exponent with
    | none => (Decimal.scaled ⟨significand, scale⟩).map signed
    | some (negative, es) =>
      match exponentValue? es with
      | some e =>
        (Decimal.scaled ⟨significand, if negative then scale - e else scale + e⟩).map signed
      | none => if significand ≠ 0 ∧ !negative then none else some (signed 0.0)

end Numeral

mutual

/-- The value of a tree whose nesting goes at most `depth` deep. -/
def Tree.valueWithin : Nat → Tree → Option Json
  | _, .null => some .null
  | _, .bool b => some (.bool b)
  | _, .number n => n.value?
  | _, .string s => s.map .string
  | 0, .array _ => none
  | 0, .object _ => none
  | depth + 1, .array items => (itemValues depth items).map .array
  | depth + 1, .object members => (memberValues depth members).map ofMembers

/-- The values of an array's items. -/
def itemValues : Nat → List Tree → Option (List Json)
  | _, [] => some []
  | depth, t :: rest => do
    let v ← t.valueWithin depth
    let vs ← itemValues depth rest
    some (v :: vs)

/-- The values of an object's members. -/
def memberValues : Nat → List (Option String × Tree) → Option (List (String × Json))
  | _, [] => some []
  | depth, (k, t) :: rest => do
    let k ← k
    let v ← t.valueWithin depth
    let vs ← memberValues depth rest
    some ((k, v) :: vs)

end

/-- The value of a tree, which may nest 127 deep. -/
def Tree.value? (t : Tree) : Option Json := t.valueWithin 127

/-- The value of a text. -/
def parse? (s : String) : Option Json := do
  let t ← Tree.parse? s
  t.value?

end Turnstile.Json
