/-
Addresses of hosts in numbers.

An address of the older kind is four numbers of one byte between points.  One of the
newer kind is eight groups of hexadecimal digits between colons; two colons stand once
for one or more groups of zeros, and the last two groups may be written in the older way.

Programs that read addresses of resources are laxer about the older kind: numbers may be
octal or hexadecimal, and the last one may stand for several bytes.
-/
import Turnstile.Number.Reading
import Turnstile.Text.Hex

namespace Turnstile.Internet

/-! ### Strict readers -/

/-- A number of one byte, without a zero in front. -/
def isByte (cs : List Char) : Bool :=
  !cs.isEmpty && cs.all Char.isDigit && cs.length ≤ 3 && digitsValue cs ≤ 255 &&
    (cs.length = 1 || cs.head? ≠ some '0')

/-- Is it an address of the older kind? -/
def isV4 (cs : List Char) : Bool :=
  let parts := cs.splitOn '.'
  parts.length = 4 && parts.all isByte

/-- A group of hexadecimal digits. -/
def isGroup (cs : List Char) : Bool :=
  !cs.isEmpty && cs.length ≤ 4 && cs.all fun c => (Text.hexValue? c).isSome

/-- How many groups there are between colons, if all are good; `isLast` of them may end with an
address of the older kind. -/
def groups? (isLast : Bool) (cs : List Char) : Option Nat :=
  if cs.isEmpty then some 0
  else
    let parts := cs.splitOn ':'
    let last := parts.getLastD []
    if isLast && last.contains '.' then
      if parts.dropLast.all isGroup && isV4 last then some (parts.length + 1) else none
    else if parts.all isGroup then some parts.length else none

/-- The characters before the first two colons and those after them. -/
def gap? : List Char → Option (List Char × List Char)
  | ':' :: ':' :: rest => some ([], rest)
  | c :: rest => (gap? rest).map fun (before, after) => (c :: before, after)
  | [] => none

/-- Is it an address of the newer kind? -/
def isV6 (cs : List Char) : Bool :=
  match gap? cs with
  | none => groups? true cs = some 8
  | some (before, after) =>
    match groups? false before, groups? true after with
    | some a, some b => a + b ≤ 7
    | _, _ => false

/-- Is it an address in numbers? -/
def isNumeric (s : String) : Bool := isV4 s.toList || isV6 s.toList

/-! ### The lax reader -/

/-- A number in decimal, behind a zero in octal, or behind `0x` in hexadecimal. -/
def number? : List Char → Option Nat
  | [] => none
  | '0' :: c :: rest =>
    if c = 'x' || c = 'X' then Text.ofHex? rest
    else if (c :: rest).all fun d => '0' ≤ d && d ≤ '7' then
      some ((c :: rest).foldl (fun n d => n * 8 + (d.toNat - 48)) 0)
    else none
  | cs => if cs.all Char.isDigit then some (digitsValue cs) else none

/-- The parts of a name between points; a point at the end counts for nothing. -/
def labels (cs : List Char) : List (List Char) :=
  let parts := cs.splitOn '.'
  if parts.getLast? = some [] then parts.dropLast else parts

/-- Does the last part of a name make it an address of the older kind? -/
def endsInNumber (cs : List Char) : Bool :=
  match (labels cs).getLast? with
  | some last => (!last.isEmpty && last.all Char.isDigit) || (number? last).isSome
  | none => false

/-- Is it an address of the older kind?  The last number stands for all bytes that are left. -/
def isLaxV4 (cs : List Char) : Bool :=
  let parts := labels cs
  match parts.mapM number? with
  | some numbers =>
    parts.length ≤ 4 && numbers.dropLast.all (· ≤ 255) &&
      numbers.getLastD 0 < 1 <<< (8 * (5 - parts.length))
  | none => false

end Turnstile.Internet
