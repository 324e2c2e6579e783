/-
Bytes written with percent signs.

In an address a percent sign and two hexadecimal digits stand for a byte, and a percent
sign before anything else for itself.  In a query a plus sign stands for a blank.
-/
import Turnstile.Text.Hex

namespace Turnstile.Text

/-- The byte that two hexadecimal digits name. -/
def hexByte? (a b : UInt8) : Option UInt8 := do
  let a ← hexValue? (Char.ofNat a.toNat)
  let b ← hexValue? (Char.ofNat b.toNat)
  some (UInt8.ofNat (a * 16 + b))

/-- The bytes that are meant. -/
def unescape : List UInt8 → List UInt8
  | 0x25 :: a :: b :: rest =>
    match hexByte? a b with
    | some x => x :: unescape rest
    | none => 0x25 :: unescape (a :: b :: rest)
  | x :: rest => x :: unescape rest
  | [] => []

/-- The bytes that a text with percent signs means. -/
def percentDecoded (s : String) : List UInt8 := unescape s.toUTF8.toList

/-- The bytes that a part of a query means. -/
def queryDecoded (s : String) : List UInt8 :=
  unescape (s.toUTF8.toList.map fun b => if b = 0x2B then 0x20 else b)

end Turnstile.Text
