/-
Universally unique ids.

An id is a 128-bit number, written as 32 hexadecimal digits in groups of 8, 4, 4, 4
and 12.  Reading also takes the digits without hyphens, and the grouped form in
braces or after `urn:uuid:`.
-/
import Turnstile.Text.Hex

namespace Turnstile

/-- A 128-bit id. -/
structure Uuid where
  value : Nat
deriving DecidableEq, Repr

namespace Uuid

/-- The grouped form. -/
def text (u : Uuid) : String :=
  Text.hexOf 8 (u.value >>> 96) ++ "-" ++ Text.hexOf 4 (u.value >>> 80) ++ "-" ++
    Text.hexOf 4 (u.value >>> 64) ++ "-" ++ Text.hexOf 4 (u.value >>> 48) ++ "-" ++ Text.hexOf 12 u.value

/-- Read the grouped form. -/
def grouped? (cs : List Char) : Option Uuid :=
  if cs.length = 36 && cs[8]? == some '-' && cs[13]? == some '-' && cs[18]? == some '-' &&
      cs[23]? == some '-' then
    (Text.ofHex? (cs.filter (· != '-'))).bind fun n =>
      if (cs.filter (· != '-')).length = 32 then some ⟨n⟩ else none
  else none

/-- Read an id in any of its forms. -/
def parse? (s : String) : Option Uuid :=
  let cs := s.toList
  if cs.length = 32 then (Text.ofHex? cs).map (⟨·⟩)
  else if cs.length = 38 && cs.head? == some '\x7b' && cs.getLast? == some '\x7d' then
    grouped? (cs.drop 1).dropLast
  else if "urn:uuid:".toList.isPrefixOf cs then grouped? (cs.drop 9)
  else grouped? cs

/-- The id with a serial number: of the random kind, so that its form is valid. -/
def ofSerial (n : Nat) : Uuid :=
  ⟨n % (1 <<< 48) + (8 <<< 60) + (4 <<< 76)⟩

end Uuid

end Turnstile
