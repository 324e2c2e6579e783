/-
Bytes that are nearly text.

Where bytes stop being text is told by the place of the first one that belongs to no
character, and by how many bytes from there on look like one character: those that could
start it, up to the first that cannot go on.  If the bytes end before that, more of them
might have made a character.  A reader that repairs puts one replacement character in the
place of all these.
-/
import Turnstile.Text.Utf8

namespace Turnstile.Text

/-- The ranges of the bytes that complete a character after its first byte; a byte that starts no
character has none. -/
def completion? (b : UInt8) : Option (List (UInt8 × UInt8)) :=
  let any : UInt8 × UInt8 := (0x80, 0xBF)
  if b < 0x80 then some []
  else if b < 0xC2 then none
  else if b < 0xE0 then some [any]
  else if b = 0xE0 then some [(0xA0, 0xBF), any]
  else if b = 0xED then some [(0x80, 0x9F), any]
  else if b < 0xF0 then some [any, any]
  else if b = 0xF0 then some [(0x90, 0xBF), any, any]
  else if b < 0xF4 then some [any, any, any]
  else if b = 0xF4 then some [(0x80, 0x8F), any, any]
  else none

/-- How many of the bytes in front lie in the ranges, one after another. -/
def fitting : List (UInt8 × UInt8) → List UInt8 → Nat
  | (lo, hi) :: ranges, b :: rest => if lo ≤ b && b ≤ hi then fitting ranges rest + 1 else 0
  | _, _ => 0

/-- Where bytes stop being text. -/
structure Utf8Fault where
  index : Nat
  /-- How many bytes look like one character, unless there are too few of them. -/
  length : Option Nat
deriving DecidableEq, Repr

/-- The words for it. -/
def Utf8Fault.message (f : Utf8Fault) : String :=
  match f.length with
  | some n => "invalid utf-8 sequence of " ++ toString n ++ " bytes from index " ++ toString f.index
  | none => "incomplete utf-8 byte sequence from index " ++ toString f.index

/-- The fault at the front of some bytes, at a place, if they do not start with a character. -/
def faultAt? (index : Nat) : List UInt8 → Option Utf8Fault
  | [] => none
  | b :: rest =>
    match completion? b with
    | none => some ⟨index, some 1⟩
    | some ranges =>
      let n := fitting ranges rest
      if n = ranges.length then none
      else some ⟨index, if n = rest.length then none else some (n + 1)⟩

/-- Read bytes as text, or say where they stop being it. -/
def decode (bytes : List UInt8) : Except Utf8Fault String :=
  let chars := scan bytes.length bytes
  let good := chars.takeWhile Sum.isLeft
  let index := (String.ofList (good.filterMap Sum.getLeft?)).utf8ByteSize
  match faultAt? index (bytes.drop index) with
  | some f => .error f
  | none => .ok (String.ofList (good.filterMap Sum.getLeft?))

/-- Read bytes as text, with a replacement character for what is none.  The fuel is their
number. -/
def repair : Nat → List UInt8 → List Char
  | 0, _ => []
  | _ + 1, [] => []
  | fuel + 1, b :: rest =>
    match next? (b :: rest) with
    | some (c, rest) => c :: repair fuel rest
    | none =>
      let length := ((faultAt? 0 (b :: rest)).bind (·.length)).getD (rest.length + 1)
      Char.ofNat 0xFFFD :: repair fuel ((b :: rest).drop length)

/-- Bytes as text, repaired where they are none. -/
def ofBytes (bytes : List UInt8) : String := String.ofList (repair bytes.length bytes)

end Turnstile.Text
