/-
Bytes as text.

Files and environment variables hold bytes.  `Text.next?` reads one character of UTF-8,
in its shortest form and no surrogate; bytes are text if they are nothing but
characters.
-/
import Turnstile.Text.Quoted

namespace Turnstile.Text

/-- The low six bits of a byte that continues a character. -/
def continuation? (b : UInt8) : Option Nat :=
  if 0x80 ≤ b && b < 0xC0 then some (b.toNat - 0x80) else none

/-- A character of two bytes or more, unless it has a shorter form or is no character. -/
def character? (least code : Nat) : Option Char :=
  if least ≤ code && code.isValidChar then some (Char.ofNat code) else none

/-- The character at the front of some bytes, and the bytes after it. -/
def next? : List UInt8 → Option (Char × List UInt8)
  | [] => none
  | a :: rest =>
    if a < 0x80 then some (Char.ofNat a.toNat, rest)
    else if 0xC0 ≤ a && a < 0xE0 then
      match rest with
      | b :: rest => do
        let c ← character? 0x80 ((a.toNat - 0xC0) * 0x40 + (← continuation? b))
        some (c, rest)
      | _ => none
    else if 0xE0 ≤ a && a < 0xF0 then
      match rest with
      | b :: c :: rest => do
        let x ← character? 0x800
          ((a.toNat - 0xE0) * 0x1000 + (← continuation? b) * 0x40 + (← continuation? c))
        some (x, rest)
      | _ => none
    else if 0xF0 ≤ a && a < 0xF8 then
      match rest with
      | b :: c :: d :: rest => do
        let x ← character? 0x10000
          ((a.toNat - 0xF0) * 0x40000 + (← continuation? b) * 0x1000 +
            (← continuation? c) * 0x40 + (← continuation? d))
        some (x, rest)
      | _ => none
    else none

/-- Bytes as characters, and as bytes where they are none.  The fuel is their number. -/
def scan : Nat → List UInt8 → List (Char ⊕ UInt8)
  | 0, _ => []
  | _ + 1, [] => []
  | fuel + 1, b :: rest =>
    match next? (b :: rest) with
    | some (c, rest) => .inl c :: scan fuel rest
    | none => .inr b :: scan fuel rest

/-- Bytes as text, if they are nothing else. -/
def ofBytes? (bytes : List UInt8) : Option String :=
  ((scan bytes.length bytes).mapM (Sum.elim some fun _ => none)).map String.ofList

/-- How a quoted name shows a character: as a quoted text does, and with apostrophes escaped. -/
def quoteNameChar (c : Char) : List Char := if c = '\'' then ['\\', '\''] else quoteChar c

/-- A byte in hexadecimal, as a quoted name shows it. -/
def quoteByte (b : UInt8) : List Char :=
  '\\' :: 'x' :: (hexDigits (b.toNat + 0x100)).tail.map Char.toUpper

/-- The name of a file, or bytes that are no text, between double quotes. -/
def quotedBytes (bytes : List UInt8) : String :=
  String.ofList ('"' :: (scan bytes.length bytes).flatMap (Sum.elim quoteNameChar quoteByte) ++ ['"'])

/-- A file's name between double quotes. -/
def quotedName (s : String) : String :=
  String.ofList ('"' :: s.toList.flatMap quoteNameChar ++ ['"'])

end Turnstile.Text
