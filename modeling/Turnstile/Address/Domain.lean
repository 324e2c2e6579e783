/-
Names of hosts.

A name is read from bytes.  Letters of either case are one, and some characters are none
of a name's: blanks, controls and those that end or divide an address.  A label that starts
with `xn--` spells characters of other scripts in ASCII: the ASCII ones among them, a
hyphen, and digits of base 36 that say where the others come in, with a bias that adapts
to the distances so far.
-/
import Turnstile.Text.LetterCase
import Turnstile.Text.Quoted
import Turnstile.Text.Repair

namespace Turnstile.Domain

/-! ### Labels of other scripts -/

/-- The value of a digit of base 36. -/
def digit? (c : Char) : Option Nat :=
  if 'a' ≤ c && c ≤ 'z' then some (c.toNat - 97)
  else if '0' ≤ c && c ≤ '9' then some (c.toNat - 22)
  else none

/-- The digit at a place ends a number if it is below this. -/
def threshold (place bias : Nat) : Nat := min 26 (max 1 (place - bias))

/-- A number in front of some digits, and those after it.  The least digit comes first. -/
def number? (bias : Nat) : Nat → Nat → Nat → List Char → Option (Nat × List Char)
  | _, _, _, [] => none
  | place, weight, n, c :: rest => do
    let digit ← digit? c
    let n := n + digit * weight
    let t := threshold place bias
    if digit < t then some (n, rest) else number? bias (place + 36) (weight * (36 - t)) n rest

/-- Divide by 35 while more than 455 is left, and count 36 for every time. -/
def settle : Nat → Nat → Nat → Nat
  | 0, delta, k => k + 36 * delta / (delta + 38)
  | fuel + 1, delta, k =>
    if 455 < delta then settle fuel (delta / 35) (k + 36) else k + 36 * delta / (delta + 38)

/-- The bias after a number, when there are `count` characters. -/
def adapt (delta count : Nat) (isFirst : Bool) : Nat :=
  let delta := if isFirst then delta / 700 else delta / 2
  settle delta (delta + delta / count) 0

/-- Put the characters that digits spell among those so far, from a place on.  The fuel is the
number of digits. -/
def insertions? : Nat → Nat → Nat → Nat → List Char → List Char → Option (List Char)
  | _, _, _, _, out, [] => some out
  | 0, _, _, _, _, _ => none
  | fuel + 1, code, place, bias, out, cs => do
    let (delta, rest) ← number? bias 36 1 0 cs
    let count := out.length + 1
    let next := place + delta
    let code := code + next / count
    if !code.isValidChar then none
    else
      let index := next % count
      let out := out.take index ++ Char.ofNat code :: out.drop index
      insertions? fuel code (index + 1) (adapt delta count (place = 0)) out rest

/-- The characters that a label spells behind its mark. -/
def spelled? (cs : List Char) : Option (List Char) :=
  let digits := (cs.reverse.takeWhile (· ≠ '-')).reverse
  let plain := (cs.take (cs.length - digits.length)).dropLast
  insertions? digits.length 128 0 72 plain digits

/-! ### Names -/

/-- Format characters that a name is read without. -/
def isPassedOver (c : Char) : Bool :=
  [0xAD, 0x200B, 0x2060, 0x2064, 0xFEFF].contains c.toNat

/-- Can the character not stand in a name? -/
def isForbidden (c : Char) : Bool :=
  c.toNat ≤ 0x20 || "%#/:<>?@[\\]^|".toList.contains c ||
    (0x7F ≤ c.toNat && Text.inRanges Text.unprintable c.toNat)

/-- Is it a label?  One that spells other characters spells some, and none that is forbidden or
has another small form. -/
def isLabel (cs : List Char) : Bool :=
  match cs with
  | 'x' :: 'n' :: '-' :: '-' :: rest =>
    match spelled? rest with
    | some chars =>
      chars.any (fun c => 0x80 ≤ c.toNat) &&
        chars.all fun c => !isForbidden c && Text.lowerChar c = [c]
    | none => false
  | _ => true

/-- The name that bytes are, in small letters, if they are one. -/
def parse? (bytes : List UInt8) : Option (List Char) := do
  let s ← Text.ofBytes? bytes
  let cs := (Text.lower s).toList.filter fun c => !isPassedOver c
  if cs.any isForbidden || !(cs.splitOn '.').all isLabel then none else some cs

end Turnstile.Domain
