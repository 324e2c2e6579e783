/-
Hexadecimal digits.
-/

namespace Turnstile.Text

/-- A hexadecimal digit, in small letters. -/
def hexDigit (n : Nat) : Char := if n < 10 then Char.ofNat (48 + n) else Char.ofNat (87 + n)

/-- The value of a hexadecimal digit, in letters of either case. -/
def hexValue? (c : Char) : Option Nat :=
  let n := c.toNat
  if 48 ≤ n && n ≤ 57 then some (n - 48)
  else if 65 ≤ n && n ≤ 70 then some (n - 55)
  else if 97 ≤ n && n ≤ 102 then some (n - 87)
  else none

/-- The last `width` hexadecimal digits of a number. -/
def hexOf (width n : Nat) : String :=
  String.ofList ((List.range width).map fun i => hexDigit (n >>> (4 * (width - 1 - i)) % 16))

/-- The number that hexadecimal digits name. -/
def ofHex? (cs : List Char) : Option Nat :=
  cs.foldlM (fun n c => (hexValue? c).map (n * 16 + ·)) 0

end Turnstile.Text
