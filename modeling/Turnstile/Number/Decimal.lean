/-
Decimal text of binary fractions.

A 64-bit float is written with the fewest digits that read back as the same float,
and of those the nearest to its value.  The digits are found in exact arithmetic:
a float m * 2^q stands for the interval of numbers that round to it, and for each
count of digits the two neighbours of its value on that decimal grid are tried, so
the first count with a hit is the least.  How the digits are laid out (where plain
notation ends, how the exponent looks) is a record of its own.

Reading goes two ways.  `Decimal.toFloat` rounds the decimal once, to the nearest
float.  `Decimal.scaled` keeps a 64-bit significand and multiplies or divides it by
a rounded power of ten, which is what numbers in JSON text go through.
-/
import Turnstile.Time.Instant

namespace Turnstile

/-- The number `digits * 10 ^ scale`. -/
structure Decimal where
  digits : Nat
  scale : Int
deriving DecidableEq, Repr

namespace Decimal

/-! ### The fewest digits that read back -/

/-- The least significand of 53 bits, 2^52; only the smallest floats have a shorter one. -/
def leastNormal : Nat := 1 <<< 52

/-- A float's sign, and the numbers m and q with |x| = m * 2^q. -/
def binary (x : Float) : Bool × Nat × Int :=
  let bits : Nat := x.toBits.toNat
  let exponent : Nat := (bits >>> 52) % 2048
  let fraction : Nat := bits % leastNormal
  if exponent = 0 then (bits >>> 63 = 1, fraction, -1074)
  else (bits >>> 63 = 1, fraction + leastNormal, (exponent : Int) - 1075)

/-- A fraction of natural numbers: a power of the base, or one over it. -/
def power (base : Nat) (e : Int) : Nat × Nat := (Nat.pow base e.toNat, Nat.pow base (-e).toNat)

/-- The interval of numbers that round to m * 2^q, in quarters of 2^q.  Below a power of two the
floats stand half as far apart. -/
def lowQuarters (m : Nat) (q : Int) : Nat :=
  if m = leastNormal ∧ q > -1074 then 4 * m - 1 else 4 * m - 2

/-- Does c * 10^k round to m * 2^q?  The ends of the interval belong to it when m is even. -/
def readsBack (m : Nat) (q : Int) (c : Nat) (k : Int) : Bool :=
  let (two, half) := power 2 (q - 2)
  let (ten, tenth) := power 10 k
  let value := c * ten * half
  let low := lowQuarters m q * two * tenth
  let high := (4 * m + 2) * two * tenth
  if m % 2 = 0 then low ≤ value && value ≤ high else low < value && value < high

/-- The greatest c with c * 10^k at most m * 2^q. -/
def below (m : Nat) (q : Int) (k : Int) : Nat :=
  let (two, half) := power 2 q
  let (ten, tenth) := power 10 k
  m * two * tenth / (half * ten)

/-- Is (c + 1) * 10^k nearer to m * 2^q than c * 10^k?  A tie goes to the even digit. -/
def upperIsNearer (m : Nat) (q : Int) (c : Nat) (k : Int) : Bool :=
  let (two, half) := power 2 q
  let (ten, tenth) := power 10 k
  let value := 2 * m * two * tenth
  let middle := (2 * c + 1) * ten * half
  middle < value || (middle == value && c % 2 == 1)

/-- The place of the first digit: 10^e ≤ m * 2^q < 10^(e+1). -/
def leadingPlace (m : Nat) (q : Int) : Int :=
  let guess := ((m.log2 + q) * 30103).fdiv 100000
  if below m q (guess + 1) ≠ 0 then guess + 1
  else if below m q guess = 0 then guess - 1
  else guess

/-- The neighbours on the grid of `count` digits, then of more digits, while `fuel` lasts. -/
def shortestFrom (m : Nat) (q lead : Int) : Nat → Nat → Decimal
  | 0, count => ⟨below m q (lead - count + 1), lead - count + 1⟩
  | fuel + 1, count =>
    let k := lead - count + 1
    let c := below m q k
    match readsBack m q c k, readsBack m q (c + 1) k with
    | true, true => ⟨if upperIsNearer m q c k then c + 1 else c, k⟩
    | true, false => ⟨c, k⟩
    | false, true => ⟨c + 1, k⟩
    | false, false => shortestFrom m q lead fuel (count + 1)

/-- Take zeros off the end of the digits. -/
def withoutZeros (d : Decimal) : Decimal :=
  if h : d.digits ≠ 0 ∧ d.digits % 10 = 0 then withoutZeros ⟨d.digits / 10, d.scale + 1⟩ else d
termination_by d.digits
decreasing_by omega

/-- The shortest decimal that reads back as m * 2^q; seventeen digits always do. -/
def shortest (m : Nat) (q : Int) : Decimal :=
  withoutZeros (shortestFrom m q (leadingPlace m q) 17 1)

/-! ### Laying digits out -/

/-- How a float looks. -/
structure Layout where
  /-- Numbers whose first digit has this place or a higher one are written without an exponent, -/
  plainFrom : Int
  /-- up to this place, which has one. -/
  plainBelow : Int
  /-- Plain numbers without a fraction end in a point and a zero. -/
  point : String
  /-- What stands before a positive exponent. -/
  exponentSign : String

/-- Digits with a point after the first `place` of them. -/
def plain (l : Layout) (digits : List Char) (place : Int) : String :=
  if place ≤ 0 then
    "0." ++ String.ofList (List.replicate (-place).toNat '0' ++ digits)
  else if digits.length ≤ place.toNat then
    String.ofList (digits ++ List.replicate (place.toNat - digits.length) '0') ++ l.point
  else
    String.ofList (digits.take place.toNat) ++ "." ++ String.ofList (digits.drop place.toNat)

/-- A decimal in a layout. -/
def lay (l : Layout) (d : Decimal) : String :=
  let digits := (toString d.digits).toList
  let place := d.scale + digits.length - 1
  if l.plainFrom ≤ place ∧ place < l.plainBelow then plain l digits (place + 1)
  else
    String.ofList (digits.take 1) ++
      (if digits.length = 1 then "" else "." ++ String.ofList (digits.drop 1)) ++
      "e" ++ (if place < 0 then "-" else l.exponentSign) ++ toString place.natAbs

/-- A finite float in a layout. -/
def text (l : Layout) (x : Float) : String :=
  let (negative, m, q) := binary x
  (if negative then "-" else "") ++
    (if m = 0 then "0" ++ l.point else lay l (shortest m q))

/-! ### Reading -/

/-- Positive infinity. -/
def infinity : Float := 1.0 / 0.0

/-- The float nearest to a decimal. -/
def toFloat (d : Decimal) : Float :=
  let place := d.scale + (toString d.digits).length
  if d.digits = 0 ∨ place < -400 then 0.0
  else if place > 400 then infinity
  else Float.ofScientific d.digits (d.scale < 0) d.scale.natAbs

/-- Ten to a power, rounded. -/
def tenTo (n : Nat) : Float := Float.ofScientific 1 false n

/-- A float times or divided by a rounded power of ten; nothing when it grows past the largest
float.  Far negative powers go by steps of 308. -/
def scaledFrom : Nat → Float → Int → Option Float
  | 0, f, _ => some f
  | fuel + 1, f, e =>
    if e.natAbs ≤ 308 then
      if 0 ≤ e then
        let r := f * tenTo e.natAbs
        if r.isInf then none else some r
      else some (f / tenTo e.natAbs)
    else if f == 0.0 then some f
    else if 0 ≤ e then none
    else scaledFrom fuel (f / tenTo 308) (e + 308)

/-- A decimal with a 64-bit significand by way of a rounded power of ten.  Four steps of 308
places take every significand to zero. -/
def scaled (d : Decimal) : Option Float :=
  scaledFrom 4 d.digits.toUInt64.toFloat d.scale

end Decimal

end Turnstile
