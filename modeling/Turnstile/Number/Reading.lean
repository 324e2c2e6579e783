/-
Numbers and truth values in configuration text.

A configuration value is text; a typed setting reads it as a whole number of a
given range, a float, or a truth value.  Each reader names what is wrong with a
text it refuses, in the words an operator sees.
-/
import Turnstile.Number.Decimal

namespace Turnstile

/-- Why a text is not the number that was asked for. -/
inductive NumberError
  | emptyWhole
  | invalidDigit
  | tooLarge
  | tooSmall
  | emptyFloat
  | invalidFloat
  | notTruth
deriving DecidableEq, Repr

namespace NumberError

/-- The words for it. -/
def message : NumberError → String
  | emptyWhole => "cannot parse integer from empty string"
  | invalidDigit => "invalid digit found in string"
  | tooLarge => "number too large to fit in target type"
  | tooSmall => "number too small to fit in target type"
  | emptyFloat => "cannot parse float from empty string"
  | invalidFloat => "invalid float literal"
  | notTruth => "provided string was not `true` or `false`"

end NumberError

/-! ### Whole numbers -/

/-- A range of whole numbers. -/
structure WholeRange where
  least : Int
  greatest : Int

namespace WholeRange

/-- Signed 64-bit numbers. -/
def signed : WholeRange := ⟨Signed64.least, Signed64.greatest⟩

/-- Unsigned 64-bit numbers. -/
def word : WholeRange := ⟨0, 18446744073709551615⟩

/-- Numbers of one byte. -/
def byte : WholeRange := ⟨0, 255⟩

/-- Read digits onto a number.  The first character that is no digit or that takes the number
out of range decides. -/
def readDigits (r : WholeRange) (sign : Int) : Int → List Char → Except NumberError Int
  | n, [] => .ok n
  | n, c :: cs =>
    if c.isDigit then
      let next := n * 10 + sign * (c.toNat - 48 : Nat)
      if next > r.greatest then .error .tooLarge
      else if next < r.least then .error .tooSmall
      else readDigits r sign next cs
    else .error .invalidDigit

/-- Read a whole number of the range: digits after an optional sign, where a minus sign needs a
range with negative numbers. -/
def read (r : WholeRange) (s : String) : Except NumberError Int :=
  match s.toList with
  | [] => .error .emptyWhole
  | ['+'] => .error .invalidDigit
  | ['-'] => .error .invalidDigit
  | '+' :: cs => readDigits r 1 0 cs
  | '-' :: cs => if r.least < 0 then readDigits r (-1) 0 cs else .error .invalidDigit
  | cs => readDigits r 1 0 cs

end WholeRange

/-! ### Floats and truth values -/

/-- The value of a list of digits. -/
def digitsValue (cs : List Char) : Nat := cs.foldl (fun n c => n * 10 + (c.toNat - 48)) 0

/-- An exponent: a sign and digits, with nothing after them. -/
def exponent? (cs : List Char) : Option Int :=
  let (sign, ds) : Int × List Char := match cs with
    | '-' :: r => (-1, r)
    | '+' :: r => (1, r)
    | r => (1, r)
  if ds.isEmpty || !ds.all Char.isDigit then none else some (sign * digitsValue ds)

/-- An unsigned decimal: digits with at most one point among them, at least one digit, and
perhaps an exponent. -/
def decimal? (cs : List Char) : Option Decimal :=
  let whole := cs.takeWhile Char.isDigit
  let rest := cs.dropWhile Char.isDigit
  let (fraction, rest) : List Char × List Char := match rest with
    | '.' :: r => (r.takeWhile Char.isDigit, r.dropWhile Char.isDigit)
    | r => ([], r)
  let digits := digitsValue (whole ++ fraction)
  if whole.isEmpty && fraction.isEmpty then none
  else match rest with
    | [] => some ⟨digits, -(fraction.length : Int)⟩
    | c :: r =>
      if c = 'e' || c = 'E' then (exponent? r).map fun e => ⟨digits, e - fraction.length⟩
      else none

/-- An unsigned float: a decimal, or a word for infinity or for no number. -/
def unsignedFloat? (cs : List Char) : Option Float :=
  let word := String.ofList (cs.map Char.toLower)
  if word = "inf" || word = "infinity" then some Decimal.infinity
  else if word = "nan" then some (0.0 / 0.0)
  else (decimal? cs).map Decimal.toFloat

/-- Read a float, to the nearest. -/
def readFloat (s : String) : Except NumberError Float :=
  let result := match s.toList with
    | '-' :: cs => (unsignedFloat? cs).map fun x => -x
    | '+' :: cs => unsignedFloat? cs
    | cs => unsignedFloat? cs
  match result with
  | some x => .ok x
  | none => .error (if s.isEmpty then .emptyFloat else .invalidFloat)

/-- Read a truth value. -/
def readTruth (s : String) : Except NumberError Bool :=
  if s = "true" then .ok true else if s = "false" then .ok false else .error .notTruth

end Turnstile
