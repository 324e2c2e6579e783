/-
Timestamps as text.

A timestamp is written as a date and a time of day in UTC in the proleptic
Gregorian calendar.  The fraction of a second is left out when it is zero and is
otherwise the shortest of three, six or nine digits that is exact; years outside
0 to 9999 carry a sign.

On the wire a time of day may name a leap second, `23:59:60`.  It counts as the
second after it in every comparison, so `Instant` has no room for it; `Timestamp`
keeps the mark that brings it back when the text is written again.
-/
import Turnstile.Time.Instant
import Turnstile.Text.Blank

namespace Turnstile

/-! ### Dates -/

/-- A date of the proleptic Gregorian calendar. -/
structure Date where
  year : Int
  month : Nat
  day : Nat
deriving DecidableEq, Repr

namespace Date

/-- Days from 1970-01-01 to the date.  Years are counted from March, so that the day that comes
and goes is the last of its year. -/
def toDays (d : Date) : Int :=
  let y := if d.month ≤ 2 then d.year - 1 else d.year
  let era := y.fdiv 400
  let yearOfEra := y - era * 400
  let monthFromMarch : Int := if d.month > 2 then d.month - 3 else d.month + 9
  let dayOfYear := (153 * monthFromMarch + 2) / 5 + d.day - 1
  let dayOfEra := yearOfEra * 365 + yearOfEra / 4 - yearOfEra / 100 + dayOfYear
  era * 146097 + dayOfEra - 719468

/-- The date so many days from 1970-01-01. -/
def ofDays (days : Int) : Date :=
  let z := days + 719468
  let era := z.fdiv 146097
  let dayOfEra := z - era * 146097
  let yearOfEra := (dayOfEra - dayOfEra / 1460 + dayOfEra / 36524 - dayOfEra / 146096) / 365
  let dayOfYear := dayOfEra - (365 * yearOfEra + yearOfEra / 4 - yearOfEra / 100)
  let monthFromMarch := (5 * dayOfYear + 2) / 153
  let day := dayOfYear - (153 * monthFromMarch + 2) / 5 + 1
  let month := if monthFromMarch < 10 then monthFromMarch + 3 else monthFromMarch - 9
  let year := yearOfEra + era * 400 + (if month ≤ 2 then 1 else 0)
  ⟨year, month.toNat, day.toNat⟩

/-- Is it a year with a 29th of February? -/
def isLeapYear (year : Int) : Bool :=
  year % 4 == 0 && (year % 100 != 0 || year % 400 == 0)

/-- Days in a month. -/
def daysInMonth (year : Int) (month : Nat) : Nat :=
  if month = 2 then (if isLeapYear year then 29 else 28)
  else if month = 4 ∨ month = 6 ∨ month = 9 ∨ month = 11 then 30
  else 31

/-- Does the calendar have the date? -/
def IsValid (d : Date) : Prop :=
  1 ≤ d.month ∧ d.month ≤ 12 ∧ 1 ≤ d.day ∧ d.day ≤ daysInMonth d.year d.month

instance (d : Date) : Decidable d.IsValid := inferInstanceAs (Decidable (_ ∧ _))

end Date

/-- A point in time as text can name it: an instant, or a leap second that counts as it. -/
structure Timestamp where
  instant : Instant
  /-- Is it named as the sixty-first second of the minute before? -/
  leap : Bool
deriving DecidableEq, Repr

namespace Timestamp

/-- An instant as a timestamp. -/
def ofInstant (t : Instant) : Timestamp := ⟨t, false⟩

/-! ### Writing -/

/-- A number with zeros in front up to a width. -/
def padded (width n : Nat) : String :=
  let digits := toString n
  String.ofList (List.replicate (width - digits.length) '0') ++ digits

/-- Four digits, with a sign in front outside 0 to 9999. -/
def yearText (y : Int) : String :=
  if 0 ≤ y ∧ y ≤ 9999 then padded 4 y.toNat
  else (if y < 0 then "-" else "+") ++ padded 4 y.natAbs

/-- The shortest of 0, 3, 6 or 9 digits that gives the nanoseconds exactly. -/
def fractionText (nanos : Nat) : String :=
  if nanos = 0 then ""
  else if nanos % 1000000 = 0 then "." ++ padded 3 (nanos / 1000000)
  else if nanos % 1000 = 0 then "." ++ padded 6 (nanos / 1000)
  else "." ++ padded 9 nanos

/-- The date and the time of day with a separator between them. -/
def dateTimeText (separator : String) (t : Timestamp) : String :=
  let shown := if t.leap then t.instant.nanos - Span.second else t.instant.nanos
  let seconds := shown.fdiv Span.second
  let nanos := (shown - seconds * Span.second).toNat
  let days := seconds.fdiv 86400
  let inDay := (seconds - days * 86400).toNat
  let date := Date.ofDays days
  yearText date.year ++ "-" ++ padded 2 date.month ++ "-" ++ padded 2 date.day ++ separator ++
    padded 2 (inDay / 3600) ++ ":" ++ padded 2 (inDay / 60 % 60) ++ ":" ++
    padded 2 (inDay % 60 + (if t.leap then 1 else 0)) ++ fractionText nanos

/-- The form on the wire, `2026-02-01T00:00:00Z`. -/
def text (t : Timestamp) : String := dateTimeText "T" t ++ "Z"

/-- The form in messages, `2026-02-01 00:00:00 UTC`. -/
def plainText (t : Timestamp) : String := dateTimeText " " t ++ " UTC"

/-! ### Reading

The reader takes the wire form with some freedom: blanks around numbers, a blank
or a small `t` between date and time, fewer digits than usual, and any offset.
-/

/-- The number of the digits in front, at most `most` of them, and what is left. -/
def digits? (most : Nat) (cs : List Char) : Option (Nat × List Char) :=
  let ds := (cs.take most).takeWhile Char.isDigit
  if ds.isEmpty then none
  else some (ds.foldl (fun n c => n * 10 + (c.toNat - 48)) 0, cs.drop ds.length)

/-- A number after blanks. -/
def field? (most : Nat) (cs : List Char) : Option (Nat × List Char) :=
  digits? most (Text.trimLeft cs)

/-- A year: four digits at most, or any number of them after a sign. -/
def year? (cs : List Char) : Option (Int × List Char) :=
  match Text.trimLeft cs with
  | '-' :: r => (digits? r.length r).map fun (n, r) => (-(n : Int), r)
  | '+' :: r => (digits? r.length r).map fun (n, r) => ((n : Int), r)
  | r => (digits? 4 r).map fun (n, r) => ((n : Int), r)

/-- A mark after blanks. -/
def mark? (c : Char) (cs : List Char) : Option (List Char) :=
  match Text.trimLeft cs with
  | d :: r => if d = c then some r else none
  | [] => none

/-- Nanoseconds after a point; digits past the ninth are dropped. -/
def fraction? : List Char → Option (Nat × List Char)
  | '.' :: r => (digits? 9 r).map fun (n, rest) =>
      (n * Nat.pow 10 (9 - (r.length - rest.length)), rest.dropWhile Char.isDigit)
  | r => some (0, r)

/-- Two digits in front. -/
def pair? : List Char → Option (Nat × List Char)
  | a :: b :: r =>
    if a.isDigit && b.isDigit then some ((a.toNat - 48) * 10 + (b.toNat - 48), r) else none
  | _ => none

/-- Seconds east of UTC: `Z`, `UTC`, or a sign with hours and minutes. -/
def offset? (cs : List Char) : Option (Int × List Char) :=
  let signed (sign : Int) (r : List Char) : Option (Int × List Char) := do
    let (hours, r) ← pair? r
    let (minutes, r) ← pair? (r.dropWhile fun c => c = ':' || Text.isBlank c)
    if minutes ≤ 59 then some (sign * (hours * 3600 + minutes * 60), r) else none
  match cs with
  | u :: t :: c :: r =>
    if u.toUpper = 'U' && t.toUpper = 'T' && c.toUpper = 'C' then some (0, r)
    else if u = 'Z' || u = 'z' then some (0, t :: c :: r)
    else if u = '+' then signed 1 (t :: c :: r)
    else if u = '-' || u.toNat = 0x2212 then signed (-1) (t :: c :: r)
    else none
  | u :: r => if u = 'Z' || u = 'z' then some (0, r) else none
  | [] => none

/-- The mark between date and time. -/
def separator? : List Char → Option (List Char)
  | c :: r => if c = 'T' || c = 't' || c = ' ' then some r else none
  | [] => none

/-- Read a timestamp.  The instant and the date must be inside the calendar, and a sixtieth
second is a leap second. -/
def parse? (s : String) : Option Timestamp := do
  let (year, r) ← year? s.toList
  let r ← mark? '-' r
  let (month, r) ← field? 2 r
  let r ← mark? '-' r
  let (day, r) ← field? 2 r
  let r ← separator? r
  let (hour, r) ← field? 2 r
  let r ← mark? ':' r
  let (minute, r) ← field? 2 r
  let r ← mark? ':' r
  let (second, r) ← field? 2 r
  let (nanos, r) ← fraction? r
  let (offset, r) ← offset? (Text.trimLeft r)
  let date : Date := ⟨year, month, day⟩
  let leap := second == 60
  let instant : Instant :=
    ⟨(date.toDays * 86400 + hour * 3600 + minute * 60 + second - offset) * Span.second + nanos⟩
  let shown := instant.plus (if leap then -Span.second else 0)
  if (Text.trimLeft r).isEmpty && decide date.IsValid && hour ≤ 23 && minute ≤ 59 && second ≤ 60 &&
      decide (-86400 < offset ∧ offset < 86400) && decide (-262143 ≤ year ∧ year ≤ 262142) &&
      decide (Calendar.Holds shown) then
    some ⟨instant, leap⟩
  else none

end Timestamp

/-- An instant in its wire form. -/
def Instant.text (t : Instant) : String := (Timestamp.ofInstant t).text

/-- An instant in the form of messages. -/
def Instant.plainText (t : Instant) : String := (Timestamp.ofInstant t).plainText

end Turnstile
