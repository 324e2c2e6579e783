/-
Instants, spans and the calendar.

An instant is a whole number of nanoseconds since the start of 1970 in UTC.  A span,
the distance between two instants, is an integer, also in nanoseconds, so that
periods are compared and divided with the arithmetic of the integers.  The calendar
ends on both sides; `Instant.after?` is addition that stays inside it, and a
computation that would leave it has no result.

Whole counts of the domain (units, limits, days) are signed 64-bit numbers.  They
are integers here as well, with the range checked where it can be left.
-/

namespace Turnstile

/-! ### Signed 64-bit counts -/

namespace Signed64

/-- The least signed 64-bit number. -/
def least : Int := -9223372036854775808

/-- The greatest signed 64-bit number. -/
def greatest : Int := 9223372036854775807

/-- Is the number a signed 64-bit number? -/
def Holds (n : Int) : Prop := least ≤ n ∧ n ≤ greatest

instance (n : Int) : Decidable (Holds n) := inferInstanceAs (Decidable (_ ∧ _))

/-- The number, if it is a signed 64-bit number. -/
def check? (n : Int) : Option Int := if Holds n then some n else none

theorem check?_eq_some_iff {n m : Int} : check? n = some m ↔ n = m ∧ Holds n := by
  unfold check?
  split <;> simp_all

end Signed64

/-- The greatest unsigned 64-bit number. -/
def greatestWord : Nat := 18446744073709551615

/-! ### Instants -/

/-- A point in time. -/
structure Instant where
  /-- Nanoseconds since 1970-01-01T00:00:00 UTC. -/
  nanos : Int
deriving DecidableEq, Repr

namespace Instant

instance : LE Instant := ⟨fun a b => a.nanos ≤ b.nanos⟩
instance : LT Instant := ⟨fun a b => a.nanos < b.nanos⟩

theorem le_iff {a b : Instant} : a ≤ b ↔ a.nanos ≤ b.nanos := Iff.rfl
theorem lt_iff {a b : Instant} : a < b ↔ a.nanos < b.nanos := Iff.rfl

theorem ext_iff' {a b : Instant} : a = b ↔ a.nanos = b.nanos := by
  cases a; cases b; simp

instance (a b : Instant) : Decidable (a ≤ b) := inferInstanceAs (Decidable (a.nanos ≤ b.nanos))
instance (a b : Instant) : Decidable (a < b) := inferInstanceAs (Decidable (a.nanos < b.nanos))

/-- The instant a span later, in or out of the calendar. -/
def plus (t : Instant) (d : Int) : Instant := ⟨t.nanos + d⟩

/-- The span from an earlier instant to a later one. -/
def since (later earlier : Instant) : Int := later.nanos - earlier.nanos

@[simp] theorem nanos_plus (t : Instant) (d : Int) : (t.plus d).nanos = t.nanos + d := rfl

theorem since_eq (t u : Instant) : t.since u = t.nanos - u.nanos := rfl

theorem le_of_not_lt {a b : Instant} (h : ¬ a < b) : b ≤ a := by
  simp only [lt_iff, le_iff] at *; omega

theorem lt_of_not_le {a b : Instant} (h : ¬ a ≤ b) : b < a := by
  simp only [lt_iff, le_iff] at *; omega

end Instant

/-! ### Spans -/

namespace Span

/-- Nanoseconds in a microsecond. -/
def microsecond : Int := 1000

/-- Nanoseconds in a second. -/
def second : Int := 1000000000

/-- Nanoseconds in a day. -/
def day : Int := 86400000000000

/-- Whole microseconds of a span, toward zero, when they are a signed 64-bit number. -/
def micros? (d : Int) : Option Int := Signed64.check? (d.tdiv microsecond)

end Span

/-! ### The calendar -/

namespace Calendar

/-- The first instant of the calendar, at the start of the year -262143. -/
def first : Instant := ⟨-8334601228800000000000⟩

/-- The last instant of the calendar, at the end of the year 262142. -/
def last : Instant := ⟨8210266876799999999999⟩

/-- Does the calendar hold the instant? -/
def Holds (t : Instant) : Prop := first ≤ t ∧ t ≤ last

instance (t : Instant) : Decidable (Holds t) := inferInstanceAs (Decidable (_ ∧ _))

end Calendar

/-- The instant a span later, when it is inside the calendar. -/
def Instant.after? (t : Instant) (d : Int) : Option Instant :=
  if Calendar.Holds (t.plus d) then some (t.plus d) else none

theorem Instant.after?_eq_some_iff {t u : Instant} {d : Int} :
    t.after? d = some u ↔ t.plus d = u ∧ Calendar.Holds u := by
  unfold Instant.after?
  split
  · simp only [Option.some.injEq]
    constructor
    · rintro rfl; exact ⟨rfl, by assumption⟩
    · exact fun h => h.1
  · simp only [reduceCtorEq, false_iff, not_and]
    rintro rfl
    assumption

end Turnstile
