/-
The schedule of sweeps.

Sweeps are due at fixed intervals, the first at once.  An interval is at least a
millisecond.  A sweep that fails is not repeated before the next is due, and one that
ends without an answer ends the schedule.
-/

namespace Turnstile

/-- A schedule that is running; times are in microseconds. -/
structure Schedule where
  interval : Nat
  /-- Time since the start. -/
  elapsed : Nat
deriving DecidableEq, Repr

namespace Schedule

/-- The shortest interval. -/
def shortest : Nat := 1000

/-- Start a schedule. -/
def start (interval : Nat) : Schedule := ⟨max interval shortest, 0⟩

/-- Sweeps due in the time before `t`: at 0, at the interval, at twice the interval and so on. -/
def dueBefore (s : Schedule) (t : Nat) : Nat := (t + s.interval - 1) / s.interval

/-- Let time pass.  Gives the number of sweeps that fall due in it. -/
def pass (s : Schedule) (time : Nat) : Nat × Schedule :=
  (s.dueBefore (s.elapsed + time) - s.dueBefore s.elapsed, { s with elapsed := s.elapsed + time })

end Schedule

end Turnstile
