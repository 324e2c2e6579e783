/-
Rolling a usage period forward.

A period whose end has passed is followed by others of the same length, and the one
that counts is the first whose end is not before `now`.  A period that has no length
is followed by periods of thirty days.

`Period.roll?` finds it by division, in whole microseconds.  Spans too long for that,
or shifts that would leave the calendar, are walked one window at a time
(`Period.walk?`).  There is no result when a window is shorter than a microsecond, so
that nothing can be divided by it, and when the walk leaves the calendar.
-/
import Turnstile.Entitlement

namespace Turnstile

namespace Period

/-- The length of the periods that follow a period without one. -/
def defaultWindow : Int := 30 * Span.day

/-- The length of the periods that follow. -/
def window (p : Period) : Int :=
  if 0 < p.stop.since p.start then p.stop.since p.start else defaultWindow

theorem window_pos (p : Period) : 0 < p.window := by
  unfold window
  split
  · assumption
  · decide

/-- The period moved by a span, when both ends stay inside the calendar. -/
def shift? (p : Period) (d : Int) : Option Period := do
  let start ← p.start.after? d
  let stop ← p.stop.after? d
  some ⟨start, stop⟩

/-- Both ends moved one window forward, again and again, until the end is not before `now`.
Every step takes the end closer to `now`, so the walk ends. -/
def walk? (window : Int) (now : Instant) (h : 0 < window) (p : Period) : Option Period :=
  if p.stop < now then
    if Calendar.Holds (p.start.plus window) ∧ Calendar.Holds (p.stop.plus window) then
      walk? window now h ⟨p.start.plus window, p.stop.plus window⟩
    else none
  else some p
termination_by (now.since p.stop).toNat
decreasing_by
  simp only [Instant.lt_iff, Instant.since_eq, Instant.nanos_plus] at *
  omega

/-- How many steps it takes to cover a distance. -/
def stepsToCover (distance step : Int) : Int :=
  distance.tdiv step + if distance.tmod step ≠ 0 then 1 else 0

/-- The shift in microseconds that covers a distance by whole steps, when it is a signed 64-bit
number. -/
def coveringShift? (distance step : Int) : Option Int :=
  Signed64.check? (stepsToCover distance step * step)

/-- The period that counts at `now`, one window after another. -/
def walked? (p : Period) (now : Instant) : Option Period := walk? p.window now p.window_pos p

/-- The period that counts at `now`. -/
def roll? (p : Period) (now : Instant) : Option Period :=
  if now ≤ p.stop then some p
  else
    match Span.micros? (now.since p.stop), Span.micros? p.window with
    | some distance, some step =>
      if step = 0 then none
      else
        match coveringShift? distance step with
        | some shift =>
          match p.shift? (shift * Span.microsecond) with
          | some q => some q
          | none => p.walked? now
        | none => p.walked? now
    | _, _ => p.walked? now

end Period

end Turnstile
