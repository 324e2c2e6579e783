/-
Rolling moves both ends of a period alike.

Whichever way a period is rolled, by division or one window after another, its start and its
end move by the same span.  So a rolled period that starts where it started before is the
period that it was.

The division is made in whole microseconds.  Where the ends of a period are whole
microseconds nothing is cut off by it: the span is a whole number of windows
(`Period.Ahead`), and a period that is rolled to a time in whole microseconds does not end
before it.
-/
import Turnstile.Rollover

namespace Turnstile

/-- The instant is a whole number of microseconds. -/
def Instant.Whole (t : Instant) : Prop := Span.microsecond ∣ t.nanos

instance (t : Instant) : Decidable t.Whole := inferInstanceAs (Decidable (_ ∣ _))

namespace Period

/-- The second period is the first moved by some span. -/
def Shifted (p q : Period) : Prop := ∃ d : Int, q.start = p.start.plus d ∧ q.stop = p.stop.plus d

theorem Shifted.refl (p : Period) : p.Shifted p := by
  refine ⟨0, ?_, ?_⟩ <;> simp [Instant.ext_iff']

theorem Shifted.trans {p q r : Period} (h : p.Shifted q) (h' : q.Shifted r) : p.Shifted r := by
  obtain ⟨d, hstart, hstop⟩ := h
  obtain ⟨d', hstart', hstop'⟩ := h'
  refine ⟨d + d', ?_, ?_⟩
  · rw [hstart', hstart, Instant.ext_iff']
    simp only [Instant.nanos_plus]
    omega
  · rw [hstop', hstop, Instant.ext_iff']
    simp only [Instant.nanos_plus]
    omega

/-- A period that has been moved is as long as it was. -/
theorem Shifted.length {p q : Period} (h : p.Shifted q) :
    q.stop.since q.start = p.stop.since p.start := by
  obtain ⟨d, hstart, hstop⟩ := h
  rw [hstart, hstop]
  simp only [Instant.since_eq, Instant.nanos_plus]
  omega

theorem Shifted.window {p q : Period} (h : p.Shifted q) : q.window = p.window := by
  unfold Period.window
  rw [h.length]

/-- A period that has been moved and starts where it did is the same. -/
theorem Shifted.eq_of_start {p q : Period} (h : p.Shifted q) (hstart : q.start = p.start) :
    q = p := by
  obtain ⟨d, hd, hd'⟩ := h
  rw [hstart, Instant.ext_iff', Instant.nanos_plus] at hd
  have hzero : d = 0 := by omega
  have hstop : q.stop = p.stop := by
    rw [hd', hzero, Instant.ext_iff', Instant.nanos_plus]
    omega
  cases p
  cases q
  simp_all

/-- A period is shifted by moving both of its ends, if both stay inside the calendar. -/
theorem shift?_eq_some_iff {p q : Period} {d : Int} :
    p.shift? d = some q ↔ q = ⟨p.start.plus d, p.stop.plus d⟩ ∧
      Calendar.Holds q.start ∧ Calendar.Holds q.stop := by
  unfold shift?
  simp only [Option.bind_eq_bind, Option.bind_eq_some_iff, Instant.after?_eq_some_iff,
    Option.some.injEq]
  constructor
  · rintro ⟨_, ⟨rfl, hstart⟩, _, ⟨rfl, hstop⟩, rfl⟩
    exact ⟨rfl, hstart, hstop⟩
  · rintro ⟨rfl, hstart, hstop⟩
    exact ⟨_, ⟨rfl, hstart⟩, _, ⟨rfl, hstop⟩, rfl⟩

theorem eq_of_shift? {p q : Period} {d : Int} (h : p.shift? d = some q) :
    q.start = p.start.plus d ∧ q.stop = p.stop.plus d := by
  obtain ⟨rfl, -⟩ := shift?_eq_some_iff.mp h
  exact ⟨rfl, rfl⟩

theorem shifted_of_shift? {p q : Period} {d : Int} (h : p.shift? d = some q) : p.Shifted q :=
  ⟨d, eq_of_shift? h⟩

theorem shifted_of_walk? {window : Int} {now : Instant} (hw : 0 < window) {p q : Period}
    (h : walk? window now hw p = some q) : p.Shifted q := by
  fun_induction walk? window now hw p with
  | case1 p hlt hinside ih =>
    have hstep : p.Shifted ⟨p.start.plus window, p.stop.plus window⟩ := ⟨window, rfl, rfl⟩
    exact hstep.trans (ih h)
  | case2 p hlt houtside => cases h
  | case3 p hge =>
    obtain rfl := Option.some.inj h
    exact .refl p

/-- What rolling is, apart from the walk: the period has not ended, or it is moved by as many
windows as cover the time since. -/
theorem roll?_cases {p q : Period} {now : Instant} (h : p.roll? now = some q) :
    (now ≤ p.stop ∧ q = p) ∨
      (p.stop < now ∧ p.walked? now = some q) ∨
      ∃ distance step, Span.micros? (now.since p.stop) = some distance ∧
        Span.micros? p.window = some step ∧ step ≠ 0 ∧ p.stop < now ∧
        p.shift? (stepsToCover distance step * step * Span.microsecond) = some q := by
  unfold roll? at h
  split at h
  · next hle => exact .inl ⟨hle, (Option.some.inj h).symm⟩
  · next hlt =>
    have hlt := Instant.lt_of_not_le hlt
    split at h
    · next distance step hdistance hstep =>
      split at h
      · cases h
      · next hzero =>
        split at h
        · next shift hshift =>
          obtain ⟨rfl, -⟩ := Signed64.check?_eq_some_iff.mp hshift
          split at h
          · next q' hq =>
            obtain rfl := Option.some.inj h
            exact .inr (.inr ⟨distance, step, hdistance, hstep, hzero, hlt, hq⟩)
          · exact .inr (.inl ⟨hlt, h⟩)
        · exact .inr (.inl ⟨hlt, h⟩)
    · exact .inr (.inl ⟨hlt, h⟩)

/-- **A period is rolled by moving both of its ends alike.** -/
theorem shifted_of_roll? {p q : Period} {now : Instant} (h : p.roll? now = some q) :
    p.Shifted q := by
  rcases roll?_cases h with ⟨-, rfl⟩ | ⟨-, hwalk⟩ | ⟨_, _, -, -, -, -, hshift⟩
  · exact .refl q
  · exact shifted_of_walk? _ hwalk
  · exact shifted_of_shift? hshift

theorem roll?_of_le {p : Period} {now : Instant} (h : now ≤ p.stop) : p.roll? now = some p :=
  if_pos h

/-! ### Whole microseconds -/

/-- Both ends are whole microseconds. -/
structure Whole (p : Period) : Prop where
  start : p.start.Whole
  stop : p.stop.Whole

instance (p : Period) : Decidable p.Whole :=
  decidable_of_iff (p.start.Whole ∧ p.stop.Whole) ⟨fun h => ⟨h.1, h.2⟩, fun h => ⟨h.1, h.2⟩⟩

theorem Whole.window {p : Period} (h : p.Whole) : Span.microsecond ∣ p.window := by
  unfold Period.window
  split
  · exact Int.dvd_sub h.stop h.start
  · decide

/-- A whole span that has its microseconds is what they say. -/
theorem micros?_eq_some {d n : Int} (hd : Span.microsecond ∣ d) (h : Span.micros? d = some n) :
    d = n * Span.microsecond := by
  obtain ⟨rfl, -⟩ := Signed64.check?_eq_some_iff.mp h
  exact (Int.tdiv_mul_cancel hd).symm

theorem stepsToCover_nonneg {distance step : Int} (hd : 0 ≤ distance) (hs : 0 < step) :
    0 ≤ stepsToCover distance step := by
  have hdiv : 0 ≤ distance.tdiv step := Int.tdiv_nonneg hd (Int.le_of_lt hs)
  unfold stepsToCover
  split
  · omega
  · omega

/-- The steps that cover a distance cover it. -/
theorem le_stepsToCover (distance : Int) {step : Int} (hs : 0 < step) :
    distance ≤ stepsToCover distance step * step := by
  have hsplit : step * distance.tdiv step + distance.tmod step = distance :=
    Int.mul_tdiv_add_tmod distance step
  have hrest : distance.tmod step < step := Int.tmod_lt_of_pos distance hs
  unfold stepsToCover
  rw [Int.add_mul, Int.mul_comm (distance.tdiv step)]
  split
  · omega
  · omega

/-- They do not go a whole step beyond it. -/
theorem stepsToCover_lt {distance step : Int} (hd : 0 ≤ distance) (hs : 0 < step) :
    stepsToCover distance step * step < distance + step := by
  have hsplit : step * distance.tdiv step + distance.tmod step = distance :=
    Int.mul_tdiv_add_tmod distance step
  have hrest : 0 ≤ distance.tmod step := Int.tmod_nonneg step hd
  unfold stepsToCover
  rw [Int.add_mul, Int.mul_comm (distance.tdiv step)]
  split
  · omega
  · omega

/-! ### Where a rolled period ends -/

theorem le_stop_of_walk? {window : Int} {now : Instant} (hw : 0 < window) {p q : Period}
    (h : walk? window now hw p = some q) : now ≤ q.stop := by
  fun_induction walk? window now hw p with
  | case1 p hlt hinside ih => exact ih h
  | case2 p hlt houtside => cases h
  | case3 p hge =>
    obtain rfl := Option.some.inj h
    exact Instant.le_of_not_lt hge

/-- **A rolled period does not end before the time that it is rolled to.** -/
theorem le_stop_of_roll? {p q : Period} {now : Instant} (hp : p.Whole) (hnow : now.Whole)
    (h : p.roll? now = some q) : now ≤ q.stop := by
  rcases roll?_cases h with ⟨hle, rfl⟩ | ⟨-, hwalk⟩ |
    ⟨distance, step, hdistance, hstep, -, hlt, hshift⟩
  · exact hle
  · exact le_stop_of_walk? _ hwalk
  · have hfar := micros?_eq_some (Int.dvd_sub hnow hp.stop) hdistance
    have hlong := micros?_eq_some hp.window hstep
    have hpos := p.window_pos
    have hunit : Span.microsecond = 1000 := rfl
    rw [Instant.lt_iff] at hlt
    rw [hunit] at hfar hlong hshift
    have hpositive : 0 < step := by omega
    have hcover := le_stepsToCover distance hpositive
    have hstop := congrArg Instant.nanos (eq_of_shift? hshift).2
    rw [Instant.nanos_plus] at hstop
    rw [Instant.le_iff]
    omega

/-! ### Whole windows -/

/-- The second period is the first moved forward by a whole number of its windows. -/
def Ahead (p q : Period) : Prop :=
  ∃ n : Nat, q.start = p.start.plus (n * p.window) ∧ q.stop = p.stop.plus (n * p.window)

/-- How far the second period is ahead says whether it is. -/
theorem ahead_iff {p q : Period} :
    p.Ahead q ↔ 0 ≤ q.start.since p.start ∧ p.window ∣ q.start.since p.start ∧
      q.stop.since p.stop = q.start.since p.start := by
  have hpos := p.window_pos
  simp only [Instant.since_eq]
  constructor
  · rintro ⟨n, hstart, hstop⟩
    rw [hstart, hstop, Instant.nanos_plus, Instant.nanos_plus]
    have hspan : 0 ≤ n * p.window := Int.mul_nonneg (Int.natCast_nonneg n) (Int.le_of_lt hpos)
    refine ⟨by omega, ⟨n, ?_⟩, by omega⟩
    rw [Int.mul_comm p.window]
    omega
  · rintro ⟨hforward, ⟨n, hn⟩, hstop⟩
    have hcount : 0 ≤ n := by
      rw [hn] at hforward
      exact Int.nonneg_of_mul_nonneg_right hforward hpos
    refine ⟨n.toNat, ?_, ?_⟩
    · rw [Int.toNat_of_nonneg hcount, Int.mul_comm, ← hn, Instant.ext_iff', Instant.nanos_plus]
      omega
    · rw [Int.toNat_of_nonneg hcount, Int.mul_comm, ← hn, Instant.ext_iff', Instant.nanos_plus]
      omega

instance (p q : Period) : Decidable (p.Ahead q) := decidable_of_iff _ ahead_iff.symm

namespace Ahead

theorem refl (p : Period) : p.Ahead p := by
  refine ⟨0, ?_, ?_⟩ <;> simp [Instant.ext_iff']

theorem shifted {p q : Period} (h : p.Ahead q) : p.Shifted q := by
  obtain ⟨n, hn⟩ := h
  exact ⟨_, hn⟩

theorem start_le {p q : Period} (h : p.Ahead q) : p.start ≤ q.start := by
  obtain ⟨hforward, -, -⟩ := ahead_iff.mp h
  rw [Instant.since_eq] at hforward
  rw [Instant.le_iff]
  omega

/-- The windows that follow are as long. -/
theorem window {p q : Period} (h : p.Ahead q) : q.window = p.window :=
  h.shifted.window

theorem trans {p q r : Period} (h : p.Ahead q) (h' : q.Ahead r) : p.Ahead r := by
  have hwindow := h.window
  obtain ⟨n, hstart, hstop⟩ := h
  obtain ⟨m, hstart', hstop'⟩ := h'
  rw [hwindow] at hstart' hstop'
  refine ⟨n + m, ?_, ?_⟩
  · rw [hstart', hstart, Instant.ext_iff']
    simp only [Instant.nanos_plus, Int.natCast_add, Int.add_mul]
    omega
  · rw [hstop', hstop, Instant.ext_iff']
    simp only [Instant.nanos_plus, Int.natCast_add, Int.add_mul]
    omega

/-- A whole period moved by whole windows stays whole. -/
theorem whole {p q : Period} (h : p.Ahead q) (hp : p.Whole) : q.Whole := by
  obtain ⟨n, hstart, hstop⟩ := h
  have hspan : Span.microsecond ∣ n * p.window := Int.dvd_mul_of_dvd_right hp.window
  refine ⟨?_, ?_⟩
  · rw [hstart]
    exact Int.dvd_add hp.start hspan
  · rw [hstop]
    exact Int.dvd_add hp.stop hspan

end Ahead

theorem ahead_of_walk? {window : Int} {now : Instant} (hw : 0 < window) {p q : Period}
    (hwindow : p.window = window) (h : walk? window now hw p = some q) : p.Ahead q := by
  fun_induction walk? window now hw p with
  | case1 p hlt hinside ih =>
    have hstep : p.Ahead ⟨p.start.plus window, p.stop.plus window⟩ := by
      refine ⟨1, ?_, ?_⟩ <;> simp [hwindow]
    exact hstep.trans (ih (hstep.window.trans hwindow) h)
  | case2 p hlt houtside => cases h
  | case3 p hge =>
    obtain rfl := Option.some.inj h
    exact .refl p

/-- **A period is rolled by whole windows.** -/
theorem ahead_of_roll? {p q : Period} {now : Instant} (hp : p.Whole) (h : p.roll? now = some q) :
    p.Ahead q := by
  rcases roll?_cases h with ⟨-, rfl⟩ | ⟨-, hwalk⟩ |
    ⟨distance, step, hdistance, hstep, -, hlt, hshift⟩
  · exact .refl q
  · exact ahead_of_walk? _ rfl hwalk
  · have hlong := micros?_eq_some hp.window hstep
    have hpos := p.window_pos
    have hunit : Span.microsecond = 1000 := rfl
    obtain ⟨rfl, -⟩ := Signed64.check?_eq_some_iff.mp hdistance
    have hfar : 0 ≤ (now.since p.stop).tdiv Span.microsecond := by
      rw [Instant.lt_iff] at hlt
      exact Int.tdiv_nonneg (by rw [Instant.since_eq]; omega) (by decide)
    have hpositive : 0 < step := by
      rw [hunit] at hlong
      omega
    have hcount := stepsToCover_nonneg hfar hpositive
    rw [Int.mul_assoc, ← hlong] at hshift
    refine ⟨(stepsToCover ((now.since p.stop).tdiv Span.microsecond) step).toNat, ?_⟩
    rw [Int.toNat_of_nonneg hcount]
    exact eq_of_shift? hshift

/-- A period that is rolled because it has ended starts anew no earlier than it ended. -/
theorem stop_le_start_of_roll? {p q : Period} {now : Instant} (hp : p.Whole) (hnow : now.Whole)
    (hended : p.stop < now) (h : p.roll? now = some q) : p.stop ≤ q.start := by
  have hcovers := le_stop_of_roll? hp hnow h
  obtain ⟨n, hstart, hstop⟩ := ahead_of_roll? hp h
  have hpos := p.window_pos
  rw [hstop, Instant.le_iff, Instant.nanos_plus] at hcovers
  rw [Instant.lt_iff] at hended
  rw [hstart, Instant.le_iff, Instant.nanos_plus]
  -- it has been moved, and one window takes the start to the end or past it
  have hmoved : 1 ≤ n := by
    rcases Nat.eq_zero_or_pos n with rfl | hn
    · simp at hcovers
      omega
    · exact hn
  have hone : p.window ≤ n * p.window := by
    calc p.window = 1 * p.window := (Int.one_mul _).symm
      _ ≤ n * p.window := Int.mul_le_mul_of_nonneg_right (by omega) (Int.le_of_lt hpos)
  have hwindow : p.stop.nanos ≤ p.start.nanos + p.window := by
    unfold window
    split
    · rw [Instant.since_eq]
      omega
    · next hempty =>
      rw [Instant.since_eq] at hempty
      have : 0 < defaultWindow := by decide
      omega
  omega

/-- A period that is rolled because it has ended starts later than it did. -/
theorem start_lt_of_roll? {p q : Period} {now : Instant} (hp : p.Whole) (hnow : now.Whole)
    (hended : p.stop < now) (h : p.roll? now = some q) : p.start < q.start := by
  have hcovers := le_stop_of_roll? hp hnow h
  obtain ⟨d, hstart, hstop⟩ := shifted_of_roll? h
  rw [hstop, Instant.le_iff, Instant.nanos_plus] at hcovers
  rw [Instant.lt_iff] at hended
  rw [hstart, Instant.lt_iff, Instant.nanos_plus]
  omega

/-! ### Where a rolled period starts -/

theorem start_le_of_walk? {window : Int} {now : Instant} (hw : 0 < window) {p q : Period}
    (hstart : p.start ≤ now) (hlength : p.stop = p.start.plus window)
    (h : walk? window now hw p = some q) : q.start ≤ now := by
  fun_induction walk? window now hw p with
  | case1 p hlt hinside ih =>
    -- the next window starts where this one has ended
    refine ih ?_ ?_ h
    · rw [← hlength]
      exact Int.le_of_lt hlt
    · rw [hlength]
  | case2 p hlt houtside => cases h
  | case3 p hge =>
    obtain rfl := Option.some.inj h
    exact hstart

/-- **A rolled period has started at the time that it is rolled to**, if the period has a length and
has started. -/
theorem start_le_of_roll? {p q : Period} {now : Instant} (hp : p.Whole) (hnow : now.Whole)
    (hlength : p.start < p.stop) (hstart : p.start ≤ now) (h : p.roll? now = some q) :
    q.start ≤ now := by
  have hwindow : p.window = p.stop.nanos - p.start.nanos := by
    unfold window
    rw [Instant.since_eq, if_pos]
    rw [Instant.lt_iff] at hlength
    omega
  rcases roll?_cases h with ⟨-, rfl⟩ | ⟨-, hwalk⟩ |
    ⟨distance, step, hdistance, hstep, -, hlt, hshift⟩
  · exact hstart
  · refine start_le_of_walk? _ hstart ?_ hwalk
    rw [hwindow, Instant.ext_iff', Instant.nanos_plus]
    omega
  · have hfar := micros?_eq_some (Int.dvd_sub hnow hp.stop) hdistance
    have hlong := micros?_eq_some hp.window hstep
    have hpos := p.window_pos
    have hunit : Span.microsecond = 1000 := rfl
    rw [Instant.lt_iff] at hlt
    rw [hunit] at hfar hlong hshift
    have hbeyond := stepsToCover_lt (show 0 ≤ distance by omega) (show 0 < step by omega)
    have hstart' := congrArg Instant.nanos (eq_of_shift? hshift).1
    rw [Instant.nanos_plus] at hstart'
    rw [Instant.le_iff]
    omega

/-! ### Rolling twice -/

/-- A period that has been moved inside the calendar can be moved by nothing. -/
theorem shift?_zero_of_shift? {p q : Period} {d : Int} (h : p.shift? d = some q) :
    q.shift? 0 = some q := by
  obtain ⟨-, hinside⟩ := shift?_eq_some_iff.mp h
  refine shift?_eq_some_iff.mpr ⟨?_, hinside⟩
  simp [Instant.plus]

/-- A period that ends less than a microsecond before `now` and can be divided by its window is not
rolled. -/
theorem roll?_of_near {p : Period} {now : Instant} {step : Int} (hnear : now.since p.stop < 1000)
    (hstep : Span.micros? p.window = some step) (hzero : step ≠ 0) (hinside : p.shift? 0 = some p) :
    p.roll? now = some p := by
  by_cases hended : now ≤ p.stop
  · exact roll?_of_le hended
  · have hfar : 0 < now.since p.stop := by
      rw [Instant.le_iff] at hended
      rw [Instant.since_eq]
      omega
    have hnone : (now.since p.stop).tdiv 1000 = 0 := Int.tdiv_eq_zero_of_lt (by omega) hnear
    have hdistance : Span.micros? (now.since p.stop) = some 0 := by
      unfold Span.micros?
      rw [show (now.since p.stop).tdiv Span.microsecond = 0 from hnone]
      decide
    have hshift : coveringShift? 0 step = some 0 := by
      unfold coveringShift? stepsToCover
      simp only [Int.zero_tdiv, Int.zero_tmod, ne_eq, not_true, if_false, Int.add_zero,
        Int.zero_mul]
      decide
    simp [roll?, hended, hdistance, hstep, hzero, hshift, hinside]

/-- **A rolled period is the one that counts**: rolling it to the same time leaves it alone, also
where it ends less than a microsecond too early. -/
theorem roll?_roll? {p q : Period} {now : Instant} (h : p.roll? now = some q) :
    q.roll? now = some q := by
  rcases roll?_cases h with ⟨hle, rfl⟩ | ⟨-, hwalk⟩ |
    ⟨distance, step, hdistance, hstep, hzero, hlt, hshift⟩
  · exact h
  · exact roll?_of_le (le_stop_of_walk? _ hwalk)
  · refine roll?_of_near ?_ ?_ hzero (shift?_zero_of_shift? hshift)
    · obtain ⟨rfl, -⟩ := Signed64.check?_eq_some_iff.mp hdistance
      obtain ⟨rfl, -⟩ := Signed64.check?_eq_some_iff.mp hstep
      have hunit : Span.microsecond = 1000 := rfl
      rw [hunit] at hzero hshift
      have hlong : 0 ≤ p.window.tdiv 1000 := Int.tdiv_nonneg (Int.le_of_lt p.window_pos) (by decide)
      have hcover := le_stepsToCover ((now.since p.stop).tdiv 1000)
        (show 0 < p.window.tdiv 1000 by omega)
      -- the division has cut off less than a microsecond
      have hsplit := Int.mul_tdiv_add_tmod (now.since p.stop) 1000
      have hrest := Int.tmod_lt_of_pos (now.since p.stop) (by decide : (0 : Int) < 1000)
      have hstop := congrArg Instant.nanos (eq_of_shift? hshift).2
      rw [Instant.nanos_plus] at hstop
      rw [Instant.since_eq] at hsplit hrest hcover hstop ⊢
      omega
    · rw [(shifted_of_shift? hshift).window]
      exact hstep

end Period

end Turnstile
