/-
Rolling by division, at once or in stages.

A period is rolled by dividing the time since its end by its window, both cut to whole
microseconds (`Period.jump?`), and only where the numbers are too long for that it is walked
(`Period.roll?_eq_or`).  The steps that division takes are as long as the window that has been
cut, and so whole microseconds themselves.  What is cut off the time is therefore the same from
whichever step it is counted, and a period that has been rolled on its way takes just the steps
that are left: it ends where it would have ended at once (`Period.roll?_in_stages`), however often
it is rolled (`Period.rolls?_eq`).  This holds for windows that are no whole microseconds too,
where the steps are shorter than the window.
-/
import Turnstile.Proofs.Rollover

namespace Turnstile

theorem Signed64.Holds.of_le {n m : Int} (h : Signed64.Holds m) (hn : 0 ≤ n) (hle : n ≤ m) :
    Signed64.Holds n := by
  have hleast : Signed64.least ≤ 0 := by decide
  exact ⟨Int.le_trans hleast hn, Int.le_trans hle h.2⟩

namespace Period

variable {p q r : Period} {now later : Instant}

/-! ### What is divided -/

/-- The window in whole microseconds. -/
def step (p : Period) : Int := p.window.tdiv Span.microsecond

/-- The whole microseconds since the end of the period. -/
def behind (p : Period) (now : Instant) : Int := (now.since p.stop).tdiv Span.microsecond

/-- The steps that division takes. -/
def steps (p : Period) (now : Instant) : Int := stepsToCover (p.behind now) p.step

/-- The period that division finds. -/
def jump? (p : Period) (now : Instant) : Option Period := do
  let distance ← Span.micros? (now.since p.stop)
  let step ← Span.micros? p.window
  let shift ← coveringShift? distance step
  p.shift? (shift * Span.microsecond)

/-- Division finds the period that is so many steps away, if all its numbers are short enough. -/
theorem jump?_eq_some_iff :
    p.jump? now = some q ↔ Signed64.Holds (p.behind now) ∧ Signed64.Holds p.step ∧
      Signed64.Holds (p.steps now * p.step) ∧
      p.shift? (p.steps now * p.step * Span.microsecond) = some q := by
  unfold jump? Span.micros? coveringShift?
  simp only [Option.bind_eq_bind, Option.bind_eq_some_iff, Signed64.check?_eq_some_iff]
  constructor
  · rintro ⟨_, ⟨rfl, hbehind⟩, _, ⟨rfl, hstep⟩, _, ⟨rfl, hsteps⟩, hshift⟩
    exact ⟨hbehind, hstep, hsteps, hshift⟩
  · rintro ⟨hbehind, hstep, hsteps, hshift⟩
    exact ⟨_, ⟨rfl, hbehind⟩, _, ⟨rfl, hstep⟩, _, ⟨rfl, hsteps⟩, hshift⟩

/-- A window of at least a microsecond makes a step. -/
theorem step_pos (hwindow : Span.microsecond ≤ p.window) : 0 < p.step := by
  have hunit : Span.microsecond = 1000 := rfl
  unfold step
  rw [hunit] at hwindow ⊢
  rw [Int.tdiv_eq_ediv_of_nonneg (by omega)]
  omega

/-- Less than a microsecond is cut off the time since the end. -/
theorem behind_bounds (hended : p.stop ≤ now) :
    0 ≤ p.behind now ∧ p.behind now * Span.microsecond ≤ now.since p.stop ∧
      now.since p.stop < p.behind now * Span.microsecond + Span.microsecond := by
  have hunit : Span.microsecond = 1000 := rfl
  rw [Instant.le_iff] at hended
  have hfar : 0 ≤ now.since p.stop := by
    rw [Instant.since_eq]
    omega
  unfold behind
  rw [hunit, Int.tdiv_eq_ediv_of_nonneg hfar]
  omega

/-- A period that has ended is found by division if it can be, else by walking. -/
theorem roll?_eq_or (hwindow : Span.microsecond ≤ p.window) (hended : p.stop < now) :
    p.roll? now = (p.jump? now).or (p.walked? now) := by
  have hpos := step_pos hwindow
  have hlate : ¬ now ≤ p.stop := by
    rw [Instant.lt_iff] at hended
    rw [Instant.le_iff]
    omega
  unfold roll? jump?
  rw [if_neg hlate]
  cases hdistance : Span.micros? (now.since p.stop) with
  | none => rfl
  | some distance =>
    cases hstep : Span.micros? p.window with
    | none => rfl
    | some step =>
      obtain ⟨rfl, -⟩ := Signed64.check?_eq_some_iff.mp hstep
      have hzero : p.window.tdiv Span.microsecond ≠ 0 := Int.ne_of_gt hpos
      simp only [if_neg hzero, Option.bind_eq_bind, Option.bind_some]
      cases coveringShift? distance (p.window.tdiv Span.microsecond) with
      | none => rfl
      | some shift =>
        simp only [Option.bind_some]
        cases p.shift? (shift * Span.microsecond) <;> rfl

theorem roll?_of_jump? (hwindow : Span.microsecond ≤ p.window) (hended : p.stop < now)
    (h : p.jump? now = some q) : p.roll? now = some q := by
  rw [roll?_eq_or hwindow hended, h]
  rfl

/-! ### The number of steps -/

/-- Of the multiples of a length one alone is in an interval as long. -/
theorem multiple_unique {length low a b : Int} (hlength : 0 < length) (ha : low < a * length)
    (ha' : a * length ≤ low + length) (hb : low < b * length)
    (hb' : b * length ≤ low + length) : a = b := by
  have hle : a < b + 1 := by
    refine Int.lt_of_mul_lt_mul_right (a := length) ?_ (Int.le_of_lt hlength)
    rw [Int.add_mul, Int.one_mul]
    omega
  have hge : b < a + 1 := by
    refine Int.lt_of_mul_lt_mul_right (a := length) ?_ (Int.le_of_lt hlength)
    rw [Int.add_mul, Int.one_mul]
    omega
  omega

/-- The steps that cover a distance are the only ones that do and do not go a whole step beyond
it. -/
theorem stepsToCover_eq {distance step n : Int} (hs : 0 < step) (hd : 0 ≤ distance)
    (hcovers : distance ≤ n * step) (hfewest : n * step < distance + step) :
    stepsToCover distance step = n := by
  have hcovers' := le_stepsToCover distance hs
  have hfewest' := stepsToCover_lt hd hs
  exact multiple_unique (a := stepsToCover distance step) (b := n) hs
    (Int.sub_one_lt_of_le hcovers') (by omega) (Int.sub_one_lt_of_le hcovers) (by omega)

/-- Part of the way takes the steps that are left. -/
theorem stepsToCover_sub {distance step n : Int} (hs : 0 < step) (hd : 0 ≤ distance)
    (hleft : 0 ≤ distance - n * step) :
    stepsToCover (distance - n * step) step = stepsToCover distance step - n := by
  have hcovers := le_stepsToCover distance hs
  have hfewest := stepsToCover_lt hd hs
  refine stepsToCover_eq hs hleft ?_ ?_
  · rw [Int.sub_mul]
    omega
  · rw [Int.sub_mul]
    omega

/-- What is shifted twice inside the calendar is shifted by the second span less the first. -/
theorem shift?_sub {d d' : Int} (h : p.shift? d = some q) (h' : p.shift? d' = some r) :
    q.shift? (d' - d) = some r := by
  obtain ⟨rfl, -⟩ := shift?_eq_some_iff.mp h
  obtain ⟨rfl, hinside⟩ := shift?_eq_some_iff.mp h'
  have hsub : ∀ t : Instant, (t.plus d).plus (d' - d) = t.plus d' := by
    intro t
    simp only [Instant.ext_iff', Instant.nanos_plus]
    omega
  refine shift?_eq_some_iff.mpr ⟨?_, hinside⟩
  rw [hsub, hsub]

/-! ### The rest of the way -/

/-- A period that has been moved by whole microseconds is as many of them less behind. -/
theorem behind_of_moved {n : Int} (hq : q.stop = p.stop.plus (n * Span.microsecond))
    (hp : p.stop ≤ now) (hended : q.stop ≤ now) : q.behind now = p.behind now - n := by
  obtain ⟨-, hlow, hhigh⟩ := behind_bounds hp
  obtain ⟨-, hlow', hhigh'⟩ := behind_bounds hended
  have hunit : Span.microsecond = 1000 := rfl
  rw [hq] at hlow' hhigh'
  simp only [Instant.since_eq, Instant.nanos_plus, hunit] at hlow hhigh hlow' hhigh'
  omega

theorem behind_le_behind (hended : p.stop ≤ now) (hle : now ≤ later) :
    p.behind now ≤ p.behind later := by
  have hended' : p.stop ≤ later := Int.le_trans hended hle
  obtain ⟨-, hlow, -⟩ := behind_bounds hended
  obtain ⟨-, -, hhigh⟩ := behind_bounds hended'
  have hunit : Span.microsecond = 1000 := rfl
  rw [Instant.le_iff] at hle
  simp only [Instant.since_eq, hunit] at hlow hhigh
  omega

section stages

variable (hwindow : Span.microsecond ≤ p.window) (hended : p.stop < now) (hle : now ≤ later)
  (hnow : p.jump? now = some q) (hlater : p.jump? later = some r)

include hwindow hended hle hnow hlater

/-- Where the period that has been found still counts, nothing further is found. -/
theorem eq_of_jump?_of_le (hcounts : later ≤ q.stop) : r = q := by
  obtain ⟨-, -, -, hshift⟩ := jump?_eq_some_iff.mp hnow
  obtain ⟨-, -, -, hshift'⟩ := jump?_eq_some_iff.mp hlater
  have hpos := step_pos hwindow
  have hended' : p.stop < later := Int.lt_of_lt_of_le hended hle
  have hnearer := behind_le_behind (Int.le_of_lt hended) hle
  obtain ⟨hfar, -, -⟩ := behind_bounds (Int.le_of_lt hended)
  obtain ⟨hfar', hlow, -⟩ := behind_bounds (Int.le_of_lt hended')
  have hfewest := stepsToCover_lt hfar hpos
  have hstop := congrArg Instant.nanos (eq_of_shift? hshift).2
  have hunit : Span.microsecond = 1000 := rfl
  rw [Instant.le_iff] at hcounts
  simp only [Instant.nanos_plus, Instant.since_eq, hunit, steps] at hstop hlow
  have hsame : p.steps later = p.steps now := by
    refine stepsToCover_eq hpos hfar' ?_ ?_
    · unfold steps
      omega
    · unfold steps
      omega
  rw [hsame, hshift] at hshift'
  exact (Option.some.inj hshift').symm

/-- Where it has ended, division finds from it what it finds from the first. -/
theorem jump?_of_jump? (hended' : q.stop < later) : q.jump? later = some r := by
  obtain ⟨hbehind, hstep, hsteps, hshift⟩ := jump?_eq_some_iff.mp hnow
  obtain ⟨hbehind', -, hsteps', hshift'⟩ := jump?_eq_some_iff.mp hlater
  have hpos := step_pos hwindow
  have hsame : q.step = p.step := by
    unfold step
    rw [(shifted_of_shift? hshift).window]
  have hlate : p.stop ≤ later := Int.le_trans (Int.le_of_lt hended) hle
  have hmoved : q.behind later = p.behind later - p.steps now * p.step :=
    behind_of_moved (eq_of_shift? hshift).2 hlate (Int.le_of_lt hended')
  obtain ⟨hleft, -, -⟩ := behind_bounds (Int.le_of_lt hended')
  obtain ⟨hfar, -, -⟩ := behind_bounds hlate
  have hrest : q.steps later = p.steps later - p.steps now := by
    unfold steps
    rw [hmoved, hsame]
    exact stepsToCover_sub hpos hfar (hmoved ▸ hleft)
  -- the numbers are no longer than those of the whole way
  obtain ⟨hstart, -, -⟩ := behind_bounds (Int.le_of_lt hended)
  have hforward : 0 ≤ p.steps now := stepsToCover_nonneg hstart hpos
  have hforward' : 0 ≤ q.steps later := stepsToCover_nonneg hleft (hsame ▸ hpos)
  have hdone : 0 ≤ p.steps now * p.step := Int.mul_nonneg hforward (Int.le_of_lt hpos)
  have hspan : q.steps later * p.step = p.steps later * p.step - p.steps now * p.step := by
    rw [hrest, Int.sub_mul]
  have htodo : 0 ≤ q.steps later * p.step := Int.mul_nonneg hforward' (Int.le_of_lt hpos)
  refine jump?_eq_some_iff.mpr ⟨?_, ?_, ?_, ?_⟩
  · exact hbehind'.of_le hleft (by omega)
  · rw [hsame]
    exact hstep
  · rw [hsame]
    exact hsteps'.of_le htodo (by omega)
  · rw [hsame, hspan, Int.sub_mul]
    exact shift?_sub hshift hshift'

end stages

/-! ### Rolling in stages -/

/-- The period that counts is found without walking: the period has not ended, or division finds
it. -/
def Unwalked (p : Period) (now : Instant) : Prop :=
  now ≤ p.stop ∨ Span.microsecond ≤ p.window ∧ (p.jump? now).isSome

instance (p : Period) (now : Instant) : Decidable (p.Unwalked now) :=
  inferInstanceAs (Decidable (_ ∨ _))

/-- What is found without walking is there, or is found by division. -/
theorem Unwalked.cases (h : p.Unwalked now) :
    (now ≤ p.stop ∧ p.roll? now = some p) ∨
      p.stop < now ∧ Span.microsecond ≤ p.window ∧
        ∃ q, p.jump? now = some q ∧ p.roll? now = some q := by
  by_cases hended : now ≤ p.stop
  · exact .inl ⟨hended, roll?_of_le hended⟩
  · obtain ⟨hwindow, hfound⟩ := h.resolve_left hended
    obtain ⟨q, hq⟩ := Option.isSome_iff_exists.mp hfound
    have hlate := Instant.lt_of_not_le hended
    exact .inr ⟨hlate, hwindow, q, hq, roll?_of_jump? hwindow hlate hq⟩

/-- What has been found without walking is rolled on without walking, and to the same period. -/
theorem Unwalked.on (hnow : p.Unwalked now) (hlater : p.Unwalked later) (hle : now ≤ later)
    (hq : p.roll? now = some q) : q.Unwalked later ∧ q.roll? later = p.roll? later := by
  rcases hnow.cases with ⟨-, hsame⟩ | ⟨hended, hwindow, q', hjump, hroll⟩
  · obtain rfl := Option.some.inj (hsame.symm.trans hq)
    exact ⟨hlater, rfl⟩
  · obtain rfl := Option.some.inj (hroll.symm.trans hq)
    have hended' : p.stop < later := Int.lt_of_lt_of_le hended hle
    rcases hlater.cases with ⟨hcounts, -⟩ | ⟨-, -, r, hjump', hroll'⟩
    · rw [Instant.le_iff] at hcounts
      rw [Instant.lt_iff] at hended'
      omega
    · by_cases hcounts : later ≤ q'.stop
      · rw [hroll', eq_of_jump?_of_le hwindow hended hle hjump hjump' hcounts]
        exact ⟨.inl hcounts, roll?_of_le hcounts⟩
      · have hlate := Instant.lt_of_not_le hcounts
        have hrest := jump?_of_jump? hwindow hended hle hjump hjump' hlate
        obtain ⟨-, -, -, hshift⟩ := jump?_eq_some_iff.mp hjump
        have hwindow' : Span.microsecond ≤ q'.window := by
          rw [(shifted_of_shift? hshift).window]
          exact hwindow
        rw [hroll', roll?_of_jump? hwindow' hlate hrest]
        exact ⟨.inr ⟨hwindow', by rw [hrest]; rfl⟩, rfl⟩

theorem Unwalked.isSome (h : p.Unwalked now) : ∃ q, p.roll? now = some q := by
  rcases h.cases with ⟨-, hroll⟩ | ⟨-, -, q, -, hroll⟩
  · exact ⟨p, hroll⟩
  · exact ⟨q, hroll⟩

/-- **A period that is rolled in two stages is where it would be at once**, if neither roll
walks. -/
theorem roll?_in_stages (hle : now ≤ later) (hnow : p.Unwalked now) (hlater : p.Unwalked later) :
    ∃ q r, p.roll? now = some q ∧ q.Unwalked later ∧ q.roll? later = some r ∧
      p.roll? later = some r := by
  obtain ⟨q, hq⟩ := hnow.isSome
  obtain ⟨r, hr⟩ := hlater.isSome
  obtain ⟨hunwalked, hsame⟩ := hnow.on hlater hle hq
  exact ⟨q, r, hq, hunwalked, hsame.trans hr, hr⟩

/-- The period rolled to each of the times, one after the other. -/
def rolls? (p : Period) : List Instant → Option Period
  | [] => some p
  | t :: rest => (p.roll? t).bind (rolls? · rest)

/-- **How often a period has been rolled on its way does not matter**, as long as no roll walks. -/
theorem rolls?_eq {times : List Instant} (hsorted : times.Pairwise (· ≤ ·))
    (hbefore : ∀ t ∈ times, t ≤ later ∧ p.Unwalked t) (hlater : p.Unwalked later) :
    p.rolls? (times ++ [later]) = p.roll? later := by
  induction times generalizing p with
  | nil => simp [rolls?]
  | cons t rest ih =>
    obtain ⟨hfirst, hrest⟩ := List.pairwise_cons.mp hsorted
    obtain ⟨hle, hunwalked⟩ := hbefore t (by simp)
    obtain ⟨q, hq⟩ := hunwalked.isSome
    obtain ⟨hlater', hsame⟩ := hunwalked.on hlater hle hq
    have hon : ∀ t' ∈ rest, t' ≤ later ∧ q.Unwalked t' := by
      intro t' ht'
      obtain ⟨hle', hunwalked'⟩ := hbefore t' (by simp [ht'])
      exact ⟨hle', (hunwalked.on hunwalked' (hfirst t' ht') hq).1⟩
    rw [List.cons_append, rolls?, hq, Option.bind_some, ih hrest hon hlater', hsame]

/-- A period of a microsecond and a half, so that the steps are shorter than the window. -/
def brief : Period := ⟨⟨0⟩, ⟨1500⟩⟩

/-- It is rolled twice past the same time, and once at once. -/
theorem roll?_in_stages_brief :
    (⟨4200⟩ : Instant) ≤ ⟨9999⟩ ∧ brief.Unwalked ⟨4200⟩ ∧ brief.Unwalked ⟨9999⟩ ∧
      ∃ q r, brief.roll? ⟨4200⟩ = some q ∧ q.Unwalked ⟨9999⟩ ∧ q.roll? ⟨9999⟩ = some r ∧
        brief.roll? ⟨9999⟩ = some r :=
  ⟨by decide, by decide, by decide, roll?_in_stages (by decide) (by decide) (by decide)⟩

end Period

end Turnstile
