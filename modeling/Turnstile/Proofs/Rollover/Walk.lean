/-
Division finds what walking finds.

A walk makes one turn after another (`Period.Walks`), and it comes to an end on every period and at
every time: after so many turns the period has not ended, or the next turn would leave the calendar
(`Period.exists_walks`).

Division counts the turns beforehand.  In whole microseconds the steps that it takes are the windows
that a walk goes, no more and no fewer (`Period.first_steps`).  So where its numbers are short enough
and the shift stays inside the calendar, it finds the period at which the walk arrives, and the
number of its steps is the number of turns (`Period.jump?_walks`).
-/
import Turnstile.Proofs.Rollover.Landing

namespace Turnstile

namespace Period

variable {p q : Period} {now : Instant} {window : Int} {n : Nat} {r : Option Period}

/-! ### Turns of a walk -/

/-- Both ends moved by a span. -/
def moved (p : Period) (d : Int) : Period := ⟨p.start.plus d, p.stop.plus d⟩

theorem moved_zero (p : Period) : p.moved 0 = p := by
  simp [moved, Instant.plus]

theorem moved_moved (p : Period) (d d' : Int) : (p.moved d).moved d' = p.moved (d + d') := by
  simp [moved, Instant.plus, Int.add_assoc]

/-- A walk in so many turns.  It arrives at a period that has not ended, or it ends without a period
because its next turn would leave the calendar, or it makes a turn and goes on. -/
inductive Walks (window : Int) (now : Instant) : Period → Nat → Option Period → Prop
  | arrives {p : Period} (hcounts : now ≤ p.stop) : Walks window now p 0 (some p)
  | leaves {p : Period} (hended : p.stop < now) (hout : ¬ (p.moved window).Inside) :
      Walks window now p 0 none
  | turns {p : Period} {n : Nat} {r : Option Period} (hended : p.stop < now)
      (hin : (p.moved window).Inside) (hrest : Walks window now (p.moved window) n r) :
      Walks window now p (n + 1) r

/-- **Every walk comes to an end**, and with the answer that it gives. -/
theorem exists_walks (hw : 0 < window) (now : Instant) (p : Period) :
    ∃ n, Walks window now p n (walk? window now hw p) := by
  fun_induction walk? window now hw p with
  | case1 p hended hinside ih =>
    obtain ⟨n, hn⟩ := ih
    exact ⟨n + 1, .turns hended ⟨hinside.1, hinside.2⟩ hn⟩
  | case2 p hended houtside =>
    exact ⟨0, .leaves hended fun hin => houtside ⟨hin.start, hin.stop⟩⟩
  | case3 p hcounts => exact ⟨0, .arrives (Instant.le_of_not_lt hcounts)⟩

/-- Where a walk ends after so many turns. -/
theorem Walks.ends (h : Walks window now p n r) :
    (r = some (p.moved (n * window)) ∧ now ≤ (p.moved (n * window)).stop) ∨
      (r = none ∧ (p.moved (n * window)).stop < now ∧
        ¬ (p.moved ((n + 1 : Nat) * window)).Inside) := by
  induction h with
  | @arrives p hcounts =>
    refine .inl ?_
    rw [Int.natCast_zero, Int.zero_mul, moved_zero]
    exact ⟨rfl, hcounts⟩
  | @leaves p hended hout =>
    refine .inr ?_
    rw [Int.natCast_zero, Int.zero_mul, moved_zero]
    refine ⟨rfl, hended, ?_⟩
    simpa using hout
  | @turns p n r hended hin hrest ih =>
    have hspan : ∀ k : Nat, window + k * window = (k + 1 : Nat) * window := by
      intro k
      rw [Int.natCast_add, Int.add_mul, Int.add_comm, Int.natCast_one, Int.one_mul]
    rw [moved_moved, moved_moved, hspan, hspan] at ih
    exact ih

/-- A walk that arrives so many windows on has made as many turns. -/
theorem Walks.count {k : Nat} (hw : 0 < window)
    (h : Walks window now p n (some (p.moved (k * window)))) : n = k := by
  rcases h.ends with ⟨harrived, -⟩ | ⟨hleft, -⟩
  · have hstart := congrArg (fun q : Period => q.start.nanos) (Option.some.inj harrived)
    simp only [moved, Instant.nanos_plus] at hstart
    have hsame : (n : Int) * window = k * window := by omega
    exact Int.ofNat.inj (Int.eq_of_mul_eq_mul_right (Int.ne_of_gt hw) hsame)
  · cases hleft

/-! ### Steps of the division -/

/-- What division finds is inside the calendar. -/
theorem inside_of_jump? (h : p.jump? now = some q) : q.Inside := by
  obtain ⟨-, -, -, hshift⟩ := jump?_eq_some_iff.mp h
  obtain ⟨-, hstart, hstop⟩ := shift?_eq_some_iff.mp hshift
  exact ⟨hstart, hstop⟩

section whole

variable (hp : p.Whole) (hnow : now.Whole)

include hp

/-- A window in whole microseconds is at least one. -/
theorem Whole.le_window : Span.microsecond ≤ p.window :=
  Int.le_of_dvd p.window_pos hp.window

include hnow

/-- In whole microseconds nothing is cut off the time since the end. -/
theorem Whole.behind : p.behind now * Span.microsecond = now.since p.stop :=
  Int.tdiv_mul_cancel (Int.dvd_sub hnow hp.stop)

/-- **The steps that division takes lead to the first period that has not ended.** -/
theorem first_steps (hended : p.stop < now) : p.First now (p.steps now).toNat := by
  have hpos := step_pos hp.le_window
  obtain ⟨hfar, -, -⟩ := behind_bounds (Int.le_of_lt hended)
  have hcovers := le_stepsToCover (p.behind now) hpos
  have hfewest := stepsToCover_lt hfar hpos
  have hforward : 0 ≤ p.steps now := stepsToCover_nonneg hfar hpos
  have hdistance := hp.behind hnow
  have hstep : p.step * Span.microsecond = p.window := cut_of_dvd hp.window
  have hunit : Span.microsecond = 1000 := rfl
  rw [hunit, Instant.since_eq] at hdistance
  rw [hunit] at hstep
  -- the span of the steps, in microseconds and in windows
  have hspan : stepsToCover (p.behind now) p.step * p.step * 1000 = p.steps now * p.window := by
    rw [Int.mul_assoc, hstep]
    rfl
  refine ⟨?_, ?_⟩
  · rw [nth, Int.toNat_of_nonneg hforward, Instant.le_iff, Instant.nanos_plus]
    omega
  · intro j hj
    have hone : ((j : Int) + 1) * p.window ≤ p.steps now * p.window :=
      Int.mul_le_mul_of_nonneg_right (by omega) (Int.le_of_lt p.window_pos)
    rw [Int.add_mul, Int.one_mul] at hone
    rw [nth, Instant.lt_iff, Instant.nanos_plus]
    omega

/-- What division finds is so many windows on. -/
theorem eq_nth_steps (hended : p.stop < now) (hjump : p.jump? now = some q) :
    q = p.nth (p.steps now).toNat :=
  eq_nth_of_jump? hp.le_window hended hjump (first_steps hp hnow hended) hp.window
    (le_stop_of_roll? hp hnow (roll?_of_jump? hp.le_window hended hjump))

end whole

/-! ### The agreement -/

/-- **Division finds what walking finds.**  A walk comes to an end from every period and at every
time: it arrives at a period that has not ended, or its next turn would leave the calendar.  In whole
microseconds a period is rolled to where it is walked, and whenever division finds a period the walk
arrives there, in as many turns as division takes steps. -/
theorem jump?_walks (p : Period) (now : Instant) :
    (∃ n, Walks p.window now p n (p.walked? now) ∧
      ((p.walked? now = some (p.nth n) ∧ now ≤ (p.nth n).stop) ∨
        (p.walked? now = none ∧ (p.nth n).stop < now ∧ ¬ (p.nth (n + 1)).Inside))) ∧
      (p.Inside → p.Whole → now.Whole → p.stop < now → p.roll? now = p.walked? now ∧
        ∀ q, p.jump? now = some q → p.roll? now = some q ∧ p.walked? now = some q ∧
          Walks p.window now p (p.steps now).toNat (some q)) := by
  obtain ⟨n, hwalk⟩ := exists_walks p.window_pos now p
  refine ⟨⟨n, hwalk, hwalk.ends⟩, ?_⟩
  intro hin hp hnow hended
  have hagree : ∀ q, p.jump? now = some q → p.walked? now = some q := by
    intro q hjump
    have hq := eq_nth_steps hp hnow hended hjump
    have hinside := inside_of_jump? hjump
    rw [hq] at hinside ⊢
    exact walked?_of_first hin (first_steps hp hnow hended) hinside
  refine ⟨?_, ?_⟩
  · rw [roll?_eq_or hp.le_window hended]
    cases hjump : p.jump? now with
    | none => rfl
    | some q => exact (hagree q hjump).symm
  · intro q hjump
    have hwalked := hagree q hjump
    refine ⟨roll?_of_jump? hp.le_window hended hjump, hwalked, ?_⟩
    -- the walk that there is has made the turns that lead so far
    have hturns : Walks p.window now p n (some q) := hwalked ▸ hwalk
    have hcount : n = (p.steps now).toNat := by
      rw [eq_nth_steps hp hnow hended hjump] at hturns
      exact hturns.count p.window_pos
    exact hcount ▸ hturns

/-- A month that ended fifty days ago is walked in two turns to where division finds it. -/
theorem jump?_walks_month :
    let now : Instant := ⟨80 * Span.day⟩
    month.Inside ∧ month.Whole ∧ now.Whole ∧ month.stop < now ∧
      month.jump? now = some (month.nth 2) ∧ month.roll? now = month.walked? now ∧
      month.roll? now = some (month.nth 2) ∧
      month.walked? now = some (month.nth 2) ∧
      Walks month.window now month 2 (some (month.nth 2)) := by
  obtain ⟨-, hagree⟩ := jump?_walks month ⟨80 * Span.day⟩
  have hjump : month.jump? ⟨80 * Span.day⟩ = some (month.nth 2) := by decide
  obtain ⟨hsame, hfound⟩ := hagree (by decide) (by decide) (by decide) (by decide)
  obtain ⟨hroll, hwalked, hturns⟩ := hfound _ hjump
  have hsteps : (month.steps ⟨80 * Span.day⟩).toNat = 2 := by decide
  rw [hsteps] at hturns
  exact ⟨by decide, by decide, by decide, by decide, hjump, hsame, hroll, hwalked, hturns⟩

end Period

end Turnstile
