/-
Where a rolled period lands.

The periods that follow a period are the period moved by windows of its length (`Period.nth`), and
the one that counts is the first of them that has not ended (`Period.First`).  Walking finds it
(`Period.walked?_of_first`).

Division finds it where nothing is cut off.  The time since the end and the window are cut to whole
microseconds first, and so the period that division finds is moved by steps that may be shorter
than the window, and to the first of them that ends less than a microsecond before `now`.  It falls
short of `now` exactly where a step has ended less than a microsecond ago, and it is the period that
counts exactly where the windows up to that period are whole steps and its last step has begun a
microsecond ago (`Period.lands_iff`).  A window in whole microseconds is one step, and then falling
short is all that can go wrong.
-/
import Turnstile.Proofs.Rollover.Division

namespace Turnstile

namespace Period

variable {p q : Period} {now : Instant} {k : Nat}

/-! ### The periods that follow -/

/-- The period so many windows later. -/
def nth (p : Period) (k : Nat) : Period :=
  ⟨p.start.plus (k * p.window), p.stop.plus (k * p.window)⟩

/-- The period so many windows later is the first that has not ended. -/
structure First (p : Period) (now : Instant) (k : Nat) : Prop where
  counts : now ≤ (p.nth k).stop
  ended : ∀ j < k, (p.nth j).stop < now

/-- Both ends are inside the calendar. -/
structure Inside (p : Period) : Prop where
  start : Calendar.Holds p.start
  stop : Calendar.Holds p.stop

instance (p : Period) (now : Instant) (k : Nat) : Decidable (p.First now k) :=
  decidable_of_iff (now ≤ (p.nth k).stop ∧ ∀ j < k, (p.nth j).stop < now)
    ⟨fun h => ⟨h.1, h.2⟩, fun h => ⟨h.1, h.2⟩⟩

instance (p : Period) : Decidable p.Inside :=
  decidable_of_iff (Calendar.Holds p.start ∧ Calendar.Holds p.stop)
    ⟨fun h => ⟨h.1, h.2⟩, fun h => ⟨h.1, h.2⟩⟩

@[simp] theorem nth_zero (p : Period) : p.nth 0 = p := by
  simp [nth, Instant.plus]

/-- Where a period and one that follows it are inside the calendar, so are those in between. -/
theorem Inside.nth_of_le (hp : p.Inside) {j : Nat} (hjk : j ≤ k) (hk : (p.nth k).Inside) :
    (p.nth j).Inside := by
  have hwindow := p.window_pos
  have hspan : 0 ≤ (j : Int) * p.window :=
    Int.mul_nonneg (Int.natCast_nonneg j) (Int.le_of_lt hwindow)
  have hshorter : (j : Int) * p.window ≤ k * p.window :=
    Int.mul_le_mul_of_nonneg_right (by omega) (Int.le_of_lt hwindow)
  obtain ⟨⟨hfirst, -⟩, hfirst', -⟩ := hp
  obtain ⟨⟨-, hlast⟩, -, hlast'⟩ := hk
  simp only [nth, Instant.le_iff, Instant.nanos_plus] at hfirst hfirst' hlast hlast'
  refine ⟨⟨?_, ?_⟩, ?_, ?_⟩
  all_goals
    simp only [nth, Instant.le_iff, Instant.nanos_plus]
    omega

/-- A period that has not ended is the first itself. -/
theorem First.eq_zero (h : p.First now k) (hcounts : now ≤ p.stop) : k = 0 := by
  rcases Nat.eq_zero_or_pos k with hk | hk
  · exact hk
  · have hended := h.ended 0 hk
    rw [nth_zero, Instant.lt_iff] at hended
    rw [Instant.le_iff] at hcounts
    omega

/-- The first that has not ended ends less than a window after `now`. -/
theorem First.bounds (h : p.First now k) (hended : p.stop < now) :
    now.since p.stop ≤ k * p.window ∧ k * p.window < now.since p.stop + p.window := by
  have hcounts := h.counts
  have hk : k ≠ 0 := by
    rintro rfl
    rw [nth_zero, Instant.le_iff] at hcounts
    rw [Instant.lt_iff] at hended
    omega
  obtain ⟨j, rfl⟩ := Nat.exists_eq_succ_of_ne_zero hk
  have hlast := h.ended j (Nat.lt_succ_self j)
  simp only [nth, Instant.le_iff, Instant.lt_iff, Instant.nanos_plus, Nat.succ_eq_add_one,
    Int.natCast_add, Int.add_mul] at hcounts hlast
  simp only [Instant.since_eq, Nat.succ_eq_add_one, Int.natCast_add, Int.add_mul]
  omega

/-! ### Walking -/

/-- **Walking finds the first period that has not ended.** -/
theorem walk?_nth (hp : p.Inside) (hk : p.First now k) (hin : (p.nth k).Inside) {j : Nat}
    (hjk : j ≤ k) : walk? p.window now p.window_pos (p.nth j) = some (p.nth k) := by
  induction hleft : k - j generalizing j with
  | zero =>
    obtain rfl : j = k := by omega
    have hcounts : ¬ (p.nth j).stop < now := by
      have hcounts := hk.counts
      rw [Instant.le_iff] at hcounts
      rw [Instant.lt_iff]
      omega
    rw [walk?, if_neg hcounts]
  | succ left ih =>
    have hnext : p.nth (j + 1) = ⟨(p.nth j).start.plus p.window, (p.nth j).stop.plus p.window⟩ := by
      simp [nth, Instant.plus, Int.add_mul, Int.add_assoc]
    have hinside := hp.nth_of_le (show j + 1 ≤ k by omega) hin
    rw [walk?, if_pos (hk.ended j (by omega)), ← ih (show j + 1 ≤ k by omega) (by omega), hnext]
    rw [hnext] at hinside
    rw [if_pos ⟨hinside.start, hinside.stop⟩]

theorem walked?_of_first (hp : p.Inside) (hk : p.First now k) (hin : (p.nth k).Inside) :
    p.walked? now = some (p.nth k) := by
  have hwalk := walk?_nth hp hk hin (Nat.zero_le k)
  rw [nth_zero] at hwalk
  exact hwalk

/-! ### Division -/

/-- The window cut to whole microseconds. -/
def cut (p : Period) : Int := p.step * Span.microsecond

theorem le_cut (hwindow : Span.microsecond ≤ p.window) : Span.microsecond ≤ p.cut := by
  have hpos := step_pos hwindow
  have hunit : Span.microsecond = 1000 := rfl
  unfold cut
  rw [hunit]
  omega

/-- Nothing is cut off a window in whole microseconds. -/
theorem cut_of_dvd (h : Span.microsecond ∣ p.window) : p.cut = p.window :=
  Int.tdiv_mul_cancel h

/-- Division finds the first step that ends less than a microsecond before `now`. -/
theorem bounds_of_jump? (hwindow : Span.microsecond ≤ p.window) (hended : p.stop < now)
    (h : p.jump? now = some q) :
    ∃ n : Int, q = ⟨p.start.plus (n * p.cut), p.stop.plus (n * p.cut)⟩ ∧
      now.since p.stop - Span.microsecond < n * p.cut ∧
      n * p.cut ≤ now.since p.stop - Span.microsecond + p.cut := by
  obtain ⟨-, -, -, hshift⟩ := jump?_eq_some_iff.mp h
  have hpos := step_pos hwindow
  obtain ⟨hfar, hlow, hhigh⟩ := behind_bounds (Int.le_of_lt hended)
  have hcovers := le_stepsToCover (p.behind now) hpos
  have hfewest := stepsToCover_lt hfar hpos
  have hunit : Span.microsecond = 1000 := rfl
  rw [hunit] at hlow hhigh
  refine ⟨p.steps now, ?_, ?_, ?_⟩
  · obtain ⟨hstart, hstop⟩ := eq_of_shift? hshift
    rw [Int.mul_assoc] at hstart hstop
    cases q
    simp_all [cut]
  · unfold cut steps
    rw [← Int.mul_assoc, hunit]
    omega
  · unfold cut steps
    rw [← Int.mul_assoc, hunit]
    omega

/-- The period that counts is found by division. -/
def Divided (p : Period) (now : Instant) : Prop := p.stop < now ∧ (p.jump? now).isSome

instance (p : Period) (now : Instant) : Decidable (p.Divided now) :=
  inferInstanceAs (Decidable (_ ∧ _))

section divided

variable (hwindow : Span.microsecond ≤ p.window) (hended : p.stop < now)
  (hjump : p.jump? now = some q)

include hwindow hended hjump

/-- Division falls short of `now` exactly where a step has ended less than a microsecond ago. -/
theorem le_stop_iff_of_jump? :
    now ≤ q.stop ↔
      now.since p.stop % p.cut = 0 ∨ Span.microsecond ≤ now.since p.stop % p.cut := by
  obtain ⟨n, rfl, hlow, hhigh⟩ := bounds_of_jump? hwindow hended hjump
  have hcut := le_cut hwindow
  have hunit : Span.microsecond = 1000 := rfl
  rw [hunit] at hcut hlow hhigh ⊢
  -- what is left of the time after the steps
  have hrest : now.since p.stop % p.cut = (now.since p.stop - n * p.cut) % p.cut := by
    rw [Int.sub_mul_emod_self_right]
  have hcovers : now ≤ p.stop.plus (n * p.cut) ↔ now.since p.stop ≤ n * p.cut := by
    rw [Instant.le_iff, Instant.nanos_plus, Instant.since_eq]
    omega
  show now ≤ p.stop.plus (n * p.cut) ↔ _
  rw [hcovers, hrest]
  by_cases hshort : 0 ≤ now.since p.stop - n * p.cut
  · rw [Int.emod_eq_of_lt hshort (by omega)]
    omega
  · rw [← Int.add_emod_right, Int.emod_eq_of_lt (by omega) (by omega)]
    omega

/-- Division finds the first period that has not ended exactly where the windows up to it are whole
steps and its last step has begun a microsecond ago. -/
theorem eq_nth_iff_of_jump? (hk : p.First now k) :
    q = p.nth k ↔
      p.cut ∣ k * p.window ∧ (p.nth k).stop.since now + Span.microsecond ≤ p.cut := by
  obtain ⟨n, rfl, hlow, hhigh⟩ := bounds_of_jump? hwindow hended hjump
  obtain ⟨hcovers, -⟩ := hk.bounds hended
  have hcut := le_cut hwindow
  have hunit : Span.microsecond = 1000 := rfl
  have hsince : (p.nth k).stop.since now = k * p.window - now.since p.stop := by
    simp only [nth, Instant.since_eq, Instant.nanos_plus]
    omega
  rw [hsince]
  constructor
  · intro heq
    have hspan := congrArg (fun r : Period => r.stop.nanos) heq
    simp only [nth, Instant.nanos_plus] at hspan
    refine ⟨⟨n, ?_⟩, by omega⟩
    rw [Int.mul_comm p.cut]
    omega
  · rintro ⟨⟨m, hm⟩, hbegun⟩
    rw [Int.mul_comm p.cut] at hm
    have hlow' : now.since p.stop - Span.microsecond < m * p.cut := by omega
    have hhigh' : m * p.cut ≤ now.since p.stop - Span.microsecond + p.cut := by omega
    have hsame : m = n := multiple_unique (by omega) hlow' hhigh' hlow hhigh
    rw [nth, hm, hsame]

/-- Steps of a whole window find it if they do not fall short. -/
theorem eq_nth_of_jump? (hk : p.First now k) (hwhole : Span.microsecond ∣ p.window)
    (hcounts : now ≤ q.stop) : q = p.nth k := by
  obtain ⟨n, rfl, hlow, hhigh⟩ := bounds_of_jump? hwindow hended hjump
  obtain ⟨hcovers, hfewest⟩ := hk.bounds hended
  have hunit : Span.microsecond = 1000 := rfl
  rw [cut_of_dvd hwhole] at hlow hhigh hcounts ⊢
  have hcovers' : now.since p.stop ≤ n * p.window := by
    simp only [Instant.le_iff, Instant.nanos_plus] at hcounts
    rw [Instant.since_eq]
    omega
  have hbefore : now.since p.stop - 1 < k * p.window := by omega
  have hbefore' : k * p.window ≤ now.since p.stop - 1 + p.window := by omega
  have hsame : (k : Int) = n :=
    multiple_unique p.window_pos hbefore hbefore' (by omega) (by omega)
  rw [nth, hsame]

end divided

/-! ### The period that counts -/

/-- **Where a rolled period lands.**  There always is one, as long as the period, and it ends less
than a microsecond before `now` at the worst.  It has not ended exactly if it has been walked to or
no step has ended less than a microsecond ago, and it is the first period that has not ended exactly
if it has been walked to or that period is whole steps away and the last of them has begun a
microsecond ago. -/
theorem lands_iff (hp : p.Inside) (hwindow : Span.microsecond ≤ p.window) (hk : p.First now k)
    (hin : (p.nth k).Inside) :
    ∃ q, p.roll? now = some q ∧ q.stop.since q.start = p.stop.since p.start ∧
      now.since q.stop < Span.microsecond ∧
      (now ≤ q.stop ↔ (p.Divided now →
        now.since p.stop % p.cut = 0 ∨ Span.microsecond ≤ now.since p.stop % p.cut)) ∧
      (q = p.nth k ↔ (p.Divided now →
        p.cut ∣ k * p.window ∧ (p.nth k).stop.since now + Span.microsecond ≤ p.cut)) ∧
      (Span.microsecond ∣ p.window → now ≤ q.stop → q = p.nth k) := by
  have hunit : Span.microsecond = 1000 := rfl
  by_cases hdivided : p.Divided now
  · obtain ⟨hended, hfound⟩ := hdivided
    obtain ⟨q, hjump⟩ := Option.isSome_iff_exists.mp hfound
    have hroll := roll?_of_jump? hwindow hended hjump
    refine ⟨q, hroll, (shifted_of_roll? hroll).length, ?_, ?_, ?_, ?_⟩
    · obtain ⟨n, rfl, hlow, -⟩ := bounds_of_jump? hwindow hended hjump
      simp only [Instant.since_eq, Instant.nanos_plus] at hlow ⊢
      omega
    · rw [le_stop_iff_of_jump? hwindow hended hjump]
      exact ⟨fun h _ => h, fun h => h ⟨hended, hfound⟩⟩
    · rw [eq_nth_iff_of_jump? hwindow hended hjump hk]
      exact ⟨fun h _ => h, fun h => h ⟨hended, hfound⟩⟩
    · exact eq_nth_of_jump? hwindow hended hjump hk
  · have hroll : p.roll? now = some (p.nth k) := by
      by_cases hcounts : now ≤ p.stop
      · rw [hk.eq_zero hcounts, nth_zero]
        exact roll?_of_le hcounts
      · have hended := Instant.lt_of_not_le hcounts
        have hnone : p.jump? now = none := by
          cases hjump : p.jump? now with
          | none => rfl
          | some q => exact absurd ⟨hended, by rw [hjump]; rfl⟩ hdivided
        rw [roll?_eq_or hwindow hended, hnone]
        exact walked?_of_first hp hk hin
    have hcounts := hk.counts
    refine ⟨p.nth k, hroll, (shifted_of_roll? hroll).length, ?_, ?_, ?_, fun _ _ => rfl⟩
    · rw [Instant.le_iff] at hcounts
      rw [Instant.since_eq]
      omega
    · exact ⟨fun _ h => absurd h hdivided, fun _ => hcounts⟩
    · exact ⟨fun _ h => absurd h hdivided, fun _ => rfl⟩

/-! ### A month that has ended just now -/

/-- A period of thirty days. -/
def month : Period := ⟨⟨0⟩, ⟨30 * Span.day⟩⟩

/-- Half a microsecond after its end. -/
def justAfter : Instant := ⟨30 * Span.day + 500⟩

/-- The month is rolled to itself, though it has ended and the next month has not. -/
theorem rolled_short_of_now :
    month.Inside ∧ Span.microsecond ≤ month.window ∧ month.First justAfter 1 ∧
      (month.nth 1).Inside ∧ month.roll? justAfter = some month ∧ month.stop < justAfter ∧
      month ≠ month.nth 1 :=
  ⟨by decide, by decide, by decide, by decide, by decide, by decide, by decide⟩

/-- Three steps of a microsecond are two windows of a microsecond and a half, and so division finds
the second period that follows. -/
theorem lands_iff_brief :
    let now : Instant := ⟨4500⟩
    brief.Inside ∧ Span.microsecond ≤ brief.window ∧ brief.First now 2 ∧ (brief.nth 2).Inside ∧
      ∃ q, brief.roll? now = some q ∧ q.stop.since q.start = brief.stop.since brief.start ∧
        now.since q.stop < Span.microsecond ∧
        (now ≤ q.stop ↔ (brief.Divided now → now.since brief.stop % brief.cut = 0 ∨
          Span.microsecond ≤ now.since brief.stop % brief.cut)) ∧
        (q = brief.nth 2 ↔ (brief.Divided now → brief.cut ∣ (2 : Nat) * brief.window ∧
          (brief.nth 2).stop.since now + Span.microsecond ≤ brief.cut)) ∧
        (Span.microsecond ∣ brief.window → now ≤ q.stop → q = brief.nth 2) :=
  ⟨by decide, by decide, by decide, by decide,
    lands_iff (by decide) (by decide) (by decide) (by decide)⟩

end Period

end Turnstile
