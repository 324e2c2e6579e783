/-
How many calls a limiter lets through.

A bucket starts with the tokens of its capacity, and from then on it gains at most the tokens of the
time by which its last refill moves on.  Every call that is let through takes a token.  So the calls
let through and the tokens that are left are paid for by the greatest rate and by what it fills in
that time (`Bucket.Paid`).  A change of the rate adds no tokens, a call that is denied takes none,
and a clock that steps back neither adds tokens nor takes the last refill back with it.

The last refill is at a reading of the clock.  So the calls that are let through are no more than the
greatest rate, and what it fills from the first reading to the greatest (`Limiter.admitted_le`).
-/
import Turnstile.Proofs.Limiter.Exact

namespace Turnstile

/-! ### Seconds -/

namespace Span

/-- Seconds of a span. -/
def seconds (d : Int) : ℚ := d / second

theorem seconds_mono {d d' : Int} (h : d ≤ d') : seconds d ≤ seconds d' := by
  have hcast : (d : ℚ) ≤ d' := by exact_mod_cast h
  exact div_le_div_of_nonneg_right hcast (by norm_num [second])

theorem seconds_add (d d' : Int) : seconds (d + d') = seconds d + seconds d' := by
  unfold seconds
  push_cast
  rw [add_div]

/-- Microseconds that are counted are no more than there are. -/
theorem micros_le_seconds {d us : Int} (h : micros? d = some us) (hpos : 0 < us) :
    (us : ℚ) / 1000000 ≤ seconds d := by
  have hunit : microsecond = 1000 := rfl
  have hforward : 0 ≤ d := by
    by_contra hback
    have hnonneg : 0 ≤ (-d).tdiv microsecond := Int.tdiv_nonneg (by omega) (by decide)
    obtain ⟨rfl, -⟩ := Signed64.check?_eq_some_iff.mp h
    rw [Int.neg_tdiv] at hnonneg
    omega
  obtain ⟨hcounted, -⟩ := micros?_bounds hforward h
  have hcut : (us : ℚ) * 1000 ≤ d := by
    rw [hunit] at hcounted
    exact_mod_cast hcounted
  rw [seconds, show second = 1000000000 from rfl]
  push_cast
  linarith

end Span

/-! ### What has been let through is paid for -/

namespace Bucket

variable {R capacity : ℚ} {created now : Instant} {b : Bucket ℚ} {n : Nat} {rate : Int}

/-- A bucket made at `created` that has let so many calls through, under no rate above `R`. -/
structure Paid (R : ℚ) (created : Instant) (b : Bucket ℚ) (n : Nat) : Prop where
  sound : b.Sound
  capacity_le : b.capacity ≤ R
  paid : n + b.tokens ≤ R + R / 60 * Span.seconds (b.lastRefill.since created)

/-- A bucket is new with the call that it is made for. -/
theorem paid_fresh (hone : 1 ≤ capacity) (hle : capacity ≤ R) (now : Instant) :
    (fresh capacity now).Paid R now 1 := by
  refine ⟨sound_fresh hone now, ?_, ?_⟩
  · rw [fresh_eq]
    exact hle
  · have hnow : now.since now = 0 := Int.sub_self _
    rw [fresh_eq, hnow]
    simp only [Span.seconds, Nat.cast_one, Int.cast_zero, zero_div, mul_zero]
    linarith

theorem lastRefill_take (b : Bucket ℚ) : b.take.2.lastRefill = b.lastRefill := by
  unfold take
  split <;> rfl

namespace Paid

/-- A refill adds no more than the time fills by which it moves the last one on. -/
theorem refill (h : b.Paid R created n)
    (hnear : (Span.micros? (now.since b.lastRefill)).isSome) :
    (b.refill now).Paid R created n ∧
      ((b.refill now).lastRefill = b.lastRefill ∨ (b.refill now).lastRefill = now) := by
  obtain ⟨us, hspan⟩ := Option.isSome_iff_exists.mp hnear
  by_cases hpos : 0 < us
  · have hcounted := Span.micros_le_seconds hspan hpos
    have hsound := h.sound.refill now
    -- at most at the greatest rate, and for the whole of the time
    have hrate : b.refillPerSecond ≤ R / 60 := by
      rw [h.sound.fills]
      exact div_le_div_of_nonneg_right h.capacity_le (by norm_num)
    have hgain : (us : ℚ) / 1000000 * b.refillPerSecond ≤
        R / 60 * Span.seconds (now.since b.lastRefill) := by
      rw [mul_comm]
      refine mul_le_mul hrate hcounted (by positivity) ?_
      exact h.sound.refillPerSecond_nonneg.trans hrate
    have htime : now.since created = b.lastRefill.since created + now.since b.lastRefill := by
      simp only [Instant.since_eq]
      omega
    have hpaid := h.paid
    have hmin := min_le_left (b.tokens + us / 1000000 * b.refillPerSecond) b.capacity
    rw [refill_of_pos hspan hpos] at hsound ⊢
    refine ⟨⟨hsound, h.capacity_le, ?_⟩, .inr rfl⟩
    dsimp only
    rw [htime, Span.seconds_add, mul_add]
    linarith
  · rw [refill_of_nonpos hspan (by omega)]
    exact ⟨h, .inl rfl⟩

/-- Another rate adds nothing. -/
theorem rebase (h : b.Paid R created n) (hone : 1 ≤ capacity) (hle : capacity ≤ R) :
    (b.rebase capacity).Paid R created n := by
  have hsound := h.sound.rebase hone
  rw [h.sound.rebase_eq] at hsound ⊢
  have hpaid := h.paid
  have hmin := min_le_left b.tokens capacity
  refine ⟨hsound, hle, ?_⟩
  dsimp only
  linarith

/-- A call that is let through takes its token. -/
theorem take (h : b.Paid R created n) :
    b.take.2.Paid R created (n + b.take.1.allowed.toNat) := by
  have hsound := h.sound.take
  by_cases htoken : 1 ≤ b.tokens
  · rw [take_of_le htoken] at hsound ⊢
    have hpaid := h.paid
    refine ⟨hsound, h.capacity_le, ?_⟩
    simp only [Decision.allow, Bool.toNat_true, Nat.cast_add, Nat.cast_one]
    linarith
  · rw [take_of_lt (not_le.mp htoken)]
    exact h

/-- **A call is paid for**, and it leaves the last refill where it was or brings it to its own
reading of the clock. -/
theorem call (h : b.Paid R created n) (hrate : 0 < rate) (hle : (rate : ℚ) ≤ R)
    (hnear : (Span.micros? (now.since b.lastRefill)).isSome) :
    (b.call rate now).2.Paid R created (n + (b.call rate now).1.allowed.toNat) ∧
      ((b.call rate now).2.lastRefill = b.lastRefill ∨ (b.call rate now).2.lastRefill = now) := by
  have hone : (1 : ℚ) ≤ rate := by exact_mod_cast hrate
  obtain ⟨hrefilled, hlast⟩ := h.refill hnear
  refine ⟨(hrefilled.rebase hone hle).take, ?_⟩
  unfold Bucket.call
  rw [lastRefill_take, Amount.ofInt_eq, hrefilled.sound.rebase_eq]
  exact hlast

end Paid

end Bucket

/-! ### Runs of a limiter -/

namespace Limiter

variable {tenant : String} {moves rest : List Move} {l : Limiter ℚ} {m : Move}

/-- Is the move a call that is let through? -/
def lets (l : Limiter ℚ) : Move → Bool
  | .call tenant rate now => (l.allow tenant rate now).1.allowed
  | .forget _ => false

/-- How many calls of a tenant are let through. -/
def admitted (tenant : String) : Limiter ℚ → List Move → Nat
  | _, [] => 0
  | l, m :: rest =>
    (decide (m.tenant = tenant) && l.lets m).toNat + admitted tenant (l.step m) rest

/-- When a call reads the clock for a tenant: it does if its rate is positive. -/
def Move.reading? (tenant : String) : Move → Option Instant
  | call caller rate now => if caller = tenant ∧ 0 < rate then some now else none
  | forget _ => none

/-- The readings of the clock by the calls of a tenant. -/
def readings (tenant : String) (moves : List Move) : List Instant :=
  moves.filterMap (Move.reading? tenant)

/-- The span from the first reading to the second can be counted in microseconds. -/
def Near (t u : Instant) : Prop := (Span.micros? (u.since t)).isSome

instance (t u : Instant) : Decidable (Near t u) := inferInstanceAs (Decidable (_ = true))

theorem Move.reading?_eq_some_iff {now : Instant} :
    m.reading? tenant = some now ↔ ∃ rate, m = .call tenant rate now ∧ 0 < rate := by
  cases m with
  | call caller rate now' =>
    simp only [reading?, Option.ite_none_right_eq_some, Option.some.injEq, Move.call.injEq]
    constructor
    · rintro ⟨⟨rfl, hrate⟩, rfl⟩
      exact ⟨rate, ⟨rfl, rfl, rfl⟩, hrate⟩
    · rintro ⟨rate', ⟨rfl, rfl, rfl⟩, hrate⟩
      exact ⟨⟨rfl, hrate⟩, rfl⟩
  | forget => simp [reading?]

/-- A move that does not read the clock for a tenant lets no call of it through and leaves its bucket
alone. -/
theorem quiet_of_reading? (hkept : m ≠ .forget tenant) (h : m.reading? tenant = none) :
    (decide (m.tenant = tenant) && l.lets m) = false ∧
      (l.step m).bucket? tenant = l.bucket? tenant := by
  by_cases hother : m.tenant = tenant
  · cases m with
    | forget other =>
      obtain rfl : other = tenant := hother
      exact absurd rfl hkept
    | call caller rate now =>
      obtain rfl : caller = tenant := hother
      have hrate : rate ≤ 0 := by
        simpa [Move.reading?] using h
      simp [lets, step, allow_of_refused (.inl hrate), Decision.deny]
  · refine ⟨by simp [hother], bucket?_step_of_ne hother⟩

/-- **What a run lets through is paid for**, once there is a bucket. -/
theorem paid_run {R : ℚ} {created : Instant} {b : Bucket ℚ} {n : Nat} (hnamed : tenant ≠ "")
    (hrates : ∀ rate now, Move.call tenant rate now ∈ moves → (rate : ℚ) ≤ R)
    (hkept : Move.forget tenant ∉ moves) (hb : l.bucket? tenant = some b)
    (hpaid : b.Paid R created n)
    (hnear : (b.lastRefill :: readings tenant moves).Pairwise Near) :
    ∃ b', (l.run moves).bucket? tenant = some b' ∧
      b'.Paid R created (n + l.admitted tenant moves) ∧
      b'.lastRefill ∈ b.lastRefill :: readings tenant moves := by
  induction moves generalizing l b n with
  | nil => exact ⟨b, hb, hpaid, by simp⟩
  | cons m rest ih =>
    have hrates' : ∀ rate now, Move.call tenant rate now ∈ rest → (rate : ℚ) ≤ R :=
      fun rate now hmem => hrates rate now (List.mem_cons_of_mem _ hmem)
    have hkept' : Move.forget tenant ∉ rest := fun hmem => hkept (List.mem_cons_of_mem _ hmem)
    rw [run_cons, admitted]
    cases hreading : m.reading? tenant with
    | none =>
      have hm : m ≠ .forget tenant := by
        rintro rfl
        exact hkept List.mem_cons_self
      obtain ⟨hlets, hbucket⟩ := quiet_of_reading? (l := l) hm hreading
      have hreadings : readings tenant (m :: rest) = readings tenant rest :=
        List.filterMap_cons_none hreading
      rw [hreadings] at hnear ⊢
      rw [hlets, Bool.toNat_false, Nat.zero_add]
      exact ih hrates' hkept' (hbucket.trans hb) hpaid hnear
    | some now =>
      obtain ⟨rate, rfl, hrate⟩ := Move.reading?_eq_some_iff.mp hreading
      have hreadings : readings tenant (.call tenant rate now :: rest) =
          now :: readings tenant rest := List.filterMap_cons_some hreading
      rw [hreadings] at hnear ⊢
      obtain ⟨hfrom, hlater⟩ := List.pairwise_cons.mp hnear
      obtain ⟨hdecision, hbucket⟩ := allow_of_present hnamed hrate hb now
      obtain ⟨hcalled, hlast⟩ := hpaid.call hrate (hrates rate now List.mem_cons_self)
        (hfrom now List.mem_cons_self)
      rw [← hdecision] at hcalled
      -- the last refill stays where it was, or it is at this reading
      have hnear' : ((b.call rate now).2.lastRefill :: readings tenant rest).Pairwise Near := by
        rcases hlast with hsame | hnow
        · rw [hsame]
          exact List.pairwise_cons.mpr
            ⟨fun t ht => hfrom t (List.mem_cons_of_mem _ ht), (List.pairwise_cons.mp hlater).2⟩
        · rw [hnow]
          exact hlater
      obtain ⟨b', hb', hpaid', hmem⟩ := ih hrates' hkept' hbucket hcalled hnear'
      refine ⟨b', hb', ?_, ?_⟩
      · simpa [lets, step, Move.tenant, Nat.add_assoc] using hpaid'
      · rcases List.mem_cons.mp hmem with hfirst | hrest
        · rcases hlast with hsame | hnow
          · rw [hfirst, hsame]
            exact List.mem_cons_self
          · rw [hfirst, hnow]
            exact List.mem_cons_of_mem _ List.mem_cons_self
        · exact List.mem_cons_of_mem _ (List.mem_cons_of_mem _ hrest)

/-- A run that does not read the clock for a tenant lets no call of it through. -/
theorem quiet_run (hkept : Move.forget tenant ∉ moves)
    (hquiet : ∀ m ∈ moves, m.reading? tenant = none) :
    l.admitted tenant moves = 0 ∧ (l.run moves).bucket? tenant = l.bucket? tenant := by
  induction moves generalizing l with
  | nil => exact ⟨rfl, rfl⟩
  | cons m rest ih =>
    have hm : m ≠ .forget tenant := by
      rintro rfl
      exact hkept List.mem_cons_self
    obtain ⟨hlets, hbucket⟩ := quiet_of_reading? (l := l) hm (hquiet m List.mem_cons_self)
    obtain ⟨hnone, hrun⟩ := ih (l := l.step m) (fun hmem => hkept (List.mem_cons_of_mem _ hmem))
      fun m' hm' => hquiet m' (List.mem_cons_of_mem _ hm')
    rw [admitted, run_cons, hlets, hnone, hrun]
    exact ⟨rfl, hbucket⟩

theorem admitted_append (l : Limiter ℚ) (tenant : String) (moves rest : List Move) :
    l.admitted tenant (moves ++ rest) =
      l.admitted tenant moves + (l.run moves).admitted tenant rest := by
  induction moves generalizing l with
  | nil => simp [admitted]
  | cons m moves ih =>
    rw [List.cons_append, admitted, admitted, run_cons, ih, Nat.add_assoc]

/-- Of some readings one is the greatest. -/
theorem exists_last (t : Instant) (later : List Instant) :
    ∃ last ∈ t :: later, ∀ u ∈ t :: later, u ≤ last := by
  induction later generalizing t with
  | nil => exact ⟨t, by simp, by simp [Instant.le_iff]⟩
  | cons u rest ih =>
    obtain ⟨last, hmem, hlast⟩ := ih u
    by_cases hle : t ≤ last
    · refine ⟨last, List.mem_cons_of_mem _ hmem, ?_⟩
      intro v hv
      rcases List.mem_cons.mp hv with rfl | hv'
      · exact hle
      · exact hlast v hv'
    · refine ⟨t, List.mem_cons_self, ?_⟩
      intro v hv
      rcases List.mem_cons.mp hv with rfl | hv'
      · exact Int.le_refl _
      · exact Int.le_trans (hlast v hv') (Int.le_of_lt (Instant.lt_of_not_le hle))

/-- From the first reading on there is a bucket, and what has been let through is paid for. -/
theorem exists_paid {R : ℚ} {created : Instant} {later : List Instant} (hnamed : tenant ≠ "")
    (hnew : l.bucket? tenant = none)
    (hrates : ∀ rate now, Move.call tenant rate now ∈ moves → (rate : ℚ) ≤ R)
    (hkept : Move.forget tenant ∉ moves) (hnear : (readings tenant moves).Pairwise Near)
    (hreadings : readings tenant moves = created :: later) :
    ∃ b, (l.run moves).bucket? tenant = some b ∧
      b.Paid R created (l.admitted tenant moves) ∧ b.lastRefill ∈ readings tenant moves := by
  rw [hreadings] at hnear ⊢
  obtain ⟨before, first, rest, rfl, hquiet, hfirst, rfl⟩ :=
    List.filterMap_eq_cons_iff.mp hreadings
  obtain ⟨rate, rfl, hrate⟩ := Move.reading?_eq_some_iff.mp hfirst
  obtain ⟨hbefore, hbucket⟩ := quiet_run (l := l) (fun hmem => hkept (by simp [hmem])) hquiet
  obtain ⟨hdecision, hmade⟩ :=
    allow_of_absent hnamed hrate (hbucket.trans hnew) created
  have hone : (1 : ℚ) ≤ rate := by exact_mod_cast hrate
  have hle : (rate : ℚ) ≤ R := hrates rate created (by simp)
  have hlast : (Bucket.fresh (rate : ℚ) created).lastRefill = created := rfl
  rw [Amount.ofInt_eq] at hmade
  obtain ⟨b, hb, hpaid, hmem⟩ := paid_run hnamed
    (fun rate' now hmem => hrates rate' now (by simp [hmem]))
    (fun hmem => hkept (by simp [hmem])) hmade (Bucket.paid_fresh hone hle created)
    (hlast ▸ hnear)
  -- the first call is let through, and no call before it
  have hcount : l.admitted tenant (before ++ .call tenant rate created :: rest) =
      1 + ((l.run before).step (.call tenant rate created)).admitted tenant rest := by
    rw [admitted_append, hbefore, Nat.zero_add, admitted]
    simp [lets, Move.tenant, hdecision, Decision.allow]
  rw [run_append, run_cons, hcount]
  exact ⟨b, hb, hpaid, hmem⟩

/-- **A limiter lets no more calls of a tenant through than the greatest rate, and what it fills from
the first reading of the clock to the greatest.**  Before the first reading there is no bucket and no
call is let through; from then on there is a bucket, and it holds no less than nothing, no more than
its capacity, and that is not above the greatest rate. -/
theorem admitted_le {R : ℚ} (hnamed : tenant ≠ "") (hnew : l.bucket? tenant = none)
    (hrates : ∀ rate now, Move.call tenant rate now ∈ moves → (rate : ℚ) ≤ R)
    (hkept : Move.forget tenant ∉ moves) (hnear : (readings tenant moves).Pairwise Near) :
    (readings tenant moves = [] →
      l.admitted tenant moves = 0 ∧ (l.run moves).bucket? tenant = none) ∧
    ∀ created later, readings tenant moves = created :: later →
      ∃ last ∈ readings tenant moves, (∀ t ∈ readings tenant moves, t ≤ last) ∧
        (l.admitted tenant moves : ℚ) ≤ R + R / 60 * Span.seconds (last.since created) ∧
        ∃ b, (l.run moves).bucket? tenant = some b ∧
          0 ≤ b.tokens ∧ b.tokens ≤ b.capacity ∧ b.capacity ≤ R := by
  refine ⟨?_, ?_⟩
  · intro hnone
    rw [← hnew]
    exact quiet_run hkept (List.filterMap_eq_nil_iff.mp hnone)
  · intro created later hreadings
    obtain ⟨b, hb, hpaid, hmem⟩ := exists_paid hnamed hnew hrates hkept hnear hreadings
    rw [hreadings] at hmem ⊢
    obtain ⟨last, hlast, hgreatest⟩ := exists_last created later
    refine ⟨last, hlast, hgreatest, ?_, b, hb, hpaid.sound.nonneg, hpaid.sound.within,
      hpaid.capacity_le⟩
    -- the last refill is no later than the greatest reading
    have htime : Span.seconds (b.lastRefill.since created) ≤ Span.seconds (last.since created) := by
      have hrefill := hgreatest _ hmem
      rw [Instant.le_iff] at hrefill
      refine Span.seconds_mono ?_
      simp only [Instant.since_eq]
      omega
    have hone := hpaid.sound.one_le
    have hcapacity := hpaid.capacity_le
    have hfill : R / 60 * Span.seconds (b.lastRefill.since created) ≤
        R / 60 * Span.seconds (last.since created) :=
      mul_le_mul_of_nonneg_left htime (by linarith)
    have hspent := hpaid.paid
    have hleft := hpaid.sound.nonneg
    linarith

/-- Three calls at a rate of three, one too many, one for which the clock has stepped back, and one
that comes when a token has come. -/
def burst : List Move :=
  [.call "acme" 0 ⟨-5 * Span.second⟩, .call "acme" 3 ⟨0⟩, .call "globex" 9 ⟨0⟩, .call "acme" 3 ⟨0⟩,
    .call "acme" 3 ⟨0⟩, .call "acme" 3 ⟨0⟩, .forget "globex", .call "acme" 3 ⟨-Span.second⟩,
    .call "acme" 3 ⟨20 * Span.second⟩]

/-- Of the burst four calls are let through, and no more can be in twenty seconds. -/
theorem admitted_le_burst :
    let l : Limiter ℚ := ∅
    "acme" ≠ "" ∧ l.bucket? "acme" = none ∧
      (∀ rate now, Move.call "acme" rate now ∈ burst → (rate : ℚ) ≤ 3) ∧
      Move.forget "acme" ∉ burst ∧ (readings "acme" burst).Pairwise Near ∧
      l.admitted "acme" burst = 4 ∧
      (3 : ℚ) + 3 / 60 * Span.seconds ((⟨20 * Span.second⟩ : Instant).since ⟨0⟩) = 4 ∧
      ∃ last ∈ readings "acme" burst, (∀ t ∈ readings "acme" burst, t ≤ last) ∧
        (l.admitted "acme" burst : ℚ) ≤ 3 + 3 / 60 * Span.seconds (last.since ⟨0⟩) ∧
        ∃ b, (l.run burst).bucket? "acme" = some b ∧
          0 ≤ b.tokens ∧ b.tokens ≤ b.capacity ∧ b.capacity ≤ 3 := by
  have hrates : ∀ rate now, Move.call "acme" rate now ∈ burst → (rate : ℚ) ≤ 3 := by
    intro rate now hmem
    have hrate : rate ≤ 3 := by
      simp [burst] at hmem
      omega
    exact_mod_cast hrate
  have hnear : (readings "acme" burst).Pairwise Near := by decide
  obtain ⟨-, hbound⟩ := admitted_le (l := (∅ : Limiter ℚ)) (by decide) (by decide) hrates (by decide)
    hnear
  have hreadings : readings "acme" burst =
      [⟨0⟩, ⟨0⟩, ⟨0⟩, ⟨0⟩, ⟨-Span.second⟩, ⟨20 * Span.second⟩] := by decide
  exact ⟨by decide, by decide, hrates, by decide, hnear, by decide +kernel, by decide +kernel,
    hbound _ _ hreadings⟩

end Limiter

end Turnstile
