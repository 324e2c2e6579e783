/-
When a refused call may come back.

A call that is refused leaves a bucket without a token (`Bucket.Dry`): it has been refilled up to
less than a microsecond before the call, and it fills at the rate of the call.  From there on
nothing is cut off whole seconds, so the bucket has a token after so many seconds exactly if they
cover what is missing (`Bucket.Dry.allowed_iff`).  The hint is the least number of whole seconds
that do.  So the tenant's next call at the same rate is allowed from the seconds of the hint on,
and not before (`Limiter.readmitted_iff`).
-/
import Turnstile.Proofs.Limiter.Exact

namespace Turnstile

namespace Bucket

variable {b : Bucket ℚ} {rate : Int} {t now : Instant}

/-! ### The hint -/

theorem retryAfter_eq (b : Bucket ℚ) :
    b.retryAfter = ⌈(1 - b.tokens) * 60 / b.capacity⌉₊ := by
  simp [retryAfter, Amount.ceiling?, Amount.div, Amount.mul, Amount.sub]

/-- The hint is the least number of whole seconds in which what is missing comes. -/
theorem retryAfter_le_iff (h : b.Sound) (k : Nat) :
    b.retryAfter ≤ k ↔ 1 ≤ b.tokens + k * b.refillPerSecond := by
  have hpos : 0 < b.capacity := lt_of_lt_of_le one_pos h.one_le
  rw [retryAfter_eq, Nat.ceil_le, div_le_iff₀ hpos, h.fills]
  constructor
  · intro hcovers
    linarith
  · intro hcovers
    linarith

/-- Refilling after time that has not moved back adds its tokens, if it can be counted. -/
theorem tokens_refill (h : b.Sound) {us : Int}
    (hspan : Span.micros? (now.since b.lastRefill) = some us) (hforward : 0 ≤ us) :
    (b.refill now).tokens = min (b.tokens + us / 1000000 * b.refillPerSecond) b.capacity := by
  by_cases hpos : 0 < us
  · rw [refill_of_pos hspan hpos]
  · obtain rfl : us = 0 := by omega
    rw [refill_of_nonpos hspan (le_refl _)]
    simp [h.within]

/-- A call is allowed exactly if the refilled bucket has a token; a rate of a token at least leaves
it one. -/
theorem allowed_call_iff (h : b.Sound) (hrate : 0 < rate) :
    (b.call rate now).1.allowed = true ↔ 1 ≤ (b.refill now).tokens := by
  have hone : (1 : ℚ) ≤ rate := by exact_mod_cast hrate
  unfold call
  rw [allowed_take_iff, Amount.ofInt_eq, (h.refill now).rebase_eq, le_min_iff]
  exact ⟨fun htoken => htoken.1, fun htoken => ⟨htoken, hone⟩⟩

/-! ### Buckets without a token -/

/-- The bucket fills at the rate and has no token at `t`, up to which it has been refilled but for less
than a microsecond. -/
structure Dry (b : Bucket ℚ) (rate : Int) (t : Instant) : Prop where
  sound : b.Sound
  dry : b.tokens < 1
  capacity : b.capacity = rate
  refilled : b.lastRefill ≤ t
  near : t.since b.lastRefill < Span.microsecond

/-- A refill brings the last one to less than a microsecond before now: it is made now, or there was
nothing to count. -/
theorem lastRefill_refill (hlater : b.lastRefill ≤ t) :
    (b.refill t).lastRefill ≤ t ∧ t.since (b.refill t).lastRefill < Span.microsecond := by
  cases hspan : Span.micros? (t.since b.lastRefill) with
  | none =>
    rw [refill_of_none hspan]
    exact ⟨Int.le_refl _, by simp [Instant.since_eq, Span.microsecond]⟩
  | some us =>
    by_cases hpos : 0 < us
    · rw [refill_of_pos hspan hpos]
      exact ⟨Int.le_refl _, by simp [Instant.since_eq, Span.microsecond]⟩
    · rw [refill_of_nonpos hspan (by omega)]
      refine ⟨hlater, ?_⟩
      have hforward : 0 ≤ t.since b.lastRefill := Int.sub_nonneg_of_le hlater
      obtain ⟨-, hbelow⟩ := Span.micros?_bounds hforward hspan
      have hunit : Span.microsecond = 1000 := rfl
      rw [hunit] at hbelow ⊢
      omega

/-- **A call that is refused leaves the bucket without a token**, and is answered with its hint. -/
theorem dry_of_refused (h : b.Sound) (hrate : 0 < rate) (hlater : b.lastRefill ≤ t)
    (hrefused : (b.call rate t).1.allowed = false) :
    (b.call rate t).2.Dry rate t ∧ (b.call rate t).1 = .deny (b.call rate t).2.retryAfter := by
  have hone : (1 : ℚ) ≤ rate := by exact_mod_cast hrate
  have hempty : (b.refill t).tokens < 1 := by
    by_contra htoken
    rw [(allowed_call_iff h hrate).mpr (not_lt.mp htoken)] at hrefused
    cases hrefused
  have hsound := (h.refill t).rebase hone
  have hrebased := (h.refill t).rebase_eq rate
  have hdry : ((b.refill t).rebase rate).tokens < 1 := by
    rw [hrebased]
    exact lt_of_le_of_lt (min_le_left _ _) hempty
  have hlast := lastRefill_refill hlater
  have hcall : b.call rate t =
      (.deny ((b.refill t).rebase rate).retryAfter, (b.refill t).rebase rate) := by
    unfold call
    rw [Amount.ofInt_eq, take_of_lt hdry]
  rw [hcall]
  refine ⟨⟨hsound, hdry, ?_, ?_, ?_⟩, rfl⟩
  · rw [hrebased]
  · rw [hrebased]
    exact hlast.1
  · rw [hrebased]
    exact hlast.2

namespace Dry

variable (h : b.Dry rate t)

include h

/-- The hint is a second at least and a minute at most. -/
theorem retryAfter_bounds : 1 ≤ b.retryAfter ∧ b.retryAfter ≤ 60 := by
  have hnonneg := h.sound.nonneg
  have hone := h.sound.one_le
  have hfills := h.sound.fills
  have hdry := h.dry
  refine ⟨?_, ?_⟩
  · by_contra hnone
    have hzero := (retryAfter_le_iff h.sound 0).mp (by omega)
    rw [Nat.cast_zero, zero_mul, add_zero] at hzero
    linarith
  · rw [retryAfter_le_iff h.sound, hfills]
    push_cast
    linarith

/-- **After so many seconds there is a token exactly if the hint says so.** -/
theorem allowed_iff (hrate : 0 < rate) (k : Nat) :
    (b.call rate (t.plus (k * Span.second))).1.allowed = true ↔ b.retryAfter ≤ k := by
  have hrefilled := h.refilled
  have hnear := h.near
  have hunit : Span.microsecond = 1000 := rfl
  have hsecond : Span.second = 1000000000 := rfl
  rw [Instant.le_iff] at hrefilled
  rw [Instant.since_eq, hunit] at hnear
  -- what has not been counted is less than a microsecond, and stays uncounted
  have hcut : ((t.plus (k * Span.second)).since b.lastRefill).tdiv Span.microsecond =
      k * 1000000 := by
    rw [Instant.since_eq, Instant.nanos_plus, hunit, hsecond,
      Int.tdiv_eq_ediv_of_nonneg (by omega)]
    omega
  rw [allowed_call_iff h.sound hrate]
  by_cases hfits : Signed64.Holds ((k : Int) * 1000000)
  · have hspan : Span.micros? ((t.plus (k * Span.second)).since b.lastRefill) =
        some ((k : Int) * 1000000) := by
      unfold Span.micros?
      rw [hcut]
      exact Signed64.check?_eq_some_iff.mpr ⟨rfl, hfits⟩
    have hseconds : (((k : Int) * 1000000 : Int) : ℚ) / 1000000 = k := by
      push_cast
      exact mul_div_cancel_right₀ _ (by norm_num)
    rw [tokens_refill h.sound hspan (by omega), hseconds, le_min_iff, retryAfter_le_iff h.sound]
    exact ⟨fun htoken => htoken.1, fun htoken => ⟨htoken, h.sound.one_le⟩⟩
  · -- so long a time fills the bucket, and is longer than any hint
    have hspan : Span.micros? ((t.plus (k * Span.second)).since b.lastRefill) = none := by
      unfold Span.micros? Signed64.check?
      rw [hcut, if_neg hfits]
    have hlong : 60 ≤ k := by
      by_contra hshort
      refine hfits ⟨?_, ?_⟩
      · simp only [Signed64.least]
        omega
      · simp only [Signed64.greatest]
        omega
    rw [refill_of_none hspan]
    exact ⟨fun _ => h.retryAfter_bounds.2.trans hlong, fun _ => h.sound.one_le⟩

end Dry

end Bucket

/-! ### The next call -/

namespace Limiter

/-- The limiter has come about by calls and by dropping buckets. -/
def Reached (l : Limiter ℚ) : Prop := ∃ moves, run ∅ moves = l

variable {l : Limiter ℚ} {tenant : String} {rate : Int} {t : Instant}

/-- **A refused call is told when the next one will be allowed**: a second to a minute later, and at
the same rate the tenant's next call is allowed after so many seconds exactly if they are no fewer
than those of the hint, whatever others do in between. -/
theorem readmitted_iff (hreached : l.Reached) (hnamed : tenant ≠ "") (hrate : 0 < rate)
    (hlater : ∀ b, l.bucket? tenant = some b → b.lastRefill ≤ t)
    (hrefused : (l.allow tenant rate t).1.allowed = false) :
    let hint := (l.allow tenant rate t).1.retryAfter
    1 ≤ hint ∧ hint ≤ 60 ∧
      ∀ others : List Move, (∀ m ∈ others, m.tenant ≠ tenant) → ∀ k : Nat,
        ((((l.allow tenant rate t).2.run others).allow tenant rate
          (t.plus (k * Span.second))).1.allowed = true ↔ hint ≤ k) := by
  obtain ⟨moves, rfl⟩ := hreached
  cases hbucket : (run ∅ moves : Limiter ℚ).bucket? tenant with
  | none =>
    rw [(allow_of_absent hnamed hrate hbucket t).1] at hrefused
    cases hrefused
  | some b =>
    have hsound : b.Sound := sound_run sound_empty moves tenant b hbucket
    obtain ⟨hdecision, hleft⟩ := allow_of_present hnamed hrate hbucket t
    rw [hdecision] at hrefused
    obtain ⟨hdry, hdeny⟩ := Bucket.dry_of_refused hsound hrate (hlater b hbucket) hrefused
    obtain ⟨hone, hminute⟩ := hdry.retryAfter_bounds
    have hhint : ((run ∅ moves : Limiter ℚ).allow tenant rate t).1.retryAfter =
        (b.call rate t).2.retryAfter := by
      rw [hdecision, hdeny]
      exact max_eq_left hone
    dsimp only
    rw [hhint]
    refine ⟨hone, hminute, ?_⟩
    intro others hothers k
    have hstays := (bucket?_run_of_ne hothers).trans hleft
    rw [(allow_of_present hnamed hrate hstays _).1]
    exact hdry.allowed_iff hrate k

/-- A tenant that comes back ten seconds after its call has a sixth of a token.  Its rate has been
raised to two, and so it has to wait for twenty-five seconds more; what another tenant does in between
changes nothing. -/
theorem readmitted_iff_early :
    let l : Limiter ℚ := run ∅ [.call "acme" 1 ⟨0⟩]
    let t : Instant := ⟨10 * Span.second⟩
    let next : Limiter ℚ := (l.allow "acme" 2 t).2.run [.call "globex" 9 ⟨0⟩, .forget "globex"]
    l.Reached ∧ "acme" ≠ "" ∧ (∀ b, l.bucket? "acme" = some b → b.lastRefill ≤ t) ∧
      (l.allow "acme" 2 t).1 = ⟨false, 25⟩ ∧
      (next.allow "acme" 2 (t.plus ((25 : Nat) * Span.second))).1.allowed = true ∧
      ¬ (next.allow "acme" 2 (t.plus ((24 : Nat) * Span.second))).1.allowed = true := by
  intro l t next
  have hreached : l.Reached := ⟨_, rfl⟩
  have hlater : ∀ b, l.bucket? "acme" = some b → b.lastRefill ≤ t := by
    intro b hb
    rw [show l.bucket? "acme" = some (.fresh 1 ⟨0⟩) from
      (allow_of_absent (by decide) (by decide) (by decide) _).2] at hb
    obtain rfl := Option.some.inj hb
    decide
  have hdecision : (l.allow "acme" 2 t).1 = ⟨false, 25⟩ := by decide +kernel
  obtain ⟨-, -, hnext⟩ := readmitted_iff hreached (by decide) (by decide) hlater
    (congrArg Decision.allowed hdecision)
  have hothers : ∀ m ∈ ([.call "globex" 9 ⟨0⟩, .forget "globex"] : List Move),
      m.tenant ≠ "acme" := by decide
  rw [hdecision] at hnext
  refine ⟨hreached, by decide, hlater, hdecision, ?_, ?_⟩
  · exact (hnext _ hothers 25).mpr (by decide)
  · exact fun hallowed => absurd ((hnext _ hothers 24).mp hallowed) (by decide)

end Limiter

end Turnstile
