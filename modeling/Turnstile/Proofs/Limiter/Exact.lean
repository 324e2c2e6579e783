/-
Buckets counted exactly.

The running limiter counts tokens in floats.  Here they are rational numbers, so that nothing is
rounded and what a bucket lets through can be reckoned with.

A bucket is sound (`Bucket.Sound`) if it holds no less than nothing and no more than its capacity,
its capacity is a token at least, and it fills in a minute.  A new bucket is sound and every call
keeps it so, wherever the clock stands.  So all buckets of a limiter are sound, whatever calls have
been made and whichever buckets have been dropped (`Limiter.sound_run`).
-/
import Mathlib.Data.Rat.Floor
import Mathlib.Tactic.FieldSimp
import Mathlib.Tactic.Linarith
import Mathlib.Tactic.NormNum
import Mathlib.Tactic.Positivity
import Turnstile.Limiter.Table

namespace Turnstile

/-- Tokens counted exactly. -/
instance : Amount ℚ where
  ofInt n := n
  add := (· + ·)
  sub := (· - ·)
  mul := (· * ·)
  div := (· / ·)
  atMost a b := decide (a ≤ b)
  same a b := decide (a = b)
  ceiling? x := some ⌈x⌉₊

/-- Of a span that goes forward less than a microsecond is not counted. -/
theorem Span.micros?_bounds {d us : Int} (hforward : 0 ≤ d) (h : micros? d = some us) :
    us * microsecond ≤ d ∧ d < us * microsecond + microsecond := by
  obtain ⟨rfl, -⟩ := Signed64.check?_eq_some_iff.mp h
  have hunit : microsecond = 1000 := rfl
  rw [hunit, Int.tdiv_eq_ediv_of_nonneg hforward]
  omega

@[simp] theorem Amount.ofInt_eq (n : Int) : (Amount.ofInt n : ℚ) = n := rfl

namespace Bucket

variable {b : Bucket ℚ} {now : Instant} {capacity : ℚ} {rate : Int}

/-! ### The parts of a call -/

theorem least_eq (a b : ℚ) : least a b = min a b := by
  simp [least, Amount.atMost, min_def]

theorem refillRate_eq (capacity : ℚ) : refillRate capacity = capacity / 60 := by
  simp [refillRate, Amount.div]

theorem fresh_eq (capacity : ℚ) (now : Instant) :
    fresh capacity now = ⟨capacity - 1, capacity, capacity / 60, now⟩ := by
  simp [fresh, refillRate_eq, Amount.sub]

/-- The time since the last refill adds its tokens, up to the capacity. -/
theorem refill_of_pos {us : Int} (h : Span.micros? (now.since b.lastRefill) = some us)
    (hpos : 0 < us) :
    b.refill now =
      { b with
        tokens := min (b.tokens + us / 1000000 * b.refillPerSecond) b.capacity
        lastRefill := now } := by
  simp [refill, h, hpos, least_eq, Amount.add, Amount.mul, Amount.div]

/-- Time that has not moved forward adds none. -/
theorem refill_of_nonpos {us : Int} (h : Span.micros? (now.since b.lastRefill) = some us)
    (hpos : us ≤ 0) : b.refill now = b := by
  have hnot : ¬ 0 < us := by omega
  simp [refill, h, hnot]

/-- A time too far off fills the bucket. -/
theorem refill_of_none (h : Span.micros? (now.since b.lastRefill) = none) :
    b.refill now = { b with tokens := b.capacity, lastRefill := now } := by
  simp [refill, h]

theorem take_of_le (h : 1 ≤ b.tokens) :
    b.take = (.allow, { b with tokens := b.tokens - 1 }) := by
  simp [take, Amount.atMost, Amount.sub, h]

theorem take_of_lt (h : b.tokens < 1) : b.take = (.deny b.retryAfter, b) := by
  simp [take, Amount.atMost, not_le.mpr h]

/-- A call is allowed exactly if there is a token. -/
theorem allowed_take_iff : b.take.1.allowed = true ↔ 1 ≤ b.tokens := by
  by_cases h : 1 ≤ b.tokens
  · rw [take_of_le h]
    exact ⟨fun _ => h, fun _ => rfl⟩
  · rw [take_of_lt (not_le.mp h)]
    refine ⟨fun hallowed => ?_, fun htoken => absurd htoken h⟩
    simp [Decision.deny] at hallowed

/-! ### Sound buckets -/

/-- The bucket holds no less than nothing and no more than its capacity, which is a token at least,
and it fills in a minute. -/
structure Sound (b : Bucket ℚ) : Prop where
  nonneg : 0 ≤ b.tokens
  within : b.tokens ≤ b.capacity
  one_le : 1 ≤ b.capacity
  fills : b.refillPerSecond = b.capacity / 60

theorem sound_fresh (h : 1 ≤ capacity) (now : Instant) : (fresh capacity now).Sound := by
  rw [fresh_eq]
  exact ⟨by linarith, by linarith, h, rfl⟩

namespace Sound

theorem refillPerSecond_nonneg (h : b.Sound) : 0 ≤ b.refillPerSecond := by
  have hone := h.one_le
  rw [h.fills]
  positivity

theorem refill (h : b.Sound) (now : Instant) : (b.refill now).Sound := by
  have hnonneg := h.nonneg
  have hone := h.one_le
  cases hspan : Span.micros? (now.since b.lastRefill) with
  | none =>
    rw [refill_of_none hspan]
    exact ⟨by linarith, le_refl _, hone, h.fills⟩
  | some us =>
    by_cases hpos : 0 < us
    · have hgain : 0 ≤ (us : ℚ) / 1000000 * b.refillPerSecond :=
        mul_nonneg (by positivity) h.refillPerSecond_nonneg
      rw [refill_of_pos hspan hpos]
      exact ⟨le_min (by linarith) (by linarith), min_le_right _ _, hone, h.fills⟩
    · rw [refill_of_nonpos hspan (by omega)]
      exact h

/-- Another capacity takes the tokens past it, and adds none. -/
theorem rebase_eq (h : b.Sound) (capacity : ℚ) :
    b.rebase capacity = ⟨min b.tokens capacity, capacity, capacity / 60, b.lastRefill⟩ := by
  unfold Bucket.rebase
  rw [refillRate_eq, least_eq]
  by_cases hsame : b.capacity = capacity
  · subst hsame
    cases b
    simp_all [Amount.same, h.within]
  · simp [Amount.same, hsame]

theorem rebase (h : b.Sound) (hone : 1 ≤ capacity) : (b.rebase capacity).Sound := by
  have hnonneg := h.nonneg
  rw [h.rebase_eq]
  exact ⟨le_min hnonneg (by linarith), min_le_right _ _, hone, rfl⟩

theorem take (h : b.Sound) : b.take.2.Sound := by
  by_cases htoken : 1 ≤ b.tokens
  · have hwithin := h.within
    rw [take_of_le htoken]
    exact ⟨by linarith, by linarith, h.one_le, h.fills⟩
  · rw [take_of_lt (not_le.mp htoken)]
    exact h

/-- **A call keeps a bucket sound**, wherever the clock stands. -/
theorem call (h : b.Sound) (hrate : 0 < rate) (now : Instant) : (b.call rate now).2.Sound := by
  have hone : (1 : ℚ) ≤ Amount.ofInt rate := by
    rw [Amount.ofInt_eq]
    exact_mod_cast hrate
  exact ((h.refill now).rebase hone).take

end Sound

end Bucket

/-! ### Moves of a limiter -/

namespace Limiter

/-- What may happen to a limiter. -/
inductive Move
  /-- A tenant calls under a rate, and the clock says when. -/
  | call (tenant : String) (rate : Int) (now : Instant)
  /-- A tenant's bucket is dropped. -/
  | forget (tenant : String)
deriving DecidableEq

/-- The tenant whose bucket it is about. -/
def Move.tenant : Move → String
  | call tenant _ _ => tenant
  | forget tenant => tenant

section moves

variable {α : Type} [Amount α] {l : Limiter α} {tenant : String}

/-- The limiter after a move. -/
def step (l : Limiter α) : Move → Limiter α
  | .call tenant rate now => (l.allow tenant rate now).2
  | .forget tenant => (l.forget tenant).2

/-- The limiter after moves, one after another. -/
def run (l : Limiter α) (moves : List Move) : Limiter α := moves.foldl step l

@[simp] theorem run_nil (l : Limiter α) : l.run [] = l := rfl

@[simp] theorem run_cons (l : Limiter α) (m : Move) (moves : List Move) :
    l.run (m :: moves) = (l.step m).run moves := rfl

theorem run_append (l : Limiter α) (moves rest : List Move) :
    l.run (moves ++ rest) = (l.run moves).run rest :=
  List.foldl_append

/-- A move of another tenant leaves a tenant's bucket alone. -/
theorem bucket?_step_of_ne {m : Move} (h : m.tenant ≠ tenant) :
    (l.step m).bucket? tenant = l.bucket? tenant := by
  cases m with
  | call other rate now => exact l.bucket?_allow_of_ne rate now h
  | forget other =>
    rw [step, bucket?_forget]
    exact if_neg h

theorem bucket?_run_of_ne {moves : List Move} (h : ∀ m ∈ moves, m.tenant ≠ tenant) :
    (l.run moves).bucket? tenant = l.bucket? tenant := by
  induction moves generalizing l with
  | nil => rfl
  | cons m rest ih =>
    rw [run_cons, ih fun m' hm' => h m' (by simp [hm'])]
    exact bucket?_step_of_ne (h m (by simp))

end moves

/-! ### Sound limiters -/

/-- All buckets are sound. -/
def Sound (l : Limiter ℚ) : Prop := ∀ tenant b, l.bucket? tenant = some b → b.Sound

theorem sound_empty : Sound ∅ := by
  intro tenant b h
  simp [bucket?] at h

/-- A call keeps all buckets sound, and makes a sound one. -/
theorem Sound.allow {l : Limiter ℚ} (h : l.Sound) (caller : String) (rate : Int) (now : Instant) :
    (l.allow caller rate now).2.Sound := by
  intro tenant b hb
  by_cases hrefused : rate ≤ 0 ∨ caller = ""
  · rw [allow_of_refused hrefused] at hb
    exact h _ _ hb
  · obtain ⟨hrate, hnamed⟩ := not_or.mp hrefused
    have hpos : 0 < rate := by omega
    by_cases hother : caller = tenant
    · subst hother
      cases hbucket : l.bucket? caller with
      | none =>
        rw [(allow_of_absent hnamed hpos hbucket now).2] at hb
        obtain rfl := Option.some.inj hb
        refine Bucket.sound_fresh ?_ now
        rw [Amount.ofInt_eq]
        exact_mod_cast hpos
      | some b' =>
        rw [(allow_of_present hnamed hpos hbucket now).2] at hb
        obtain rfl := Option.some.inj hb
        exact (h _ _ hbucket).call hpos now
    · rw [l.bucket?_allow_of_ne rate now hother] at hb
      exact h _ _ hb

theorem Sound.step {l : Limiter ℚ} (h : l.Sound) (m : Move) : (l.step m).Sound := by
  cases m with
  | call caller rate now => exact h.allow caller rate now
  | forget other =>
    intro tenant b hb
    rw [Limiter.step, bucket?_forget] at hb
    split at hb
    · cases hb
    · exact h _ _ hb

/-- **The buckets of a limiter are sound**, whatever has happened to it. -/
theorem sound_run {l : Limiter ℚ} (h : l.Sound) (moves : List Move) : (l.run moves).Sound := by
  induction moves generalizing l with
  | nil => exact h
  | cons m rest ih => exact ih (h.step m)

end Limiter

end Turnstile
