/-
What the observer keeps of a tenant.

The count of denials and the warning of a tenant are written only by what is observed of that
tenant.  There is one equation for each observation and each of the two; the metrics, which
count for all tenants together, play no part in either.  They have an equation of their own for
each observation.  An admitted call is observed at once with the roll that it has made
(`Observer.notice`).
-/
import Turnstile.Telemetry.Observer

namespace Turnstile.Observer

variable (o : Observer) (tenant other : String)

/-! ### Denials -/

@[simp] theorem config_recordDeny (reason : DenyReason) :
    (o.recordDeny tenant reason).2.config = o.config := by
  unfold recordDeny
  dsimp only
  split
  · rfl
  · split <;> rfl

/-- A denial adds to the count of its own tenant, if that has a name. -/
theorem denyCount_recordDeny (reason : DenyReason) :
    (o.recordDeny tenant reason).2.denyCount other =
      if tenant = other ∧ Text.isBlankText tenant = false then o.denyCount other + 1
      else o.denyCount other := by
  have hcount (m : Metrics) :
      denyCount { o with denyCounts := o.denyCounts.insert tenant (o.denyCount tenant + 1)
                         metrics := m } other =
        if tenant = other then o.denyCount other + 1 else o.denyCount other := by
    unfold denyCount
    rw [Std.ExtTreeMap.getElem?_insert]
    by_cases h : tenant = other
    · simp [h]
    · simp [h]
  by_cases hblank : Text.isBlankText tenant = true
  · simp [recordDeny, hblank, denyCount]
  · have hnamed : Text.isBlankText tenant = false := by simpa using hblank
    simp only [recordDeny, hnamed, Bool.false_eq_true, if_false, and_true]
    split
    · exact hcount _
    · exact hcount _

@[simp] theorem hasWarned_recordDeny (reason : DenyReason) :
    (o.recordDeny tenant reason).2.hasWarned other = o.hasWarned other := by
  unfold recordDeny
  dsimp only
  split
  · rfl
  · split <;> rfl

/-- A denial answers with the count that it leaves, if its tenant has a name. -/
theorem count_recordDeny (reason : DenyReason) (hnamed : Text.isBlankText tenant = false) :
    (o.recordDeny tenant reason).1 = (o.recordDeny tenant reason).2.denyCount tenant := by
  rw [denyCount_recordDeny, if_pos ⟨rfl, hnamed⟩]
  simp only [recordDeny, hnamed, Bool.false_eq_true, if_false]
  split <;> rfl

/-- A denial adds to the counter of its kind and to that of all denials, and to the alerts if its
tenant has a name and its count has come to a multiple. -/
theorem metrics_recordDeny (reason : DenyReason) :
    (o.recordDeny tenant reason).2.metrics =
      if Text.isBlankText tenant = false ∧ max o.config.alertEvery 1 ∣ o.denyCount tenant + 1 then
        ((o.metrics.add 1 reason.counter).add 1 .denied).add 1 .alerts
      else (o.metrics.add 1 reason.counter).add 1 .denied := by
  simp only [Nat.dvd_iff_mod_eq_zero]
  unfold recordDeny
  dsimp only
  split
  · next hblank => simp [hblank]
  · next hnamed =>
    simp only [Bool.not_eq_true] at hnamed
    split
    · next hdue => rw [if_pos ⟨hnamed, hdue⟩]
    · next hdue => rw [if_neg fun h => hdue h.2]

/-! ### Admissions -/

variable (used limit : Int)

@[simp] theorem config_recordAllow : (o.recordAllow tenant used limit).2.config = o.config := by
  unfold recordAllow
  dsimp only
  split <;> rfl

@[simp] theorem denyCount_recordAllow :
    (o.recordAllow tenant used limit).2.denyCount other = o.denyCount other := by
  unfold recordAllow
  dsimp only
  split <;> rfl

@[simp] theorem metrics_recordAllow :
    (o.recordAllow tenant used limit).2.metrics = o.metrics.add 1 .allowed := by
  unfold recordAllow
  dsimp only
  split <;> rfl

/-- An admission raises the warning if it reaches the threshold and its tenant has not been
warned. -/
theorem raised_recordAllow :
    (o.recordAllow tenant used limit).1 =
      (o.config.reaches used limit && !o.hasWarned tenant) := by
  unfold recordAllow
  dsimp only
  split
  · next h => exact h.symm
  · next h => exact (Bool.not_eq_true _ ▸ h).symm

/-- An admission that reaches the threshold leaves its tenant warned. -/
theorem hasWarned_recordAllow :
    (o.recordAllow tenant used limit).2.hasWarned other =
      (o.hasWarned other || decide (tenant = other) && o.config.reaches used limit) := by
  unfold recordAllow
  dsimp only
  split
  · next h =>
    obtain ⟨hreaches, -⟩ := Bool.and_eq_true_iff.mp h
    by_cases htenant : tenant = other
    · simp [hasWarned, hreaches, htenant]
    · simp [hasWarned, Std.ExtTreeSet.contains_insert, htenant]
  · next h =>
    by_cases htenant : tenant = other
    · subst htenant
      simp only [Bool.and_eq_true, Bool.not_eq_true', not_and, Bool.not_eq_false] at h
      cases hreaches : o.config.reaches used limit with
      | false => simp [hasWarned]
      | true =>
        have hwarned := h hreaches
        simpa [hasWarned] using hwarned
    · simp [hasWarned, htenant]

/-! ### Resets -/

@[simp] theorem config_reset : (o.reset tenant).config = o.config := rfl

@[simp] theorem metrics_reset : (o.reset tenant).metrics = o.metrics := rfl

theorem denyCount_reset :
    (o.reset tenant).denyCount other = if tenant = other then 0 else o.denyCount other := by
  unfold reset denyCount
  rw [Std.ExtTreeMap.getElem?_erase]
  by_cases h : tenant = other
  · simp [h]
  · simp [h]

theorem hasWarned_reset :
    (o.reset tenant).hasWarned other = (decide (tenant ≠ other) && o.hasWarned other) := by
  unfold reset hasWarned
  rw [Std.ExtTreeSet.contains_erase]
  by_cases h : tenant = other
  · simp [h]
  · simp [h]

/-! ### Admissions that may have rolled the period -/

/-- What is answered to an admitted call, and what is kept of it.  A tenant whose period the call has
rolled starts the new one with a clean record. -/
def notice (o : Observer) (rolled : Bool) (r : Reservation) : Bool × Observer :=
  (if rolled then o.reset r.tenant else o).recordAllow r.tenant r.usedAfter r.monthlyUnits

variable (rolled : Bool) (r : Reservation)

@[simp] theorem config_notice : (o.notice rolled r).2.config = o.config := by
  unfold notice
  split <;> simp

/-- An admitted call raises the warning if it reaches the threshold, and has rolled the period or
finds its tenant without a warning. -/
theorem raised_notice :
    (o.notice rolled r).1 =
      (o.config.reaches r.usedAfter r.monthlyUnits && (rolled || !o.hasWarned r.tenant)) := by
  unfold notice
  rw [raised_recordAllow]
  cases rolled with
  | false => rfl
  | true => simp [hasWarned_reset]

theorem hasWarned_notice :
    (o.notice rolled r).2.hasWarned other =
      if r.tenant = other then
        !rolled && o.hasWarned other || o.config.reaches r.usedAfter r.monthlyUnits
      else o.hasWarned other := by
  unfold notice
  rw [hasWarned_recordAllow]
  cases rolled with
  | false => by_cases h : r.tenant = other <;> simp [h]
  | true => by_cases h : r.tenant = other <;> simp [h, hasWarned_reset]

end Turnstile.Observer
