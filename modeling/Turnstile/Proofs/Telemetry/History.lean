/-
What an observer makes of a history.

An observer is told of admitted calls, of denials and of resets, for any number of tenants and in
any order.  What it keeps of one tenant is about that tenant since its last reset: how often it
has been denied (`denyCount_after`), and whether it has been warned (`hasWarned_after_iff`).  The
alerts are one counter for all tenants and all times.  Nothing that is kept holds the sum that it
comes to, so the sum is followed from one observation to the next: a denial lengthens the stretch
that its tenant is in, and the quotient of this stretch grows exactly if an alert is raised
(`sum_alertsDue_concat`).
-/
import Mathlib.Algebra.BigOperators.Group.Finset.Piecewise
import Mathlib.Data.List.DropRight
import Mathlib.Data.List.Induction
import Mathlib.Data.Nat.ModEq
import Turnstile.Proofs.Telemetry.Observer

namespace Turnstile

/-! ### Histories -/

/-- Something that an observer is told. -/
inductive Observation
  /-- A call has been admitted. -/
  | allow (tenant : String) (used limit : Int)
  /-- A call has been denied. -/
  | deny (tenant : String) (reason : DenyReason)
  /-- The tenant starts with a clean record. -/
  | reset (tenant : String)
deriving DecidableEq, Repr

namespace Observation

/-- The tenant that an observation is of. -/
def tenant : Observation → String
  | allow tenant _ _ | deny tenant _ | reset tenant => tenant

/-- Is it a denial of the tenant? -/
def denies (tenant : String) : Observation → Bool
  | deny other _ => other = tenant
  | _ => false

/-- Is it a reset of the tenant? -/
def resets (tenant : String) : Observation → Bool
  | reset other => other = tenant
  | _ => false

/-- What has been observed since the last reset of a tenant. -/
def sinceReset (tenant : String) (history : List Observation) : List Observation :=
  history.rtakeWhile fun x => !x.resets tenant

/-- The stretches into which the resets of a tenant cut a history. -/
def stretches (tenant : String) (history : List Observation) : List (List Observation) :=
  history.splitOnP (resets tenant)

/-- How often a tenant is denied. -/
def denials (tenant : String) (history : List Observation) : Nat := history.countP (denies tenant)

/-- The alerts that a tenant is due: in each stretch, one for every so many denials. -/
def alertsDue (every : Nat) (tenant : String) (history : List Observation) : Nat :=
  ((stretches tenant history).map fun stretch => denials tenant stretch / every).sum

/-- The tenants with a name that a history is about. -/
def tenants (history : List Observation) : Finset String :=
  (history.map tenant).toFinset.filter fun tenant => Text.isBlankText tenant = false

/-! ### Stretches -/

variable (tenant : String) (history : List Observation) (x : Observation)

theorem denials_concat :
    denials tenant (history ++ [x]) =
      denials tenant history + if x.denies tenant then 1 else 0 := by
  simp [denials, List.countP_append, List.countP_singleton]

theorem sinceReset_concat :
    sinceReset tenant (history ++ [x]) =
      if x.resets tenant then [] else sinceReset tenant history ++ [x] := by
  unfold sinceReset
  rw [List.rtakeWhile_concat]
  cases x.resets tenant <;> rfl

/-- What follows without a reset lengthens the last stretch, and that is what has been observed
since the last reset. -/
theorem exists_stretches :
    ∃ closed, ∀ more : List Observation, (∀ x ∈ more, x.resets tenant = false) →
      stretches tenant (history ++ more) = closed ++ [sinceReset tenant history ++ more] := by
  induction history using List.reverseRecOn with
  | nil => exact ⟨[], fun more hmore => List.splitOnP_eq_singleton hmore⟩
  | append_singleton history x ih =>
      rw [sinceReset_concat]
      cases hx : x.resets tenant with
      | true =>
        refine ⟨stretches tenant history, fun more hmore => ?_⟩
        unfold stretches
        rw [List.append_assoc, List.singleton_append, List.splitOnP_append_cons _ _ hx,
          List.splitOnP_eq_singleton hmore]
        rfl
      | false =>
        obtain ⟨closed, ih⟩ := ih
        refine ⟨closed, fun more hmore => ?_⟩
        have hlonger : ∀ y ∈ x :: more, y.resets tenant = false := by simpa [hx] using hmore
        simpa using ih (x :: more) hlonger

/-- An observation makes an alert due if it is a denial that completes a number of them. -/
theorem alertsDue_concat (every : Nat) :
    alertsDue every tenant (history ++ [x]) =
      alertsDue every tenant history +
        if x.denies tenant ∧ every ∣ denials tenant (sinceReset tenant history) + 1 then 1
        else 0 := by
  unfold alertsDue
  cases hx : x.resets tenant with
  | true =>
    -- a new stretch begins, and holds no denial yet
    have hcut : stretches tenant (history ++ [x]) = stretches tenant history ++ [[]] := by
      unfold stretches
      rw [List.splitOnP_append_cons _ _ hx, List.splitOnP_nil]
    have hother : x.denies tenant = false := by
      cases x with
      | reset => rfl
      | allow | deny => cases hx
    simp [hcut, hother, denials]
  | false =>
    obtain ⟨closed, hclosed⟩ := exists_stretches tenant history
    have hbefore := hclosed [] (by simp)
    have hafter := hclosed [x] (by simpa using hx)
    rw [List.append_nil, List.append_nil] at hbefore
    rw [hbefore, hafter]
    simp only [List.map_append, List.map_cons, List.map_nil, List.sum_append, List.sum_cons,
      List.sum_nil, Nat.add_zero, denials_concat]
    cases x.denies tenant with
    | true => simp [Nat.succ_div, Nat.add_assoc]
    | false => simp

end Observation

namespace Observer

open Observation

/-- Tell an observer something. -/
def observe (o : Observer) : Observation → Observer
  | .allow tenant used limit => (o.recordAllow tenant used limit).2
  | .deny tenant reason => (o.recordDeny tenant reason).2
  | .reset tenant => o.reset tenant

/-- Tell an observer a history. -/
def after (o : Observer) (history : List Observation) : Observer := history.foldl observe o

variable (o : Observer) (history : List Observation) (x : Observation) (tenant : String)

theorem after_append (more : List Observation) :
    o.after (history ++ more) = (o.after history).after more :=
  List.foldl_append

theorem after_concat : o.after (history ++ [x]) = (o.after history).observe x :=
  List.foldl_concat ..

@[simp] theorem config_new (config : ObserverConfig) : (new config).config = config := rfl

@[simp] theorem config_observe : (o.observe x).config = o.config := by
  cases x <;> simp [observe]

@[simp] theorem config_after : (o.after history).config = o.config := by
  induction history using List.reverseRecOn with
  | nil => rfl
  | append_singleton history x ih => rw [after_concat, config_observe, ih]

/-! ### What is kept of a tenant -/

theorem denyCount_observe (hnamed : Text.isBlankText tenant = false) :
    (o.observe x).denyCount tenant =
      if x.resets tenant then 0 else o.denyCount tenant + if x.denies tenant then 1 else 0 := by
  cases x with
  | allow other used limit => simp [observe, resets, denies]
  | deny other reason =>
    by_cases h : other = tenant
    · subst h
      simp [observe, denyCount_recordDeny, hnamed, resets, denies]
    · simp [observe, denyCount_recordDeny, h, resets, denies]
  | reset other => simp [observe, denyCount_reset, resets, denies]

/-- The count of a tenant with a name is that of its denials since its last reset. -/
theorem denyCount_after (config : ObserverConfig) (hnamed : Text.isBlankText tenant = false) :
    ((new config).after history).denyCount tenant = denials tenant (sinceReset tenant history) := by
  induction history using List.reverseRecOn with
  | nil => simp [after, new, denyCount, sinceReset, denials]
  | append_singleton history x ih =>
      rw [after_concat, denyCount_observe _ _ _ hnamed, sinceReset_concat]
      cases hx : x.resets tenant with
      | true => rfl
      | false => simp [denials_concat, ih]

/-- A tenant is warned by an admitted call of its own that raises the warning, and stays so until
its next reset. -/
theorem hasWarned_observe_iff :
    (o.observe x).hasWarned tenant = true ↔
      o.hasWarned tenant = true ∧ x.resets tenant = false ∨
        ∃ used limit,
          x = .allow tenant used limit ∧ (o.recordAllow tenant used limit).1 = true := by
  cases x with
  | allow other used limit =>
    by_cases h : other = tenant
    · subst h
      cases hwarned : o.hasWarned other <;>
        simp [observe, hasWarned_recordAllow, raised_recordAllow, hwarned, resets]
    · simp [observe, hasWarned_recordAllow, h, resets]
  | deny other reason => simp [observe, resets]
  | reset other => simp [observe, hasWarned_reset, resets, and_comm]

theorem hasWarned_after_of_no_reset (hwarned : o.hasWarned tenant = true)
    (hnone : .reset tenant ∉ history) : (o.after history).hasWarned tenant = true := by
  induction history using List.reverseRecOn with
  | nil => exact hwarned
  | append_singleton history x ih =>
      obtain ⟨hbefore, hlast⟩ : .reset tenant ∉ history ∧ .reset tenant ≠ x := by simpa using hnone
      have hx : x.resets tenant = false := by
        cases x with
        | reset other => simpa [resets, eq_comm] using hlast
        | allow | deny => rfl
      rw [after_concat]
      exact (hasWarned_observe_iff _ x tenant).mpr (.inl ⟨ih hbefore, hx⟩)

/-- A tenant has been warned if an admitted call of its own raised the warning and no reset has come
since. -/
theorem hasWarned_after_iff (config : ObserverConfig) :
    ((new config).after history).hasWarned tenant = true ↔
      ∃ earlier used limit later, history = earlier ++ .allow tenant used limit :: later ∧
        .reset tenant ∉ later ∧
        (((new config).after earlier).recordAllow tenant used limit).1 = true := by
  constructor
  · intro hwarned
    induction history using List.reverseRecOn with
    | nil => simp [after, new, hasWarned] at hwarned
    | append_singleton history x ih =>
        rw [after_concat, hasWarned_observe_iff] at hwarned
        rcases hwarned with ⟨hbefore, hx⟩ | ⟨used, limit, rfl, hraised⟩
        · obtain ⟨earlier, used, limit, later, rfl, hlater, hraised⟩ := ih hbefore
          refine ⟨earlier, used, limit, later ++ [x], by simp, ?_, hraised⟩
          have hlast : .reset tenant ≠ x := by
            rintro rfl
            simp [resets] at hx
          simpa using ⟨hlater, hlast⟩
        · exact ⟨history, used, limit, [], rfl, by simp, hraised⟩
  · rintro ⟨earlier, used, limit, later, rfl, hlater, hraised⟩
    rw [after_append]
    refine hasWarned_after_of_no_reset _ later tenant ?_ hlater
    exact (hasWarned_observe_iff _ _ tenant).mpr (.inr ⟨used, limit, rfl, hraised⟩)

/-! ### Alerts -/

/-- An alert is raised by a denial that completes a number of them. -/
theorem alerts_observe :
    (o.observe x).metrics.alerts =
      o.metrics.alerts +
        if Text.isBlankText x.tenant = false ∧ x.denies x.tenant ∧
          max o.config.alertEvery 1 ∣ o.denyCount x.tenant + 1 then 1 else 0 := by
  show (o.observe x).metrics.value .alerts = o.metrics.value .alerts + _
  cases x with
  | allow other used limit => simp [observe, Metrics.value_add, denies]
  | deny other reason =>
    have hkind : reason.counter ≠ .alerts := by cases reason <;> simp [DenyReason.counter]
    unfold observe
    dsimp only
    rw [metrics_recordDeny]
    split <;> rename_i h <;> simp [Metrics.value_add, hkind, denies, Observation.tenant, h]
  | reset other => simp [observe, denies]

/-- Of the tenants of a set, only the one that is denied can be due another alert. -/
theorem sum_alertsDue_concat (every : Nat) (named : Finset String) :
    ∑ tenant ∈ named, alertsDue every tenant (history ++ [x]) =
      (∑ tenant ∈ named, alertsDue every tenant history) +
        if x.tenant ∈ named ∧ x.denies x.tenant ∧
          every ∣ denials x.tenant (sinceReset x.tenant history) + 1 then 1 else 0 := by
  simp only [alertsDue_concat, Finset.sum_add_distrib]
  congr 1
  have hothers : ∀ other, other ≠ x.tenant → x.denies other = false := by
    intro other hne
    cases x with
    | deny tenant reason => exact decide_eq_false hne.symm
    | allow | reset => rfl
  by_cases hmem : x.tenant ∈ named
  · rw [Finset.sum_eq_single_of_mem x.tenant hmem]
    · simp [hmem]
    · intro other _ hne
      simp [hothers other hne]
  · rw [if_neg fun h => hmem h.1]
    refine Finset.sum_eq_zero fun other hother => ?_
    have hne : other ≠ x.tenant := fun heq => hmem (heq ▸ hother)
    simp [hothers other hne]

/-- **The alerts are those that are due to all tenants with a name**, as a number that wraps, and
they are no more than the observations. -/
theorem alerts_after (config : ObserverConfig) {named : Finset String}
    (hnamed : ∀ tenant ∈ named, Text.isBlankText tenant = false)
    (hall : ∀ x ∈ history, Text.isBlankText x.tenant = false → x.tenant ∈ named) :
    let due := ∑ tenant ∈ named, alertsDue (max config.alertEvery 1) tenant history
    ((new config).after history).metrics.alerts = .ofNat due ∧ due ≤ history.length := by
  induction history using List.reverseRecOn with
  | nil => simp [after, new, Metrics.zero, alertsDue, stretches, denials]
  | append_singleton history x ih =>
      obtain ⟨ihalerts, ihdue⟩ := ih fun y hy => hall y (by simp [hy])
      have hmem : x.tenant ∈ named ↔ Text.isBlankText x.tenant = false :=
        ⟨hnamed x.tenant, hall x (by simp)⟩
      dsimp only
      rw [sum_alertsDue_concat, after_concat, alerts_observe, ihalerts]
      have hdue : (Text.isBlankText x.tenant = false ∧ x.denies x.tenant = true ∧
            max config.alertEvery 1 ∣ ((new config).after history).denyCount x.tenant + 1) ↔
          (x.tenant ∈ named ∧ x.denies x.tenant = true ∧
            max config.alertEvery 1 ∣ denials x.tenant (sinceReset x.tenant history) + 1) := by
        rw [hmem]
        refine and_congr_right fun hblank => ?_
        rw [denyCount_after _ _ _ hblank]
      simp only [config_after, config_new]
      rw [if_congr hdue rfl rfl]
      split
      · exact ⟨by simp, by simpa using ihdue⟩
      · exact ⟨by simp, by simpa using Nat.le_succ_of_le ihdue⟩

/-- **What an observer says of a tenant is what the tenant's history says.**  A denial answers with
the number of denials since the tenant's last reset, itself among them.  An admitted call raises the
warning if it reaches the threshold and no call since the last reset has raised it.  The alerts are
those that all tenants with a name are due, stretch by stretch. -/
theorem told_by_history (config : ObserverConfig) {history : List Observation}
    (hlength : history.length < 2 ^ 64) :
    let o := (new config).after history
    (∀ tenant reason, Text.isBlankText tenant = false →
      (o.recordDeny tenant reason).1 =
        denials tenant (sinceReset tenant (history ++ [.deny tenant reason]))) ∧
    (∀ tenant used limit, (o.recordAllow tenant used limit).1 = true ↔
      config.warnUtilization ≤ utilization used limit ∧
        ∀ earlier before cap later, history = earlier ++ .allow tenant before cap :: later →
          .reset tenant ∉ later →
          (((new config).after earlier).recordAllow tenant before cap).1 = false) ∧
    o.metrics.alerts.toNat =
      ∑ tenant ∈ tenants history, alertsDue (max config.alertEvery 1) tenant history := by
  intro o
  refine ⟨?_, ?_, ?_⟩
  · intro tenant reason hnamed
    rw [count_recordDeny _ _ _ hnamed, ← denyCount_after _ _ config hnamed, after_concat]
    rfl
  · intro tenant used limit
    have hwarned := hasWarned_after_iff history tenant config
    rw [raised_recordAllow, config_after, config_new, Bool.and_eq_true, Bool.not_eq_true',
      ← Bool.not_eq_true, hwarned]
    refine and_congr (by simp [ObserverConfig.reaches]) ?_
    simp only [not_exists, not_and, Bool.not_eq_true]
  · have hnamed : ∀ tenant ∈ tenants history, Text.isBlankText tenant = false :=
      fun tenant htenant => (Finset.mem_filter.mp htenant).2
    have hall : ∀ x ∈ history, Text.isBlankText x.tenant = false → x.tenant ∈ tenants history := by
      intro x hx hx'
      exact Finset.mem_filter.mpr ⟨List.mem_toFinset.mpr (List.mem_map_of_mem hx), hx'⟩
    obtain ⟨halerts, hdue⟩ := alerts_after history config hnamed hall
    rw [halerts, UInt64.toNat_ofNat', Nat.mod_eq_of_lt (by omega)]

/-- Two tenants, one of which is reset between two of its stretches, and a denial of nobody. -/
def twoTenantHistory : List Observation :=
  [.deny "acme" .rateLimited, .allow "acme" 9 10, .deny "globex" .quotaExceeded,
    .deny "acme" .quotaExceeded, .deny "acme" .rateLimited, .reset "acme", .deny " " .missingTenant,
    .deny "acme" .executionFailed, .allow "acme" 1 10, .deny "globex" .rateLimited]

/-- With an alert on every second denial each tenant has had one: the first stretch of the tenant
that was reset holds three denials, and its second has begun with one.  The reset has ended its
warning as well, and no call has raised it since. -/
theorem told_by_history_two_tenants :
    let o := (new ⟨0.8, 2⟩).after twoTenantHistory
    twoTenantHistory.length < 2 ^ 64 ∧ (o.recordDeny "acme" .quotaExceeded).1 = 2 ∧
      (∀ earlier before cap later,
        twoTenantHistory = earlier ++ .allow "acme" before cap :: later → .reset "acme" ∉ later →
        (((new ⟨0.8, 2⟩).after earlier).recordAllow "acme" before cap).1 = false) ∧
      o.metrics.alerts.toNat = 2 := by
  intro o
  have hlength : twoTenantHistory.length < 2 ^ 64 := by decide
  obtain ⟨hdeny, hallow, halerts⟩ := told_by_history ⟨0.8, 2⟩ hlength
  refine ⟨hlength, ?_, ?_, ?_⟩
  · exact (hdeny "acme" .quotaExceeded (by decide)).trans (by decide)
  · have hraised : (o.recordAllow "acme" 8 10).1 = true := by decide +kernel
    exact ((hallow "acme" 8 10).mp hraised).2
  · rw [halerts]
    decide +kernel

end Observer

end Turnstile
