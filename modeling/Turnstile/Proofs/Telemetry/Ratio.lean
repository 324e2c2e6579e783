/-
What the allow ratio is a ratio of.

The ratio divides what has been allowed by what has been allowed or denied, and so it should be
the share of the decisions that let a call through.  But a call that was let through and then
failed is in the denominator twice: once since it was allowed, and once more since its failure is
recorded as a denial.  The denominator is the number of decisions and of recorded failures
together (`entries_allowed_add_denied`), and so that of the decisions only as long as nothing
fails (`ratio_of_decisions_iff`).
-/
import Turnstile.Proofs.Telemetry.Answers

namespace Turnstile

/-- The share that a part is of a whole, 0 of nothing. -/
def Metrics.shareOf (part whole : Nat) : Float :=
  if whole = 0 then 0.0 else part.toUInt64.toFloat / whole.toUInt64.toFloat

/-- Is it a decision about the call, and not a breakdown? -/
def Admission.decides : Admitted → Bool
  | .ok _ => true
  | .error e => e.isDenial
  | .crashed => false

namespace Crowd

open Metrics

variable {svc : Service} {t : Crowd}

/-- How many calls have been decided about. -/
def decisions (t : Crowd) : Nat := t.answers Admission.decides

/-- How many calls have been let through. -/
def admitted (t : Crowd) : Nat := t.answers (· matches .ok _)

/-- How many calls there are. -/
def size (t : Crowd) : Nat := t.admissions.length + t.filings.length

theorem le_size (t : Crowd) : t.decisions + t.failures ≤ t.size :=
  Nat.add_le_add List.countP_le_length List.countP_le_length

/-- What is counted as allowed or denied is the decisions and the failures. -/
theorem entries_allowed_add_denied (hrest : t.AtRest) :
    t.entries .allowed + t.entries .denied = t.decisions + t.failures := by
  have hdecisions :
      t.answers (fun answer => Name.allowed.counts (Admission.entryOf answer)) +
          t.answers (fun answer => Name.denied.counts (Admission.entryOf answer)) =
        t.decisions :=
    t.answers_add (by rintro (_ | (_ | _ | _ | _) | _) <;> rfl)
  have hfailures : Name.allowed.counts (some .failedExecutions) = false ∧
      Name.denied.counts (some .failedExecutions) = true := by decide
  rw [entries_of_atRest hrest, entries_of_atRest hrest, hfailures.1, hfailures.2]
  simp only [Bool.false_eq_true, if_false, if_true]
  omega

/-- **The denominator of the allow ratio is the number of decisions exactly as long as no failed
call has been recorded.**  It is the number of decisions and of recorded failures, and the ratio is the
share that the admitted calls are of that. -/
theorem ratio_of_decisions_iff {w : World} (hfresh : w.observer.metrics = .zero)
    {stirs : List Stir} (hrest : ((quiet w).run svc stirs).AtRest)
    (hfew : ((quiet w).run svc stirs).size < 2 ^ 64) :
    let t := (quiet w).run svc stirs
    let m := t.world.observer.metrics
    (m.allowed + m.denied).toNat = t.decisions + t.failures ∧
      ((m.allowed + m.denied).toNat = t.decisions ↔ t.failures = 0) ∧
      m.allowRatio = shareOf t.admitted (t.decisions + t.failures) := by
  intro t m
  have hkept : t.Kept := (kept_quiet hfresh).run stirs
  have hle : t.decisions + t.failures < 2 ^ 64 := Nat.lt_of_le_of_lt t.le_size hfew
  have htotal : m.allowed + m.denied = .ofNat (t.decisions + t.failures) := by
    rw [← entries_allowed_add_denied hrest, UInt64.ofNat_add, ← hkept.metrics .allowed (by decide),
      ← hkept.metrics .denied (by decide)]
    rfl
  have hallowed : m.allowed = .ofNat t.admitted :=
    hkept.value_of_atRest hrest .allowed (by decide) (by rintro (_ | (_ | _ | _ | _) | _) <;> rfl)
  have hnumber : (m.allowed + m.denied).toNat = t.decisions + t.failures := by
    rw [htotal, UInt64.toNat_ofNat', Nat.mod_eq_of_lt hle]
  have hnone : m.allowed + m.denied = 0 ↔ t.decisions + t.failures = 0 := by
    rw [← hnumber, ← UInt64.toNat_inj]
    rfl
  refine ⟨hnumber, by omega, ?_⟩
  unfold Metrics.allowRatio shareOf
  dsimp only
  rw [if_congr hnone rfl rfl, htotal, hallowed]

/-! ### One call that fails -/

/-- A call that is admitted and fails. -/
def failedCall : List Stir :=
  [.arrive "acme" "search"] ++ List.replicate 7 (.admitting 0 none) ++
    [.file ⟨firstUnit, "search", "r", none, .failed⟩] ++ List.replicate 4 (.settling 0 none)

/-- One decision is made, and two are counted. -/
theorem failure_counted_as_decision :
    let t := (quiet Traffic.lapsedWorld).run .standard failedCall
    let m := t.world.observer.metrics
    Traffic.lapsedWorld.observer.metrics = .zero ∧ t.AtRest ∧ t.size < 2 ^ 64 ∧
      t.decisions = 1 ∧ (m.allowed + m.denied).toNat = 2 := by
  intro t m
  exact ⟨rfl, ⟨by decide, by decide⟩, by decide, by decide, by decide⟩

/-- Of three calls that are answered and two reports the denominator counts two decisions and one
failure. -/
theorem ratio_of_decisions_mixedDay :
    let t := (quiet Traffic.lapsedWorld).run .standard mixedDay
    let m := t.world.observer.metrics
    Traffic.lapsedWorld.observer.metrics = .zero ∧ t.AtRest ∧ t.size < 2 ^ 64 ∧
      (m.allowed + m.denied).toNat = 3 ∧ (m.allowed + m.denied).toNat ≠ t.decisions ∧
      m.allowRatio = shareOf 1 3 := by
  intro t m
  have hrest : t.AtRest := ⟨by decide, by decide⟩
  have hfew : t.size < 2 ^ 64 := by decide
  have hadmitted : t.admitted = 1 := by decide
  have hcounted : t.decisions + t.failures = 3 := by decide
  have hfailures : t.failures ≠ 0 := by decide
  obtain ⟨hnumber, hiff, hratio⟩ := ratio_of_decisions_iff (w := Traffic.lapsedWorld) rfl hrest hfew
  exact ⟨rfl, hrest, hfew, hnumber.trans hcounted, mt hiff.mp hfailures,
    hratio.trans (by rw [hadmitted, hcounted])⟩

end Crowd

end Turnstile
