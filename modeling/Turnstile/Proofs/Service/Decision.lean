/-
How an admission is decided, and what it leaves.

A call of the gate is answered with the verdict of its checks (`Admission.verdict`).  What it
leaves differs from what it found in two rows at most, the tenant's entitlement and the counter
of the period that counts (`Ledger.SameElsewhere`).  A call that is denied writes to neither,
except that one without units left has its counter opened.
-/
import Turnstile.Proofs.Service.Admission
import Turnstile.Proofs.Telemetry.Observer
import Turnstile.Proofs.Traffic.Basic

namespace Turnstile

/-- The second ledger differs from the first at most in the entitlement of one tenant and in the row
of one counter. -/
structure Ledger.SameElsewhere (tenant : String) (k : CounterKey) (l l' : Ledger) : Prop where
  entitlements : ∀ other, other ≠ tenant → l'.entitlement? other = l.entitlement? other
  rows : ∀ other, other ≠ k → l'.tally? other = l.tally? other
  events : l'.events = l.events
  replays : l'.replays = l.replays

namespace Ledger

theorem sameElsewhere_ensureCounter (l : Ledger) (tenant meter : String) (p : Period) :
    l.SameElsewhere tenant ⟨tenant, meter, p.start⟩ (l.ensureCounter tenant meter p) := by
  refine ⟨fun _ _ => rfl, ?_, rfl, rfl⟩
  intro other hne
  rw [tally?_ensureCounter, if_neg hne.symm]

theorem sameElsewhere_charged (l : Ledger) (tenant meter : String) (p : Period) (cost : Int) :
    l.SameElsewhere tenant ⟨tenant, meter, p.start⟩ (l.charged tenant meter p cost) := by
  unfold charged
  refine ⟨?_, ?_, by simp, by simp⟩
  · intro other hne
    rw [entitlement?_setUsed, entitlement?_setPeriod, if_neg hne.symm, entitlement?_ensureCounter]
  · intro other hne
    rw [tally?_setUsed, if_neg hne.symm, tally?_setPeriod, tally?_ensureCounter, if_neg hne.symm]

theorem tally?_charged_self (l : Ledger) (tenant meter : String) (p : Period) (cost : Int) :
    (l.charged tenant meter p cost).tally? ⟨tenant, meter, p.start⟩ =
      some ⟨p.stop, l.used ⟨tenant, meter, p.start⟩ + cost⟩ := by
  unfold charged
  rw [tally?_setUsed, if_pos rfl, tally?_setPeriod, tally?_ensureCounter_self]
  rfl

end Ledger

/-- A call of another tenant leaves a tenant's bucket alone. -/
theorem Throttle.bucket?_allow_of_ne (t : Throttle) {tenant other : String} (rate : Int)
    (now : Instant) (h : other ≠ tenant) :
    (t.allow other rate now).2.bucket? tenant = t.bucket? tenant := by
  cases t with
  | unlimited => rfl
  | buckets l => exact l.bucket?_allow_of_ne rate now h

namespace Gate

variable {g : Gate} {tenant tool : String}

/-- **An admission is decided by the first check that fails.**  A call that passes them all is
granted its cost in the period that counts, and the ledger then has the period and the cost. -/
theorem authorize_decides (hreliable : g.backend = .reliable) (tenant tool : String) :
    let answer := (g.authorize tenant tool).1
    let after := (g.authorize tenant tool).2.world.ledger
    ((∃ r, answer = .ok r) ↔ ∃ e p, Admission.Welcome g.service tenant tool g.world e p) ∧
      (∀ err, answer = .error err ↔ Admission.Denied g.service tenant tool g.world err) ∧
      (answer = .crashed ↔ Admission.Stranded tenant g.world) ∧
      ∀ e p, Admission.Welcome g.service tenant tool g.world e p →
        let k : CounterKey := ⟨tenant, g.service.meter, p.start⟩
        let cost := g.service.costs.costOf tool
        let usedAfter := g.world.ledger.used k + cost
        answer = .ok ⟨tenant, g.service.meter, p, cost, e.limits.monthlyUnits, usedAfter, e.status⟩ ∧
          g.world.ledger.SameElsewhere tenant k after ∧
          after.entitlement? tenant = some { e with period := p } ∧
          after.tally? k = some ⟨p.stop, usedAfter⟩ := by
  rw [authorize_reliable hreliable]
  refine ⟨Admission.atOnce_eq_ok_iff, fun _ => Admission.atOnce_eq_error_iff,
    Admission.atOnce_eq_crashed_iff, ?_⟩
  intro e p h
  obtain ⟨hanswer, hledger, -⟩ := Admission.atOnce_of_welcome h
  dsimp only
  rw [hledger]
  refine ⟨hanswer, Ledger.sameElsewhere_charged .., ?_, Ledger.tally?_charged_self ..⟩
  exact Ledger.entitlement?_charged _ _ _ _ _ h.stored

/-- The thirty days after the period of the trial. -/
def nextTrial : Period := ⟨⟨30 * Span.day⟩, ⟨60 * Span.day⟩⟩

/-- The trial whose period has ended, where a crawl costs five units.  The counter of the next period
is there already, with a unit on it and an end of its own. -/
def trialGate : Gate where
  service := ⟨⟨1, [("crawl", 5)]⟩, defaultMeter, 7⟩
  sweeper := .standard
  backend := .reliable
  world := { Traffic.lapsedWorld with
    ledger := Traffic.lapsedWorld.ledger.putCounter
      ⟨"acme", defaultMeter, ⟨nextTrial.start, ⟨45 * Span.day⟩⟩, 1⟩
    throttle := .buckets ∅ }

theorem welcome_trialGate : Admission.Welcome trialGate.service "acme" "search" trialGate.world
    Traffic.lapsedTrial nextTrial where
  named := by decide
  stored := by decide
  counts := by decide
  admits := by decide
  allowed := by decide
  room := by decide

/-- A search is admitted in the next period; a crawl is not. -/
theorem authorize_decides_trial :
    let k : CounterKey := ⟨"acme", defaultMeter, nextTrial.start⟩
    let after := (trialGate.authorize "acme" "search").2.world.ledger
    trialGate.backend = .reliable ∧
      (trialGate.authorize "acme" "search").1 =
        .ok ⟨"acme", defaultMeter, nextTrial, 1, 3, 2, .trialing⟩ ∧
      trialGate.world.ledger.SameElsewhere "acme" k after ∧
      after.entitlement? "acme" = some { Traffic.lapsedTrial with period := nextTrial } ∧
      after.tally? k = some ⟨nextTrial.stop, 2⟩ ∧
      (trialGate.authorize "acme" "crawl").1 = .error (.quotaExceeded 3) := by
  obtain ⟨-, -, -, hadmitted⟩ := authorize_decides (g := trialGate) rfl "acme" "search"
  obtain ⟨-, hdenied, -⟩ := authorize_decides (g := trialGate) rfl "acme" "crawl"
  obtain ⟨hanswer, helsewhere, hperiod, hrow⟩ := hadmitted _ _ welcome_trialGate
  refine ⟨rfl, hanswer, helsewhere, hperiod, hrow, (hdenied _).mpr ?_⟩
  exact .exhausted (by decide) welcome_trialGate.stored welcome_trialGate.counts (by decide)
    (by decide) (by decide)

/-- **A denied call changes nothing**, except that a call without units left finds its token taken
and its counter opened, and one that comes too often has been to its bucket. -/
theorem denied_without_trace (hreliable : g.backend = .reliable) {err : ServiceError}
    (h : (g.authorize tenant tool).1 = .error err) :
    let after := (g.authorize tenant tool).2.world
    ((∀ limit, err ≠ .quotaExceeded limit) → after.ledger = g.world.ledger) ∧
      (∀ limit, err = .quotaExceeded limit → ∃ e p,
        let k : CounterKey := ⟨tenant, g.service.meter, p.start⟩
        g.world.ledger.entitlement? tenant = some e ∧ e.period.roll? g.world.now = some p ∧
          g.world.ledger.SameElsewhere tenant k after.ledger ∧
          after.ledger.entitlement? tenant = some e ∧
          after.ledger.tally? k = some ⟨p.stop, g.world.ledger.used k⟩) ∧
      ((∀ n, err ≠ .rateLimited n) → (∀ limit, err ≠ .quotaExceeded limit) →
        after.throttle.bucket? tenant = g.world.throttle.bucket? tenant) ∧
      ∀ other, other ≠ tenant →
        after.throttle.bucket? other = g.world.throttle.bucket? other ∧
          after.observer.denyCount other = g.world.observer.denyCount other ∧
          after.observer.hasWarned other = g.world.observer.hasWarned other := by
  rw [authorize_reliable hreliable] at h ⊢
  obtain ⟨w', reason, hleft, heq⟩ := Admission.atOnce_of_denied (Admission.atOnce_eq_error_iff.mp h)
  rw [heq]
  dsimp only
  refine ⟨?_, ?_, ?_, ?_⟩
  · intro hquota
    cases hleft with
    | untouched => rfl
    | asked => rfl
    | opened => exact absurd rfl (hquota _)
  · rintro limit rfl
    cases hleft with
    | @opened e p hstored hcounts =>
      exact ⟨e, p, hstored, hcounts, Ledger.sameElsewhere_ensureCounter .., hstored,
        Ledger.tally?_ensureCounter_self ..⟩
  · intro hrate hquota
    cases hleft with
    | untouched => rfl
    | asked => exact absurd rfl (hrate _)
    | opened => exact absurd rfl (hquota _)
  · intro other hne
    have hown : ¬(tenant = other ∧ Text.isBlankText tenant = false) := fun hown => hne hown.1.symm
    refine ⟨?_, ?_, ?_⟩
    · cases hleft with
      | untouched => rfl
      | asked => exact Throttle.bucket?_allow_of_ne _ _ _ hne.symm
      | opened => exact Throttle.bucket?_allow_of_ne _ _ _ hne.symm
    · rw [World.deny, Observer.denyCount_recordDeny, if_neg hown]
      cases hleft <;> rfl
    · rw [World.deny, Observer.hasWarned_recordDeny]
      cases hleft <;> rfl

/-- A crawl that is denied leaves the trial in its old period, and the unit on the counter, which now
ends with the next one. -/
theorem denied_without_trace_trial :
    let k : CounterKey := ⟨"acme", defaultMeter, nextTrial.start⟩
    let after := (trialGate.authorize "acme" "crawl").2.world
    trialGate.backend = .reliable ∧
      (trialGate.authorize "acme" "crawl").1 = .error (.quotaExceeded 3) ∧
      trialGate.world.ledger.SameElsewhere "acme" k after.ledger ∧
      after.ledger.entitlement? "acme" = some Traffic.lapsedTrial ∧
      after.ledger.tally? k = some ⟨nextTrial.stop, 1⟩ ∧
      after.observer.denyCount "globex" = trialGate.world.observer.denyCount "globex" := by
  have hanswer : (trialGate.authorize "acme" "crawl").1 = .error (.quotaExceeded 3) := by
    rw [authorize_reliable rfl]
    decide
  obtain ⟨-, hopened, -, hothers⟩ := denied_without_trace rfl hanswer
  obtain ⟨e, p, hstored, hcounts, helsewhere, hkept, hrow⟩ := hopened 3 rfl
  obtain rfl := Option.some.inj (hstored.symm.trans welcome_trialGate.stored)
  obtain rfl := Option.some.inj (hcounts.symm.trans welcome_trialGate.counts)
  exact ⟨rfl, hanswer, helsewhere, hkept, hrow, (hothers "globex" (by decide)).2.1⟩

end Gate

end Turnstile
