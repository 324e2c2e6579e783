/-
A settlement at once.

Made with nothing in between, a settlement of a tenant that has a name records its event
and, if that was not a duplicate and the call has failed, gives the units back
(`Settlement.atOnce`).
-/
import Turnstile.Proofs.Ledger.Log
import Turnstile.Proofs.Service.Run

namespace Turnstile

namespace Settlement

/-- The ledger after the event of a report has been recorded, and the units of a call that failed
have been given back. -/
def settled (report : Report) (l : Ledger) : Ledger :=
  match report.status with
  | .success => l
  | .failed => (l.release report.counter report.reservation.quantity).2

section settled

variable (report : Report) (l : Ledger)

@[simp] theorem entitlement?_settled (tenant : String) :
    (settled report l).entitlement? tenant = l.entitlement? tenant := by
  unfold settled
  split <;> simp

@[simp] theorem events_settled : (settled report l).events = l.events := by
  unfold settled
  split <;> simp

@[simp] theorem stop?_settled (k : CounterKey) : (settled report l).stop? k = l.stop? k := by
  unfold settled
  split <;> simp

/-- Units are given back on the report's own counter. -/
theorem used_settled_of_ne {k : CounterKey} (h : report.counter ≠ k) :
    (settled report l).used k = l.used k := by
  unfold settled
  split
  · rfl
  · rw [Ledger.used_release, if_neg h]

/-- No more is given back than was reserved. -/
theorem le_used_settled (hpos : 0 ≤ report.reservation.quantity) (k : CounterKey) :
    l.used k - (if report.status = .success then 0 else report.reservation.quantity) ≤
      (settled report l).used k := by
  unfold settled
  cases report.status with
  | success => simp
  | failed =>
    have hle := l.release_amount_le report.counter hpos
    have hnonneg := l.release_amount_nonneg report.counter report.reservation.quantity
    rw [Ledger.used_release]
    simp only [reduceCtorEq, if_false]
    split <;> omega

/-- Nothing is ever added. -/
theorem used_settled_le (k : CounterKey) : (settled report l).used k ≤ l.used k := by
  unfold settled
  split
  · exact Int.le_refl _
  · have hnonneg := l.release_amount_nonneg report.counter report.reservation.quantity
    rw [Ledger.used_release]
    split <;> omega

end settled

/-- A settlement with nothing in between. -/
def atOnce (report : Report) (w : World) : Settled × World :=
  if Text.isBlankText report.reservation.tenant then (.error (.ledger .missingTenant), w)
  else
    match w.ledger.record (report.event (.drawn w.drawn) w.now) with
    | (.duplicate, _) => (.ok .duplicate, { w with drawn := w.drawn + 1 })
    | (.inserted, l) =>
      let w := { w with ledger := settled report l, drawn := w.drawn + 1 }
      (.ok .inserted,
        match report.status with
        | .success => w
        | .failed => w.deny report.reservation.tenant .executionFailed)

theorem finish_closing (scope : Scope) (answer : Settled) (w : World) :
    procedure.finish (.closing scope answer) w = (answer, w.withLedger (scope.drop w.ledger)) := by
  rw [Procedure.finish_of_step rfl]
  exact Procedure.finish_of_result rfl _

theorem finish_committing (scope : Scope) (report : Report) (w : World) :
    procedure.finish (.committing scope report) w =
      (.ok .inserted, (commit scope report w).2) := by
  rw [Procedure.finish_of_step rfl]
  exact Procedure.finish_of_result rfl _

theorem finish_recording {report : Report}
    (hnamed : Text.isBlankText report.reservation.tenant = false) (w : World) :
    procedure.finish (.recording ⟨report.reservation.tenant, []⟩ report) w = atOnce report w := by
  unfold atOnce
  rw [if_neg (by simp [hnamed])]
  cases hrecord : w.ledger.record (report.event (.drawn w.drawn) w.now) with
  | mk outcome l =>
    cases outcome with
    | duplicate =>
      have hl : l = w.ledger := by
        have hsame := Ledger.record_of_duplicate (congrArg Prod.fst hrecord)
        rw [hrecord] at hsame
        exact hsame
      have hstep : procedure.step none (.recording ⟨report.reservation.tenant, []⟩ report) w =
          (.closing ⟨report.reservation.tenant, []⟩ (.ok .duplicate),
            { w with ledger := l, drawn := w.drawn + 1 }) := by
        simp [procedure, step, record, Scope.record, hrecord]
      rw [Procedure.finish_of_step_eq rfl hstep, finish_closing, hl]
      rfl
    | inserted =>
      cases hstatus : report.status with
      | success =>
        have hstep : procedure.step none (.recording ⟨report.reservation.tenant, []⟩ report) w =
            (.committing (Scope.note ⟨report.reservation.tenant, []⟩
                (.event (.drawn w.drawn) (report.event (.drawn w.drawn) w.now).replay)) report,
              { w with ledger := l, drawn := w.drawn + 1 }) := by
          simp [procedure, step, record, Scope.record, hrecord, hstatus]
          rfl
        rw [Procedure.finish_of_step_eq rfl hstep, finish_committing]
        simp [commit, settled, hstatus]
      | failed =>
        have hstep : procedure.step none (.recording ⟨report.reservation.tenant, []⟩ report) w =
            (.releasing (Scope.note ⟨report.reservation.tenant, []⟩
                (.event (.drawn w.drawn) (report.event (.drawn w.drawn) w.now).replay)) report,
              { w with ledger := l, drawn := w.drawn + 1 }) := by
          simp [procedure, step, record, Scope.record, hrecord, hstatus]
          rfl
        have hrelease (scope : Scope) :
            procedure.step none (.releasing scope report)
                { w with ledger := l, drawn := w.drawn + 1 } =
              (.committing (scope.release l report.counter report.reservation.quantity).1 report,
                { w with
                  ledger := (l.release report.counter report.reservation.quantity).2
                  drawn := w.drawn + 1 }) := rfl
        rw [Procedure.finish_of_step_eq rfl hstep, Procedure.finish_of_step_eq rfl (hrelease _),
          finish_committing]
        simp only [commit, settled, hstatus, Scope.release_tenant]
        rfl

/-- **A settlement with nothing in between records, and gives back what has to be given back.** -/
theorem finish_arriving (report : Report) (w : World) :
    procedure.finish (.arriving report) w = atOnce report w := by
  by_cases hblank : Text.isBlankText report.reservation.tenant = true
  · have hstep : procedure.step none (.arriving report) w =
        (.finished (.error (.ledger .missingTenant)), w) := by
      simp [procedure, step, arrive, Scope.begin?, hblank]
    unfold atOnce
    rw [if_pos hblank, Procedure.finish_of_step_eq rfl hstep]
    exact Procedure.finish_of_result rfl _
  · have hnamed : Text.isBlankText report.reservation.tenant = false := by simpa using hblank
    have hstep : procedure.step none (.arriving report) w =
        (.recording ⟨report.reservation.tenant, []⟩ report, w) := by
      simp [procedure, step, arrive, Scope.begin?, hnamed]
    rw [Procedure.finish_of_step_eq rfl hstep]
    exact finish_recording hnamed w

/-! ### What it does to the world -/

@[simp] theorem now_atOnce (report : Report) (w : World) : (atOnce report w).2.now = w.now := by
  unfold atOnce
  split
  · rfl
  · split
    · rfl
    · dsimp only
      split <;> rfl

@[simp] theorem throttle_atOnce (report : Report) (w : World) :
    (atOnce report w).2.throttle = w.throttle := by
  unfold atOnce
  split
  · rfl
  · split
    · rfl
    · dsimp only
      split <;> rfl

/-- A report that is refused or a duplicate leaves the ledger alone. -/
theorem ledger_atOnce_cases (report : Report) (w : World) :
    (atOnce report w).2.ledger = w.ledger ∨
      (w.ledger.record (report.event (.drawn w.drawn) w.now)).1 = .inserted ∧
        (atOnce report w).2.ledger =
          settled report (w.ledger.record (report.event (.drawn w.drawn) w.now)).2 := by
  unfold atOnce
  split
  · exact .inl rfl
  · cases hrecord : w.ledger.record (report.event (.drawn w.drawn) w.now) with
    | mk outcome l =>
      cases outcome with
      | duplicate => exact .inl rfl
      | inserted =>
        refine .inr ⟨rfl, ?_⟩
        cases hstatus : report.status <;> simp [World.deny]

/-- A settlement changes no entitlement. -/
theorem entitlement?_atOnce (report : Report) (w : World) (tenant : String) :
    (atOnce report w).2.ledger.entitlement? tenant = w.ledger.entitlement? tenant := by
  rcases ledger_atOnce_cases report w with heq | ⟨-, heq⟩
  · rw [heq]
  · rw [heq, entitlement?_settled, Ledger.entitlement?_record]

theorem sameTerms_atOnce (report : Report) (w : World) :
    w.ledger.SameTerms (atOnce report w).2.ledger := by
  intro tenant
  unfold Ledger.terms?
  rw [entitlement?_atOnce]

/-- A report whose event is recorded is settled. -/
theorem atOnce_of_inserted (report : Report) (w : World)
    (hnamed : Text.isBlankText report.reservation.tenant = false)
    (hinserted : (w.ledger.record (report.event (.drawn w.drawn) w.now)).1 = .inserted) :
    (atOnce report w).1 = .ok .inserted ∧
      (atOnce report w).2.ledger =
        settled report (w.ledger.record (report.event (.drawn w.drawn) w.now)).2 := by
  unfold atOnce
  rw [if_neg (by simp [hnamed])]
  cases hrecord : w.ledger.record (report.event (.drawn w.drawn) w.now) with
  | mk outcome l =>
    rw [hrecord] at hinserted
    obtain rfl : outcome = .inserted := hinserted
    refine ⟨rfl, ?_⟩
    cases hstatus : report.status <;> simp [World.deny]

/-- A report under an id of its own is settled. -/
theorem atOnce_of_fresh (report : Report) (w : World)
    (hnamed : Text.isBlankText report.reservation.tenant = false)
    (hid : report.replay.isEmpty = false) (hfresh : report.replay ∉ w.ledger.replays) :
    (atOnce report w).1 = .ok .inserted ∧
      (w.ledger.record (report.event (.drawn w.drawn) w.now)).1 = .inserted ∧
      (atOnce report w).2.ledger =
        settled report (w.ledger.record (report.event (.drawn w.drawn) w.now)).2 := by
  have hinserted := Ledger.record_outcome (l := w.ledger)
    (Report.replay_event hid (.drawn w.drawn) w.now)
  rw [if_neg hfresh] at hinserted
  obtain ⟨hanswer, hledger⟩ := atOnce_of_inserted report w hnamed hinserted
  exact ⟨hanswer, hinserted, hledger⟩

end Settlement

/-- A call of the gate on a ledger at hand records, and gives back what has to be given back. -/
theorem Gate.settle_reliable {g : Gate} (h : g.backend = .reliable) (report : Report) :
    g.settle report = ((Settlement.atOnce report g.world).1,
      { g with world := (Settlement.atOnce report g.world).2 }) := by
  unfold settle
  rw [run_reliable h, Settlement.finish_arriving]

end Turnstile
