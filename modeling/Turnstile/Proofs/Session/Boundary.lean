/-
The end of a period.

A period counts up to and including the moment that it ends: an entitlement is rolled when that
moment has passed, and a call that is admitted at the moment itself is charged to the period.  Its
event is in the period only if it occurs before.  So a call that is admitted and reported at one
time leaves count and log in step exactly if its period does not end at that very moment
(`Gate.settled_in_step_iff`), and a sweep takes the units of a call at that moment off again.
-/
import Turnstile.Proofs.Reconcile.Sweep
import Turnstile.Proofs.Service.Decision
import Turnstile.Proofs.Service.Settlement
import Turnstile.Proofs.Session.Overshoot

namespace Turnstile

namespace Ledger

variable {l : Ledger} {tenant meter : String} {p : Period} {cost : Int} {e : Event}

/-- A counter that was in step with the log is in step after a cost has been charged and its event
recorded exactly if the event counts toward the period. -/
theorem used_eq_sum_iff (hstep : l.used ⟨tenant, meter, p.start⟩ = l.sum tenant meter p)
    (hpos : 0 < cost) (hquantity : e.quantity = cost)
    (hins : ((l.charged tenant meter p cost).record e).1 = .inserted) :
    ((l.charged tenant meter p cost).record e).2.used ⟨tenant, meter, p.start⟩ =
      ((l.charged tenant meter p cost).record e).2.sum tenant meter p ↔
        e.counts tenant meter p = true := by
  rw [used_record, used_charged, if_pos rfl, hstep, sum_record hins,
    sum_of_events (events_charged l tenant meter p cost), hquantity]
  constructor
  · intro heq
    by_contra hout
    rw [if_neg hout] at heq
    omega
  · intro hin
    rw [if_pos hin]

end Ledger

/-- The event of a report is recorded if it has no replay id, or one that is not taken. -/
theorem Report.inserted_of_fresh {report : Report} {l : Ledger}
    (hfresh : report.replay.isEmpty = false → report.replay ∉ l.replays) (id : EventId)
    (now : Instant) : (l.record (report.event id now)).1 = .inserted := by
  cases hid : report.replay.isEmpty with
  | false =>
    rw [Ledger.record_outcome (replay_event hid id now), if_neg (hfresh hid)]
  | true =>
    have hnone : (report.event id now).replay = none := by
      simp [event, Event.withReplay, Event.withAudit, hid]
    unfold Ledger.record
    rw [hnone]

/-! ### A call that is admitted and reported at one time -/

namespace Admission

variable {svc : Service} {tenant tool : String} {w : World} {e : Entitlement} {p : Period}

/-- What is recorded of a successful call that is reported at the time of its admission. -/
theorem ledger_settled_of_welcome (h : Welcome svc tenant tool w e p) {report : Report}
    (hadmitted : (atOnce svc tenant tool w).1 = .ok report.reservation)
    (hsuccess : report.status = .success)
    (hfresh : report.replay.isEmpty = false → report.replay ∉ w.ledger.replays) :
    let charged := w.ledger.charged tenant svc.meter p (svc.costs.costOf tool)
    let settled := Settlement.atOnce report (atOnce svc tenant tool w).2
    settled.1 = .ok .inserted ∧ ∃ event : Event, (charged.record event).1 = .inserted ∧
      settled.2.ledger = (charged.record event).2 ∧ event.quantity = svc.costs.costOf tool ∧
      (event.counts tenant svc.meter p = true ↔ p.start ≤ w.now ∧ w.now < p.stop) := by
  intro charged settled
  obtain ⟨hanswer, hledger, -⟩ := atOnce_of_welcome h
  have hreservation := Outcome.ok.inj (hadmitted.symm.trans hanswer)
  have hnamed : Text.isBlankText report.reservation.tenant = false := by
    rw [hreservation]
    exact h.named
  have hreplays : (atOnce svc tenant tool w).2.ledger.replays = w.ledger.replays := by
    rw [hledger]
    exact (Ledger.sameElsewhere_charged ..).replays
  have hinserted := Report.inserted_of_fresh (l := (atOnce svc tenant tool w).2.ledger)
    (hreplays ▸ hfresh) (.drawn (atOnce svc tenant tool w).2.drawn) (atOnce svc tenant tool w).2.now
  obtain ⟨hsettled, hrecorded⟩ := Settlement.atOnce_of_inserted report _ hnamed hinserted
  simp only [Settlement.settled, hsuccess] at hrecorded
  rw [hledger] at hinserted hrecorded
  refine ⟨hsettled, _, hinserted, hrecorded, ?_, ?_⟩
  · rw [Report.quantity_event, hreservation]
    rfl
  · rw [Report.counts_event_iff, hreservation, now_atOnce]
    simp [reservation, hsuccess]

/-- Count and log are in step afterwards exactly if the period does not end at that moment. -/
theorem settled_in_step_iff_of_welcome (h : Welcome svc tenant tool w e p) (hwhole : e.period.Whole)
    (hnow : w.now.Whole) (hlength : e.period.start < e.period.stop)
    (hstarted : e.period.start ≤ w.now)
    (hstep : w.ledger.used ⟨tenant, svc.meter, p.start⟩ = w.ledger.sum tenant svc.meter p)
    {report : Report} (hadmitted : (atOnce svc tenant tool w).1 = .ok report.reservation)
    (hsuccess : report.status = .success)
    (hfresh : report.replay.isEmpty = false → report.replay ∉ w.ledger.replays) :
    let k : CounterKey := ⟨tenant, svc.meter, p.start⟩
    let settled := Settlement.atOnce report (atOnce svc tenant tool w).2
    let l := settled.2.ledger
    settled.1 = .ok .inserted ∧ l.tally? k = some ⟨p.stop, l.used k⟩ ∧
      (l.used k = l.sum tenant svc.meter p ↔ w.now ≠ p.stop) := by
  intro k settled l
  obtain ⟨hsettled, event, hinserted, hrecorded, hquantity, hcounts⟩ :=
    ledger_settled_of_welcome h hadmitted hsuccess hfresh
  have hl : l = _ := hrecorded
  have hstarts := Period.start_le_of_roll? hwhole hnow hlength hstarted h.counts
  have hends := Period.le_stop_of_roll? hwhole hnow h.counts
  refine ⟨hsettled, ?_, ?_⟩
  · have hrow := Ledger.tally?_charged_self w.ledger tenant svc.meter p (svc.costs.costOf tool)
    rw [hl, Ledger.tally?_record, Ledger.used_record, hrow, Ledger.used_of_tally? hrow]
  · rw [hl, Ledger.used_eq_sum_iff hstep (svc.costs.costOf_pos tool) hquantity hinserted, hcounts]
    rw [Instant.le_iff] at hstarts hends
    rw [ne_eq, Instant.ext_iff', Instant.le_iff, Instant.lt_iff]
    omega

end Admission

namespace Gate

variable {g : Gate} {tenant tool : String}

/-- **A call that is admitted and reported at one time leaves count and log in step exactly if its
period does not end at that moment.**  The counter of the period was in step before, or is new.  At
the end of its period the call is charged to the period, its event comes after it, and a sweep takes
the units off again. -/
theorem settled_in_step_iff (hreliable : g.backend = .reliable)
    (hlisting : g.sweeper.listing.Faithful) (hkeyed : g.world.ledger.Keyed) {e : Entitlement}
    (hstored : g.world.ledger.entitlement? tenant = some e) (hwhole : e.period.Whole)
    (hnow : g.world.now.Whole) (hlength : e.period.start < e.period.stop)
    (hstarted : e.period.start ≤ g.world.now) {p : Period}
    (hcounts : e.period.roll? g.world.now = some p)
    (hrow : let k : CounterKey := ⟨tenant, g.service.meter, p.start⟩
      let sum := g.world.ledger.sum tenant g.service.meter p
      g.world.ledger.tally? k = some ⟨p.stop, sum⟩ ∨ g.world.ledger.tally? k = none ∧ sum = 0)
    {report : Report} (hadmitted : (g.authorize tenant tool).1 = .ok report.reservation)
    (hsuccess : report.status = .success)
    (hfresh : report.replay.isEmpty = false → report.replay ∉ g.world.ledger.replays) :
    let k : CounterKey := ⟨tenant, g.service.meter, p.start⟩
    let settled := (g.authorize tenant tool).2.settle report
    let l := settled.2.world.ledger
    settled.1 = .ok .inserted ∧ l.tally? k = some ⟨p.stop, l.used k⟩ ∧
      (l.used k = l.sum tenant g.service.meter p ↔ g.world.now ≠ p.stop) ∧
      (settled.2.sweep.2.world.ledger.used k = l.used k ↔ g.world.now ≠ p.stop) := by
  rw [authorize_reliable hreliable] at hadmitted ⊢
  obtain ⟨e', p', hwelcome⟩ := Admission.atOnce_eq_ok_iff.mp ⟨_, hadmitted⟩
  obtain rfl := Option.some.inj (hwelcome.stored.symm.trans hstored)
  obtain rfl := Option.some.inj (hwelcome.counts.symm.trans hcounts)
  have hstep : g.world.ledger.used ⟨tenant, g.service.meter, p'.start⟩ =
      g.world.ledger.sum tenant g.service.meter p' := by
    rcases hrow with hpresent | ⟨habsent, hsum⟩
    · rw [Ledger.used_of_tally? hpresent]
    · rw [Ledger.used_of_absent habsent, hsum]
  obtain ⟨hsettled, htally, hin⟩ := Admission.settled_in_step_iff_of_welcome hwelcome hwhole hnow
    hlength hstarted hstep hadmitted hsuccess hfresh
  simp only [settle_reliable, sweep_reliable, hreliable]
  refine ⟨hsettled, htally, hin, ?_⟩
  have hsame : g.world.ledger.SameTerms
      (Settlement.atOnce report (Admission.atOnce g.service tenant tool g.world).2).2.ledger :=
    fun other => (Settlement.sameTerms_atOnce report _ other).trans
      (Admission.sameTerms_atOnce g.service tenant tool g.world other)
  have hstop : (Settlement.atOnce report
      (Admission.atOnce g.service tenant tool g.world).2).2.ledger.stop?
        ⟨tenant, g.service.meter, p'.start⟩ = some p'.stop := by
    rw [Ledger.stop?, htally]
    rfl
  rw [← hin, Sweep.used_atOnce hlisting (hkeyed.of_sameTerms hsame) hstop]
  exact eq_comm

/-! ### A tenant with one unit -/

/-- A gate at some time in the first month. -/
def monthGate (now : Instant) : Gate where
  service := .standard
  sweeper := .standard
  backend := .reliable
  world := { Session.oneUnitWorld with now }

/-- The report of a search, the first of the month. -/
def firstSearch : Report where
  reservation := ⟨"acme", defaultMeter, Session.month, 1, 1, 1, .active⟩
  tool := "search"
  replay := "first"
  audit := none
  status := .success

/-- At the end of the month the unit is on the counter and not in the log of the month, and the
sweep takes it off. -/
theorem swept_at_end :
    let g := monthGate Session.month.stop
    let k : CounterKey := ⟨"acme", defaultMeter, Session.month.start⟩
    let settled := (g.authorize "acme" "search").2.settle firstSearch
    g.world.ledger.tally? k = none ∧ g.world.ledger.events = [] ∧
      (g.authorize "acme" "search").1 = .ok firstSearch.reservation ∧
      settled.1 = .ok .inserted ∧
      settled.2.world.ledger.tally? k = some ⟨Session.month.stop, 1⟩ ∧
      settled.2.world.ledger.sum "acme" defaultMeter Session.month = 0 ∧
      settled.2.sweep.1 = .ok ⟨1, 0⟩ ∧
      settled.2.sweep.2.world.ledger.tally? k = some ⟨Session.month.stop, 0⟩ := by
  have hreliable : (monthGate Session.month.stop).backend = .reliable := rfl
  simp only [authorize_reliable, settle_reliable, sweep_reliable, hreliable]
  decide

/-- On the tenth day count and log are in step, and the sweep leaves the unit where it is. -/
theorem settled_in_step_iff_tenth_day :
    let g := monthGate ⟨10 * Span.day⟩
    let k : CounterKey := ⟨"acme", defaultMeter, Session.month.start⟩
    let settled := (g.authorize "acme" "search").2.settle firstSearch
    let l := settled.2.world.ledger
    (g.authorize "acme" "search").1 = .ok firstSearch.reservation ∧ settled.1 = .ok .inserted ∧
      l.tally? k = some ⟨Session.month.stop, l.used k⟩ ∧
      l.used k = l.sum "acme" defaultMeter Session.month ∧
      settled.2.sweep.2.world.ledger.used k = l.used k := by
  intro g k settled l
  have hreliable : g.backend = .reliable := rfl
  have hadmitted : (g.authorize "acme" "search").1 = .ok firstSearch.reservation := by
    rw [authorize_reliable hreliable]
    decide
  have hbefore : g.world.now ≠ Session.month.stop := by decide
  obtain ⟨hsettled, hrow, hin, hswept⟩ := settled_in_step_iff (p := Session.month) hreliable
    Listing.faithful_sorted (Ledger.keyed_empty.putEntitlement Session.oneUnit)
    (by decide : _ = some Session.oneUnit) (by decide) (by decide) (by decide) (by decide)
    (by decide) (.inr (by decide)) hadmitted rfl (by decide)
  exact ⟨hadmitted, hsettled, hrow, hin.mpr hbefore, hswept.mpr hbefore⟩

end Gate

end Turnstile
