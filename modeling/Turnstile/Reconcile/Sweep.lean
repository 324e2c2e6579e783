/-
The reconciliation sweep.

A sweep makes two passes over the whole ledger.  The first sets every counter that
disagrees with its successful events to their sum; the second rolls every entitlement
whose period has ended and sees to it that the new period has a counter.  Each row takes
several calls to the ledger, and the first that fails ends the sweep; what was written
until then stays, and the next sweep takes up the rest.

A ledger lists rows in an order of its own.  `Listing` says which, and the sweep is the
same whatever it says.
-/
import Turnstile.Rollover
import Turnstile.Service.Procedure

namespace Turnstile

/-- What a sweep did. -/
structure SweepReport where
  countersRepaired : Nat
  periodsRolled : Nat
deriving DecidableEq, Repr

namespace SweepReport

/-- Was there nothing to do? -/
def isClean (r : SweepReport) : Bool := r.countersRepaired = 0 && r.periodsRolled = 0

/-- One counter more has been repaired. -/
def repaired (r : SweepReport) : SweepReport := { r with countersRepaired := r.countersRepaired + 1 }

/-- One period more has been rolled. -/
def rolled (r : SweepReport) : SweepReport := { r with periodsRolled := r.periodsRolled + 1 }

end SweepReport

/-- The orders in which a ledger lists its rows. -/
structure Listing where
  counters : Ledger → List Counter
  expired : Ledger → Instant → List Entitlement

/-- Rows by their keys. -/
def Listing.sorted : Listing := ⟨Ledger.counterRows, Ledger.expired⟩

/-- A sweep: the meter whose counters it opens for new periods, and the order it meets rows in. -/
structure Sweeper where
  meter : String
  listing : Listing

/-- A sweep over the usual meter. -/
def Sweeper.standard : Sweeper := ⟨defaultMeter, .sorted⟩

/-- How a sweep ends. -/
abbrev Swept := Outcome LedgerError SweepReport

/-- A sweep on its way. -/
inductive Sweep
  /-- Nothing has been done. -/
  | listing
  /-- The events of a counter have to be summed; others wait. -/
  | summing (c : Counter) (rest : List Counter) (report : SweepReport)
  /-- The counter has to be set to the sum. -/
  | repairing (c : Counter) (expected : Int) (rest : List Counter) (report : SweepReport)
  /-- All counters are done; the entitlements whose period has ended have to be listed. -/
  | expiring (report : SweepReport)
  /-- An entitlement has to be set to its next period; others wait. -/
  | rolling (tenant : String) (next : Period) (rest : List Entitlement) (now : Instant)
      (report : SweepReport)
  /-- The new period needs its counter. -/
  | ensuring (tenant : String) (next : Period) (rest : List Entitlement) (now : Instant)
      (report : SweepReport)
  /-- Nothing is left to do. -/
  | finished (answer : Swept)

namespace Sweep

/-- The answer, once there is one. -/
def result? : Sweep → Option Swept
  | finished answer => some answer
  | _ => none

/-- The ledger call that the next step makes. -/
def access? : Sweep → Option Access
  | listing => some ⟨.listCounters, ""⟩
  | summing c _ _ => some ⟨.sum, c.tenant⟩
  | repairing c _ _ _ => some ⟨.setUsed, c.tenant⟩
  | expiring _ => some ⟨.listExpired, ""⟩
  | rolling tenant _ _ _ _ => some ⟨.updatePeriod, tenant⟩
  | ensuring tenant _ _ _ _ => some ⟨.ensureCounter, tenant⟩
  | finished _ => none

/-- Turn to the next counter, or to the second pass. -/
def nextCounter (report : SweepReport) : List Counter → Sweep
  | [] => expiring report
  | c :: rest => summing c rest report

/-- Turn to the next entitlement, or end.  A period that cannot be rolled ends the sweep without
an answer. -/
def nextEntitlement (now : Instant) (report : SweepReport) : List Entitlement → Sweep
  | [] => finished (.ok report)
  | e :: rest =>
    match e.period.roll? now with
    | some next => rolling e.tenant next rest now report
    | none => finished .crashed

/-- Sum the events of a counter. -/
def compare (c : Counter) (rest : List Counter) (report : SweepReport) (w : World) : Sweep :=
  let expected := w.ledger.sum c.tenant c.meter c.period
  if expected = c.used then nextCounter report rest else repairing c expected rest report

/-- The next step. -/
def step (sw : Sweeper) (refusal : Option LedgerError) (s : Sweep) (w : World) : Sweep × World :=
  match s, refusal with
  | finished answer, _ => (finished answer, w)
  | _, some e => (finished (.error e), w)
  | listing, none => (nextCounter ⟨0, 0⟩ (sw.listing.counters w.ledger), w)
  | summing c rest report, none => (compare c rest report w, w)
  | repairing c expected rest report, none =>
    (nextCounter report.repaired rest, w.withLedger (w.ledger.setUsed c.key expected))
  | expiring report, none =>
    (nextEntitlement w.now report (sw.listing.expired w.ledger w.now), w)
  | rolling tenant next rest now report, none =>
    (ensuring tenant next rest now report, w.withLedger (w.ledger.setPeriod tenant next))
  | ensuring tenant next rest now report, none =>
    (nextEntitlement now report.rolled rest,
      w.withLedger (w.ledger.ensureCounter tenant sw.meter next))

/-- The pass, and the calls that are left in it at the most. -/
def rank : Sweep → Nat × Nat
  | listing => (3, 0)
  | summing _ rest _ => (2, 2 * rest.length + 2)
  | repairing _ _ rest _ => (2, 2 * rest.length + 1)
  | expiring _ => (1, 0)
  | rolling _ _ rest _ _ => (0, 2 * rest.length + 2)
  | ensuring _ _ rest _ _ => (0, 2 * rest.length + 1)
  | finished _ => (0, 0)

/-- The order of ranks: by pass, then by calls left. -/
abbrev Below : Nat × Nat → Nat × Nat → Prop := Prod.Lex (· < ·) (· < ·)

theorem rank_nextCounter_below (report : SweepReport) (rest : List Counter) {n : Nat}
    (h : 2 * rest.length < n) : Below (nextCounter report rest).rank (2, n) := by
  cases rest with
  | nil => exact .left _ _ (by decide)
  | cons c rest => exact .right _ (by simp only [List.length_cons] at h; omega)

theorem rank_nextEntitlement_below (now : Instant) (report : SweepReport)
    (rest : List Entitlement) {n : Nat} (h : 2 * rest.length < n) :
    Below (nextEntitlement now report rest).rank (0, n) := by
  cases rest with
  | nil => exact .right _ (by omega)
  | cons e rest =>
    simp only [nextEntitlement]
    simp only [List.length_cons] at h
    split
    · exact .right _ (by omega)
    · exact .right _ (by omega)

theorem rank_step_below (sw : Sweeper) (refusal : Option LedgerError) (s : Sweep) (w : World)
    (h : s.result? = none) : Below (s.step sw refusal w).1.rank s.rank := by
  cases s with
  | listing =>
    cases refusal with
    | some e => exact .left _ _ (by decide)
    | none =>
      simp only [step]
      cases sw.listing.counters w.ledger with
      | nil => exact .left _ _ (by decide)
      | cons c rest => exact .left _ _ (by decide)
  | summing c rest report =>
    cases refusal with
    | some e => exact .left _ _ (by decide)
    | none =>
      simp only [step, compare]
      split
      · exact rank_nextCounter_below _ _ (by omega)
      · exact .right _ (by omega)
  | repairing c expected rest report =>
    cases refusal with
    | some e => exact .left _ _ (by decide)
    | none => exact rank_nextCounter_below _ _ (by omega)
  | expiring report =>
    cases refusal with
    | some e => exact .left _ _ (by decide)
    | none =>
      simp only [step]
      cases sw.listing.expired w.ledger w.now with
      | nil => exact .left _ _ (by decide)
      | cons e rest =>
        simp only [nextEntitlement]
        split
        · exact .left _ _ (by decide)
        · exact .left _ _ (by decide)
  | rolling tenant next rest now report =>
    cases refusal with
    | some e => exact .right _ (by omega)
    | none => exact .right _ (by omega)
  | ensuring tenant next rest now report =>
    cases refusal with
    | some e => exact .right _ (by omega)
    | none => exact rank_nextEntitlement_below _ _ _ (by omega)
  | finished => simp [result?] at h

/-- A sweep as a procedure. -/
def procedure (sw : Sweeper) : Procedure Sweep Swept where
  result?
  access?
  step := step sw
  rank
  rank_step refusal s w h := rank_step_below sw refusal s w h

end Sweep

end Turnstile
