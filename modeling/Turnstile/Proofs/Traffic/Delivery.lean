/-
How far a delivery has come.

A delivery has four stages.  It waits until it has tried to record its event; after that
it has been refused, as a duplicate, or it owes the units of a call that failed, or it is
settled.  `Delivery.Advance` says what a step can do: nothing that matters, or move from one
stage to the next with one write to the ledger.  Every statement about deliveries is shown
by cases on it, and no proof looks into the steps again.
-/
import Turnstile.Proofs.Ledger.Log
import Turnstile.Proofs.Traffic.Sound

namespace Turnstile

namespace Delivery

/-- How far a delivery has come. -/
inductive Stage
  /-- Its event has not been recorded. -/
  | waiting
  /-- Its event was there already. -/
  | refused
  /-- Its event is recorded, and the units of the call have to be given back. -/
  | owing
  /-- Its event is recorded, and nothing is left to be given back. -/
  | settled
deriving DecidableEq, Repr

/-- The stage of a delivery. -/
def stage (d : Delivery) : Stage :=
  match d.state with
  | .arriving _ | .recording _ _ => .waiting
  | .releasing _ _ => .owing
  | .committing _ _ | .finished (.ok .inserted) => .settled
  | .closing _ _ | .finished _ => .refused

/-- What a step of a delivery can do to it and to the ledger. -/
inductive Advance (d : Delivery) (l : Ledger) : Delivery → Ledger → Prop
  | still {d' : Delivery} (hreport : d'.report = d.report) (hreturned : d'.returned = d.returned)
      (hstage : d'.stage = d.stage) : Advance d l d' l
  | refused {d' : Delivery} (hreport : d'.report = d.report) (hreturned : d'.returned = d.returned)
      (hstage : d.stage = .waiting) (hstage' : d'.stage = .refused) (id : EventId) (at_ : Instant)
      (hrecord : (l.record (d.report.event id at_)).1 = .duplicate) : Advance d l d' l
  | recorded {d' : Delivery} (hreport : d'.report = d.report) (hreturned : d'.returned = d.returned)
      (hstage : d.stage = .waiting)
      (hstage' : d'.stage = if d.report.status = .failed then .owing else .settled)
      (id : EventId) (at_ : Instant) (hrecord : (l.record (d.report.event id at_)).1 = .inserted) :
      Advance d l d' (l.record (d.report.event id at_)).2
  | released {d' : Delivery} (hreport : d'.report = d.report)
      (hreturned : d'.returned =
        d.returned + (l.release d.report.counter d.report.reservation.quantity).1)
      (hstage : d.stage = .owing) (hfailed : d.report.status = .failed)
      (hstage' : d'.stage = .settled) :
      Advance d l d' (l.release d.report.counter d.report.reservation.quantity).2

theorem Advance.report {d d' : Delivery} {l l' : Ledger} (h : d.Advance l d' l') :
    d'.report = d.report := by
  cases h <;> assumption

/-- A delivery leaves every other replay id alone. -/
theorem Advance.sameLog {d d' : Delivery} {l l' : Ledger} (h : d.Advance l d' l') {r : ReplayId}
    (hnamed : d.report.replay.isEmpty = false) (hne : d.report.replay ≠ r) : l.SameLog r l' := by
  cases h with
  | still | refused => exact .refl r l
  | recorded hreport hreturned hstage hstage' id now =>
    refine .record l ?_
    rw [Report.replay_event hnamed]
    intro heq
    exact hne (Option.some.inj heq)
  | released => exact .release l _ _

/-- **A step of a delivery advances it.** -/
theorem advance_step {d : Delivery} (h : d.Sound) (w : World) :
    d.Advance w.ledger (d.step w).1 (d.step w).2.ledger := by
  obtain ⟨report, state, returned⟩ := d
  obtain ⟨hnamed, -, h⟩ := h
  dsimp only at h hnamed
  cases state with
  | arriving report' =>
    subst h
    have hbegin : Settlement.arrive report' w =
        (.recording ⟨report'.reservation.tenant, []⟩ report', w) := by
      simp [Settlement.arrive, Scope.begin?, hnamed]
    simp only [step, Settlement.step, hbegin]
    exact .still rfl (Int.add_zero _) rfl
  | recording scope report' =>
    obtain ⟨rfl, -⟩ := h
    cases hr : w.ledger.record (report'.event (.drawn w.drawn) w.now) with
    | mk outcome l' =>
      have hfst := congrArg Prod.fst hr
      have hsnd := congrArg Prod.snd hr
      dsimp only at hfst hsnd
      simp only [step, Settlement.step, Settlement.record, Scope.record, hr]
      cases outcome with
      | inserted =>
        rw [← hsnd]
        refine .recorded ?_ ?_ rfl ?_ (.drawn w.drawn) w.now hfst
        · rfl
        · exact Int.add_zero returned
        · dsimp only
          cases report'.status <;> rfl
      | duplicate =>
        rw [Ledger.record_of_duplicate hfst] at hsnd
        rw [← hsnd]
        refine .refused ?_ ?_ rfl rfl (.drawn w.drawn) w.now hfst
        · rfl
        · exact Int.add_zero returned
  | releasing scope report' =>
    obtain ⟨rfl, hfailed⟩ := h
    exact .released rfl rfl rfl hfailed rfl
  | committing scope report' =>
    have hledger : (Settlement.commit scope report' w).2.ledger = w.ledger := by
      unfold Settlement.commit
      cases report'.status <;> rfl
    simp only [step, Settlement.step, hledger]
    exact .still rfl (Int.add_zero _) rfl
  | closing scope answer =>
    obtain ⟨hundo, rfl⟩ := h
    have hledger : scope.drop w.ledger = w.ledger := by rw [Scope.drop, hundo]; rfl
    simp only [step, Settlement.step, World.withLedger, hledger]
    exact .still rfl (Int.add_zero _) rfl
  | finished answer => exact .still rfl (Int.add_zero _) rfl

/-- A settled delivery that has ended has recorded its event. -/
theorem state_of_settled {d : Delivery} (h : d.Sound) (hend : d.state.result?.isSome)
    (hstage : d.stage = .settled) : d.state = .finished (.ok .inserted) := by
  obtain ⟨report, state, returned⟩ := d
  cases state with
  | finished answer =>
    rcases h.2.2 with rfl | rfl
    · rfl
    · simp [stage] at hstage
  | _ => simp [Settlement.result?] at hend

/-- A refused delivery that has ended was a duplicate. -/
theorem state_of_refused {d : Delivery} (h : d.Sound) (hend : d.state.result?.isSome)
    (hstage : d.stage = .refused) : d.state = .finished (.ok .duplicate) := by
  obtain ⟨report, state, returned⟩ := d
  cases state with
  | finished answer =>
    rcases h.2.2 with rfl | rfl
    · simp [stage] at hstage
    · rfl
  | _ => simp [Settlement.result?] at hend

/-- A delivery that has ended no longer waits, and owes nothing. -/
theorem stage_of_ended {d : Delivery} (h : d.Sound) (hend : d.state.result?.isSome) :
    d.stage = .settled ∨ d.stage = .refused := by
  obtain ⟨report, state, returned⟩ := d
  cases state with
  | finished answer =>
    rcases h.2.2 with rfl | rfl
    · exact Or.inl rfl
    · exact Or.inr rfl
  | _ => simp [Settlement.result?] at hend

end Delivery

end Turnstile
