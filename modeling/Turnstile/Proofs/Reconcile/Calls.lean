/-
The calls that a sweep makes.

`Sweep.calls` lists them for a sweep that goes to its end (`Sweep.calls_listing`).  A sweep that
ends with an error has made them up to the first one that was refused (`Sweep.attempt_error`).
-/
import Turnstile.Proofs.Reconcile.Sweep
import Turnstile.Proofs.Service.Attempt

namespace Turnstile.Sweep

variable {sw : Sweeper} {s : Sweep} {w : World}

/-- The calls that are made about a counter. -/
def callsOn (l : Ledger) (c : Counter) : List Access :=
  ⟨.sum, c.tenant⟩ ::
    if l.sum c.tenant c.meter c.period = c.used then [] else [⟨.setUsed, c.tenant⟩]

/-- The calls that are made about a period that has ended. -/
def callsFor (e : Entitlement) : List Access :=
  [⟨.updatePeriod, e.tenant⟩, ⟨.ensureCounter, e.tenant⟩]

/-- The calls of a sweep that can roll every period. -/
def calls (sw : Sweeper) (w : World) : List Access :=
  let counters := sw.listing.counters w.ledger
  let repaired := (repairRows counters ⟨0, 0⟩ w.ledger).2
  ⟨.listCounters, ""⟩ :: counters.flatMap (callsOn w.ledger) ++
    ⟨.listExpired, ""⟩ :: (sw.listing.expired repaired w.now).flatMap callsFor

theorem callsOn_of_events {l l' : Ledger} (h : l'.events = l.events) : callsOn l' = callsOn l := by
  funext c
  unfold callsOn
  rw [Ledger.sum_of_events h]

/-- A counter that agrees with the log is summed. -/
theorem attempt_summing_of_same {c : Counter} {rest : List Counter} {report : SweepReport}
    (hsame : w.ledger.sum c.tenant c.meter c.period = c.used) :
    (procedure sw).attempt [] (.summing c rest report) w =
      Procedure.after [⟨.sum, c.tenant⟩]
        ((procedure sw).attempt [] (nextCounter report rest) w) := by
  have hcall := Procedure.attempt_nil_of_call (p := procedure sw) (s := .summing c rest report)
    rfl rfl w
  rwa [step_summing_of_same hsame] at hcall

/-- A counter that does not is summed and set. -/
theorem attempt_summing_of_stray {c : Counter} {rest : List Counter} {report : SweepReport}
    (hstray : w.ledger.sum c.tenant c.meter c.period ≠ c.used) :
    (procedure sw).attempt [] (.summing c rest report) w =
      Procedure.after [⟨.sum, c.tenant⟩, ⟨.setUsed, c.tenant⟩]
        ((procedure sw).attempt [] (nextCounter report.repaired rest)
          (w.withLedger (w.ledger.setUsed c.key (w.ledger.sum c.tenant c.meter c.period)))) := by
  have hsum := Procedure.attempt_nil_of_call (p := procedure sw) (s := .summing c rest report)
    rfl rfl w
  have hset := Procedure.attempt_nil_of_call (p := procedure sw)
    (s := .repairing c (w.ledger.sum c.tenant c.meter c.period) rest report) rfl rfl w
  rw [step_summing_of_stray hstray, hset] at hsum
  exact hsum

/-- The calls of the first pass. -/
theorem attempt_nextCounter (rest : List Counter) (report : SweepReport) (w : World) :
    (procedure sw).attempt [] (nextCounter report rest) w =
      Procedure.after (rest.flatMap (callsOn w.ledger))
        ((procedure sw).attempt [] (.expiring (repairRows rest report w.ledger).1)
          (w.withLedger (repairRows rest report w.ledger).2)) := by
  induction rest generalizing report w with
  | nil => rfl
  | cons c rest ih =>
    have hnext : nextCounter report (c :: rest) = .summing c rest report := rfl
    rw [hnext, List.flatMap_cons, ← Procedure.after_after]
    unfold repairRows
    dsimp only
    by_cases hsame : w.ledger.sum c.tenant c.meter c.period = c.used
    · rw [attempt_summing_of_same hsame, ih, callsOn, if_pos hsame, if_pos hsame]
    · -- what is set does not change what is called about the others
      have hcalls : callsOn
          (w.ledger.setUsed c.key (w.ledger.sum c.tenant c.meter c.period)) = callsOn w.ledger :=
        callsOn_of_events (Ledger.events_setUsed ..)
      rw [attempt_summing_of_stray hsame, ih, callsOn, if_neg hsame, if_neg hsame]
      dsimp only [World.withLedger]
      rw [hcalls]

/-- The calls of the second pass. -/
theorem calls_nextEntitlement {now : Instant} {rest : List Entitlement}
    (hrolls : ∀ e ∈ rest, ∃ p, e.period.roll? now = some p) (report : SweepReport) (w : World) :
    ((procedure sw).attempt [] (nextEntitlement now report rest) w).2.1 =
      rest.flatMap callsFor := by
  induction rest generalizing report w with
  | nil =>
    have hdone : (procedure sw).result? (nextEntitlement now report []) = some (.ok report) := rfl
    rw [Procedure.attempt_of_result hdone]
    rfl
  | cons e rest ih =>
    obtain ⟨next, hnext⟩ := hrolls e (by simp)
    have hroll := Procedure.attempt_nil_of_call (p := procedure sw)
      (s := .rolling e.tenant next rest now report) rfl rfl w
    have hopen := Procedure.attempt_nil_of_call (p := procedure sw)
      (s := .ensuring e.tenant next rest now report) rfl rfl
      (w.withLedger (w.ledger.setPeriod e.tenant next))
    have hrest := ih (fun e' he' => hrolls e' (by simp [he'])) report.rolled
      ((w.withLedger (w.ledger.setPeriod e.tenant next)).withLedger
        ((w.ledger.setPeriod e.tenant next).ensureCounter e.tenant sw.meter next))
    rw [nextEntitlement_of_rolls hnext, hroll, List.flatMap_cons, ← hrest]
    exact congrArg (fun r => (Procedure.after [⟨.updatePeriod, e.tenant⟩] r).2.1) hopen

/-- **A sweep lists the counters and sums each, sets those that disagree, lists the periods that
have ended, and rolls each and opens its counter.** -/
theorem calls_listing (hlisting : sw.listing.Faithful)
    (hrolls : ∀ e ∈ w.ledger.expired w.now, ∃ p, e.period.roll? w.now = some p) :
    ((procedure sw).attempt [] .listing w).2.1 = calls sw w := by
  have hlist := Procedure.attempt_nil_of_call (p := procedure sw) (s := .listing) rfl rfl w
  have hnext : (procedure sw).step none .listing w =
      (nextCounter ⟨0, 0⟩ (sw.listing.counters w.ledger), w) := rfl
  have hfirst : w.ledger.Recounting []
      (repairRows (sw.listing.counters w.ledger) ⟨0, 0⟩ w.ledger).2 :=
    Sweep.recounting_repairRows (Ledger.recounting_start (hlisting.counters w.ledger)) _
  have hexpired := hlisting.expired
    (repairRows (sw.listing.counters w.ledger) ⟨0, 0⟩ w.ledger).2 w.now
  rw [Ledger.expired_of_entitlements hfirst.entitlements] at hexpired
  rw [hlist, hnext, attempt_nextCounter]
  generalize hrows : repairRows (sw.listing.counters w.ledger) ⟨0, 0⟩ w.ledger = rows at hexpired
  have hexpire := Procedure.attempt_nil_of_call (p := procedure sw) (s := .expiring rows.1) rfl rfl
    (w.withLedger rows.2)
  have hsecond := @calls_nextEntitlement sw _ _
    (fun e he => hrolls e (hexpired.mem_iff.mp he)) rows.1 (w.withLedger rows.2)
  unfold calls
  dsimp only
  rw [hexpire, hrows, ← hsecond]
  rfl

/-! ### Calls that are refused -/

/-- A step that is refused ends a sweep where it is. -/
theorem attempt_of_refused (hgoing : (procedure sw).result? s = none) (err : LedgerError)
    (refusals : List (Option LedgerError)) (w : World) :
    (procedure sw).attempt refusals ((procedure sw).step (some err) s w).1
      ((procedure sw).step (some err) s w).2 = (.error err, [], w) := by
  have hended : (procedure sw).step (some err) s w = (.finished (.error err), w) := by
    cases s with
    | finished => cases hgoing
    | _ => rfl
  rw [hended]
  exact Procedure.attempt_of_result rfl refusals w

/-- A step that is not refused does not end a sweep with an error. -/
theorem step_ne_error {err : LedgerError} (sw : Sweeper) (w : World)
    (hs : s ≠ .finished (.error err)) : (s.step sw none w).1 ≠ .finished (.error err) := by
  have hcounter : ∀ (report : SweepReport) (rest : List Counter),
      nextCounter report rest ≠ .finished (.error err) := by
    intro report rest
    cases rest <;> simp [nextCounter]
  have hentitlement : ∀ (now : Instant) (report : SweepReport) (rest : List Entitlement),
      nextEntitlement now report rest ≠ .finished (.error err) := by
    intro now report rest
    cases rest with
    | nil => simp [nextEntitlement]
    | cons e rest =>
      simp only [nextEntitlement]
      split <;> simp
  cases s with
  | listing => exact hcounter _ _
  | summing c rest report =>
    simp only [step, compare]
    split
    · exact hcounter _ _
    · simp
  | repairing => exact hcounter _ _
  | expiring => exact hentitlement _ _ _
  | rolling => simp [step]
  | ensuring => exact hentitlement _ _ _
  | finished => exact hs

/-- An attempt that ends with an error has come to the first call that is refused, and whatever more
is said of later calls does not matter. -/
theorem attempt_error {refusals : List (Option LedgerError)} {err : LedgerError} {s : Sweep}
    {w : World} (hs : s ≠ .finished (.error err))
    (h : ((procedure sw).attempt refusals s w).1 = .error err) :
    ∃ n a, ((procedure sw).attempt [] s w).2.1[n]? = some a ∧
      (procedure sw).attempt refusals s w =
        (procedure sw).attempt (List.replicate n none ++ [some err]) s w := by
  cases hresult : (procedure sw).result? s with
  | some answer =>
    rw [Procedure.attempt_of_result hresult] at h
    cases s with
    | finished answer' =>
      obtain rfl := Option.some.inj hresult
      exact absurd (congrArg finished h) hs
    | _ => cases hresult
  | none =>
    obtain ⟨a, hcall⟩ : ∃ a, (procedure sw).access? s = some a := by
      cases s with
      | finished => cases hresult
      | _ => exact ⟨_, rfl⟩
    have hstep := Procedure.attempt_of_call hresult hcall refusals w
    cases hhead : refusals.head?.join with
    | some e =>
      rw [hhead, attempt_of_refused hresult] at hstep
      rw [hstep] at h
      obtain rfl : e = err := by cases h; rfl
      refine ⟨0, a, ?_, ?_⟩
      · rw [Procedure.attempt_nil_of_call hresult hcall]
        rfl
      · rw [hstep, List.replicate_zero, List.nil_append,
          Procedure.attempt_cons_of_call hresult hcall, attempt_of_refused hresult]
    | none =>
      rw [hhead] at hstep
      rw [hstep] at h
      have hnext : ((procedure sw).step none s w).1 ≠ .finished (.error err) :=
        step_ne_error sw w hs
      obtain ⟨n, b, hb, hsame⟩ := attempt_error hnext h
      refine ⟨n + 1, b, ?_, ?_⟩
      · rw [Procedure.attempt_nil_of_call hresult hcall]
        exact hb
      · rw [hstep, hsame, List.replicate_succ, List.cons_append,
          Procedure.attempt_cons_of_call hresult hcall]
termination_by (procedure sw).rank s
decreasing_by exact (procedure sw).rank_step none s w hresult

end Turnstile.Sweep
