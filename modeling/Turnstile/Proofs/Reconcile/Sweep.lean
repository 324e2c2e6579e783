/-
A sweep at once.

Made with nothing in between, a sweep is its two passes over the rows that are listed
(`Sweep.atOnce`).  While the first pass goes on, every row either has been recounted from
the log or still waits with the count it was listed with (`Ledger.Recounting`), so when
nothing waits any more all rows are recounted.  The second pass leaves the counts alone
(`Ledger.Rolled`).

Both hold in whatever order a ledger lists its rows, as long as it lists what is there
(`Listing.Faithful`).
-/
import Turnstile.Proofs.Ledger.Log
import Turnstile.Proofs.Rollover
import Turnstile.Proofs.Service.Run

namespace Turnstile

/-- Whatever the order, the rows that are listed are the rows that there are. -/
structure Listing.Faithful (li : Listing) : Prop where
  counters : ∀ l, (li.counters l).Perm l.counterRows
  expired : ∀ l now, (li.expired l now).Perm (l.expired now)

theorem Listing.faithful_sorted : Listing.sorted.Faithful := ⟨fun _ => .refl _, fun _ _ => .refl _⟩

namespace Sweep

variable {sw : Sweeper}

/-! ### The two passes -/

/-- The first pass over the counters that are left. -/
def repairRows : List Counter → SweepReport → Ledger → SweepReport × Ledger
  | [], report, l => (report, l)
  | c :: rest, report, l =>
    let expected := l.sum c.tenant c.meter c.period
    if expected = c.used then repairRows rest report l
    else repairRows rest report.repaired (l.setUsed c.key expected)

/-- The second pass over the entitlements that are left. -/
def rollRows (sw : Sweeper) (now : Instant) :
    List Entitlement → SweepReport → Ledger → Swept × Ledger
  | [], report, l => (.ok report, l)
  | e :: rest, report, l =>
    match e.period.roll? now with
    | some next =>
      rollRows sw now rest report.rolled
        ((l.setPeriod e.tenant next).ensureCounter e.tenant sw.meter next)
    | none => (.crashed, l)

/-- A sweep with nothing in between. -/
def atOnce (sw : Sweeper) (w : World) : Swept × World :=
  let (report, repaired) := repairRows (sw.listing.counters w.ledger) ⟨0, 0⟩ w.ledger
  let (answer, rolled) := rollRows sw w.now (sw.listing.expired repaired w.now) report repaired
  (answer, w.withLedger rolled)

/-- A counter that agrees with the log is left alone. -/
theorem step_summing_of_same {c : Counter} {rest : List Counter} {report : SweepReport} {w : World}
    (h : w.ledger.sum c.tenant c.meter c.period = c.used) :
    (procedure sw).step none (.summing c rest report) w = (nextCounter report rest, w) := by
  simp [procedure, step, compare, h]

/-- A counter that does not is about to be set. -/
theorem step_summing_of_stray {c : Counter} {rest : List Counter} {report : SweepReport}
    {w : World} (h : w.ledger.sum c.tenant c.meter c.period ≠ c.used) :
    (procedure sw).step none (.summing c rest report) w =
      (.repairing c (w.ledger.sum c.tenant c.meter c.period) rest report, w) := by
  simp [procedure, step, compare, h]

theorem nextEntitlement_of_rolls {e : Entitlement} {now : Instant} {next : Period}
    (h : e.period.roll? now = some next) (report : SweepReport) (rest : List Entitlement) :
    nextEntitlement now report (e :: rest) = .rolling e.tenant next rest now report := by
  simp [nextEntitlement, h]

theorem nextEntitlement_of_stuck {e : Entitlement} {now : Instant} (h : e.period.roll? now = none)
    (report : SweepReport) (rest : List Entitlement) :
    nextEntitlement now report (e :: rest) = .finished .crashed := by
  simp [nextEntitlement, h]

theorem finish_nextCounter (rest : List Counter) (report : SweepReport) (w : World) :
    (procedure sw).finish (nextCounter report rest) w =
      (procedure sw).finish (.expiring (repairRows rest report w.ledger).1)
        (w.withLedger (repairRows rest report w.ledger).2) := by
  induction rest generalizing report w with
  | nil => rfl
  | cons c rest ih =>
      by_cases hsame : w.ledger.sum c.tenant c.meter c.period = c.used
      · have hrows : repairRows (c :: rest) report w.ledger = repairRows rest report w.ledger := by
          simp [repairRows, hsame]
        rw [hrows]
        exact (Procedure.finish_of_step_eq rfl (step_summing_of_same hsame)).trans (ih report w)
      · have hset : (procedure sw).step none
            (.repairing c (w.ledger.sum c.tenant c.meter c.period) rest report) w =
              (nextCounter report.repaired rest, w.withLedger
                (w.ledger.setUsed c.key (w.ledger.sum c.tenant c.meter c.period))) := rfl
        have hrows : repairRows (c :: rest) report w.ledger =
            repairRows rest report.repaired
              (w.ledger.setUsed c.key (w.ledger.sum c.tenant c.meter c.period)) := by
          simp [repairRows, hsame]
        rw [hrows]
        refine (Procedure.finish_of_step_eq rfl (step_summing_of_stray hsame)).trans ?_
        exact (Procedure.finish_of_step_eq rfl hset).trans (ih report.repaired _)

theorem finish_nextEntitlement (now : Instant) (rest : List Entitlement) (report : SweepReport)
    (w : World) :
    (procedure sw).finish (nextEntitlement now report rest) w =
      ((rollRows sw now rest report w.ledger).1,
        w.withLedger (rollRows sw now rest report w.ledger).2) := by
  induction rest generalizing report w with
  | nil => exact Procedure.finish_of_result rfl w
  | cons e rest ih =>
      cases hroll : e.period.roll? now with
      | none =>
        have hrows : rollRows sw now (e :: rest) report w.ledger = (.crashed, w.ledger) := by
          simp [rollRows, hroll]
        rw [nextEntitlement_of_stuck hroll, hrows]
        exact Procedure.finish_of_result rfl w
      | some next =>
        have hmove : (procedure sw).step none (.rolling e.tenant next rest now report) w =
            (.ensuring e.tenant next rest now report,
              w.withLedger (w.ledger.setPeriod e.tenant next)) := rfl
        have hensure (w : World) :
            (procedure sw).step none (.ensuring e.tenant next rest now report) w =
              (nextEntitlement now report.rolled rest,
                w.withLedger (w.ledger.ensureCounter e.tenant sw.meter next)) := rfl
        have hrows : rollRows sw now (e :: rest) report w.ledger =
            rollRows sw now rest report.rolled
              ((w.ledger.setPeriod e.tenant next).ensureCounter e.tenant sw.meter next) := by
          simp [rollRows, hroll]
        rw [nextEntitlement_of_rolls hroll, hrows, Procedure.finish_of_step_eq rfl hmove,
          Procedure.finish_of_step_eq rfl (hensure _), ih]
        rfl

/-- **A sweep with nothing in between is its two passes.** -/
theorem finish_listing (sw : Sweeper) (w : World) :
    (procedure sw).finish .listing w = atOnce sw w := by
  have hlist : (procedure sw).step none .listing w =
      (nextCounter ⟨0, 0⟩ (sw.listing.counters w.ledger), w) := rfl
  have hexpire (report : SweepReport) (w : World) :
      (procedure sw).step none (.expiring report) w =
        (nextEntitlement w.now report (sw.listing.expired w.ledger w.now), w) := rfl
  rw [Procedure.finish_of_step_eq rfl hlist, finish_nextCounter,
    Procedure.finish_of_step_eq rfl (hexpire _ _), finish_nextEntitlement]
  rfl

end Sweep

/-! ### What the first pass does -/

namespace Ledger

/-- What has ended is a matter of the entitlements. -/
theorem expired_of_entitlements {l l' : Ledger} (h : l'.entitlements = l.entitlements)
    (now : Instant) : l'.expired now = l.expired now := by
  unfold expired
  rw [h]

/-- A row with its count taken from the log. -/
def recounted (l : Ledger) (k : CounterKey) (row : Tally) : Tally :=
  { row with used := l.sum k.tenant k.meter ⟨k.start, row.stop⟩ }

/-- The first pass on its way from `l₀`, with `rest` waiting: a row has been recounted, or it is as
it was and its counter waits. -/
structure Recounting (l₀ : Ledger) (rest : List Counter) (l : Ledger) : Prop where
  entitlements : l.entitlements = l₀.entitlements
  events : l.events = l₀.events
  replays : l.replays = l₀.replays
  listed : ∀ c ∈ rest, c ∈ l₀.counterRows
  rows : ∀ k, l.tally? k = (l₀.tally? k).map (l₀.recounted k) ∨
    l.tally? k = l₀.tally? k ∧ ∃ c ∈ rest, c.key = k

theorem recounting_start {l₀ : Ledger} {rest : List Counter} (h : rest.Perm l₀.counterRows) :
    Recounting l₀ rest l₀ := by
  refine ⟨rfl, rfl, rfl, fun c hc => h.mem_iff.mp hc, ?_⟩
  intro k
  cases hrow : l₀.tally? k with
  | none => exact .inl rfl
  | some row =>
    have hlisted : Counter.ofRow (k, row) ∈ l₀.counterRows := mem_counterRows.mpr hrow
    exact .inr ⟨rfl, _, h.mem_iff.mpr hlisted, rfl⟩

/-- When nothing waits, every row has been recounted. -/
theorem Recounting.done {l₀ l : Ledger} (h : Recounting l₀ [] l) (k : CounterKey) :
    l.tally? k = (l₀.tally? k).map (l₀.recounted k) := by
  rcases h.rows k with hdone | ⟨-, c, hc, -⟩
  · exact hdone
  · exact absurd hc (by simp)

/-- The row of a counter that is listed. -/
theorem Recounting.head {l₀ l : Ledger} {c : Counter} {rest : List Counter}
    (h : Recounting l₀ (c :: rest) l) :
    l₀.tally? c.key = some ⟨c.period.stop, c.used⟩ ∧
      (l₀.tally? c.key).map (l₀.recounted c.key) =
        some ⟨c.period.stop, l.sum c.tenant c.meter c.period⟩ := by
  have hrow := mem_counterRows.mp (h.listed c (by simp))
  refine ⟨hrow, ?_⟩
  rw [hrow, sum_of_events h.events]
  rfl

/-- A counter that agrees with the log is passed over. -/
theorem Recounting.pass {l₀ l : Ledger} {c : Counter} {rest : List Counter}
    (h : Recounting l₀ (c :: rest) l) (hsame : l.sum c.tenant c.meter c.period = c.used) :
    Recounting l₀ rest l := by
  refine ⟨h.entitlements, h.events, h.replays, fun d hd => h.listed d (by simp [hd]), ?_⟩
  intro k
  rcases h.rows k with hdone | ⟨hold, d, hd, hk⟩
  · exact .inl hdone
  · rcases List.mem_cons.mp hd with rfl | hd
    · obtain ⟨hrow, hcount⟩ := h.head
      subst hk
      rw [hsame, ← hrow] at hcount
      exact .inl (hold.trans hcount.symm)
    · exact .inr ⟨hold, d, hd, hk⟩

/-- A counter that does not is set to the sum. -/
theorem Recounting.repair {l₀ l : Ledger} {c : Counter} {rest : List Counter}
    (h : Recounting l₀ (c :: rest) l) :
    Recounting l₀ rest (l.setUsed c.key (l.sum c.tenant c.meter c.period)) := by
  refine ⟨by simp [h.entitlements], by simp [h.events], by simp [h.replays],
    fun d hd => h.listed d (by simp [hd]), ?_⟩
  intro k
  rw [tally?_setUsed]
  by_cases hk : c.key = k
  · obtain ⟨hrow, hcount⟩ := h.head
    -- recounted or not, the row still ends where it was listed to end
    have hset : (l.tally? c.key).map ({ · with used := l.sum c.tenant c.meter c.period }) =
        some ⟨c.period.stop, l.sum c.tenant c.meter c.period⟩ := by
      rcases h.rows c.key with hdone | ⟨hold, -⟩
      · rw [hdone, hcount]
        rfl
      · rw [hold, hrow]
        rfl
    subst hk
    rw [if_pos rfl, hset, hcount]
    exact .inl rfl
  · rw [if_neg hk]
    rcases h.rows k with hdone | ⟨hold, d, hd, hd'⟩
    · exact .inl hdone
    · rcases List.mem_cons.mp hd with rfl | hd
      · exact absurd hd' hk
      · exact .inr ⟨hold, d, hd, hd'⟩

end Ledger

/-- The first pass leaves nothing waiting. -/
theorem Sweep.recounting_repairRows {l₀ l : Ledger} {rest : List Counter}
    (h : l₀.Recounting rest l) (report : SweepReport) :
    l₀.Recounting [] (repairRows rest report l).2 := by
  induction rest generalizing l report with
  | nil => exact h
  | cons c rest ih =>
      unfold repairRows
      dsimp only
      by_cases hsame : l.sum c.tenant c.meter c.period = c.used
      · rw [if_pos hsame]
        exact ih (h.pass hsame) report
      · rw [if_neg hsame]
        exact ih h.repair report.repaired

/-! ### What the second pass does -/

/-- The second pass on its way from `l₀`: counts, log and terms are as they were, so are the
periods that have not ended by `now`, and the row of a stored period ends where it did or where
that period ends. -/
structure Ledger.Rolled (l₀ : Ledger) (now : Instant) (l : Ledger) : Prop where
  used : ∀ k, l.used k = l₀.used k
  events : l.events = l₀.events
  replays : l.replays = l₀.replays
  terms : l₀.SameTerms l
  running : ∀ tenant e, l₀.entitlement? tenant = some e → e.isExpired now = false →
    l.entitlement? tenant = some e
  ends : ∀ tenant e meter, l₀.entitlement? tenant = some e →
    l.stop? ⟨tenant, meter, e.period.start⟩ = l₀.stop? ⟨tenant, meter, e.period.start⟩ ∨
      l.stop? ⟨tenant, meter, e.period.start⟩ = some e.period.stop

theorem Ledger.Rolled.refl (l : Ledger) (now : Instant) : l.Rolled now l :=
  ⟨fun _ => rfl, rfl, rfl, fun _ => rfl, fun _ _ he _ => he, fun _ _ _ _ => .inl rfl⟩

/-- One entitlement is rolled. -/
theorem Ledger.Rolled.step {l₀ l : Ledger} {now : Instant} (hkeyed : l₀.Keyed)
    (h : l₀.Rolled now l) {e : Entitlement} (he : e ∈ l₀.expired now) {next : Period}
    (hnext : e.period.roll? now = some next) (meter : String) :
    l₀.Rolled now ((l.setPeriod e.tenant next).ensureCounter e.tenant meter next) := by
  obtain ⟨⟨tenant, hstored⟩, hexpired⟩ := mem_expired.mp he
  obtain rfl : e.tenant = tenant := hkeyed tenant e hstored
  refine ⟨?_, ?_, ?_, ?_, ?_, ?_⟩
  · intro k
    rw [used_ensureCounter, used_setPeriod]
    exact h.used k
  · simp [h.events]
  · simp [h.replays]
  · intro other
    exact (terms?_setPeriod l e.tenant other next).trans (h.terms other)
  · intro other e' he' hrunning
    rw [entitlement?_ensureCounter, entitlement?_setPeriod]
    by_cases hother : e.tenant = other
    · subst hother
      rw [hstored] at he'
      obtain rfl := Option.some.inj he'
      rw [hexpired] at hrunning
      cases hrunning
    · rw [if_neg hother]
      exact h.running other e' he' hrunning
  · intro other e' meter' he'
    rw [stop?_ensureCounter, stop?_setPeriod]
    split
    · next hk =>
      -- a rolled period that starts where the stored one does is the stored one
      obtain ⟨htenant, -, hstart⟩ := CounterKey.mk.inj hk
      subst htenant
      rw [hstored] at he'
      obtain rfl := Option.some.inj he'
      have hsame := (Period.shifted_of_roll? hnext).eq_of_start hstart
      exact .inr (by rw [hsame])
    · exact h.ends other e' meter' he'

/-- The second pass, from a ledger that lists its expired entitlements. -/
theorem Sweep.rolled_rollRows (sw : Sweeper) {l₀ : Ledger} (hkeyed : l₀.Keyed) {now : Instant}
    {rest : List Entitlement} (hlisted : ∀ e ∈ rest, e ∈ l₀.expired now) {l : Ledger}
    (h : l₀.Rolled now l) (report : SweepReport) :
    l₀.Rolled now (rollRows sw now rest report l).2 := by
  induction rest generalizing l report with
  | nil => exact h
  | cons e rest ih =>
      unfold rollRows
      have hrest : ∀ e ∈ rest, e ∈ l₀.expired now := fun e' he' => hlisted e' (by simp [he'])
      cases hnext : e.period.roll? now with
      | none => exact h
      | some next => exact ih hrest (h.step hkeyed (hlisted e (by simp)) hnext sw.meter) _

/-! ### What a sweep does -/

namespace Sweep

variable {sw : Sweeper} {w : World}

/-- A sweep recounts every row, and then rolls what has ended. -/
theorem atOnce_passes (hlisting : sw.listing.Faithful) (hkeyed : w.ledger.Keyed) :
    ∃ l, w.ledger.Recounting [] l ∧ l.Rolled w.now (atOnce sw w).2.ledger := by
  have hfirst : w.ledger.Recounting []
      (repairRows (sw.listing.counters w.ledger) ⟨0, 0⟩ w.ledger).2 :=
    recounting_repairRows (Ledger.recounting_start (hlisting.counters w.ledger)) _
  refine ⟨_, hfirst, ?_⟩
  refine rolled_rollRows sw ?_ ?_ (.refl _ w.now) _
  · intro tenant e he
    unfold Ledger.entitlement? at he
    rw [hfirst.entitlements] at he
    exact hkeyed tenant e he
  · intro e he
    exact (hlisting.expired _ w.now).mem_iff.mp he

/-- A sweep leaves the log alone. -/
theorem log_atOnce (hlisting : sw.listing.Faithful) (hkeyed : w.ledger.Keyed) :
    (atOnce sw w).2.ledger.events = w.ledger.events ∧
      (atOnce sw w).2.ledger.replays = w.ledger.replays := by
  obtain ⟨l, hfirst, hsecond⟩ := atOnce_passes hlisting hkeyed
  exact ⟨hsecond.events.trans hfirst.events, hsecond.replays.trans hfirst.replays⟩

theorem sum_atOnce (hlisting : sw.listing.Faithful) (hkeyed : w.ledger.Keyed)
    (tenant meter : String) (p : Period) :
    (atOnce sw w).2.ledger.sum tenant meter p = w.ledger.sum tenant meter p :=
  Ledger.sum_of_events (log_atOnce hlisting hkeyed).1 tenant meter p

/-- **A sweep sets every count to what the log says** of the bounds that the row has had, whatever
was on the counter. -/
theorem used_atOnce (hlisting : sw.listing.Faithful) (hkeyed : w.ledger.Keyed) {k : CounterKey}
    {stop : Instant} (hstop : w.ledger.stop? k = some stop) :
    (atOnce sw w).2.ledger.used k = w.ledger.sum k.tenant k.meter ⟨k.start, stop⟩ := by
  obtain ⟨l, hfirst, hsecond⟩ := atOnce_passes hlisting hkeyed
  obtain ⟨row, hrow, rfl⟩ := Option.map_eq_some_iff.mp hstop
  have hrow' := hfirst.done k
  rw [hrow] at hrow'
  rw [hsecond.used k]
  exact Ledger.used_of_tally? hrow'

/-- What a sweep opens, it opens without units. -/
theorem used_atOnce_of_absent (hlisting : sw.listing.Faithful) (hkeyed : w.ledger.Keyed)
    {k : CounterKey} (hrow : w.ledger.stop? k = none) : (atOnce sw w).2.ledger.used k = 0 := by
  obtain ⟨l, hfirst, hsecond⟩ := atOnce_passes hlisting hkeyed
  have hrow' := hfirst.done k
  rw [Option.map_eq_none_iff.mp hrow] at hrow'
  rw [hsecond.used k]
  exact Ledger.used_of_absent hrow'

/-- A sweep keeps all terms. -/
theorem sameTerms_atOnce (hlisting : sw.listing.Faithful) (hkeyed : w.ledger.Keyed) :
    w.ledger.SameTerms (atOnce sw w).2.ledger := by
  obtain ⟨l, hfirst, hsecond⟩ := atOnce_passes hlisting hkeyed
  intro tenant
  rw [hsecond.terms tenant]
  unfold Ledger.terms? Ledger.entitlement?
  rw [hfirst.entitlements]

/-- A sweep leaves a period that has not ended alone. -/
theorem entitlement?_atOnce (hlisting : sw.listing.Faithful) (hkeyed : w.ledger.Keyed)
    {tenant : String} {e : Entitlement} (he : w.ledger.entitlement? tenant = some e)
    (hrunning : e.isExpired w.now = false) :
    (atOnce sw w).2.ledger.entitlement? tenant = some e := by
  obtain ⟨l, hfirst, hsecond⟩ := atOnce_passes hlisting hkeyed
  refine hsecond.running tenant e ?_ hrunning
  unfold Ledger.entitlement? at he ⊢
  rw [hfirst.entitlements]
  exact he

/-- The row of a stored period ends where it did, or where that period ends. -/
theorem stop?_atOnce (hlisting : sw.listing.Faithful) (hkeyed : w.ledger.Keyed) {tenant : String}
    {e : Entitlement} (he : w.ledger.entitlement? tenant = some e) (meter : String) :
    let k : CounterKey := ⟨tenant, meter, e.period.start⟩
    (atOnce sw w).2.ledger.stop? k = w.ledger.stop? k ∨
      (atOnce sw w).2.ledger.stop? k = some e.period.stop := by
  intro k
  obtain ⟨l, hfirst, hsecond⟩ := atOnce_passes hlisting hkeyed
  have hstored : l.entitlement? tenant = some e := by
    unfold Ledger.entitlement? at he ⊢
    rw [hfirst.entitlements]
    exact he
  have hsame : l.stop? k = w.ledger.stop? k := by
    unfold Ledger.stop?
    rw [hfirst.done k]
    cases w.ledger.tally? k <;> rfl
  rw [← hsame]
  exact hsecond.ends tenant e meter hstored

end Sweep

/-- A sweep of the gate on a ledger at hand is its two passes. -/
theorem Gate.sweep_reliable {g : Gate} (h : g.backend = .reliable) :
    g.sweep = ((Sweep.atOnce g.sweeper g.world).1,
      { g with world := (Sweep.atOnce g.sweeper g.world).2 }) := by
  unfold sweep
  rw [run_reliable h, Sweep.finish_listing]

end Turnstile
