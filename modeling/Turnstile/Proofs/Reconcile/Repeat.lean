/-
Sweeping again.

A sweep is there to make every count agree with the log (`Ledger.Agrees`).  Its first pass
does that for the counters that it finds, and then its second pass opens counters for the
periods that have come since.  It opens them without units, or with those of a counter that
starts there already, and does not look at the log again.  The log may hold events of such a
period all the same: whoever reports late reports into the next period, whether it has been
opened or not.

So a sweep leaves the ledger in agreement exactly if the log holds of the periods that it
opens what it puts on their counters (`Ledger.Foreseen`), and only then a second sweep has
nothing to do.  Where every report has come before the end of its period that is so
(`Ledger.foreseen_of_prompt`).  The second sweep finds no period to roll in any case, so it
is all first pass, and what it leaves agrees.
-/
import Turnstile.Proofs.Session.Overshoot

namespace Turnstile

namespace Ledger

variable {l l' : Ledger} {now : Instant} {k : CounterKey}

/-! ### Agreement -/

/-- Every count is what the log says of its period. -/
def Agrees (l : Ledger) : Prop :=
  ∀ k row, l.tally? k = some row → row.used = l.sum k.tenant k.meter ⟨k.start, row.stop⟩

/-- The counters whose count is not. -/
def strays (l : Ledger) : List Counter :=
  l.counterRows.filter fun c => l.sum c.tenant c.meter c.period ≠ c.used

theorem mem_strays {c : Counter} :
    c ∈ l.strays ↔ l.tally? c.key = some ⟨c.period.stop, c.used⟩ ∧
      l.sum c.tenant c.meter c.period ≠ c.used := by
  simp [strays, mem_counterRows]

theorem agrees_iff_strays : l.Agrees ↔ l.strays = [] := by
  rw [List.eq_nil_iff_forall_not_mem]
  constructor
  · intro h c hc
    obtain ⟨hrow, hne⟩ := mem_strays.mp hc
    exact hne (h _ _ hrow).symm
  · intro h k row hrow
    by_contra hne
    exact h (Counter.ofRow (k, row)) (mem_strays.mpr ⟨hrow, Ne.symm hne⟩)

/-- Each counter is listed once. -/
theorem nodup_counterRows (l : Ledger) : l.counterRows.Nodup := by
  unfold counterRows List.Nodup
  rw [List.pairwise_map]
  refine l.counters.distinct_keys_toList.imp ?_
  rintro ⟨k, row⟩ ⟨k', row'⟩ hne heq
  refine hne (Std.LawfulEqCmp.compare_eq_iff_eq.mpr ?_)
  exact congrArg Counter.key heq

/-- Each tenant is listed once, in whatever order. -/
theorem pairwise_expired (hkeyed : l.Keyed) {rest : List Entitlement}
    (hlisted : rest.Perm (l.expired now)) :
    rest.Pairwise fun e e' => e.tenant ≠ e'.tenant := by
  refine (hlisted.pairwise_iff fun h => h.symm).mpr ?_
  unfold expired
  refine List.Pairwise.filter _ ?_
  rw [List.pairwise_map]
  refine l.entitlements.distinct_keys_toList.imp_of_mem ?_
  rintro ⟨tenant, e⟩ ⟨tenant', e'⟩ hmem hmem' hne heq
  have he := hkeyed tenant e (Std.ExtTreeMap.mem_toList_iff_getElem?_eq_some.mp hmem)
  have he' := hkeyed tenant' e' (Std.ExtTreeMap.mem_toList_iff_getElem?_eq_some.mp hmem')
  refine hne (Std.LawfulEqCmp.compare_eq_iff_eq.mpr ?_)
  exact he.symm.trans (heq.trans he')

/-! ### What a sweep can foresee -/

/-- The units that the first pass leaves on a counter. -/
def recount (l : Ledger) (k : CounterKey) : Int :=
  (((l.tally? k).map (l.recounted k)).map (·.used)).getD 0

/-- Of every period that the second pass opens, the log says what the first pass leaves on its
counter. -/
def Foreseen (meter : String) (now : Instant) (l : Ledger) : Prop :=
  ∀ e ∈ l.expired now, ∀ p, e.period.roll? now = some p →
    l.sum e.tenant meter p = l.recount ⟨e.tenant, meter, p.start⟩

theorem Recounting.used (h : Recounting l [] l') (k : CounterKey) : l'.used k = l.recount k := by
  unfold Ledger.used recount
  rw [h.done k]

/-- Where nothing happens from some time on, there are no units. -/
theorem sum_eq_zero {tenant meter : String} {p : Period} {t : Instant} (hstart : t ≤ p.start)
    (hprompt : ∀ ev ∈ l.events, ev.tenant = tenant → ev.occurredAt < t) :
    l.sum tenant meter p = 0 := by
  have hnone : (l.events.filter fun ev => ev.counts tenant meter p) = [] := by
    rw [List.filter_eq_nil_iff]
    intro ev hev hcounts
    simp only [Event.counts, Bool.and_eq_true, decide_eq_true_eq] at hcounts
    obtain ⟨⟨⟨⟨htenant, -⟩, -⟩, hfrom⟩, -⟩ := hcounts
    have hbefore := hprompt ev hev htenant
    rw [Instant.lt_iff] at hbefore
    rw [Instant.le_iff] at hstart hfrom
    omega
  unfold sum
  rw [hnone]
  rfl

/-- **Nothing unforeseen comes of reports that come before the period has ended.** -/
theorem foreseen_of_prompt {meter : String}
    (hwhole : ∀ e ∈ l.expired now, e.period.Whole) (hnow : now.Whole)
    (hprompt : ∀ e ∈ l.expired now, ∀ ev ∈ l.events, ev.tenant = e.tenant →
      ev.occurredAt < e.period.stop) : l.Foreseen meter now := by
  intro e he p hp
  have hended : e.period.stop < now := by simpa [Entitlement.isExpired] using (mem_expired.mp he).2
  have hlater := Period.stop_le_start_of_roll? (hwhole e he) hnow hended hp
  have hsum (stop : Instant) : l.sum e.tenant meter ⟨p.start, stop⟩ = 0 :=
    sum_eq_zero hlater (hprompt e he)
  rw [hsum p.stop]
  unfold recount
  cases l.tally? ⟨e.tenant, meter, p.start⟩ with
  | none => rfl
  | some row => exact (hsum row.stop).symm

end Ledger

namespace Sweep

variable {sw : Sweeper} {now : Instant} {rest : List Entitlement} {l : Ledger}

/-! ### The answer -/

/-- The first pass counts the counters that it sets. -/
theorem report_repairRows (rest : List Counter) (report : SweepReport) (l : Ledger) :
    (repairRows rest report l).1 =
      { report with countersRepaired := report.countersRepaired +
          (rest.filter fun c => l.sum c.tenant c.meter c.period ≠ c.used).length } := by
  induction rest generalizing report l with
  | nil => rfl
  | cons c rest ih =>
      unfold repairRows
      dsimp only
      by_cases hsame : l.sum c.tenant c.meter c.period = c.used
      · simp [hsame, ih]
      · -- what is set does not change what the log says of the others
        rw [if_neg hsame, ih]
        simp [hsame, Ledger.sum_of_events (Ledger.events_setUsed ..), SweepReport.repaired]
        omega

/-- The second pass counts the periods that it rolls. -/
theorem answer_rollRows (h : ∀ e ∈ rest, ∃ p, e.period.roll? now = some p) (report : SweepReport) :
    (rollRows sw now rest report l).1 =
      .ok { report with periodsRolled := report.periodsRolled + rest.length } := by
  induction rest generalizing report l with
  | nil => rfl
  | cons e rest ih =>
      obtain ⟨p, hp⟩ := h e (by simp)
      unfold rollRows
      rw [hp]
      dsimp only
      rw [ih fun e' he' => h e' (by simp [he'])]
      simp [SweepReport.rolled]
      omega

/-- A second pass that has an answer rolled every period. -/
theorem rolls_of_answer {report answer : SweepReport}
    (h : (rollRows sw now rest report l).1 = .ok answer) :
    ∀ e ∈ rest, ∃ p, e.period.roll? now = some p := by
  induction rest generalizing report l with
  | nil => simp
  | cons e rest ih =>
      unfold rollRows at h
      cases hp : e.period.roll? now with
      | none => simp [hp] at h
      | some p =>
        simp only [hp] at h
        intro e' he'
        rcases List.mem_cons.mp he' with rfl | he'
        · exact ⟨p, hp⟩
        · exact ih h e' he'

/-! ### What the second pass writes -/

/-- A counter that is not opened stays as it is. -/
theorem tally?_rollRows_of_ne {k : CounterKey}
    (h : ∀ e ∈ rest, ∀ p, e.period.roll? now = some p → ⟨e.tenant, sw.meter, p.start⟩ ≠ k)
    (report : SweepReport) : (rollRows sw now rest report l).2.tally? k = l.tally? k := by
  induction rest generalizing report l with
  | nil => rfl
  | cons e rest ih =>
      unfold rollRows
      cases hp : e.period.roll? now with
      | none => rfl
      | some p =>
        dsimp only
        rw [ih fun e' he' => h e' (by simp [he']), Ledger.tally?_ensureCounter,
          if_neg (h e (by simp) p hp), Ledger.tally?_setPeriod]

/-- A counter that is opened ends with its period and keeps the units that were on it. -/
theorem tally?_rollRows (hapart : rest.Pairwise fun e e' => e.tenant ≠ e'.tenant)
    (hrolls : ∀ e ∈ rest, ∃ p, e.period.roll? now = some p) {e : Entitlement} (he : e ∈ rest)
    {p : Period} (hp : e.period.roll? now = some p) (report : SweepReport) :
    let k : CounterKey := ⟨e.tenant, sw.meter, p.start⟩
    (rollRows sw now rest report l).2.tally? k = some ⟨p.stop, l.used k⟩ := by
  intro k
  induction rest generalizing report l with
  | nil => cases he
  | cons e' rest ih =>
      obtain ⟨p', hp'⟩ := hrolls e' (by simp)
      unfold rollRows
      rw [hp']
      dsimp only
      obtain ⟨hhead, hapart⟩ := List.pairwise_cons.mp hapart
      rcases List.mem_cons.mp he with rfl | he
      · obtain rfl := Option.some.inj (hp.symm.trans hp')
        rw [tally?_rollRows_of_ne, Ledger.tally?_ensureCounter_self, Ledger.used_setPeriod]
        intro e'' he'' p'' _ hk
        exact hhead e'' he'' (CounterKey.mk.inj hk).1.symm
      · rw [ih hapart (fun e'' he'' => hrolls e'' (by simp [he''])) he, Ledger.used_ensureCounter,
          Ledger.used_setPeriod]

/-- A tenant whose period is not rolled keeps it. -/
theorem entitlement?_rollRows_of_ne {tenant : String} (h : ∀ e ∈ rest, e.tenant ≠ tenant)
    (report : SweepReport) :
    (rollRows sw now rest report l).2.entitlement? tenant = l.entitlement? tenant := by
  induction rest generalizing report l with
  | nil => rfl
  | cons e rest ih =>
      unfold rollRows
      cases e.period.roll? now with
      | none => rfl
      | some p =>
        dsimp only
        rw [ih fun e' he' => h e' (by simp [he']), Ledger.entitlement?_ensureCounter,
          Ledger.entitlement?_setPeriod, if_neg (h e (by simp))]

/-- A tenant whose period is rolled is in the period that it was rolled to. -/
theorem entitlement?_rollRows (hapart : rest.Pairwise fun e e' => e.tenant ≠ e'.tenant)
    (hrolls : ∀ e ∈ rest, ∃ p, e.period.roll? now = some p) {e : Entitlement} (he : e ∈ rest)
    {p : Period} (hp : e.period.roll? now = some p) (report : SweepReport) :
    (rollRows sw now rest report l).2.entitlement? e.tenant =
      (l.entitlement? e.tenant).map ({ · with period := p }) := by
  induction rest generalizing report l with
  | nil => cases he
  | cons e' rest ih =>
      obtain ⟨p', hp'⟩ := hrolls e' (by simp)
      unfold rollRows
      rw [hp']
      dsimp only
      obtain ⟨hhead, hapart⟩ := List.pairwise_cons.mp hapart
      rcases List.mem_cons.mp he with rfl | he
      · obtain rfl := Option.some.inj (hp.symm.trans hp')
        rw [entitlement?_rollRows_of_ne fun e'' he'' => (hhead e'' he'').symm,
          Ledger.entitlement?_ensureCounter, Ledger.entitlement?_setPeriod, if_pos rfl]
      · rw [ih hapart (fun e'' he'' => hrolls e'' (by simp [he''])) he,
          Ledger.entitlement?_ensureCounter, Ledger.entitlement?_setPeriod, if_neg (hhead e he)]

/-! ### What a sweep leaves -/

variable {w : World}

/-- A sweep is its second pass over all periods that have ended, from the recounted ledger and the
number of counters that disagreed. -/
theorem atOnce_eq (hlisting : sw.listing.Faithful) (w : World) :
    ∃ l rest, w.ledger.Recounting [] l ∧ rest.Perm (w.ledger.expired w.now) ∧
      let second := rollRows sw w.now rest ⟨w.ledger.strays.length, 0⟩ l
      atOnce sw w = (second.1, w.withLedger second.2) := by
  have hfirst : w.ledger.Recounting []
      (repairRows (sw.listing.counters w.ledger) ⟨0, 0⟩ w.ledger).2 :=
    recounting_repairRows (Ledger.recounting_start (hlisting.counters w.ledger)) _
  have hlisted := hlisting.expired
    (repairRows (sw.listing.counters w.ledger) ⟨0, 0⟩ w.ledger).2 w.now
  rw [Ledger.expired_of_entitlements hfirst.entitlements] at hlisted
  have hstrays := (hlisting.counters w.ledger).filter
    fun c => w.ledger.sum c.tenant c.meter c.period ≠ c.used
  have hreport : (repairRows (sw.listing.counters w.ledger) ⟨0, 0⟩ w.ledger).1 =
      ⟨w.ledger.strays.length, 0⟩ := by
    rw [report_repairRows, hstrays.length_eq]
    simp [Ledger.strays]
  refine ⟨_, _, hfirst, hlisted, ?_⟩
  rw [← hreport]
  rfl

/-- A sweep that can roll every period that has ended says how many counters disagreed and how
many periods had ended. -/
theorem answer_atOnce (hlisting : sw.listing.Faithful)
    (hrolls : ∀ e ∈ w.ledger.expired w.now, ∃ p, e.period.roll? w.now = some p) :
    (atOnce sw w).1 = .ok ⟨w.ledger.strays.length, (w.ledger.expired w.now).length⟩ := by
  obtain ⟨l, rest, -, hlisted, heq⟩ := atOnce_eq hlisting w
  rw [heq]
  dsimp only
  rw [answer_rollRows fun e he => hrolls e (hlisted.mem_iff.mp he), hlisted.length_eq, Nat.zero_add]

/-- A sweep that has an answer rolled every period that had ended. -/
theorem rolls_atOnce (hlisting : sw.listing.Faithful) {report : SweepReport}
    (h : (atOnce sw w).1 = .ok report) :
    ∀ e ∈ w.ledger.expired w.now, ∃ p, e.period.roll? w.now = some p := by
  obtain ⟨l, rest, -, hlisted, heq⟩ := atOnce_eq hlisting w
  rw [heq] at h
  exact fun e he => rolls_of_answer h e (hlisted.mem_iff.mpr he)

section Answered

variable (hlisting : sw.listing.Faithful) (hkeyed : w.ledger.Keyed) {report : SweepReport}
  (h : (atOnce sw w).1 = .ok report)

include hlisting hkeyed h

/-- The counter of a period that is rolled to has what the first pass left on it. -/
theorem tally?_atOnce_opened {e : Entitlement} (he : e ∈ w.ledger.expired w.now) {p : Period}
    (hp : e.period.roll? w.now = some p) :
    let k : CounterKey := ⟨e.tenant, sw.meter, p.start⟩
    (atOnce sw w).2.ledger.tally? k = some ⟨p.stop, w.ledger.recount k⟩ := by
  intro k
  have hrolls := rolls_atOnce hlisting h
  obtain ⟨l, rest, hfirst, hlisted, heq⟩ := atOnce_eq hlisting w
  rw [heq, ← hfirst.used]
  exact tally?_rollRows (Ledger.pairwise_expired hkeyed hlisted)
    (fun e he => hrolls e (hlisted.mem_iff.mp he)) (hlisted.mem_iff.mpr he) hp _

omit hkeyed h in
/-- Every other counter is recounted. -/
theorem tally?_atOnce_of_ne {k : CounterKey} (hk : ∀ e ∈ w.ledger.expired w.now, ∀ p,
    e.period.roll? w.now = some p → ⟨e.tenant, sw.meter, p.start⟩ ≠ k) :
    (atOnce sw w).2.ledger.tally? k = (w.ledger.tally? k).map (w.ledger.recounted k) := by
  obtain ⟨l, rest, hfirst, hlisted, heq⟩ := atOnce_eq hlisting w
  rw [heq, ← hfirst.done]
  exact tally?_rollRows_of_ne (fun e he => hk e (hlisted.mem_iff.mp he)) _

/-- **Where a sweep leaves the log and the counters in agreement**: what the second pass opens is
what the log says of it. -/
theorem agrees_atOnce_iff :
    (atOnce sw w).2.ledger.Agrees ↔ w.ledger.Foreseen sw.meter w.now := by
  constructor
  · intro hagrees e he p hp
    have hrow := hagrees _ _ (tally?_atOnce_opened hlisting hkeyed h he hp)
    rw [sum_atOnce hlisting hkeyed] at hrow
    exact hrow.symm
  · intro hforeseen k row hrow
    rw [sum_atOnce hlisting hkeyed]
    by_cases hopened : ∃ e ∈ w.ledger.expired w.now, ∃ p, e.period.roll? w.now = some p ∧
        ⟨e.tenant, sw.meter, p.start⟩ = k
    · obtain ⟨e, he, p, hp, rfl⟩ := hopened
      rw [tally?_atOnce_opened hlisting hkeyed h he hp] at hrow
      obtain rfl := Option.some.inj hrow
      exact (hforeseen e he p hp).symm
    · rw [tally?_atOnce_of_ne hlisting fun e he p hp hk => hopened ⟨e, he, p, hp, hk⟩] at hrow
      obtain ⟨row', -, rfl⟩ := Option.map_eq_some_iff.mp hrow
      rfl

/-- A counter that disagrees after a sweep is one that the sweep opened. -/
theorem opened_of_mem_strays {c : Counter} (hc : c ∈ (atOnce sw w).2.ledger.strays) :
    ∃ e ∈ w.ledger.expired w.now, ∃ p, e.period.roll? w.now = some p ∧
      c = ⟨e.tenant, sw.meter, p, w.ledger.recount ⟨e.tenant, sw.meter, p.start⟩⟩ := by
  obtain ⟨hrow, hstray⟩ := Ledger.mem_strays.mp hc
  rw [sum_atOnce hlisting hkeyed] at hstray
  by_cases hopened : ∃ e ∈ w.ledger.expired w.now, ∃ p, e.period.roll? w.now = some p ∧
      ⟨e.tenant, sw.meter, p.start⟩ = c.key
  · obtain ⟨e, he, p, hp, hk⟩ := hopened
    have hopen := tally?_atOnce_opened hlisting hkeyed h he hp
    dsimp only at hopen
    rw [hk, hrow] at hopen
    have hc : c = Counter.ofRow (c.key, ⟨c.period.stop, c.used⟩) := rfl
    rw [Option.some.inj hopen, ← hk] at hc
    exact ⟨e, he, p, hp, hc⟩
  · rw [tally?_atOnce_of_ne hlisting fun e he p hp hk => hopened ⟨e, he, p, hp, hk⟩] at hrow
    obtain ⟨row, -, hsame⟩ := Option.map_eq_some_iff.mp hrow
    obtain ⟨hstop, hused⟩ := Tally.mk.inj hsame
    rw [hstop] at hused
    exact absurd hused hstray

/-- No more counters disagree after a sweep than it rolled periods. -/
theorem length_strays_atOnce :
    (atOnce sw w).2.ledger.strays.length ≤ (w.ledger.expired w.now).length := by
  have hnodup : (atOnce sw w).2.ledger.strays.Nodup := (Ledger.nodup_counterRows _).filter _
  have hsub : (atOnce sw w).2.ledger.strays ⊆ (w.ledger.expired w.now).filterMap fun e =>
      (e.period.roll? w.now).map fun p =>
        ⟨e.tenant, sw.meter, p, w.ledger.recount ⟨e.tenant, sw.meter, p.start⟩⟩ := by
    intro c hc
    obtain ⟨e, he, p, hp, rfl⟩ := opened_of_mem_strays hlisting hkeyed h hc
    exact List.mem_filterMap.mpr ⟨e, he, by rw [hp]; rfl⟩
  exact (List.subperm_of_subset hnodup hsub).length_le.trans (List.length_filterMap_le _ _)

/-- After a sweep no period has ended. -/
theorem expired_atOnce (hwhole : ∀ e ∈ w.ledger.expired w.now, e.period.Whole)
    (hnow : w.now.Whole) : (atOnce sw w).2.ledger.expired w.now = [] := by
  rw [List.eq_nil_iff_forall_not_mem]
  intro e he
  obtain ⟨⟨tenant, hstored⟩, hexpired⟩ := Ledger.mem_expired.mp he
  have hrolls := rolls_atOnce hlisting h
  obtain ⟨l, rest, hfirst, hlisted, heq⟩ := atOnce_eq hlisting w
  have hsame : l.entitlement? tenant = w.ledger.entitlement? tenant := by
    unfold Ledger.entitlement?
    rw [hfirst.entitlements]
  rw [heq] at hstored
  dsimp only [World.withLedger] at hstored
  by_cases hrolled : ∃ e' ∈ rest, e'.tenant = tenant
  · obtain ⟨e', he', rfl⟩ := hrolled
    obtain ⟨p, hp⟩ := hrolls e' (hlisted.mem_iff.mp he')
    rw [entitlement?_rollRows (Ledger.pairwise_expired hkeyed hlisted)
      (fun e he => hrolls e (hlisted.mem_iff.mp he)) he' hp] at hstored
    obtain ⟨e'', -, rfl⟩ := Option.map_eq_some_iff.mp hstored
    -- the period that it was rolled to covers the time
    have hcovers := Period.le_stop_of_roll? (hwhole e' (hlisted.mem_iff.mp he')) hnow hp
    simp only [Entitlement.isExpired, decide_eq_true_eq, Instant.lt_iff] at hexpired
    rw [Instant.le_iff] at hcovers
    omega
  · rw [entitlement?_rollRows_of_ne (fun e' he' heq => hrolled ⟨e', he', heq⟩), hsame] at hstored
    -- one that was not rolled had not ended
    have hmem := Ledger.mem_expired.mpr ⟨⟨tenant, hstored⟩, hexpired⟩
    exact hrolled ⟨e, hlisted.mem_iff.mpr hmem, hkeyed tenant e hstored⟩

end Answered

theorem keyed_atOnce (hlisting : sw.listing.Faithful) (hkeyed : w.ledger.Keyed) :
    (atOnce sw w).2.ledger.Keyed := hkeyed.of_sameTerms (sameTerms_atOnce hlisting hkeyed)

/-- Where no period has ended, a sweep is its first pass. -/
theorem atOnce_of_current (hlisting : sw.listing.Faithful) (hkeyed : w.ledger.Keyed)
    (hcurrent : w.ledger.expired w.now = []) :
    (atOnce sw w).1 = .ok ⟨w.ledger.strays.length, 0⟩ ∧ (atOnce sw w).2.ledger.Agrees := by
  have hanswer := answer_atOnce hlisting (w := w) (by simp [hcurrent])
  refine ⟨by simpa [hcurrent] using hanswer, ?_⟩
  rw [agrees_atOnce_iff hlisting hkeyed hanswer]
  simp [Ledger.Foreseen, hcurrent]

/-! ### Sweeping twice -/

/-- Once a sweep has answered, no period has ended at the time that it was made. -/
theorem current_atOnce (hlisting : sw.listing.Faithful) (hkeyed : w.ledger.Keyed)
    (hwhole : ∀ tenant e, w.ledger.entitlement? tenant = some e → e.period.Whole)
    (hnow : w.now.Whole) {report : SweepReport} (h : (atOnce sw w).1 = .ok report) :
    (atOnce sw w).2.ledger.expired w.now = [] := by
  refine expired_atOnce hlisting hkeyed h ?_ hnow
  intro e he
  obtain ⟨⟨tenant, hstored⟩, -⟩ := Ledger.mem_expired.mp he
  exact hwhole tenant e hstored

/-- The third of three sweeps at one time finds nothing to do, whatever order each is made in. -/
theorem atOnce_thrice {second third : Sweeper} (hlisting : sw.listing.Faithful)
    (hsecond : second.listing.Faithful) (hthird : third.listing.Faithful)
    (hkeyed : w.ledger.Keyed)
    (hwhole : ∀ tenant e, w.ledger.entitlement? tenant = some e → e.period.Whole)
    (hnow : w.now.Whole) {report : SweepReport} (h : (atOnce sw w).1 = .ok report) :
    (atOnce third (atOnce second (atOnce sw w).2).2).1 = .ok ⟨0, 0⟩ := by
  have hcurrent := current_atOnce hlisting hkeyed hwhole hnow h
  have hkeyed' : (atOnce sw w).2.ledger.Keyed := keyed_atOnce hlisting hkeyed
  -- the second sweep has no period to roll, so all it leaves agrees with the log
  obtain ⟨hanswer, hagrees⟩ := atOnce_of_current (w := (atOnce sw w).2) hsecond hkeyed' hcurrent
  have hcurrent' : (atOnce second (atOnce sw w).2).2.ledger.expired w.now = [] :=
    expired_atOnce (w := (atOnce sw w).2) hsecond hkeyed' hanswer
      (fun e he => absurd (hcurrent ▸ he) List.not_mem_nil) hnow
  obtain ⟨hanswer', -⟩ := atOnce_of_current (w := (atOnce second (atOnce sw w).2).2) hthird
    (keyed_atOnce hsecond hkeyed') hcurrent'
  rw [hanswer', Ledger.agrees_iff_strays.mp hagrees]
  rfl

/-- What a sweep settles, and what a second and a third one find, made at the same time. -/
theorem atOnce_settles_iff (hlisting : sw.listing.Faithful) (hkeyed : w.ledger.Keyed)
    (hwhole : ∀ tenant e, w.ledger.entitlement? tenant = some e → e.period.Whole)
    (hnow : w.now.Whole) {report : SweepReport} (h : (atOnce sw w).1 = .ok report) :
    let swept := (atOnce sw w).2
    let again := atOnce sw swept
    (swept.ledger.Agrees ↔ w.ledger.Foreseen sw.meter w.now) ∧
      (again.1 = .ok ⟨0, 0⟩ ↔ w.ledger.Foreseen sw.meter w.now) ∧
      (∃ n ≤ report.periodsRolled, again.1 = .ok ⟨n, 0⟩) ∧
      again.2.ledger.Agrees ∧ (atOnce sw again.2).1 = .ok ⟨0, 0⟩ := by
  intro swept again
  have hcurrent := current_atOnce hlisting hkeyed hwhole hnow h
  obtain ⟨hanswer, hagrees⟩ := atOnce_of_current (w := swept) hlisting
    (keyed_atOnce hlisting hkeyed) hcurrent
  have hsettled := agrees_atOnce_iff hlisting hkeyed h
  refine ⟨hsettled, ?_, ⟨_, ?_, hanswer⟩, hagrees,
    atOnce_thrice hlisting hlisting hlisting hkeyed hwhole hnow h⟩
  · rw [hanswer, ← hsettled, Ledger.agrees_iff_strays]
    simp [swept]
  · have hrolled := h.symm.trans (answer_atOnce hlisting (rolls_atOnce hlisting h))
    rw [(Outcome.ok.inj hrolled : report = _)]
    exact length_strays_atOnce hlisting hkeyed h

end Sweep

namespace Gate

/-- **A sweep settles the ledger exactly if it foresaw what its second pass opens**: only then every
count is what the log says, and only then a second sweep at the same time has nothing to do.  The
second sweep rolls nothing in any case, repairs at most what the first has opened, and leaves
nothing to do for a third. -/
theorem sweep_settles_iff {g : Gate} (hreliable : g.backend = .reliable)
    (hlisting : g.sweeper.listing.Faithful) (hkeyed : g.world.ledger.Keyed)
    (hwhole : ∀ tenant e, g.world.ledger.entitlement? tenant = some e → e.period.Whole)
    (hnow : g.world.now.Whole) {report : SweepReport} (h : g.sweep.1 = .ok report) :
    let swept := g.sweep.2
    let again := swept.sweep
    (swept.world.ledger.Agrees ↔ g.world.ledger.Foreseen g.sweeper.meter g.world.now) ∧
      (again.1 = .ok ⟨0, 0⟩ ↔ g.world.ledger.Foreseen g.sweeper.meter g.world.now) ∧
      (∃ n ≤ report.periodsRolled, again.1 = .ok ⟨n, 0⟩) ∧
      again.2.world.ledger.Agrees ∧ again.2.sweep.1 = .ok ⟨0, 0⟩ := by
  simp only [sweep_reliable, hreliable] at h ⊢
  exact Sweep.atOnce_settles_iff hlisting hkeyed hwhole hnow h

end Gate

/-! ### A report after the end of its period -/

namespace Session

/-- A call that is authorized on the tenth day and reports on the thirty-first. -/
def lateReport : List Errand :=
  [.authorize "acme" "search", .clock ⟨31 * Span.day⟩, .settle 0 "search" "late" none .success]

/-- The gate after it. -/
def lateGate : Gate :=
  ((start oneUnitWorld).run .standard .standard lateReport).gate .standard .standard

/-- The thirty days after the first. -/
def nextMonth : Period := ⟨⟨30 * Span.day⟩, ⟨60 * Span.day⟩⟩

/-- The sweep answers, and leaves the counter of the next month without the unit that was reported
in it.  A second sweep has to repair it. -/
theorem swept_without_late_report :
    lateGate.sweep.1 = .ok ⟨1, 1⟩ ∧
      lateGate.sweep.2.world.ledger.tally? ⟨"acme", defaultMeter, nextMonth.start⟩ =
        some ⟨nextMonth.stop, 0⟩ ∧
      lateGate.sweep.2.world.ledger.sum "acme" defaultMeter nextMonth = 1 ∧
      lateGate.sweep.2.sweep.1 = .ok ⟨1, 0⟩ := by
  have hreliable : lateGate.backend = .reliable := rfl
  simp only [Gate.sweep_reliable, hreliable]
  simp only [lateGate, gate, lateReport, run, List.foldl, step, authorize_eq, settle_eq]
  decide

/-- The log holds more of the next month than its counter had, which was nothing; so the sweep does
not settle the ledger, and a third one has nothing to do. -/
theorem sweep_settles_iff_late_report :
    let swept := lateGate.sweep.2
    let again := swept.sweep
    lateGate.sweep.1 = .ok ⟨1, 1⟩ ∧
      ¬ lateGate.world.ledger.Foreseen defaultMeter lateGate.world.now ∧
      (swept.world.ledger.Agrees ↔
        lateGate.world.ledger.Foreseen defaultMeter lateGate.world.now) ∧
      (again.1 = .ok ⟨0, 0⟩ ↔ lateGate.world.ledger.Foreseen defaultMeter lateGate.world.now) ∧
      (∃ n ≤ 1, again.1 = .ok ⟨n, 0⟩) ∧
      again.2.world.ledger.Agrees ∧ again.2.sweep.1 = .ok ⟨0, 0⟩ := by
  have hanswer : lateGate.sweep.1 = .ok ⟨1, 1⟩ := by
    rw [Gate.sweep_reliable rfl]
    simp only [lateGate, gate, lateReport, run, List.foldl, step, authorize_eq, settle_eq]
    decide
  -- all that is left to ask of this one ledger
  have hlate : lateGate.world.ledger.Keyed ∧
      (∀ row ∈ lateGate.world.ledger.entitlements.toList, row.2.period.Whole) ∧
      lateGate.world.now.Whole ∧
      oneUnit ∈ lateGate.world.ledger.expired lateGate.world.now ∧
      oneUnit.period.roll? lateGate.world.now = some nextMonth ∧
      lateGate.world.ledger.sum "acme" defaultMeter nextMonth ≠
        lateGate.world.ledger.recount ⟨"acme", defaultMeter, nextMonth.start⟩ := by
    simp only [lateGate, gate, lateReport, run, List.foldl, step, authorize_eq, settle_eq]
    decide
  obtain ⟨hkeyed, hwhole, hnow, hexpired, hroll, hsum⟩ := hlate
  refine ⟨hanswer, fun hforeseen => hsum (hforeseen oneUnit hexpired nextMonth hroll), ?_⟩
  exact Gate.sweep_settles_iff rfl Listing.faithful_sorted hkeyed
    (Ledger.forall_entitlement_iff.mpr hwhole) hnow hanswer

end Session

end Turnstile
