/-
A sweep that is cut short, and the one after it.

The first call to the ledger that fails ends a sweep, and what it has written stays.
`Ledger.Underway` says what that is: some of the periods that had ended still wait to be rolled,
and some that are rolled still wait for their counters.  It holds wherever a sweep may be cut
short (`Sweep.On.cut`).

The sweep after it takes up the periods that wait (`Ledger.Underway.resumed_of_waiting`).  It does
not take up a counter: a period that has been rolled has not ended any more, so it is not looked at
again.  All but that one counter is as after a sweep that was not cut short (`Gate.resumes_iff`).
-/
import Turnstile.Proofs.Reconcile.Calls
import Turnstile.Proofs.Reconcile.Effect
import Turnstile.Proofs.Service.Decision

namespace Turnstile

/-! ### A ledger on the way of a sweep -/

namespace Ledger

variable {meter : String} {now : Instant} {l₀ l : Ledger} {unrolled unopened : List Entitlement}

/-- Two entitlements that have ended are the same if they are of one tenant. -/
theorem eq_of_mem_expired (hkeyed : l.Keyed) {e e' : Entitlement} (he : e ∈ l.expired now)
    (he' : e' ∈ l.expired now) (htenant : e.tenant = e'.tenant) : e = e' := by
  obtain ⟨⟨tenant, hstored⟩, -⟩ := mem_expired.mp he
  obtain ⟨⟨tenant', hstored'⟩, -⟩ := mem_expired.mp he'
  obtain rfl := hkeyed tenant e hstored
  obtain rfl := hkeyed tenant' e' hstored'
  rw [htenant, hstored'] at hstored
  exact (Option.some.inj hstored).symm

/-- The second ledger has the entitlements of the first, and counters where it has them. -/
structure SameKeys (l₀ l : Ledger) : Prop where
  entitlements : l.entitlements = l₀.entitlements
  counters : ∀ k, (l.tally? k).isSome = (l₀.tally? k).isSome

theorem SameKeys.refl (l : Ledger) : l.SameKeys l := ⟨rfl, fun _ => rfl⟩

theorem SameKeys.setUsed (h : l₀.SameKeys l) (k : CounterKey) (n : Int) :
    l₀.SameKeys (l.setUsed k n) := by
  refine ⟨by rw [entitlements_setUsed, h.entitlements], ?_⟩
  intro other
  rw [← h.counters other, tally?_setUsed]
  split
  · next hk =>
    subst hk
    simp
  · rfl

/-- A sweep on its way from `l₀`: of the periods that have ended, those of `unrolled` are still to
be set, the others are rolled, and the counters of those not in `unopened` have been opened. -/
structure Underway (meter : String) (now : Instant) (l₀ : Ledger)
    (unrolled unopened : List Entitlement) (l : Ledger) : Prop where
  waiting : ∀ e ∈ l₀.expired now, e ∈ unrolled → l.entitlement? e.tenant = some e
  rolled : ∀ e ∈ l₀.expired now, e ∉ unrolled → ∃ p, e.period.roll? now = some p ∧
    l.entitlement? e.tenant = some { e with period := p }
  others : ∀ tenant, (∀ e ∈ l₀.expired now, e.tenant ≠ tenant) →
    l.entitlement? tenant = l₀.entitlement? tenant
  rows : ∀ k, (l.tally? k).isSome = true ↔ (l₀.tally? k).isSome = true ∨
    ∃ e ∈ l₀.expired now, e ∉ unopened ∧ ∃ p, e.period.roll? now = some p ∧
      ⟨e.tenant, meter, p.start⟩ = k

namespace Underway

/-- Before the second pass everything waits. -/
theorem of_sameKeys (hkeyed : l₀.Keyed) (h : l₀.SameKeys l) {listed : List Entitlement}
    (hlisted : ∀ e, e ∈ listed ↔ e ∈ l₀.expired now) :
    Underway meter now l₀ listed listed l := by
  have hsame : ∀ tenant, l.entitlement? tenant = l₀.entitlement? tenant := by
    intro tenant
    unfold entitlement?
    rw [h.entitlements]
  refine ⟨?_, ?_, fun tenant _ => hsame tenant, ?_⟩
  · intro e he _
    obtain ⟨⟨tenant, hstored⟩, -⟩ := mem_expired.mp he
    rw [hsame, hkeyed tenant e hstored, hstored]
  · intro e he hdone
    exact absurd ((hlisted e).mpr he) hdone
  · intro k
    rw [h.counters k]
    refine ⟨.inl, ?_⟩
    rintro (hrow | ⟨e, he, hdone, -⟩)
    · exact hrow
    · exact absurd ((hlisted e).mpr he) hdone

theorem keyed (h : Underway meter now l₀ unrolled unopened l) (hkeyed : l₀.Keyed) : l.Keyed := by
  intro tenant e' hstored
  by_cases hended : ∃ e ∈ l₀.expired now, e.tenant = tenant
  · obtain ⟨e, he, rfl⟩ := hended
    by_cases hwaits : e ∈ unrolled
    · rw [h.waiting e he hwaits] at hstored
      rw [← Option.some.inj hstored]
    · obtain ⟨p, -, hrolled⟩ := h.rolled e he hwaits
      rw [hrolled] at hstored
      rw [← Option.some.inj hstored]
  · rw [h.others tenant fun e he heq => hended ⟨e, he, heq⟩] at hstored
    exact hkeyed tenant e' hstored

/-- A period is set. -/
theorem setPeriod {e : Entitlement} {rest : List Entitlement} {p : Period} (hkeyed : l₀.Keyed)
    (h : Underway meter now l₀ (e :: rest) unopened l) (he : e ∈ l₀.expired now) (hnew : e ∉ rest)
    (hp : e.period.roll? now = some p) :
    Underway meter now l₀ rest unopened (l.setPeriod e.tenant p) := by
  have hset : (l.setPeriod e.tenant p).entitlement? e.tenant = some { e with period := p } := by
    rw [entitlement?_setPeriod, if_pos rfl, h.waiting e he (by simp)]
    rfl
  have hothers : ∀ tenant, e.tenant ≠ tenant →
      (l.setPeriod e.tenant p).entitlement? tenant = l.entitlement? tenant := by
    intro tenant hne
    rw [entitlement?_setPeriod, if_neg hne]
  have hapart : ∀ e' ∈ l₀.expired now, e' ≠ e → e.tenant ≠ e'.tenant :=
    fun e' he' hne htenant => hne (eq_of_mem_expired hkeyed he' he htenant.symm)
  refine ⟨?_, ?_, ?_, fun k => by rw [tally?_setPeriod, h.rows k]⟩
  · intro e' he' hwaits
    have hne : e' ≠ e := fun heq => hnew (heq ▸ hwaits)
    rw [hothers _ (hapart e' he' hne), h.waiting e' he' (by simp [hwaits])]
  · intro e' he' hdone
    by_cases hsame : e' = e
    · subst hsame
      exact ⟨p, hp, hset⟩
    · obtain ⟨p', hp', hrolled⟩ := h.rolled e' he' (by simp [hsame, hdone])
      exact ⟨p', hp', by rw [hothers _ (hapart e' he' hsame), hrolled]⟩
  · intro tenant hne
    rw [hothers tenant (hne e he), h.others tenant hne]

/-- Its counter is opened. -/
theorem ensureCounter {e : Entitlement} {rest : List Entitlement} {p : Period}
    (h : Underway meter now l₀ unrolled (e :: rest) l) (he : e ∈ l₀.expired now) (hnew : e ∉ rest)
    (hp : e.period.roll? now = some p) :
    Underway meter now l₀ unrolled rest (l.ensureCounter e.tenant meter p) := by
  refine ⟨h.waiting, h.rolled, h.others, ?_⟩
  intro k
  by_cases hk : ⟨e.tenant, meter, p.start⟩ = k
  · rw [tally?_ensureCounter, if_pos hk]
    exact ⟨fun _ => .inr ⟨e, he, hnew, p, hp, hk⟩, fun _ => rfl⟩
  · rw [tally?_ensureCounter, if_neg hk, h.rows k]
    refine or_congr_right ⟨?_, ?_⟩
    · rintro ⟨e', he', hopened, hrow⟩
      exact ⟨e', he', fun hmem => hopened (by simp [hmem]), hrow⟩
    · rintro ⟨e', he', hopened, p', hp', hk'⟩
      have hne : e' ≠ e := by
        rintro rfl
        obtain rfl := Option.some.inj (hp.symm.trans hp')
        exact hk hk'
      exact ⟨e', he', by simp [hne, hopened], p', hp', hk'⟩

/-! ### What the next sweep makes of it -/

variable {l' : Ledger} {e : Entitlement} {p : Period}

/-- What is still expired can be rolled if all of it could be. -/
theorem rolls (h : Underway meter now l₀ unrolled unopened l)
    (hrolls : ∀ e ∈ l₀.expired now, ∃ p, e.period.roll? now = some p) :
    ∀ e ∈ l.expired now, ∃ p, e.period.roll? now = some p := by
  intro e' he'
  obtain ⟨⟨tenant, hstored⟩, hexpired⟩ := mem_expired.mp he'
  by_cases hended : ∃ e ∈ l₀.expired now, e.tenant = tenant
  · obtain ⟨e, he, rfl⟩ := hended
    by_cases hwaits : e ∈ unrolled
    · rw [h.waiting e he hwaits] at hstored
      rw [← Option.some.inj hstored]
      exact hrolls e he
    · obtain ⟨p, hp, hrolled⟩ := h.rolled e he hwaits
      rw [hrolled] at hstored
      rw [← Option.some.inj hstored]
      exact ⟨p, Period.roll?_roll? hp⟩
  · rw [h.others tenant fun e he heq => hended ⟨e, he, heq⟩] at hstored
    exact hrolls e' (mem_expired.mpr ⟨⟨tenant, hstored⟩, hexpired⟩)

/-- A period that waits is rolled, and its counter opened. -/
theorem resumed_of_waiting (h : Underway meter now l₀ unrolled unopened l)
    (hswept : l.Reconciled meter now l') (he : e ∈ l₀.expired now) (hwaits : e ∈ unrolled)
    (hp : e.period.roll? now = some p) :
    l'.entitlement? e.tenant = some { e with period := p } ∧
      (l'.tally? ⟨e.tenant, meter, p.start⟩).isSome = true := by
  obtain ⟨q, hq, hrolled, hrow⟩ := hswept.ended e.tenant e (h.waiting e he hwaits)
    (mem_expired.mp he).2
  obtain rfl := Option.some.inj (hp.symm.trans hq)
  exact ⟨hrolled, by rw [hrow]; rfl⟩

/-- A period that has been rolled stays as it is.  Its counter is there afterwards if it was there
before or has been opened, or if the period has ended all the same. -/
theorem resumed_of_rolled (h : Underway meter now l₀ unrolled unopened l) (hkeyed : l₀.Keyed)
    (hswept : l.Reconciled meter now l') (he : e ∈ l₀.expired now) (hdone : e ∉ unrolled)
    (hp : e.period.roll? now = some p) :
    l'.entitlement? e.tenant = some { e with period := p } ∧
      ((l'.tally? ⟨e.tenant, meter, p.start⟩).isSome = true ↔ p.stop < now ∨ e ∉ unopened ∨
        (l₀.tally? ⟨e.tenant, meter, p.start⟩).isSome = true) := by
  obtain ⟨p', hp', hrolled⟩ := h.rolled e he hdone
  obtain rfl := Option.some.inj (hp.symm.trans hp')
  cases hexpired : ({ e with period := p } : Entitlement).isExpired now with
  | true =>
    obtain ⟨q, hq, hagain, hrow⟩ := hswept.ended e.tenant _ hrolled hexpired
    obtain rfl := Option.some.inj ((Period.roll?_roll? hp).symm.trans hq)
    have hended : p.stop < now := by simpa [Entitlement.isExpired] using hexpired
    exact ⟨hagain, by simp [hrow, hended]⟩
  | false =>
    refine ⟨hswept.running e.tenant _ hrolled hexpired, ?_⟩
    have hcurrent : ¬p.stop < now := by simpa [Entitlement.isExpired] using hexpired
    have hrow := hswept.others ⟨e.tenant, meter, p.start⟩ fun e' q hstored hexpired' _ _ => by
      rw [hrolled] at hstored
      rw [← Option.some.inj hstored, hexpired] at hexpired'
      cases hexpired'
    rw [hrow, Option.isSome_map, h.rows]
    constructor
    · rintro (hold | ⟨e', he', hopened, q, hq, hk⟩)
      · exact .inr (.inr hold)
      · obtain rfl := eq_of_mem_expired hkeyed he' he (CounterKey.mk.inj hk).1
        exact .inr (.inl hopened)
    · rintro (hended | hopened | hold)
      · exact absurd hended hcurrent
      · exact .inr ⟨e, he, hopened, p, hp, rfl⟩
      · exact .inl hold

end Underway

end Ledger

/-! ### Where a sweep can be cut short -/

namespace Sweep

variable {sw : Sweeper} {now : Instant} {l₀ l : Ledger} {s : Sweep} {w : World}

/-- Periods that have ended, each once. -/
structure Due (l₀ : Ledger) (now : Instant) (rest : List Entitlement) : Prop where
  ended : ∀ e ∈ rest, e ∈ l₀.expired now
  distinct : rest.Nodup

theorem Due.tail {e : Entitlement} {rest : List Entitlement} (h : Due l₀ now (e :: rest)) :
    Due l₀ now rest :=
  ⟨fun e' he' => h.ended e' (by simp [he']), (List.nodup_cons.mp h.distinct).2⟩

/-- What a sweep that began with `l₀` has made of the ledger in each of its states. -/
inductive On (sw : Sweeper) (now : Instant) (l₀ : Ledger) : Sweep → Ledger → Prop
  | listing {l : Ledger} (h : l₀.SameKeys l) : On sw now l₀ .listing l
  | summing {c : Counter} {rest : List Counter} {report : SweepReport} {l : Ledger}
      (h : l₀.SameKeys l) : On sw now l₀ (.summing c rest report) l
  | repairing {c : Counter} {n : Int} {rest : List Counter} {report : SweepReport} {l : Ledger}
      (h : l₀.SameKeys l) : On sw now l₀ (.repairing c n rest report) l
  | expiring {report : SweepReport} {l : Ledger} (h : l₀.SameKeys l) :
      On sw now l₀ (.expiring report) l
  | rolling {e : Entitlement} {next : Period} {rest : List Entitlement} {report : SweepReport}
      {l : Ledger} (hdue : Due l₀ now (e :: rest)) (hnext : e.period.roll? now = some next)
      (h : l₀.Underway sw.meter now (e :: rest) (e :: rest) l) :
      On sw now l₀ (.rolling e.tenant next rest now report) l
  | ensuring {e : Entitlement} {next : Period} {rest : List Entitlement} {report : SweepReport}
      {l : Ledger} (hdue : Due l₀ now (e :: rest)) (hnext : e.period.roll? now = some next)
      (h : l₀.Underway sw.meter now rest (e :: rest) l) :
      On sw now l₀ (.ensuring e.tenant next rest now report) l
  | finished (answer : Swept) (l : Ledger) : On sw now l₀ (.finished answer) l

theorem on_nextCounter (h : l₀.SameKeys l) (report : SweepReport) (rest : List Counter) :
    On sw now l₀ (nextCounter report rest) l := by
  cases rest with
  | nil => exact .expiring h
  | cons c rest => exact .summing h

theorem on_nextEntitlement {rest : List Entitlement} (hdue : Due l₀ now rest)
    (h : l₀.Underway sw.meter now rest rest l) (report : SweepReport) :
    On sw now l₀ (nextEntitlement now report rest) l := by
  cases rest with
  | nil => exact .finished _ l
  | cons e rest =>
    cases hnext : e.period.roll? now with
    | none =>
      rw [nextEntitlement_of_stuck hnext]
      exact .finished _ l
    | some next =>
      rw [nextEntitlement_of_rolls hnext]
      exact .rolling hdue hnext h

@[simp] theorem now_step (sw : Sweeper) (s : Sweep) (w : World) :
    (s.step sw none w).2.now = w.now := by
  cases s <;> rfl

/-- A step that is not refused keeps to the way. -/
theorem On.step (hlisting : sw.listing.Faithful) (hkeyed : l₀.Keyed)
    (h : On sw w.now l₀ s w.ledger) :
    On sw w.now l₀ (s.step sw none w).1 (s.step sw none w).2.ledger := by
  generalize hl : w.ledger = l at h
  cases h with
  | listing h =>
    subst hl
    exact on_nextCounter h _ _
  | @summing c rest report _ h =>
    subst hl
    simp only [Sweep.step, compare]
    split
    · exact on_nextCounter h _ _
    · exact .repairing h
  | repairing h =>
    subst hl
    exact on_nextCounter (h.setUsed _ _) _ _
  | expiring h =>
    subst hl
    have hlisted := hlisting.expired w.ledger w.now
    rw [Ledger.expired_of_entitlements h.entitlements] at hlisted
    have hdistinct := (Ledger.pairwise_expired hkeyed hlisted).imp fun hne heq =>
      hne (congrArg Entitlement.tenant heq)
    exact on_nextEntitlement ⟨fun e he => hlisted.mem_iff.mp he, hdistinct⟩
      (.of_sameKeys hkeyed h fun e => hlisted.mem_iff) _
  | rolling hdue hnext h =>
    subst hl
    exact .ensuring hdue hnext (h.setPeriod hkeyed (hdue.ended _ (by simp))
      (List.nodup_cons.mp hdue.distinct).1 hnext)
  | ensuring hdue hnext h =>
    subst hl
    exact on_nextEntitlement hdue.tail (h.ensureCounter (hdue.ended _ (by simp))
      (List.nodup_cons.mp hdue.distinct).1 hnext) _
  | finished answer => exact .finished answer _

/-- **Where a sweep can be cut short.**  The one period that is rolled and whose counter has not
been opened is the one whose counter was to be opened by the call that failed. -/
theorem On.cut (hkeyed : l₀.Keyed) (h : On sw now l₀ s l) {a : Access}
    (hcall : s.access? = some a) :
    ∃ unrolled unopened, l₀.Underway sw.meter now unrolled unopened l ∧
      ∀ e ∈ l₀.expired now,
        (e ∈ unopened ∧ e ∉ unrolled ↔ a = ⟨.ensureCounter, e.tenant⟩) := by
  -- before the second pass everything waits, and no call opens a counter
  have hbefore : l₀.SameKeys l → a.method ≠ .ensureCounter →
      ∃ unrolled unopened, l₀.Underway sw.meter now unrolled unopened l ∧
        ∀ e ∈ l₀.expired now,
          (e ∈ unopened ∧ e ∉ unrolled ↔ a = ⟨.ensureCounter, e.tenant⟩) := by
    intro hsame hmethod
    refine ⟨l₀.expired now, l₀.expired now, .of_sameKeys hkeyed hsame fun _ => .rfl, ?_⟩
    intro e he
    refine ⟨fun hno => absurd he hno.2, ?_⟩
    rintro rfl
    exact absurd rfl hmethod
  cases h with
  | listing h => exact hbefore h (by cases hcall; simp)
  | summing h => exact hbefore h (by cases hcall; simp)
  | repairing h => exact hbefore h (by cases hcall; simp)
  | expiring h => exact hbefore h (by cases hcall; simp)
  | @rolling e next rest report _ hdue hnext h =>
    refine ⟨_, _, h, ?_⟩
    intro e' he'
    refine ⟨fun hno => absurd hno.1 hno.2, ?_⟩
    rintro rfl
    cases hcall
  | @ensuring e next rest report _ hdue hnext h =>
    refine ⟨_, _, h, ?_⟩
    intro e' he'
    obtain rfl := Option.some.inj hcall
    constructor
    · rintro ⟨hmem, hnot⟩
      rcases List.mem_cons.mp hmem with rfl | hrest
      · rfl
      · exact absurd hrest hnot
    · intro heq
      obtain rfl := Ledger.eq_of_mem_expired hkeyed (hdue.ended e (by simp)) he'
        (Access.mk.inj heq).2
      exact ⟨by simp, (List.nodup_cons.mp hdue.distinct).1⟩
  | finished => cases hcall

/-- The way of a sweep that began with `l₀` at `now`. -/
structure Within (sw : Sweeper) (now : Instant) (l₀ : Ledger) (s : Sweep) (w : World) : Prop where
  clock : w.now = now
  on : On sw now l₀ s w.ledger

theorem Within.step (hlisting : sw.listing.Faithful) (hkeyed : l₀.Keyed) (s : Sweep) (w : World)
    (h : Within sw now l₀ s w) :
    Within sw now l₀ ((procedure sw).step none s w).1 ((procedure sw).step none s w).2 := by
  obtain ⟨rfl, hon⟩ := h
  exact ⟨now_step sw s w, hon.step hlisting hkeyed⟩

/-- **A sweep that is cut short** answers with the error, has made the calls up to the one that
failed, and leaves the ledger somewhere on its way. -/
theorem attempt_cut (hlisting : sw.listing.Faithful) (hkeyed : w.ledger.Keyed)
    (hrolls : ∀ e ∈ w.ledger.expired w.now, ∃ p, e.period.roll? w.now = some p) {n : Nat}
    {a : Access} (hcall : (calls sw w)[n]? = some a) (err : LedgerError) :
    let aborted := (procedure sw).attempt (List.replicate n none ++ [some err]) .listing w
    aborted.1 = .error err ∧ aborted.2.1 = (calls sw w).take (n + 1) ∧ aborted.2.2.now = w.now ∧
      ∃ unrolled unopened,
        w.ledger.Underway sw.meter w.now unrolled unopened aborted.2.2.ledger ∧
          ∀ e ∈ w.ledger.expired w.now,
            (e ∈ unopened ∧ e ∉ unrolled ↔ a = ⟨.ensureCounter, e.tenant⟩) := by
  intro aborted
  have hcalls := calls_listing hlisting hrolls
  have hstart : Within sw w.now w.ledger .listing w := ⟨rfl, .listing (.refl _)⟩
  rw [← hcalls] at hcall
  obtain ⟨s, w', hwithin, hgoing, haccess, hrest⟩ :=
    Procedure.attempt_refused hstart (Within.step hlisting hkeyed) hcall err
  rw [hcalls, attempt_of_refused hgoing] at hrest
  have haborted : aborted = _ := hrest
  rw [haborted]
  exact ⟨rfl, List.append_nil _, hwithin.clock, hwithin.on.cut hkeyed haccess⟩

end Sweep

namespace Gate

/-- **A sweep that fails is one that is cut short**, whatever stands in front of the ledger: it is
the attempt in which the call that is refused first is the only one. -/
theorem sweep_error {g : Gate} (hlisting : g.sweeper.listing.Faithful)
    (hrolls : ∀ e ∈ g.world.ledger.expired g.world.now, ∃ p, e.period.roll? g.world.now = some p)
    {err : LedgerError} (h : g.sweep.1 = .error err) :
    ∃ n a, (Sweep.calls g.sweeper g.world)[n]? = some a ∧
      g.sweep.2.world = ((Sweep.procedure g.sweeper).attempt (List.replicate n none ++ [some err])
        .listing g.world).2.2 := by
  obtain ⟨refusals, hanswer, hworld⟩ :=
    (Sweep.procedure g.sweeper).run_eq_attempt g.backend .listing g.world
  have hfailed : ((Sweep.procedure g.sweeper).attempt refusals .listing g.world).1 = .error err :=
    hanswer.symm.trans h
  obtain ⟨n, a, hcall, hsame⟩ := Sweep.attempt_error (by simp) hfailed
  rw [Sweep.calls_listing hlisting hrolls] at hcall
  exact ⟨n, a, hcall, hsame ▸ hworld⟩

/-- **The sweep after one that was cut short.**  Whichever call fails, the sweep answers with the
error and makes no further call.  The next sweep at the same time rolls every period that had ended
and had not been rolled, and all of these have their counters afterwards, with one exception: if the
call that failed was to open the counter of a period, and the counter was not there, then it is not
there after the next sweep either, unless the rolled period has ended again. -/
theorem resumes_iff {g : Gate} (hreliable : g.backend = .reliable)
    (hlisting : g.sweeper.listing.Faithful) (hkeyed : g.world.ledger.Keyed)
    (hrolls : ∀ e ∈ g.world.ledger.expired g.world.now, ∃ p, e.period.roll? g.world.now = some p)
    {second : Sweeper} (hsecond : second.listing.Faithful)
    (hmeter : second.meter = g.sweeper.meter) {n : Nat} {a : Access}
    (hcall : (Sweep.calls g.sweeper g.world)[n]? = some a) (err : LedgerError) :
    let aborted := (Sweep.procedure g.sweeper).attempt (List.replicate n none ++ [some err])
      .listing g.world
    let again := ({ g with sweeper := second, world := aborted.2.2 } : Gate).sweep
    aborted.1 = .error err ∧ aborted.2.1 = (Sweep.calls g.sweeper g.world).take (n + 1) ∧
      (∃ report, again.1 = .ok report) ∧
      ∀ e ∈ g.world.ledger.expired g.world.now, ∀ p, e.period.roll? g.world.now = some p →
        let k : CounterKey := ⟨e.tenant, g.sweeper.meter, p.start⟩
        again.2.world.ledger.entitlement? e.tenant = some { e with period := p } ∧
          ((again.2.world.ledger.tally? k).isSome = true ↔
            ¬(a = ⟨.ensureCounter, e.tenant⟩ ∧ g.world.now ≤ p.stop ∧
              g.world.ledger.tally? k = none)) := by
  intro aborted again
  obtain ⟨hanswer, hmade, hnow, unrolled, unopened, hway, hcut⟩ :=
    Sweep.attempt_cut hlisting hkeyed hrolls hcall err
  have hagain : again = (_, _) := sweep_reliable hreliable
  have hkeyed' : aborted.2.2.ledger.Keyed := hway.keyed hkeyed
  have hdone := Sweep.answer_atOnce (w := aborted.2.2) hsecond (hnow ▸ hway.rolls hrolls)
  have hswept := Sweep.reconciled_atOnce hsecond hkeyed' hdone
  rw [hmeter, hnow] at hswept
  rw [hagain]
  refine ⟨hanswer, hmade, ⟨_, hdone⟩, ?_⟩
  intro e he p hp
  by_cases hwaits : e ∈ unrolled
  · obtain ⟨hrolled, hopened⟩ := hway.resumed_of_waiting hswept he hwaits hp
    refine ⟨hrolled, iff_of_true hopened ?_⟩
    rintro ⟨hfailed, -⟩
    exact ((hcut e he).mpr hfailed).2 hwaits
  · obtain ⟨hkept, hrow⟩ := hway.resumed_of_rolled hkeyed hswept he hwaits hp
    refine ⟨hkept, hrow.trans ?_⟩
    rw [← hcut e he, Instant.le_iff, Instant.lt_iff, Option.isSome_iff_ne_none]
    simp only [hwaits, not_false_eq_true, and_true]
    by_cases hopened : e ∈ unopened
    · simp only [hopened, not_true, false_or, true_and, not_and, ← Int.not_lt]
      exact or_iff_not_imp_left
    · simp [hopened]

/-! ### A counter that is never opened -/

/-- The trial whose period has ended, where the next counter that is opened is not. -/
def failingGate : Gate :=
  ⟨.standard, .standard, .memory [⟨.ensureCounter, none, some 1⟩], Traffic.lapsedWorld⟩

/-- The sweep that fails has rolled the period.  The next one finds nothing to do, and the period
has no counter. -/
theorem counter_missing_after_resume :
    failingGate.world.ledger.expired failingGate.world.now = [Traffic.lapsedTrial] ∧
      Traffic.lapsedTrial.period.roll? failingGate.world.now = some nextTrial ∧
      failingGate.sweep.1 = .error (.storage "injected ensure_usage_counter") ∧
      failingGate.sweep.2.sweep.1 = .ok ⟨0, 0⟩ ∧
      failingGate.sweep.2.sweep.2.world.ledger.entitlement? "acme" =
        some { Traffic.lapsedTrial with period := nextTrial } ∧
      failingGate.sweep.2.sweep.2.world.ledger.tally? ⟨"acme", defaultMeter, nextTrial.start⟩ =
        none := by
  refine ⟨by decide, by decide, ?_⟩
  unfold sweep run
  rw [Procedure.run_of_step _ rfl, Procedure.run_of_step _ rfl, Procedure.run_of_step _ rfl,
    Procedure.run_of_step _ rfl, Procedure.run_of_result _ rfl]
  dsimp only
  rw [Procedure.run_of_step _ rfl, Procedure.run_of_step _ rfl, Procedure.run_of_result _ rfl]
  decide

/-- Two tenants whose trials have ended. -/
def pairGate : Gate where
  service := .standard
  sweeper := .standard
  backend := .reliable
  world := Traffic.lapsedWorld.withLedger
    (Traffic.lapsedWorld.ledger.putEntitlement { Traffic.lapsedTrial with tenant := "globex" })

/-- The counter of the first is not opened; the next sweep rolls the period of the second and opens
its counter, and leaves the first without one. -/
theorem resumes_iff_pair :
    let calls := Sweep.calls .standard pairGate.world
    let aborted := (Sweep.procedure .standard).attempt
      (List.replicate 3 none ++ [some (.storage "down")]) .listing pairGate.world
    let again := ({ pairGate with sweeper := .standard, world := aborted.2.2 } : Gate).sweep
    calls[3]? = some ⟨.ensureCounter, "acme"⟩ ∧ aborted.1 = .error (.storage "down") ∧
      aborted.2.1 = calls.take 4 ∧
      again.2.world.ledger.entitlement? "acme" =
        some { Traffic.lapsedTrial with period := nextTrial } ∧
      (again.2.world.ledger.tally? ⟨"acme", defaultMeter, nextTrial.start⟩).isSome = false ∧
      (again.2.world.ledger.tally? ⟨"globex", defaultMeter, nextTrial.start⟩).isSome = true := by
  intro calls aborted again
  have hcall : calls[3]? = some ⟨.ensureCounter, "acme"⟩ := by decide
  have hexpired : pairGate.world.ledger.expired pairGate.world.now =
      [Traffic.lapsedTrial, { Traffic.lapsedTrial with tenant := "globex" }] := by decide
  have hroll : ∀ e ∈ pairGate.world.ledger.expired pairGate.world.now,
      e.period.roll? pairGate.world.now = some nextTrial := by decide
  obtain ⟨hanswer, hmade, -, hall⟩ := resumes_iff (g := pairGate) rfl Listing.faithful_sorted
    ((Ledger.keyed_empty.putEntitlement _).putEntitlement _) (fun e he => ⟨_, hroll e he⟩)
    Listing.faithful_sorted rfl hcall (.storage "down")
  obtain ⟨hrolled, hfirst⟩ := hall Traffic.lapsedTrial (by simp [hexpired]) nextTrial (by decide)
  obtain ⟨-, hsecond⟩ := hall { Traffic.lapsedTrial with tenant := "globex" } (by simp [hexpired])
    nextTrial (by decide)
  refine ⟨hcall, hanswer, hmade, hrolled, ?_, hsecond.mpr (by decide)⟩
  refine Bool.eq_false_iff.mpr fun hopened => hfirst.mp hopened ?_
  decide

end Gate

end Turnstile
