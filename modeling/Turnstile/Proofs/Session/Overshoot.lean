/-
What a sweep gives away.

A sweep sets a counter to the units of the events, and so it forgets what is reserved.  If
the tenant can still work, its next calls find room for those units a second time: each is
authorized and reports success, until there is no room left, and then the report of the
forgotten reservation comes in and its event is recorded all the same
(`Session.exists_overshoot`).  So the ceiling survives a sweep exactly if nothing was
reserved (`Session.ceiling_with_sweeps`).
-/
import Turnstile.Proofs.Session.Ceiling

namespace Turnstile

variable {svc : Service} {sw : Sweeper} {tenant : String} {p : Period} {limit : Int}

/-- The limiter lets a tenant call so many more times, all at one time. -/
def Throttle.Lets (tenant : String) (rate : Int) (now : Instant) : Nat → Throttle → Prop
  | 0, _ => True
  | n + 1, t =>
    (t.allow tenant rate now).1.allowed = true ∧ Lets tenant rate now n (t.allow tenant rate now).2

theorem Throttle.lets_unlimited (tenant : String) (rate : Int) (now : Instant) (n : Nat) :
    Lets tenant rate now n .unlimited := by
  induction n with
  | zero => trivial
  | succ n ih => exact ⟨rfl, ih⟩

/-! ### Ids that have not been recorded -/

/-- There is always an id of a report that has not been recorded. -/
theorem Ledger.exists_fresh (l : Ledger) :
    ∃ r : ReplayId, r.isEmpty = false ∧ r ∉ l.replays := by
  -- an id that is longer than all that have been recorded
  have hlong (ids : List String) : ∃ n, ∀ id ∈ ids, id.length < n := by
    induction ids with
    | nil => exact ⟨0, by simp⟩
    | cons id rest ih =>
        obtain ⟨n, hn⟩ := ih
        refine ⟨n + id.length + 1, ?_⟩
        intro id' hid'
        rcases List.mem_cons.mp hid' with rfl | hid'
        · omega
        · have := hn id' hid'
          omega
  obtain ⟨n, hn⟩ := hlong l.replays.toList
  refine ⟨String.ofList (List.replicate (n + 1) 'x'), ?_, ?_⟩
  · have hblank : Text.isBlank 'x' = false := by decide
    simp [ReplayId.isEmpty, Text.isBlankText, hblank]
  · intro hmem
    have hlt := hn _ (Std.ExtTreeSet.mem_toList.mpr hmem)
    rw [String.length_ofList, List.length_replicate] at hlt
    omega

namespace Session

/-- A session in which the tenant of `e` can work, its counter agrees with the log, and the report
of an earlier grant for the tool is still to come. -/
structure Owing (svc : Service) (e : Entitlement) (tool : String) (nth : Nat) (s : Session) :
    Prop where
  stored : s.world.ledger.entitlement? e.tenant = some e
  admits : e.admits s.world.now = true
  start : e.period.start ≤ s.world.now
  stop : s.world.now < e.period.stop
  counted : s.world.ledger.used ⟨e.tenant, svc.meter, e.period.start⟩ =
    s.total svc e.tenant e.period
  owed : ∃ g, s.granted[nth]? = some g ∧ g.settled = false ∧ g.reservation.tenant = e.tenant ∧
    g.reservation.Ours svc e.tenant e.period ∧ g.reservation.quantity = svc.costs.costOf tool

/-- A session in which nothing keeps the tenant from using its units up. -/
structure Workable (svc : Service) (tenant : String) (p : Period) (limit : Int) (s : Session) :
    Prop where
  admits : ∀ e, s.world.ledger.entitlement? tenant = some e → e.admits s.world.now = true
  lets : ∀ e, s.world.ledger.entitlement? tenant = some e →
    Throttle.Lets tenant e.limits.ratePerMinute s.world.now
      (limit - s.total svc tenant p).toNat s.world.throttle
  start : p.start ≤ s.world.now
  stop : s.world.now < p.stop

/-! ### A report of success -/

/-- A report of the tenant that comes in time and under an id of its own is allowed. -/
theorem allows_settle {s : Session} {nth : Nat} {g : Grant} (hg : s.granted[nth]? = some g)
    (hopen : g.settled = false) (hours : g.reservation.Ours svc tenant p)
    (hstart : p.start ≤ s.world.now) (hstop : s.world.now < p.stop) {replay : ReplayId}
    (hid : replay.isEmpty = false) (hfresh : replay ∉ s.world.ledger.replays) (tool : String)
    (audit : Option String) (status : Execution) :
    s.Allows tenant (.settle nth tool replay audit status) := by
  intro g' hg' _
  obtain rfl := Option.some.inj (hg.symm.trans hg')
  rw [hours.period]
  exact ⟨hopen, hid, hfresh, hstart, hstop⟩

/-- What the report of success does that comes in time and under an id of its own. -/
theorem settle_success (sw : Sweeper) {s : Session} {nth : Nat} {g : Grant}
    (hg : s.granted[nth]? = some g)
    (htenant : g.reservation.tenant = tenant) (hours : g.reservation.Ours svc tenant p)
    (hstart : p.start ≤ s.world.now) (hstop : s.world.now < p.stop) {replay : ReplayId}
    (hid : replay.isEmpty = false) (hfresh : replay ∉ s.world.ledger.replays) (tool : String) :
    let s' := s.settle svc sw nth tool replay none .success
    s'.granted = s.granted.set nth { g with settled := true } ∧ s'.world.now = s.world.now ∧
      s'.world.throttle = s.world.throttle ∧
      (∀ other, s'.world.ledger.entitlement? other = s.world.ledger.entitlement? other) ∧
      (∀ k, s'.world.ledger.used k = s.world.ledger.used k) ∧
      s'.total svc tenant p = s.total svc tenant p + g.reservation.quantity := by
  intro s'
  obtain ⟨-, hins, hledger⟩ := Settlement.atOnce_of_fresh
    ⟨g.reservation, tool, replay, none, .success⟩ s.world (htenant ▸ hours.named) hid hfresh
  have hs' : s' = ⟨(Settlement.atOnce ⟨g.reservation, tool, replay, none, .success⟩ s.world).2,
      s.granted.set nth { g with settled := true }⟩ := settle_of_granted hg _ _ _ _
  have hcounts : (Report.event ⟨g.reservation, tool, replay, none, .success⟩
      (.drawn s.world.drawn) s.world.now).counts tenant svc.meter p = true :=
    Report.counts_event_iff.mpr ⟨htenant, hours.meter, rfl, hstart, hstop⟩
  rw [hs']
  refine ⟨rfl, Settlement.now_atOnce _ _, Settlement.throttle_atOnce _ _, ?_, ?_, ?_⟩
  · intro other
    dsimp only
    rw [hledger, Settlement.entitlement?_settled, Ledger.entitlement?_record]
  · intro k
    dsimp only
    rw [hledger]
    exact Ledger.used_record _ _ k
  · unfold total
    dsimp only
    rw [hledger, Ledger.sum_of_events (Settlement.events_settled _ _), Ledger.sum_record hins,
      if_pos hcounts]
    rfl

/-! ### One call more -/

/-- The call that the tenant makes next, if there is room for it, passes every check. -/
theorem Owing.welcome {e : Entitlement} {tool : String} {nth : Nat} {s : Session}
    (h : s.Owing svc e tool nth)
    (hlets : (s.world.throttle.allow e.tenant e.limits.ratePerMinute s.world.now).1.allowed = true)
    (hroom : s.world.ledger.used ⟨e.tenant, svc.meter, e.period.start⟩ + svc.costs.costOf tool ≤
      e.limits.monthlyUnits) : Admission.Welcome svc e.tenant tool s.world e e.period := by
  obtain ⟨g, -, -, -, hours, -⟩ := h.owed
  have hnow : s.world.now ≤ e.period.stop := by
    have hstop := h.stop
    rw [Instant.lt_iff] at hstop
    rw [Instant.le_iff]
    omega
  exact ⟨hours.named, h.stored, Period.roll?_of_le hnow, h.admits, hlets, hroom⟩

/-- What the call does that passes every check. -/
theorem Owing.authorize (sw : Sweeper) {e : Entitlement} {tool : String} {nth : Nat} {s : Session}
    (h : s.Owing svc e tool nth)
    (hlets : (s.world.throttle.allow e.tenant e.limits.ratePerMinute s.world.now).1.allowed = true)
    (hroom : s.world.ledger.used ⟨e.tenant, svc.meter, e.period.start⟩ + svc.costs.costOf tool ≤
      e.limits.monthlyUnits) :
    let s' := s.authorize svc sw e.tenant tool
    s'.world.now = s.world.now ∧
      s'.world.throttle =
        (s.world.throttle.allow e.tenant e.limits.ratePerMinute s.world.now).2 ∧
      s'.world.ledger.entitlement? e.tenant = some e ∧
      s'.world.ledger.used ⟨e.tenant, svc.meter, e.period.start⟩ =
        s.world.ledger.used ⟨e.tenant, svc.meter, e.period.start⟩ + svc.costs.costOf tool ∧
      s'.total svc e.tenant e.period = s.total svc e.tenant e.period ∧
      ∃ r, s'.granted = s.granted ++ [⟨r, false⟩] ∧ r.tenant = e.tenant ∧
        r.Ours svc e.tenant e.period ∧ r.quantity = svc.costs.costOf tool := by
  intro s'
  have hwelcome := h.welcome hlets hroom
  obtain ⟨hanswer, hledger, hthrottle⟩ := Admission.atOnce_of_welcome hwelcome
  have hs' : s' = ⟨(Admission.atOnce svc e.tenant tool s.world).2, _⟩ := authorize_of_ok hanswer
  rw [hs']
  refine ⟨Admission.now_atOnce _ _ _ _, hthrottle, ?_, ?_, ?_, ?_⟩
  · dsimp only
    rw [hledger]
    exact Ledger.entitlement?_charged _ _ _ _ _ h.stored
  · dsimp only
    rw [hledger, Ledger.used_charged, if_pos rfl]
  · unfold total
    dsimp only
    rw [hledger]
    exact Ledger.sum_of_events (Ledger.events_charged ..) _ _ _
  · exact ⟨_, rfl, rfl, ⟨hwelcome.named, rfl, rfl, tool, rfl⟩, rfl⟩

/-- **One call more**: it is authorized, it reports success, and the tenant still owes the report
of the earlier one. -/
theorem Owing.turn (sw : Sweeper) {e : Entitlement} {tool : String} {nth : Nat} {s : Session}
    (h : s.Owing svc e tool nth)
    (hlets : (s.world.throttle.allow e.tenant e.limits.ratePerMinute s.world.now).1.allowed = true)
    (hroom : s.world.ledger.used ⟨e.tenant, svc.meter, e.period.start⟩ + svc.costs.costOf tool ≤
      e.limits.monthlyUnits) :
    ∃ replay, let errands : List Errand :=
        [.authorize e.tenant tool, .settle s.granted.length tool replay none .success]
      let s' := s.run svc sw errands
      s.Orderly svc sw e.tenant e.period errands ∧ s'.Owing svc e tool nth ∧
        s'.world.now = s.world.now ∧
        s'.world.throttle =
          (s.world.throttle.allow e.tenant e.limits.ratePerMinute s.world.now).2 ∧
        s'.total svc e.tenant e.period =
          s.total svc e.tenant e.period + svc.costs.costOf tool := by
  obtain ⟨hnow, hthrottle, hstored, hused, htotal, r, hgranted, htenant, hours, hquantity⟩ :=
    h.authorize sw hlets hroom
  generalize hs₁ : s.authorize svc sw e.tenant tool = s₁ at *
  obtain ⟨replay, hid, hfresh⟩ := s₁.world.ledger.exists_fresh
  have hnew : s₁.granted[s.granted.length]? = some ⟨r, false⟩ := by
    rw [hgranted]
    simp
  have hstart : e.period.start ≤ s₁.world.now := hnow ▸ h.start
  have hstop : s₁.world.now < e.period.stop := hnow ▸ h.stop
  obtain ⟨hgranted', hnow', hthrottle', hstored', hused', htotal'⟩ :=
    settle_success sw hnew htenant hours hstart hstop hid hfresh tool
  have hrun : s.run svc sw [.authorize e.tenant tool,
      .settle s.granted.length tool replay none .success] =
        s₁.settle svc sw s.granted.length tool replay none .success := by
    rw [← hs₁]
    rfl
  refine ⟨replay, ⟨trivial, ?_, ?_, ?_, trivial⟩, ?_, ?_, ?_, ?_⟩
  · show (s.authorize svc sw e.tenant tool).InPeriod e.tenant e.period
    rw [hs₁]
    exact inPeriod_of_stored hstored
  · show (s.authorize svc sw e.tenant tool).Allows e.tenant _
    rw [hs₁]
    exact allows_settle hnew rfl hours hstart hstop hid hfresh _ _ _
  · show ((s.authorize svc sw e.tenant tool).settle svc sw _ _ _ _ _).InPeriod e.tenant e.period
    rw [hs₁]
    exact inPeriod_of_stored ((hstored' e.tenant).trans hstored)
  · rw [hrun]
    obtain ⟨g, hg, howed⟩ := h.owed
    have hlt : nth < s.granted.length := (List.getElem?_eq_some_iff.mp hg).1
    refine ⟨(hstored' e.tenant).trans hstored, ?_, ?_, ?_, ?_, g, ?_, howed⟩
    · rw [hnow', hnow]
      exact h.admits
    · rw [hnow']
      exact hstart
    · rw [hnow']
      exact hstop
    · rw [hused', hused, htotal', htotal, hquantity, h.counted]
    · rw [hgranted', hgranted, List.getElem?_set_ne (by omega), List.getElem?_append_left hlt]
      exact hg
  · rw [hrun, hnow', hnow]
  · rw [hrun, hthrottle', hthrottle]
  · rw [hrun, htotal', htotal, hquantity]

/-! ### Until there is no room -/

/-- With no room left, the report that is owed goes over the limit. -/
theorem Owing.last (sw : Sweeper) {e : Entitlement} {tool : String} {nth : Nat} {s : Session}
    (h : s.Owing svc e tool nth)
    (hfull : e.limits.monthlyUnits <
      s.world.ledger.used ⟨e.tenant, svc.meter, e.period.start⟩ + svc.costs.costOf tool) :
    ∃ replay, let errands : List Errand := [.settle nth tool replay none .success]
      s.Orderly svc sw e.tenant e.period errands ∧
        e.limits.monthlyUnits < (s.run svc sw errands).total svc e.tenant e.period := by
  obtain ⟨g, hg, hopen, htenant, hours, hquantity⟩ := h.owed
  obtain ⟨replay, hid, hfresh⟩ := s.world.ledger.exists_fresh
  obtain ⟨-, -, -, hstored, -, htotal⟩ :=
    settle_success sw hg htenant hours h.start h.stop hid hfresh tool
  refine ⟨replay, ⟨?_, ?_, trivial⟩, ?_⟩
  · exact allows_settle hg hopen hours h.start h.stop hid hfresh _ _ _
  · show (s.settle svc sw nth tool replay none .success).InPeriod e.tenant e.period
    exact inPeriod_of_stored ((hstored e.tenant).trans h.stored)
  · show _ < (s.settle svc sw nth tool replay none .success).total svc e.tenant e.period
    rw [htotal, hquantity, ← h.counted]
    exact hfull

/-- **A tenant that owes a report can overshoot.**  It uses up what is left, and then the report
comes in. -/
theorem Owing.exists_overshoot (sw : Sweeper) {e : Entitlement} {tool : String} {nth n : Nat}
    {s : Session} (h : s.Owing svc e tool nth)
    (hlets : Throttle.Lets e.tenant e.limits.ratePerMinute s.world.now n s.world.throttle)
    (hleft : e.limits.monthlyUnits - s.total svc e.tenant e.period ≤ n) :
    ∃ more : List Errand, .sweep ∉ more ∧ s.Orderly svc sw e.tenant e.period more ∧
      e.limits.monthlyUnits < (s.run svc sw more).total svc e.tenant e.period := by
  have hpos : 0 < svc.costs.costOf tool := svc.costs.costOf_pos tool
  induction n generalizing s with
  | zero =>
    have hcounted := h.counted
    obtain ⟨replay, horderly, hover⟩ := h.last sw (by omega)
    exact ⟨_, by simp, horderly, hover⟩
  | succ n ih =>
    have hcounted := h.counted
    by_cases hroom : s.world.ledger.used ⟨e.tenant, svc.meter, e.period.start⟩ +
        svc.costs.costOf tool ≤ e.limits.monthlyUnits
    · obtain ⟨replay, horderly, howing, hnow, hthrottle, htotal⟩ :=
        h.turn sw hlets.1 hroom
      obtain ⟨more, hsweep, horderly', hover⟩ := ih howing
        (by rw [hnow, hthrottle]; exact hlets.2) (by rw [htotal]; omega)
      refine ⟨_ ++ more, ?_, orderly_append horderly horderly', ?_⟩
      · simpa using hsweep
      · rw [run_append]
        exact hover
    · obtain ⟨replay, horderly, hover⟩ := h.last sw (by omega)
      exact ⟨_, by simp, horderly, hover⟩

/-- A sweep that finds something reserved leaves the tenant owing the report of it. -/
theorem Workable.owing_sweep {s : Session} (hlisting : sw.listing.Faithful)
    (h : s.world.ledger.Covers svc tenant p limit s.granted) (hperiod : s.InPeriod tenant p)
    (hwork : s.Workable svc tenant p limit) (hbusy : ¬ s.Idle tenant) :
    ∃ e tool nth, s.world.ledger.entitlement? tenant = some e ∧ e.tenant = tenant ∧
      e.period = p ∧ e.limits.monthlyUnits = limit ∧ (s.sweep svc sw).Owing svc e tool nth := by
  obtain ⟨e, he, rfl⟩ := Option.map_eq_some_iff.mp hperiod
  obtain rfl : e.tenant = tenant := h.keyed tenant e he
  have hrunning : e.isExpired s.world.now = false := by
    have hstop := hwork.stop
    rw [Instant.lt_iff] at hstop
    simp only [Entitlement.isExpired, Instant.lt_iff, decide_eq_false_iff_not]
    omega
  unfold Idle at hbusy
  simp only [not_forall] at hbusy
  obtain ⟨g, hmem, htenant, hopen⟩ := hbusy
  obtain ⟨hours, hstop⟩ := h.ours g hmem htenant
  obtain ⟨tool, hprice⟩ := hours.priced
  obtain ⟨nth, hnth⟩ := List.getElem?_of_mem hmem
  refine ⟨e, tool, nth, he, rfl, rfl, h.limited e he, ?_⟩
  rw [sweep_eq]
  refine ⟨Sweep.entitlement?_atOnce hlisting h.keyed he hrunning, hwork.admits e he, hwork.start,
    hwork.stop, ?_, g, hnth, by simpa using hopen, htenant, hours, hprice⟩
  -- the count is what the log says, and nothing about the reservation
  unfold total
  dsimp only
  rw [Sweep.sum_atOnce hlisting h.keyed]
  exact Sweep.used_atOnce hlisting h.keyed hstop

/-! ### What a sweep may find -/

theorem sweepsIdle_of_not_mem {s : Session} {errands : List Errand} (h : .sweep ∉ errands) :
    s.SweepsIdle svc sw tenant errands := by
  induction errands generalizing s with
  | nil => trivial
  | cons e rest ih =>
      rw [List.mem_cons, not_or] at h
      exact ⟨fun he => absurd he.symm h.1, ih h.2⟩

/-- A sweep that does not find a tenant idle that can work is not safe. -/
theorem Workable.exists_overshoot {s : Session} (hlisting : sw.listing.Faithful)
    (h : s.world.ledger.Covers svc tenant p limit s.granted) (hperiod : s.InPeriod tenant p)
    (hwork : s.Workable svc tenant p limit) (hbusy : ¬ s.Idle tenant) :
    ∃ more : List Errand, .sweep ∉ more ∧ s.Orderly svc sw tenant p (.sweep :: more) ∧
      limit < (s.run svc sw (.sweep :: more)).total svc tenant p := by
  obtain ⟨e, tool, nth, hstored, rfl, rfl, rfl, howing⟩ :=
    hwork.owing_sweep hlisting h hperiod hbusy
  have htotal : (s.sweep svc sw).total svc e.tenant e.period = s.total svc e.tenant e.period := by
    rw [sweep_eq]
    exact Sweep.sum_atOnce hlisting h.keyed _ _ _
  have hlets : Throttle.Lets e.tenant e.limits.ratePerMinute (s.sweep svc sw).world.now
      (e.limits.monthlyUnits - s.total svc e.tenant e.period).toNat
      (s.sweep svc sw).world.throttle := by
    rw [sweep_eq]
    exact hwork.lets e hstored
  obtain ⟨more, hsweep, horderly, hover⟩ :=
    howing.exists_overshoot sw hlets (by rw [htotal]; omega)
  refine ⟨more, hsweep, ⟨trivial, ?_, horderly⟩, hover⟩
  show (s.sweep svc sw).InPeriod e.tenant e.period
  exact inPeriod_of_stored howing.stored

/-- **The ceiling holds in every orderly session whose sweeps find the tenant idle, and a sweep
that does not find it idle breaks it**: after such a sweep a tenant that can work has a way on,
without another sweep, that ends above the limit. -/
theorem ceiling_with_sweeps (hlisting : sw.listing.Faithful) {w : World}
    (h : Balanced svc tenant p limit w) {errands : List Errand}
    (horderly : (start w).Orderly svc sw tenant p errands)
    (hidle : (start w).SweepsIdle svc sw tenant errands) :
    let s := (start w).run svc sw errands
    s.total svc tenant p ≤ limit ∧
      (s.Workable svc tenant p limit →
        ((∀ more, s.Orderly svc sw tenant p (.sweep :: more) →
            (s.step svc sw .sweep).SweepsIdle svc sw tenant more →
            (s.run svc sw (.sweep :: more)).total svc tenant p ≤ limit) ↔
          s.Idle tenant)) := by
  intro s
  obtain ⟨hstart, hperiod⟩ := covers_start h
  obtain ⟨hcovers, hperiod⟩ := covers_run hlisting hstart hperiod horderly hidle
  refine ⟨hcovers.sum_le, ?_⟩
  intro hwork
  constructor
  · intro hsafe
    by_contra hbusy
    obtain ⟨more, hsweep, horderly', hover⟩ :=
      hwork.exists_overshoot hlisting hcovers hperiod hbusy
    have hle := hsafe more horderly' (sweepsIdle_of_not_mem hsweep)
    exact absurd hle (Int.not_le.mpr hover)
  · intro hrest more horderly' hidle'
    have hfirst : s.SweepsIdle svc sw tenant (.sweep :: more) := ⟨fun _ => hrest, hidle'⟩
    exact (covers_run hlisting hcovers hperiod horderly' hfirst).1.sum_le

/-! ### Two units where there is one -/

/-- The first thirty days. -/
def month : Period := ⟨⟨0⟩, ⟨30 * Span.day⟩⟩

/-- A tenant with one unit. -/
def oneUnit : Entitlement where
  tenant := "acme"
  plan := "pro"
  status := .active
  limits := ⟨60, 1⟩
  period := month
  graceUntil := none
  updatedAt := ⟨0⟩

/-- A world in which there is nothing else, on its tenth day. -/
def oneUnitWorld : World :=
  ⟨Ledger.empty.putEntitlement oneUnit, .unlimited, .new .standard, ⟨10 * Span.day⟩, 0⟩

/-- A sweep between two calls, before either has reported. -/
def sweptBetween : List Errand :=
  [.authorize "acme" "search", .sweep, .authorize "acme" "search",
    .settle 0 "search" "a" none .success, .settle 1 "search" "b" none .success]

theorem balanced_oneUnitWorld : Balanced .standard "acme" month 1 oneUnitWorld where
  keyed := Ledger.keyed_empty.putEntitlement oneUnit
  stored := ⟨oneUnit, by decide, rfl, rfl⟩
  counted := by decide
  within := by decide
  ends stop hstop := by
    have hnone : oneUnitWorld.ledger.stop? ⟨"acme", defaultMeter, month.start⟩ = none := by decide
    exact nomatch hnone.symm.trans hstop

/-- These errands do all that is asked of them, and two units are recorded. -/
theorem ceiling_broken_by_sweep :
    Balanced .standard "acme" month 1 oneUnitWorld ∧
      (start oneUnitWorld).Orderly .standard .standard "acme" month sweptBetween ∧
      1 < ((start oneUnitWorld).run .standard .standard sweptBetween).total .standard "acme"
        month := by
  refine ⟨balanced_oneUnitWorld, ?_, ?_⟩
  · simp only [sweptBetween, Orderly, step, authorize_eq, settle_eq, sweep_eq]
    decide
  · simp only [sweptBetween, run, List.foldl, step, authorize_eq, settle_eq, sweep_eq]
    decide

/-- After the first of them the tenant can work, and it is not idle. -/
theorem workable_one_unit :
    let s := (start oneUnitWorld).run .standard .standard [.authorize "acme" "search"]
    s.Workable .standard "acme" month 1 ∧ ¬ s.Idle "acme" := by
  intro s
  have hstored : s.world.ledger.entitlement? "acme" = some oneUnit := by
    simp only [s, run, List.foldl, step, authorize_eq]
    decide
  have hnow : s.world.now = ⟨10 * Span.day⟩ := by
    simp only [s, run, List.foldl, step, authorize_eq]
    decide
  have hthrottle : s.world.throttle = .unlimited := by
    simp only [s, run, List.foldl, step, authorize_eq]
    rfl
  refine ⟨⟨?_, ?_, ?_, ?_⟩, ?_⟩
  · intro e he
    rw [hstored] at he
    rw [← Option.some.inj he]
    rfl
  · intro e _
    rw [hthrottle]
    exact Throttle.lets_unlimited _ _ _ _
  · rw [hnow]
    decide
  · rw [hnow]
    decide
  · simp only [s, run, List.foldl, step, authorize_eq]
    decide

/-- So the ceiling holds, and of a sweep that comes next it is said that it is not safe. -/
theorem ceiling_with_sweeps_one_unit :
    let s := (start oneUnitWorld).run .standard .standard [.authorize "acme" "search"]
    (s.Workable .standard "acme" month 1 ∧ ¬ s.Idle "acme") ∧ s.total .standard "acme" month ≤ 1 ∧
      (s.Workable .standard "acme" month 1 →
        ((∀ more, s.Orderly .standard .standard "acme" month (.sweep :: more) →
            (s.step .standard .standard .sweep).SweepsIdle .standard .standard "acme" more →
            (s.run .standard .standard (.sweep :: more)).total .standard "acme" month ≤ 1) ↔
          s.Idle "acme")) := by
  refine ⟨workable_one_unit,
    ceiling_with_sweeps Listing.faithful_sorted balanced_oneUnitWorld ?_ ?_⟩
  · simp only [Orderly, step, authorize_eq]
    decide
  · exact sweepsIdle_of_not_mem (by decide)

end Session

end Turnstile
