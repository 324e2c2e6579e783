/-
The ceiling with the sweep running.

The count on a tenant's counter covers the units of its successful events and those that
are still reserved, and it never exceeds the limit (`Ledger.Covers`).  Admission and
settlement keep that, whatever happens.  The sweep sets the count to the units of the
events alone, and keeps it only if nothing is reserved: so the ceiling holds for sessions
in which the sweep always finds the tenant idle.
-/
import Mathlib.Algebra.Order.BigOperators.Group.List
import Turnstile.Proofs.Session.Basic

namespace Turnstile

variable {svc : Service} {sw : Sweeper} {tenant : String} {p : Period} {limit : Int}
  {l l' : Ledger} {granted granted' : List Grant}

/-- A reservation of the tenant that was made in the period. -/
structure Reservation.Ours (svc : Service) (tenant : String) (p : Period) (r : Reservation) :
    Prop where
  named : Text.isBlankText tenant = false
  period : r.period = p
  meter : r.meter = svc.meter
  priced : ∃ tool, r.quantity = svc.costs.costOf tool

theorem Reservation.Ours.pos {r : Reservation} (h : r.Ours svc tenant p) : 0 < r.quantity := by
  obtain ⟨tool, hprice⟩ := h.priced
  rw [hprice]
  exact svc.costs.costOf_pos tool

/-! ### What is outstanding -/

theorem outstanding_append (granted : List Grant) (g : Grant) :
    outstanding tenant (granted ++ [g]) = outstanding tenant granted + g.due tenant := by
  simp [outstanding]

/-- Settling a grant takes what it keeps reserved off what is outstanding. -/
theorem outstanding_settle {nth : Nat} {g : Grant} (h : granted[nth]? = some g) :
    outstanding tenant (granted.set nth { g with settled := true }) =
      outstanding tenant granted - g.due tenant := by
  have hdue : ({ g with settled := true } : Grant).due tenant = 0 := by simp [Grant.due]
  unfold outstanding
  rw [sum_map_set (Grant.due tenant) h, hdue]
  omega

theorem outstanding_nonneg
    (h : ∀ g ∈ granted, g.reservation.tenant = tenant → 0 < g.reservation.quantity) :
    0 ≤ outstanding tenant granted := by
  unfold outstanding
  refine List.sum_nonneg ?_
  intro n hn
  obtain ⟨g, hg, rfl⟩ := List.mem_map.mp hn
  unfold Grant.due
  split
  · next hours => exact Int.le_of_lt (h g hg hours.1)
  · exact Int.le_refl 0

theorem outstanding_idle (h : ∀ g ∈ granted, g.reservation.tenant = tenant → g.settled = true) :
    outstanding tenant granted = 0 := by
  unfold outstanding
  refine List.sum_eq_zero ?_
  intro n hn
  obtain ⟨g, hg, rfl⟩ := List.mem_map.mp hn
  unfold Grant.due
  refine if_neg ?_
  rintro ⟨htenant, hopen⟩
  rw [h g hg htenant] at hopen
  cases hopen

/-! ### Counters that cover -/

namespace Ledger

/-- The tenant's counter covers its events and what is reserved, within the limit. -/
structure Covers (svc : Service) (tenant : String) (p : Period) (limit : Int)
    (granted : List Grant) (l : Ledger) : Prop where
  keyed : l.Keyed
  limited : ∀ e, l.entitlement? tenant = some e → e.limits.monthlyUnits = limit
  ends : ∀ stop, l.stop? ⟨tenant, svc.meter, p.start⟩ = some stop → stop = p.stop
  ours : ∀ g ∈ granted, g.reservation.tenant = tenant → g.reservation.Ours svc tenant p ∧
    l.stop? ⟨tenant, svc.meter, p.start⟩ = some p.stop
  covers : l.sum tenant svc.meter p + outstanding tenant granted ≤
    l.used ⟨tenant, svc.meter, p.start⟩
  within : l.used ⟨tenant, svc.meter, p.start⟩ ≤ limit

/-- Units that are covered are within the limit. -/
theorem Covers.sum_le (h : l.Covers svc tenant p limit granted) :
    l.sum tenant svc.meter p ≤ limit := by
  have hopen : 0 ≤ outstanding tenant granted :=
    outstanding_nonneg fun g hg htenant => (h.ours g hg htenant).1.pos
  have hcovers := h.covers
  have hwithin := h.within
  omega

/-- A write that keeps the terms, and the end of the tenant's counter or sets it to that of the
period, keeps the counter covering if the units are right afterwards. -/
theorem Covers.next (h : l.Covers svc tenant p limit granted) (hterms : l.SameTerms l')
    (hends : l'.stop? ⟨tenant, svc.meter, p.start⟩ = l.stop? ⟨tenant, svc.meter, p.start⟩ ∨
      l'.stop? ⟨tenant, svc.meter, p.start⟩ = some p.stop)
    (hours : ∀ g ∈ granted', g.reservation.tenant = tenant →
      (∃ g₀ ∈ granted, g₀.reservation = g.reservation) ∨
        g.reservation.Ours svc tenant p ∧
          l'.stop? ⟨tenant, svc.meter, p.start⟩ = some p.stop)
    (hcovers : l'.sum tenant svc.meter p + outstanding tenant granted' ≤
      l'.used ⟨tenant, svc.meter, p.start⟩)
    (hwithin : l'.used ⟨tenant, svc.meter, p.start⟩ ≤ limit) :
    l'.Covers svc tenant p limit granted' := by
  refine ⟨h.keyed.of_sameTerms hterms, ?_, ?_, ?_, hcovers, hwithin⟩
  · intro e he
    obtain ⟨e₀, he₀, hlimits⟩ := hterms.limits he
    rw [← hlimits]
    exact h.limited e₀ he₀
  · intro stop hstop
    rcases hends with hsame | hset
    · exact h.ends stop (hsame ▸ hstop)
    · rw [hset] at hstop
      exact (Option.some.inj hstop).symm
  · intro g hg htenant
    rcases hours g hg htenant with ⟨g₀, hg₀, hsame⟩ | hnew
    · obtain ⟨hold, hstop⟩ := h.ours g₀ hg₀ (hsame ▸ htenant)
      refine ⟨hsame ▸ hold, ?_⟩
      rcases hends with hkept | hset
      · rw [hkept]
        exact hstop
      · exact hset
    · exact hnew

/-- Settling a grant leaves the reservations what they are. -/
theorem exists_granted_of_set {nth : Nat} {g : Grant} (h : granted[nth]? = some g) :
    ∀ g' ∈ granted.set nth { g with settled := true },
      ∃ g₀ ∈ granted, g₀.reservation = g'.reservation := by
  intro g' hg'
  rcases List.mem_or_eq_of_mem_set hg' with hold | rfl
  · exact ⟨g', hold, rfl⟩
  · exact ⟨g, List.mem_of_getElem? h, rfl⟩

/-! ### Admission -/

/-- A counter that is opened for some tenant, in the period that it is in. -/
theorem Covers.ensureCounter (h : l.Covers svc tenant p limit granted)
    (hperiod : (l.entitlement? tenant).map (·.period) = some p) {other : String} {e : Entitlement}
    (he : l.entitlement? other = some e) {now : Instant} {q : Period}
    (hq : e.period.roll? now = some q) :
    (l.ensureCounter other svc.meter q).Covers svc tenant p limit granted := by
  refine h.next (fun _ => rfl) ?_ (fun g hg _ => .inl ⟨g, hg, rfl⟩) ?_ ?_
  · rw [stop?_ensureCounter]
    split
    · next hk =>
      -- the period that counts starts where the stored one does, so it is the stored one
      obtain ⟨htenant, -, hstart⟩ := CounterKey.mk.inj hk
      subst htenant
      rw [he] at hperiod
      obtain rfl := Option.some.inj hperiod
      have hsame := (Period.shifted_of_roll? hq).eq_of_start hstart
      exact .inr (by rw [hsame])
    · exact .inl rfl
  · rw [used_ensureCounter]
    exact h.covers
  · rw [used_ensureCounter]
    exact h.within

/-- The units of a reservation of the tenant are added to its counter, and to what is
outstanding. -/
theorem Covers.charged (h : l.Covers svc tenant p limit granted) {e : Entitlement}
    (he : l.entitlement? tenant = some e) {r : Reservation} (htenant : r.tenant = tenant)
    (hours : r.Ours svc tenant p)
    (hroom : l.used ⟨tenant, svc.meter, p.start⟩ + r.quantity ≤ e.limits.monthlyUnits) :
    (l.charged tenant svc.meter p r.quantity).Covers svc tenant p limit
      (granted ++ [⟨r, false⟩]) := by
  have hlimit := h.limited e he
  have hcovers := h.covers
  have hdue : Grant.due tenant ⟨r, false⟩ = r.quantity := if_pos ⟨htenant, rfl⟩
  have hstop : (l.charged tenant svc.meter p r.quantity).stop? ⟨tenant, svc.meter, p.start⟩ =
      some p.stop := by
    rw [stop?_charged, if_pos rfl]
  refine h.next (sameTerms_charged l tenant svc.meter p _) (.inr hstop) ?_ ?_ ?_
  · intro g hg _
    rcases List.mem_append.mp hg with hold | hnew
    · exact .inl ⟨g, hold, rfl⟩
    · obtain rfl := List.mem_singleton.mp hnew
      exact .inr ⟨hours, hstop⟩
  · rw [used_charged, if_pos rfl, outstanding_append, hdue, sum_of_events (events_charged ..)]
    omega
  · rw [used_charged, if_pos rfl]
    omega

/-- A reservation of another tenant changes nothing about the counter. -/
theorem Covers.charged_of_ne (h : l.Covers svc tenant p limit granted) {r : Reservation}
    (htenant : r.tenant ≠ tenant) (q : Period) :
    (l.charged r.tenant svc.meter q r.quantity).Covers svc tenant p limit
      (granted ++ [⟨r, false⟩]) := by
  have hkey : (⟨r.tenant, svc.meter, q.start⟩ : CounterKey) ≠ ⟨tenant, svc.meter, p.start⟩ :=
    fun hk => htenant (CounterKey.mk.inj hk).1
  have hdue : Grant.due tenant ⟨r, false⟩ = 0 := if_neg fun hc => htenant hc.1
  refine h.next (sameTerms_charged l r.tenant svc.meter q _) (.inl ?_) ?_ ?_ ?_
  · rw [stop?_charged, if_neg hkey]
  · intro g hg hg'
    rcases List.mem_append.mp hg with hold | hnew
    · exact .inl ⟨g, hold, rfl⟩
    · obtain rfl := List.mem_singleton.mp hnew
      exact absurd hg' htenant
  · rw [used_charged, if_neg hkey, outstanding_append, hdue, sum_of_events (events_charged ..),
      Int.add_zero]
    exact h.covers
  · rw [used_charged, if_neg hkey]
    exact h.within

/-! ### Settlement -/

/-- The report of another tenant changes nothing about the counter. -/
theorem Covers.settled_of_ne (h : l.Covers svc tenant p limit granted) {report : Report}
    (hne : report.reservation.tenant ≠ tenant) {id : EventId} {now : Instant}
    (hins : (l.record (report.event id now)).1 = .inserted) :
    (Settlement.settled report (l.record (report.event id now)).2).Covers svc tenant p limit
      granted := by
  have hkey : report.counter ≠ ⟨tenant, svc.meter, p.start⟩ :=
    fun hk => hne (CounterKey.mk.inj hk).1
  have hcounts : ¬ (report.event id now).counts tenant svc.meter p = true :=
    fun hc => hne (Report.counts_event_iff.mp hc).1
  have hused : (Settlement.settled report (l.record (report.event id now)).2).used
      ⟨tenant, svc.meter, p.start⟩ = l.used ⟨tenant, svc.meter, p.start⟩ := by
    rw [Settlement.used_settled_of_ne _ _ hkey, used_record]
  refine h.next ?_ (.inl ?_) (fun g hg _ => .inl ⟨g, hg, rfl⟩) ?_ ?_
  · intro other
    simp [terms?]
  · simp
  · rw [hused, sum_of_events (Settlement.events_settled _ _), sum_record hins, if_neg hcounts,
      Int.add_zero]
    exact h.covers
  · rw [hused]
    exact h.within

/-- The report of a grant of the tenant that comes inside the period: what was outstanding is now
recorded, or given back. -/
theorem Covers.settled (h : l.Covers svc tenant p limit granted) {nth : Nat} {g : Grant}
    (hg : granted[nth]? = some g) (htenant : g.reservation.tenant = tenant)
    (hopen : g.settled = false) {report : Report} (hreport : report.reservation = g.reservation)
    {id : EventId} {now : Instant} (hstart : p.start ≤ now) (hstop : now < p.stop)
    (hins : (l.record (report.event id now)).1 = .inserted) :
    (Settlement.settled report (l.record (report.event id now)).2).Covers svc tenant p limit
      (granted.set nth { g with settled := true }) := by
  have hours := (h.ours g (List.mem_of_getElem? hg) htenant).1
  have hpos := hours.pos
  have hdue : g.due tenant = g.reservation.quantity := if_pos ⟨htenant, hopen⟩
  have hcounts : (report.event id now).counts tenant svc.meter p = true ↔
      report.status = .success := by
    rw [Report.counts_event_iff, hreport]
    exact ⟨fun hc => hc.2.2.1, fun hs => ⟨htenant, hours.meter, hs, hstart, hstop⟩⟩
  refine h.next ?_ (.inl ?_) (fun g' hg' _ => .inl (exists_granted_of_set hg g' hg')) ?_ ?_
  · intro other
    simp [terms?]
  · simp
  · have hback := Settlement.le_used_settled report (l.record (report.event id now)).2
      (by rw [hreport]; omega) ⟨tenant, svc.meter, p.start⟩
    have hcovers := h.covers
    rw [used_record, hreport] at hback
    rw [sum_of_events (Settlement.events_settled _ _), sum_record hins, outstanding_settle hg,
      hdue, Report.quantity_event, hreport]
    simp only [hcounts]
    by_cases hstatus : report.status = .success
    · rw [if_pos hstatus] at hback ⊢
      omega
    · rw [if_neg hstatus] at hback ⊢
      omega
  · have hle := Settlement.used_settled_le report (l.record (report.event id now)).2
      ⟨tenant, svc.meter, p.start⟩
    rw [used_record] at hle
    exact Int.le_trans hle h.within

end Ledger

namespace Session

/-- Authorizing a tool keeps the counter covering, if it leaves the tenant in the period. -/
theorem covers_authorize {s : Session} (h : s.world.ledger.Covers svc tenant p limit s.granted)
    (hperiod : s.InPeriod tenant p) (other tool : String)
    (hperiod' : (s.authorize svc sw other tool).InPeriod tenant p) :
    (s.authorize svc sw other tool).world.ledger.Covers svc tenant p limit
      (s.authorize svc sw other tool).granted := by
  by_cases hok : ∃ r, (Admission.atOnce svc other tool s.world).1 = .ok r
  · obtain ⟨e, q, hwelcome⟩ := Admission.atOnce_eq_ok_iff.mp hok
    obtain ⟨hanswer, hledger, -⟩ := Admission.atOnce_of_welcome hwelcome
    rw [authorize_of_ok hanswer] at hperiod' ⊢
    dsimp only
    rw [hledger]
    by_cases hother : other = tenant
    · subst hother
      -- the period that is stored now is the one that the call was charged in
      have hq : q = p := by
        unfold InPeriod at hperiod'
        dsimp only at hperiod'
        rw [hledger, Ledger.entitlement?_charged _ _ _ _ _ hwelcome.stored] at hperiod'
        exact Option.some.inj hperiod'
      subst hq
      exact h.charged hwelcome.stored rfl ⟨hwelcome.named, rfl, rfl, tool, rfl⟩ hwelcome.room
    · exact h.charged_of_ne (r := Admission.reservation svc other (svc.costs.costOf tool) _ _)
        hother q
  · have hdenied : ∀ r, (Admission.atOnce svc other tool s.world).1 ≠ .ok r := by
      intro r hr
      exact hok ⟨r, hr⟩
    rw [authorize_of_denied hdenied]
    dsimp only
    rcases Admission.ledger_of_denied hdenied with hl | ⟨e, q, he, hq, hl⟩
    · rw [hl]
      exact h
    · rw [hl]
      exact h.ensureCounter hperiod he hq

/-- A report that is allowed keeps the counter covering. -/
theorem covers_settle {s : Session} (h : s.world.ledger.Covers svc tenant p limit s.granted)
    {nth : Nat} {tool : String} {replay : ReplayId} {audit : Option String} {status : Execution}
    (hallows : s.Allows tenant (.settle nth tool replay audit status)) :
    (s.settle svc sw nth tool replay audit status).world.ledger.Covers svc tenant p limit
      (s.settle svc sw nth tool replay audit status).granted := by
  cases hg : s.granted[nth]? with
  | none =>
    rw [settle_eq, hg]
    exact h
  | some g =>
    rw [settle_of_granted hg]
    dsimp only
    by_cases htenant : g.reservation.tenant = tenant
    · obtain ⟨hopen, hid, hfresh, hstart, hstop⟩ := hallows g hg htenant
      have hours := (h.ours g (List.mem_of_getElem? hg) htenant).1
      obtain ⟨-, hins, hledger⟩ := Settlement.atOnce_of_fresh
        ⟨g.reservation, tool, replay, audit, status⟩ s.world (htenant ▸ hours.named) hid hfresh
      rw [hledger]
      rw [hours.period] at hstart hstop
      exact h.settled hg htenant hopen rfl hstart hstop hins
    · have hopen : outstanding tenant (s.granted.set nth { g with settled := true }) =
          outstanding tenant s.granted := by
        have hdue : g.due tenant = 0 := if_neg fun hc => htenant hc.1
        rw [outstanding_settle hg, hdue]
        omega
      -- with the grant marked, and whatever has come of the report
      have hmarked (l : Ledger) (hl : l.Covers svc tenant p limit s.granted) :
          l.Covers svc tenant p limit (s.granted.set nth { g with settled := true }) := by
        refine hl.next (fun _ => rfl) (.inl rfl)
          (fun g' hg' _ => .inl (Ledger.exists_granted_of_set hg g' hg')) ?_ hl.within
        rw [hopen]
        exact hl.covers
      rcases Settlement.ledger_atOnce_cases ⟨g.reservation, tool, replay, audit, status⟩
          s.world with hl | ⟨hins, hl⟩
      · rw [hl]
        exact hmarked _ h
      · rw [hl]
        exact hmarked _ (h.settled_of_ne htenant hins)

/-! ### The sweep -/

/-- The sweep keeps the counter covering, if the tenant is idle. -/
theorem covers_sweep {s : Session} (hlisting : sw.listing.Faithful)
    (h : s.world.ledger.Covers svc tenant p limit s.granted) (hperiod : s.InPeriod tenant p)
    (hidle : s.Idle tenant) :
    (s.sweep svc sw).world.ledger.Covers svc tenant p limit (s.sweep svc sw).granted := by
  obtain ⟨e, he, rfl⟩ := Option.map_eq_some_iff.mp hperiod
  have hnone : outstanding tenant s.granted = 0 := outstanding_idle hidle
  have hcovers := h.covers
  have hwithin := h.within
  -- the count goes down to the units of the events, or there is no counter
  have hbetween : s.world.ledger.sum tenant svc.meter e.period ≤
        (Sweep.atOnce sw s.world).2.ledger.used ⟨tenant, svc.meter, e.period.start⟩ ∧
      (Sweep.atOnce sw s.world).2.ledger.used ⟨tenant, svc.meter, e.period.start⟩ ≤
        s.world.ledger.used ⟨tenant, svc.meter, e.period.start⟩ := by
    cases hstop : s.world.ledger.stop? ⟨tenant, svc.meter, e.period.start⟩ with
    | none =>
      have hunused : s.world.ledger.used ⟨tenant, svc.meter, e.period.start⟩ = 0 :=
        Ledger.used_of_absent (Option.map_eq_none_iff.mp hstop)
      rw [Sweep.used_atOnce_of_absent hlisting h.keyed hstop]
      omega
    | some stop =>
      obtain rfl := h.ends stop hstop
      have hle : s.world.ledger.sum tenant svc.meter e.period ≤
          s.world.ledger.used ⟨tenant, svc.meter, e.period.start⟩ := by omega
      rw [Sweep.used_atOnce hlisting h.keyed hstop]
      exact ⟨Int.le_refl _, hle⟩
  rw [sweep_eq]
  refine h.next (Sweep.sameTerms_atOnce hlisting h.keyed) ?_ (fun g hg _ => .inl ⟨g, hg, rfl⟩) ?_ ?_
  · exact Sweep.stop?_atOnce hlisting h.keyed he svc.meter
  · rw [Sweep.sum_atOnce hlisting h.keyed]
    dsimp only
    omega
  · dsimp only
    omega

/-! ### Sessions -/

/-- An errand of an orderly session keeps the counter covering, unless it is a sweep that finds
something reserved. -/
theorem covers_step {s : Session} (hlisting : sw.listing.Faithful)
    (h : s.world.ledger.Covers svc tenant p limit s.granted) (hperiod : s.InPeriod tenant p)
    {e : Errand} (hallows : s.Allows tenant e) (hperiod' : (s.step svc sw e).InPeriod tenant p)
    (hidle : e = .sweep → s.Idle tenant) :
    (s.step svc sw e).world.ledger.Covers svc tenant p limit (s.step svc sw e).granted := by
  cases e with
  | clock now => exact h
  | authorize other tool => exact covers_authorize h hperiod other tool hperiod'
  | settle nth tool replay audit status => exact covers_settle h hallows
  | sweep => exact covers_sweep hlisting h hperiod (hidle rfl)

/-- An orderly session whose sweeps find the tenant idle keeps the counter covering. -/
theorem covers_run {s : Session} (hlisting : sw.listing.Faithful)
    (h : s.world.ledger.Covers svc tenant p limit s.granted) (hperiod : s.InPeriod tenant p)
    {errands : List Errand} (horderly : s.Orderly svc sw tenant p errands)
    (hidle : s.SweepsIdle svc sw tenant errands) :
    (s.run svc sw errands).world.ledger.Covers svc tenant p limit
        (s.run svc sw errands).granted ∧ (s.run svc sw errands).InPeriod tenant p := by
  induction errands generalizing s with
  | nil => exact ⟨h, hperiod⟩
  | cons e rest ih =>
      obtain ⟨hallows, hperiod', horderly⟩ := horderly
      exact ih (covers_step hlisting h hperiod hallows hperiod' hidle.1) hperiod' horderly hidle.2

/-! ### Where it starts -/

/-- A world in which the tenant has the period and the limit given, and its counter agrees with the
log, within the limit. -/
structure Balanced (svc : Service) (tenant : String) (p : Period) (limit : Int) (w : World) :
    Prop where
  keyed : w.ledger.Keyed
  stored : ∃ e, w.ledger.entitlement? tenant = some e ∧ e.period = p ∧
    e.limits.monthlyUnits = limit
  counted : w.ledger.used ⟨tenant, svc.meter, p.start⟩ = w.ledger.sum tenant svc.meter p
  within : w.ledger.sum tenant svc.meter p ≤ limit
  ends : ∀ stop, w.ledger.stop? ⟨tenant, svc.meter, p.start⟩ = some stop → stop = p.stop

theorem covers_start {w : World} (h : Balanced svc tenant p limit w) :
    w.ledger.Covers svc tenant p limit (start w).granted ∧ (start w).InPeriod tenant p := by
  obtain ⟨e, he, hperiod, hlimit⟩ := h.stored
  refine ⟨⟨h.keyed, ?_, h.ends, ?_, ?_, ?_⟩, ?_⟩
  · intro e' he'
    rw [he] at he'
    rw [← Option.some.inj he']
    exact hlimit
  · intro g hg
    exact absurd hg (by simp [start])
  · rw [h.counted]
    exact Int.le_of_eq (Int.add_zero _)
  · rw [h.counted]
    exact h.within
  · show (w.ledger.entitlement? tenant).map (·.period) = some p
    rw [he, ← hperiod]
    rfl

end Session

end Turnstile
