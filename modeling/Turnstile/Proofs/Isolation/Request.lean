/-
Requests of one tenant among others.

A request is one call of the service for one tenant.  What it is answered and what it writes
depends on the tenant's own share of the world and on nothing else: in two worlds that are
alike for its tenant it ends alike (`Request.endAlike`).  And what it writes is in that share:
a world is left alike for every other tenant (`Request.alike_of_ne`).

Both are shown of each kind of request by following its one course, from the checks down to
the writes.
-/
import Turnstile.Proofs.Isolation.Share
import Turnstile.Proofs.Service.Admission
import Turnstile.Proofs.Service.Settlement
import Turnstile.Proofs.Service.Snapshot
import Turnstile.Proofs.Service.Sync

namespace Turnstile

/-! ### Requests -/

/-- The replay id that a report is recorded under, if it is not blank. -/
def Report.replay? (report : Report) : Option ReplayId :=
  if report.replay.isEmpty then none else some report.replay

/-- A call of the service for a tenant. -/
inductive Request
  | sync (tenant : String) (update : SubscriptionUpdate)
  | authorize (tenant tool : String)
  | settle (report : Report)
  | look (tenant : String)

/-- What a request is answered. -/
inductive Response
  | synced (answer : Synced)
  | admitted (answer : Admitted)
  | settled (answer : Settled)
  | seen (answer : Seen)

namespace Request

/-- The tenant that the request is for. -/
def tenant : Request → String
  | sync tenant _ => tenant
  | authorize tenant _ => tenant
  | settle report => report.reservation.tenant
  | look tenant => tenant

/-- The replay id that the request records, if it records one. -/
def replay? : Request → Option ReplayId
  | settle report => report.replay?
  | sync _ _ | authorize _ _ | look _ => none

/-- A request with nothing in between. -/
def atOnce (svc : Service) (w : World) : Request → Response × World
  | sync tenant update =>
    let (answer, w) := Sync.atOnce svc tenant update w
    (.synced answer, w)
  | authorize tenant tool =>
    let (answer, w) := Admission.atOnce svc tenant tool w
    (.admitted answer, w)
  | settle report =>
    let (answer, w) := Settlement.atOnce report w
    (.settled answer, w)
  | look tenant => (.seen (Look.atOnce svc tenant w), w)

end Request

/-- Answer a request. -/
def Gate.serve (g : Gate) : Request → Response × Gate
  | .sync tenant update =>
    let (answer, g) := g.sync tenant update
    (.synced answer, g)
  | .authorize tenant tool =>
    let (answer, g) := g.authorize tenant tool
    (.admitted answer, g)
  | .settle report =>
    let (answer, g) := g.settle report
    (.settled answer, g)
  | .look tenant =>
    let (answer, g) := g.look tenant
    (.seen answer, g)

/-! ### Calls that end alike -/

/-- Two calls that end alike for a tenant: with one answer, and in worlds that are alike. -/
def EndAlike {α : Type} (tenant : String) (own : ReplayId → Prop) (c c' : α × World) : Prop :=
  c'.1 = c.1 ∧ c.2.Alike tenant own c'.2

variable {svc : Service} {tenant other : String} {own : ReplayId → Prop} {w w' : World}

/-! ### Changes of subscriptions -/

theorem Sync.endAlike_atOnce (svc : Service) (h : w.Alike tenant own w') (u : SubscriptionUpdate) :
    EndAlike tenant own (atOnce svc tenant u w) (atOnce svc tenant u w') := by
  unfold atOnce
  by_cases hblank : Text.isBlankText tenant = true
  · rw [if_pos hblank, if_pos hblank]
    exact ⟨rfl, h⟩
  · rw [if_neg hblank, if_neg hblank, h.ledger.entitlement, h.now]
    cases u.base? tenant (w.ledger.entitlement? tenant) with
    | none => exact ⟨rfl, h⟩
    | some base =>
      refine ⟨rfl, h.withLedger ?_⟩
      have hput := h.ledger.putEntitlement (u.apply svc.graceDays w.now base)
      by_cases hperiod : u.period.isSome = true
      · rw [if_pos hperiod, if_pos hperiod]
        exact hput.ensureCounter _ _
      · rw [if_neg hperiod, if_neg hperiod]
        exact hput

/-- What is written is stored under the name of the tenant that it is written for. -/
theorem Sync.alike_atOnce (hkeyed : w.ledger.Keyed) (hne : other ≠ tenant)
    (u : SubscriptionUpdate) : w.Alike tenant own (atOnce svc other u w).2 := by
  unfold atOnce
  by_cases hblank : Text.isBlankText other = true
  · rw [if_pos hblank]
    exact .refl w
  · rw [if_neg hblank]
    cases hbase : u.base? other (w.ledger.entitlement? other) with
    | none => exact .refl w
    | some base =>
      have hnamed : base.tenant = other := tenant_of_base? hbase (hkeyed other)
      have hput : w.ledger.Alike tenant own
          (w.ledger.putEntitlement (u.apply svc.graceDays w.now base)) :=
        w.ledger.alike_putEntitlement (hnamed.symm ▸ hne)
      refine w.alike_withLedger ?_
      by_cases hperiod : u.period.isSome = true
      · rw [if_pos hperiod]
        exact hput.trans (Ledger.alike_ensureCounter _ hne _ _)
      · rw [if_neg hperiod]
        exact hput

/-! ### Admissions -/

namespace Admission

variable {cost : Int} {e : Entitlement} {rolled : Bool}

theorem alike_commit (svc : Service) (cost : Int) (e : Entitlement) (rolled : Bool) (usedAfter : Int)
    (h : w.Alike tenant own w') :
    (commit svc ⟨tenant, []⟩ cost e rolled usedAfter w).2.Alike tenant own
      (commit svc ⟨tenant, []⟩ cost e rolled usedAfter w').2 := by
  refine ⟨h.now, h.ledger, h.throttle, ?_⟩
  cases rolled with
  | false => exact h.observer.recordAllow _ _
  | true => exact h.observer.reset.recordAllow _ _

theorem endAlike_charge (h : w.Alike tenant own w') :
    EndAlike tenant own (charge svc tenant cost e rolled w)
      (charge svc tenant cost e rolled w') := by
  cases hcheck : e.checkAccess w.now with
  | error denied =>
    rw [charge_of_inactive hcheck, charge_of_inactive (h.now.symm ▸ hcheck)]
    exact ⟨rfl, h.deny _⟩
  | ok =>
    obtain ⟨hdecision, hthrottle⟩ := h.throttle.allow e.limits.ratePerMinute w.now
    have hcheck' : e.checkAccess w'.now = .ok () := h.now.symm ▸ hcheck
    have hallow' : w'.throttle.allow tenant e.limits.ratePerMinute w'.now =
        ((w.throttle.allow tenant e.limits.ratePerMinute w.now).1,
          (w'.throttle.allow tenant e.limits.ratePerMinute w.now).2) := by
      rw [h.now, ← hdecision]
    have hasked : World.Alike tenant own
        { w with throttle := (w.throttle.allow tenant e.limits.ratePerMinute w.now).2 }
        { w' with throttle := (w'.throttle.allow tenant e.limits.ratePerMinute w.now).2 } :=
      ⟨h.now, h.ledger, hthrottle, h.observer⟩
    by_cases hyes : (w.throttle.allow tenant e.limits.ratePerMinute w.now).1.allowed = true
    · rw [charge_of_allowed hcheck rfl hyes, charge_of_allowed hcheck' hallow' hyes]
      dsimp only
      rw [h.ledger.used (k := ⟨tenant, svc.meter, e.period.start⟩) rfl]
      have hopened := h.ledger.ensureCounter svc.meter e.period
      split
      · exact ⟨rfl, alike_commit svc cost e rolled _
          (hasked.withLedger ((hopened.setPeriod e.period).setUsed rfl _))⟩
      · exact ⟨rfl, (hasked.withLedger hopened).deny _⟩
    · rw [charge_of_limited hcheck rfl hyes, charge_of_limited hcheck' hallow' hyes]
      exact ⟨rfl, hasked.deny _⟩

theorem alike_charge (hne : other ≠ tenant) :
    w.Alike tenant own (charge svc other cost e rolled w).2 := by
  cases hcheck : e.checkAccess w.now with
  | error denied =>
    rw [charge_of_inactive hcheck]
    exact w.alike_deny hne _
  | ok =>
    have hasked : w.Alike tenant own
        { w with throttle := (w.throttle.allow other e.limits.ratePerMinute w.now).2 } :=
      ⟨rfl, .refl _, w.throttle.alike_allow hne _ _, .refl _⟩
    by_cases hyes : (w.throttle.allow other e.limits.ratePerMinute w.now).1.allowed = true
    · rw [charge_of_allowed hcheck rfl hyes]
      have hopened : w.ledger.Alike tenant own (w.ledger.ensureCounter other svc.meter e.period) :=
        w.ledger.alike_ensureCounter hne _ _
      dsimp only
      split
      · refine ⟨rfl, ?_, hasked.throttle, ?_⟩
        · exact (hopened.trans (Ledger.alike_setPeriod _ hne _)).trans
            (Ledger.alike_setUsed _ hne _)
        · cases rolled with
          | false => exact w.observer.alike_recordAllow hne _ _
          | true => exact (w.observer.alike_reset hne).trans (Observer.alike_recordAllow _ hne _ _)
      · exact (hasked.trans (World.alike_withLedger _ hopened)).trans (World.alike_deny _ hne _)
    · rw [charge_of_limited hcheck rfl hyes]
      exact hasked.trans (World.alike_deny _ hne _)

theorem endAlike_atOnce (svc : Service) (h : w.Alike tenant own w') (tool : String) :
    EndAlike tenant own (atOnce svc tenant tool w) (atOnce svc tenant tool w') := by
  unfold atOnce
  by_cases hblank : Text.isBlankText tenant = true
  · rw [if_pos hblank, if_pos hblank]
    exact ⟨rfl, h.deny _⟩
  · rw [if_neg hblank, if_neg hblank, h.ledger.entitlement, h.now]
    cases w.ledger.entitlement? tenant with
    | none => exact ⟨rfl, h.deny _⟩
    | some e =>
      dsimp only
      cases e.period.roll? w.now with
      | none => exact ⟨rfl, h⟩
      | some p => exact endAlike_charge h

theorem alike_atOnce (hne : other ≠ tenant) (tool : String) :
    w.Alike tenant own (atOnce svc other tool w).2 := by
  unfold atOnce
  by_cases hblank : Text.isBlankText other = true
  · rw [if_pos hblank]
    exact w.alike_deny hne _
  · rw [if_neg hblank]
    cases w.ledger.entitlement? other with
    | none => exact w.alike_deny hne _
    | some e =>
      dsimp only
      cases e.period.roll? w.now with
      | none => exact .refl w
      | some p => exact alike_charge hne

end Admission

/-! ### Settlements -/

namespace Settlement

variable {report : Report}

theorem alike_settled {l l' : Ledger} (h : l.Alike report.reservation.tenant own l') :
    (settled report l).Alike report.reservation.tenant own (settled report l') := by
  unfold settled
  cases report.status with
  | success => exact h
  | failed => exact h.release rfl _

theorem endAlike_atOnce (h : w.Alike report.reservation.tenant own w')
    (hown : ∀ r, report.replay? = some r → own r) :
    EndAlike report.reservation.tenant own (atOnce report w) (atOnce report w') := by
  unfold atOnce
  by_cases hblank : Text.isBlankText report.reservation.tenant = true
  · rw [if_pos hblank, if_pos hblank]
    exact ⟨rfl, h⟩
  · rw [if_neg hblank, if_neg hblank]
    -- the two events differ in their ids only
    have hsame : (report.event (.drawn w'.drawn) w'.now).anonymous =
        (report.event (.drawn w.drawn) w.now).anonymous := by
      rw [h.now]
      rfl
    obtain ⟨houtcome, hledger⟩ := h.ledger.record hsame hown
    cases hrecord : w.ledger.record (report.event (.drawn w.drawn) w.now) with
    | mk outcome l =>
      cases hrecord' : w'.ledger.record (report.event (.drawn w'.drawn) w'.now) with
      | mk outcome' l' =>
        rw [hrecord, hrecord'] at houtcome hledger
        obtain rfl : outcome' = outcome := houtcome
        cases outcome' with
        | duplicate => exact ⟨rfl, h.now, h.ledger, h.throttle, h.observer⟩
        | inserted =>
          have hsettled : World.Alike report.reservation.tenant own
              { w with ledger := settled report l, drawn := w.drawn + 1 }
              { w' with ledger := settled report l', drawn := w'.drawn + 1 } :=
            ⟨h.now, alike_settled hledger, h.throttle, h.observer⟩
          refine ⟨rfl, ?_⟩
          dsimp only
          cases report.status with
          | success => exact hsettled
          | failed => exact hsettled.deny _

theorem alike_atOnce (hne : report.reservation.tenant ≠ tenant)
    (hforeign : ∀ r, report.replay? = some r → ¬ own r) :
    w.Alike tenant own (atOnce report w).2 := by
  have hrecorded : w.ledger.Alike tenant own
      (w.ledger.record (report.event (.drawn w.drawn) w.now)).2 :=
    w.ledger.alike_record hne hforeign
  unfold atOnce
  by_cases hblank : Text.isBlankText report.reservation.tenant = true
  · rw [if_pos hblank]
    exact .refl w
  · rw [if_neg hblank]
    cases hrecord : w.ledger.record (report.event (.drawn w.drawn) w.now) with
    | mk outcome l =>
      rw [hrecord] at hrecorded
      cases outcome with
      | duplicate => exact ⟨rfl, .refl _, .refl _, .refl _⟩
      | inserted =>
        dsimp only [settled]
        cases report.status with
        | success => exact ⟨rfl, hrecorded, .refl _, .refl _⟩
        | failed =>
          exact ⟨rfl, hrecorded.trans (Ledger.alike_release _ hne _), .refl _,
            w.observer.alike_recordDeny hne _⟩

end Settlement

/-! ### Looks -/

theorem Look.atOnce_of_alike (h : w.Alike tenant own w') :
    atOnce svc tenant w' = atOnce svc tenant w := by
  unfold atOnce
  rw [h.ledger.entitlement, h.now]
  cases w.ledger.entitlement? tenant with
  | none => rfl
  | some e =>
    dsimp only
    cases e.period.roll? w.now with
    | none => rfl
    | some p =>
      dsimp only
      rw [h.ledger.used (k := ⟨tenant, svc.meter, p.start⟩) rfl]

/-! ### Any request -/

namespace Request

/-- **A request depends on nothing but its tenant's share.** -/
theorem endAlike (svc : Service) {r : Request} (h : w.Alike r.tenant own w')
    (hown : ∀ id, r.replay? = some id → own id) :
    EndAlike r.tenant own (r.atOnce svc w) (r.atOnce svc w') := by
  cases r with
  | sync tenant update =>
    obtain ⟨hanswer, hworld⟩ := Sync.endAlike_atOnce svc h update
    exact ⟨congrArg Response.synced hanswer, hworld⟩
  | authorize tenant tool =>
    obtain ⟨hanswer, hworld⟩ := Admission.endAlike_atOnce svc h tool
    exact ⟨congrArg Response.admitted hanswer, hworld⟩
  | settle report =>
    obtain ⟨hanswer, hworld⟩ := Settlement.endAlike_atOnce h hown
    exact ⟨congrArg Response.settled hanswer, hworld⟩
  | look tenant => exact ⟨congrArg Response.seen (Look.atOnce_of_alike h), h⟩

/-- **A request writes to nothing but its tenant's share.** -/
theorem alike_of_ne (svc : Service) {r : Request} (hkeyed : w.ledger.Keyed)
    (hne : r.tenant ≠ tenant) (hforeign : ∀ id, r.replay? = some id → ¬ own id) :
    w.Alike tenant own (r.atOnce svc w).2 := by
  cases r with
  | sync other update => exact Sync.alike_atOnce hkeyed hne update
  | authorize other tool => exact Admission.alike_atOnce hne tool
  | settle report => exact Settlement.alike_atOnce hne hforeign
  | look other => exact .refl w

theorem keyed_atOnce (hkeyed : w.ledger.Keyed) (r : Request) :
    (r.atOnce svc w).2.ledger.Keyed := by
  cases r with
  | sync tenant update => exact Sync.keyed_atOnce hkeyed tenant update
  | authorize tenant tool => exact hkeyed.of_sameTerms (Admission.sameTerms_atOnce svc tenant tool w)
  | settle report => exact hkeyed.of_sameTerms (Settlement.sameTerms_atOnce report w)
  | look tenant => exact hkeyed

end Request

/-- A request to the gate on a ledger at hand is answered with nothing in between. -/
theorem Gate.serve_reliable {g : Gate} (h : g.backend = .reliable) (r : Request) :
    g.serve r = ((r.atOnce g.service g.world).1,
      { g with world := (r.atOnce g.service g.world).2 }) := by
  cases r with
  | sync tenant update => simp only [serve, Request.atOnce, sync_reliable h]
  | authorize tenant tool => simp only [serve, Request.atOnce, authorize_reliable h]
  | settle report => simp only [serve, Request.atOnce, settle_reliable h]
  | look tenant => simp only [serve, Request.atOnce, look_reliable h]

end Turnstile
