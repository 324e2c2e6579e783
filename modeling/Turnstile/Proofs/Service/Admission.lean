/-
An admission at once.

Made with nothing in between, an admission is a list of checks, and the first that fails
decides: the tenant has a name, an entitlement, a period that counts, a subscription that
allows the work, a token and units that are left (`Admission.atOnce`).  A roll that a
denial takes back leaves no trace, because nothing came in between.

A call that passes all checks is `Admission.Welcome`; a call that fails one is
`Admission.Denied`, with the error that the first check it fails is answered with.  One of
the two holds of every call whose period can be rolled (`Admission.verdict`), and what a
call is answered and what it leaves follow it.
-/
import Turnstile.Proofs.Ledger.Rollback
import Turnstile.Proofs.Rollover
import Turnstile.Proofs.Service.Run

namespace Turnstile

/-! ### The ledger of an admitted call -/

namespace Ledger

/-- The ledger after a call of a tenant has been admitted in a period: the period is stored, and the
cost is on its counter. -/
def charged (l : Ledger) (tenant meter : String) (p : Period) (cost : Int) : Ledger :=
  ((l.ensureCounter tenant meter p).setPeriod tenant p).setUsed ⟨tenant, meter, p.start⟩
    (l.used ⟨tenant, meter, p.start⟩ + cost)

section charged

variable (l : Ledger) (tenant meter : String) (p : Period) (cost : Int)

@[simp] theorem events_charged : (l.charged tenant meter p cost).events = l.events := by
  simp [charged]

theorem sameTerms_charged : l.SameTerms (l.charged tenant meter p cost) := by
  intro other
  simp [charged]

theorem entitlement?_charged {e : Entitlement} (h : l.entitlement? tenant = some e) :
    (l.charged tenant meter p cost).entitlement? tenant = some { e with period := p } := by
  simp [charged, h]

/-- The cost is added on the call's own counter, and nothing on any other. -/
theorem used_charged (k : CounterKey) :
    (l.charged tenant meter p cost).used k =
      if ⟨tenant, meter, p.start⟩ = k then l.used k + cost else l.used k := by
  have hrow : ((l.ensureCounter tenant meter p).setPeriod tenant p).tally?
      ⟨tenant, meter, p.start⟩ = some ⟨p.stop, l.used ⟨tenant, meter, p.start⟩⟩ := by
    rw [tally?_setPeriod, tally?_ensureCounter_self]
  unfold charged
  rw [used_setUsed hrow]
  split
  · next hk => rw [hk]
  · rw [used_setPeriod, used_ensureCounter]

theorem stop?_charged (k : CounterKey) :
    (l.charged tenant meter p cost).stop? k =
      if ⟨tenant, meter, p.start⟩ = k then some p.stop else l.stop? k := by
  unfold charged
  rw [stop?_setUsed, stop?_setPeriod, stop?_ensureCounter]

end charged

end Ledger

namespace Admission

variable {svc : Service}

/-- The checks in the period that counts, which `e` carries. -/
def charge (svc : Service) (tenant : String) (cost : Int) (e : Entitlement) (rolled : Bool)
    (w : World) : Admitted × World :=
  match e.checkAccess w.now with
  | .error denied =>
    (.error (.subscriptionInactive denied.reason), w.deny tenant (.subscription denied.status))
  | .ok () =>
    let (decision, throttle) := w.throttle.allow tenant e.limits.ratePerMinute w.now
    let w := { w with throttle }
    if decision.allowed then
      let key : CounterKey := ⟨tenant, svc.meter, e.period.start⟩
      let opened := w.ledger.ensureCounter tenant svc.meter e.period
      let usedAfter := w.ledger.used key + cost
      if Ledger.Fits (w.ledger.used key) cost e.limits.monthlyUnits then
        (.ok (reservation svc tenant cost e usedAfter),
          (commit svc ⟨tenant, []⟩ cost e rolled usedAfter
            (w.withLedger ((opened.setPeriod tenant e.period).setUsed key usedAfter))).2)
      else (.error (.quotaExceeded e.limits.monthlyUnits),
        (w.withLedger opened).deny tenant .quotaExceeded)
    else (.error (.rateLimited decision.retryAfter), w.deny tenant .rateLimited)

/-- An admission with nothing in between. -/
def atOnce (svc : Service) (tenant tool : String) (w : World) : Admitted × World :=
  if Text.isBlankText tenant then
    (.error (.subscriptionInactive DenyReason.missingTenant.text), w.deny tenant .missingTenant)
  else
    match w.ledger.entitlement? tenant with
    | none =>
      (.error (.subscriptionInactive DenyReason.missingEntitlement.text),
        w.deny tenant .missingEntitlement)
    | some e =>
      match e.period.roll? w.now with
      | none => (.crashed, w)
      | some p =>
        charge svc tenant (svc.costs.costOf tool) { e with period := p } (e.isExpired w.now) w

section charge

variable {tenant : String} {cost : Int} {e : Entitlement} {rolled : Bool} {w : World}

theorem charge_of_inactive {denied : SubscriptionDenied}
    (h : e.checkAccess w.now = .error denied) :
    charge svc tenant cost e rolled w =
      (.error (.subscriptionInactive denied.reason),
        w.deny tenant (.subscription denied.status)) := by
  simp [charge, h]

theorem charge_of_limited {decision : Decision} {throttle : Throttle}
    (h : e.checkAccess w.now = .ok ())
    (hallow : w.throttle.allow tenant e.limits.ratePerMinute w.now = (decision, throttle))
    (hno : ¬ decision.allowed = true) :
    charge svc tenant cost e rolled w =
      (.error (.rateLimited decision.retryAfter),
        { w with throttle }.deny tenant .rateLimited) := by
  simp [charge, h, hallow, hno]

theorem charge_of_allowed {decision : Decision} {throttle : Throttle}
    (h : e.checkAccess w.now = .ok ())
    (hallow : w.throttle.allow tenant e.limits.ratePerMinute w.now = (decision, throttle))
    (hyes : decision.allowed = true) :
    charge svc tenant cost e rolled w =
      let key : CounterKey := ⟨tenant, svc.meter, e.period.start⟩
      let opened := w.ledger.ensureCounter tenant svc.meter e.period
      let usedAfter := w.ledger.used key + cost
      if Ledger.Fits (w.ledger.used key) cost e.limits.monthlyUnits then
        (.ok (reservation svc tenant cost e usedAfter),
          (commit svc ⟨tenant, []⟩ cost e rolled usedAfter
            ({ w with throttle }.withLedger
              ((opened.setPeriod tenant e.period).setUsed key usedAfter))).2)
      else (.error (.quotaExceeded e.limits.monthlyUnits),
        ({ w with throttle }.withLedger opened).deny tenant .quotaExceeded) := by
  simp [charge, h, hallow, hyes]

end charge

/-! ### The steps in a row -/

theorem finish_closing (scope : Scope) (answer : Admitted) (w : World) :
    (procedure svc).finish (.closing scope answer) w =
      (answer, w.withLedger (scope.drop w.ledger)) := by
  rw [Procedure.finish_of_step rfl]
  exact Procedure.finish_of_result rfl _

/-- From the reservation on: the counter has to have room. -/
theorem finish_reserving {scope : Scope} {cost : Int} {e : Entitlement} {w : World} {row : Tally}
    (hrow : w.ledger.tally? ⟨scope.tenant, svc.meter, e.period.start⟩ = some row)
    (rolled : Bool) :
    (procedure svc).finish (.reserving scope cost e rolled) w =
      if Ledger.Fits row.used cost e.limits.monthlyUnits then
        (.ok (reservation svc scope.tenant cost e (row.used + cost)),
          (commit svc scope cost e rolled (row.used + cost) (w.withLedger
            (w.ledger.setUsed ⟨scope.tenant, svc.meter, e.period.start⟩ (row.used + cost)))).2)
      else (.error (.quotaExceeded e.limits.monthlyUnits),
        (w.withLedger (scope.drop w.ledger)).deny scope.tenant .quotaExceeded) := by
  by_cases hfits : Ledger.Fits row.used cost e.limits.monthlyUnits
  · have hstep : (procedure svc).step none (.reserving scope cost e rolled) w =
        (.committing (scope.note
            (.reserved ⟨scope.tenant, svc.meter, e.period.start⟩ cost)) cost e rolled
            (row.used + cost),
          w.withLedger (w.ledger.setUsed ⟨scope.tenant, svc.meter, e.period.start⟩
            (row.used + cost))) := by
      simp [procedure, step, reserve, Scope.reserve, Ledger.reserve, hrow, hfits]
    rw [Procedure.finish_of_step_eq rfl hstep, if_pos hfits, Procedure.finish_of_step rfl]
    exact Procedure.finish_of_result rfl _
  · have hstep : (procedure svc).step none (.reserving scope cost e rolled) w =
        (.closing scope (.error (.quotaExceeded e.limits.monthlyUnits)),
          w.deny scope.tenant .quotaExceeded) := by
      simp [procedure, step, reserve, Scope.reserve, Ledger.reserve, hrow, hfits, turnAway,
        World.withLedger]
    rw [Procedure.finish_of_step_eq rfl hstep, if_neg hfits, finish_closing]
    rfl

/-- From the checks on, if dropping the scope gives the ledger `l` back, with or without the
counter: whatever is denied from here on leaves `l`. -/
theorem finish_screening (scope : Scope) {cost : Int} {e : Entitlement} {l : Ledger} {w : World}
    (hperiod : w.ledger = l.setPeriod scope.tenant e.period) (hdrop : scope.drop w.ledger = l)
    (hopened : scope.drop (w.ledger.ensureCounter scope.tenant svc.meter e.period) =
      l.ensureCounter scope.tenant svc.meter e.period) (rolled : Bool) :
    (procedure svc).finish (.screening scope cost w.now e rolled) w =
      charge svc scope.tenant cost e rolled (w.withLedger l) := by
  cases hcheck : e.checkAccess w.now with
  | error denied =>
    have hstep : (procedure svc).step none (.screening scope cost w.now e rolled) w =
        (.closing scope (.error (.subscriptionInactive denied.reason)),
          w.deny scope.tenant (.subscription denied.status)) := by
      simp [procedure, step, screen, hcheck, turnAway]
    rw [Procedure.finish_of_step_eq rfl hstep, finish_closing,
      charge_of_inactive (w := w.withLedger l) hcheck]
    show (_, (w.withLedger (scope.drop w.ledger)).deny _ _) = _
    rw [hdrop]
  | ok =>
    cases hallow : w.throttle.allow scope.tenant e.limits.ratePerMinute w.now with
    | mk decision throttle =>
      by_cases hyes : decision.allowed = true
      · have hscreen : (procedure svc).step none (.screening scope cost w.now e rolled) w =
            (.ensuring scope cost e rolled, { w with throttle }) := by
          simp [procedure, step, screen, hcheck, hallow, hyes]
        have hensure : (procedure svc).step none (.ensuring scope cost e rolled)
            { w with throttle } = (.reserving scope cost e rolled,
              { w with throttle }.withLedger
                (w.ledger.ensureCounter scope.tenant svc.meter e.period)) := rfl
        -- the counter has been opened with the units that were there
        have hrow : (w.ledger.ensureCounter scope.tenant svc.meter e.period).tally?
            ⟨scope.tenant, svc.meter, e.period.start⟩ =
              some ⟨e.period.stop, l.used ⟨scope.tenant, svc.meter, e.period.start⟩⟩ := by
          rw [Ledger.tally?_ensureCounter_self, hperiod, Ledger.used_setPeriod]
        rw [Procedure.finish_of_step_eq rfl hscreen, Procedure.finish_of_step_eq rfl hensure,
          finish_reserving hrow, charge_of_allowed (w := w.withLedger l) hcheck hallow hyes]
        dsimp only [World.withLedger]
        rw [hopened, hperiod, Ledger.ensureCounter_setPeriod]
        rfl
      · have hscreen : (procedure svc).step none (.screening scope cost w.now e rolled) w =
            (.closing scope (.error (.rateLimited decision.retryAfter)),
              { w with throttle }.deny scope.tenant .rateLimited) := by
          simp [procedure, step, screen, hcheck, hallow, hyes, turnAway]
        rw [Procedure.finish_of_step_eq rfl hscreen, finish_closing,
          charge_of_limited (w := w.withLedger l) hcheck hallow hyes]
        show (_, ({ w with throttle }.withLedger (scope.drop w.ledger)).deny _ _) = _
        rw [hdrop]
        rfl

/-- From the entitlement on. -/
theorem finish_reading {tenant : String} {w : World} {e : Entitlement}
    (he : w.ledger.entitlement? tenant = some e) (cost : Int) :
    (procedure svc).finish (.reading ⟨tenant, []⟩ cost w.now) w =
      match e.period.roll? w.now with
      | none => (.crashed, w)
      | some p => charge svc tenant cost { e with period := p } (e.isExpired w.now) w := by
  by_cases hexpired : e.isExpired w.now = true
  · cases hroll : e.period.roll? w.now with
    | none =>
      have hread : (procedure svc).step none (.reading ⟨tenant, []⟩ cost w.now) w =
          (.closing ⟨tenant, []⟩ .crashed, w) := by
        simp [procedure, step, read, Scope.getEntitlement, he, hexpired, hroll]
      rw [Procedure.finish_of_step_eq rfl hread, finish_closing]
      rfl
    | some p =>
      have hread : (procedure svc).step none (.reading ⟨tenant, []⟩ cost w.now) w =
          (.rolling ⟨tenant, []⟩ cost w.now e p, w) := by
        simp [procedure, step, read, Scope.getEntitlement, he, hexpired, hroll]
      have hmove : (procedure svc).step none (.rolling ⟨tenant, []⟩ cost w.now e p) w =
          (.screening ⟨tenant, [.period tenant e.period p]⟩ cost w.now
            { e with period := p } true, w.withLedger (w.ledger.setPeriod tenant p)) := by
        simp [procedure, step, roll, Scope.updatePeriod, Scope.note, he]
      rw [Procedure.finish_of_step_eq rfl hread, Procedure.finish_of_step_eq rfl hmove, hexpired]
      have hopened : Scope.drop ⟨tenant, [.period tenant e.period p]⟩
          ((w.ledger.setPeriod tenant p).ensureCounter tenant svc.meter p) =
            w.ledger.ensureCounter tenant svc.meter p := by
        rw [Ledger.ensureCounter_setPeriod]
        exact Ledger.drop_moved (l := w.ledger.ensureCounter tenant svc.meter p) he p
      exact finish_screening ⟨tenant, [.period tenant e.period p]⟩
        (e := { e with period := p }) (w := w.withLedger (w.ledger.setPeriod tenant p)) rfl
        (Ledger.drop_moved he p) hopened true
  · have hroll : e.period.roll? w.now = some e.period := by
      refine Period.roll?_of_le ?_
      exact Instant.le_of_not_lt (by simpa [Entitlement.isExpired] using hexpired)
    have hread : (procedure svc).step none (.reading ⟨tenant, []⟩ cost w.now) w =
        (.screening ⟨tenant, []⟩ cost w.now e false, w) := by
      simp [procedure, step, read, Scope.getEntitlement, he, hexpired]
    rw [Procedure.finish_of_step_eq rfl hread, hroll,
      finish_screening ⟨tenant, []⟩ (l := w.ledger) (Ledger.setPeriod_same he).symm rfl rfl]
    simp [hexpired, World.withLedger]

/-- **An admission with nothing in between is the list of checks.** -/
theorem finish_arriving (tenant tool : String) (w : World) :
    (procedure svc).finish (.arriving tenant tool) w = atOnce svc tenant tool w := by
  unfold atOnce
  by_cases hblank : Text.isBlankText tenant = true
  · have hstep : (procedure svc).step none (.arriving tenant tool) w =
        (.finished (.error (.subscriptionInactive DenyReason.missingTenant.text)),
          w.deny tenant .missingTenant) := by
      simp [procedure, step, arrive, hblank]
    rw [if_pos hblank, Procedure.finish_of_step_eq rfl hstep]
    exact Procedure.finish_of_result rfl _
  · have hstep : (procedure svc).step none (.arriving tenant tool) w =
        (.reading ⟨tenant, []⟩ (svc.costs.costOf tool) w.now, w) := by
      simp [procedure, step, arrive, hblank]
    rw [if_neg hblank, Procedure.finish_of_step_eq rfl hstep]
    cases he : w.ledger.entitlement? tenant with
    | none =>
      have hread : (procedure svc).step none
          (.reading ⟨tenant, []⟩ (svc.costs.costOf tool) w.now) w =
            (.closing ⟨tenant, []⟩
              (.error (.subscriptionInactive DenyReason.missingEntitlement.text)),
              w.deny tenant .missingEntitlement) := by
        simp [procedure, step, read, Scope.getEntitlement, he, turnAway]
      rw [Procedure.finish_of_step_eq rfl hread, finish_closing]
      rfl
    | some e => exact finish_reading he _

/-! ### Who is admitted -/

/-- A call that passes every check, for a tenant with the entitlement `e` in the period `p`. -/
structure Welcome (svc : Service) (tenant tool : String) (w : World) (e : Entitlement)
    (p : Period) : Prop where
  named : Text.isBlankText tenant = false
  stored : w.ledger.entitlement? tenant = some e
  counts : e.period.roll? w.now = some p
  admits : ({ e with period := p } : Entitlement).admits w.now = true
  allowed : (w.throttle.allow tenant e.limits.ratePerMinute w.now).1.allowed = true
  room : w.ledger.used ⟨tenant, svc.meter, p.start⟩ + svc.costs.costOf tool ≤ e.limits.monthlyUnits

variable {tenant tool : String} {w : World} {e : Entitlement} {p : Period} {err : ServiceError}

theorem atOnce_of_counts (hnamed : Text.isBlankText tenant = false)
    (he : w.ledger.entitlement? tenant = some e) (hp : e.period.roll? w.now = some p) :
    atOnce svc tenant tool w =
      charge svc tenant (svc.costs.costOf tool) { e with period := p } (e.isExpired w.now) w := by
  simp [atOnce, hnamed, he, hp]

/-- A call that passes every check commits. -/
theorem atOnce_eq_of_welcome (h : Welcome svc tenant tool w e p) :
    let cost := svc.costs.costOf tool
    let usedAfter := w.ledger.used ⟨tenant, svc.meter, p.start⟩ + cost
    atOnce svc tenant tool w =
      (.ok (reservation svc tenant cost { e with period := p } usedAfter),
        (commit svc ⟨tenant, []⟩ cost { e with period := p } (e.isExpired w.now) usedAfter
          { w with
            throttle := (w.throttle.allow tenant e.limits.ratePerMinute w.now).2
            ledger := w.ledger.charged tenant svc.meter p cost }).2) := by
  have hcheck : ({ e with period := p } : Entitlement).checkAccess w.now = .ok () :=
    if_pos h.admits
  have hfits : Ledger.Fits (w.ledger.used ⟨tenant, svc.meter, p.start⟩) (svc.costs.costOf tool)
      e.limits.monthlyUnits :=
    ⟨h.room, Or.inl (Int.le_of_lt (svc.costs.costOf_pos tool))⟩
  rw [atOnce_of_counts h.named h.stored h.counts, charge_of_allowed hcheck rfl h.allowed]
  dsimp only
  rw [if_pos hfits]
  rfl

/-- It is admitted, and its cost is on the counter of its period. -/
theorem atOnce_of_welcome (h : Welcome svc tenant tool w e p) :
    (atOnce svc tenant tool w).1 =
        .ok (reservation svc tenant (svc.costs.costOf tool) { e with period := p }
          (w.ledger.used ⟨tenant, svc.meter, p.start⟩ + svc.costs.costOf tool)) ∧
      (atOnce svc tenant tool w).2.ledger =
        w.ledger.charged tenant svc.meter p (svc.costs.costOf tool) ∧
      (atOnce svc tenant tool w).2.throttle =
        (w.throttle.allow tenant e.limits.ratePerMinute w.now).2 := by
  rw [atOnce_eq_of_welcome h]
  exact ⟨rfl, rfl, rfl⟩

@[simp] theorem now_atOnce (svc : Service) (tenant tool : String) (w : World) :
    (atOnce svc tenant tool w).2.now = w.now := by
  unfold atOnce
  split
  · rfl
  · split
    · rfl
    · split
      · rfl
      · unfold charge
        split
        · rfl
        · dsimp only
          split
          · split <;> rfl
          · rfl

/-! ### The first check that fails -/

/-- A call that fails a check, with what the first check that it fails is answered with. -/
inductive Denied (svc : Service) (tenant tool : String) (w : World) : ServiceError → Prop
  /-- The tenant has no name. -/
  | unnamed (hblank : Text.isBlankText tenant = true) :
      Denied svc tenant tool w (.subscriptionInactive "missing_tenant")
  /-- It has no entitlement. -/
  | unknown (hnamed : Text.isBlankText tenant = false)
      (habsent : w.ledger.entitlement? tenant = none) :
      Denied svc tenant tool w (.subscriptionInactive "missing_entitlement")
  /-- Its subscription does not allow work in the period that counts. -/
  | inactive {e : Entitlement} {p : Period} (hnamed : Text.isBlankText tenant = false)
      (hstored : w.ledger.entitlement? tenant = some e) (hcounts : e.period.roll? w.now = some p)
      (hrefused : ({ e with period := p } : Entitlement).admits w.now = false) :
      Denied svc tenant tool w (.subscriptionInactive ("subscription_" ++ e.status.text))
  /-- It comes too often. -/
  | limited {e : Entitlement} {p : Period} (hnamed : Text.isBlankText tenant = false)
      (hstored : w.ledger.entitlement? tenant = some e) (hcounts : e.period.roll? w.now = some p)
      (hadmits : ({ e with period := p } : Entitlement).admits w.now = true)
      (hrefused : (w.throttle.allow tenant e.limits.ratePerMinute w.now).1.allowed = false) :
      Denied svc tenant tool w
        (.rateLimited (w.throttle.allow tenant e.limits.ratePerMinute w.now).1.retryAfter)
  /-- The units of the period do not hold the cost. -/
  | exhausted {e : Entitlement} {p : Period} (hnamed : Text.isBlankText tenant = false)
      (hstored : w.ledger.entitlement? tenant = some e) (hcounts : e.period.roll? w.now = some p)
      (hadmits : ({ e with period := p } : Entitlement).admits w.now = true)
      (hallowed : (w.throttle.allow tenant e.limits.ratePerMinute w.now).1.allowed = true)
      (hfull : e.limits.monthlyUnits <
        w.ledger.used ⟨tenant, svc.meter, p.start⟩ + svc.costs.costOf tool) :
      Denied svc tenant tool w (.quotaExceeded e.limits.monthlyUnits)

/-- The tenant's period cannot be rolled to the one that counts. -/
def Stranded (tenant : String) (w : World) : Prop :=
  Text.isBlankText tenant = false ∧
    ∃ e, w.ledger.entitlement? tenant = some e ∧ e.period.roll? w.now = none

/-- Every call is welcome, or denied, or its period cannot be rolled. -/
theorem verdict (svc : Service) (tenant tool : String) (w : World) :
    (∃ e p, Welcome svc tenant tool w e p) ∨ (∃ err, Denied svc tenant tool w err) ∨
      Stranded tenant w := by
  cases hnamed : Text.isBlankText tenant with
  | true => exact .inr (.inl ⟨_, .unnamed hnamed⟩)
  | false =>
    cases hstored : w.ledger.entitlement? tenant with
    | none => exact .inr (.inl ⟨_, .unknown hnamed hstored⟩)
    | some e =>
      cases hcounts : e.period.roll? w.now with
      | none => exact .inr (.inr ⟨hnamed, e, hstored, hcounts⟩)
      | some p =>
        cases hadmits : ({ e with period := p } : Entitlement).admits w.now with
        | false => exact .inr (.inl ⟨_, .inactive hnamed hstored hcounts hadmits⟩)
        | true =>
          cases hallowed : (w.throttle.allow tenant e.limits.ratePerMinute w.now).1.allowed with
          | false => exact .inr (.inl ⟨_, .limited hnamed hstored hcounts hadmits hallowed⟩)
          | true =>
            by_cases hroom : w.ledger.used ⟨tenant, svc.meter, p.start⟩ + svc.costs.costOf tool ≤
                e.limits.monthlyUnits
            · exact .inl ⟨e, p, hnamed, hstored, hcounts, hadmits, hallowed, hroom⟩
            · exact .inr (.inl ⟨_, .exhausted hnamed hstored hcounts hadmits hallowed (by omega)⟩)

/-! ### What a denied call is answered, and what it leaves -/

/-- What a call that is denied leaves of the world, before the denial is counted: its token is asked
for if the checks come so far, and its counter is opened if they come to the last. -/
inductive Left (svc : Service) (tenant : String) (w : World) : ServiceError → World → Prop
  | untouched (reason : String) : Left svc tenant w (.subscriptionInactive reason) w
  | asked (rate : Int) (n : Nat) :
      Left svc tenant w (.rateLimited n)
        { w with throttle := (w.throttle.allow tenant rate w.now).2 }
  | opened {e : Entitlement} {p : Period} (hstored : w.ledger.entitlement? tenant = some e)
      (hcounts : e.period.roll? w.now = some p) :
      Left svc tenant w (.quotaExceeded e.limits.monthlyUnits)
        { w with
          throttle := (w.throttle.allow tenant e.limits.ratePerMinute w.now).2
          ledger := w.ledger.ensureCounter tenant svc.meter p }

/-- A call that fails a check is answered with its error. -/
theorem atOnce_of_denied (h : Denied svc tenant tool w err) :
    ∃ w' reason, Left svc tenant w err w' ∧
      atOnce svc tenant tool w = (.error err, w'.deny tenant reason) := by
  cases h with
  | unnamed hblank =>
    refine ⟨_, .missingTenant, .untouched _, ?_⟩
    rw [atOnce, if_pos hblank]
    rfl
  | unknown hnamed habsent =>
    refine ⟨_, .missingEntitlement, .untouched _, ?_⟩
    rw [atOnce, if_neg (by simp [hnamed]), habsent]
    rfl
  | @inactive e p hnamed hstored hcounts hrefused =>
    have hcheck : ({ e with period := p } : Entitlement).checkAccess w.now = .error ⟨e.status⟩ := by
      simp [Entitlement.checkAccess, hrefused]
    refine ⟨_, .subscription e.status, .untouched _, ?_⟩
    rw [atOnce_of_counts hnamed hstored hcounts, charge_of_inactive hcheck]
    rfl
  | @limited e p hnamed hstored hcounts hadmits hrefused =>
    have hcheck : ({ e with period := p } : Entitlement).checkAccess w.now = .ok () :=
      if_pos hadmits
    refine ⟨_, .rateLimited, .asked e.limits.ratePerMinute _, ?_⟩
    cases hallow : w.throttle.allow tenant e.limits.ratePerMinute w.now with
    | mk decision throttle =>
      rw [hallow] at hrefused
      rw [atOnce_of_counts hnamed hstored hcounts,
        charge_of_limited hcheck hallow (by simpa using hrefused)]
  | @exhausted e p hnamed hstored hcounts hadmits hallowed hfull =>
    have hcheck : ({ e with period := p } : Entitlement).checkAccess w.now = .ok () :=
      if_pos hadmits
    refine ⟨_, .quotaExceeded, .opened hstored hcounts, ?_⟩
    cases hallow : w.throttle.allow tenant e.limits.ratePerMinute w.now with
    | mk decision throttle =>
      rw [hallow] at hallowed
      rw [atOnce_of_counts hnamed hstored hcounts, charge_of_allowed hcheck hallow hallowed]
      dsimp only
      rw [if_neg]
      · rfl
      · rintro ⟨hroom, -⟩
        omega

theorem atOnce_of_stranded (h : Stranded tenant w) : atOnce svc tenant tool w = (.crashed, w) := by
  obtain ⟨hnamed, e, hstored, hcounts⟩ := h
  simp [atOnce, hnamed, hstored, hcounts]

/-- A call is answered with an error exactly if it fails a check, and with the error of the first
that it fails. -/
theorem atOnce_eq_error_iff :
    (atOnce svc tenant tool w).1 = .error err ↔ Denied svc tenant tool w err := by
  constructor
  · intro hanswer
    rcases verdict svc tenant tool w with ⟨e, p, h⟩ | ⟨err', h⟩ | h
    · rw [(atOnce_of_welcome h).1] at hanswer
      cases hanswer
    · obtain ⟨w', reason, -, heq⟩ := atOnce_of_denied h
      rw [heq] at hanswer
      cases hanswer
      exact h
    · rw [atOnce_of_stranded h] at hanswer
      cases hanswer
  · intro h
    obtain ⟨w', reason, -, heq⟩ := atOnce_of_denied h
    rw [heq]

theorem atOnce_eq_crashed_iff :
    (atOnce svc tenant tool w).1 = .crashed ↔ Stranded tenant w := by
  constructor
  · intro hanswer
    rcases verdict svc tenant tool w with ⟨e, p, h⟩ | ⟨err, h⟩ | h
    · rw [(atOnce_of_welcome h).1] at hanswer
      cases hanswer
    · rw [atOnce_eq_error_iff.mpr h] at hanswer
      cases hanswer
    · exact h
  · intro h
    rw [atOnce_of_stranded h]

/-- A call is admitted exactly if it passes every check. -/
theorem atOnce_eq_ok_iff :
    (∃ r, (atOnce svc tenant tool w).1 = .ok r) ↔ ∃ e p, Welcome svc tenant tool w e p := by
  constructor
  · rintro ⟨r, hr⟩
    rcases verdict svc tenant tool w with h | ⟨err, h⟩ | h
    · exact h
    · rw [atOnce_eq_error_iff.mpr h] at hr
      cases hr
    · rw [atOnce_of_stranded h] at hr
      cases hr
  · rintro ⟨e, p, h⟩
    exact ⟨_, (atOnce_of_welcome h).1⟩

/-- **A call that is not admitted leaves the ledger as it was**, or with a counter opened for the
period that counts. -/
theorem ledger_of_denied (h : ∀ r, (atOnce svc tenant tool w).1 ≠ .ok r) :
    (atOnce svc tenant tool w).2.ledger = w.ledger ∨
      ∃ e p, w.ledger.entitlement? tenant = some e ∧ e.period.roll? w.now = some p ∧
        (atOnce svc tenant tool w).2.ledger = w.ledger.ensureCounter tenant svc.meter p := by
  rcases verdict svc tenant tool w with ⟨e, p, hwelcome⟩ | ⟨err, hdenied⟩ | hstranded
  · exact absurd (atOnce_of_welcome hwelcome).1 (h _)
  · obtain ⟨w', reason, hleft, heq⟩ := atOnce_of_denied hdenied
    rw [heq]
    cases hleft with
    | untouched | asked => exact .inl rfl
    | opened hstored hcounts => exact .inr ⟨_, _, hstored, hcounts, rfl⟩
  · rw [atOnce_of_stranded hstranded]
    exact .inl rfl

/-- An admission moves a period at most, and no other terms. -/
theorem sameTerms_atOnce (svc : Service) (tenant tool : String) (w : World) :
    w.ledger.SameTerms (atOnce svc tenant tool w).2.ledger := by
  by_cases h : ∃ r, (atOnce svc tenant tool w).1 = .ok r
  · obtain ⟨e, p, hwelcome⟩ := atOnce_eq_ok_iff.mp h
    rw [(atOnce_of_welcome hwelcome).2.1]
    exact w.ledger.sameTerms_charged tenant svc.meter p _
  · rcases ledger_of_denied fun r hr => h ⟨r, hr⟩ with heq | ⟨e, p, -, -, heq⟩
    · rw [heq]
      exact fun _ => rfl
    · rw [heq]
      exact fun _ => rfl

end Admission

/-- A call of the gate on a ledger at hand is the list of checks. -/
theorem Gate.authorize_reliable {g : Gate} (h : g.backend = .reliable) (tenant tool : String) :
    g.authorize tenant tool =
      ((Admission.atOnce g.service tenant tool g.world).1,
        { g with world := (Admission.atOnce g.service tenant tool g.world).2 }) := by
  unfold authorize
  rw [run_reliable h, Admission.finish_arriving]

end Turnstile
