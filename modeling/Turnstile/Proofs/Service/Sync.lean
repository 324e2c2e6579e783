/-
A change of a subscription at once.

Made with nothing in between, a change of a subscription writes the changed entitlement and,
if it brings a period, opens the counter of that period (`Sync.atOnce`).  It writes nothing
for a tenant without a name, or one that is not known and not introduced either.
-/
import Turnstile.Proofs.Ledger.Rollback
import Turnstile.Proofs.Service.Run

namespace Turnstile

namespace Sync

variable {svc : Service}

/-- What the changed entitlement was made from carries the name of the tenant. -/
theorem tenant_of_base? {u : SubscriptionUpdate} {tenant : String} {stored : Option Entitlement}
    {e : Entitlement} (h : u.base? tenant stored = some e)
    (hstored : ∀ e', stored = some e' → e'.tenant = tenant) : e.tenant = tenant := by
  unfold SubscriptionUpdate.base? at h
  split at h
  · next e' => exact Option.some.inj h ▸ hstored e' rfl
  · rw [← Option.some.inj h]
    rfl
  · cases h

/-- A change with nothing in between. -/
def atOnce (svc : Service) (tenant : String) (u : SubscriptionUpdate) (w : World) :
    Synced × World :=
  if Text.isBlankText tenant then (.error (.ledger .missingTenant), w)
  else
    match u.base? tenant (w.ledger.entitlement? tenant) with
    | none => (.error (.ledger (.noEntitlement tenant)), w)
    | some base =>
      let e := u.apply svc.graceDays w.now base
      let changed := w.ledger.putEntitlement e
      (.ok e, w.withLedger
        (if u.period.isSome then changed.ensureCounter tenant svc.meter e.period else changed))

theorem finish_closing (scope : Scope) (answer : Synced) (w : World) :
    (procedure svc).finish (.closing scope answer) w =
      (answer, w.withLedger (scope.drop w.ledger)) := by
  rw [Procedure.finish_of_step rfl]
  exact Procedure.finish_of_result rfl _

theorem finish_committing (scope : Scope) (e : Entitlement) (w : World) :
    (procedure svc).finish (.committing scope e) w = (.ok e, w) := by
  rw [Procedure.finish_of_step rfl]
  exact Procedure.finish_of_result rfl _

/-- From the changed entitlement on: it is written, and its period has its counter opened. -/
theorem finish_writing (tenant : String) (u : SubscriptionUpdate) (e : Entitlement) (w : World) :
    (procedure svc).finish (.writing ⟨tenant, []⟩ u e) w =
      (.ok e, w.withLedger (if u.period.isSome then
        (w.ledger.putEntitlement e).ensureCounter tenant svc.meter e.period
        else w.ledger.putEntitlement e)) := by
  by_cases hperiod : u.period.isSome = true
  · have hwrite : (procedure svc).step none (.writing ⟨tenant, []⟩ u e) w =
        (.ensuring (Scope.note ⟨tenant, []⟩ (.entitlement e.tenant (w.ledger.entitlement? e.tenant)))
          e, w.withLedger (w.ledger.putEntitlement e)) := by
      simp [procedure, step, write, Scope.upsertEntitlement, hperiod]
    have hensure (scope : Scope) (w : World) : (procedure svc).step none (.ensuring scope e) w =
        (.committing scope e,
          w.withLedger (w.ledger.ensureCounter scope.tenant svc.meter e.period)) := rfl
    rw [Procedure.finish_of_step_eq rfl hwrite, Procedure.finish_of_step_eq rfl (hensure _ _),
      finish_committing, if_pos hperiod]
    rfl
  · have hwrite : (procedure svc).step none (.writing ⟨tenant, []⟩ u e) w =
        (.committing
          (Scope.note ⟨tenant, []⟩ (.entitlement e.tenant (w.ledger.entitlement? e.tenant))) e,
          w.withLedger (w.ledger.putEntitlement e)) := by
      simp [procedure, step, write, Scope.upsertEntitlement, hperiod]
    rw [Procedure.finish_of_step_eq rfl hwrite, finish_committing, if_neg hperiod]

/-- **A change with nothing in between writes the changed entitlement.** -/
theorem finish_arriving (tenant : String) (u : SubscriptionUpdate) (w : World) :
    (procedure svc).finish (.arriving tenant u) w = atOnce svc tenant u w := by
  unfold atOnce
  by_cases hblank : Text.isBlankText tenant = true
  · have hstep : (procedure svc).step none (.arriving tenant u) w =
        (.finished (.error (.ledger .missingTenant)), w) := by
      simp [procedure, step, arrive, Scope.begin?, hblank]
    rw [if_pos hblank, Procedure.finish_of_step_eq rfl hstep]
    exact Procedure.finish_of_result rfl _
  · have hstep : (procedure svc).step none (.arriving tenant u) w =
        (.reading ⟨tenant, []⟩ u, w) := by
      simp [procedure, step, arrive, Scope.begin?, hblank]
    rw [if_neg hblank, Procedure.finish_of_step_eq rfl hstep]
    cases hbase : u.base? tenant (w.ledger.entitlement? tenant) with
    | none =>
      have hread : (procedure svc).step none (.reading ⟨tenant, []⟩ u) w =
          (.closing ⟨tenant, []⟩ (.error (.ledger (.noEntitlement tenant))), w) := by
        simp [procedure, step, read, Scope.getEntitlement, hbase]
      rw [Procedure.finish_of_step_eq rfl hread, finish_closing]
      rfl
    | some base =>
      have hread : (procedure svc).step none (.reading ⟨tenant, []⟩ u) w =
          (.writing ⟨tenant, []⟩ u (u.apply svc.graceDays w.now base), w) := by
        simp [procedure, step, read, Scope.getEntitlement, hbase]
      rw [Procedure.finish_of_step_eq rfl hread, finish_writing]

/-- What is written is stored under the name that it carries. -/
theorem keyed_atOnce {w : World} (hkeyed : w.ledger.Keyed) (tenant : String) (u : SubscriptionUpdate) :
    (atOnce svc tenant u w).2.ledger.Keyed := by
  unfold atOnce
  split
  · exact hkeyed
  · split
    · exact hkeyed
    · dsimp only [World.withLedger]
      split
      · exact (hkeyed.putEntitlement _).of_sameTerms fun _ => rfl
      · exact hkeyed.putEntitlement _

end Sync

/-- A call of the gate on a ledger at hand writes the changed entitlement. -/
theorem Gate.sync_reliable {g : Gate} (h : g.backend = .reliable) (tenant : String)
    (u : SubscriptionUpdate) :
    g.sync tenant u = ((Sync.atOnce g.service tenant u g.world).1,
      { g with world := (Sync.atOnce g.service tenant u g.world).2 }) := by
  unfold sync
  rw [run_reliable h, Sync.finish_arriving]

end Turnstile
