/-
Which period is stored.

Whoever rolls a period has read it some steps before and writes what has come of it,
whatever is stored by then.  An admission reads, rolls and writes; a sweep lists all periods
that have ended and writes one after the other; and an admission that is denied puts back
what it found, if what it wrote is still there.  So the period that is stored after a while
need not come from the one that is stored now.  It comes from that one or from one that was
already on its way, and that is all there is: a property that rolling does not lead out of,
and that all of these have, stays (`Traffic.stores_run`).

A change of a subscription writes its period once.  Where no call then holds a period from
before, the period that billing has set is kept, rolled by whole windows
(`Traffic.synced_period_kept`).
-/
import Turnstile.Proofs.Rollover
import Turnstile.Proofs.Reconcile.Sweep
import Turnstile.Proofs.Traffic.Terms

namespace Turnstile

/-- Rolling does not lead out of the property. -/
def Period.Closed (Q : Period → Prop) : Prop := ∀ p q now, Q p → p.roll? now = some q → Q q

theorem Period.closed_ahead {p : Period} (hp : p.Whole) : Closed p.Ahead :=
  fun _ _ _ hq hroll => hq.trans (ahead_of_roll? (hq.whole hp) hroll)

theorem Period.closed_shifted (p : Period) : Closed p.Shifted :=
  fun _ _ _ hq hroll => hq.trans (shifted_of_roll? hroll)

variable {Q : Period → Prop} {tenant : String}

/-! ### The period that is stored -/

namespace Ledger

variable {l l' : Ledger}

/-- The period of the tenant, if it has one, has the property. -/
def Stores (Q : Period → Prop) (tenant : String) (l : Ledger) : Prop :=
  ∀ e, l.entitlement? tenant = some e → Q e.period

theorem Stores.of_same (h : l.Stores Q tenant)
    (hsame : l'.entitlement? tenant = l.entitlement? tenant) : l'.Stores Q tenant := by
  unfold Stores
  rw [hsame]
  exact h

theorem Stores.setPeriod (h : l.Stores Q tenant) {other : String} {p : Period}
    (hp : other = tenant → Q p) : (l.setPeriod other p).Stores Q tenant := by
  intro e he
  rw [entitlement?_setPeriod] at he
  split at he
  · next heq =>
    obtain ⟨e', -, rfl⟩ := Option.map_eq_some_iff.mp he
    exact hp heq
  · exact h e he

end Ledger

/-! ### Scopes -/

/-- A move of the tenant's period to one with the property was a move from one. -/
def Undo.Bound (Q : Period → Prop) (tenant : String) : Undo → Prop
  | period other previous applied => other = tenant → Q applied → Q previous
  | entitlement _ _ | reserved _ _ | released _ _ | event _ _ => True

instance [DecidablePred Q] : DecidablePred (Undo.Bound Q tenant)
  | .period other previous applied =>
    inferInstanceAs (Decidable (other = tenant → Q applied → Q previous))
  | .entitlement _ _ | .reserved _ _ | .released _ _ | .event _ _ => .isTrue trivial

namespace Scope

variable {s : Scope} {l : Ledger}

/-- All that the scope may put back for the tenant has the property, where something with the
property would stay otherwise. -/
def Bound (Q : Period → Prop) (tenant : String) (s : Scope) : Prop :=
  ∀ u ∈ s.undo, u.Bound Q tenant

instance [DecidablePred Q] (s : Scope) : Decidable (s.Bound Q tenant) :=
  inferInstanceAs (Decidable (∀ u ∈ s.undo, _))

theorem bound_fresh (name : String) : Bound Q tenant ⟨name, []⟩ := by
  intro u hu
  cases hu

/-- What is written over has the property, so it may be put back. -/
theorem Bound.updatePeriod (h : s.Bound Q tenant) (hl : l.Stores Q tenant) (other : String)
    (p : Period) : (s.updatePeriod l other p).1.Bound Q tenant := by
  unfold Scope.updatePeriod
  split
  · next e he =>
    intro u hu
    rcases List.mem_cons.mp hu with rfl | hu
    · rintro rfl -
      exact hl e he
    · exact h u hu
  · exact h

/-- Putting periods back does not lead out of the property. -/
theorem Bound.drop (h : s.Bound Q tenant) (honly : s.OnlyPeriods) (hl : l.Stores Q tenant) :
    (s.drop l).Stores Q tenant := by
  obtain ⟨name, undo⟩ := s
  unfold Bound at h
  unfold OnlyPeriods at honly
  induction undo generalizing l with
  | nil => exact hl
  | cons u rest ih =>
      have hfirst : (u.apply l).Stores Q tenant := by
        obtain ⟨other, previous, applied, rfl⟩ := honly u (by simp)
        unfold Undo.apply
        dsimp only
        split
        · next e he =>
          split
          · next hstill =>
            refine hl.setPeriod ?_
            rintro rfl
            exact h (.period other previous applied) (by simp) rfl (hstill ▸ hl e he)
          · exact hl
        · exact hl
      exact ih hfirst (fun v hv => h v (by simp [hv])) (fun v hv => honly v (by simp [hv]))

end Scope

/-! ### Admissions -/

namespace Admission

/-- All that the admission may still store for the tenant has the property, or is put back where
something with the property would stay otherwise. -/
def Bound (Q : Period → Prop) (tenant : String) : Admission → Prop
  | rolling scope _ _ _ next => scope.Bound Q tenant ∧ (scope.tenant = tenant → Q next)
  | reading scope _ _ | screening scope _ _ _ _ | ensuring scope _ _ _ | reserving scope _ _ _
  | closing scope _ => scope.Bound Q tenant
  | arriving _ _ | committing _ _ _ _ _ | finished _ => True

instance [DecidablePred Q] : DecidablePred (Admission.Bound Q tenant)
  | .rolling scope _ _ _ next =>
    inferInstanceAs (Decidable (scope.Bound Q tenant ∧ (scope.tenant = tenant → Q next)))
  | .reading scope _ _ | .screening scope _ _ _ _ | .ensuring scope _ _ _ | .reserving scope _ _ _
  | .closing scope _ => inferInstanceAs (Decidable (scope.Bound Q tenant))
  | .arriving _ _ | .committing _ _ _ _ _ | .finished _ => .isTrue trivial

/-- A step of an admission keeps to the property. -/
theorem bound_step (svc : Service) (hclosed : Period.Closed Q) {P : String → Terms → Prop}
    {a : Admission} (hsound : a.Sound P) (h : a.Bound Q tenant) {w : World}
    (hw : w.ledger.Stores Q tenant) :
    (a.step svc none w).1.Bound Q tenant ∧ (a.step svc none w).2.ledger.Stores Q tenant := by
  cases a with
  | arriving name tool =>
    simp only [step, arrive]
    split
    · exact ⟨trivial, hw⟩
    · exact ⟨Scope.bound_fresh name, hw⟩
  | reading scope cost now =>
    simp only [step, read, Scope.getEntitlement]
    split
    · exact ⟨h, hw⟩
    · next e he =>
      split
      · split
        · next next hroll =>
          refine ⟨⟨h, ?_⟩, hw⟩
          rintro rfl
          exact hclosed _ _ _ (hw e he) hroll
        · exact ⟨h, hw⟩
      · exact ⟨h, hw⟩
  | rolling scope cost now e next =>
    refine ⟨h.1.updatePeriod hw scope.tenant next, ?_⟩
    show (scope.updatePeriod w.ledger scope.tenant next).2.Stores Q tenant
    rw [Scope.updatePeriod_ledger]
    exact hw.setPeriod h.2
  | screening scope cost now e rolled =>
    simp only [step, screen]
    split
    · exact ⟨h, hw⟩
    · split <;> exact ⟨h, hw⟩
  | ensuring scope cost e rolled => exact ⟨h, hw⟩
  | reserving scope cost e rolled =>
    simp only [step, reserve, Scope.reserve]
    generalize hr : w.ledger.reserve _ cost e.limits.monthlyUnits = outcome
    obtain ⟨_ | _, l'⟩ := outcome
    · obtain ⟨row, -, -, -, rfl⟩ := Ledger.reserve_eq_reserved hr
      exact ⟨trivial, hw.of_same (by simp [World.withLedger])⟩
    · rw [Ledger.reserve_eq_rejected hr]
      exact ⟨h, hw⟩
  | committing scope cost e rolled usedAfter => exact ⟨trivial, hw⟩
  | closing scope answer => exact ⟨trivial, Scope.Bound.drop h hsound.1 hw⟩
  | finished answer => exact ⟨trivial, hw⟩

end Admission

/-! ### Sweeps -/

namespace Sweep

variable {sw : Sweeper}

/-- What the entitlements that wait are rolled to has the property. -/
def Waiting (Q : Period → Prop) (tenant : String) (now : Instant) (rest : List Entitlement) :
    Prop :=
  ∀ e ∈ rest, e.tenant = tenant → ∀ q ∈ e.period.roll? now, Q q

instance [DecidablePred Q] (now : Instant) (rest : List Entitlement) :
    Decidable (Waiting Q tenant now rest) :=
  inferInstanceAs (Decidable (∀ e ∈ rest, _ = _ → ∀ q ∈ e.period.roll? now, _))

/-- All that the sweep may still store for the tenant has the property. -/
def Bound (Q : Period → Prop) (tenant : String) : Sweep → Prop
  | rolling name next rest now _ => (name = tenant → Q next) ∧ Waiting Q tenant now rest
  | ensuring _ _ rest now _ => Waiting Q tenant now rest
  | listing | summing _ _ _ | repairing _ _ _ _ | expiring _ | finished _ => True

instance [DecidablePred Q] : DecidablePred (Sweep.Bound Q tenant)
  | .rolling name next rest now _ =>
    inferInstanceAs (Decidable ((name = tenant → Q next) ∧ Waiting Q tenant now rest))
  | .ensuring _ _ rest now _ => inferInstanceAs (Decidable (Waiting Q tenant now rest))
  | .listing | .summing _ _ _ | .repairing _ _ _ _ | .expiring _ | .finished _ => .isTrue trivial

/-- What is listed is stored, and rolls to something with the property. -/
theorem waiting_expired (hclosed : Period.Closed Q) {l : Ledger} (hkeyed : l.Keyed)
    (hl : l.Stores Q tenant) {now : Instant} {rest : List Entitlement}
    (hlisted : rest.Perm (l.expired now)) : Waiting Q tenant now rest := by
  rintro e he rfl q hroll
  obtain ⟨⟨name, hstored⟩, -⟩ := Ledger.mem_expired.mp (hlisted.mem_iff.mp he)
  rw [← hkeyed name e hstored] at hstored
  exact hclosed _ _ _ (hl e hstored) hroll

theorem bound_nextCounter (report : SweepReport) (rest : List Counter) :
    (nextCounter report rest).Bound Q tenant := by
  cases rest <;> trivial

theorem bound_nextEntitlement {now : Instant} {rest : List Entitlement}
    (h : Waiting Q tenant now rest) (report : SweepReport) :
    (nextEntitlement now report rest).Bound Q tenant := by
  cases rest with
  | nil => trivial
  | cons e rest =>
    cases hroll : e.period.roll? now with
    | none =>
      simp only [nextEntitlement, hroll]
      trivial
    | some next =>
      simp only [nextEntitlement, hroll]
      exact ⟨fun heq => h e (by simp) heq next hroll, fun e' he' => h e' (by simp [he'])⟩

/-- A step of a sweep keeps to the property. -/
theorem bound_step (hlisting : sw.listing.Faithful) (hclosed : Period.Closed Q) {s : Sweep}
    (h : s.Bound Q tenant) {w : World} (hkeyed : w.ledger.Keyed)
    (hw : w.ledger.Stores Q tenant) :
    (s.step sw none w).1.Bound Q tenant ∧ (s.step sw none w).2.ledger.Stores Q tenant := by
  cases s with
  | listing => exact ⟨bound_nextCounter _ _, hw⟩
  | summing c rest report =>
    refine ⟨?_, hw⟩
    simp only [step, compare]
    split
    · exact bound_nextCounter _ _
    · trivial
  | repairing c expected rest report =>
    exact ⟨bound_nextCounter _ _, hw.of_same (by simp [step, World.withLedger])⟩
  | expiring report =>
    have hwaiting := waiting_expired hclosed hkeyed hw (hlisting.expired w.ledger w.now)
    exact ⟨bound_nextEntitlement hwaiting report, hw⟩
  | rolling name next rest now report => exact ⟨h.2, hw.setPeriod h.1⟩
  | ensuring name next rest now report => exact ⟨bound_nextEntitlement h _, hw⟩
  | finished answer => exact ⟨trivial, hw⟩

end Sweep

/-! ### Calls that leave the period alone -/

/-- A delivery leaves all entitlements alone. -/
theorem Delivery.Advance.entitlement? {d d' : Delivery} {l l' : Ledger} (h : d.Advance l d' l')
    (tenant : String) : l'.entitlement? tenant = l.entitlement? tenant := by
  cases h with
  | still | refused => rfl
  | recorded => exact Ledger.entitlement?_record _ _ _
  | released => exact Ledger.entitlement?_release _ _ _ _

/-- A change of a subscription that has nothing to write for a tenant leaves it alone. -/
theorem Sync.entitlement?_step (svc : Service) {s : Sync} (h : s.Sound) {w : World}
    (hfree : s.pending? ≠ some tenant) :
    (s.step svc none w).2.ledger.entitlement? tenant = w.ledger.entitlement? tenant := by
  cases s with
  | arriving name update =>
    simp only [step, arrive]
    split <;> rfl
  | reading scope update =>
    simp only [step, read]
    split <;> rfl
  | writing scope update e =>
    have hother : e.tenant ≠ tenant := by
      rintro rfl
      exact hfree (congrArg some h.symm)
    show (w.ledger.putEntitlement e).entitlement? tenant = _
    rw [Ledger.entitlement?_putEntitlement, if_neg hother]
  | closing scope answer =>
    show (scope.drop w.ledger).entitlement? tenant = _
    rw [Scope.drop, h]
    rfl
  | ensuring | committing | finished => rfl

/-! ### Traffic -/

namespace Traffic

variable {svc : Service} {sw : Sweeper} {t : Traffic}

/-- All that calls of tools and sweeps may still store for the tenant has the property. -/
structure Bound (Q : Period → Prop) (tenant : String) (t : Traffic) : Prop where
  calls : ∀ c ∈ t.calls, c.admission.Bound Q tenant
  sweeps : ∀ s ∈ t.sweeps, s.Bound Q tenant

instance [DecidablePred Q] (t : Traffic) : Decidable (t.Bound Q tenant) :=
  decidable_of_iff ((∀ c ∈ t.calls, c.admission.Bound Q tenant) ∧
    ∀ s ∈ t.sweeps, s.Bound Q tenant) ⟨fun h => ⟨h.1, h.2⟩, fun h => ⟨h.1, h.2⟩⟩

/-- What is known while billing leaves the tenant alone. -/
structure Keeps (Q : Period → Prop) (tenant : String) (t : Traffic) : Prop where
  orderly : t.Orderly
  unbilled : t.Unbilled tenant
  stores : t.world.ledger.Stores Q tenant
  bound : t.Bound Q tenant

/-- A step that one call of a tool makes. -/
theorem Keeps.stepAt {f : ToolCall → World → ToolCall × World} (h : t.Keeps Q tenant) (i : Nat)
    (hstep : ∀ c ∈ t.calls, (f c t.world).1.admission.Bound Q tenant ∧
      (f c t.world).2.ledger.Stores Q tenant) :
    let t' := t.withCalls (Turnstile.stepAt f i t.calls t.world)
    t'.Bound Q tenant ∧ t'.world.ledger.Stores Q tenant :=
  ⟨⟨forall_mem_stepAt h.bound.calls fun c hc => (hstep c hc).1, h.bound.sweeps⟩,
    stepAt_world (P := fun w => w.ledger.Stores Q tenant) h.stores fun c hc => (hstep c hc).2⟩

/-- **What is stored, and what may still be, keeps the property.** -/
theorem Keeps.step (svc : Service) (hlisting : sw.listing.Faithful) (hclosed : Period.Closed Q)
    (h : t.Keeps Q tenant) {m : Move} (hleaves : m.Leaves tenant) :
    (t.step svc sw m).Keeps Q tenant := by
  obtain ⟨horderly, hkeep⟩ := orderly_step svc sw h.orderly m
  obtain ⟨hunbilled, -⟩ := hkeep tenant h.unbilled hleaves
  suffices (t.step svc sw m).Bound Q tenant ∧ (t.step svc sw m).world.ledger.Stores Q tenant from
    ⟨horderly, hunbilled, this.2, this.1⟩
  cases m with
  | clock now => exact ⟨⟨h.bound.calls, h.bound.sweeps⟩, h.stores⟩
  | upsert e =>
    refine ⟨⟨h.bound.calls, h.bound.sweeps⟩, h.stores.of_same ?_⟩
    show (t.world.ledger.putEntitlement e).entitlement? tenant = _
    rw [Ledger.entitlement?_putEntitlement, if_neg hleaves]
  | call name tool =>
    refine ⟨⟨?_, h.bound.sweeps⟩, h.stores⟩
    intro c hc
    rcases List.mem_append.mp hc with hc | hc
    · exact h.bound.calls c hc
    · rw [List.mem_singleton.mp hc]
      trivial
  | admitting i =>
    exact h.stepAt i fun c hc => Admission.bound_step svc hclosed
      (h.orderly.calls.calls c hc).admission (h.bound.calls c hc) h.stores
  | deliver i tool replay audit status =>
    refine h.stepAt i fun c hc => ?_
    unfold ToolCall.deliver
    split <;> exact ⟨h.bound.calls c hc, h.stores⟩
  | settling i nth =>
    refine h.stepAt i fun c hc => ⟨h.bound.calls c hc, ?_⟩
    refine stepAt_world (P := fun w => w.ledger.Stores Q tenant) h.stores fun d hd => ?_
    have hsound := (h.orderly.calls.calls c hc).deliveries d hd
    exact h.stores.of_same ((Delivery.advance_step hsound t.world).entitlement? tenant)
  | sync name update => exact ⟨⟨h.bound.calls, h.bound.sweeps⟩, h.stores⟩
  | syncing nth =>
    refine ⟨⟨h.bound.calls, h.bound.sweeps⟩, ?_⟩
    refine stepAt_world (P := fun w => w.ledger.Stores Q tenant) h.stores fun s hs => ?_
    exact h.stores.of_same (Sync.entitlement?_step svc (h.orderly.syncs s hs) (h.unbilled s hs))
  | sweep =>
    refine ⟨⟨h.bound.calls, ?_⟩, h.stores⟩
    intro s hs
    rcases List.mem_append.mp hs with hs | hs
    · exact h.bound.sweeps s hs
    · rw [List.mem_singleton.mp hs]
      trivial
  | sweeping nth =>
    have hstep (s : Sweep) (hs : s ∈ t.sweeps) := Sweep.bound_step hlisting hclosed
      (h.bound.sweeps s hs) h.orderly.keyed h.stores
    exact ⟨⟨h.bound.calls, forall_mem_stepAt h.bound.sweeps fun s hs => (hstep s hs).1⟩,
      stepAt_world (P := fun w => w.ledger.Stores Q tenant) h.stores fun s hs => (hstep s hs).2⟩

/-- **Nothing outside a property comes to be stored that rolling does not lead out of, and that
what is stored and what may still be stored have.** -/
theorem stores_run (hlisting : sw.listing.Faithful) (hclosed : Period.Closed Q)
    (h : t.Keeps Q tenant) {moves : List Move} (hmoves : ∀ m ∈ moves, m.Leaves tenant) :
    (t.run svc sw moves).world.ledger.Stores Q tenant :=
  (run_induction (P := Keeps Q tenant) h
    fun m hm _ ht => ht.step svc hlisting hclosed (hmoves m hm)).stores

end Traffic

/-! ### The write of a change -/

namespace Sync

/-- Is the change about to write? -/
def isWriting : Sync → Bool
  | writing _ _ _ => true
  | _ => false

/-- The change has still to write the period for the tenant, or will not. -/
def Awaits (tenant : String) (p : Period) : Sync → Prop
  | arriving name update => name = tenant ∧ update.period = some p
  | reading scope update => scope.tenant = tenant ∧ update.period = some p
  | writing scope _ e => scope.tenant = tenant ∧ e.period = p
  | closing _ answer | finished answer => ∀ e, answer ≠ .ok e
  | ensuring _ _ | committing _ _ => False

/-- A change that has to write does so, and until then it has to. -/
theorem awaits_step (svc : Service) {s : Sync} {p : Period} (h : s.Awaits tenant p) (w : World) :
    (s.step svc none w).1.Awaits tenant p ∨
      ∃ scope update e, s = .writing scope update e ∧ scope.tenant = tenant ∧ e.period = p := by
  cases s with
  | arriving name update =>
    refine .inl ?_
    simp only [step, arrive, Scope.begin?]
    split
    · next scope hscope =>
      split at hscope
      · cases hscope
      · obtain rfl := (Except.ok.inj hscope).symm
        exact h
    · intro e he
      cases he
  | reading scope update =>
    refine .inl ?_
    simp only [step, read]
    split
    · refine ⟨h.1, ?_⟩
      show update.period.getD _ = p
      rw [h.2]
      rfl
    · intro e he
      cases he
  | writing scope update e => exact .inr ⟨scope, update, e, rfl, h⟩
  | ensuring | committing => exact h.elim
  | closing | finished => exact .inl h

end Sync

namespace Traffic

variable {svc : Service} {sw : Sweeper} {t : Traffic} {nth : Nat}

/-- Nobody but the change at the place is about to write an entitlement of the tenant. -/
def Alone (nth : Nat) (tenant : String) (t : Traffic) : Prop :=
  ∀ i s, t.syncs[i]? = some s → s.pending? = some tenant → i = nth

/-- A tenant that nobody bills stays unbilled. -/
theorem unbilled_run (h : t.Orderly) (hfree : t.Unbilled tenant) {moves : List Move}
    (hmoves : ∀ m ∈ moves, m.Leaves tenant) : (t.run svc sw moves).Unbilled tenant := by
  have hrun : (t.run svc sw moves).Orderly ∧ (t.run svc sw moves).Unbilled tenant := by
    refine run_induction (P := fun t => t.Orderly ∧ t.Unbilled tenant) ⟨h, hfree⟩ ?_
    rintro m hm t' ⟨horderly, hfree'⟩
    obtain ⟨horderly', hkeep⟩ := orderly_step svc sw horderly m
    exact ⟨horderly', (hkeep tenant hfree' (hmoves m hm)).1⟩
  exact hrun.2

/-- A change that is among those on its way and one that arrives was there or has arrived. -/
theorem getElem?_arriving {syncs : List Sync} {s s' : Sync} {i : Nat}
    (h : (syncs ++ [s'])[i]? = some s) :
    syncs[i]? = some s ∨ i = syncs.length ∧ s = s' := by
  rw [List.getElem?_append] at h
  split at h
  · exact .inl h
  · rw [List.getElem?_singleton] at h
    split at h
    · exact .inr ⟨by omega, (Option.some.inj h).symm⟩
    · cases h

/-- A change that arrives where there is none is alone. -/
theorem alone_arriving (hfree : t.Unbilled tenant) (update : SubscriptionUpdate) :
    (t.step svc sw (.sync tenant update)).Alone t.syncs.length tenant := by
  intro i s hs hpending
  rcases getElem?_arriving hs with hold | ⟨hi, -⟩
  · exact absurd hpending (hfree s (List.mem_of_getElem? hold))
  · exact hi

/-- It stays alone while nobody else is announced. -/
theorem alone_step (h : t.Orderly) (halone : t.Alone nth tenant) {m : Move}
    (hleaves : m.Leaves tenant) : (t.step svc sw m).Alone nth tenant := by
  intro i s hs hpending
  rcases syncs_step svc sw t m with hsame | ⟨other, update, rfl, happ⟩ | ⟨j, s', rfl, hs', hset⟩
  · rw [hsame] at hs
    exact halone i s hs hpending
  · rw [happ] at hs
    rcases getElem?_arriving hs with hold | ⟨-, rfl⟩
    · exact halone i s hold hpending
    · exact absurd (Option.some.inj hpending) hleaves
  · rw [hset, List.getElem?_set] at hs
    split at hs
    · next hij =>
      subst hij
      split at hs
      · obtain rfl := Option.some.inj hs
        have hsound := h.syncs s' (List.mem_of_getElem? hs')
        have hstill := (Sync.step_cases svc hsound h.keyed).2.1 tenant hpending
        exact halone j s' hs' hstill
      · cases hs
    · exact halone i s hs hpending

/-- Only its own steps change a change of a subscription. -/
theorem getElem?_syncs_step {s : Sync} (hs : t.syncs[nth]? = some s) {m : Move}
    (hother : m ≠ .syncing nth) : (t.step svc sw m).syncs[nth]? = some s := by
  have hlt : nth < t.syncs.length := (List.getElem?_eq_some_iff.mp hs).1
  rcases syncs_step svc sw t m with hsame | ⟨other, update, rfl, happ⟩ | ⟨j, s', rfl, -, hset⟩
  · rw [hsame]
    exact hs
  · rw [happ, List.getElem?_append_left hlt]
    exact hs
  · have hne : j ≠ nth := by
      rintro rfl
      exact hother rfl
    rw [hset, List.getElem?_set_ne hne]
    exact hs

theorem getElem?_syncs_syncing (svc : Service) (sw : Sweeper) {s : Sync}
    (hs : t.syncs[nth]? = some s) :
    (t.step svc sw (.syncing nth)).syncs[nth]? = some (s.step svc none t.world).1 ∧
      (t.step svc sw (.syncing nth)).world = (s.step svc none t.world).2 := by
  have hlt : nth < t.syncs.length := (List.getElem?_eq_some_iff.mp hs).1
  simp [step, stepAt_of_getElem? hs, List.getElem?_set_self hlt]

/-- **A change that answers has written**: at some move its entitlement was stored. -/
theorem exists_write {p : Period} {s : Sync} (hs : t.syncs[nth]? = some s)
    (hawaits : s.Awaits tenant p) {moves : List Move} {answer : Entitlement}
    (hdone : (t.run svc sw moves).syncs[nth]? = some (.finished (.ok answer))) :
    ∃ before after scope update e, moves = before ++ .syncing nth :: after ∧
      (t.run svc sw before).syncs[nth]? = some (.writing scope update e) ∧
      scope.tenant = tenant ∧ e.period = p := by
  let Waiting (t : Traffic) : Prop := ∃ s, t.syncs[nth]? = some s ∧ s.Awaits tenant p
  have hend : ¬ Waiting (t.run svc sw moves) := by
    rintro ⟨s', hs', hawaits'⟩
    obtain rfl := Option.some.inj (hdone.symm.trans hs')
    exact hawaits' answer rfl
  obtain ⟨before, m, after, rfl, ⟨s', hs', hawaits'⟩, hlast⟩ :=
    exists_ending (P := Waiting) ⟨s, hs, hawaits⟩ hend
  by_cases hm : m = .syncing nth
  · subst hm
    rcases Sync.awaits_step svc hawaits' (t.run svc sw before).world with hstill | hwrite
    · exact absurd ⟨_, (getElem?_syncs_syncing svc sw hs').1, hstill⟩ hlast
    · obtain ⟨scope, update, e, rfl, hscope, he⟩ := hwrite
      exact ⟨before, after, scope, update, e, rfl, hs', hscope, he⟩
  · exact absurd ⟨s', getElem?_syncs_step hs' hm, hawaits'⟩ hlast

/-! ### The period that billing has set -/

/-- Where the move is the write of the change at the place, no call holds a period without the
property. -/
def Clears (nth : Nat) (Q : Period → Prop) (tenant : String) (t : Traffic) : Move → Prop
  | .syncing i => i = nth → ∀ s ∈ t.syncs[nth]?, s.isWriting = true → t.Bound Q tenant
  | _ => True

instance [DecidablePred Q] (t : Traffic) : DecidablePred (t.Clears nth Q tenant)
  | .syncing i => inferInstanceAs (Decidable (i = nth → ∀ s ∈ t.syncs[nth]?, _ = true → _))
  | .clock _ | .upsert _ | .call _ _ | .admitting _ | .deliver _ _ _ _ _ | .settling _ _
  | .sync _ _ | .sweep | .sweeping _ => .isTrue trivial

/-- So it is along all moves. -/
def WritesClear (svc : Service) (sw : Sweeper) (nth : Nat) (Q : Period → Prop) (tenant : String)
    (t : Traffic) : List Move → Prop
  | [] => True
  | m :: rest => t.Clears nth Q tenant m ∧ WritesClear svc sw nth Q tenant (t.step svc sw m) rest

instance decidableWritesClear [DecidablePred Q] (t : Traffic) :
    (moves : List Move) → Decidable (t.WritesClear svc sw nth Q tenant moves)
  | [] => .isTrue trivial
  | m :: rest =>
    have := decidableWritesClear (t.step svc sw m) rest
    inferInstanceAs (Decidable (t.Clears nth Q tenant m ∧
      WritesClear svc sw nth Q tenant (t.step svc sw m) rest))

theorem WritesClear.at {before after : List Move} {m : Move}
    (h : t.WritesClear svc sw nth Q tenant (before ++ m :: after)) :
    (t.run svc sw before).Clears nth Q tenant m := by
  induction before generalizing t with
  | nil => exact h.1
  | cons m' rest ih => exact ih h.2

/-- The write stores the period, and leaves nobody who bills the tenant. -/
theorem keeps_write (svc : Service) (sw : Sweeper) (h : t.Orderly) (halone : t.Alone nth tenant)
    {scope : Scope} {update : SubscriptionUpdate} {e : Entitlement}
    (hs : t.syncs[nth]? = some (.writing scope update e)) (hscope : scope.tenant = tenant)
    (he : Q e.period) (hbound : t.Bound Q tenant) :
    (t.step svc sw (.syncing nth)).Keeps Q tenant ∧
      (t.step svc sw (.syncing nth)).world.ledger.entitlement? tenant = some e := by
  obtain ⟨hself, hworld⟩ := getElem?_syncs_syncing svc sw hs
  have hname : e.tenant = tenant := (h.syncs _ (List.mem_of_getElem? hs)).trans hscope
  have hstored : (t.step svc sw (.syncing nth)).world.ledger.entitlement? tenant = some e := by
    rw [hworld]
    show (t.world.ledger.putEntitlement e).entitlement? tenant = some e
    rw [Ledger.entitlement?_putEntitlement, if_pos hname]
  refine ⟨⟨(orderly_step svc sw h _).1, ?_, ?_, hbound.calls, hbound.sweeps⟩, hstored⟩
  · -- what has written has nothing more to write
    intro s hmem hpending
    obtain ⟨i, hi⟩ := List.getElem?_of_mem hmem
    obtain rfl := alone_step (m := .syncing nth) h halone trivial i s hi hpending
    obtain rfl := Option.some.inj (hself.symm.trans hi)
    simp only [Sync.step, Sync.write] at hpending
    split at hpending <;> cases hpending
  · intro e' he'
    obtain rfl := Option.some.inj (hstored.symm.trans he')
    exact he

/-- **A period that billing sets is kept, rolled by whole windows**, in every interleaving with one
such change in which no call holds, when it is written, a period from before. -/
theorem synced_period_kept (hlisting : sw.listing.Faithful) {w : World} (hkeyed : w.ledger.Keyed)
    {update : SubscriptionUpdate} {p : Period} (hperiod : update.period = some p) (hp : p.Whole)
    {before after : List Move} (hbefore : ∀ m ∈ before, m.Leaves tenant)
    (hafter : ∀ m ∈ after, m.Leaves tenant) {answer : Entitlement} :
    let announced := ((quiet w).run svc sw before).step svc sw (.sync tenant update)
    let nth := ((quiet w).run svc sw before).syncs.length
    (announced.run svc sw after).syncs[nth]? = some (.finished (.ok answer)) →
      announced.WritesClear svc sw nth p.Ahead tenant after →
      ∃ e, (announced.run svc sw after).world.ledger.entitlement? tenant = some e ∧
        p.Ahead e.period := by
  intro announced nth hdone hclear
  have hquiet : ((quiet w).run svc sw before).Orderly := orderly_run (orderly_quiet hkeyed) before
  have hfree : ((quiet w).run svc sw before).Unbilled tenant :=
    unbilled_run (orderly_quiet hkeyed) (by simp [Unbilled, quiet]) hbefore
  have horderly : announced.Orderly := (orderly_step svc sw hquiet _).1
  have hnew : announced.syncs[nth]? = some (.arriving tenant update) :=
    List.getElem?_concat_length
  obtain ⟨during, rest, scope, update', e, rfl, hwriting, hscope, rfl⟩ :=
    exists_write hnew ⟨rfl, hperiod⟩ hdone
  have hduring : ∀ m ∈ during, m.Leaves tenant := fun m hm => hafter m (by simp [hm])
  have hrest : ∀ m ∈ rest, m.Leaves tenant := fun m hm => hafter m (by simp [hm])
  have hwhole : (announced.run svc sw during).Orderly ∧
      (announced.run svc sw during).Alone nth tenant := by
    refine run_induction (P := fun t => t.Orderly ∧ t.Alone nth tenant)
      ⟨horderly, alone_arriving hfree update⟩ ?_
    rintro m hm t ⟨ht, halone⟩
    exact ⟨(orderly_step svc sw ht m).1, alone_step ht halone (hduring m hm)⟩
  have hbound := hclear.at rfl _ hwriting rfl
  obtain ⟨hkeeps, hstored⟩ := keeps_write svc sw hwhole.1 hwhole.2 hwriting hscope
    (.refl e.period) hbound
  let written := (announced.run svc sw during).step svc sw (.syncing nth)
  have hterms : (written.run svc sw rest).world.ledger.terms? tenant =
      written.world.ledger.terms? tenant := terms?_run hkeeps.orderly hkeeps.unbilled hrest
  rw [Ledger.terms?_of_entitlement? hstored] at hterms
  obtain ⟨e', he', -⟩ := Option.map_eq_some_iff.mp hterms
  rw [run_append]
  exact ⟨e', he', stores_run hlisting (Period.closed_ahead hp) hkeeps hrest e' he'⟩

/-! ### A period that is lost -/

/-- Billing starts the trial anew on its thirty-first day. -/
def renewal : SubscriptionUpdate :=
  ⟨.active, none, none, some ⟨⟨31 * Span.day⟩, ⟨61 * Span.day⟩⟩⟩

/-- A call that has read the old period when billing sets the new one, and goes on after that. -/
def overtaken : List Move :=
  [.call "acme" "search", .admitting 0, .admitting 0, .sync "acme" renewal] ++
    List.replicate 5 (.syncing 0) ++ List.replicate 5 (.admitting 0)

/-- Billing has its answer, and the call has been admitted; what is stored is the old period, rolled
once. -/
theorem synced_period_lost :
    let t := (quiet lapsedWorld).run .standard .standard overtaken
    let p : Period := ⟨⟨31 * Span.day⟩, ⟨61 * Span.day⟩⟩
    renewal.period = some p ∧ p.Whole ∧ p.start < p.stop ∧ t.AtRest ∧
      (∃ answer, t.syncs[0]? = some (.finished (.ok answer)) ∧ answer.period = p) ∧
      (t.world.ledger.entitlement? "acme").map (·.period) =
        some ⟨⟨30 * Span.day⟩, ⟨60 * Span.day⟩⟩ ∧
      ¬ p.Ahead ⟨⟨30 * Span.day⟩, ⟨60 * Span.day⟩⟩ :=
  ⟨rfl, by decide, by decide, ⟨by decide, by decide⟩, ⟨_, rfl, rfl⟩, by decide, by decide⟩

/-- A call arrives. -/
def arrival : List Move := [.call "acme" "search", .admitting 0]

/-- The call reads the period when billing has written it, and both go on to their ends. -/
def followed : List Move :=
  List.replicate 3 (.syncing 0) ++ List.replicate 6 (.admitting 0) ++ List.replicate 2 (.syncing 0)

/-- When billing writes, the call has arrived and read nothing yet; so the period is kept. -/
theorem synced_period_kept_after_arrival :
    let announced := ((quiet lapsedWorld).run .standard .standard arrival).step .standard .standard
      (.sync "acme" renewal)
    let p : Period := ⟨⟨31 * Span.day⟩, ⟨61 * Span.day⟩⟩
    announced.WritesClear .standard .standard 0 p.Ahead "acme" followed ∧
      ∃ e, (announced.run .standard .standard followed).world.ledger.entitlement? "acme" = some e ∧
        p.Ahead e.period := by
  refine ⟨by decide, ?_⟩
  have hdone : ((((quiet lapsedWorld).run .standard .standard arrival).step .standard .standard
      (.sync "acme" renewal)).run .standard .standard followed).syncs[0]? =
        some (.finished (.ok (renewal.apply 7 ⟨31 * Span.day⟩ lapsedTrial))) := rfl
  exact synced_period_kept Listing.faithful_sorted (by decide) (rfl : renewal.period = some _)
    (by decide) (by decide) (by decide) hdone (by decide)

end Traffic

end Turnstile
