/-
Only billing changes the terms of a tenant.

Calls of tools and sweeps move periods and nothing else of an entitlement, whatever they
meet on their way.  A change of a subscription writes an entitlement of its own tenant,
since it has read it under that tenant's name and every entitlement is stored under the
name that it carries (`Ledger.Keyed`).  So the terms of a tenant that nobody bills stay as
they are over every interleaving (`Traffic.terms?_run`).
-/
import Turnstile.Proofs.Service.Sync
import Turnstile.Proofs.Traffic.Balance

namespace Turnstile

/-! ### Changes of subscriptions -/

namespace Sync

/-- The tenant whose entitlement a change has still to write, if it has. -/
def pending? : Sync → Option String
  | arriving tenant _ => some tenant
  | reading scope _ => some scope.tenant
  | writing scope _ _ => some scope.tenant
  | _ => none

/-- What is known in each state. -/
def Sound : Sync → Prop
  | reading scope _ => scope.undo = []
  | writing scope _ e => e.tenant = scope.tenant
  | closing scope _ => scope.undo = []
  | _ => True

/-- What a step of a change does: it keeps all terms, or writes an entitlement of its tenant; and it
has nothing more to write for anyone else. -/
theorem step_cases (svc : Service) {s : Sync} (h : s.Sound) {w : World} (hkeyed : w.ledger.Keyed) :
    (s.step svc none w).1.Sound ∧
      (∀ tenant, (s.step svc none w).1.pending? = some tenant → s.pending? = some tenant) ∧
      (w.ledger.SameTerms (s.step svc none w).2.ledger ∨
        ∃ e, s.pending? = some e.tenant ∧
          (s.step svc none w).2.ledger = w.ledger.putEntitlement e) := by
  cases s with
  | arriving tenant update =>
    simp only [step, arrive, Scope.begin?]
    split
    · next scope hscope =>
      split at hscope
      · cases hscope
      · obtain rfl := (Except.ok.inj hscope).symm
        exact ⟨rfl, fun _ h => h, Or.inl fun _ => rfl⟩
    · exact ⟨trivial, (fun _ h => by cases h), Or.inl fun _ => rfl⟩
  | reading scope update =>
    simp only [step, read, Scope.getEntitlement]
    split
    · next e he =>
      refine ⟨?_, fun _ h => h, Or.inl fun _ => rfl⟩
      show e.tenant = scope.tenant
      exact tenant_of_base? he (fun e' he' => hkeyed scope.tenant e' he')
    · exact ⟨h, (fun _ h => by cases h), Or.inl fun _ => rfl⟩
  | writing scope update e =>
    refine ⟨?_, ?_, Or.inr ⟨e, congrArg some h.symm, rfl⟩⟩
    · simp only [step, write, Scope.upsertEntitlement]
      split <;> trivial
    · simp only [step, write, Scope.upsertEntitlement]
      split <;> exact (fun _ h => by cases h)
  | ensuring scope e => exact ⟨trivial, (fun _ h => by cases h), Or.inl fun _ => rfl⟩
  | committing scope e => exact ⟨trivial, (fun _ h => by cases h), Or.inl fun _ => rfl⟩
  | closing scope answer =>
    refine ⟨trivial, (fun _ h => by cases h), Or.inl ?_⟩
    show w.ledger.SameTerms (scope.drop w.ledger)
    rw [Scope.drop, h]
    exact fun _ => rfl
  | finished answer => exact ⟨trivial, (fun _ h => by cases h), Or.inl fun _ => rfl⟩

end Sync

/-! ### Sweeps -/

/-- A step of a sweep keeps all terms. -/
theorem Sweep.sameTerms_step (sw : Sweeper) (s : Sweep) (w : World) :
    w.ledger.SameTerms (s.step sw none w).2.ledger := by
  intro tenant
  cases s with
  | repairing c expected rest report => simp [step, World.withLedger, Ledger.terms?]
  | rolling tenant' next rest now report => simp [step, World.withLedger]
  | ensuring tenant' next rest now report => rfl
  | listing | summing | expiring | finished => rfl

/-! ### Traffic -/

/-- Does the move neither write nor announce an entitlement of the tenant? -/
def Move.Leaves (tenant : String) : Move → Prop
  | upsert e => e.tenant ≠ tenant
  | sync other _ => other ≠ tenant
  | _ => True

instance (tenant : String) : DecidablePred (Move.Leaves tenant)
  | .upsert e => inferInstanceAs (Decidable (e.tenant ≠ tenant))
  | .sync other _ => inferInstanceAs (Decidable (other ≠ tenant))
  | .clock _ | .call _ _ | .admitting _ | .deliver _ _ _ _ _ | .settling _ _ | .syncing _
  | .sweep | .sweeping _ => .isTrue trivial

namespace Traffic

variable {svc : Service} {sw : Sweeper}

/-- What is known of all traffic, that of billing included. -/
structure Orderly (t : Traffic) : Prop where
  calls : t.Sound fun _ _ => True
  keyed : t.world.ledger.Keyed
  syncs : ∀ s ∈ t.syncs, s.Sound

/-- Nobody is about to write an entitlement of the tenant. -/
def Unbilled (tenant : String) (t : Traffic) : Prop :=
  ∀ s ∈ t.syncs, s.pending? ≠ some tenant

theorem orderly_quiet {w : World} (h : w.ledger.Keyed) : (quiet w).Orderly :=
  ⟨sound_quiet fun _ _ _ => trivial, h, by simp [quiet]⟩

theorem syncs_step_of_tools (svc : Service) (sw : Sweeper) (t : Traffic) {m : Move}
    (hm : m.OfTools) : (t.step svc sw m).syncs = t.syncs := by
  cases m with
  | upsert | sync | syncing | sweep | sweeping => exact hm.elim
  | _ => rfl

/-- A move that keeps all terms keeps traffic orderly. -/
theorem Orderly.of_sameTerms {t t' : Traffic} (h : t.Orderly) (hcalls : t'.calls = t.calls)
    (hsyncs : t'.syncs = t.syncs) (hterms : t.world.ledger.SameTerms t'.world.ledger) :
    t'.Orderly :=
  ⟨⟨fun _ _ _ => trivial, hcalls ▸ h.calls.calls⟩, h.keyed.of_sameTerms hterms, hsyncs ▸ h.syncs⟩

/-- A change of a subscription makes its next step. -/
theorem Orderly.syncing (svc : Service) (sw : Sweeper) {t : Traffic} (h : t.Orderly) (nth : Nat) :
    (t.step svc sw (.syncing nth)).Orderly ∧ ∀ tenant, t.Unbilled tenant →
      (t.step svc sw (.syncing nth)).Unbilled tenant ∧
        (t.step svc sw (.syncing nth)).world.ledger.terms? tenant =
          t.world.ledger.terms? tenant := by
  have hsound := forall_mem_stepAt (f := Sync.step svc none) (i := nth) (w := t.world) h.syncs
    (fun s hs => (Sync.step_cases svc (h.syncs s hs) h.keyed).1)
  simp only [step]
  cases hs : t.syncs[nth]? with
  | none =>
    simp only [stepAt_of_none hs] at hsound ⊢
    refine ⟨⟨⟨fun _ _ _ => trivial, h.calls.calls⟩, h.keyed, hsound⟩, ?_⟩
    exact fun _ hfree => ⟨hfree, trivial⟩
  | some s =>
    have hmem : s ∈ t.syncs := List.mem_of_getElem? hs
    simp only [stepAt_of_getElem? hs] at hsound ⊢
    obtain ⟨-, hpending, heffect⟩ := Sync.step_cases svc (h.syncs s hmem) h.keyed
    refine ⟨⟨⟨fun _ _ _ => trivial, h.calls.calls⟩, ?_, hsound⟩, ?_⟩
    · rcases heffect with hsame | ⟨e, -, hput⟩
      · exact h.keyed.of_sameTerms hsame
      · show (s.step svc none t.world).2.ledger.Keyed
        rw [hput]
        exact h.keyed.putEntitlement e
    · intro tenant hfree
      refine ⟨?_, ?_⟩
      · intro s' hs' hp
        rcases List.mem_or_eq_of_mem_set hs' with hold | rfl
        · exact hfree s' hold hp
        · exact hfree s hmem (hpending tenant hp)
      · rcases heffect with hsame | ⟨e, he, hput⟩
        · exact hsame tenant
        · show (s.step svc none t.world).2.ledger.terms? tenant = _
          rw [hput]
          refine Ledger.terms?_putEntitlement_of_ne ?_
          rintro rfl
          exact hfree s hmem he

/-- Any move keeps traffic orderly, and one that leaves a tenant alone keeps its terms. -/
theorem orderly_step (svc : Service) (sw : Sweeper) {t : Traffic} (h : t.Orderly) (m : Move) :
    (t.step svc sw m).Orderly ∧ ∀ tenant, t.Unbilled tenant → m.Leaves tenant →
      (t.step svc sw m).Unbilled tenant ∧
        (t.step svc sw m).world.ledger.terms? tenant = t.world.ledger.terms? tenant := by
  by_cases htools : m.OfTools
  · obtain ⟨hsound, gain, entry, heffect, -⟩ := effect_step svc sw h.calls htools
    have hsyncs := syncs_step_of_tools svc sw t htools
    refine ⟨⟨hsound, h.keyed.of_sameTerms heffect.terms, hsyncs ▸ h.syncs⟩, ?_⟩
    intro tenant hfree _
    refine ⟨?_, heffect.terms tenant⟩
    unfold Unbilled
    rw [hsyncs]
    exact hfree
  · cases m with
    | clock | call | admitting | deliver | settling => exact absurd trivial htools
    | upsert e =>
      refine ⟨⟨⟨fun _ _ _ => trivial, h.calls.calls⟩, h.keyed.putEntitlement e, h.syncs⟩, ?_⟩
      intro tenant hfree hleaves
      exact ⟨hfree, Ledger.terms?_putEntitlement_of_ne hleaves⟩
    | sync other update =>
      refine ⟨⟨⟨fun _ _ _ => trivial, h.calls.calls⟩, h.keyed, ?_⟩, ?_⟩
      · intro s hs
        rcases List.mem_append.mp hs with hold | hnew
        · exact h.syncs s hold
        · rw [List.mem_singleton.mp hnew]
          trivial
      · intro tenant hfree hleaves
        refine ⟨?_, rfl⟩
        intro s hs hp
        rcases List.mem_append.mp hs with hold | hnew
        · exact hfree s hold hp
        · rw [List.mem_singleton.mp hnew] at hp
          exact hleaves (Option.some.inj hp)
    | syncing nth =>
      obtain ⟨horderly, hterms⟩ := h.syncing svc sw nth
      exact ⟨horderly, fun tenant hfree _ => hterms tenant hfree⟩
    | sweep => exact ⟨h.of_sameTerms rfl rfl fun _ => rfl, fun _ hfree _ => ⟨hfree, rfl⟩⟩
    | sweeping nth =>
      have hsame : t.world.ledger.SameTerms (t.step svc sw (.sweeping nth)).world.ledger := by
        refine stepAt_world (P := fun w => t.world.ledger.SameTerms w.ledger) (fun _ => rfl) ?_
        intro s _
        exact s.sameTerms_step sw t.world
      exact ⟨h.of_sameTerms rfl rfl hsame, fun tenant hfree _ => ⟨hfree, hsame tenant⟩⟩

/-- All traffic is orderly. -/
theorem orderly_run {t : Traffic} (h : t.Orderly) (moves : List Move) :
    (t.run svc sw moves).Orderly :=
  run_induction h (fun m _ _ ht => (orderly_step svc sw ht m).1)

/-- **The terms of a tenant that nobody bills stay as they are.** -/
theorem terms?_run {t : Traffic} (h : t.Orderly) {tenant : String} (hfree : t.Unbilled tenant)
    {moves : List Move} (hmoves : ∀ m ∈ moves, m.Leaves tenant) :
    (t.run svc sw moves).world.ledger.terms? tenant = t.world.ledger.terms? tenant := by
  have hrun : (t.run svc sw moves).Orderly ∧ (t.run svc sw moves).Unbilled tenant ∧
      (t.run svc sw moves).world.ledger.terms? tenant = t.world.ledger.terms? tenant := by
    refine run_induction (P := fun t' => t'.Orderly ∧ t'.Unbilled tenant ∧
      t'.world.ledger.terms? tenant = t.world.ledger.terms? tenant) ⟨h, hfree, rfl⟩ ?_
    rintro m hm t' ⟨horderly, hfree', hterms⟩
    obtain ⟨horderly', hkeep⟩ := orderly_step svc sw horderly m
    obtain ⟨hfree'', hterms'⟩ := hkeep tenant hfree' (hmoves m hm)
    exact ⟨horderly', hfree'', hterms'.trans hterms⟩
  exact hrun.2.2

end Traffic

end Turnstile
