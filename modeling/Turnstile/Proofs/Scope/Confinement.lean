/-
A scope is confined to its tenant.

Every call on a scope names a tenant, and one that names another than the scope's own is refused
before it does anything.  What is left is that the calls for the scope's own tenant, and the notes
they leave, keep to rows of that tenant.  The notes have keys of their own, and events are taken out
of the whole log by their ids, so a note is confined only together with the log that it will be
followed on (`Undo.Concerns`): an event under the id has to be one of the tenant.  Calls that record
events under new ids keep it so, and so does following other notes, which only takes events out.
-/
import Turnstile.Proofs.Scope.Replays
import Turnstile.Proofs.Scope.Restore

namespace Turnstile

/-! ### What a tenant has in a ledger -/

/-- The entitlement, the counters and the events of a tenant are the same in both ledgers. -/
structure Ledger.Untouched (tenant : String) (l l' : Ledger) : Prop where
  entitlement : l'.entitlement? tenant = l.entitlement? tenant
  rows : ∀ k : CounterKey, k.tenant = tenant → l'.tally? k = l.tally? k
  events : l'.eventsOf tenant = l.eventsOf tenant

variable {owner tenant : String} {l l' l'' : Ledger}

namespace Ledger

theorem Untouched.refl (tenant : String) (l : Ledger) : l.Untouched tenant l :=
  ⟨rfl, fun _ _ => rfl, rfl⟩

theorem Untouched.trans (h : l.Untouched tenant l') (h' : l'.Untouched tenant l'') :
    l.Untouched tenant l'' where
  entitlement := h'.entitlement.trans h.entitlement
  rows k hk := (h'.rows k hk).trans (h.rows k hk)
  events := h'.events.trans h.events

/-- Writes that leave the log alone leave the events of every tenant alone. -/
theorem eventsOf_of_events (h : l'.events = l.events) (tenant : String) :
    l'.eventsOf tenant = l.eventsOf tenant := by
  unfold eventsOf
  rw [h]

theorem eventsOf_record_of_ne {e : Event} (hne : e.tenant ≠ tenant) :
    (l.record e).2.eventsOf tenant = l.eventsOf tenant := by
  cases houtcome : (l.record e).1 with
  | duplicate => rw [record_of_duplicate houtcome]
  | inserted =>
    unfold eventsOf
    rw [events_record_of_inserted houtcome, List.filter_append]
    simp [hne]

/-- An id that only the events of one tenant carry takes nothing out of the log of another. -/
theorem eventsOf_unrecord_of_ne {id : EventId} (replay : Option ReplayId)
    (hid : ∀ e ∈ l.events, e.id = id → e.tenant = owner) (hne : owner ≠ tenant) :
    (l.unrecord id replay).eventsOf tenant = l.eventsOf tenant := by
  unfold eventsOf unrecord
  dsimp only
  rw [List.filter_filter]
  refine List.filter_congr fun e he => ?_
  by_cases htenant : e.tenant = tenant
  · have hother : e.id ≠ id := by
      intro heq
      exact hne ((hid e he heq).symm.trans htenant)
    simp [htenant, hother]
  · simp [htenant]

end Ledger

/-! ### Notes -/

/-- Taking the write back keeps to what the tenant has in the ledger. -/
def Undo.Concerns (owner : String) (l : Ledger) : Undo → Prop
  | entitlement other previous => other = owner ∧ ∀ e ∈ previous, e.tenant = owner
  | period other _ _ => other = owner
  | reserved k _ | released k _ => k.tenant = owner
  | event id _ => ∀ e ∈ l.events, e.id = id → e.tenant = owner

namespace Undo

variable {u : Undo}

/-- It goes on doing so when events of the tenant are added, and when events are taken out. -/
theorem Concerns.of_events (h : u.Concerns owner l)
    (hevents : ∀ e ∈ l'.events, e ∈ l.events ∨ e.tenant = owner) : u.Concerns owner l' := by
  cases u with
  | event id replay =>
    intro e he hid
    rcases hevents e he with hold | hnew
    · exact h e hold hid
    · exact hnew
  | entitlement | period | reserved | released => exact h

theorem restored_of_concerns (h : u.Concerns owner l) (hne : owner ≠ tenant)
    (row : Option Entitlement) : u.restored tenant row = row := by
  cases u with
  | entitlement other previous =>
    obtain ⟨rfl, hprevious⟩ := h
    cases previous with
    | none => exact if_neg hne
    | some e => exact if_neg (hprevious e rfl ▸ hne)
  | period other previous applied =>
    obtain rfl : other = owner := h
    exact if_neg hne
  | reserved | released | event => rfl

theorem tally?_apply_of_concerns (h : u.Concerns owner l) {k : CounterKey} (hne : owner ≠ k.tenant) :
    (u.apply l).tally? k = l.tally? k := by
  have hkey : ∀ key : CounterKey, key.tenant = owner → key ≠ k := by
    rintro key hkey rfl
    exact hne hkey.symm
  cases u with
  | entitlement other previous => cases previous <;> rfl
  | period other previous applied => exact (periodsMoved_apply l other previous applied).tally? k
  | reserved key cost =>
    show (l.release key cost).2.tally? k = l.tally? k
    rw [Ledger.tally?_release, if_neg (hkey key h)]
  | released key amount =>
    unfold apply
    dsimp only
    split
    · rw [Ledger.tally?_setUsed, if_neg (hkey key h)]
    · rfl
  | event id replay => rfl

theorem eventsOf_apply_of_concerns (h : u.Concerns owner l) (hne : owner ≠ tenant) :
    (u.apply l).eventsOf tenant = l.eventsOf tenant := by
  cases u with
  | event id replay => exact Ledger.eventsOf_unrecord_of_ne replay h hne
  | entitlement | period | reserved | released =>
    exact Ledger.eventsOf_of_events (log_apply (by simp) l).1 tenant

/-- Taking back a write of one tenant touches nothing of another. -/
theorem untouched_apply (h : u.Concerns owner l) (hne : owner ≠ tenant) :
    l.Untouched tenant (u.apply l) := by
  refine ⟨?_, ?_, eventsOf_apply_of_concerns h hne⟩
  · rw [entitlement?_apply, restored_of_concerns h hne]
  · rintro k rfl
    exact tally?_apply_of_concerns h hne

end Undo

namespace Scope

/-- Following notes of one tenant, all of them or the last few, touches nothing of another. -/
theorem untouched_drop {undo : List Undo} (h : ∀ u ∈ undo, u.Concerns owner l)
    (hne : owner ≠ tenant) : l.Untouched tenant (drop ⟨owner, undo⟩ l) := by
  induction undo generalizing l with
  | nil => exact .refl tenant l
  | cons u rest ih =>
    refine (Undo.untouched_apply (h u (by simp)) hne).trans (ih fun v hv => ?_)
    exact (h v (by simp [hv])).of_events fun e he => .inl ((u.sublist_events_apply l).subset he)

/-! ### Calls -/

variable {s s' : Scope} {c : Call}

/-- A call touches nothing of another tenant. -/
theorem Write.untouched (h : s.Write l c s' l') (hne : s.tenant ≠ tenant) :
    l.Untouched tenant l' := by
  have hkey : ∀ k key : CounterKey, k.tenant = tenant → key.tenant = s.tenant → key ≠ k := by
    rintro k key hk hkey rfl
    exact hne (hkey.symm.trans hk)
  cases h with
  | nothing => exact .refl tenant l
  | opened meter p =>
    refine ⟨rfl, fun k hk => ?_, rfl⟩
    rw [Ledger.tally?_ensureCounter, if_neg (hkey k _ hk rfl)]
  | upserted htenant =>
    refine ⟨?_, fun _ _ => rfl, rfl⟩
    rw [Ledger.entitlement?_putEntitlement, if_neg (htenant ▸ hne)]
  | moved =>
    refine ⟨?_, fun k _ => Ledger.tally?_setPeriod .., Ledger.eventsOf_of_events (by simp) tenant⟩
    rw [Ledger.entitlement?_setPeriod, if_neg hne]
  | reserved htenant | released htenant =>
    refine ⟨Ledger.entitlement?_setUsed .., fun k hk => ?_,
      Ledger.eventsOf_of_events (by simp) tenant⟩
    rw [Ledger.tally?_setUsed, if_neg (hkey k _ hk htenant)]
  | recorded htenant =>
    exact ⟨Ledger.entitlement?_record .., fun k _ => Ledger.tally?_record ..,
      Ledger.eventsOf_record_of_ne (htenant ▸ hne)⟩

/-- A call leaves notes that concern the scope's own tenant. -/
theorem Write.concerns (h : s.Write l c s' l') (hkeyed : l.Keyed)
    (hfresh : ∀ id ∈ c.eventId?, ∀ e ∈ l.events, e.id ≠ id)
    (hnotes : ∀ u ∈ s.undo, u.Concerns s.tenant l) : ∀ u ∈ s'.undo, u.Concerns s.tenant l' := by
  have hold : (∀ e ∈ l'.events, e ∈ l.events ∨ e.tenant = s.tenant) →
      ∀ u ∈ s.undo, u.Concerns s.tenant l' := fun hevents u hu => (hnotes u hu).of_events hevents
  -- the new note on its own, with those that were there
  have hnoted : ∀ u : Undo, u.Concerns s.tenant l' →
      (∀ e ∈ l'.events, e ∈ l.events ∨ e.tenant = s.tenant) →
        ∀ v ∈ (s.note u).undo, v.Concerns s.tenant l' := by
    intro u hu hevents v hv
    rcases List.mem_cons.mp hv with rfl | hv
    · exact hu
    · exact hold hevents v hv
  cases h with
  | nothing => exact hnotes
  | opened => exact hold fun e he => .inl he
  | @upserted e htenant =>
    refine hnoted _ ⟨htenant, fun e' he' => ?_⟩ fun e he => .inl he
    exact (hkeyed e.tenant e' he').trans htenant
  | moved => exact hnoted _ rfl fun e he => .inl (by simpa using he)
  | reserved htenant => exact hnoted _ htenant fun e he => .inl (by simpa using he)
  | released htenant => exact hnoted _ htenant fun e he => .inl (by simpa using he)
  | @recorded e htenant hins =>
    have hevents : ∀ e' ∈ (l.record e).2.events, e' ∈ l.events ∨ e' = e := by
      intro e' he'
      rw [Ledger.events_record_of_inserted hins] at he'
      simpa using he'
    refine hnoted _ (fun e' he' hid => ?_) fun e' he' => ?_
    · rcases hevents e' he' with hmem | rfl
      · exact absurd hid (hfresh e.id rfl e' hmem)
      · exact htenant
    · rcases hevents e' he' with hmem | rfl
      · exact .inl hmem
      · exact .inr htenant

/-- Calls, one after another, keep to the scope's own tenant, and so do their notes. -/
theorem confined_performAll {calls : List Call} (hkeyed : l.Keyed) (hfresh : Fresh calls l)
    (hnotes : ∀ u ∈ s.undo, u.Concerns s.tenant l) :
    (performAll calls s l).1.tenant = s.tenant ∧
      (∀ u ∈ (performAll calls s l).1.undo, u.Concerns s.tenant (performAll calls s l).2) ∧
      ∀ other, s.tenant ≠ other → l.Untouched other (performAll calls s l).2 := by
  induction calls generalizing s l with
  | nil => exact ⟨rfl, hnotes, fun other _ => .refl other l⟩
  | cons c rest ih =>
    have hwrite := write_perform c s l
    have hunlogged : ∀ id ∈ c.eventId?, ∀ e ∈ l.events, e.id ≠ id := fun id hid =>
      hfresh.unlogged id (List.mem_filterMap.mpr ⟨c, by simp, hid⟩)
    obtain ⟨htenant, hconcerns, hothers⟩ := ih (s := (perform c s l).2.1) (hwrite.keyed hkeyed)
      (hfresh.tail hwrite) (hwrite.tenant.symm ▸ hwrite.concerns hkeyed hunlogged hnotes)
    rw [hwrite.tenant] at htenant hconcerns hothers
    exact ⟨htenant, hconcerns, fun other hne => (hwrite.untouched hne).trans (hothers other hne)⟩

/-- The first few of the calls have ids of their own as well. -/
theorem Fresh.of_append {calls more : List Call} (h : Fresh (calls ++ more) l) : Fresh calls l := by
  obtain ⟨hdistinct, hunlogged⟩ := h
  rw [List.filterMap_append] at hdistinct hunlogged
  exact ⟨hdistinct.of_append_left, fun id hid => hunlogged id (by simp [hid])⟩

/-- **A scope is confined to its tenant.**  At every moment a call for another tenant is refused and
changes neither the scope nor the ledger; and nothing that another tenant has is touched, by the
calls so far, by a commit, or by a rollback, however far that has come. -/
theorem confined_to_tenant {calls : List Call} (hbegin : begin? owner = .ok s) (hkeyed : l.Keyed)
    (hfresh : Fresh calls l) :
    ∀ before after, calls = before ++ after →
      let worked := performAll before s l
      (∀ c ∈ after.head?, c.tenant ≠ owner →
        perform c worked.1 worked.2 = (.error (.tenantMismatch owner c.tenant), worked)) ∧
      ∀ other, other ≠ owner →
        l.Untouched other worked.2 ∧ l.Untouched other (worked.1.commit.drop worked.2) ∧
          ∀ notes, notes <+: worked.1.undo →
            l.Untouched other (drop ⟨owner, notes⟩ worked.2) := by
  rintro before after rfl worked
  obtain ⟨-, rfl⟩ := begin?_eq_ok_iff.mp hbegin
  obtain ⟨htenant, hconcerns, hothers⟩ := confined_performAll (s := ⟨owner, []⟩) hkeyed
    hfresh.of_append (by simp)
  refine ⟨fun c _ hforeign => ?_, fun other hne => ?_⟩
  · have hforeign' : c.tenant ≠ worked.1.tenant := htenant ▸ hforeign
    rw [perform_of_ne worked.2 hforeign', show worked.1.tenant = owner from htenant]
  · have hcalls := hothers other hne.symm
    refine ⟨hcalls, hcalls, fun notes hnotes => hcalls.trans (untouched_drop ?_ hne.symm)⟩
    exact fun u hu => hconcerns u (hnotes.subset hu)

/-! ### Two tenants -/

/-- A ledger in which the trial has a neighbour with an entitlement, a counter and an event. -/
def sharedLedger : Ledger :=
  (((trialLedger.putEntitlement { Traffic.lapsedTrial with tenant := "other" }).putCounter
    ⟨"other", defaultMeter, ⟨⟨0⟩, ⟨30 * Span.day⟩⟩, 1⟩).record
      ⟨.drawn 1, "other", defaultMeter, 1, "search", some "theirs", none, .success, ⟨0⟩⟩).2

theorem keyed_sharedLedger : sharedLedger.Keyed := by decide

theorem fresh_sharedLedger : Fresh trialWork sharedLedger := ⟨by decide, by decide⟩

/-- The trial's work is done, and its last call, which is for the neighbour, is still to be made. -/
theorem confined_to_tenant_trial :
    let worked := performAll (trialWork.take 7) ⟨"acme", []⟩ sharedLedger
    let c : Call := .reserve ⟨"other", defaultMeter, ⟨0⟩⟩ 1 3
    begin? "acme" = .ok ⟨"acme", []⟩ ∧ worked.1.undo.length = 5 ∧
      perform c worked.1 worked.2 = (.error (.tenantMismatch "acme" "other"), worked) ∧
      ∀ other, other ≠ "acme" →
        sharedLedger.Untouched other worked.2 ∧
          sharedLedger.Untouched other (worked.1.commit.drop worked.2) ∧
          ∀ notes, notes <+: worked.1.undo →
            sharedLedger.Untouched other (drop ⟨"acme", notes⟩ worked.2) := by
  have hbegin : begin? "acme" = .ok ⟨"acme", []⟩ := begin?_eq_ok_iff.mpr ⟨by decide, rfl⟩
  obtain ⟨hrefused, huntouched⟩ := confined_to_tenant hbegin keyed_sharedLedger fresh_sharedLedger
    (trialWork.take 7) (trialWork.drop 7) rfl
  exact ⟨hbegin, by decide, hrefused _ rfl (by decide), huntouched⟩

end Scope

end Turnstile
