/-
What a rollback makes of one entitlement.

A scope that is dropped takes its writes back one by one, and what this makes of a tenant's
entitlement can be read off its notes (`Scope.restored`).  A note about a period leaves an
entitlement with any other period alone (`Scope.restored_of_spares`); a note about a whole
entitlement puts another in its place, whatever is there (`Scope.restored_of_replaces`).
-/
import Turnstile.Proofs.Scope.Write

namespace Turnstile

/-! ### What is put back -/

/-- What taking a write back makes of a tenant's entitlement. -/
def Undo.restored (u : Undo) (tenant : String) (row : Option Entitlement) : Option Entitlement :=
  match u with
  | .entitlement _ (some e) => if e.tenant = tenant then some e else row
  | .entitlement other none => if other = tenant then none else row
  | .period other previous applied =>
    if other = tenant then
      row.map fun e => if e.period = applied then { e with period := previous } else e
    else row
  | _ => row

/-- What dropping a scope makes of a tenant's entitlement. -/
def Scope.restored (s : Scope) (tenant : String) (row : Option Entitlement) : Option Entitlement :=
  s.undo.foldl (fun row u => u.restored tenant row) row

variable {l : Ledger} {tenant : String}

theorem Ledger.entitlement?_eraseEntitlement (l : Ledger) (other tenant : String) :
    (l.eraseEntitlement other).entitlement? tenant =
      if other = tenant then none else l.entitlement? tenant := by
  simp [eraseEntitlement, entitlement?, Std.ExtTreeMap.getElem?_erase]

theorem Undo.entitlement?_apply (u : Undo) (l : Ledger) (tenant : String) :
    (u.apply l).entitlement? tenant = u.restored tenant (l.entitlement? tenant) := by
  cases u with
  | entitlement other previous =>
    cases previous with
    | none => exact l.entitlement?_eraseEntitlement other tenant
    | some e => exact l.entitlement?_putEntitlement e tenant
  | period other previous applied =>
    unfold apply restored
    dsimp only
    by_cases hother : other = tenant
    · subst hother
      rw [if_pos rfl]
      cases hrow : l.entitlement? other with
      | none => simp [hrow]
      | some e =>
        dsimp only
        by_cases hperiod : e.period = applied
        · simp [hperiod, hrow]
        · simp [hperiod, hrow]
    · rw [if_neg hother]
      split
      · split
        · rw [Ledger.entitlement?_setPeriod, if_neg hother]
        · rfl
      · rfl
  | reserved key cost => exact l.entitlement?_release key cost tenant
  | released key amount =>
    unfold apply
    dsimp only
    split
    · exact l.entitlement?_setUsed key _ tenant
    · rfl
  | event id replay => rfl

theorem Scope.entitlement?_drop (s : Scope) (l : Ledger) (tenant : String) :
    (s.drop l).entitlement? tenant = s.restored tenant (l.entitlement? tenant) := by
  obtain ⟨owner, undo⟩ := s
  induction undo generalizing l with
  | nil => rfl
  | cons u rest ih =>
    have hrest := ih (u.apply l)
    rw [Undo.entitlement?_apply] at hrest
    exact hrest

/-! ### Calls that leave the entitlement alone -/

/-- The call writes the tenant's entitlement. -/
def Scope.Call.Sets (tenant : String) (l : Ledger) : Scope.Call → Prop
  | .upsertEntitlement e => e.tenant = tenant
  | .updatePeriod other _ => other = tenant ∧ (l.entitlement? tenant).isSome
  | _ => False

theorem Scope.perform_upsertEntitlement {s : Scope} {e : Entitlement} (h : e.tenant = s.tenant)
    (l : Ledger) : perform (.upsertEntitlement e) s l = (.ok .done, s.upsertEntitlement l e) :=
  if_neg (not_not_intro h)

theorem Scope.ledger_perform_record {s : Scope} {e : Event} (h : e.tenant = s.tenant)
    (l : Ledger) : (perform (.record e) s l).2.2 = (l.record e).2 := by
  have hown : ¬(Call.record e).tenant ≠ s.tenant := not_not_intro h
  unfold perform
  rw [if_neg hown]
  dsimp only [record]
  split <;> simp_all

/-- A call that does not write the scope's entitlement leaves it alone, and dropping the scope will
make the same of it. -/
theorem Scope.Write.spares {s s' : Scope} {c : Scope.Call} {l' : Ledger} (h : s.Write l c s' l')
    (hsets : ¬c.Sets s.tenant l) : l'.entitlement? s.tenant = l.entitlement? s.tenant ∧
      ∀ row, s'.restored s.tenant row = s.restored s.tenant row := by
  cases h with
  | nothing => exact ⟨rfl, fun _ => rfl⟩
  | opened => exact ⟨rfl, fun _ => rfl⟩
  | upserted htenant => exact absurd htenant hsets
  | moved hstored p => exact absurd ⟨rfl, by simp [hstored]⟩ hsets
  | reserved => exact ⟨by simp, fun _ => rfl⟩
  | released => exact ⟨by simp, fun _ => rfl⟩
  | recorded => exact ⟨by simp, fun _ => rfl⟩

/-- The call neither replaces the tenant's entitlement nor sets its period to this one. -/
def Scope.Call.Spares (tenant : String) (p : Period) : Scope.Call → Prop
  | .upsertEntitlement e => e.tenant ≠ tenant
  | .updatePeriod other q => other = tenant → q ≠ p
  | _ => True

/-- Taking the write back leaves an entitlement with this period alone. -/
def Undo.Spares (p : Period) : Undo → Prop
  | .entitlement _ _ => False
  | .period _ _ applied => applied ≠ p
  | _ => True

/-- Calls that spare a period leave notes that spare it. -/
theorem Scope.Write.notes_spare {s s' : Scope} {c : Scope.Call} {l' : Ledger} {p : Period}
    (h : s.Write l c s' l') (hcall : c.Spares s.tenant p) (hnotes : ∀ u ∈ s.undo, u.Spares p) :
    ∀ u ∈ s'.undo, u.Spares p := by
  have hnoted : ∀ u : Undo, u.Spares p → ∀ v ∈ (s.note u).undo, v.Spares p := by
    intro u hu v hv
    rcases List.mem_cons.mp hv with rfl | hold
    · exact hu
    · exact hnotes v hold
  cases h with
  | nothing => exact hnotes
  | opened => exact hnotes
  | upserted htenant => exact absurd htenant hcall
  | moved hstored q => exact hnoted _ (hcall rfl)
  | reserved => exact hnoted _ trivial
  | released => exact hnoted _ trivial
  | recorded => exact hnoted _ trivial

theorem Scope.restored_of_spares {s : Scope} {e : Entitlement}
    (hnotes : ∀ u ∈ s.undo, u.Spares e.period) : s.restored tenant (some e) = some e := by
  obtain ⟨owner, undo⟩ := s
  induction undo with
  | nil => rfl
  | cons u rest ih =>
    have hfirst : u.restored tenant (some e) = some e := by
      have hu : u.Spares e.period := hnotes u (by simp)
      cases u with
      | entitlement => exact absurd hu id
      | period other previous applied =>
        have hperiod : e.period ≠ applied := Ne.symm hu
        simp [Undo.restored, hperiod]
      | reserved => rfl
      | released => rfl
      | event => rfl
    show restored ⟨owner, rest⟩ tenant (u.restored tenant (some e)) = some e
    rw [hfirst]
    exact ih fun v hv => hnotes v (by simp [hv])

/-- A note that a whole entitlement of the tenant was written. -/
def Undo.Replaces (tenant : String) : Undo → Prop
  | .entitlement other previous => other = tenant ∧ ∀ e ∈ previous, e.tenant = tenant
  | _ => False

/-- With such a note, it does not matter what is written when the scope is dropped. -/
theorem Scope.restored_of_replaces {s : Scope} {u : Undo} (hu : u ∈ s.undo)
    (hreplaces : u.Replaces tenant) (row row' : Option Entitlement) :
    s.restored tenant row = s.restored tenant row' := by
  obtain ⟨owner, undo⟩ := s
  induction undo generalizing row row' with
  | nil => cases hu
  | cons v rest ih =>
    show restored ⟨owner, rest⟩ tenant (v.restored tenant row) =
      restored ⟨owner, rest⟩ tenant (v.restored tenant row')
    rcases List.mem_cons.mp hu with rfl | hrest
    · have hsame : u.restored tenant row = u.restored tenant row' := by
        cases u with
        | entitlement other previous =>
          obtain ⟨rfl, hprevious⟩ := hreplaces
          cases previous with
          | none => simp [Undo.restored]
          | some e => simp [Undo.restored, hprevious e rfl]
        | _ => exact absurd hreplaces id
      rw [hsame]
    · exact ih _ _ hrest

/-- No call takes a note back. -/
theorem Scope.Write.notes_kept {s s' : Scope} {c : Scope.Call} {l' : Ledger}
    (h : s.Write l c s' l') {u : Undo} (hu : u ∈ s.undo) : u ∈ s'.undo := by
  cases h with
  | nothing => exact hu
  | opened => exact hu
  | upserted => exact List.mem_cons_of_mem _ hu
  | moved => exact List.mem_cons_of_mem _ hu
  | reserved => exact List.mem_cons_of_mem _ hu
  | released => exact List.mem_cons_of_mem _ hu
  | recorded => exact List.mem_cons_of_mem _ hu

/-! ### Entitlements under their own names -/

theorem Undo.keyed_apply (h : l.Keyed) (u : Undo) : (u.apply l).Keyed := by
  intro tenant e he
  rw [entitlement?_apply] at he
  cases u with
  | entitlement other previous =>
    cases previous with
    | none =>
      simp only [restored] at he
      split at he
      · cases he
      · exact h tenant e he
    | some e' =>
      simp only [restored] at he
      split at he
      · next htenant => exact Option.some.inj he ▸ htenant
      · exact h tenant e he
  | period other previous applied =>
    simp only [restored] at he
    split at he
    · obtain ⟨e', he', rfl⟩ := Option.map_eq_some_iff.mp he
      split
      · exact h tenant e' he'
      · exact h tenant e' he'
    · exact h tenant e he
  | reserved => exact h tenant e he
  | released => exact h tenant e he
  | event => exact h tenant e he

theorem Scope.keyed_drop (h : l.Keyed) (s : Scope) : (s.drop l).Keyed := by
  obtain ⟨owner, undo⟩ := s
  induction undo generalizing l with
  | nil => exact h
  | cons u rest ih => exact ih (u.keyed_apply h)

theorem Ledger.keyed_perform (h : l.Keyed) (c : Call) : (perform c l).2.Keyed := by
  cases c with
  | upsertEntitlement e => exact h.putEntitlement e
  | updatePeriod other p => exact h.of_sameTerms fun tenant => l.terms?_setPeriod other tenant p
  | setUsed k n => exact h.of_sameTerms fun tenant => l.terms?_setUsed k n tenant
  | _ => exact h

end Turnstile
