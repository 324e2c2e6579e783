/-
Terms, and the scopes that only move periods.

What an entitlement grants, apart from the period it is in, are its terms.  Only billing
changes them; the calls of the service move periods forward, and a denied call takes its
move back.  A scope all of whose notes are such moves (`Scope.OnlyPeriods`) can be dropped
at any time: nothing but periods changes, whatever other scopes have done meanwhile.
That is `Ledger.PeriodsMoved`, and it is all that is used of a denied call.
-/
import Turnstile.Proofs.Ledger.Rows

namespace Turnstile

/-- What an entitlement grants, apart from the period it is in. -/
structure Terms where
  tenant : String
  plan : String
  status : Status
  limits : Limits
  graceUntil : Option Instant
  updatedAt : Instant
deriving DecidableEq, Repr

/-- The terms of an entitlement. -/
def Entitlement.terms (e : Entitlement) : Terms :=
  ⟨e.tenant, e.plan, e.status, e.limits, e.graceUntil, e.updatedAt⟩

namespace Ledger

/-- The terms stored for a tenant. -/
def terms? (l : Ledger) (tenant : String) : Option Terms :=
  (l.entitlement? tenant).map (·.terms)

theorem terms?_of_entitlement? {l : Ledger} {tenant : String} {e : Entitlement}
    (h : l.entitlement? tenant = some e) : l.terms? tenant = some e.terms := by
  simp [terms?, h]

@[simp] theorem terms?_setPeriod (l : Ledger) (tenant other : String) (p : Period) :
    (l.setPeriod tenant p).terms? other = l.terms? other := by
  unfold terms?
  rw [entitlement?_setPeriod]
  split
  · next h =>
    subst h
    cases l.entitlement? tenant <;> rfl
  · rfl

@[simp] theorem terms?_ensureCounter (l : Ledger) (tenant meter : String) (p : Period)
    (other : String) : (l.ensureCounter tenant meter p).terms? other = l.terms? other := rfl

@[simp] theorem terms?_setUsed (l : Ledger) (k : CounterKey) (n : Int) (tenant : String) :
    (l.setUsed k n).terms? tenant = l.terms? tenant := by
  simp [terms?]

/-! ### Entitlements under their own names -/

/-- Every entitlement is stored under the tenant that it carries. -/
def Keyed (l : Ledger) : Prop :=
  ∀ tenant e, l.entitlement? tenant = some e → e.tenant = tenant

instance (l : Ledger) : Decidable l.Keyed := decidable_of_iff _ forall_entitlement_iff.symm

theorem keyed_empty : empty.Keyed := by
  intro tenant e he
  simp [empty, entitlement?] at he

/-- The second ledger holds the same terms as the first. -/
def SameTerms (l l' : Ledger) : Prop := ∀ tenant, l'.terms? tenant = l.terms? tenant

theorem Keyed.of_sameTerms {l l' : Ledger} (h : l.Keyed) (hterms : l.SameTerms l') :
    l'.Keyed := by
  intro tenant e he
  have hsame := hterms tenant
  rw [terms?_of_entitlement? he] at hsame
  obtain ⟨e₀, he₀, heq⟩ := Option.map_eq_some_iff.mp hsame.symm
  have htenant : e.tenant = e₀.tenant := congrArg Terms.tenant heq.symm
  rw [htenant]
  exact h tenant e₀ he₀

/-- With the same terms, the same limits. -/
theorem SameTerms.limits {l l' : Ledger} (h : l.SameTerms l') {tenant : String} {e : Entitlement}
    (he : l'.entitlement? tenant = some e) :
    ∃ e₀, l.entitlement? tenant = some e₀ ∧ e₀.limits = e.limits := by
  have hsame := h tenant
  rw [terms?_of_entitlement? he] at hsame
  obtain ⟨e₀, he₀, heq⟩ := Option.map_eq_some_iff.mp hsame.symm
  exact ⟨e₀, he₀, congrArg Terms.limits heq⟩

theorem Keyed.putEntitlement {l : Ledger} (h : l.Keyed) (e : Entitlement) :
    (l.putEntitlement e).Keyed := by
  intro tenant e' he'
  rw [entitlement?_putEntitlement] at he'
  split at he'
  · next heq =>
    rw [← Option.some.inj he']
    exact heq
  · exact h tenant e' he'

theorem terms?_putEntitlement_of_ne {l : Ledger} {e : Entitlement} {tenant : String}
    (h : e.tenant ≠ tenant) : (l.putEntitlement e).terms? tenant = l.terms? tenant := by
  unfold terms?
  rw [entitlement?_putEntitlement, if_neg h]

/-! ### A period moved there and back -/

/-- Setting a period that is there already changes nothing. -/
theorem setPeriod_same {l : Ledger} {tenant : String} {e : Entitlement}
    (h : l.entitlement? tenant = some e) : l.setPeriod tenant e.period = l := by
  unfold setPeriod
  simp only [h]
  have hsame : l.entitlements.insert tenant e = l.entitlements := by
    refine Std.ExtTreeMap.ext_getElem? ?_
    intro other
    rw [Std.ExtTreeMap.getElem?_insert]
    split
    · next heq =>
      rw [← Std.LawfulEqCmp.compare_eq_iff_eq.mp heq]
      exact h.symm
    · rfl
  rw [hsame]

/-- Only the last of two periods that are set counts. -/
theorem setPeriod_setPeriod (l : Ledger) (tenant : String) (p q : Period) :
    (l.setPeriod tenant p).setPeriod tenant q = l.setPeriod tenant q := by
  cases h : l.entitlement? tenant with
  | none =>
    have hsame : l.setPeriod tenant p = l := by simp [setPeriod, h]
    rw [hsame]
  | some e =>
    have hp : (l.setPeriod tenant p).entitlement? tenant = some { e with period := p } := by
      simp [h]
    unfold setPeriod at hp ⊢
    simp only [h] at hp ⊢
    simp only [hp]
    congr 1
    refine Std.ExtTreeMap.ext_getElem? ?_
    intro other
    simp only [Std.ExtTreeMap.getElem?_insert]
    split <;> rfl

/-- A period can be set before or after a counter is opened. -/
theorem ensureCounter_setPeriod (l : Ledger) (tenant meter other : String) (p q : Period) :
    (l.setPeriod other q).ensureCounter tenant meter p =
      (l.ensureCounter tenant meter p).setPeriod other q := by
  have hsame : (l.ensureCounter tenant meter p).entitlement? other = l.entitlement? other := rfl
  unfold setPeriod
  rw [hsame]
  cases l.entitlement? other <;> rfl

/-- With nothing in between, a move of a period is taken back without a trace. -/
theorem drop_moved {l : Ledger} {tenant : String} {e : Entitlement}
    (h : l.entitlement? tenant = some e) (p : Period) :
    Scope.drop ⟨tenant, [.period tenant e.period p]⟩ (l.setPeriod tenant p) = l := by
  have hmoved : (l.setPeriod tenant p).entitlement? tenant = some { e with period := p } := by
    simp [h]
  show (Undo.period tenant e.period p).apply (l.setPeriod tenant p) = l
  unfold Undo.apply
  simp only [hmoved, if_true]
  rw [setPeriod_setPeriod, setPeriod_same h]

/-! ### Moving periods -/

/-- The second ledger differs from the first at most in the periods of entitlements. -/
structure PeriodsMoved (l l' : Ledger) : Prop where
  counters : l'.counters = l.counters
  events : l'.events = l.events
  replays : l'.replays = l.replays
  terms : ∀ tenant, l'.terms? tenant = l.terms? tenant

namespace PeriodsMoved

variable {l l' l'' : Ledger}

theorem refl (l : Ledger) : PeriodsMoved l l := ⟨rfl, rfl, rfl, fun _ => rfl⟩

theorem trans (h : PeriodsMoved l l') (h' : PeriodsMoved l' l'') : PeriodsMoved l l'' where
  counters := h'.counters.trans h.counters
  events := h'.events.trans h.events
  replays := h'.replays.trans h.replays
  terms tenant := (h'.terms tenant).trans (h.terms tenant)

theorem setPeriod (l : Ledger) (tenant : String) (p : Period) :
    PeriodsMoved l (l.setPeriod tenant p) :=
  ⟨by simp, by simp, by simp, by simp⟩

theorem tally? (h : PeriodsMoved l l') (k : CounterKey) : l'.tally? k = l.tally? k := by
  simp [Ledger.tally?, h.counters]

theorem used (h : PeriodsMoved l l') (k : CounterKey) : l'.used k = l.used k := by
  simp [Ledger.used, h.tally?]

end PeriodsMoved

end Ledger

/-! ### Scopes that have only moved periods -/

/-- Taking back a move of a period moves periods only. -/
theorem Undo.periodsMoved_apply (l : Ledger) (tenant : String) (previous applied : Period) :
    l.PeriodsMoved ((Undo.period tenant previous applied).apply l) := by
  unfold Undo.apply
  dsimp only
  split
  · split
    · exact .setPeriod l tenant previous
    · exact .refl l
  · exact .refl l

namespace Scope

/-- Every note of the scope is a move of a period. -/
def OnlyPeriods (s : Scope) : Prop :=
  ∀ u ∈ s.undo, ∃ tenant previous applied, u = .period tenant previous applied

theorem onlyPeriods_fresh (tenant : String) : OnlyPeriods ⟨tenant, []⟩ := by
  intro u hu
  simp at hu

theorem OnlyPeriods.updatePeriod {s : Scope} (h : s.OnlyPeriods) (l : Ledger) (tenant : String)
    (p : Period) : (s.updatePeriod l tenant p).1.OnlyPeriods := by
  unfold Scope.updatePeriod
  split
  · intro u hu
    rcases List.mem_cons.mp hu with rfl | hu
    · exact ⟨_, _, _, rfl⟩
    · exact h u hu
  · exact h

/-- Dropping such a scope moves periods only. -/
theorem OnlyPeriods.periodsMoved_drop {s : Scope} (h : s.OnlyPeriods) (l : Ledger) :
    l.PeriodsMoved (s.drop l) := by
  obtain ⟨tenant, undo⟩ := s
  unfold OnlyPeriods at h
  induction undo generalizing l with
  | nil => exact .refl l
  | cons u rest ih =>
      obtain ⟨tenant', previous, applied, rfl⟩ := h u (by simp)
      have hfirst := Undo.periodsMoved_apply l tenant' previous applied
      exact hfirst.trans (ih _ (fun v hv => h v (by simp [hv])))

@[simp] theorem updatePeriod_tenant (s : Scope) (l : Ledger) (tenant : String) (p : Period) :
    (s.updatePeriod l tenant p).1.tenant = s.tenant := by
  unfold Scope.updatePeriod
  split <;> rfl

@[simp] theorem release_tenant (s : Scope) (l : Ledger) (k : CounterKey) (q : Int) :
    (s.release l k q).1.tenant = s.tenant := by
  unfold Scope.release
  dsimp only
  split <;> rfl

/-- Setting a period through a scope does to the ledger what setting it does. -/
theorem updatePeriod_ledger (s : Scope) (l : Ledger) (tenant : String) (p : Period) :
    (s.updatePeriod l tenant p).2 = l.setPeriod tenant p := by
  unfold Scope.updatePeriod Ledger.setPeriod
  cases l.entitlement? tenant <;> rfl

end Scope

end Turnstile
