/-
Who holds the units on a counter.

A call of a tool takes units off a counter's room once, when they are reserved, and puts
them back only through the deliveries of its report.  `Ledger.Effect` says what one step
of such a call can do to the ledger, by how much it moves each counter and which event it
records; whatever is claimed about every step of every call is shown by cases on it.

The law that follows is one of conservation: the units on a counter, less what calls have
reserved, plus what has been given back, never change.
-/
import Turnstile.Proofs.Traffic.Delivery

namespace Turnstile

/-! ### What a step can do to the ledger -/

/-- What one step of a call of a tool does to the ledger, how far it moves each counter, and the
event that it tries to record. -/
inductive Ledger.Effect (P : String → Terms → Prop) (l : Ledger) :
    Ledger → (CounterKey → Int) → Option Event → Prop
  /-- Nothing, or periods are moved. -/
  | moved {l' : Ledger} (h : l.PeriodsMoved l') : Effect P l l' (fun _ => 0) none
  /-- A counter is opened. -/
  | ensured (tenant meter : String) (p : Period) :
      Effect P l (l.ensureCounter tenant meter p) (fun _ => 0) none
  /-- Units are reserved within the limit of the tenant's terms. -/
  | reserved {k : CounterKey} {row : Tally} {cost : Int} {terms : Terms}
      (hrow : l.tally? k = some row) (hcost : 0 < cost) (hterms : P k.tenant terms)
      (hle : row.used + cost ≤ terms.limits.monthlyUnits) :
      Effect P l (l.setUsed k (row.used + cost)) (fun k' => if k = k' then cost else 0) none
  /-- An event is recorded, or found to be there. -/
  | recorded (e : Event) : Effect P l (l.record e).2 (fun _ => 0) (some e)
  /-- Units are given back. -/
  | released (k : CounterKey) (q : Int) :
      Effect P l (l.release k q).2 (fun k' => if k = k' then -(l.release k q).1 else 0) none

namespace Ledger.Effect

variable {P : String → Terms → Prop} {l l' : Ledger} {gain : CounterKey → Int}
  {entry : Option Event}

theorem used (h : Effect P l l' gain entry) (k : CounterKey) : l'.used k = l.used k + gain k := by
  cases h with
  | moved h =>
    rw [h.used]
    exact (Int.add_zero _).symm
  | ensured =>
    rw [used_ensureCounter]
    exact (Int.add_zero _).symm
  | reserved hrow =>
    rw [used_setUsed hrow]
    dsimp only
    split
    · next hk =>
      subst hk
      rw [used_of_tally? hrow]
    · omega
  | recorded e =>
    unfold Ledger.used
    rw [tally?_record]
    exact (Int.add_zero _).symm
  | released k' q =>
    rw [used_release]
    dsimp only
    split <;> omega

theorem terms (h : Effect P l l' gain entry) (tenant : String) :
    l'.terms? tenant = l.terms? tenant := by
  cases h with
  | moved h => exact h.terms tenant
  | ensured => rfl
  | reserved => simp [terms?]
  | recorded => simp [terms?]
  | released => simp [terms?]

/-- Terms that are stored after a step were stored before it. -/
theorem known (h : Effect P l l' gain entry)
    (hP : ∀ tenant e, l.entitlement? tenant = some e → P tenant e.terms) :
    ∀ tenant e, l'.entitlement? tenant = some e → P tenant e.terms := by
  intro tenant e he
  have hterms := h.terms tenant
  rw [terms?_of_entitlement? he] at hterms
  obtain ⟨e', he', heq⟩ := Option.map_eq_some_iff.mp hterms.symm
  rw [← heq]
  exact hP tenant e' he'

/-- A step that records nothing leaves the log alone. -/
theorem log (h : Effect P l l' gain none) (r : ReplayId) : l.SameLog r l' := by
  cases h with
  | moved h => exact .of_eq h.events h.replays
  | ensured | reserved | released => exact .of_eq (by simp) (by simp)

end Ledger.Effect

/-! ### Admissions -/

/-- The counter that a reservation is on. -/
def Reservation.counter (r : Reservation) : CounterKey := ⟨r.tenant, r.meter, r.period.start⟩

namespace Admission

/-- Units that the call has reserved on a counter. -/
def reserved (svc : Service) (k : CounterKey) : Admission → Int
  | committing scope cost e _ _ =>
    if (⟨scope.tenant, svc.meter, e.period.start⟩ : CounterKey) = k then cost else 0
  | finished (.ok r) => if r.counter = k then r.quantity else 0
  | _ => 0

variable {P : String → Terms → Prop}

/-- A step of an admission has one of the effects above, and the call answers for the units. -/
theorem effect_step (svc : Service) {a : Admission} (h : a.Sound P) (w : World) :
    ∃ gain, w.ledger.Effect P (a.step svc none w).2.ledger gain none ∧
      ∀ k, (a.step svc none w).1.reserved svc k = a.reserved svc k + gain k := by
  cases a with
  | arriving tenant tool =>
    refine ⟨_, .moved ?_, ?_⟩
    · simp only [step, arrive]
      split <;> exact .refl _
    · intro k
      simp only [step, arrive]
      split <;> rfl
  | reading scope cost now =>
    refine ⟨_, .moved ?_, ?_⟩
    · simp only [step, read]
      split
      · exact .refl _
      · split
        · split <;> exact .refl _
        · exact .refl _
    · intro k
      simp only [step, read]
      split
      · rfl
      · split
        · split <;> rfl
        · rfl
  | rolling scope cost now e next =>
    refine ⟨_, .moved ?_, fun k => rfl⟩
    show w.ledger.PeriodsMoved (scope.updatePeriod w.ledger scope.tenant next).2
    rw [Scope.updatePeriod_ledger]
    exact .setPeriod _ _ _
  | screening scope cost now e rolled =>
    refine ⟨_, .moved ?_, ?_⟩
    · simp only [step, screen]
      split
      · exact .refl _
      · split <;> exact .refl _
    · intro k
      simp only [step, screen]
      split
      · rfl
      · split <;> rfl
  | ensuring scope cost e rolled =>
    exact ⟨_, .ensured scope.tenant svc.meter e.period, fun k => rfl⟩
  | reserving scope cost e rolled =>
    obtain ⟨hopened, hterms⟩ := h
    simp only [step, reserve, Scope.reserve]
    generalize hr : w.ledger.reserve _ cost e.limits.monthlyUnits = outcome
    obtain ⟨_ | _, l'⟩ := outcome
    · next usedAfter =>
      obtain ⟨row, hrow, hfits, hused, rfl⟩ := Ledger.reserve_eq_reserved hr
      subst hused
      refine ⟨_, .reserved hrow hopened.cost_pos hterms hfits.1, ?_⟩
      intro k
      exact (Int.zero_add _).symm
    · rw [Ledger.reserve_eq_rejected hr]
      exact ⟨_, .moved (.refl _), fun k => rfl⟩
  | committing scope cost e rolled usedAfter =>
    refine ⟨_, .moved (.refl _), fun k => ?_⟩
    exact (Int.add_zero _).symm
  | closing scope answer =>
    refine ⟨_, .moved (h.1.periodsMoved_drop w.ledger), fun k => ?_⟩
    show reserved svc k (finished answer) = 0
    unfold reserved
    split
    · next heq => cases heq
    · next heq =>
      injection heq with heq
      exact absurd heq (h.2 _)
    · rfl
  | finished answer => exact ⟨_, .moved (.refl _), fun k => (Int.add_zero _).symm⟩

end Admission

/-! ### Deliveries -/

namespace Delivery

/-- Units that have been given back to a counter. -/
def returnedOn (k : CounterKey) (d : Delivery) : Int :=
  if d.report.counter = k then d.returned else 0

variable {P : String → Terms → Prop}

/-- To advance a delivery has one of the effects above, and the delivery answers for the units. -/
theorem Advance.effect {d d' : Delivery} {l l' : Ledger} (h : d.Advance l d' l') :
    ∃ gain entry, l.Effect P l' gain entry ∧ ∀ k, d'.returnedOn k = d.returnedOn k - gain k := by
  have hkept (hreport : d'.report = d.report) (hreturned : d'.returned = d.returned) :
      ∀ k, d'.returnedOn k = d.returnedOn k - 0 := by
    intro k
    unfold returnedOn
    rw [hreport, hreturned, Int.sub_zero]
  cases h with
  | still hreport hreturned => exact ⟨_, _, .moved (.refl l), hkept hreport hreturned⟩
  | refused hreport hreturned => exact ⟨_, _, .moved (.refl l), hkept hreport hreturned⟩
  | recorded hreport hreturned => exact ⟨_, _, .recorded _, hkept hreport hreturned⟩
  | released hreport hreturned =>
    refine ⟨_, _, .released d.report.counter d.report.reservation.quantity, fun k => ?_⟩
    unfold returnedOn
    rw [hreport, hreturned]
    split <;> omega

end Delivery

/-! ### Calls of tools -/

namespace ToolCall

variable {P : String → Terms → Prop} {svc : Service}

/-- Units that the call has reserved on a counter. -/
def reserved (svc : Service) (k : CounterKey) (c : ToolCall) : Int := c.admission.reserved svc k

/-- Units that have been given back to a counter for the call. -/
def returned (k : CounterKey) (c : ToolCall) : Int := (c.deliveries.map (·.returnedOn k)).sum

/-- Units on a counter that are there because of the call. -/
def net (svc : Service) (k : CounterKey) (c : ToolCall) : Int := c.reserved svc k - c.returned k

/-- A call starts with nothing reserved and nothing given back. -/
theorem net_new (tenant tool : String) (k : CounterKey) :
    (ToolCall.new tenant tool).net svc k = 0 := rfl

theorem effect_advance (svc : Service) {c : ToolCall} (h : c.Sound P) (w : World) :
    ∃ gain, w.ledger.Effect P (c.advance svc w).2.ledger gain none ∧
      ∀ k, (c.advance svc w).1.net svc k = c.net svc k + gain k := by
  obtain ⟨gain, heffect, hgain⟩ := Admission.effect_step svc h.admission w
  refine ⟨gain, heffect, fun k => ?_⟩
  have hk := hgain k
  show Admission.reserved svc k (c.admission.step svc none w).1 - c.returned k =
    Admission.reserved svc k c.admission - c.returned k + gain k
  omega

/-- An admission leaves the log alone. -/
theorem log_advance {c : ToolCall} (h : c.Sound P) (w : World) (r : ReplayId) :
    w.ledger.SameLog r (c.advance svc w).2.ledger := by
  obtain ⟨gain, heffect, -⟩ := effect_advance svc h w
  exact heffect.log r

theorem effect_settle {c : ToolCall} (h : c.Sound P) (nth : Nat) (w : World) :
    ∃ gain entry, w.ledger.Effect P (c.settle nth w).2.ledger gain entry ∧
      ∀ k, (c.settle nth w).1.net svc k = c.net svc k + gain k := by
  cases hd : c.deliveries[nth]? with
  | none =>
    refine ⟨_, _, .moved ?_, fun k => ?_⟩
    · simp only [settle, stepAt_of_none hd]
      exact .refl _
    · simp only [settle, stepAt_of_none hd]
      exact (Int.add_zero _).symm
  | some d =>
    have hsound := h.deliveries d (List.mem_of_getElem? hd)
    obtain ⟨gain, entry, heffect, hgain⟩ := (Delivery.advance_step hsound w).effect (P := P)
    refine ⟨gain, entry, ?_, fun k => ?_⟩
    · simp only [settle, stepAt_of_getElem? hd]
      exact heffect
    · simp only [settle, net, reserved, returned, stepAt_of_getElem? hd, sum_map_set _ hd]
      have := hgain k
      omega

/-- Sending a report does nothing to the ledger and gives nothing back yet. -/
theorem effect_deliver (c : ToolCall) (tool : String) (replay : ReplayId) (audit : Option String)
    (status : Execution) (w : World) :
    ∃ gain, w.ledger.Effect P (c.deliver tool replay audit status w).2.ledger gain none ∧
      ∀ k, (c.deliver tool replay audit status w).1.net svc k = c.net svc k + gain k := by
  refine ⟨_, .moved ?_, fun k => ?_⟩
  · unfold deliver
    split <;> exact .refl _
  · unfold deliver
    split
    · simp [net, reserved, returned, Delivery.returnedOn, Delivery.new]
    · exact (Int.add_zero _).symm

end ToolCall

/-! ### Traffic -/

namespace Traffic

variable {P : String → Terms → Prop} {svc : Service} {sw : Sweeper}

/-- Units on a counter that calls have reserved. -/
def reserved (svc : Service) (t : Traffic) (k : CounterKey) : Int :=
  (t.calls.map (·.reserved svc k)).sum

/-- Units that have been given back to a counter. -/
def returned (t : Traffic) (k : CounterKey) : Int := (t.calls.map (·.returned k)).sum

/-- Units on a counter that are there because of the calls. -/
def net (svc : Service) (t : Traffic) (k : CounterKey) : Int := (t.calls.map (·.net svc k)).sum

theorem net_eq (svc : Service) (t : Traffic) (k : CounterKey) :
    t.net svc k = t.reserved svc k - t.returned k := by
  unfold net reserved returned
  induction t.calls with
  | nil => rfl
  | cons c rest ih =>
      have hc : c.net svc k = c.reserved svc k - c.returned k := rfl
      simp only [List.map_cons, List.sum_cons]
      omega

/-- What is known of the traffic, if all terms that are stored have the property `P`. -/
structure Sound (P : String → Terms → Prop) (t : Traffic) : Prop where
  known : ∀ tenant e, t.world.ledger.entitlement? tenant = some e → P tenant e.terms
  calls : ∀ c ∈ t.calls, c.Sound P

theorem sound_quiet {w : World}
    (h : ∀ tenant e, w.ledger.entitlement? tenant = some e → P tenant e.terms) :
    (quiet w).Sound P :=
  ⟨h, by simp [quiet]⟩

/-- A step that one call of a tool makes is a step of the whole traffic. -/
theorem effect_stepAt {f : ToolCall → World → ToolCall × World} {t : Traffic} (h : t.Sound P)
    (hsound : ∀ c, c.Sound P → (f c t.world).1.Sound P)
    (heffect : ∀ c, c.Sound P → ∃ gain entry,
      t.world.ledger.Effect P (f c t.world).2.ledger gain entry ∧
        ∀ k, (f c t.world).1.net svc k = c.net svc k + gain k) (i : Nat) :
    (t.withCalls (stepAt f i t.calls t.world)).Sound P ∧
      ∃ gain entry, t.world.ledger.Effect P
          (t.withCalls (stepAt f i t.calls t.world)).world.ledger gain entry ∧
        ∀ k, (t.withCalls (stepAt f i t.calls t.world)).net svc k = t.net svc k + gain k := by
  cases hc : t.calls[i]? with
  | none =>
    rw [stepAt_of_none hc]
    exact ⟨⟨h.known, h.calls⟩, _, _, .moved (.refl _), fun k => (Int.add_zero _).symm⟩
  | some c =>
    have hcalls := forall_mem_stepAt (f := f) (i := i) (w := t.world) h.calls
      (fun c hc => hsound c (h.calls c hc))
    obtain ⟨gain, entry, heffect, hgain⟩ := heffect c (h.calls c (List.mem_of_getElem? hc))
    rw [stepAt_of_getElem? hc] at hcalls ⊢
    refine ⟨⟨heffect.known h.known, hcalls⟩, gain, entry, heffect, fun k => ?_⟩
    simp only [net, withCalls, sum_map_set _ hc, hgain k]
    omega

/-- A move of the clock or of a call of a tool keeps what is known, has one of the effects above
on the ledger, and the calls answer for the units. -/
theorem effect_step (svc : Service) (sw : Sweeper) {t : Traffic} (h : t.Sound P) {m : Move}
    (hm : m.OfTools) :
    (t.step svc sw m).Sound P ∧
      ∃ gain entry, t.world.ledger.Effect P (t.step svc sw m).world.ledger gain entry ∧
        ∀ k, (t.step svc sw m).net svc k = t.net svc k + gain k := by
  cases m with
  | clock now =>
    exact ⟨⟨h.known, h.calls⟩, _, _, .moved (.refl _), fun k => (Int.add_zero _).symm⟩
  | call tenant tool =>
    refine ⟨⟨h.known, ?_⟩, _, _, .moved (.refl _), ?_⟩
    · intro c hc
      rcases List.mem_append.mp hc with hc | hc
      · exact h.calls c hc
      · rw [List.mem_singleton.mp hc]
        exact ToolCall.sound_new tenant tool
    · intro k
      show ((t.calls ++ [ToolCall.new tenant tool]).map (·.net svc k)).sum = t.net svc k + 0
      rw [List.map_append, List.sum_append, List.map_singleton, List.sum_singleton,
        ToolCall.net_new, net]
  | admitting i =>
    refine effect_stepAt h (fun c hc => ToolCall.sound_advance hc h.known) ?_ i
    intro c hc
    obtain ⟨gain, heffect⟩ := ToolCall.effect_advance svc hc t.world
    exact ⟨gain, none, heffect⟩
  | deliver i tool replay audit status =>
    refine effect_stepAt h
      (fun c hc => ToolCall.sound_deliver hc tool replay audit status t.world) ?_ i
    intro c hc
    obtain ⟨gain, heffect⟩ := ToolCall.effect_deliver c tool replay audit status t.world
    exact ⟨gain, none, heffect⟩
  | settling i nth =>
    exact effect_stepAt h (fun c hc => ToolCall.sound_settle hc nth t.world)
      (fun c hc => ToolCall.effect_settle hc nth t.world) i
  | upsert | sync | syncing | sweep | sweeping => exact hm.elim

/-- What is known of the traffic holds all along. -/
theorem sound_run {t : Traffic} (h : t.Sound P) {moves : List Move}
    (hmoves : ∀ m ∈ moves, m.OfTools) : (t.run svc sw moves).Sound P :=
  run_induction h (fun m hm _ ht => (effect_step svc sw ht (hmoves m hm)).1)

/-- **The units on a counter are those that were there, plus what the calls have reserved, less
what has been given back.** -/
theorem used_run {t : Traffic} (h : t.Sound P) {moves : List Move}
    (hmoves : ∀ m ∈ moves, m.OfTools) (k : CounterKey) :
    (t.run svc sw moves).world.ledger.used k - (t.run svc sw moves).net svc k =
      t.world.ledger.used k - t.net svc k := by
  have hrun : (t.run svc sw moves).Sound P ∧
      (t.run svc sw moves).world.ledger.used k - (t.run svc sw moves).net svc k =
        t.world.ledger.used k - t.net svc k := by
    refine run_induction (P := fun t' => t'.Sound P ∧
      t'.world.ledger.used k - t'.net svc k = t.world.ledger.used k - t.net svc k) ⟨h, rfl⟩ ?_
    intro m hm t' ht'
    obtain ⟨hsound, gain, entry, heffect, hgain⟩ := effect_step svc sw ht'.1 (hmoves m hm)
    refine ⟨hsound, ?_⟩
    rw [heffect.used, hgain, ← ht'.2]
    omega
  exact hrun.2

end Traffic

end Turnstile
