/-
What is known of a call on its way.

An admission works with an entitlement that it has read and notes in its scope every write
it has made.  `Admission.Sound` says what each of its states knows about both: until units
are reserved the notes are moves of periods only, and the terms it works with are terms
that were stored for its tenant.  `Delivery.Sound` says the same of a delivery, whose scope
has nothing to take back unless an event has been recorded.

Both hold from the arrival on, because every step keeps them, whatever the ledger has
become in between.
-/
import Turnstile.Proofs.Traffic.Basic

namespace Turnstile

/-! ### Admissions -/

/-- A scope that an admission has opened, and the price it has found. -/
structure Admission.Opened (scope : Scope) (cost : Int) : Prop where
  notes : scope.OnlyPeriods
  named : Text.isBlankText scope.tenant = false
  cost_pos : 0 < cost

/-- What is known of a reservation that has been granted under terms with the property `P`. -/
structure Reservation.Granted (P : String → Terms → Prop) (r : Reservation) : Prop where
  named : Text.isBlankText r.tenant = false
  quantity_pos : 0 < r.quantity
  usedAfter_le : r.usedAfter ≤ r.monthlyUnits
  terms : ∃ terms, P r.tenant terms ∧ terms.limits.monthlyUnits = r.monthlyUnits

namespace Admission

variable {P : String → Terms → Prop} {svc : Service}

/-- What is known in each state, if all terms that are stored have the property `P`. -/
def Sound (P : String → Terms → Prop) : Admission → Prop
  | arriving _ _ => True
  | reading scope cost _ => Opened scope cost
  | rolling scope cost _ e _ => Opened scope cost ∧ P scope.tenant e.terms
  | screening scope cost _ e _ => Opened scope cost ∧ P scope.tenant e.terms
  | ensuring scope cost e _ => Opened scope cost ∧ P scope.tenant e.terms
  | reserving scope cost e _ => Opened scope cost ∧ P scope.tenant e.terms
  | committing scope cost e _ usedAfter =>
    Text.isBlankText scope.tenant = false ∧ 0 < cost ∧ P scope.tenant e.terms ∧
      usedAfter ≤ e.limits.monthlyUnits
  | closing scope answer => scope.OnlyPeriods ∧ ∀ r, answer ≠ .ok r
  | finished answer => ∀ r, answer = .ok r → r.Granted P

/-- The next step of an admission knows what it has to. -/
theorem sound_step {a : Admission} (h : a.Sound P) {w : World}
    (hP : ∀ tenant e, w.ledger.entitlement? tenant = some e → P tenant e.terms) :
    (a.step svc none w).1.Sound P := by
  cases a with
  | arriving tenant tool =>
    simp only [step, arrive]
    split
    · intro r hr
      simp at hr
    · next hnamed =>
      exact ⟨Scope.onlyPeriods_fresh tenant, by simpa using hnamed, svc.costs.costOf_pos tool⟩
  | reading scope cost now =>
    simp only [step, read, Scope.getEntitlement]
    split
    · exact ⟨h.notes, by simp⟩
    · next e he =>
      have hterms : P scope.tenant e.terms := hP scope.tenant e he
      split
      · split
        · exact ⟨h, hterms⟩
        · exact ⟨h.notes, by simp⟩
      · exact ⟨h, hterms⟩
  | rolling scope cost now e next =>
    obtain ⟨hopened, hterms⟩ := h
    simp only [step, roll]
    refine ⟨⟨hopened.notes.updatePeriod _ _ _, ?_, hopened.cost_pos⟩, ?_⟩
    · rw [Scope.updatePeriod_tenant]
      exact hopened.named
    · rw [Scope.updatePeriod_tenant]
      exact hterms
  | screening scope cost now e rolled =>
    simp only [step, screen]
    split
    · exact ⟨h.1.notes, by simp⟩
    · split
      · exact h
      · exact ⟨h.1.notes, by simp⟩
  | ensuring scope cost e rolled => exact h
  | reserving scope cost e rolled =>
    obtain ⟨hopened, hterms⟩ := h
    simp only [step, reserve, Scope.reserve]
    generalize hr : w.ledger.reserve _ cost e.limits.monthlyUnits = outcome
    obtain ⟨_ | _, l'⟩ := outcome
    · next usedAfter =>
      obtain ⟨t, -, hfits, rfl, -⟩ := Ledger.reserve_eq_reserved hr
      exact ⟨hopened.named, hopened.cost_pos, hterms, hfits.1⟩
    · exact ⟨hopened.notes, by simp⟩
  | committing scope cost e rolled usedAfter =>
    obtain ⟨hnamed, hcost, hterms, hle⟩ := h
    intro r hr
    have hr : reservation svc scope.tenant cost e usedAfter = r := by simpa using hr
    subst hr
    exact ⟨hnamed, hcost, hle, e.terms, hterms, rfl⟩
  | closing scope answer =>
    intro r hr
    exact absurd hr (h.2 r)
  | finished answer => exact h

end Admission

/-! ### Deliveries -/

namespace Delivery

/-- What is known in each state. -/
def Sound (d : Delivery) : Prop :=
  Text.isBlankText d.report.reservation.tenant = false ∧ 0 < d.report.reservation.quantity ∧
  match d.state with
  | .arriving report => report = d.report
  | .recording scope report => report = d.report ∧ scope.undo = []
  | .releasing _ report => report = d.report ∧ d.report.status = .failed
  | .committing _ report => report = d.report
  | .closing scope answer => scope.undo = [] ∧ answer = .ok .duplicate
  | .finished answer => answer = .ok .inserted ∨ answer = .ok .duplicate

theorem sound_new {report : Report} (hnamed : Text.isBlankText report.reservation.tenant = false)
    (hpos : 0 < report.reservation.quantity) : (Delivery.new report).Sound :=
  ⟨hnamed, hpos, rfl⟩

/-- The next step of a delivery knows what it has to. -/
theorem sound_step {d : Delivery} (h : d.Sound) (w : World) : (d.step w).1.Sound := by
  obtain ⟨report, state, returned⟩ := d
  obtain ⟨hnamed, hpos, h⟩ := h
  refine ⟨hnamed, hpos, ?_⟩
  dsimp only at h hnamed
  cases state with
  | arriving report' =>
    subst h
    simp [step, Settlement.step, Settlement.arrive, Scope.begin?, hnamed]
  | recording scope report' =>
    obtain ⟨rfl, hundo⟩ := h
    simp only [step, Settlement.step, Settlement.record, Scope.record]
    generalize w.ledger.record _ = outcome
    obtain ⟨_ | _, l'⟩ := outcome
    · cases report'.status with
      | success => rfl
      | failed => exact ⟨rfl, rfl⟩
    · exact ⟨hundo, rfl⟩
  | releasing scope report' =>
    obtain ⟨rfl, -⟩ := h
    rfl
  | committing scope report' => exact Or.inl rfl
  | closing scope answer => exact Or.inr h.2
  | finished answer => exact h

end Delivery

/-! ### Calls of tools -/

namespace ToolCall

variable {P : String → Terms → Prop} {svc : Service}

/-- What is known of a call of a tool. -/
structure Sound (P : String → Terms → Prop) (c : ToolCall) : Prop where
  admission : c.admission.Sound P
  deliveries : ∀ d ∈ c.deliveries, d.Sound
  /-- A report is about the reservation of its own call. -/
  reports : ∀ d ∈ c.deliveries, c.reservation? = some d.report.reservation

theorem reservation?_eq_some_iff {c : ToolCall} {r : Reservation} :
    c.reservation? = some r ↔ c.admission = .finished (.ok r) := by
  unfold reservation?
  split
  · next r' h => simp [h]
  · next h =>
    constructor
    · intro hr; simp at hr
    · intro hr; exact absurd hr (h r)

theorem sound_new (tenant tool : String) : (ToolCall.new tenant tool).Sound P :=
  ⟨trivial, by simp [ToolCall.new], by simp [ToolCall.new]⟩

/-- Once a call has been admitted, its admission makes no further step. -/
theorem advance_of_reservation? {c : ToolCall} {r : Reservation} (h : c.reservation? = some r)
    (w : World) : c.advance svc w = (c, w) := by
  rw [reservation?_eq_some_iff] at h
  obtain ⟨a, ds⟩ := c
  dsimp only at h
  subst h
  rfl

theorem sound_advance {c : ToolCall} (h : c.Sound P) {w : World}
    (hP : ∀ tenant e, w.ledger.entitlement? tenant = some e → P tenant e.terms) :
    (c.advance svc w).1.Sound P := by
  refine ⟨Admission.sound_step h.admission hP, h.deliveries, ?_⟩
  intro d hd
  have hr := h.reports d hd
  rw [advance_of_reservation? hr w]
  exact hr

theorem sound_deliver {c : ToolCall} (h : c.Sound P) (tool : String) (replay : ReplayId)
    (audit : Option String) (status : Execution) (w : World) :
    (c.deliver tool replay audit status w).1.Sound P := by
  unfold deliver
  split
  · next r hr =>
    have hgranted : r.Granted P := by
      have ha := h.admission
      rw [reservation?_eq_some_iff.mp hr] at ha
      exact ha r rfl
    refine ⟨h.admission, ?_, ?_⟩
    · intro d hd
      rcases List.mem_append.mp hd with hd | hd
      · exact h.deliveries d hd
      · rw [List.mem_singleton.mp hd]
        exact Delivery.sound_new hgranted.named hgranted.quantity_pos
    · intro d hd
      rcases List.mem_append.mp hd with hd | hd
      · exact h.reports d hd
      · rw [List.mem_singleton.mp hd]
        exact hr
  · exact h

theorem sound_settle {c : ToolCall} (h : c.Sound P) (nth : Nat) (w : World) :
    (c.settle nth w).1.Sound P := by
  refine ⟨h.admission, ?_, ?_⟩
  · exact forall_mem_stepAt h.deliveries (fun d hd => Delivery.sound_step (h.deliveries d hd) w)
  · exact forall_mem_stepAt h.reports (fun d hd => h.reports d hd)

end ToolCall

end Turnstile
