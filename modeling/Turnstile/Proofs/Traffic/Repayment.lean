/-
What a call gives back.

The units of a call follow its log.  What it has given back is what its one recording
delivery has given back (`ToolCall.RecordedBy.returned`), so a call never gives back more
than it was granted, and all of its units are there while a delivery owes them.  At rest,
the units of a call are outstanding, if it has not reported, or charged, if it succeeded.
-/
import Turnstile.Proofs.Traffic.Balance
import Turnstile.Proofs.Traffic.Logged

namespace Turnstile

/-! ### What is due -/

/-- A sum in which only one summand is not zero. -/
theorem sum_map_eq_of_unique {σ : Type} (f : σ → Int) {l : List σ} {n : Nat} {a : σ}
    (h : l[n]? = some a) (hother : ∀ m b, m ≠ n → l[m]? = some b → f b = 0) :
    (l.map f).sum = f a := by
  induction l generalizing n with
  | nil => simp at h
  | cons b rest ih =>
      rw [List.map_cons, List.sum_cons]
      cases n with
      | zero =>
        have hb : b = a := by simpa using h
        have hrest : (rest.map f).sum = 0 := by
          refine List.sum_eq_zero ?_
          intro x hx
          obtain ⟨c, hc, rfl⟩ := List.mem_map.mp hx
          obtain ⟨m, hm⟩ := List.getElem?_of_mem hc
          exact hother (m + 1) c (by omega) (by simpa using hm)
        rw [hb, hrest, Int.add_zero]
      | succ n =>
        have hb : f b = 0 := hother 0 b (by omega) (by simp)
        have hrest : (rest.map f).sum = f a := by
          refine ih (by simpa using h) ?_
          intro m c hm hc
          exact hother (m + 1) c (by omega) (by simpa using hc)
        rw [hb, hrest, Int.zero_add]

namespace Delivery

/-- What a delivery has to have given back. -/
def due (d : Delivery) : Int :=
  if d.stage = .settled ∧ d.report.status = .failed then d.report.reservation.quantity else 0

/-- Has the delivery been answered with `inserted`? -/
def inserted (d : Delivery) : Bool :=
  match d.state with
  | .finished (.ok .inserted) => true
  | _ => false

theorem inserted_iff {d : Delivery} : d.inserted = true ↔ d.state = .finished (.ok .inserted) := by
  unfold inserted
  split
  · next h => simp [h]
  · next h => simpa using h

theorem due_of_not_recorded {d : Delivery} (h : ¬ d.Recorded) : d.due = 0 :=
  if_neg fun hdue => h (Or.inr hdue.1)

end Delivery

/-! ### What a call has given back -/

/-- With the units there, a step gives back what is due. -/
theorem Delivery.Advance.returned_eq {d d' : Delivery} {l l' : Ledger} (h : d.Advance l d' l')
    (hpos : 0 < d.report.reservation.quantity) (hdue : d.returned = d.due)
    (hroom : d.stage = .owing → d.report.reservation.quantity ≤ l.used d.report.counter) :
    d'.returned = d'.due := by
  cases h with
  | still hreport hreturned hstage =>
    rw [hreturned, hdue]
    unfold due
    rw [hreport, hstage]
  | refused hreport hreturned hstage hstage' =>
    rw [hreturned, hdue]
    simp [due, hstage, hstage']
  | recorded hreport hreturned hstage hstage' =>
    rw [hreturned, hdue]
    unfold due
    rw [hreport, hstage, hstage']
    cases d.report.status <;> rfl
  | released hreport hreturned hstage hfailed hstage' =>
    have hbefore : d.due = 0 := by simp [due, hstage]
    have hafter : d'.due = d.report.reservation.quantity := by
      simp [due, hstage', hreport, hfailed]
    rw [hreturned, hdue, hbefore, hafter, Ledger.release_amount_of_le hpos (hroom hstage)]
    exact Int.zero_add _

namespace ToolCall

variable {P : String → Terms → Prop} {svc : Service} {r : ReplayId} {l : Ledger} {c : ToolCall}
  {k : CounterKey}

/-- Every delivery has given back to a counter what is due. -/
def Repaid (k : CounterKey) (c : ToolCall) : Prop :=
  ∀ d ∈ c.deliveries, d.report.counter = k → d.returned = d.due

/-- Units of the call's reservation, if it is on a counter. -/
def granted (k : CounterKey) (c : ToolCall) : Int :=
  match c.reservation? with
  | some r => if r.counter = k then r.quantity else 0
  | none => 0

theorem granted_le_reserved (svc : Service) (h : c.Sound P) (k : CounterKey) :
    c.granted k ≤ c.reserved svc k := by
  obtain ⟨a, ds⟩ := c
  have ha := h.admission
  unfold granted reserved reservation? Admission.reserved
  cases a with
  | committing scope cost e rolled usedAfter =>
    obtain ⟨-, hcost, -, -⟩ := ha
    dsimp only
    split <;> omega
  | finished answer =>
    cases answer with
    | ok r => exact Int.le_refl _
    | _ => exact Int.le_refl _
  | _ => exact Int.le_refl _

theorem granted_nonneg (h : c.Sound P) (k : CounterKey) : 0 ≤ c.granted k := by
  unfold granted
  cases hr : c.reservation? with
  | none => exact Int.le_refl 0
  | some r =>
    have ha := h.admission
    rw [reservation?_eq_some_iff.mp hr] at ha
    have hpos := (ha r rfl).quantity_pos
    dsimp only
    split <;> omega

/-- A call that only waits has given nothing back. -/
theorem returned_of_waiting (hrepaid : c.Repaid k) (h : ∀ d ∈ c.deliveries, d.stage = .waiting) :
    c.returned k = 0 := by
  refine List.sum_eq_zero ?_
  intro x hx
  obtain ⟨d, hd, rfl⟩ := List.mem_map.mp hx
  unfold Delivery.returnedOn
  split
  · next hk =>
    rw [hrepaid d hd hk, Delivery.due_of_not_recorded]
    simp [Delivery.Recorded, h d hd]
  · rfl

/-- What the call has given back is due from the delivery that has recorded. -/
theorem RecordedBy.returned {n : Nat} {d : Delivery} (h : c.RecordedBy r l n d)
    (hrepaid : c.Repaid k) : c.returned k = if d.report.counter = k then d.due else 0 := by
  have hshare : ∀ d' ∈ c.deliveries,
      d'.returnedOn k = if d'.report.counter = k then d'.due else 0 := by
    intro d' hd'
    unfold Delivery.returnedOn
    split
    · next hk => exact hrepaid d' hd' hk
    · rfl
  unfold ToolCall.returned
  rw [sum_map_eq_of_unique _ h.place, hshare d (List.mem_of_getElem? h.place)]
  intro m d' hm hd'
  rw [hshare d' (List.mem_of_getElem? hd'),
    Delivery.due_of_not_recorded (h.not_recorded hm hd'), ite_self]

/-- The units that a report is about are those of its call. -/
theorem granted_of_report (h : c.Sound P) {d : Delivery} (hd : d ∈ c.deliveries)
    (k : CounterKey) :
    c.granted k = if d.report.counter = k then d.report.reservation.quantity else 0 := by
  unfold granted
  rw [h.reports d hd]
  rfl

/-- A call never gives back more than it has been granted. -/
theorem returned_le_granted (h : c.Sound P) (hlogged : c.Logged r l) (hrepaid : c.Repaid k) :
    c.returned k ≤ c.granted k := by
  cases hlogged with
  | unused hunused hwaiting =>
    rw [returned_of_waiting hrepaid hwaiting]
    exact granted_nonneg h k
  | recorded n d hrec =>
    have hd := List.mem_of_getElem? hrec.place
    have hpos := (h.deliveries d hd).2.1
    rw [hrec.returned hrepaid, granted_of_report h hd]
    unfold Delivery.due
    split
    · split <;> omega
    · exact Int.le_refl 0

theorem net_nonneg (h : c.Sound P) (hlogged : c.Logged r l) (hrepaid : c.Repaid k) :
    0 ≤ c.net svc k := by
  have hle := returned_le_granted h hlogged hrepaid
  have hres := granted_le_reserved svc h k
  unfold net
  omega

/-- While a delivery owes units, they are there because of the call. -/
theorem le_net_of_owing (h : c.Sound P) (hlogged : c.Logged r l) {d : Delivery}
    (hd : d ∈ c.deliveries) (howing : d.stage = .owing) (hrepaid : c.Repaid d.report.counter) :
    d.report.reservation.quantity ≤ c.net svc d.report.counter := by
  have hres := granted_le_reserved svc h d.report.counter
  rw [granted_of_report h hd, if_pos rfl] at hres
  have hzero : c.returned d.report.counter = 0 := by
    cases hlogged with
    | unused hunused hwaiting =>
      rw [hwaiting d hd] at howing
      cases howing
    | recorded n d₀ hrec =>
      obtain ⟨m, hm⟩ := List.getElem?_of_mem hd
      have heq : m = n := by
        by_contra hne
        exact hrec.not_recorded hne hm (Or.inl howing)
      subst heq
      obtain rfl : d = d₀ := Option.some.inj (hm.symm.trans hrec.place)
      rw [hrec.returned hrepaid, if_pos rfl]
      simp [Delivery.due, howing]
  unfold net
  omega

/-! ### Calls at rest -/

/-- Units of a call that has been admitted and has not reported. -/
def outstanding (k : CounterKey) (c : ToolCall) : Int :=
  if c.deliveries.isEmpty then c.granted k else 0

/-- Units of a call that has reported, if the report that was recorded says it succeeded. -/
def charged (k : CounterKey) (c : ToolCall) : Int :=
  if c.deliveries.any fun d => d.inserted && d.report.status = .success then c.granted k else 0

theorem reserved_of_ended (h : c.admission.result?.isSome) :
    c.reserved svc k = c.granted k := by
  obtain ⟨a, ds⟩ := c
  unfold reserved granted reservation? Admission.reserved
  cases a with
  | finished answer => cases answer <;> rfl
  | _ => simp [Admission.result?] at h

/-- A call is charged if the delivery that has recorded says that it succeeded. -/
theorem RecordedBy.charged {n : Nat} {d : Delivery} (h : c.RecordedBy r l n d) (hsound : c.Sound P)
    (hended : d.state.result?.isSome) (k : CounterKey) :
    c.charged k = if d.report.status = .success then c.granted k else 0 := by
  have hmem : d ∈ c.deliveries := List.mem_of_getElem? h.place
  have hsettled : d.stage = .settled := by
    rcases Delivery.stage_of_ended (hsound.deliveries d hmem) hended with hs | hs
    · exact hs
    · rcases h.recorded with hr | hr <;> rw [hs] at hr <;> cases hr
  have hinserted : d.inserted = true :=
    Delivery.inserted_iff.mpr (Delivery.state_of_settled (hsound.deliveries d hmem) hended hsettled)
  have hany : (c.deliveries.any fun d => d.inserted && d.report.status = .success) = true ↔
      d.report.status = .success := by
    rw [List.any_eq_true]
    constructor
    · rintro ⟨d', hd', hboth⟩
      obtain ⟨hins, hsuccess⟩ := Bool.and_eq_true_iff.mp hboth
      obtain ⟨m, hm⟩ := List.getElem?_of_mem hd'
      have heq : m = n := by
        by_contra hne
        refine h.not_recorded hne hm (Or.inr ?_)
        unfold Delivery.stage
        rw [Delivery.inserted_iff.mp hins]
      subst heq
      obtain rfl : d' = d := Option.some.inj (hm.symm.trans h.place)
      exact of_decide_eq_true hsuccess
    · intro hsuccess
      exact ⟨d, hmem, by simp [hinserted, hsuccess]⟩
  unfold ToolCall.charged
  simp only [hany]

/-- The units of a call at rest are outstanding or charged. -/
theorem net_of_ended (h : c.Sound P) (hlogged : c.Logged r l) (hrepaid : c.Repaid k)
    (hadmission : c.admission.result?.isSome)
    (hdeliveries : ∀ d ∈ c.deliveries, d.state.result?.isSome) :
    c.net svc k = c.outstanding k + c.charged k := by
  unfold net
  rw [reserved_of_ended hadmission]
  cases hlogged with
  | unused hunused hwaiting =>
    have hnone : c.deliveries = [] := by
      refine List.eq_nil_iff_forall_not_mem.mpr ?_
      intro d hd
      rcases Delivery.stage_of_ended (h.deliveries d hd) (hdeliveries d hd) with hs | hs <;>
        rw [hwaiting d hd] at hs <;> cases hs
    rw [returned_of_waiting hrepaid hwaiting]
    simp [outstanding, charged, hnone]
  | recorded n d hrec =>
    have hmem : d ∈ c.deliveries := List.mem_of_getElem? hrec.place
    have hsome : c.deliveries.isEmpty = false := by
      cases hds : c.deliveries with
      | nil => rw [hds] at hmem; cases hmem
      | cons => rfl
    have hsettled : d.stage = .settled := by
      rcases Delivery.stage_of_ended (h.deliveries d hmem) (hdeliveries d hmem) with hs | hs
      · exact hs
      · rcases hrec.recorded with hr | hr <;> rw [hs] at hr <;> cases hr
    rw [hrec.returned hrepaid, hrec.charged h (hdeliveries d hmem), granted_of_report h hmem]
    unfold outstanding Delivery.due
    rw [hsome, hsettled]
    cases hstatus : d.report.status with
    | success => simp
    | failed => simp

end ToolCall

end Turnstile
