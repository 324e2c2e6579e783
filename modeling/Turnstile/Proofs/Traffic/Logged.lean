/-
One call and the log.

A call reports under a replay id of its own, perhaps many times, with reports that disagree,
and with deliveries that overlap.  Either nothing is recorded under its id and every
delivery waits, or one delivery has recorded its event and all others wait or have been
refused (`ToolCall.Logged`).  Whichever delivery makes the next step keeps it so, and other
calls cannot touch it, because they record under other ids.
-/
import Turnstile.Proofs.Traffic.Delivery

namespace Turnstile

/-! ### Deliveries that have recorded -/

namespace Delivery

/-- Has the delivery recorded its event? -/
def Recorded (d : Delivery) : Prop := d.stage = .owing ∨ d.stage = .settled

end Delivery

/-! ### Calls whose deliveries have recorded once -/

namespace ToolCall

/-- The delivery in place `n` has recorded the event of the call under the replay id `r`, and no
other delivery has. -/
structure RecordedBy (r : ReplayId) (l : Ledger) (c : ToolCall) (n : Nat) (d : Delivery) :
    Prop where
  place : c.deliveries[n]? = some d
  recorded : d.Recorded
  others : ∀ m d', m ≠ n → c.deliveries[m]? = some d' → d'.stage = .waiting ∨ d'.stage = .refused
  taken : r ∈ l.replays
  event : ∃ id now, l.eventsUnder r = [d.report.event id now]

/-- Either the replay id is unused and every delivery waits, or one delivery has recorded. -/
inductive Logged (r : ReplayId) (l : Ledger) (c : ToolCall) : Prop
  | unused (hunused : l.Unused r) (hwaiting : ∀ d ∈ c.deliveries, d.stage = .waiting)
  | recorded (n : Nat) (d : Delivery) (h : c.RecordedBy r l n d)

variable {r : ReplayId} {l l' : Ledger} {c : ToolCall}

theorem RecordedBy.not_recorded {n m : Nat} {d d' : Delivery} (h : c.RecordedBy r l n d)
    (hm : m ≠ n) (hd' : c.deliveries[m]? = some d') : ¬ d'.Recorded := by
  intro hrec
  rcases h.others m d' hm hd' with hs | hs <;> simp [Delivery.Recorded, hs] at hrec

/-- A write that leaves the id alone leaves the call logged as it was. -/
theorem Logged.of_sameLog (h : c.Logged r l) (hlog : l.SameLog r l') : c.Logged r l' := by
  cases h with
  | unused hunused hwaiting => exact .unused (hlog.unused hunused) hwaiting
  | recorded n d h =>
    obtain ⟨id, now, hevent⟩ := h.event
    exact .recorded n d ⟨h.place, h.recorded, h.others, hlog.replays.mpr h.taken,
      id, now, hlog.events.trans hevent⟩

/-- What is logged of a call does not depend on how its admission goes on. -/
theorem Logged.admission (h : c.Logged r l) (a : Admission) :
    ({ c with admission := a } : ToolCall).Logged r l := by
  cases h with
  | unused hunused hwaiting => exact .unused hunused hwaiting
  | recorded n d h => exact .recorded n d ⟨h.place, h.recorded, h.others, h.taken, h.event⟩

/-- A report that has just been sent waits. -/
theorem Logged.append (h : c.Logged r l) {d : Delivery} (hd : d.stage = .waiting) :
    ({ c with deliveries := c.deliveries ++ [d] } : ToolCall).Logged r l := by
  cases h with
  | unused hunused hwaiting =>
    refine .unused hunused ?_
    intro d' hd'
    rcases List.mem_append.mp hd' with hold | hnew
    · exact hwaiting d' hold
    · rw [List.mem_singleton.mp hnew]
      exact hd
  | recorded n d₀ h =>
    have hlt : n < c.deliveries.length := (List.getElem?_eq_some_iff.mp h.place).1
    refine .recorded n d₀ ⟨?_, h.recorded, ?_, h.taken, h.event⟩
    · exact (List.getElem?_append_left hlt).trans h.place
    · intro m d' hm hd'
      dsimp only at hd'
      by_cases hm' : m < c.deliveries.length
      · rw [List.getElem?_append_left hm'] at hd'
        exact h.others m d' hm hd'
      · rw [List.getElem?_append_right (by omega)] at hd'
        have hnew := List.mem_of_getElem? hd'
        rw [List.mem_singleton.mp hnew]
        exact Or.inl hd

/-! ### A delivery of the call makes a step -/

/-- The call with another delivery in one place. -/
def setDelivery (c : ToolCall) (n : Nat) (d : Delivery) : ToolCall :=
  { c with deliveries := c.deliveries.set n d }

theorem getElem?_setDelivery {n m : Nat} {d d' : Delivery}
    (h : (c.setDelivery n d).deliveries[m]? = some d') :
    m = n ∧ d' = d ∨ m ≠ n ∧ c.deliveries[m]? = some d' := by
  unfold setDelivery at h
  by_cases hm : m = n
  · subst hm
    obtain ⟨_, hd'⟩ := List.getElem?_eq_some_iff.mp h
    exact Or.inl ⟨rfl, by simpa using hd'.symm⟩
  · exact Or.inr ⟨hm, by simpa [List.getElem?_set_ne (Ne.symm hm)] using h⟩

theorem mem_setDelivery {n : Nat} {d d' : Delivery} (h : d' ∈ (c.setDelivery n d).deliveries) :
    d' = d ∨ d' ∈ c.deliveries := (List.mem_or_eq_of_mem_set h).symm

theorem setDelivery_self {n : Nat} {d₀ : Delivery} (h : c.deliveries[n]? = some d₀)
    (d : Delivery) : (c.setDelivery n d).deliveries[n]? = some d := by
  obtain ⟨hlt, -⟩ := List.getElem?_eq_some_iff.mp h
  unfold setDelivery
  simp [hlt]

/-- The delivery that has recorded goes on. -/
theorem RecordedBy.goOn {n : Nat} {d d' : Delivery} (h : c.RecordedBy r l n d)
    (hlog : l.SameLog r l') (hreport : d'.report = d.report) (hrec : d'.Recorded) :
    (c.setDelivery n d').RecordedBy r l' n d' := by
  refine ⟨setDelivery_self h.place d', hrec, ?_, hlog.replays.mpr h.taken, ?_⟩
  · intro m d'' hm hd''
    rcases getElem?_setDelivery hd'' with ⟨heq, -⟩ | ⟨-, hold⟩
    · exact absurd heq hm
    · exact h.others m d'' hm hold
  · obtain ⟨id, now, hevent⟩ := h.event
    exact ⟨id, now, by rw [hreport, hlog.events, hevent]⟩

/-- Another delivery goes on, and does not record. -/
theorem RecordedBy.another {n m : Nat} {d d' : Delivery} (h : c.RecordedBy r l n d)
    (hm : m ≠ n) (hlog : l.SameLog r l') (hstage : d'.stage = .waiting ∨ d'.stage = .refused) :
    (c.setDelivery m d').RecordedBy r l' n d := by
  refine ⟨?_, h.recorded, ?_, hlog.replays.mpr h.taken, ?_⟩
  · unfold setDelivery
    rw [List.getElem?_set_ne hm]
    exact h.place
  · intro m' d'' hm' hd''
    rcases getElem?_setDelivery hd'' with ⟨-, rfl⟩ | ⟨-, hold⟩
    · exact hstage
    · exact h.others m' d'' hm' hold
  · obtain ⟨id, now, hevent⟩ := h.event
    exact ⟨id, now, hlog.events.trans hevent⟩

/-- A step of one of its deliveries keeps a call logged. -/
theorem Logged.settle (h : c.Logged r l) (hr : r.isEmpty = false) {m : Nat} {d d' : Delivery}
    (hd : c.deliveries[m]? = some d) (hkey : d.report.replay = r) (hadv : d.Advance l d' l') :
    (c.setDelivery m d').Logged r l' := by
  have hmem : d ∈ c.deliveries := List.mem_of_getElem? hd
  have hreplay (id : EventId) (now : Instant) : (d.report.event id now).replay = some r := by
    rw [← hkey]
    exact Report.replay_event (by rw [hkey]; exact hr) id now
  cases h with
  | unused hunused hwaiting =>
    have hwait : d.stage = .waiting := hwaiting d hmem
    cases hadv with
    | still hreport hreturned hstage =>
      refine .unused hunused ?_
      intro d'' hd''
      rcases mem_setDelivery hd'' with rfl | hold
      · exact hstage.trans hwait
      · exact hwaiting d'' hold
    | refused hreport hreturned hstage hstage' id now hrecord =>
      rw [Ledger.record_outcome (hreplay id now), if_neg hunused.replay] at hrecord
      cases hrecord
    | recorded hreport hreturned hstage hstage' id now hrecord =>
      refine .recorded m d' ⟨setDelivery_self hd d', ?_, ?_, ?_, id, now, ?_⟩
      · unfold Delivery.Recorded
        rw [hstage']
        split
        · exact Or.inl rfl
        · exact Or.inr rfl
      · intro m' d'' hm' hd''
        rcases getElem?_setDelivery hd'' with ⟨heq, -⟩ | ⟨-, hold⟩
        · exact absurd heq hm'
        · exact Or.inl (hwaiting d'' (List.mem_of_getElem? hold))
      · exact Ledger.mem_replays_record (hreplay id now)
      · rw [Ledger.eventsUnder_record (hreplay id now) hrecord, hunused.events, hreport]
        rfl
    | released hreport hreturned hstage =>
      rw [hwait] at hstage
      cases hstage
  | recorded n d₀ h =>
    by_cases hm : m = n
    · -- the delivery that has recorded
      subst hm
      obtain rfl : d = d₀ := Option.some.inj (hd.symm.trans h.place)
      cases hadv with
      | still hreport hreturned hstage =>
        refine .recorded m d' (h.goOn (.refl r l) hreport ?_)
        unfold Delivery.Recorded
        rw [hstage]
        exact h.recorded
      | refused hreport hreturned hstage | recorded hreport hreturned hstage =>
        rcases h.recorded with hs | hs <;> rw [hs] at hstage <;> cases hstage
      | released hreport hreturned hstage hfailed hstage' =>
        exact .recorded m d' (h.goOn (.release l _ _) hreport (Or.inr hstage'))
    · -- another one, which finds the replay id taken
      have hother := h.others m d hm hd
      cases hadv with
      | still hreport hreturned hstage =>
        refine .recorded n d₀ (h.another hm (.refl r l) ?_)
        rw [hstage]
        exact hother
      | refused hreport hreturned hstage hstage' =>
        exact .recorded n d₀ (h.another hm (.refl r l) (Or.inr hstage'))
      | recorded hreport hreturned hstage hstage' id now hrecord =>
        rw [Ledger.record_outcome (hreplay id now), if_pos h.taken] at hrecord
        cases hrecord
      | released hreport hreturned hstage =>
        rcases hother with hs | hs <;> rw [hs] at hstage <;> cases hstage

end ToolCall

end Turnstile
