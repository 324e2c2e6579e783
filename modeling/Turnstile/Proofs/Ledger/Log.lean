/-
What the log holds under a replay id.

Recording an event under a replay id that has been recorded does nothing, and any other
recording appends.  `Ledger.eventsUnder` is what the log holds under one id and
`Ledger.SameLog` says that a write has not touched it, so that a call can be followed
while others record under ids of their own.
-/
import Turnstile.Proofs.Ledger.Rollback
import Turnstile.Service.Settlement

namespace Turnstile

namespace Ledger

variable {l l' l'' : Ledger} {e : Event} {r : ReplayId}

/-- The events in the log that carry a replay id. -/
def eventsUnder (l : Ledger) (r : ReplayId) : List Event :=
  l.events.filter fun e => e.replay = some r

/-- A replay id that has not been recorded and that no event carries. -/
structure Unused (l : Ledger) (r : ReplayId) : Prop where
  replay : r ∉ l.replays
  events : l.eventsUnder r = []

/-! ### Recording under an id -/

theorem record_outcome (h : e.replay = some r) :
    (l.record e).1 = if r ∈ l.replays then .duplicate else .inserted := by
  unfold record
  simp only [h, Std.ExtTreeSet.mem_iff_contains]
  split
  · rfl
  · rfl

/-- An event that is a duplicate is not recorded. -/
theorem record_of_duplicate (h : (l.record e).1 = .duplicate) : (l.record e).2 = l := by
  unfold record at h ⊢
  cases hr : e.replay with
  | none => simp [hr] at h
  | some r =>
    simp only [hr] at h ⊢
    split
    · rfl
    · next hc => simp [hc] at h

/-- An event that is not a duplicate is appended. -/
theorem events_record_of_inserted (h : (l.record e).1 = .inserted) :
    (l.record e).2.events = l.events ++ [e] := by
  unfold record at h ⊢
  cases hr : e.replay with
  | none => rfl
  | some r =>
    simp only [hr] at h ⊢
    split
    · next hc => simp [hc] at h
    · rfl

/-- Recording an event records its replay id, and no other. -/
theorem mem_replays_record_iff :
    r ∈ (l.record e).2.replays ↔ r ∈ l.replays ∨ e.replay = some r := by
  unfold record
  cases hreplay : e.replay with
  | none => simp
  | some r' =>
    dsimp only
    split
    · next htaken =>
      refine ⟨Or.inl, ?_⟩
      rintro (hr | hr)
      · exact hr
      · exact Option.some.inj hr ▸ Std.ExtTreeSet.mem_iff_contains.mpr htaken
    · simp [Std.ExtTreeSet.mem_insert, or_comm]

/-- After an event has been recorded under an id, the id is taken. -/
theorem mem_replays_record (h : e.replay = some r) : r ∈ (l.record e).2.replays :=
  mem_replays_record_iff.mpr (.inr h)

theorem eventsUnder_record (h : e.replay = some r) (hins : (l.record e).1 = .inserted) :
    (l.record e).2.eventsUnder r = l.eventsUnder r ++ [e] := by
  unfold eventsUnder
  rw [events_record_of_inserted hins, List.filter_append]
  simp [h]

/-! ### The units of a period -/

/-- The units of a period are a matter of the log. -/
theorem sum_of_events {l l' : Ledger} (h : l'.events = l.events) (tenant meter : String)
    (p : Period) : l'.sum tenant meter p = l.sum tenant meter p := by
  unfold sum
  rw [h]

/-- An event that is recorded adds its units to the periods that it counts toward. -/
theorem sum_record (hins : (l.record e).1 = .inserted) (tenant meter : String) (p : Period) :
    (l.record e).2.sum tenant meter p =
      l.sum tenant meter p + if e.counts tenant meter p then e.quantity else 0 := by
  unfold sum
  rw [events_record_of_inserted hins, List.filter_append, List.foldr_append]
  have hshift : ∀ (es : List Event) (n : Int),
      es.foldr (fun e n => e.quantity + n) n = es.foldr (fun e n => e.quantity + n) 0 + n := by
    intro es n
    induction es with
    | nil => simp
    | cons e es ih =>
        simp only [List.foldr_cons]
        omega
  rw [hshift]
  split
  · next h => simp [h]
  · next h => simp [h]

/-! ### Writes that leave an id alone -/

/-- The second ledger holds the same under a replay id as the first. -/
structure SameLog (r : ReplayId) (l l' : Ledger) : Prop where
  replays : r ∈ l'.replays ↔ r ∈ l.replays
  events : l'.eventsUnder r = l.eventsUnder r

namespace SameLog

theorem of_eq (hevents : l'.events = l.events) (hreplays : l'.replays = l.replays) :
    SameLog r l l' := by
  refine ⟨by rw [hreplays], ?_⟩
  unfold eventsUnder
  rw [hevents]

theorem refl (r : ReplayId) (l : Ledger) : SameLog r l l := ⟨Iff.rfl, rfl⟩

theorem unused (h : SameLog r l l') (hl : l.Unused r) : l'.Unused r :=
  ⟨fun hr => hl.replay (h.replays.mp hr), h.events.trans hl.events⟩

/-- Recording under another id, or under none, leaves an id alone. -/
theorem record (l : Ledger) (h : e.replay ≠ some r) : SameLog r l (l.record e).2 := by
  unfold Ledger.record
  cases hr : e.replay with
  | none =>
    refine ⟨Iff.rfl, ?_⟩
    simp [eventsUnder, hr]
  | some r' =>
    have hne : r' ≠ r := by
      rintro rfl
      exact h hr
    dsimp only
    split
    · exact .refl r l
    · refine ⟨?_, ?_⟩
      · simp [Std.ExtTreeSet.mem_insert, hne]
      · simp [eventsUnder, hr, hne]

theorem release (l : Ledger) (k : CounterKey) (q : Int) : SameLog r l (l.release k q).2 :=
  .of_eq (events_release l k q) (replays_release l k q)

end SameLog

end Ledger

/-! ### The event of a report -/

/-- The event of a report carries its replay id, if it has one. -/
theorem Report.replay_event {report : Report} (h : report.replay.isEmpty = false) (id : EventId)
    (now : Instant) : (report.event id now).replay = some report.replay := by
  simp [Report.event, Event.withReplay, Event.withAudit, h]

/-- The event of a report counts toward a period if the call was successful and the report comes
inside the period. -/
theorem Report.counts_event_iff {report : Report} {id : EventId} {now : Instant}
    {tenant meter : String} {p : Period} :
    (report.event id now).counts tenant meter p = true ↔
      report.reservation.tenant = tenant ∧ report.reservation.meter = meter ∧
        report.status = .success ∧ p.start ≤ now ∧ now < p.stop := by
  unfold Event.counts
  simp only [Bool.and_eq_true, decide_eq_true_eq, and_assoc]
  exact Iff.rfl

@[simp] theorem Report.quantity_event (report : Report) (id : EventId) (now : Instant) :
    (report.event id now).quantity = report.reservation.quantity := rfl

end Turnstile
