/-
The replay index.

Beside the log a ledger keeps the replay ids of its events, so that it can tell a duplicate
without reading the log.  Recording adds to both.  Dropping a scope takes out of both, but not
in the same way: out of the log by the id of the event, and out of the index by the replay id.

The two stay in step whatever scopes overlap, and whatever calls are made through no scope
beside them (`Abreast.play`).  The invariant that carries this is `Abreast.Indexed`: what an
open scope would take out is in the log as the scope has recorded it, and no other scope would
take it out (`Abreast.Holds`).  All that is asked is that every event that is passed in has an
id of its own.
-/
import Mathlib.Data.List.Nodup
import Mathlib.Data.List.Pairwise
import Turnstile.Proofs.Scope.Abreast
import Turnstile.Proofs.Scope.Retrace

namespace Turnstile

/-! ### Logs with an index -/

namespace Ledger

variable {l l' : Ledger} {e : Event} {r : ReplayId}

/-- The replay ids are those that the events in the log carry, and no two events carry the same. -/
structure Indexed (l : Ledger) : Prop where
  carried : ∀ r, r ∈ l.replays ↔ ∃ e ∈ l.events, e.replay = some r
  apart : l.events.Pairwise fun e e' => ∀ r, e.replay = some r → e'.replay ≠ some r

theorem indexed_empty : empty.Indexed := by
  refine ⟨?_, .nil⟩
  intro r
  simp [empty]

/-- Whether a ledger is indexed is a matter of its log and its replay ids. -/
theorem Indexed.of_log (h : l.Indexed) (hevents : l'.events = l.events)
    (hreplays : l'.replays = l.replays) : l'.Indexed := by
  refine ⟨?_, ?_⟩
  · intro r
    rw [hevents, hreplays]
    exact h.carried r
  · rw [hevents]
    exact h.apart

/-- Two events with the same replay id are the same event. -/
theorem Indexed.eq_of_replay (h : l.Indexed) {e e' : Event} (he : e ∈ l.events)
    (he' : e' ∈ l.events) (hr : e.replay = some r) (hr' : e'.replay = some r) : e = e' := by
  by_contra hne
  have hsymm : Std.Symm fun e e' : Event => ∀ r, e.replay = some r → e'.replay ≠ some r := by
    refine ⟨?_⟩
    intro e e' hapart r hr' hr
    exact hapart r hr hr'
  exact h.apart.forall he he' hne r hr hr'

/-- The log holds one event under a replay id that has been recorded, and none under any other. -/
theorem Indexed.length_eventsUnder (h : l.Indexed) (r : ReplayId) :
    (l.eventsUnder r).length = if r ∈ l.replays then 1 else 0 := by
  have hunder : ∀ e, e ∈ l.eventsUnder r ↔ e ∈ l.events ∧ e.replay = some r := by
    intro e
    simp [eventsUnder]
  have hapart : (l.eventsUnder r).Pairwise fun e e' => e.replay = some r → e'.replay ≠ some r :=
    (h.apart.sublist List.filter_sublist).imp fun hne => hne r
  by_cases hr : r ∈ l.replays
  · obtain ⟨e, he, hre⟩ := (h.carried r).mp hr
    rw [if_pos hr]
    cases hlist : l.eventsUnder r with
    | nil =>
      have hmem := (hunder e).mpr ⟨he, hre⟩
      rw [hlist] at hmem
      cases hmem
    | cons first later =>
      cases later with
      | nil => rfl
      | cons second rest =>
        have hfirst := ((hunder first).mp (by simp [hlist])).2
        have hsecond := ((hunder second).mp (by simp [hlist])).2
        rw [hlist, List.pairwise_cons] at hapart
        exact absurd hsecond (hapart.1 second (by simp) hfirst)
  · rw [if_neg hr, List.length_eq_zero_iff, List.eq_nil_iff_forall_not_mem]
    intro e he
    exact hr ((h.carried r).mpr ⟨e, (hunder e).mp he⟩)

/-- Recording keeps a ledger indexed. -/
theorem Indexed.record (h : l.Indexed) (e : Event) : (l.record e).2.Indexed := by
  cases hout : (l.record e).1 with
  | duplicate =>
    rw [record_of_duplicate hout]
    exact h
  | inserted =>
    have hevents := events_record_of_inserted hout
    refine ⟨?_, ?_⟩
    · intro r
      rw [mem_replays_record_iff, h.carried, hevents]
      constructor
      · rintro (⟨e', he', hr⟩ | hr)
        · exact ⟨e', by simp [he'], hr⟩
        · exact ⟨e, by simp, hr⟩
      · rintro ⟨e', he', hr⟩
        rcases List.mem_append.mp he' with hold | hnew
        · exact .inl ⟨e', hold, hr⟩
        · rw [List.mem_singleton.mp hnew] at hr
          exact .inr hr
    · rw [hevents, List.pairwise_append]
      refine ⟨h.apart, List.pairwise_singleton _ _, ?_⟩
      intro e' he' e'' he'' r hr hr'
      obtain rfl := List.mem_singleton.mp he''
      -- an id that an event carries is taken, and the event would have been a duplicate
      rw [record_outcome hr', if_pos ((h.carried r).mpr ⟨e', he', hr⟩)] at hout
      cases hout

/-- An event is a duplicate exactly if an event with its replay id is in the log. -/
theorem Indexed.duplicate_iff (h : l.Indexed) (e : Event) :
    (l.record e).1 = .duplicate ↔ ∃ r, e.replay = some r ∧ ∃ e' ∈ l.events, e'.replay = some r := by
  cases hr : e.replay with
  | none =>
    unfold Ledger.record
    simp [hr]
  | some r =>
    rw [record_outcome hr]
    have hcarried := h.carried r
    by_cases hmem : r ∈ l.replays
    · simpa [hmem] using hcarried.mp hmem
    · simpa [hmem] using hcarried.not.mp hmem

/-- The ids are distinct, and no event in the log has one of them. -/
structure Unspent (ids : List EventId) (l : Ledger) : Prop where
  distinct : ids.Nodup
  unlogged : ∀ e ∈ l.events, e.id ∉ ids

/-- Once the first of the ids may have been used, the others are still unspent. -/
theorem Unspent.tail {first : Option EventId} {rest : List EventId}
    (h : l.Unspent (first.toList ++ rest))
    (hlog : ∀ e ∈ l'.events, e ∈ l.events ∨ first = some e.id) : l'.Unspent rest := by
  obtain ⟨-, hrest, hdisjoint⟩ := List.nodup_append.mp h.distinct
  refine ⟨hrest, ?_⟩
  intro e he hmem
  rcases hlog e he with hold | hnew
  · exact h.unlogged e hold (by simp [hmem])
  · exact hdisjoint e.id (by simp [hnew]) e.id hmem rfl

/-- Store-wide calls leave the log and the replay ids alone. -/
theorem log_perform (c : Call) (l : Ledger) :
    (perform c l).2.events = l.events ∧ (perform c l).2.replays = l.replays := by
  cases c <;> simp [perform, putEntitlement]

end Ledger

/-! ### What a rollback takes out of the log -/

namespace Undo

variable {u : Undo} {l : Ledger}

/-- Taking back a write that is not an event leaves the log and the replay ids alone. -/
theorem log_apply (h : ∀ id replay, u ≠ .event id replay) (l : Ledger) :
    (u.apply l).events = l.events ∧ (u.apply l).replays = l.replays := by
  cases u with
  | entitlement tenant previous => cases previous <;> exact ⟨rfl, rfl⟩
  | period tenant previous applied =>
    have hmoved := periodsMoved_apply l tenant previous applied
    exact ⟨hmoved.events, hmoved.replays⟩
  | reserved key cost => exact ⟨l.events_release key cost, l.replays_release key cost⟩
  | released key amount =>
    unfold apply
    dsimp only
    split <;> simp
  | event id replay => exact absurd rfl (h id replay)

theorem sublist_events_apply (u : Undo) (l : Ledger) : (u.apply l).events.Sublist l.events := by
  by_cases h : ∃ id replay, u = .event id replay
  · obtain ⟨id, replay, rfl⟩ := h
    exact List.filter_sublist
  · rw [(log_apply (fun id replay hu => h ⟨id, replay, hu⟩) l).1]

theorem mem_events_apply_iff {e : Event} :
    e ∈ (u.apply l).events ↔ e ∈ l.events ∧ ∀ replay, u ≠ .event e.id replay := by
  by_cases h : ∃ id replay, u = .event id replay
  · obtain ⟨id, replay, rfl⟩ := h
    have hid : (∀ replay', Undo.event id replay ≠ .event e.id replay') ↔ e.id ≠ id := by
      constructor
      · rintro hne rfl
        exact hne replay rfl
      · rintro hne replay' heq
        exact hne (Undo.event.inj heq).1.symm
    rw [hid]
    simp [apply, Ledger.unrecord]
  · rw [(log_apply (fun id replay hu => h ⟨id, replay, hu⟩) l).1]
    exact ⟨fun he => ⟨he, fun replay hu => h ⟨_, _, hu⟩⟩, And.left⟩

theorem mem_replays_apply_iff {r : ReplayId} :
    r ∈ (u.apply l).replays ↔ r ∈ l.replays ∧ ∀ id, u ≠ .event id (some r) := by
  by_cases h : ∃ id replay, u = .event id replay
  · obtain ⟨id, replay, rfl⟩ := h
    cases replay with
    | none => simp [apply, Ledger.unrecord]
    | some r' => simp [apply, Ledger.unrecord, Std.ExtTreeSet.mem_erase, and_comm]
  · rw [(log_apply (fun id replay hu => h ⟨id, replay, hu⟩) l).2]
    exact ⟨fun hr => ⟨hr, fun id hu => h ⟨_, _, hu⟩⟩, And.left⟩

end Undo

namespace Scope

variable {l : Ledger}

theorem sublist_events_drop (s : Scope) (l : Ledger) :
    (s.drop l).events.Sublist l.events := by
  obtain ⟨tenant, undo⟩ := s
  induction undo generalizing l with
  | nil => exact .refl _
  | cons u rest ih => exact (ih (u.apply l)).trans (u.sublist_events_apply l)

/-- Dropping a scope takes the events out of the log that it has notes about. -/
theorem mem_events_drop_iff {s : Scope} {e : Event} :
    e ∈ (s.drop l).events ↔ e ∈ l.events ∧ ∀ replay, .event e.id replay ∉ s.undo := by
  obtain ⟨tenant, undo⟩ := s
  induction undo generalizing l with
  | nil => simp
  | cons u rest ih =>
    have hrest : e ∈ (drop ⟨tenant, u :: rest⟩ l).events ↔ _ := ih (l := u.apply l)
    rw [hrest, Undo.mem_events_apply_iff, and_assoc, ← forall_and]
    refine and_congr_right fun _ => forall_congr' fun replay => ?_
    simp [eq_comm]

/-- It takes the replay ids of the same notes out of those recorded. -/
theorem mem_replays_drop_iff {s : Scope} {r : ReplayId} :
    r ∈ (s.drop l).replays ↔ r ∈ l.replays ∧ ∀ id, .event id (some r) ∉ s.undo := by
  obtain ⟨tenant, undo⟩ := s
  induction undo generalizing l with
  | nil => simp
  | cons u rest ih =>
    have hrest : r ∈ (drop ⟨tenant, u :: rest⟩ l).replays ↔ _ := ih (l := u.apply l)
    rw [hrest, Undo.mem_replays_apply_iff, and_assoc, ← forall_and]
    refine and_congr_right fun _ => forall_congr' fun id => ?_
    simp [eq_comm]

end Scope

/-! ### What can be done to a ledger -/

/-- What can be done to a ledger: a turn of the scopes on it, a call through no scope, or a row that
is put there as it is. -/
inductive Act
  | turn (turn : Turn)
  | call (c : Ledger.Call)
  | putCounter (c : Counter)
  | putEvent (e : Event)

/-- The id of the event that is passed in. -/
def Act.eventId? : Act → Option EventId
  | .turn (.call _ c) => c.eventId?
  | .putEvent e => some e.id
  | _ => none

namespace Abreast

/-- One act. -/
def act (t : Abreast) : Act → Abreast
  | .turn turn => t.step turn
  | .call c => { t with ledger := (Ledger.perform c t.ledger).2 }
  | .putCounter c => { t with ledger := t.ledger.putCounter c }
  | .putEvent e => { t with ledger := (t.ledger.record e).2 }

/-- Acts, one after another. -/
def play (t : Abreast) (acts : List Act) : Abreast := acts.foldl act t

variable {t t' : Abreast} {nth n : Nat} {s : Scope} {a : Act}

theorem play_cons (t : Abreast) (a : Act) (acts : List Act) :
    t.play (a :: acts) = (t.act a).play acts := rfl

theorem play_append (t : Abreast) (acts acts' : List Act) :
    t.play (acts ++ acts') = (t.play acts).play acts' :=
  List.foldl_append

theorem play_turns (t : Abreast) (turns : List Turn) :
    t.play (turns.map .turn) = t.run turns :=
  List.foldl_map

/-- The scope at the place is open, and would take an event out of the log. -/
def Holds (t : Abreast) (nth : Nat) (id : EventId) (replay : Option ReplayId) : Prop :=
  ∃ s, t.scope? nth = some s ∧ .event id replay ∈ s.undo

/-- No scope of the second holds an event that it does not hold in the first. -/
def HoldsNoMore (t t' : Abreast) : Prop :=
  ∀ nth id replay, t'.Holds nth id replay → t.Holds nth id replay

/-! ### What an act does to the log -/

/-- What an act does to the log, and to what the open scopes would take out of it. -/
inductive Logs (t : Abreast) (a : Act) (t' : Abreast) : Prop
  /-- The log is left alone. -/
  | nothing (hevents : t'.ledger.events = t.ledger.events)
      (hreplays : t'.ledger.replays = t.ledger.replays) (hholds : t.HoldsNoMore t')
  /-- An event is recorded, which at most one scope would take out. -/
  | recorded (e : Event) (nth : Nat) (hid : a.eventId? = some e.id)
      (hins : (t.ledger.record e).1 = .inserted) (hledger : t'.ledger = (t.ledger.record e).2)
      (hholds : ∀ n id replay, t'.Holds n id replay →
        t.Holds n id replay ∨ n = nth ∧ id = e.id ∧ replay = e.replay)
  /-- A scope is dropped. -/
  | dropped (nth : Nat) (s : Scope) (ha : a = .turn (.drop nth)) (hs : t.scope? nth = some s)
      (hledger : t'.ledger = s.drop t.ledger)
      (hholds : ∀ n id replay, t'.Holds n id replay → n ≠ nth ∧ t.Holds n id replay)

/-- A scope that is opened holds nothing. -/
theorem holdsNoMore_begin (t : Abreast) (tenant : String) :
    t.HoldsNoMore (t.step (.begin tenant)) := by
  rintro nth id replay ⟨s, hs, hmem⟩
  simp only [step] at hs
  split at hs
  · next s' hbegin =>
    rw [scope?_eq_some_iff] at hs
    rcases Nat.lt_or_ge nth t.scopes.length with hlt | hge
    · rw [List.getElem?_append_left hlt] at hs
      exact ⟨s, scope?_eq_some_iff.mpr hs, hmem⟩
    · rw [List.getElem?_append_right hge] at hs
      have hnew : some s' = some s := List.mem_singleton.mp (List.mem_of_getElem? hs) |>.symm
      obtain ⟨-, rfl⟩ := Scope.begin?_eq_ok_iff.mp hbegin
      obtain rfl := Option.some.inj hnew
      cases hmem
  · exact ⟨s, hs, hmem⟩

/-- What is held once a scope has ended was held before, by another. -/
theorem holds_of_ended {f : Scope → Ledger → Option Scope × Ledger}
    (hs : t.scope? nth = some s) (hended : (f s t.ledger).1 = none) {id : EventId}
    {replay : Option ReplayId} (h : (t.through nth f).Holds n id replay) :
    n ≠ nth ∧ t.Holds n id replay := by
  obtain ⟨s', hs', hmem⟩ := h
  have hne : n ≠ nth := by
    rintro rfl
    rw [scope?_through_self hs, hended] at hs'
    cases hs'
  rw [scope?_through_ne hne.symm] at hs'
  exact ⟨hne, s', hs', hmem⟩

/-- What is held after a call was held before, or it is a note that the call has made. -/
theorem holds_of_call (hs : t.scope? nth = some s) {c : Scope.Call} {id : EventId}
    {replay : Option ReplayId} (h : (t.step (.call nth c)).Holds n id replay) :
    t.Holds n id replay ∨ n = nth ∧ .event id replay ∈ (Scope.perform c s t.ledger).2.1.undo := by
  obtain ⟨s', hs', hmem⟩ := h
  by_cases hn : nth = n
  · subst hn
    rw [step, scope?_through_self hs] at hs'
    exact .inr ⟨rfl, Option.some.inj hs' ▸ hmem⟩
  · rw [step, scope?_through_ne hn] at hs'
    exact .inl ⟨s', hs', hmem⟩

theorem logs_call (t : Abreast) (nth : Nat) (c : Scope.Call) :
    t.Logs (.turn (.call nth c)) (t.step (.call nth c)) := by
  cases hs : t.scope? nth with
  | none =>
    rw [step, through_of_none hs]
    exact .nothing rfl rfl fun _ _ _ h => h
  | some s =>
    have hledger := ledger_call hs c
    have hwrite := Scope.write_perform c s t.ledger
    have hholds : ∀ n id replay, (t.step (.call nth c)).Holds n id replay → t.Holds n id replay ∨
        n = nth ∧ .event id replay ∈ (Scope.perform c s t.ledger).2.1.undo :=
      fun n id replay h => holds_of_call hs h
    -- a call whose last note is not an event makes the scope hold nothing new
    have hsame : (∀ id replay, .event id replay ∈ (Scope.perform c s t.ledger).2.1.undo →
        .event id replay ∈ s.undo) → t.HoldsNoMore (t.step (.call nth c)) := by
      intro hundo n id replay h
      rcases hholds n id replay h with hold | ⟨rfl, hmem⟩
      · exact hold
      · exact ⟨s, hs, hundo id replay hmem⟩
    generalize (Scope.perform c s t.ledger).2.1 = s' at hwrite hholds hsame
    generalize (Scope.perform c s t.ledger).2.2 = l' at hledger hwrite
    cases hwrite with
    | nothing => exact .nothing (by rw [hledger]) (by rw [hledger]) (hsame fun _ _ h => h)
    | opened => exact .nothing (by rw [hledger]; rfl) (by rw [hledger]; rfl) (hsame fun _ _ h => h)
    | upserted =>
      exact .nothing (by rw [hledger]; rfl) (by rw [hledger]; rfl)
        (hsame fun _ _ h => by simpa [Scope.note] using h)
    | moved =>
      exact .nothing (by simp [hledger]) (by simp [hledger])
        (hsame fun _ _ h => by simpa [Scope.note] using h)
    | reserved =>
      exact .nothing (by simp [hledger]) (by simp [hledger])
        (hsame fun _ _ h => by simpa [Scope.note] using h)
    | released =>
      exact .nothing (by simp [hledger]) (by simp [hledger])
        (hsame fun _ _ h => by simpa [Scope.note] using h)
    | @recorded e htenant hins =>
      refine .recorded e nth rfl hins hledger ?_
      intro n id replay h
      rcases hholds n id replay h with hold | ⟨rfl, hmem⟩
      · exact .inl hold
      · rcases List.mem_cons.mp hmem with hnew | hold
        · exact .inr ⟨rfl, Undo.event.inj hnew⟩
        · exact .inl ⟨s, hs, hold⟩

/-- **An act leaves the log alone, records an event, or drops a scope.** -/
theorem logs_act (t : Abreast) (a : Act) : t.Logs a (t.act a) := by
  have hidle : ∀ a, t.Logs a t := fun a => .nothing rfl rfl fun _ _ _ h => h
  cases a with
  | turn turn =>
    cases turn with
    | begin tenant =>
      refine .nothing ?_ ?_ (holdsNoMore_begin t tenant)
      · simp only [act, step]
        split <;> rfl
      · simp only [act, step]
        split <;> rfl
    | call nth c => exact logs_call t nth c
    | commit nth =>
      cases hs : t.scope? nth with
      | none =>
        rw [act, step, through_of_none hs]
        exact hidle _
      | some s =>
        have hledger : (t.act (.turn (.commit nth))).ledger = t.ledger := by
          rw [act, step, through_of_scope? hs, Scope.drop_commit]
        refine .nothing (by rw [hledger]) (by rw [hledger]) ?_
        intro n id replay h
        exact (holds_of_ended hs rfl h).2
    | drop nth =>
      cases hs : t.scope? nth with
      | none =>
        rw [act, step, through_of_none hs]
        exact hidle _
      | some s =>
        refine .dropped nth s rfl hs (ledger_drop hs) ?_
        intro n id replay h
        exact holds_of_ended hs rfl h
  | call c =>
    have hlog := Ledger.log_perform c t.ledger
    exact .nothing hlog.1 hlog.2 fun _ _ _ h => h
  | putCounter c => exact .nothing rfl rfl fun _ _ _ h => h
  | putEvent e =>
    cases hout : (t.ledger.record e).1 with
    | duplicate =>
      have hsame : t.act (.putEvent e) = t := by
        simp only [act, Ledger.record_of_duplicate hout]
      rw [hsame]
      exact hidle _
    | inserted => exact .recorded e 0 rfl hout rfl fun _ _ _ h => .inl h

/-! ### The log and the index in step -/

/-- The replay ids are in step with the log, and what the open scopes would take out of one they
would take out of the other. -/
structure Indexed (t : Abreast) : Prop where
  index : t.ledger.Indexed
  /-- No two events in the log have the same id. -/
  distinct : (t.ledger.events.map (·.id)).Nodup
  /-- What a scope would take out is in the log. -/
  held : ∀ nth id replay, t.Holds nth id replay →
    ∃ e ∈ t.ledger.events, e.id = id ∧ e.replay = replay
  /-- No two scopes would take out the same event. -/
  apart : ∀ nth nth' id replay replay', t.Holds nth id replay → t.Holds nth' id replay' →
    nth = nth'

theorem indexed_idle : (idle .empty).Indexed := by
  have hnone : ∀ nth id replay, ¬(idle .empty).Holds nth id replay := by
    rintro nth id replay ⟨s, hs, -⟩
    simp [idle, scope?] at hs
  refine ⟨Ledger.indexed_empty, .nil, ?_, ?_⟩
  · intro nth id replay h
    exact absurd h (hnone nth id replay)
  · intro nth nth' id replay replay' h
    exact absurd h (hnone nth id replay)

/-- Two events in the log with the same id are the same event. -/
theorem Indexed.eq_of_id (h : t.Indexed) {e e' : Event} (he : e ∈ t.ledger.events)
    (he' : e' ∈ t.ledger.events) (hid : e.id = e'.id) : e = e' :=
  List.inj_on_of_nodup_map h.distinct he he' hid

theorem Indexed.nothing (h : t.Indexed) (hevents : t'.ledger.events = t.ledger.events)
    (hreplays : t'.ledger.replays = t.ledger.replays) (hholds : t.HoldsNoMore t') :
    t'.Indexed := by
  refine ⟨h.index.of_log hevents hreplays, ?_, ?_, ?_⟩
  · rw [hevents]
    exact h.distinct
  · intro nth id replay hheld
    rw [hevents]
    exact h.held nth id replay (hholds nth id replay hheld)
  · intro nth nth' id replay replay' hheld hheld'
    exact h.apart nth nth' id replay replay' (hholds _ _ _ hheld) (hholds _ _ _ hheld')

theorem Indexed.recorded (h : t.Indexed) {e : Event} (hins : (t.ledger.record e).1 = .inserted)
    (hfresh : ∀ e' ∈ t.ledger.events, e'.id ≠ e.id) (hledger : t'.ledger = (t.ledger.record e).2)
    (hholds : ∀ n id replay, t'.Holds n id replay →
      t.Holds n id replay ∨ n = nth ∧ id = e.id ∧ replay = e.replay) : t'.Indexed := by
  have hevents : t'.ledger.events = t.ledger.events ++ [e] := by
    rw [hledger, Ledger.events_record_of_inserted hins]
  -- no scope has held the event before it was recorded
  have hunheld : ∀ n replay, ¬t.Holds n e.id replay := by
    intro n replay hheld
    obtain ⟨e', he', hid, -⟩ := h.held n e.id replay hheld
    exact hfresh e' he' hid
  refine ⟨?_, ?_, ?_, ?_⟩
  · rw [hledger]
    exact h.index.record e
  · rw [hevents, List.map_append, List.nodup_append]
    refine ⟨h.distinct, List.nodup_singleton _, ?_⟩
    intro id hid id' hid'
    obtain ⟨e', he', rfl⟩ := List.mem_map.mp hid
    rw [List.mem_singleton.mp hid']
    exact hfresh e' he'
  · intro n id replay hheld
    rw [hevents]
    rcases hholds n id replay hheld with hold | ⟨-, rfl, rfl⟩
    · obtain ⟨e', he', hid, hreplay⟩ := h.held n id replay hold
      exact ⟨e', by simp [he'], hid, hreplay⟩
    · exact ⟨e, by simp, rfl, rfl⟩
  · intro n n' id replay replay' hheld hheld'
    rcases hholds n id replay hheld with hold | ⟨rfl, rfl, -⟩
    · rcases hholds n' id replay' hheld' with hold' | ⟨-, rfl, -⟩
      · exact h.apart n n' id replay replay' hold hold'
      · exact absurd hold (hunheld n replay)
    · rcases hholds n' e.id replay' hheld' with hold' | ⟨rfl, -, -⟩
      · exact absurd hold' (hunheld n' replay')
      · rfl

theorem Indexed.dropped (h : t.Indexed) (hs : t.scope? nth = some s)
    (hledger : t'.ledger = s.drop t.ledger)
    (hholds : ∀ n id replay, t'.Holds n id replay → n ≠ nth ∧ t.Holds n id replay) :
    t'.Indexed := by
  have hnoted : ∀ id replay, .event id replay ∈ s.undo →
      ∃ e ∈ t.ledger.events, e.id = id ∧ e.replay = replay :=
    fun id replay hmem => h.held nth id replay ⟨s, hs, hmem⟩
  refine ⟨⟨?_, ?_⟩, ?_, ?_, ?_⟩
  · intro r
    rw [hledger, Scope.mem_replays_drop_iff, h.index.carried]
    constructor
    · rintro ⟨⟨e, he, hr⟩, hunnoted⟩
      refine ⟨e, Scope.mem_events_drop_iff.mpr ⟨he, ?_⟩, hr⟩
      intro replay hmem
      obtain ⟨e', he', hid, hreplay⟩ := hnoted e.id replay hmem
      obtain rfl := h.eq_of_id he' he hid
      rw [← hreplay, hr] at hmem
      exact hunnoted e'.id hmem
    · rintro ⟨e, he, hr⟩
      obtain ⟨he, hunnoted⟩ := Scope.mem_events_drop_iff.mp he
      refine ⟨⟨e, he, hr⟩, ?_⟩
      intro id hmem
      obtain ⟨e', he', rfl, hreplay⟩ := hnoted id (some r) hmem
      obtain rfl := h.index.eq_of_replay he' he hreplay hr
      exact hunnoted (some r) hmem
  · rw [hledger]
    exact h.index.apart.sublist (s.sublist_events_drop t.ledger)
  · rw [hledger]
    exact h.distinct.sublist ((s.sublist_events_drop t.ledger).map _)
  · intro n id replay hheld
    obtain ⟨hne, hheld⟩ := hholds n id replay hheld
    obtain ⟨e, he, rfl, hreplay⟩ := h.held n id replay hheld
    rw [hledger]
    refine ⟨e, Scope.mem_events_drop_iff.mpr ⟨he, ?_⟩, rfl, hreplay⟩
    intro replay' hmem
    exact hne (h.apart n nth e.id replay replay' hheld ⟨s, hs, hmem⟩)
  · intro n n' id replay replay' hheld hheld'
    exact h.apart n n' id replay replay' (hholds _ _ _ hheld).2 (hholds _ _ _ hheld').2

/-- An act that passes in no event whose id is in the log keeps log and index in step. -/
theorem Indexed.act (h : t.Indexed)
    (hfresh : ∀ id ∈ a.eventId?, ∀ e ∈ t.ledger.events, e.id ≠ id) : (t.act a).Indexed := by
  cases logs_act t a with
  | nothing hevents hreplays hholds => exact h.nothing hevents hreplays hholds
  | recorded e nth hid hins hledger hholds => exact h.recorded hins (hfresh e.id hid) hledger hholds
  | dropped nth s ha hs hledger hholds => exact h.dropped hs hledger hholds

/-- An event in the log has been there, or the act has passed it in. -/
theorem mem_events_act {e : Event} (he : e ∈ (t.act a).ledger.events) :
    e ∈ t.ledger.events ∨ a.eventId? = some e.id := by
  cases logs_act t a with
  | nothing hevents =>
    rw [hevents] at he
    exact .inl he
  | recorded e' nth hid hins hledger =>
    rw [hledger, Ledger.events_record_of_inserted hins] at he
    rcases List.mem_append.mp he with hold | hnew
    · exact .inl hold
    · rw [List.mem_singleton.mp hnew]
      exact .inr hid
  | dropped nth s ha hs hledger =>
    rw [hledger] at he
    exact .inl (Scope.mem_events_drop_iff.mp he).1

/-- **Log and index stay in step whatever is done**, as long as every event that is passed in has an
id of its own. -/
theorem Indexed.play (h : t.Indexed) {acts : List Act}
    (hfresh : t.ledger.Unspent (acts.filterMap Act.eventId?)) : (t.play acts).Indexed := by
  induction acts generalizing t with
  | nil => exact h
  | cons a rest ih =>
    rw [play_cons]
    have hsplit : t.ledger.Unspent (a.eventId?.toList ++ rest.filterMap Act.eventId?) := by
      cases hid : a.eventId? <;> simpa [hid] using hfresh
    refine ih (h.act ?_) (hsplit.tail fun e he => mem_events_act he)
    rintro id hid e he rfl
    exact hsplit.unlogged e he (by simp [Option.mem_def.mp hid])

theorem unspent_idle {ids : List EventId} (h : ids.Nodup) : (idle .empty).ledger.Unspent ids := by
  refine ⟨h, ?_⟩
  intro e he
  cases he

/-- **The replay ids are exactly those of the log**, whatever scopes overlap and whatever is done
beside them: each is carried by one event in the log and by no other.  An event is a duplicate
exactly if an event with its replay id is in the log at that moment. -/
theorem replays_indexed {acts : List Act} (hfresh : (acts.filterMap Act.eventId?).Nodup) :
    let l := ((idle .empty).play acts).ledger
    (∀ r, r ∈ l.replays ↔ ∃ e ∈ l.events, e.replay = some r) ∧
      l.events.Pairwise (fun e e' => ∀ r, e.replay = some r → e'.replay ≠ some r) ∧
      ∀ e, (l.record e).1 = .duplicate ↔
        ∃ r, e.replay = some r ∧ ∃ e' ∈ l.events, e'.replay = some r := by
  intro l
  have hindex : l.Indexed := (indexed_idle.play (unspent_idle hfresh)).index
  exact ⟨hindex.carried, hindex.apart, hindex.duplicate_iff⟩

/-! ### A replay id that is recorded twice -/

/-- A search that acme has paid for under a replay id. -/
def search (id : Nat) (r : ReplayId) : Event :=
  ⟨.drawn id, "acme", defaultMeter, 1, "search", some r, none, .success, ⟨0⟩⟩

/-- The second scope finds the replay id taken, and free again when the first has been dropped; a
row that is put there with the id comes too late. -/
def retried : List Act :=
  [ .turn (.begin "acme"), .turn (.begin "acme"), .turn (.call 0 (.record (search 0 "late"))),
    .turn (.call 1 (.record (search 1 "late"))), .turn (.drop 0),
    .turn (.call 1 (.record (search 2 "late"))), .putEvent (search 3 "late"),
    .putEvent (search 4 "later"), .turn (.commit 1) ]

theorem replays_indexed_retried :
    let l := ((idle .empty).play retried).ledger
    (retried.filterMap Act.eventId?).Nodup ∧ l.events = [search 2 "late", search 4 "later"] ∧
      (∀ r, r ∈ l.replays ↔ ∃ e ∈ l.events, e.replay = some r) ∧
      l.events.Pairwise (fun e e' => ∀ r, e.replay = some r → e'.replay ≠ some r) ∧
      ∀ e, (l.record e).1 = .duplicate ↔
        ∃ r, e.replay = some r ∧ ∃ e' ∈ l.events, e'.replay = some r :=
  ⟨by decide, by decide, replays_indexed (by decide)⟩

end Abreast

end Turnstile
