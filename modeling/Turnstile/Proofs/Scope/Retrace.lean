/-
A dropped scope retraces its steps.

Taking back a write right after it has been made restores the ledger (`Undo.Restores`), so
with nothing else in between the notes of a scope, followed from the last one back, lead to
the ledger that the scope was opened on.  What is not noted is that counters were opened.
Those stay, and the other notes pass them by (`Undo.apply_ensureCounter`): it does not
matter whether a counter was opened before or after a write is taken back.
-/
import Turnstile.Proofs.Scope.Write
import Turnstile.Proofs.Traffic.Basic

namespace Turnstile

variable {l : Ledger}

/-! ### Writes taken back at once -/

/-- Taking the write back turns the second ledger into the first. -/
structure Undo.Restores (u : Undo) (l l' : Ledger) : Prop where
  back : u.apply l' = l
  /-- A counter that units have to be put back on is there. -/
  grounded : ∀ k amount, u = .released k amount → (l'.tally? k).isSome

namespace Ledger

theorem eraseEntitlement_putEntitlement {e : Entitlement} (h : l.entitlement? e.tenant = none) :
    (l.putEntitlement e).eraseEntitlement e.tenant = l := by
  have hsame : (l.entitlements.insert e.tenant e).erase e.tenant = l.entitlements := by
    refine Std.ExtTreeMap.ext_getElem? ?_
    intro other
    rw [Std.ExtTreeMap.getElem?_erase, Std.ExtTreeMap.getElem?_insert]
    by_cases hother : e.tenant = other
    · subst hother
      simp only [Std.ReflCmp.compare_self, if_true]
      exact h.symm
    · have hcompare : compare e.tenant other ≠ .eq :=
        fun heq => hother (Std.LawfulEqCmp.compare_eq_iff_eq.mp heq)
      rw [if_neg hcompare, if_neg hcompare]
  unfold eraseEntitlement putEntitlement
  dsimp only
  rw [hsame]

theorem putEntitlement_putEntitlement {e e' : Entitlement} (htenant : e.tenant = e'.tenant)
    (h : l.entitlement? e'.tenant = some e) : (l.putEntitlement e').putEntitlement e = l := by
  have hsame : (l.entitlements.insert e'.tenant e').insert e.tenant e = l.entitlements := by
    refine Std.ExtTreeMap.ext_getElem? ?_
    intro other
    rw [htenant, Std.ExtTreeMap.getElem?_insert, Std.ExtTreeMap.getElem?_insert]
    split
    · next heq =>
      rw [← Std.LawfulEqCmp.compare_eq_iff_eq.mp heq]
      exact h.symm
    · rfl
  unfold putEntitlement
  dsimp only
  rw [hsame]

theorem unrecord_record {e : Event} (hins : (l.record e).1 = .inserted)
    (hfresh : ∀ e' ∈ l.events, e'.id ≠ e.id) : (l.record e).2.unrecord e.id e.replay = l := by
  have hlog : (l.events ++ [e]).filter (fun e' => e'.id ≠ e.id) = l.events := by
    rw [List.filter_append, List.filter_eq_self.mpr fun e' he' => by simpa using hfresh e' he']
    simp
  unfold record at hins ⊢
  cases hr : e.replay with
  | none =>
    unfold unrecord
    dsimp only
    rw [hlog]
  | some r =>
    simp only [hr] at hins ⊢
    split at hins
    · cases hins
    · next hnew =>
      have hreplays : (l.replays.insert r).erase r = l.replays := by
        refine Std.ExtTreeSet.ext_mem fun r' => ?_
        rw [Std.ExtTreeSet.mem_erase, Std.ExtTreeSet.mem_insert]
        constructor
        · rintro ⟨hne, heq | hmem⟩
          · exact absurd heq hne
          · exact hmem
        · intro hmem
          refine ⟨?_, .inr hmem⟩
          intro heq
          rw [Std.LawfulEqCmp.compare_eq_iff_eq.mp heq] at hnew
          exact hnew (Std.ExtTreeSet.mem_iff_contains.mp hmem)
      rw [if_neg hnew]
      unfold unrecord
      dsimp only
      rw [hlog, hreplays]

end Ledger

/-! ### Counters that were opened meanwhile -/

namespace Ledger

theorem tally?_release (l : Ledger) (k : CounterKey) (q : Int) (other : CounterKey) :
    (l.release k q).2.tally? other =
      if k = other then
        (l.tally? k).map fun row => { row with used := row.used - releasable row.used q }
      else l.tally? other := by
  cases hrow : l.tally? k with
  | none =>
    rw [release_of_absent hrow]
    split
    · next hk =>
      subst hk
      exact hrow
    · rfl
  | some row =>
    rw [release_of_tally? hrow, tally?_setUsed, hrow]
    rfl

@[simp] theorem entitlements_release (l : Ledger) (k : CounterKey) (q : Int) :
    (l.release k q).2.entitlements = l.entitlements := by
  cases hrow : l.tally? k with
  | none => simp [release_of_absent hrow]
  | some row => simp [release_of_tally? hrow]

/-- Units can be taken off before or after a counter is opened. -/
theorem release_ensureCounter (l : Ledger) (tenant meter : String) (p : Period) (k : CounterKey)
    (q : Int) : ((l.ensureCounter tenant meter p).release k q).2 =
      (l.release k q).2.ensureCounter tenant meter p := by
  refine ext_rows ?_ ?_ (by simp) (by simp)
  · rw [entitlements_release]
    exact (entitlements_release l k q).symm
  · intro other
    rw [tally?_release, tally?_ensureCounter, tally?_ensureCounter, tally?_ensureCounter,
      tally?_release]
    by_cases hk : k = other
    · subst hk
      by_cases hopened : (⟨tenant, meter, p.start⟩ : CounterKey) = k
      · -- a counter that was not there has nothing to take off
        cases l.tally? k with
        | none =>
          have hfloor : releasable 0 q = 0 := by unfold releasable; omega
          simp [hopened, hfloor]
        | some row => simp [hopened]
      · simp [hopened]
    · simp [hk]

/-- So can units be put back on a counter that is there. -/
theorem setUsed_ensureCounter {k : CounterKey} {row : Tally} (hrow : l.tally? k = some row)
    (tenant meter : String) (p : Period) (n : Int) :
    (l.ensureCounter tenant meter p).setUsed k n =
      (l.setUsed k n).ensureCounter tenant meter p := by
  refine ext_rows ?_ ?_ (by simp) (by simp)
  · rw [entitlements_setUsed]
    exact (entitlements_setUsed l k n).symm
  · intro other
    rw [tally?_setUsed, tally?_ensureCounter, tally?_ensureCounter, tally?_ensureCounter,
      tally?_setUsed]
    by_cases hk : k = other
    · subst hk
      by_cases hopened : (⟨tenant, meter, p.start⟩ : CounterKey) = k
      · simp [hopened, hrow]
      · simp [hopened]
    · simp [hk]

end Ledger

/-- A write is taken back past counters that were opened after it. -/
theorem Undo.apply_ensureCounter {u : Undo}
    (hgrounded : ∀ k amount, u = .released k amount → (l.tally? k).isSome)
    (tenant meter : String) (p : Period) :
    u.apply (l.ensureCounter tenant meter p) = (u.apply l).ensureCounter tenant meter p := by
  cases u with
  | entitlement tenant' previous => cases previous <;> rfl
  | period tenant' previous applied =>
    have hstored : (l.ensureCounter tenant meter p).entitlement? tenant' =
        l.entitlement? tenant' := rfl
    unfold apply
    dsimp only
    rw [hstored]
    cases l.entitlement? tenant' with
    | none => rfl
    | some e =>
      dsimp only
      split
      · exact (Ledger.ensureCounter_setPeriod ..).symm
      · rfl
  | reserved k cost => exact Ledger.release_ensureCounter l tenant meter p k cost
  | released k amount =>
    obtain ⟨row, hrow⟩ := Option.isSome_iff_exists.mp (hgrounded k amount rfl)
    have hused := Ledger.used_ensureCounter l tenant meter p k
    obtain ⟨row', hrow'⟩ : ∃ row', (l.ensureCounter tenant meter p).tally? k = some row' := by
      rw [Ledger.tally?_ensureCounter, hrow]
      split <;> exact ⟨_, rfl⟩
    rw [Ledger.used_of_tally? hrow', Ledger.used_of_tally? hrow] at hused
    unfold apply
    simp only [hrow, hrow', hused]
    exact Ledger.setUsed_ensureCounter hrow tenant meter p _
  | event id replay => rfl

/-- Open counters of a tenant, one after another. -/
def Ledger.openAll (tenant : String) (openings : List (String × Period)) (l : Ledger) : Ledger :=
  openings.foldl (fun l o => l.ensureCounter tenant o.1 o.2) l

theorem Undo.Restores.ensureCounter {u : Undo} {l l' : Ledger} (h : u.Restores l l')
    (tenant meter : String) (p : Period) :
    u.Restores (l.ensureCounter tenant meter p) (l'.ensureCounter tenant meter p) := by
  refine ⟨?_, ?_⟩
  · rw [apply_ensureCounter h.grounded, h.back]
  · intro k amount hu
    rw [Ledger.tally?_ensureCounter]
    split
    · rfl
    · exact h.grounded k amount hu

/-- A note goes on restoring the ledger when counters have been opened on both sides. -/
theorem Undo.Restores.openAll {u : Undo} {l l' : Ledger} (h : u.Restores l l') (tenant : String)
    (openings : List (String × Period)) :
    u.apply (l'.openAll tenant openings) = l.openAll tenant openings := by
  induction openings generalizing l l' with
  | nil => exact h.back
  | cons o rest ih => exact ih (h.ensureCounter tenant o.1 o.2)

namespace Ledger

@[simp] theorem entitlements_openAll (tenant : String) (openings : List (String × Period)) :
    (l.openAll tenant openings).entitlements = l.entitlements := by
  induction openings generalizing l with
  | nil => rfl
  | cons o rest ih => exact ih (l := l.ensureCounter tenant o.1 o.2)

@[simp] theorem events_openAll (tenant : String) (openings : List (String × Period)) :
    (l.openAll tenant openings).events = l.events := by
  induction openings generalizing l with
  | nil => rfl
  | cons o rest ih => exact ih (l := l.ensureCounter tenant o.1 o.2)

@[simp] theorem replays_openAll (tenant : String) (openings : List (String × Period)) :
    (l.openAll tenant openings).replays = l.replays := by
  induction openings generalizing l with
  | nil => rfl
  | cons o rest ih => exact ih (l := l.ensureCounter tenant o.1 o.2)

/-- A row is as it was, or it was opened and ends where it was opened to end, with the units that
were on it. -/
theorem tally?_openAll (tenant : String) (openings : List (String × Period)) (k : CounterKey) :
    (l.openAll tenant openings).tally? k = l.tally? k ∨
      ∃ o ∈ openings, k = ⟨tenant, o.1, o.2.start⟩ ∧
        (l.openAll tenant openings).tally? k = some ⟨o.2.stop, l.used k⟩ := by
  induction openings generalizing l with
  | nil => exact .inl rfl
  | cons o rest ih =>
    rcases ih (l := l.ensureCounter tenant o.1 o.2) with hsame | ⟨o', ho', hk, hrow⟩
    · by_cases hk : k = ⟨tenant, o.1, o.2.start⟩
      · subst hk
        exact .inr ⟨o, by simp, rfl, hsame.trans (tally?_ensureCounter_self ..)⟩
      · rw [tally?_ensureCounter, if_neg fun heq => hk heq.symm] at hsame
        exact .inl hsame
    · rw [used_ensureCounter] at hrow
      exact .inr ⟨o', by simp [ho'], hk, hrow⟩

end Ledger

/-! ### One call -/

namespace Scope

variable {s s' : Scope} {l' : Ledger} {c : Call}

/-- The price of a reservation is not negative. -/
def Call.Priced : Call → Prop
  | .reserve _ cost _ => 0 ≤ cost
  | _ => True

instance : DecidablePred Call.Priced
  | .reserve _ cost _ => inferInstanceAs (Decidable (0 ≤ cost))
  | .getEntitlement _ | .upsertEntitlement _ | .updatePeriod _ _ | .ensureCounter _ _ _
  | .release _ _ | .record _ => .isTrue trivial

/-- The id of the event that a call records. -/
def Call.eventId? : Call → Option EventId
  | .record e => some e.id
  | _ => none

/-- A call writes nothing, opens a counter, or notes how to restore the ledger. -/
theorem Write.restores (h : s.Write l c s' l') (hkeyed : l.Keyed) (hunits : ∀ k, 0 ≤ l.used k)
    (hpriced : c.Priced) (hfresh : ∀ id ∈ c.eventId?, ∀ e ∈ l.events, e.id ≠ id) :
    (s' = s ∧ l' = l) ∨
      (∃ meter p, c = .ensureCounter s.tenant meter p ∧ s' = s ∧
        l' = l.ensureCounter s.tenant meter p) ∨
      ∃ u : Undo, s' = s.note u ∧ u.Restores l l' := by
  cases h with
  | nothing => exact .inl ⟨rfl, rfl⟩
  | opened meter p => exact .inr (.inl ⟨meter, p, rfl, rfl, rfl⟩)
  | @upserted e htenant =>
    refine .inr (.inr ⟨_, rfl, ?_, fun _ _ hu => nomatch hu⟩)
    cases hstored : l.entitlement? e.tenant with
    | none => exact Ledger.eraseEntitlement_putEntitlement hstored
    | some e₀ => exact Ledger.putEntitlement_putEntitlement (hkeyed _ e₀ hstored) hstored
  | @moved e hstored p =>
    exact .inr (.inr ⟨_, rfl, Ledger.drop_moved hstored p, fun _ _ hu => nomatch hu⟩)
  | @reserved k row cost limit htenant hrow hfits =>
    refine .inr (.inr ⟨_, rfl, ?_, fun _ _ hu => nomatch hu⟩)
    have hrow' : (l.setUsed k (row.used + cost)).tally? k =
        some { row with used := row.used + cost } := by
      simp [hrow]
    have hused := hunits k
    rw [Ledger.used_of_tally? hrow] at hused
    -- the units are still there, so giving them back does not reach the floor
    have hwhole : Ledger.releasable (row.used + cost) cost = cost :=
      Ledger.releasable_eq hpriced (by omega)
    show ((l.setUsed k (row.used + cost)).release k cost).2 = l
    rw [Ledger.release_of_tally? hrow', hwhole, Ledger.setUsed_setUsed]
    have hback : row.used + cost - cost = row.used := by omega
    rw [hback]
    exact Ledger.setUsed_same hrow
  | @released k row q htenant hrow hpos =>
    have hrow' : (l.setUsed k (row.used - Ledger.releasable row.used q)).tally? k =
        some { row with used := row.used - Ledger.releasable row.used q } := by
      simp [hrow]
    refine .inr (.inr ⟨_, rfl, ?_, ?_⟩)
    · unfold Undo.apply
      simp only [hrow']
      have hback : row.used - Ledger.releasable row.used q + Ledger.releasable row.used q =
          row.used := by omega
      rw [Ledger.setUsed_setUsed, hback]
      exact Ledger.setUsed_same hrow
    · intro k' amount hu
      obtain ⟨rfl, -⟩ := Undo.released.inj hu
      rw [hrow']
      rfl
  | @recorded e htenant hins =>
    exact .inr (.inr ⟨_, rfl, Ledger.unrecord_record hins (hfresh e.id rfl),
      fun _ _ hu => nomatch hu⟩)

/-- Entitlements stay under their own names. -/
theorem Write.keyed (h : s.Write l c s' l') (hkeyed : l.Keyed) : l'.Keyed := by
  cases h with
  | nothing => exact hkeyed
  | opened => exact hkeyed
  | upserted => exact hkeyed.putEntitlement _
  | moved => exact hkeyed.of_sameTerms fun other => Ledger.terms?_setPeriod l _ other _
  | reserved => exact hkeyed.of_sameTerms fun other => Ledger.terms?_setUsed l _ _ other
  | released => exact hkeyed.of_sameTerms fun other => Ledger.terms?_setUsed l _ _ other
  | recorded => exact hkeyed.of_sameTerms fun other => by simp [Ledger.terms?]

/-- Counts stay at nothing or above. -/
theorem Write.units (h : s.Write l c s' l') (hunits : ∀ k, 0 ≤ l.used k) (hpriced : c.Priced)
    (k : CounterKey) : 0 ≤ l'.used k := by
  have hk := hunits k
  cases h with
  | nothing => exact hk
  | opened => simpa using hk
  | upserted => exact hk
  | moved => simpa using hk
  | @reserved k' row cost limit htenant hrow hfits =>
    have hk' := hunits k'
    have hcost : 0 ≤ cost := hpriced
    rw [Ledger.used_of_tally? hrow] at hk'
    rw [Ledger.used_setUsed hrow]
    split <;> omega
  | @released k' row q htenant hrow hpos =>
    have hk' := hunits k'
    rw [Ledger.used_of_tally? hrow] at hk'
    have hfloor := Ledger.releasable_le_used hk' q
    rw [Ledger.used_setUsed hrow]
    split <;> omega
  | recorded => simpa using hk

/-- An event in the log has been there, or the call has recorded it. -/
theorem Write.mem_events (h : s.Write l c s' l') {e : Event} (he : e ∈ l'.events) :
    e ∈ l.events ∨ c.eventId? = some e.id := by
  cases h with
  | nothing => exact .inl he
  | opened => exact .inl he
  | upserted => exact .inl he
  | moved => exact .inl (by simpa using he)
  | reserved => exact .inl (by simpa using he)
  | released => exact .inl (by simpa using he)
  | recorded _ hins =>
    rw [Ledger.events_record_of_inserted hins] at he
    rcases List.mem_append.mp he with hold | hnew
    · exact .inl hold
    · rw [List.mem_singleton.mp hnew]
      exact .inr rfl

@[simp] theorem Write.tenant (h : s.Write l c s' l') : s'.tenant = s.tenant := by
  cases h <;> rfl

/-! ### Many calls -/

/-- Calls, one after another, whatever they answer. -/
def performAll : List Call → Scope → Ledger → Scope × Ledger
  | [], s, l => (s, l)
  | c :: rest, s, l => performAll rest (perform c s l).2.1 (perform c s l).2.2

/-- The events that calls record have ids of their own. -/
structure Fresh (calls : List Call) (l : Ledger) : Prop where
  distinct : (calls.filterMap Call.eventId?).Nodup
  unlogged : ∀ id ∈ calls.filterMap Call.eventId?, ∀ e ∈ l.events, e.id ≠ id

/-- The ids of the later calls are not in the log after the first. -/
theorem Fresh.tail {rest : List Call} (h : Fresh (c :: rest) l) (hwrite : s.Write l c s' l') :
    Fresh rest l' := by
  obtain ⟨hdistinct, hunlogged⟩ := h
  cases hid : c.eventId? with
  | none =>
    simp only [List.filterMap_cons, hid] at hdistinct hunlogged
    refine ⟨hdistinct, fun id hmem e he => ?_⟩
    rcases hwrite.mem_events he with hold | hnew
    · exact hunlogged id hmem e hold
    · rw [hid] at hnew
      cases hnew
  | some first =>
    simp only [List.filterMap_cons, hid, List.nodup_cons] at hdistinct hunlogged
    refine ⟨hdistinct.2, fun id hmem e he => ?_⟩
    rcases hwrite.mem_events he with hold | hnew
    · exact hunlogged id (by simp [hmem]) e hold
    · rw [hid] at hnew
      rintro rfl
      rw [Option.some.inj hnew] at hdistinct
      exact hdistinct.1 hmem

/-- Dropping the scope takes back what later calls have written; the counters that they have
opened stay. -/
theorem drop_performAll {calls : List Call} (hkeyed : l.Keyed) (hunits : ∀ k, 0 ≤ l.used k)
    (hpriced : ∀ c ∈ calls, c.Priced) (hfresh : Fresh calls l) :
    ∃ openings : List (String × Period),
      (∀ o ∈ openings, .ensureCounter s.tenant o.1 o.2 ∈ calls) ∧
        (performAll calls s l).1.drop (performAll calls s l).2 =
          s.drop (l.openAll s.tenant openings) := by
  induction calls generalizing s l with
  | nil => exact ⟨[], by simp, rfl⟩
  | cons c rest ih =>
    have hwrite := write_perform c s l
    have hfirst : c.Priced := hpriced c (by simp)
    obtain ⟨openings, hopenings, hrest⟩ := ih (s := (perform c s l).2.1)
      (hwrite.keyed hkeyed) (hwrite.units hunits hfirst) (fun c' hc' => hpriced c' (by simp [hc']))
      (hfresh.tail hwrite)
    rw [hwrite.tenant] at hopenings hrest
    show ∃ openings : List (String × Period), _ ∧
      (performAll rest (perform c s l).2.1 (perform c s l).2.2).1.drop
        (performAll rest (perform c s l).2.1 (perform c s l).2.2).2 = _
    rw [hrest]
    have hunlogged : ∀ id ∈ c.eventId?, ∀ e ∈ l.events, e.id ≠ id := by
      intro id hid
      refine hfresh.unlogged id (List.mem_filterMap.mpr ⟨c, by simp, ?_⟩)
      exact hid
    rcases hwrite.restores hkeyed hunits hfirst hunlogged with
      ⟨hs, hl⟩ | ⟨meter, p, hc, hs, hl⟩ | ⟨u, hs, hrestores⟩
    · rw [hs, hl]
      exact ⟨openings, fun o ho => by simp [hopenings o ho], rfl⟩
    · rw [hs, hl]
      refine ⟨(meter, p) :: openings, ?_, rfl⟩
      intro o ho
      rcases List.mem_cons.mp ho with rfl | ho
      · simp [hc]
      · simp [hopenings o ho]
    · rw [hs, drop_note, hrestores.openAll]
      exact ⟨openings, fun o ho => by simp [hopenings o ho], rfl⟩

/-- **A scope that is dropped leaves no trace but counters that were opened through it**: the
entitlements, the log and the replay ids are what they were when it was opened, and so is every
row, except that one the scope has opened has the end it was opened with.  Units are what they were,
none on a row that is new.  Dropping a scope that has committed changes nothing at all. -/
theorem dropped_without_trace {tenant : String} {calls : List Call} (hkeyed : l.Keyed)
    (hunits : ∀ k, 0 ≤ l.used k) (hpriced : ∀ c ∈ calls, c.Priced) (hfresh : Fresh calls l) :
    let worked := performAll calls ⟨tenant, []⟩ l
    let dropped := worked.1.drop worked.2
    dropped.entitlements = l.entitlements ∧ dropped.events = l.events ∧
      dropped.replays = l.replays ∧
      (∀ k, dropped.tally? k = l.tally? k ∨
        ∃ meter p, .ensureCounter tenant meter p ∈ calls ∧ k = ⟨tenant, meter, p.start⟩ ∧
          dropped.tally? k = some ⟨p.stop, l.used k⟩) ∧
      worked.1.commit.drop worked.2 = worked.2 := by
  intro worked dropped
  obtain ⟨openings, hopenings, hdrop⟩ :=
    drop_performAll (s := ⟨tenant, []⟩) hkeyed hunits hpriced hfresh
  have hdropped : dropped = l.openAll tenant openings := hdrop
  rw [hdropped]
  refine ⟨by simp, by simp, by simp, ?_, rfl⟩
  intro k
  rcases Ledger.tally?_openAll tenant openings k with hsame | ⟨o, ho, hk, hrow⟩
  · exact .inl hsame
  · exact .inr ⟨o.1, o.2, hopenings o ho, hk, hrow⟩

/-! ### A scope with one note of each kind -/

/-- The trial with two units on its counter. -/
def trialLedger : Ledger :=
  (Traffic.lapsedWorld.ledger.ensureCounter "acme" defaultMeter Traffic.lapsedTrial.period).setUsed
    ⟨"acme", defaultMeter, Traffic.lapsedTrial.period.start⟩ 2

/-- Work for the trial, the last call of which is for somebody else. -/
def trialWork : List Call :=
  [ .upsertEntitlement { Traffic.lapsedTrial with plan := "max" },
    .updatePeriod "acme" ⟨⟨30 * Span.day⟩, ⟨60 * Span.day⟩⟩,
    .ensureCounter "acme" defaultMeter ⟨⟨30 * Span.day⟩, ⟨60 * Span.day⟩⟩,
    .reserve ⟨"acme", defaultMeter, ⟨30 * Span.day⟩⟩ 1 3,
    .ensureCounter "acme" defaultMeter ⟨⟨0⟩, ⟨45 * Span.day⟩⟩,
    .release ⟨"acme", defaultMeter, ⟨0⟩⟩ 5,
    .record ⟨.drawn 0, "acme", defaultMeter, 1, "search", some "late", none, .failed, ⟨0⟩⟩,
    .reserve ⟨"other", defaultMeter, ⟨0⟩⟩ 1 3 ]

theorem keyed_trialLedger : trialLedger.Keyed := by
  have hput : Traffic.lapsedWorld.ledger.Keyed :=
    Ledger.keyed_empty.putEntitlement Traffic.lapsedTrial
  refine hput.of_sameTerms fun tenant => ?_
  simp [trialLedger, Ledger.terms?]

theorem units_trialLedger (k : CounterKey) : 0 ≤ trialLedger.used k := by
  unfold trialLedger
  rw [Ledger.used_setUsed (Ledger.tally?_ensureCounter_self ..)]
  split
  · decide
  · rw [Ledger.used_ensureCounter]
    simp [Traffic.lapsedWorld, Ledger.used, Ledger.tally?, Ledger.putEntitlement, Ledger.empty]

theorem fresh_trialWork : Fresh trialWork trialLedger := by
  refine ⟨by decide, fun id _ e he => ?_⟩
  have hempty : trialLedger.events = [] := by
    simp [trialLedger, Traffic.lapsedWorld, Ledger.putEntitlement, Ledger.empty]
  rw [hempty] at he
  cases he

/-- Five writes are taken back; the two openings stay. -/
theorem dropped_without_trace_trial :
    let worked := performAll trialWork ⟨"acme", []⟩ trialLedger
    let dropped := worked.1.drop worked.2
    worked.1.undo.length = 5 ∧ (∀ c ∈ trialWork, c.Priced) ∧
      dropped.entitlements = trialLedger.entitlements ∧ dropped.events = trialLedger.events ∧
      dropped.replays = trialLedger.replays ∧
      (∀ k, dropped.tally? k = trialLedger.tally? k ∨
        ∃ meter p, .ensureCounter "acme" meter p ∈ trialWork ∧ k = ⟨"acme", meter, p.start⟩ ∧
          dropped.tally? k = some ⟨p.stop, trialLedger.used k⟩) ∧
      worked.1.commit.drop worked.2 = worked.2 :=
  ⟨by decide, by decide, dropped_without_trace keyed_trialLedger units_trialLedger (by decide)
    fresh_trialWork⟩

end Scope

end Turnstile
