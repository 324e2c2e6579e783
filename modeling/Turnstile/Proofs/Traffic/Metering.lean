/-
Every call is metered once.

With a replay id of its own for each call, calls do not touch each other's logs, and every
counter covers the units that deliveries still owe, so that no release ever meets the
floor.  When nothing is on its way any more, a counter holds the units of the calls that
have not reported yet and of those that succeeded.
-/
import Mathlib.Algebra.Order.BigOperators.Group.List
import Mathlib.Algebra.Order.Group.Int
import Turnstile.Proofs.Traffic.Repayment

namespace Turnstile

namespace ToolCall

variable {r : ReplayId} {l : Ledger} {c : ToolCall}

/-- One delivery of the call was answered with `inserted` and all others with `duplicate`, and the
log holds one event under the replay id `id`: with the status that this delivery reported and the
quantity of the reservation `r`. -/
def RecordedOnce (c : ToolCall) (id : ReplayId) (r : Reservation)
    (l : Ledger) : Prop :=
  ∃ (n : Nat) (d : Delivery), c.deliveries[n]? = some d ∧ d.state = .finished (.ok .inserted) ∧
    (∀ m (d' : Delivery), m ≠ n → c.deliveries[m]? = some d' →
      d'.state = .finished (.ok .duplicate)) ∧
    ∃ e, l.eventsUnder id = [e] ∧ e.status = d.report.status ∧ e.quantity = r.quantity

/-! ### What is kept of a call -/

/-- What is known of a call that reports under the replay id `r`, with `start` the ledger that the
traffic began with. -/
structure Metered (start : Ledger) (r : ReplayId) (l : Ledger) (c : ToolCall) : Prop where
  keyed : ∀ d ∈ c.deliveries, d.report.replay = r
  logged : c.Logged r l
  repaid : ∀ k, 0 ≤ start.used k → c.Repaid k

variable {start l' : Ledger}

theorem metered_new (tenant tool : String) (h : l.Unused r) :
    (ToolCall.new tenant tool).Metered start r l :=
  ⟨by simp [ToolCall.new], .unused h (by simp [ToolCall.new]), by simp [Repaid, ToolCall.new]⟩

theorem Metered.of_sameLog (h : c.Metered start r l) (hlog : l.SameLog r l') :
    c.Metered start r l' :=
  ⟨h.keyed, h.logged.of_sameLog hlog, h.repaid⟩

theorem Metered.admission (h : c.Metered start r l) (a : Admission) :
    ({ c with admission := a } : ToolCall).Metered start r l :=
  ⟨h.keyed, h.logged.admission a, h.repaid⟩

theorem Metered.deliver (h : c.Metered start r l) (tool : String) (audit : Option String)
    (status : Execution) (w : World) : (c.deliver tool r audit status w).1.Metered start r l := by
  unfold ToolCall.deliver
  split
  · next res hres =>
    refine ⟨?_, ?_, ?_⟩
    · intro d hd
      rcases List.mem_append.mp hd with hd | hd
      · exact h.keyed d hd
      · rw [List.mem_singleton.mp hd]
        rfl
    · exact h.logged.append rfl
    · intro k hk d hd
      rcases List.mem_append.mp hd with hd | hd
      · exact h.repaid k hk d hd
      · rw [List.mem_singleton.mp hd]
        intro _
        rfl
  · exact h

/-- A step of one of its deliveries keeps a call metered, if the units that are owed are there. -/
theorem Metered.settle (h : c.Metered start r l) (hr : r.isEmpty = false) {m : Nat}
    {d d' : Delivery} (hd : c.deliveries[m]? = some d) (hpos : 0 < d.report.reservation.quantity)
    (hadv : d.Advance l d' l')
    (hroom : d.stage = .owing → 0 ≤ start.used d.report.counter →
      d.report.reservation.quantity ≤ l.used d.report.counter) :
    (c.setDelivery m d').Metered start r l' := by
  have hmem : d ∈ c.deliveries := List.mem_of_getElem? hd
  have hreport : d'.report = d.report := hadv.report
  refine ⟨?_, h.logged.settle hr hd (h.keyed d hmem) hadv, ?_⟩
  · intro d'' hd''
    rcases mem_setDelivery hd'' with rfl | hold
    · rw [hreport]
      exact h.keyed d hmem
    · exact h.keyed d'' hold
  · intro k hk d'' hd'' hcounter
    rcases mem_setDelivery hd'' with rfl | hold
    · rw [hreport] at hcounter
      subst hcounter
      exact hadv.returned_eq hpos (h.repaid _ hk d hmem rfl) (fun howing => hroom howing hk)
    · exact h.repaid k hk d'' hold hcounter

end ToolCall

/-! ### What is kept of the traffic -/

/-- Replay ids for calls: each call has one of its own, and none has been used yet. -/
structure Keying (l : Ledger) (rid : Nat → ReplayId) : Prop where
  named : ∀ i, (rid i).isEmpty = false
  distinct : ∀ i j, rid i = rid j → i = j
  unused : ∀ i, l.Unused (rid i)

/-- Does the move send a report, if it sends one, under the replay id of its call? -/
def Move.Keyed (rid : Nat → ReplayId) : Move → Prop
  | deliver i _ replay _ _ => replay = rid i
  | _ => True

instance (rid : Nat → ReplayId) : DecidablePred (Move.Keyed rid)
  | .deliver i _ replay _ _ => inferInstanceAs (Decidable (replay = rid i))
  | .clock _ | .upsert _ | .call _ _ | .admitting _ | .settling _ _ | .sync _ _ | .syncing _
  | .sweep | .sweeping _ => .isTrue trivial

namespace Traffic

variable {svc : Service} {sw : Sweeper} {start : Ledger} {rid : Nat → ReplayId}

/-- What is known of traffic in which every call reports under a replay id of its own. -/
structure Metered (svc : Service) (start : Ledger) (rid : Nat → ReplayId) (t : Traffic) :
    Prop where
  sound : t.Sound fun _ _ => True
  balance : ∀ k, t.world.ledger.used k = start.used k + t.net svc k
  calls : ∀ i (c : ToolCall), t.calls[i]? = some c → c.Metered start (rid i) t.world.ledger
  later : ∀ i, t.calls.length ≤ i → t.world.ledger.Unused (rid i)

theorem metered_quiet {w : World} (h : Keying w.ledger rid) :
    (quiet w).Metered svc w.ledger rid where
  sound := sound_quiet fun _ _ _ => trivial
  balance _ := (Int.add_zero _).symm
  calls i c hc := by simp [quiet] at hc
  later i _ := h.unused i

/-- The units that a delivery owes are on their counter. -/
theorem Metered.room {t : Traffic} (h : t.Metered svc start rid) {i : Nat} {c : ToolCall}
    (hc : t.calls[i]? = some c) {d : Delivery} (hd : d ∈ c.deliveries) (howing : d.stage = .owing)
    (hstart : 0 ≤ start.used d.report.counter) :
    d.report.reservation.quantity ≤ t.world.ledger.used d.report.counter := by
  have hmem : c ∈ t.calls := List.mem_of_getElem? hc
  have hown : d.report.reservation.quantity ≤ c.net svc d.report.counter :=
    ToolCall.le_net_of_owing (h.sound.calls c hmem) (h.calls i c hc).logged hd howing
      ((h.calls i c hc).repaid _ hstart)
  have hall : c.net svc d.report.counter ≤ t.net svc d.report.counter := by
    refine List.single_le_sum ?_ _ (List.mem_map_of_mem hmem)
    intro x hx
    obtain ⟨c', hc', rfl⟩ := List.mem_map.mp hx
    obtain ⟨j, hj⟩ := List.getElem?_of_mem hc'
    exact ToolCall.net_nonneg (h.sound.calls c' hc') (h.calls j c' hj).logged
      ((h.calls j c' hj).repaid _ hstart)
  have hbalance := h.balance d.report.counter
  omega

/-- A step of a delivery keeps its call metered. -/
theorem Metered.settle_own (hrid : Keying start rid) {t : Traffic}
    (h : t.Metered svc start rid) {i : Nat} {c : ToolCall} (hc : t.calls[i]? = some c)
    (nth : Nat) :
    (c.settle nth t.world).1.Metered start (rid i) (c.settle nth t.world).2.ledger := by
  have hsound := h.sound.calls c (List.mem_of_getElem? hc)
  cases hd : c.deliveries[nth]? with
  | none =>
    rw [ToolCall.settle, stepAt_of_none hd]
    exact h.calls i c hc
  | some d =>
    rw [ToolCall.settle, stepAt_of_getElem? hd]
    have hmem := List.mem_of_getElem? hd
    exact (h.calls i c hc).settle (hrid.named i) hd (hsound.deliveries d hmem).2.1
      (Delivery.advance_step (hsound.deliveries d hmem) t.world)
      (fun howing hstart => h.room hc hmem howing hstart)

/-- A step of a delivery leaves the replay ids of other calls alone. -/
theorem Metered.settle_others (hrid : Keying start rid) {t : Traffic}
    (h : t.Metered svc start rid) {i : Nat} {c : ToolCall} (hc : t.calls[i]? = some c)
    (nth : Nat) {j : Nat} (hj : j ≠ i) :
    t.world.ledger.SameLog (rid j) (c.settle nth t.world).2.ledger := by
  have hsound := h.sound.calls c (List.mem_of_getElem? hc)
  cases hd : c.deliveries[nth]? with
  | none =>
    rw [ToolCall.settle, stepAt_of_none hd]
    exact .refl _ _
  | some d =>
    rw [ToolCall.settle, stepAt_of_getElem? hd]
    have hmem := List.mem_of_getElem? hd
    have hkey : d.report.replay = rid i := (h.calls i c hc).keyed d hmem
    refine (Delivery.advance_step (hsound.deliveries d hmem) t.world).sameLog ?_ ?_
    · rw [hkey]
      exact hrid.named i
    · rw [hkey]
      intro heq
      exact hj (hrid.distinct i j heq).symm

/-- The call at a place makes a step that keeps it metered and leaves the ids of the others
alone. -/
theorem Metered.calls_stepAt {f : ToolCall → World → ToolCall × World} {t : Traffic}
    (h : t.Metered svc start rid) {i : Nat}
    (hown : ∀ c, t.calls[i]? = some c →
      (f c t.world).1.Metered start (rid i) (f c t.world).2.ledger)
    (hothers : ∀ c, t.calls[i]? = some c → ∀ j, j ≠ i →
      t.world.ledger.SameLog (rid j) (f c t.world).2.ledger) :
    let t' := t.withCalls (stepAt f i t.calls t.world)
    (∀ j (c : ToolCall), t'.calls[j]? = some c → c.Metered start (rid j) t'.world.ledger) ∧
      ∀ j, t'.calls.length ≤ j → t'.world.ledger.Unused (rid j) := by
  intro t'
  cases hi : t.calls[i]? with
  | none =>
    have ht' : t' = t := by
      show t.withCalls (stepAt f i t.calls t.world) = t
      rw [stepAt_of_none hi]
      rfl
    rw [ht']
    exact ⟨h.calls, h.later⟩
  | some c =>
    have ht' : t' = t.withCalls (t.calls.set i (f c t.world).1, (f c t.world).2) := by
      show t.withCalls (stepAt f i t.calls t.world) = _
      rw [stepAt_of_getElem? hi]
    have hlt : i < t.calls.length := (List.getElem?_eq_some_iff.mp hi).1
    rw [ht']
    refine ⟨?_, ?_⟩
    · intro j c' hc'
      by_cases hj : j = i
      · subst hj
        have heq : c' = (f c t.world).1 := by simpa [withCalls, hlt] using hc'.symm
        rw [heq]
        exact hown c hi
      · have hold : t.calls[j]? = some c' := by
          simpa [withCalls, List.getElem?_set_ne (Ne.symm hj)] using hc'
        exact (h.calls j c' hold).of_sameLog (hothers c hi j hj)
    · intro j hj
      have hj : t.calls.length ≤ j := by simpa [withCalls] using hj
      exact (hothers c hi j (by omega)).unused (h.later j hj)

/-- A move of the clock or of a call of a tool keeps the traffic metered. -/
theorem metered_step (hrid : Keying start rid) {t : Traffic} (h : t.Metered svc start rid)
    {m : Move} (htools : m.OfTools) (hkeyed : m.Keyed rid) :
    (t.step svc sw m).Metered svc start rid := by
  obtain ⟨hsound, gain, entry, heffect, hgain⟩ := effect_step svc sw h.sound htools
  have hbalance : ∀ k, (t.step svc sw m).world.ledger.used k =
      start.used k + (t.step svc sw m).net svc k := by
    intro k
    rw [heffect.used, hgain, h.balance]
    omega
  suffices hcalls : (∀ i (c : ToolCall), (t.step svc sw m).calls[i]? = some c →
      c.Metered start (rid i) (t.step svc sw m).world.ledger) ∧
      ∀ i, (t.step svc sw m).calls.length ≤ i →
        (t.step svc sw m).world.ledger.Unused (rid i) from
    ⟨hsound, hbalance, hcalls.1, hcalls.2⟩
  cases m with
  | clock now => exact ⟨h.calls, h.later⟩
  | call tenant tool =>
    refine ⟨?_, ?_⟩
    · intro i c hc
      by_cases hi : i < t.calls.length
      · exact h.calls i c ((List.getElem?_append_left hi).symm.trans hc)
      · have hunused := h.later i (by omega)
        have hnew := List.mem_of_getElem? ((List.getElem?_append_right (by omega)).symm.trans hc)
        rw [List.mem_singleton.mp hnew]
        exact ToolCall.metered_new tenant tool hunused
    · intro i hi
      have hi : t.calls.length + 1 ≤ i := by simpa [step] using hi
      exact h.later i (by omega)
  | admitting i =>
    refine h.calls_stepAt ?_ ?_
    · intro c hc
      have hsound := h.sound.calls c (List.mem_of_getElem? hc)
      exact ((h.calls i c hc).of_sameLog (ToolCall.log_advance hsound t.world (rid i))).admission _
    · intro c hc j _
      exact ToolCall.log_advance (h.sound.calls c (List.mem_of_getElem? hc)) t.world (rid j)
  | deliver i tool replay audit status =>
    obtain rfl : replay = rid i := hkeyed
    have hsame (c : ToolCall) : (c.deliver tool (rid i) audit status t.world).2 = t.world := by
      unfold ToolCall.deliver
      split <;> rfl
    refine h.calls_stepAt ?_ ?_
    · intro c hc
      rw [hsame]
      exact (h.calls i c hc).deliver tool audit status t.world
    · intro c _ j _
      rw [hsame]
      exact .refl _ _
  | settling i nth =>
    refine h.calls_stepAt ?_ ?_
    · intro c hc
      exact h.settle_own hrid hc nth
    · intro c hc j hj
      exact h.settle_others hrid hc nth hj
  | upsert | sync | syncing | sweep | sweeping => exact htools.elim

/-- Units on a counter of calls that have been admitted and have not reported. -/
def outstanding (t : Traffic) (k : CounterKey) : Int := (t.calls.map (·.outstanding k)).sum

/-- Units on a counter of calls whose recorded report says that they succeeded. -/
def charged (t : Traffic) (k : CounterKey) : Int := (t.calls.map (·.charged k)).sum

/-- When nothing is on its way, the units of the calls are outstanding or charged. -/
theorem Metered.net_of_atRest {t : Traffic} (h : t.Metered svc start rid) (hrest : t.AtRest)
    {k : CounterKey} (hstart : 0 ≤ start.used k) :
    t.net svc k = t.outstanding k + t.charged k := by
  have hcall : ∀ c ∈ t.calls, c.net svc k = c.outstanding k + c.charged k := by
    intro c hc
    obtain ⟨i, hi⟩ := List.getElem?_of_mem hc
    exact ToolCall.net_of_ended (h.sound.calls c hc) (h.calls i c hi).logged
      ((h.calls i c hi).repaid k hstart) (hrest.admissions c hc) (hrest.deliveries c hc)
  unfold net outstanding charged
  rw [List.map_congr_left hcall, List.sum_map_add]

/-- Once all deliveries of a call have ended, it has been recorded once. -/
theorem Metered.recorded_once {t : Traffic} (h : t.Metered svc start rid) {i : Nat} {c : ToolCall}
    (hc : t.calls[i]? = some c) {r : Reservation} (hr : c.reservation? = some r)
    (hsome : c.deliveries ≠ []) (hended : ∀ d ∈ c.deliveries, d.state.result?.isSome) :
    c.RecordedOnce (rid i) r t.world.ledger := by
  have hsound := h.sound.calls c (List.mem_of_getElem? hc)
  cases (h.calls i c hc).logged with
  | unused hunused hwaiting =>
    obtain ⟨d, hd⟩ := List.exists_mem_of_ne_nil _ hsome
    rcases Delivery.stage_of_ended (hsound.deliveries d hd) (hended d hd) with hs | hs <;>
      rw [hwaiting d hd] at hs <;> cases hs
  | recorded n d hrec =>
    have hmem : d ∈ c.deliveries := List.mem_of_getElem? hrec.place
    obtain ⟨id, now, hevent⟩ := hrec.event
    have hreport : d.report.reservation = r :=
      Option.some.inj ((hsound.reports d hmem).symm.trans hr)
    refine ⟨n, d, hrec.place, ?_, ?_, _, hevent, rfl, ?_⟩
    · rcases Delivery.stage_of_ended (hsound.deliveries d hmem) (hended d hmem) with hs | hs
      · exact Delivery.state_of_settled (hsound.deliveries d hmem) (hended d hmem) hs
      · rcases hrec.recorded with hr | hr <;> rw [hs] at hr <;> cases hr
    · intro m d' hm hd'
      have hmem' := List.mem_of_getElem? hd'
      have hsound' := hsound.deliveries d' hmem'
      rcases Delivery.stage_of_ended hsound' (hended d' hmem') with hs | hs
      · exact absurd (Or.inr hs) (hrec.not_recorded hm hd')
      · exact Delivery.state_of_refused hsound' (hended d' hmem') hs
    · rw [Report.quantity_event, hreport]

/-- **Each call that reports under a replay id of its own is metered once.**  Once its deliveries
have ended, exactly one was answered with `inserted`, all others with `duplicate`, and the log holds
one event under its id, with what that delivery said and the quantity of the reservation.  When
nothing is on its way, a counter that started with no less than nothing holds what it started with,
the units of the calls that have not reported, and the units of those that succeeded.  No release
meets the floor: whenever units are to be given back, all of them are there. -/
theorem metered_once {w : World} (hrid : Keying w.ledger rid) {moves : List Move}
    (htools : ∀ m ∈ moves, m.OfTools) (hkeyed : ∀ m ∈ moves, m.Keyed rid) :
    let t := (quiet w).run svc sw moves
    (∀ i (c : ToolCall) r, t.calls[i]? = some c → c.reservation? = some r → c.deliveries ≠ [] →
      (∀ d ∈ c.deliveries, d.state.result?.isSome) → c.RecordedOnce (rid i) r t.world.ledger) ∧
    (t.AtRest → ∀ k, 0 ≤ w.ledger.used k →
      t.world.ledger.used k = w.ledger.used k + t.outstanding k + t.charged k) ∧
    ∀ c ∈ t.calls, ∀ d ∈ c.deliveries, ∀ scope report, d.state = .releasing scope report →
      0 ≤ w.ledger.used report.counter →
      (t.world.ledger.release report.counter report.reservation.quantity).1 =
        report.reservation.quantity := by
  intro t
  have hmetered : t.Metered svc w.ledger rid :=
    run_induction (metered_quiet hrid)
      (fun m hm _ ht => metered_step hrid ht (htools m hm) (hkeyed m hm))
  refine ⟨?_, ?_, ?_⟩
  · intro i c r hc hr hsome hended
    exact hmetered.recorded_once hc hr hsome hended
  · intro hrest k hstart
    rw [hmetered.balance, hmetered.net_of_atRest hrest hstart, Int.add_assoc]
  · intro c hc d hd scope report hstate hstart
    have hsound := (hmetered.sound.calls c hc).deliveries d hd
    have howing : d.stage = .owing := by
      unfold Delivery.stage
      rw [hstate]
    obtain ⟨-, hpos, hreport⟩ := hsound
    rw [hstate] at hreport
    obtain ⟨rfl, -⟩ := hreport
    obtain ⟨i, hi⟩ := List.getElem?_of_mem hc
    exact Ledger.release_amount_of_le hpos (hmetered.room hi hd howing hstart)

/-! ### Two reports that disagree -/

/-- A replay id for each call. -/
def callId (i : Nat) : ReplayId := String.ofList (List.replicate (i + 1) 'r')

/-- Two calls are admitted side by side, and the first reports twice at once: that it failed, and
that it succeeded.  The second has not reported. -/
def disagreeing : List Move :=
  [.call "acme" "search", .call "acme" "fetch"] ++ admittedAbreast ++
    [.deliver 0 "search" (callId 0) none .failed, .deliver 0 "search" (callId 0) none .success] ++
    settledAbreast

theorem keying_callId : Keying lapsedWorld.ledger callId where
  named i := by
    have hr : Text.isBlank 'r' = false := by decide
    simp [callId, ReplayId.isEmpty, Text.isBlankText, List.replicate_succ, hr]
  distinct i j h := by
    have hlen := congrArg (fun s => s.toList.length) h
    simpa [callId] using hlen
  unused i := ⟨by simp [lapsedWorld, Ledger.empty, Ledger.putEntitlement],
    by simp [lapsedWorld, Ledger.empty, Ledger.putEntitlement, Ledger.eventsUnder]⟩

/-- The first call is metered once, and the second is outstanding. -/
theorem metered_once_disagreeing :
    let t := (quiet lapsedWorld).run .standard .standard disagreeing
    (∀ m ∈ disagreeing, m.OfTools) ∧ (∀ m ∈ disagreeing, m.Keyed callId) ∧
      (∀ i (c : ToolCall) r, t.calls[i]? = some c → c.reservation? = some r → c.deliveries ≠ [] →
        (∀ d ∈ c.deliveries, d.state.result?.isSome) →
        c.RecordedOnce (callId i) r t.world.ledger) ∧
      (t.AtRest → ∀ k, 0 ≤ lapsedWorld.ledger.used k →
        t.world.ledger.used k = lapsedWorld.ledger.used k + t.outstanding k + t.charged k) ∧
      ∀ c ∈ t.calls, ∀ d ∈ c.deliveries, ∀ scope report, d.state = .releasing scope report →
        0 ≤ lapsedWorld.ledger.used report.counter →
        (t.world.ledger.release report.counter report.reservation.quantity).1 =
          report.reservation.quantity :=
  ⟨by decide, by decide, metered_once keying_callId (by decide) (by decide)⟩

example :
    let t := (quiet lapsedWorld).run .standard .standard disagreeing
    let k : CounterKey := ⟨"acme", defaultMeter, ⟨30 * Span.day⟩⟩
    t.world.ledger.used k = 1 ∧ t.outstanding k = 1 ∧ t.charged k = 0 := by decide

end Traffic

end Turnstile
