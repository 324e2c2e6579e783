/-
The grace of a tenant that is past due.

Where nobody bills, an entitlement keeps everything but its period, and the period keeps
its length: calls of tools and sweeps roll it, and a call that is denied takes its roll
back, but a roll moves both ends alike.  So what the subscription said at first it says
all along.

An admission goes by the clock at its arrival and by the entitlement it reads.  The read
may come much later than the arrival, and the answer later still; but the terms it finds
are always the ones from the start, and they are asked about the time of arrival
(`Admission.GoesBy`).  So however often the period of a tenant that is past due has been
rolled, and by whom, no call is admitted that arrived after the end of the grace.
-/
import Turnstile.Proofs.Traffic.Periods

namespace Turnstile

/-! ### What a subscription says without its period -/

/-- An entitlement is its terms and its period. -/
theorem Entitlement.eq_of_terms {e e' : Entitlement} (h : e'.terms = e.terms) :
    e' = { e with period := e'.period } := by
  obtain ⟨tenant, plan, status, limits, period, graceUntil, updatedAt⟩ := e
  obtain ⟨⟩ := e'
  simp only [terms, Terms.mk.injEq] at h
  obtain ⟨rfl, rfl, rfl, rfl, rfl, rfl⟩ := h
  rfl

/-- The terms do not forbid work at `now`, whatever the period: it is no later than the grace of a
tenant that is past due, and the tenant is neither unpaid nor in a state nobody knows. -/
structure Terms.Bear (terms : Terms) (now : Instant) : Prop where
  grace : terms.status = .pastDue → ∃ grace, terms.graceUntil = some grace ∧ now ≤ grace
  paid : terms.status ≠ .unpaid
  known : ∀ text, terms.status ≠ .unknown text

/-- An entitlement that admits a call has terms that bear it. -/
theorem Entitlement.bear_of_admits {e : Entitlement} {now : Instant} (h : e.admits now = true) :
    e.terms.Bear now := by
  obtain ⟨tenant, plan, status, limits, period, graceUntil, updatedAt⟩ := e
  cases status with
  | trialing | active | canceled => exact ⟨nofun, nofun, nofun⟩
  | pastDue =>
    refine ⟨fun _ => ?_, nofun, nofun⟩
    cases graceUntil with
    | none => cases h
    | some grace => exact ⟨grace, rfl, of_decide_eq_true h⟩
  | unpaid | unknown => cases h

/-! ### The time an admission goes by -/

namespace Admission

/-- The admission goes by the time `now` and the terms that are stored for the tenant. -/
def GoesBy (tenant : String) (stored : Option Terms) (now : Instant) : Admission → Prop
  | arriving _ _ => False
  | reading scope _ time => scope.tenant = tenant ∧ time = now
  | rolling scope _ time e _ | screening scope _ time e _ =>
    scope.tenant = tenant ∧ time = now ∧ stored = some e.terms
  | ensuring scope _ e _ | reserving scope _ e _ | committing scope _ e _ _ =>
    scope.tenant = tenant ∧ stored = some e.terms ∧ e.terms.Bear now
  | closing _ answer => ∀ r, answer ≠ .ok r
  | finished answer => ∀ r, answer = .ok r →
      r.tenant = tenant ∧ ∃ terms, stored = some terms ∧ terms.status = r.status ∧ terms.Bear now

variable {svc : Service} {tenant : String} {stored : Option Terms} {now : Instant}

/-- An admission that arrives goes by the clock, or ends. -/
theorem goesBy_arrive (svc : Service) (name tool : String) (w : World) :
    ((arriving name tool).step svc none w).1.GoesBy name stored w.now := by
  simp only [step, arrive]
  split
  · intro r hr
    cases hr
  · exact ⟨rfl, rfl⟩

/-- It goes on to do so, as long as the terms are the same. -/
theorem goesBy_step {a : Admission} (h : a.GoesBy tenant stored now) {w : World}
    (hstored : w.ledger.terms? tenant = stored) :
    (a.step svc none w).1.GoesBy tenant stored now := by
  cases a with
  | arriving => exact h.elim
  | reading scope cost time =>
    obtain ⟨rfl, rfl⟩ := h
    simp only [step, read, Scope.getEntitlement]
    split
    · simp [turnAway, GoesBy]
    · next e he =>
      have hread : stored = some e.terms := by
        rw [← hstored]
        exact Ledger.terms?_of_entitlement? he
      split
      · split
        · exact ⟨rfl, rfl, hread⟩
        · exact fun r hr => by cases hr
      · exact ⟨rfl, rfl, hread⟩
  | rolling scope cost time e next =>
    simp only [step, roll]
    -- the terms that are rolled are the terms that were read
    refine ⟨?_, h.2⟩
    rw [Scope.updatePeriod_tenant]
    exact h.1
  | screening scope cost time e rolled =>
    obtain ⟨hscope, rfl, hread⟩ := h
    simp only [step, screen, Entitlement.checkAccess]
    by_cases hadmits : e.admits time = true
    · rw [if_pos hadmits]
      dsimp only
      split
      · exact ⟨hscope, hread, Entitlement.bear_of_admits hadmits⟩
      · simp [turnAway, GoesBy]
    · rw [if_neg hadmits]
      simp [turnAway, GoesBy]
  | ensuring scope cost e rolled => exact h
  | reserving scope cost e rolled =>
    simp only [step, reserve, Scope.reserve]
    generalize w.ledger.reserve _ cost e.limits.monthlyUnits = outcome
    obtain ⟨_ | _, l'⟩ := outcome
    · exact h
    · simp [turnAway, GoesBy]
  | committing scope cost e rolled usedAfter =>
    intro r hr
    obtain rfl := Outcome.ok.inj hr
    exact ⟨h.1, e.terms, h.2.1, rfl, h.2.2⟩
  | closing scope answer => exact fun r hr => absurd hr (h r)
  | finished answer => exact h

end Admission

/-! ### One call among all -/

/-- Does the move neither write nor announce an entitlement? -/
def Move.BillsNobody : Move → Prop
  | upsert _ | sync _ _ => False
  | _ => True

instance : DecidablePred Move.BillsNobody
  | .upsert _ | .sync _ _ => .isFalse id
  | .clock _ | .call _ _ | .admitting _ | .deliver _ _ _ _ _ | .settling _ _ | .syncing _
  | .sweep | .sweeping _ => .isTrue trivial

theorem Move.BillsNobody.leaves {m : Move} (h : m.BillsNobody) (tenant : String) :
    m.Leaves tenant := by
  cases m with
  | upsert | sync => exact h.elim
  | _ => trivial

namespace Traffic

variable {svc : Service} {sw : Sweeper} {tenant : String} {stored : Option Terms} {now : Instant}

/-- How far the admission of a call has come. -/
def admission? (t : Traffic) (i : Nat) : Option Admission := t.calls[i]?.map (·.admission)

/-- A step of a call that is no step of its admission. -/
theorem admission?_stepAt {f : ToolCall → World → ToolCall × World} (t : Traffic) (j : Nat)
    (hf : ∀ c, (f c t.world).1.admission = c.admission) (i : Nat) :
    (t.withCalls (stepAt f j t.calls t.world)).admission? i = t.admission? i := by
  cases hc : t.calls[j]? with
  | none =>
    rw [stepAt_of_none hc]
    rfl
  | some c =>
    rw [stepAt_of_getElem? hc]
    simp only [admission?, withCalls, List.getElem?_set]
    split
    · next hij =>
      subst hij
      obtain ⟨hlt, rfl⟩ := List.getElem?_eq_some_iff.mp hc
      simp [hlt, hf]
    · rfl

/-- What a move does to the admission of a call: nothing, or the call arrives, or the admission
makes its next step. -/
theorem admission?_step (svc : Service) (sw : Sweeper) (t : Traffic) (m : Move) (i : Nat) :
    (t.step svc sw m).admission? i = t.admission? i ∨
      (∃ name tool, t.admission? i = none ∧
        (t.step svc sw m).admission? i = some (.arriving name tool)) ∨
      ∃ a, m = .admitting i ∧ t.admission? i = some a ∧
        (t.step svc sw m).admission? i = some (a.step svc none t.world).1 := by
  cases m with
  | call name tool =>
    simp only [admission?, step]
    rcases Nat.lt_trichotomy i t.calls.length with hlt | rfl | hgt
    · exact .inl (by rw [List.getElem?_append_left hlt])
    · exact .inr (.inl ⟨name, tool, by simp, by simp [ToolCall.new]⟩)
    · refine .inl ?_
      rw [List.getElem?_eq_none (by simp; omega), List.getElem?_eq_none (by omega)]
  | admitting j =>
    by_cases hj : j = i
    · subst hj
      cases hc : t.calls[j]? with
      | none =>
        refine .inl ?_
        simp only [step, stepAt_of_none hc]
        rfl
      | some c =>
        obtain ⟨hlt, -⟩ := List.getElem?_eq_some_iff.mp hc
        refine .inr (.inr ⟨c.admission, rfl, by simp [admission?, hc], ?_⟩)
        simp [admission?, step, stepAt_of_getElem? hc, withCalls, hlt, ToolCall.advance]
    · refine .inl ?_
      cases hc : t.calls[j]? with
      | none =>
        simp only [step, stepAt_of_none hc]
        rfl
      | some c => simp [admission?, step, stepAt_of_getElem? hc, withCalls, List.getElem?_set_ne hj]
  | deliver j tool replay audit status =>
    refine .inl (admission?_stepAt t j (fun c => ?_) i)
    unfold ToolCall.deliver
    split <;> rfl
  | settling j nth => exact .inl (admission?_stepAt t j (fun _ => rfl) i)
  | clock | upsert | sync | syncing | sweep | sweeping => exact .inl rfl

/-- The call has not got further than to its arrival. -/
def Absent (i : Nat) (t : Traffic) : Prop :=
  ∀ a, t.admission? i = some a → ∃ name tool, a = .arriving name tool

/-- **A call that has an answer has once arrived**, and what it has gone by ever since is the clock
of that move. -/
theorem exists_arrival {i : Nat} {t : Traffic} (habsent : t.Absent i) {moves : List Move}
    {answer : Admitted} (hanswer : (t.run svc sw moves).admission? i = some (.finished answer)) :
    ∃ before after name tool, moves = before ++ .admitting i :: after ∧
      (t.run svc sw before).admission? i = some (.arriving name tool) ∧
      ((t.run svc sw before).step svc sw (.admitting i)).admission? i =
        some ((Admission.arriving name tool).step svc none (t.run svc sw before).world).1 := by
  have hend : ¬ (t.run svc sw moves).Absent i := by
    intro h
    obtain ⟨name, tool, heq⟩ := h _ hanswer
    cases heq
  obtain ⟨before, m, after, rfl, hbefore, hleft⟩ := exists_ending (P := Absent i) habsent hend
  rcases admission?_step svc sw (t.run svc sw before) m i with
    hsame | ⟨name, tool, -, hnew⟩ | ⟨a, rfl, ha, hstep⟩
  · refine absurd ?_ hleft
    intro a ha
    exact hbefore a (hsame ▸ ha)
  · refine absurd ?_ hleft
    intro a ha
    exact ⟨name, tool, (Option.some.inj (hnew.symm.trans ha)).symm⟩
  · obtain ⟨name, tool, rfl⟩ := hbefore a ha
    exact ⟨before, after, name, tool, rfl, ha, hstep⟩

/-- What an admission goes by it goes by until its answer, if nobody bills its tenant. -/
theorem goesBy_run {i : Nat} {t : Traffic} (horderly : t.Orderly) (hfree : t.Unbilled tenant)
    (hstored : t.world.ledger.terms? tenant = stored) {a : Admission}
    (ha : t.admission? i = some a) (hgoes : a.GoesBy tenant stored now) {moves : List Move}
    (hmoves : ∀ m ∈ moves, m.Leaves tenant) :
    ∃ a', (t.run svc sw moves).admission? i = some a' ∧ a'.GoesBy tenant stored now := by
  have hrun : (t.run svc sw moves).Orderly ∧ (t.run svc sw moves).Unbilled tenant ∧
      (t.run svc sw moves).world.ledger.terms? tenant = stored ∧
      ∃ a', (t.run svc sw moves).admission? i = some a' ∧ a'.GoesBy tenant stored now := by
    refine run_induction (P := fun t => t.Orderly ∧ t.Unbilled tenant ∧
      t.world.ledger.terms? tenant = stored ∧
      ∃ a, t.admission? i = some a ∧ a.GoesBy tenant stored now)
      ⟨horderly, hfree, hstored, a, ha, hgoes⟩ ?_
    rintro m hm t ⟨horderly, hfree, hstored, a, ha, hgoes⟩
    obtain ⟨horderly', hkeep⟩ := orderly_step svc sw horderly m
    obtain ⟨hfree', hterms⟩ := hkeep tenant hfree (hmoves m hm)
    refine ⟨horderly', hfree', hterms.trans hstored, ?_⟩
    rcases admission?_step svc sw t m i with hsame | ⟨name, tool, hnone, -⟩ | ⟨a', -, ha', hstep⟩
    · exact ⟨a, hsame.trans ha, hgoes⟩
    · rw [ha] at hnone
      cases hnone
    · obtain rfl := Option.some.inj (ha.symm.trans ha')
      exact ⟨_, hstep, Admission.goesBy_step hgoes hstored⟩
  exact hrun.2.2.2

/-! ### Without billing -/

theorem absent_quiet (w : World) (i : Nat) : (quiet w).Absent i := by
  intro a ha
  simp [admission?, quiet] at ha

theorem unbilled_quiet (w : World) (tenant : String) : (quiet w).Unbilled tenant := by
  simp [Unbilled, quiet]

/-- An entitlement that nobody bills keeps all but its period, and the period its length. -/
theorem entitlement?_run (hlisting : sw.listing.Faithful) {w : World} (hkeyed : w.ledger.Keyed)
    {e : Entitlement} (he : w.ledger.entitlement? tenant = some e) {moves : List Move}
    (hmoves : ∀ m ∈ moves, m.Leaves tenant) :
    ∃ p, ((quiet w).run svc sw moves).world.ledger.entitlement? tenant =
        some { e with period := p } ∧ e.period.Shifted p := by
  have horderly := orderly_quiet hkeyed
  have hfree := unbilled_quiet w tenant
  have hkeeps : (quiet w).Keeps e.period.Shifted tenant := by
    refine ⟨horderly, hfree, ?_, by simp [quiet], by simp [quiet]⟩
    intro e₀ he₀
    obtain rfl := Option.some.inj (he.symm.trans he₀)
    exact .refl e.period
  have hterms : ((quiet w).run svc sw moves).world.ledger.terms? tenant =
      w.ledger.terms? tenant := terms?_run horderly hfree hmoves
  rw [Ledger.terms?_of_entitlement? he] at hterms
  obtain ⟨e', he', hsame⟩ := Option.map_eq_some_iff.mp hterms
  refine ⟨e'.period, he'.trans (congrArg some (Entitlement.eq_of_terms hsame)), ?_⟩
  exact stores_run hlisting (Period.closed_shifted _) hkeeps hmoves e' he'

/-- **An admitted call arrived at a time that the terms of its tenant bear**, and these are the
terms that were stored when all began. -/
theorem bear_of_admitted {w : World} (hkeyed : w.ledger.Keyed) {moves : List Move}
    (hmoves : ∀ m ∈ moves, m.BillsNobody) {i : Nat} {r : Reservation}
    (hr : ((quiet w).run svc sw moves).admission? i = some (.finished (.ok r))) :
    ∃ before after tool terms, moves = before ++ .admitting i :: after ∧
      ((quiet w).run svc sw before).admission? i = some (.arriving r.tenant tool) ∧
      w.ledger.terms? r.tenant = some terms ∧ terms.status = r.status ∧
      terms.Bear ((quiet w).run svc sw before).world.now := by
  obtain ⟨before, after, name, tool, rfl, harriving, hstep⟩ :=
    exists_arrival (absent_quiet w i) hr
  have hsplit : before ++ .admitting i :: after = before ++ [.admitting i] ++ after := by simp
  rw [hsplit] at hmoves hr
  have hbefore : ∀ m ∈ before ++ [.admitting i], m.Leaves name :=
    fun m hm => (hmoves m (List.mem_append_left _ hm)).leaves name
  have hafter : ∀ m ∈ after, m.Leaves name :=
    fun m hm => (hmoves m (List.mem_append_right _ hm)).leaves name
  have horderly := orderly_quiet hkeyed
  have hfree := unbilled_quiet w name
  -- the state after the move with which the call arrives
  have hmove : ((quiet w).run svc sw before).step svc sw (.admitting i) =
      (quiet w).run svc sw (before ++ [.admitting i]) := by
    rw [run_append]
    rfl
  rw [hmove] at hstep
  obtain ⟨a, ha, hgoes⟩ := goesBy_run (orderly_run horderly _) (unbilled_run horderly hfree hbefore)
    (terms?_run horderly hfree hbefore) hstep (Admission.goesBy_arrive svc name tool _) hafter
  rw [← run_append] at ha
  obtain rfl := Option.some.inj (hr.symm.trans ha)
  obtain ⟨rfl, terms, hterms, hstatus, hbear⟩ := hgoes r rfl
  exact ⟨before, after, tool, terms, rfl, harriving, hterms, hstatus, hbear⟩

/-- **Only billing changes what a subscription says.**  However calls of tools and sweeps overlap,
no entitlement is lost or comes to be, each keeps all but its period, and the period its length; and
a call that is admitted arrived no later than the grace that its tenant had at first, if it is past
due, while the unpaid and those in a state nobody knows are not admitted at all. -/
theorem terms_outlast_rolls (svc : Service) (hlisting : sw.listing.Faithful) {w : World}
    (hkeyed : w.ledger.Keyed) {moves : List Move} (hmoves : ∀ m ∈ moves, m.BillsNobody) :
    let t := (quiet w).run svc sw moves
    (∀ tenant, w.ledger.entitlement? tenant = none → t.world.ledger.entitlement? tenant = none) ∧
      (∀ tenant e, w.ledger.entitlement? tenant = some e →
        ∃ p, t.world.ledger.entitlement? tenant = some { e with period := p } ∧
          p.stop.since p.start = e.period.stop.since e.period.start) ∧
      ∀ i r, t.admission? i = some (.finished (.ok r)) →
        ∃ before after tool e, moves = before ++ .admitting i :: after ∧
          ((quiet w).run svc sw before).admission? i = some (.arriving r.tenant tool) ∧
          w.ledger.entitlement? r.tenant = some e ∧ e.status = r.status ∧
          (e.status = .pastDue → ∃ grace, e.graceUntil = some grace ∧
            ((quiet w).run svc sw before).world.now ≤ grace) ∧
          e.status ≠ .unpaid ∧ ∀ text, e.status ≠ .unknown text := by
  intro t
  have hleaves (tenant : String) : ∀ m ∈ moves, m.Leaves tenant :=
    fun m hm => (hmoves m hm).leaves tenant
  refine ⟨fun tenant hnone => ?_, fun tenant e he => ?_, fun i r hr => ?_⟩
  · have hterms : t.world.ledger.terms? tenant = w.ledger.terms? tenant :=
      terms?_run (orderly_quiet hkeyed) (unbilled_quiet w tenant) (hleaves tenant)
    unfold Ledger.terms? at hterms
    rw [hnone] at hterms
    exact Option.map_eq_none_iff.mp hterms
  · obtain ⟨p, hp, hshifted⟩ := entitlement?_run hlisting hkeyed he (hleaves tenant)
    exact ⟨p, hp, hshifted.length⟩
  · obtain ⟨before, after, tool, terms, hsplit, harriving, hterms, hstatus, hbear⟩ :=
      bear_of_admitted hkeyed hmoves hr
    obtain ⟨e, he, rfl⟩ := Option.map_eq_some_iff.mp hterms
    exact ⟨before, after, tool, e, hsplit, harriving, he, hstatus, hbear.grace, hbear.paid,
      hbear.known⟩

/-! ### A call that takes its time -/

/-- The tenant of the trial, past due, with a grace of five days from the end of its period. -/
def pastDueTrial : Entitlement :=
  { lapsedTrial with status := .pastDue, graceUntil := some ⟨35 * Span.day⟩ }

/-- A world in which there is nothing but this tenant, a day into its grace. -/
def pastDueWorld : World :=
  { lapsedWorld with ledger := Ledger.empty.putEntitlement pastDueTrial }

/-- A call arrives in the grace and reads the old period.  Before it goes on the grace ends, and a
sweep rolls the period one window further than the call is about to. -/
def slowCall : List Move :=
  [.call "acme" "search", .admitting 0, .admitting 0, .clock ⟨70 * Span.day⟩, .sweep] ++
    List.replicate 4 (.sweeping 0) ++ List.replicate 5 (.admitting 0)

/-- The call is admitted; it arrived in the grace. -/
theorem terms_outlast_slow_call :
    let t := (quiet pastDueWorld).run .standard .standard slowCall
    pastDueWorld.ledger.Keyed ∧ (∀ m ∈ slowCall, m.BillsNobody) ∧
      t.world.now = ⟨70 * Span.day⟩ ∧
      (∃ p, t.world.ledger.entitlement? "acme" = some { pastDueTrial with period := p } ∧
        p.stop.since p.start = 30 * Span.day) ∧
      ∃ r before after, t.admission? 0 = some (.finished (.ok r)) ∧
        slowCall = before ++ .admitting 0 :: after ∧
        ((quiet pastDueWorld).run .standard .standard before).world.now ≤ ⟨35 * Span.day⟩ := by
  have hlisting : Sweeper.standard.listing.Faithful := Listing.faithful_sorted
  have hkeyed : pastDueWorld.ledger.Keyed := by decide
  have hmoves : ∀ m ∈ slowCall, m.BillsNobody := by decide
  have hkept := terms_outlast_rolls .standard hlisting hkeyed hmoves
  refine ⟨hkeyed, hmoves, rfl, hkept.2.1 "acme" pastDueTrial rfl, ?_⟩
  obtain ⟨before, after, tool, e, hsplit, -, he, -, hgrace, -, -⟩ := hkept.2.2 0 _ rfl
  obtain rfl : pastDueTrial = e := Option.some.inj he
  obtain ⟨grace, hstored, hle⟩ := hgrace rfl
  obtain rfl := Option.some.inj hstored
  exact ⟨_, before, after, rfl, hsplit, hle⟩

end Traffic

end Turnstile
