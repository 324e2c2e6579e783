/-
One warning for each period.

The observer warns a tenant once and is silent until the tenant is reset, and a call resets its
tenant if it has rolled the period itself.  The periods of a tenant start later and later, and a
call that rolls the period starts a later one; so no period sees a second warning.  But a sweep
rolls periods as well and resets nobody.  A tenant that it has taken to the next period keeps
the warning of the last one, and the first call of the new period that reaches the threshold is
passed over in silence.

`Admittance.Watched` says this of a list of calls, and `Session.watched_admitted` that the calls
that a session admits are such a list.  What follows is that a period has its warning exactly if
every earlier call that reached the threshold was followed by a call that rolled the period
(`Session.warned_once_iff`).
-/
import Mathlib.Data.List.Induction
import Turnstile.Proofs.Reconcile.Repeat
import Turnstile.Proofs.Service.Decision
import Turnstile.Proofs.Traffic.Periods

namespace Turnstile

/-! ### Calls of one tenant, one after another -/

/-- A call that has been admitted, and what the observer made of it. -/
structure Admittance where
  reservation : Reservation
  /-- Has the call rolled the period itself? -/
  rolled : Bool
  /-- Did it raise the warning? -/
  raised : Bool
deriving DecidableEq, Repr

namespace Admittance

/-- The start of the period that the call was charged to. -/
def start (c : Admittance) : Instant := c.reservation.period.start

/-- Does the count that the call was told reach the threshold? -/
def reaches (config : ObserverConfig) (c : Admittance) : Bool :=
  config.reaches c.reservation.usedAfter c.reservation.monthlyUnits

variable {config : ObserverConfig}

/-- Calls of one tenant, which has or has not been warned and is in a period that starts no earlier
than given: periods do not go back, a call that rolls goes to a later one, and a call raises the
warning if it reaches the threshold and has rolled or finds the tenant without a warning. -/
def Watched (config : ObserverConfig) : Bool → Instant → List Admittance → Prop
  | _, _, [] => True
  | warned, earliest, c :: rest =>
    earliest ≤ c.start ∧ (c.rolled = true → earliest < c.start) ∧
      c.raised = (c.reaches config && (c.rolled || !warned)) ∧
      Watched config (!c.rolled && warned || c.reaches config) c.start rest

namespace Watched

variable {warned : Bool} {earliest : Instant} {calls before after : List Admittance}
  {call : Admittance}

theorem le_start (h : Watched config warned earliest calls) : ∀ c ∈ calls, earliest ≤ c.start := by
  induction calls generalizing warned earliest with
  | nil => simp
  | cons d rest ih =>
      obtain ⟨hle, -, -, hrest⟩ := h
      intro c hc
      rcases List.mem_cons.mp hc with rfl | hc
      · exact hle
      · have hlater := ih hrest c hc
        rw [Instant.le_iff] at hle hlater ⊢
        omega

/-- Only a call that reaches the threshold raises the warning. -/
theorem reaches_of_raised (h : Watched config warned earliest calls) :
    ∀ c ∈ calls, c.raised = true → c.reaches config = true := by
  induction calls generalizing warned earliest with
  | nil => simp
  | cons d rest ih =>
      obtain ⟨-, -, hraised, hrest⟩ := h
      intro c hc
      rcases List.mem_cons.mp hc with rfl | hc
      · intro hc
        rw [hraised] at hc
        exact (Bool.and_eq_true_iff.mp hc).1
      · exact ih hrest c hc

/-- **A tenant that has been warned is not warned again in the same period.** -/
theorem silent (h : Watched config true earliest calls) :
    ∀ c ∈ calls, c.start = earliest → c.raised = false := by
  induction calls generalizing earliest with
  | nil => simp
  | cons d rest ih =>
      obtain ⟨hle, hroll, hraised, hrest⟩ := h
      intro c hc hstart
      by_cases hsame : d.start = earliest
      · -- the period goes on, so the call has not rolled it
        have hstill : d.rolled = false := by
          cases hrolled : d.rolled with
          | false => rfl
          | true =>
            have hlt := hroll hrolled
            rw [hsame, Instant.lt_iff] at hlt
            omega
        rcases List.mem_cons.mp hc with rfl | hc
        · simp [hraised, hstill]
        · rw [hstill, hsame] at hrest
          exact ih hrest c hc hstart
      · -- a later period has begun, and none goes back
        refine absurd hstart ?_
        rcases List.mem_cons.mp hc with rfl | hc
        · exact hsame
        · have hlater := hrest.le_start c hc
          rw [Instant.ext_iff'] at hsame ⊢
          rw [Instant.le_iff] at hle hlater
          omega

/-- Whether the tenant has been warned after some calls. -/
def warnedAfter (config : ObserverConfig) (warned : Bool) (calls : List Admittance) : Bool :=
  calls.foldl (fun warned c => !c.rolled && warned || c.reaches config) warned

theorem append (h : Watched config warned earliest (before ++ after)) :
    ∃ start, Watched config (warnedAfter config warned before) start after := by
  induction before generalizing warned earliest with
  | nil => exact ⟨earliest, h⟩
  | cons c rest ih => exact ih h.2.2.2

/-- The tenant has been warned if a call reached the threshold and none has rolled since. -/
theorem warnedAfter_iff :
    warnedAfter config false calls = true ↔
      ∃ earlier c later, calls = earlier ++ c :: later ∧ c.reaches config = true ∧
        ∀ d ∈ later, d.rolled = false := by
  induction calls using List.reverseRecOn with
  | nil => simp [warnedAfter]
  | append_singleton calls d ih =>
      have hlast : warnedAfter config false (calls ++ [d]) =
          (!d.rolled && warnedAfter config false calls || d.reaches config) :=
        List.foldl_append
      rw [hlast]
      constructor
      · intro h
        rcases Bool.or_eq_true_iff.mp h with hbefore | hreaches
        · obtain ⟨hstill, hbefore⟩ := Bool.and_eq_true_iff.mp hbefore
          obtain ⟨earlier, c, later, rfl, hreaches, hlater⟩ := ih.mp hbefore
          refine ⟨earlier, c, later ++ [d], by simp, hreaches, ?_⟩
          intro d' hd'
          rcases List.mem_append.mp hd' with hd' | hd'
          · exact hlater d' hd'
          · rw [List.mem_singleton.mp hd']
            simpa using hstill
        · exact ⟨calls, d, [], rfl, hreaches, by simp⟩
      · rintro ⟨earlier, c, later, hsplit, hreaches, hlater⟩
        rcases List.eq_nil_or_concat later with rfl | ⟨later, d', rfl⟩
        · obtain ⟨-, hd⟩ := List.append_inj' hsplit rfl
          obtain rfl : d = c := by simpa using hd
          simp [hreaches]
        · have hsplit : calls ++ [d] = (earlier ++ c :: later) ++ [d'] := by simpa using hsplit
          obtain ⟨hcalls, hd⟩ := List.append_inj' hsplit rfl
          obtain rfl : d = d' := by simpa using hd
          have hwarned := ih.mpr ⟨earlier, c, later, hcalls, hreaches,
            fun d' hd' => hlater d' (by simp [hd'])⟩
          simp [hwarned, hlater d (by simp)]

/-- **The first call of a period that reaches the threshold raises the warning, and no other call of
the period does, exactly if every earlier call that reached it was followed by one that rolled.** -/
theorem raised_first_iff (h : Watched config false earliest (before ++ call :: after))
    (hreaches : call.reaches config = true)
    (hfirst : ∀ c ∈ before, c.start = call.start → c.reaches config = false) :
    (call.raised = true ∧ ∀ c ∈ before ++ after, c.start = call.start → c.raised = false) ↔
      ∀ earlier c later, before = earlier ++ c :: later → c.reaches config = true →
        ∃ d ∈ later ++ [call], d.rolled = true := by
  obtain ⟨start, -, -, hraised, hafter⟩ := h.append
  rw [hreaches, Bool.or_true] at hafter
  have hothers : ∀ c ∈ before ++ after, c.start = call.start → c.raised = false := by
    intro c hc hstart
    rcases List.mem_append.mp hc with hc | hc
    · by_contra hnot
      have hreached := h.reaches_of_raised c (by simp [hc]) (by simpa using hnot)
      rw [hfirst c hc hstart] at hreached
      cases hreached
    · exact hafter.silent c hc hstart
  rw [and_iff_left hothers, hraised, hreaches, Bool.true_and]
  constructor
  · intro hloud earlier c later hsplit hc
    rcases Bool.or_eq_true_iff.mp hloud with hrolled | hfresh
    · exact ⟨call, by simp, hrolled⟩
    · by_contra hnone
      have hlater : ∀ d ∈ later, d.rolled = false := by
        intro d hd
        by_contra hrolled
        exact hnone ⟨d, by simp [hd], by simpa using hrolled⟩
      rw [warnedAfter_iff.mpr ⟨earlier, c, later, hsplit, hc, hlater⟩] at hfresh
      cases hfresh
  · intro hrearmed
    by_contra hquiet
    obtain ⟨hstill, hwarned⟩ : call.rolled = false ∧ warnedAfter config false before = true := by
      simpa using hquiet
    obtain ⟨earlier, c, later, hsplit, hc, hlater⟩ := warnedAfter_iff.mp hwarned
    obtain ⟨d, hd, hrolled⟩ := hrearmed earlier c later hsplit hc
    rcases List.mem_append.mp hd with hd | hd
    · rw [hlater d hd] at hrolled
      cases hrolled
    · rw [List.mem_singleton.mp hd, hstill] at hrolled
      cases hrolled

end Watched

end Admittance

/-! ### What is kept of a call -/

/-- The second observer has the first one's threshold, and has warned the same tenants. -/
structure Observer.SameWarnings (o o' : Observer) : Prop where
  config : o'.config = o.config
  warned : ∀ tenant, o'.hasWarned tenant = o.hasWarned tenant

theorem Observer.SameWarnings.refl (o : Observer) : o.SameWarnings o := ⟨rfl, fun _ => rfl⟩

theorem World.sameWarnings_deny (w : World) (tenant : String) (reason : DenyReason) :
    w.observer.SameWarnings (w.deny tenant reason).observer :=
  ⟨Observer.config_recordDeny _ _ _, fun other => Observer.hasWarned_recordDeny _ _ other _⟩

namespace Admission

variable {svc : Service} {tenant tool : String} {w : World} {e : Entitlement} {p : Period}

/-- An admission commits with its observer told of the call and of the roll. -/
theorem commit_eq (scope : Scope) (cost : Int) (e : Entitlement) (rolled : Bool) (usedAfter : Int)
    (w : World) :
    commit svc scope cost e rolled usedAfter w =
      let r := reservation svc scope.tenant cost e usedAfter
      (finished (.ok r), { w with observer := (w.observer.notice rolled r).2 }) := rfl

/-- What the observer keeps of a call that is admitted. -/
theorem observer_atOnce_of_welcome (h : Welcome svc tenant tool w e p) {r : Reservation}
    (hr : (atOnce svc tenant tool w).1 = .ok r) :
    (atOnce svc tenant tool w).2.observer = (w.observer.notice (e.isExpired w.now) r).2 := by
  rw [atOnce_eq_of_welcome h] at hr ⊢
  obtain rfl := Outcome.ok.inj hr
  rw [commit_eq]

/-- A call that is not admitted leaves all warnings as they are. -/
theorem sameWarnings_of_denied (h : ∀ r, (atOnce svc tenant tool w).1 ≠ .ok r) :
    w.observer.SameWarnings (atOnce svc tenant tool w).2.observer := by
  rcases verdict svc tenant tool w with ⟨e, p, hwelcome⟩ | ⟨err, hdenied⟩ | hstranded
  · exact absurd (atOnce_of_welcome hwelcome).1 (h _)
  · obtain ⟨w', reason, hleft, heq⟩ := atOnce_of_denied hdenied
    rw [heq]
    cases hleft <;> exact World.sameWarnings_deny _ tenant reason
  · rw [atOnce_of_stranded hstranded]
    exact .refl _

end Admission

/-- A settlement leaves all warnings as they are. -/
theorem Settlement.sameWarnings_atOnce (report : Report) (w : World) :
    w.observer.SameWarnings (atOnce report w).2.observer := by
  unfold atOnce
  split
  · exact .refl _
  · split
    · exact .refl _
    · dsimp only
      split
      · exact .refl _
      · exact World.sameWarnings_deny _ _ _

/-! ### Periods that do not go back -/

/-- The period is in whole microseconds and starts no earlier than given. -/
structure Period.Since (earliest : Instant) (p : Period) : Prop where
  whole : p.Whole
  le_start : earliest ≤ p.start

theorem Period.closed_since (earliest : Instant) : Closed (Since earliest) := by
  intro p q now hp hroll
  have hahead := ahead_of_roll? hp.whole hroll
  have hlater := hahead.start_le
  have hearlier := hp.le_start
  refine ⟨hahead.whole hp.whole, ?_⟩
  rw [Instant.le_iff] at hlater hearlier ⊢
  omega

namespace Sweep

variable {Q : Period → Prop} {tenant : String} {sw : Sweeper}

/-- What the second pass writes has the property. -/
theorem stores_rollRows {now : Instant} {rest : List Entitlement}
    (hrest : Waiting Q tenant now rest) {l : Ledger} (hl : l.Stores Q tenant)
    (report : SweepReport) : (rollRows sw now rest report l).2.Stores Q tenant := by
  induction rest generalizing l report with
  | nil => exact hl
  | cons e rest ih =>
      unfold rollRows
      cases hnext : e.period.roll? now with
      | none => exact hl
      | some next =>
        refine ih (fun e' he' => hrest e' (by simp [he'])) ?_ _
        have hset : (l.setPeriod e.tenant next).Stores Q tenant :=
          hl.setPeriod fun htenant => hrest e (by simp) htenant next hnext
        exact hset.of_same rfl

/-- A sweep does not lead out of a property that rolling does not lead out of. -/
theorem stores_atOnce (hlisting : sw.listing.Faithful) (hclosed : Period.Closed Q) {w : World}
    (hkeyed : w.ledger.Keyed) (hw : w.ledger.Stores Q tenant) :
    (atOnce sw w).2.ledger.Stores Q tenant := by
  obtain ⟨l, rest, hfirst, hlisted, heq⟩ := atOnce_eq hlisting w
  have hl : l.Stores Q tenant := by
    refine hw.of_same ?_
    unfold Ledger.entitlement?
    rw [hfirst.entitlements]
  rw [heq]
  exact stores_rollRows (waiting_expired hclosed hkeyed hw hlisted) hl _

end Sweep

/-! ### Sessions -/

/-- The clock is set to whole microseconds. -/
def Errand.Whole : Errand → Prop
  | clock now => now.Whole
  | _ => True

instance : DecidablePred Errand.Whole
  | .clock now => inferInstanceAs (Decidable now.Whole)
  | .authorize _ _ | .settle _ _ _ _ _ | .sweep => .isTrue trivial

namespace Session

variable (svc : Service) (sw : Sweeper)

/-- The call that an errand gets admitted, if it does. -/
def admitted? (s : Session) : Errand → Option Admittance
  | .authorize tenant tool =>
    match ((s.gate svc sw).authorize tenant tool).1 with
    | .ok r =>
      let rolled := (s.world.ledger.entitlement? tenant).any (·.isExpired s.world.now)
      some ⟨r, rolled, (s.world.observer.notice rolled r).1⟩
    | _ => none
  | _ => none

/-- All calls that errands get admitted, one after another. -/
def admitted (s : Session) : List Errand → List Admittance
  | [] => []
  | e :: rest => (s.admitted? svc sw e).toList ++ admitted (s.step svc sw e) rest

/-- Those of a tenant. -/
def admittedOf (tenant : String) (s : Session) (errands : List Errand) : List Admittance :=
  (s.admitted svc sw errands).filter (·.reservation.tenant = tenant)

variable {svc sw} {tenant : String} {earliest : Instant} {s : Session}

/-- Clock and period of the tenant are in whole microseconds, and the period starts no earlier than
given. -/
structure Since (tenant : String) (earliest : Instant) (s : Session) : Prop where
  keyed : s.world.ledger.Keyed
  now : s.world.now.Whole
  stores : s.world.ledger.Stores (Period.Since earliest) tenant

/-! ### One errand -/

/-- An errand that admits no call of the tenant: the period does not go back, and the warning
stays. -/
structure Quiet (tenant : String) (earliest : Instant) (s s' : Session) : Prop where
  since : s'.Since tenant earliest
  config : s'.world.observer.config = s.world.observer.config
  warned : s'.world.observer.hasWarned tenant = s.world.observer.hasWarned tenant

/-- An errand that admits a call of the tenant: the call fits what is said of calls of one tenant,
and the next one will. -/
structure Heard (tenant : String) (earliest : Instant) (s s' : Session) (c : Admittance) :
    Prop where
  le_start : earliest ≤ c.start
  lt_start : c.rolled = true → earliest < c.start
  raised : c.raised = (c.reaches s.world.observer.config &&
    (c.rolled || !s.world.observer.hasWarned tenant))
  since : s'.Since tenant c.start
  config : s'.world.observer.config = s.world.observer.config
  warned : s'.world.observer.hasWarned tenant =
    (!c.rolled && s.world.observer.hasWarned tenant || c.reaches s.world.observer.config)

theorem admitted?_authorize (s : Session) (other tool : String) :
    s.admitted? svc sw (.authorize other tool) =
      match (Admission.atOnce svc other tool s.world).1 with
      | .ok r =>
        let rolled := (s.world.ledger.entitlement? other).any (·.isExpired s.world.now)
        some ⟨r, rolled, (s.world.observer.notice rolled r).1⟩
      | _ => none := by
  dsimp only [admitted?]
  rw [Gate.authorize_reliable rfl]
  rfl

theorem admitted?_of_denied {other tool : String}
    (h : ∀ r, (Admission.atOnce svc other tool s.world).1 ≠ .ok r) :
    s.admitted? svc sw (.authorize other tool) = none := by
  rw [admitted?_authorize]
  split
  · next r hr => exact absurd hr (h r)
  · rfl

/-- Terms and time do not stand in the way of the next errand. -/
theorem Since.next (h : s.Since tenant earliest) {s' : Session} {later : Instant}
    (hterms : s.world.ledger.SameTerms s'.world.ledger) (hnow : s'.world.now = s.world.now)
    (hstores : s'.world.ledger.Stores (Period.Since later) tenant) : s'.Since tenant later :=
  ⟨h.keyed.of_sameTerms hterms, hnow ▸ h.now, hstores⟩

theorem heard_authorize (h : s.Since tenant earliest) {tool : String} {r : Reservation}
    (hr : (Admission.atOnce svc tenant tool s.world).1 = .ok r) :
    ∃ c, s.admitted? svc sw (.authorize tenant tool) = some c ∧ c.reservation.tenant = tenant ∧
      s.Heard tenant earliest (s.authorize svc sw tenant tool) c := by
  obtain ⟨e, p, hwelcome⟩ := Admission.atOnce_eq_ok_iff.mp ⟨r, hr⟩
  have hobserver := Admission.observer_atOnce_of_welcome hwelcome hr
  obtain ⟨hanswer, hledger, -⟩ := Admission.atOnce_of_welcome hwelcome
  have hreservation := Outcome.ok.inj (hr.symm.trans hanswer)
  have htenant : r.tenant = tenant := by rw [hreservation]; rfl
  have hperiod : r.period = p := by rw [hreservation]; rfl
  refine ⟨⟨r, e.isExpired s.world.now, (s.world.observer.notice (e.isExpired s.world.now) r).1⟩, ?_,
    htenant, ?_⟩
  · rw [admitted?_authorize, hr, hwelcome.stored]
    rfl
  rw [authorize_of_ok hr]
  have hsince := h.stores e hwelcome.stored
  have hahead := Period.ahead_of_roll? hsince.whole hwelcome.counts
  have hle := hsince.le_start
  refine ⟨?_, fun hexpired => ?_, ?_, ?_, ?_, ?_⟩
  · have hlater := hahead.start_le
    show earliest ≤ r.period.start
    rw [Instant.le_iff] at hle hlater ⊢
    rw [hperiod]
    omega
  · have hlater := Period.start_lt_of_roll? hsince.whole h.now (of_decide_eq_true hexpired)
      hwelcome.counts
    show earliest < r.period.start
    rw [Instant.le_iff] at hle
    rw [Instant.lt_iff] at hlater ⊢
    rw [hperiod]
    omega
  · dsimp only
    rw [Observer.raised_notice, htenant]
    rfl
  · refine h.next (Admission.sameTerms_atOnce svc tenant tool s.world)
      (Admission.now_atOnce svc tenant tool s.world) ?_
    intro e' he'
    dsimp only at he'
    rw [hledger, Ledger.entitlement?_charged _ _ _ _ _ hwelcome.stored] at he'
    obtain rfl := Option.some.inj he'
    refine ⟨hahead.whole hsince.whole, ?_⟩
    show r.period.start ≤ p.start
    rw [hperiod]
    exact Int.le_refl _
  · dsimp only
    rw [hobserver, Observer.config_notice]
  · dsimp only
    rw [hobserver, Observer.hasWarned_notice, if_pos htenant]
    rfl

/-- A call of somebody else, or one that is not admitted. -/
theorem quiet_authorize (h : s.Since tenant earliest) {other tool : String}
    (hother : other ≠ tenant ∨ ∀ r, (Admission.atOnce svc other tool s.world).1 ≠ .ok r) :
    s.Quiet tenant earliest (s.authorize svc sw other tool) := by
  have hterms := Admission.sameTerms_atOnce svc other tool s.world
  have hnow := Admission.now_atOnce svc other tool s.world
  by_cases hok : ∃ r, (Admission.atOnce svc other tool s.world).1 = .ok r
  · obtain ⟨r, hr⟩ := hok
    have hne : other ≠ tenant := hother.resolve_right fun hdenied => hdenied r hr
    obtain ⟨e, p, hwelcome⟩ := Admission.atOnce_eq_ok_iff.mp ⟨r, hr⟩
    obtain ⟨hanswer, hledger, -⟩ := Admission.atOnce_of_welcome hwelcome
    have htenant : r.tenant = other := by
      rw [Outcome.ok.inj (hr.symm.trans hanswer)]
      rfl
    have hobserver := Admission.observer_atOnce_of_welcome hwelcome hr
    rw [authorize_of_ok hr]
    refine ⟨h.next hterms hnow (h.stores.of_same ?_), ?_, ?_⟩
    · dsimp only
      rw [hledger]
      exact (Ledger.sameElsewhere_charged ..).entitlements tenant hne.symm
    · dsimp only
      rw [hobserver, Observer.config_notice]
    · dsimp only
      rw [hobserver, Observer.hasWarned_notice, if_neg (htenant ▸ hne)]
  · have hdenied : ∀ r, (Admission.atOnce svc other tool s.world).1 ≠ .ok r :=
      fun r hr => hok ⟨r, hr⟩
    have hwarnings := Admission.sameWarnings_of_denied hdenied
    rw [authorize_of_denied hdenied]
    refine ⟨h.next hterms hnow (h.stores.of_same ?_), hwarnings.config, hwarnings.warned tenant⟩
    rcases Admission.ledger_of_denied hdenied with heq | ⟨e, p, -, -, heq⟩
    · dsimp only
      rw [heq]
    · dsimp only
      rw [heq, Ledger.entitlement?_ensureCounter]

theorem quiet_settle (h : s.Since tenant earliest) (nth : Nat) (tool : String) (replay : ReplayId)
    (audit : Option String) (status : Execution) :
    s.Quiet tenant earliest (s.settle svc sw nth tool replay audit status) := by
  cases hg : s.granted[nth]? with
  | none =>
    rw [settle_eq, hg]
    exact ⟨h, rfl, rfl⟩
  | some g =>
    rw [settle_of_granted hg]
    generalize (⟨g.reservation, tool, replay, audit, status⟩ : Report) = report
    have hterms := Settlement.sameTerms_atOnce report s.world
    have hsame := Settlement.entitlement?_atOnce report s.world tenant
    have hnow := Settlement.now_atOnce report s.world
    have hwarnings := Settlement.sameWarnings_atOnce report s.world
    generalize (Settlement.atOnce report s.world).2 = w at *
    exact ⟨h.next hterms hnow (h.stores.of_same hsame), hwarnings.config, hwarnings.warned tenant⟩

/-- A sweep may roll the period, and the warning stays all the same. -/
theorem quiet_sweep (hlisting : sw.listing.Faithful) (h : s.Since tenant earliest) :
    s.Quiet tenant earliest (s.sweep svc sw) := by
  rw [sweep_eq]
  exact ⟨h.next (Sweep.sameTerms_atOnce hlisting h.keyed) rfl
    (Sweep.stores_atOnce hlisting (Period.closed_since earliest) h.keyed h.stores), rfl, rfl⟩

/-- What an errand is for a tenant: a call of its own that is admitted, or nothing that it hears
of. -/
theorem step_cases (svc : Service) (hlisting : sw.listing.Faithful) (h : s.Since tenant earliest)
    {e : Errand} (hwhole : e.Whole) :
    (∃ c, s.admitted? svc sw e = some c ∧ c.reservation.tenant = tenant ∧
        s.Heard tenant earliest (s.step svc sw e) c) ∨
      (∀ c, s.admitted? svc sw e = some c → c.reservation.tenant ≠ tenant) ∧
        s.Quiet tenant earliest (s.step svc sw e) := by
  cases e with
  | clock now => exact .inr ⟨by simp [admitted?], ⟨h.keyed, hwhole, h.stores⟩, rfl, rfl⟩
  | authorize other tool =>
    by_cases hok : ∃ r, (Admission.atOnce svc other tool s.world).1 = .ok r
    · obtain ⟨r, hr⟩ := hok
      by_cases hother : other = tenant
      · subst hother
        exact .inl (heard_authorize h hr)
      · refine .inr ⟨?_, quiet_authorize h (.inl hother)⟩
        intro c hc
        obtain ⟨e, p, hwelcome⟩ := Admission.atOnce_eq_ok_iff.mp ⟨r, hr⟩
        obtain ⟨hanswer, -⟩ := Admission.atOnce_of_welcome hwelcome
        rw [admitted?_authorize, hr] at hc
        obtain rfl := Option.some.inj hc
        rw [Outcome.ok.inj (hr.symm.trans hanswer)]
        exact hother
    · have hdenied : ∀ r, (Admission.atOnce svc other tool s.world).1 ≠ .ok r :=
        fun r hr => hok ⟨r, hr⟩
      refine .inr ⟨?_, quiet_authorize h (.inr hdenied)⟩
      intro c hc
      rw [admitted?_of_denied hdenied] at hc
      cases hc
  | settle nth tool replay audit status =>
    exact .inr ⟨by simp [admitted?], quiet_settle h nth tool replay audit status⟩
  | sweep => exact .inr ⟨by simp [admitted?], quiet_sweep hlisting h⟩

/-! ### A session -/

theorem admittedOf_cons (e : Errand) (rest : List Errand) :
    s.admittedOf svc sw tenant (e :: rest) =
      ((s.admitted? svc sw e).filter (·.reservation.tenant = tenant)).toList ++
        (s.step svc sw e).admittedOf svc sw tenant rest := by
  unfold admittedOf
  rw [admitted, List.filter_append, Option.toList_filter]

/-- **The calls of a tenant that a session admits are as it is said of the calls of one tenant.** -/
theorem watched_admitted (svc : Service) (hlisting : sw.listing.Faithful)
    (h : s.Since tenant earliest) {errands : List Errand} (hwhole : ∀ e ∈ errands, e.Whole) :
    Admittance.Watched s.world.observer.config (s.world.observer.hasWarned tenant) earliest
      (s.admittedOf svc sw tenant errands) := by
  induction errands generalizing s earliest with
  | nil => trivial
  | cons e rest ih =>
      have hrest : ∀ e ∈ rest, e.Whole := fun e' he' => hwhole e' (by simp [he'])
      rw [admittedOf_cons]
      rcases step_cases svc hlisting h (hwhole e (by simp)) with
        ⟨c, hc, htenant, hheard⟩ | ⟨hnone, hquiet⟩
      · rw [hc, Option.filter_some_pos (by simpa using htenant)]
        refine ⟨hheard.le_start, hheard.lt_start, hheard.raised, ?_⟩
        rw [← hheard.warned, ← hheard.config]
        exact ih hheard.since hrest
      · have hnobody : (s.admitted? svc sw e).filter (·.reservation.tenant = tenant) = none := by
          rw [Option.filter_eq_none_iff]
          intro c hc
          simpa using hnone c hc
        rw [hnobody, ← hquiet.warned, ← hquiet.config]
        exact ih hquiet.since hrest

/-- **A period has its warning exactly if every call before it that reached the threshold was
followed by a call that rolled.**  The warning is then raised by the first call of the period that
reaches the threshold, and by no other call of the period. -/
theorem warned_once_iff (hlisting : sw.listing.Faithful) {w : World} (hkeyed : w.ledger.Keyed)
    (hfresh : w.observer.hasWarned tenant = false) (hnow : w.now.Whole)
    (hwhole : ∀ e, w.ledger.entitlement? tenant = some e → e.period.Whole)
    {errands : List Errand} (herrands : ∀ e ∈ errands, e.Whole) {before after : List Admittance}
    {call : Admittance}
    (hcalls : (start w).admittedOf svc sw tenant errands = before ++ call :: after)
    (hreaches : call.reaches w.observer.config = true)
    (hfirst : ∀ c ∈ before, c.start = call.start → c.reaches w.observer.config = false) :
    (call.raised = true ∧ ∀ c ∈ before ++ after, c.start = call.start → c.raised = false) ↔
      ∀ earlier c later, before = earlier ++ c :: later → c.reaches w.observer.config = true →
        ∃ d ∈ later ++ [call], d.rolled = true := by
  let earliest : Instant := ((w.ledger.entitlement? tenant).map (·.period.start)).getD w.now
  have hsince : (start w).Since tenant earliest := by
    refine ⟨hkeyed, hnow, ?_⟩
    intro e he
    refine ⟨hwhole e he, ?_⟩
    have hstart : earliest = e.period.start := by
      show ((w.ledger.entitlement? tenant).map (·.period.start)).getD w.now = e.period.start
      rw [show w.ledger.entitlement? tenant = some e from he]
      rfl
    rw [hstart]
    exact Int.le_refl _
  have hwatched := watched_admitted svc hlisting hsince herrands
  rw [hcalls, show (start w).world.observer.hasWarned tenant = false from hfresh] at hwatched
  exact hwatched.raised_first_iff hreaches hfirst

/-! ### A tenant with two units -/

/-- A world with a tenant of two units, on its tenth day. -/
def twoUnitWorld : World :=
  { oneUnitWorld with ledger := Ledger.empty.putEntitlement { oneUnit with limits := ⟨60, 2⟩ } }

/-- Two calls in the first month and two in the next, to which a sweep has taken the tenant. -/
def sweptMonths : List Errand :=
  [.authorize "acme" "search", .authorize "acme" "search", .clock ⟨31 * Span.day⟩, .sweep,
    .authorize "acme" "search", .authorize "acme" "search"]

/-- In both months the second call reaches the threshold; only the first month has its warning. -/
theorem swept_without_warning :
    twoUnitWorld.ledger.Keyed ∧ twoUnitWorld.observer.hasWarned "acme" = false ∧
      twoUnitWorld.now.Whole ∧ (∀ e ∈ sweptMonths, e.Whole) ∧
      ((start twoUnitWorld).admittedOf .standard .standard "acme" sweptMonths).map
          (fun c => (c.start, c.reaches twoUnitWorld.observer.config, c.raised)) =
        [(⟨0⟩, false, false), (⟨0⟩, true, true), (⟨30 * Span.day⟩, false, false),
          (⟨30 * Span.day⟩, true, false)] := by
  refine ⟨by decide, by decide, by decide, by decide, ?_⟩
  simp only [sweptMonths, admittedOf, admitted, admitted?, gate, Gate.authorize_reliable, step,
    authorize_eq, sweep_eq]
  decide

/-- The sweep takes the tenant to the second month, and a call to the third. -/
def skippedMonth : List Errand :=
  [.authorize "acme" "search", .authorize "acme" "search", .clock ⟨31 * Span.day⟩, .sweep,
    .clock ⟨61 * Span.day⟩, .authorize "acme" "search", .authorize "acme" "search"]

/-- The call that takes the unit of the number given. -/
def taking (p : Period) (n : Int) (rolled raised : Bool) : Admittance :=
  ⟨⟨"acme", defaultMeter, p, 1, 2, n, .active⟩, rolled, raised⟩

/-- The third month has its warning, and only one. -/
theorem warned_once_skipped_month :
    let third : Period := ⟨⟨60 * Span.day⟩, ⟨90 * Span.day⟩⟩
    let before := [taking month 1 false false, taking month 2 false true, taking third 1 true false]
    ∃ call, (start twoUnitWorld).admittedOf .standard .standard "acme" skippedMonth =
        before ++ call :: [] ∧ call.start = ⟨60 * Span.day⟩ ∧
      call.reaches twoUnitWorld.observer.config = true ∧
      call.raised = true ∧ ∀ c ∈ before ++ [], c.start = call.start → c.raised = false := by
  intro third before
  have hcalls : (start twoUnitWorld).admittedOf .standard .standard "acme" skippedMonth =
      before ++ taking third 2 false true :: [] := by
    simp only [skippedMonth, admittedOf, admitted, admitted?, gate, Gate.authorize_reliable, step,
      authorize_eq, sweep_eq]
    decide
  have hwhole : ∀ e, twoUnitWorld.ledger.entitlement? "acme" = some e → e.period.Whole := by
    intro e he
    obtain rfl : { oneUnit with limits := ⟨60, 2⟩ } = e := Option.some.inj he
    decide
  refine ⟨_, hcalls, rfl, by decide, ?_⟩
  refine (warned_once_iff Listing.faithful_sorted (by decide) (by decide) (by decide) hwhole
    (by decide) hcalls (by decide) (by decide)).mpr ?_
  intro earlier c later hsplit hreaches
  by_contra hnone
  have hlater : ∀ d ∈ later, d.rolled = false := by
    intro d hd
    by_contra hrolled
    exact hnone ⟨d, by simp [hd], by simpa using hrolled⟩
  -- the first call of the third month has rolled it, and so has ended the warning
  have hwarned :=
    Admittance.Watched.warnedAfter_iff.mpr ⟨earlier, c, later, hsplit, hreaches, hlater⟩
  exact absurd hwarned (by decide)

end Session

end Turnstile
