/-
The replay ids of all tenants in one log.

Rows are kept for each tenant, and the ids of reports are not: a ledger keeps them in one set.
So whether a report is settled is a matter of the whole log.  A report whose id no event of any
tenant carries is recorded, and the units of a call that failed are given back; one whose id
some event carries leaves the ledger alone, whoever that event belongs to
(`Session.settled_unless_taken`).

Two things are carried through a session for that: log and index are in step
(`Session.Kept.index`), and, as long as a reservation is reported once at most, every counter
has the units that are still reserved on it (`Session.Backed`).
-/
import Mathlib.Algebra.Order.BigOperators.Group.List
import Mathlib.Algebra.Order.Group.Int
import Turnstile.Proofs.Scope.Replays
import Turnstile.Proofs.Service.Decision
import Turnstile.Proofs.Session.Overshoot

namespace Turnstile

variable {svc : Service} {sw : Sweeper}

/-! ### What a settlement makes of the log -/

/-- A release takes off what the counter has, up to the quantity. -/
theorem Ledger.release_amount (l : Ledger) (k : CounterKey) (q : Int) :
    (l.release k q).1 = releasable (l.used k) q := by
  cases h : l.tally? k with
  | none =>
    rw [release_of_absent h, used_of_absent h]
    unfold releasable
    omega
  | some t => rw [release_of_tally? h, used_of_tally? h]

namespace Settlement

variable {report : Report} {w : World}

@[simp] theorem replays_settled (report : Report) (l : Ledger) :
    (settled report l).replays = l.replays := by
  unfold settled
  split <;> simp

/-- The units of a call that failed are taken off its counter, and off no other. -/
theorem used_settled (report : Report) (l : Ledger) (k : CounterKey) :
    (settled report l).used k = l.used k -
      if report.counter = k ∧ report.status = .failed then
        Ledger.releasable (l.used k) report.reservation.quantity
      else 0 := by
  unfold settled
  cases report.status with
  | success => simp
  | failed =>
    dsimp only
    rw [Ledger.used_release, Ledger.release_amount]
    by_cases hk : report.counter = k
    · simp [hk]
    · simp [hk]

/-- A report whose event is a duplicate leaves the ledger alone. -/
theorem atOnce_of_duplicate (hnamed : Text.isBlankText report.reservation.tenant = false)
    (hduplicate : (w.ledger.record (report.event (.drawn w.drawn) w.now)).1 = .duplicate) :
    (atOnce report w).1 = .ok .duplicate ∧ (atOnce report w).2.ledger = w.ledger := by
  unfold atOnce
  rw [if_neg (by simp [hnamed])]
  cases hrecord : w.ledger.record (report.event (.drawn w.drawn) w.now) with
  | mk outcome l =>
    rw [hrecord] at hduplicate
    obtain rfl : outcome = .duplicate := hduplicate
    exact ⟨rfl, rfl⟩

/-- A report whose id no event in the log carries is recorded, and takes back what was reserved for
it if the call has failed. -/
theorem atOnce_of_free (hindex : w.ledger.Indexed)
    (hnamed : Text.isBlankText report.reservation.tenant = false)
    (hid : report.replay.isEmpty = false)
    (hfree : ∀ e ∈ w.ledger.events, e.replay ≠ some report.replay) :
    let after := (atOnce report w).2.ledger
    let back := Ledger.releasable (w.ledger.used report.counter) report.reservation.quantity
    (atOnce report w).1 = .ok .inserted ∧
      after.events = w.ledger.events ++ [report.event (.drawn w.drawn) w.now] ∧
      (∀ k, after.used k =
        w.ledger.used k - if report.counter = k ∧ report.status = .failed then back else 0) ∧
      (∀ k, after.stop? k = w.ledger.stop? k) ∧
      ∀ tenant, after.entitlement? tenant = w.ledger.entitlement? tenant := by
  intro after back
  have hunrecorded : report.replay ∉ w.ledger.replays := by
    intro hmem
    obtain ⟨e, he, hcarries⟩ := (hindex.carried report.replay).mp hmem
    exact hfree e he hcarries
  obtain ⟨hanswer, hinserted, hledger⟩ := atOnce_of_fresh report w hnamed hid hunrecorded
  have hafter : after = settled report (w.ledger.record (report.event (.drawn w.drawn) w.now)).2 :=
    hledger
  refine ⟨hanswer, ?_, ?_, ?_, ?_⟩
  · rw [hafter, events_settled, Ledger.events_record_of_inserted hinserted]
  · intro k
    rw [hafter, used_settled, Ledger.used_record]
    by_cases hk : report.counter = k
    · subst hk
      rfl
    · simp [hk]
  · intro k
    rw [hafter, stop?_settled, Ledger.stop?_record]
  · intro tenant
    rw [hafter, entitlement?_settled, Ledger.entitlement?_record]

/-- A report whose id some event in the log carries is a duplicate, and leaves the ledger alone. -/
theorem atOnce_of_taken (hindex : w.ledger.Indexed)
    (hnamed : Text.isBlankText report.reservation.tenant = false)
    (hid : report.replay.isEmpty = false)
    (htaken : ∃ e ∈ w.ledger.events, e.replay = some report.replay) :
    (atOnce report w).1 = .ok .duplicate ∧ (atOnce report w).2.ledger = w.ledger := by
  obtain ⟨e, he, hcarries⟩ := htaken
  refine atOnce_of_duplicate hnamed ((hindex.duplicate_iff _).mpr ?_)
  exact ⟨report.replay, Report.replay_event hid _ _, e, he, hcarries⟩

/-- Settling keeps log and index in step. -/
theorem indexed_atOnce (h : w.ledger.Indexed) (report : Report) :
    (atOnce report w).2.ledger.Indexed := by
  rcases ledger_atOnce_cases report w with hl | ⟨-, hl⟩
  · rw [hl]
    exact h
  · rw [hl]
    exact (h.record _).of_log (events_settled _ _) (replays_settled _ _)

end Settlement

/-- Admitting keeps log and index in step. -/
theorem Admission.indexed_atOnce {w : World} (h : w.ledger.Indexed) (svc : Service)
    (tenant tool : String) : (atOnce svc tenant tool w).2.ledger.Indexed := by
  by_cases hok : ∃ r, (atOnce svc tenant tool w).1 = .ok r
  · obtain ⟨e, p, hwelcome⟩ := atOnce_eq_ok_iff.mp hok
    have hlog := w.ledger.sameElsewhere_charged tenant svc.meter p (svc.costs.costOf tool)
    rw [(atOnce_of_welcome hwelcome).2.1]
    exact h.of_log hlog.events hlog.replays
  · rcases ledger_of_denied fun r hr => hok ⟨r, hr⟩ with hl | ⟨e, p, -, -, hl⟩
    · rw [hl]
      exact h
    · rw [hl]
      exact h.of_log (by simp) (by simp)

/-! ### What is reserved on a counter -/

/-- The counter that a grant's units are on. -/
def Grant.counter (g : Grant) : CounterKey :=
  ⟨g.reservation.tenant, g.reservation.meter, g.reservation.period.start⟩

/-- The units that a grant keeps reserved on a counter. -/
def Grant.dueOn (k : CounterKey) (g : Grant) : Int :=
  if g.counter = k ∧ g.settled = false then g.reservation.quantity else 0

/-- The units that are reserved on a counter and not settled. -/
def reservedOn (k : CounterKey) (granted : List Grant) : Int :=
  (granted.map (Grant.dueOn k)).sum

theorem reservedOn_append (k : CounterKey) (granted : List Grant) (g : Grant) :
    reservedOn k (granted ++ [g]) = reservedOn k granted + g.dueOn k := by
  simp [reservedOn]

/-- Settling a grant takes what it keeps reserved off what is reserved. -/
theorem reservedOn_settle {granted : List Grant} {nth : Nat} {g : Grant}
    (h : granted[nth]? = some g) (k : CounterKey) :
    reservedOn k (granted.set nth { g with settled := true }) =
      reservedOn k granted - g.dueOn k := by
  have hdue : ({ g with settled := true } : Grant).dueOn k = 0 := by simp [Grant.dueOn]
  unfold reservedOn
  rw [sum_map_set (Grant.dueOn k) h, hdue]
  omega

/-- What a grant keeps reserved is a part of what is reserved. -/
theorem dueOn_le_reservedOn {granted : List Grant} {g : Grant} (h : g ∈ granted)
    (hpos : ∀ g ∈ granted, 0 < g.reservation.quantity) (k : CounterKey) :
    g.dueOn k ≤ reservedOn k granted := by
  refine List.single_le_sum ?_ _ (List.mem_map_of_mem h)
  intro n hn
  obtain ⟨g', hg', rfl⟩ := List.mem_map.mp hn
  unfold Grant.dueOn
  split
  · exact Int.le_of_lt (hpos g' hg')
  · exact Int.le_refl 0

namespace Session

/-! ### What calls keep -/

/-- Log and index are in step, and what has been granted was granted to a tenant with a name, at a
price. -/
structure Kept (s : Session) : Prop where
  index : s.world.ledger.Indexed
  named : ∀ g ∈ s.granted, Text.isBlankText g.reservation.tenant = false
  priced : ∀ g ∈ s.granted, 0 < g.reservation.quantity

theorem kept_start {w : World} (h : w.ledger.Indexed) : (start w).Kept :=
  ⟨h, fun _ hg => (List.not_mem_nil hg).elim, fun _ hg => (List.not_mem_nil hg).elim⟩

variable {s : Session}

theorem Kept.authorize (h : s.Kept) (tenant tool : String) :
    (s.authorize svc sw tenant tool).Kept := by
  have hindex := Admission.indexed_atOnce h.index svc tenant tool
  by_cases hok : ∃ r, (Admission.atOnce svc tenant tool s.world).1 = .ok r
  · obtain ⟨e, p, hwelcome⟩ := Admission.atOnce_eq_ok_iff.mp hok
    rw [authorize_of_ok (Admission.atOnce_of_welcome hwelcome).1]
    refine ⟨hindex, ?_, ?_⟩
    · intro g hg
      rcases List.mem_append.mp hg with hold | hnew
      · exact h.named g hold
      · rw [List.mem_singleton.mp hnew]
        exact hwelcome.named
    · intro g hg
      rcases List.mem_append.mp hg with hold | hnew
      · exact h.priced g hold
      · rw [List.mem_singleton.mp hnew]
        exact svc.costs.costOf_pos tool
  · rw [authorize_of_denied fun r hr => hok ⟨r, hr⟩]
    exact ⟨hindex, h.named, h.priced⟩

theorem Kept.settle (h : s.Kept) (nth : Nat) (tool : String) (replay : ReplayId)
    (audit : Option String) (status : Execution) :
    (s.settle svc sw nth tool replay audit status).Kept := by
  cases hg : s.granted[nth]? with
  | none =>
    rw [settle_eq, hg]
    exact h
  | some g =>
    rw [settle_of_granted hg]
    have hmem := List.mem_of_getElem? hg
    refine ⟨Settlement.indexed_atOnce h.index _, ?_, ?_⟩
    · intro g' hg'
      rcases List.mem_or_eq_of_mem_set hg' with hold | rfl
      · exact h.named g' hold
      · exact h.named g hmem
    · intro g' hg'
      rcases List.mem_or_eq_of_mem_set hg' with hold | rfl
      · exact h.priced g' hold
      · exact h.priced g hmem

/-- Every counter has the units that are reserved on it. -/
def Backed (s : Session) : Prop := ∀ k, reservedOn k s.granted ≤ s.world.ledger.used k

/-- A call that is admitted adds to both; one that is denied to neither. -/
theorem Backed.authorize (h : s.Backed) (tenant tool : String) :
    (s.authorize svc sw tenant tool).Backed := by
  intro k
  have hk := h k
  by_cases hok : ∃ r, (Admission.atOnce svc tenant tool s.world).1 = .ok r
  · obtain ⟨e, p, hwelcome⟩ := Admission.atOnce_eq_ok_iff.mp hok
    obtain ⟨hanswer, hledger, -⟩ := Admission.atOnce_of_welcome hwelcome
    rw [authorize_of_ok hanswer]
    dsimp only
    rw [hledger, Ledger.used_charged, reservedOn_append]
    by_cases hkey : (⟨tenant, svc.meter, p.start⟩ : CounterKey) = k
    · have hdue : Grant.dueOn k ⟨Admission.reservation svc tenant (svc.costs.costOf tool)
          { e with period := p } (s.world.ledger.used ⟨tenant, svc.meter, p.start⟩ +
            svc.costs.costOf tool), false⟩ = svc.costs.costOf tool := if_pos ⟨hkey, rfl⟩
      rw [if_pos hkey, hdue]
      omega
    · have hdue : Grant.dueOn k ⟨Admission.reservation svc tenant (svc.costs.costOf tool)
          { e with period := p } (s.world.ledger.used ⟨tenant, svc.meter, p.start⟩ +
            svc.costs.costOf tool), false⟩ = 0 := if_neg fun hc => hkey hc.1
      rw [if_neg hkey, hdue]
      omega
  · have hdenied : ∀ r, (Admission.atOnce svc tenant tool s.world).1 ≠ .ok r :=
      fun r hr => hok ⟨r, hr⟩
    rw [authorize_of_denied hdenied]
    dsimp only
    rcases Admission.ledger_of_denied hdenied with hl | ⟨e, p, -, -, hl⟩
    · rw [hl]
      exact hk
    · rw [hl, Ledger.used_ensureCounter]
      exact hk

/-- The first report of a reservation takes no more off the counter than it had reserved there. -/
theorem Backed.settle (h : s.Backed) (hkept : s.Kept) {nth : Nat}
    (hfirst : ∀ g ∈ s.granted[nth]?, g.settled = false) (tool : String) (replay : ReplayId)
    (audit : Option String) (status : Execution) :
    (s.settle svc sw nth tool replay audit status).Backed := by
  cases hg : s.granted[nth]? with
  | none =>
    rw [settle_eq, hg]
    exact h
  | some g =>
    intro k
    have hk := h k
    have hpos := hkept.priced g (List.mem_of_getElem? hg)
    rw [settle_of_granted hg]
    dsimp only
    rw [reservedOn_settle hg]
    have hdue : g.dueOn k = if g.counter = k then g.reservation.quantity else 0 := by
      simp [Grant.dueOn, hfirst g hg]
    rw [hdue]
    rcases Settlement.ledger_atOnce_cases ⟨g.reservation, tool, replay, audit, status⟩
        s.world with hl | ⟨-, hl⟩
    · rw [hl]
      split <;> omega
    · rw [hl]
      by_cases hkey : g.counter = k
      · have hback := Settlement.le_used_settled ⟨g.reservation, tool, replay, audit, status⟩
          (s.world.ledger.record (Report.event ⟨g.reservation, tool, replay, audit, status⟩
            (.drawn s.world.drawn) s.world.now)).2 (Int.le_of_lt hpos) k
        rw [Ledger.used_record] at hback
        dsimp only at hback
        rw [if_pos hkey]
        split at hback <;> omega
      · have hother := Settlement.used_settled_of_ne (k := k)
          ⟨g.reservation, tool, replay, audit, status⟩
          (s.world.ledger.record (Report.event ⟨g.reservation, tool, replay, audit, status⟩
            (.drawn s.world.drawn) s.world.now)).2 hkey
        rw [if_neg hkey, hother, Ledger.used_record]
        omega

/-! ### Sessions of calls -/

/-- A report is the first of its reservation. -/
def First (s : Session) : Errand → Prop
  | .settle nth _ _ _ _ => ∀ g ∈ s.granted[nth]?, g.settled = false
  | _ => True

instance (s : Session) : DecidablePred s.First
  | .settle nth _ _ _ _ => inferInstanceAs (Decidable (∀ g ∈ s.granted[nth]?, _))
  | .clock _ | .authorize _ _ | .sweep => .isTrue trivial

/-- Every report is the first of its reservation. -/
def ReportsOnce (svc : Service) (sw : Sweeper) (s : Session) : List Errand → Prop
  | [] => True
  | e :: rest => s.First e ∧ ReportsOnce svc sw (s.step svc sw e) rest

theorem Kept.step (h : s.Kept) {e : Errand} (hcall : .sweep ≠ e) : (s.step svc sw e).Kept := by
  cases e with
  | clock now => exact ⟨h.index, h.named, h.priced⟩
  | authorize tenant tool => exact h.authorize tenant tool
  | settle nth tool replay audit status => exact h.settle nth tool replay audit status
  | sweep => exact absurd rfl hcall

theorem Kept.run (h : s.Kept) {errands : List Errand} (hcalls : .sweep ∉ errands) :
    (s.run svc sw errands).Kept := by
  induction errands generalizing s with
  | nil => exact h
  | cons e rest ih =>
      obtain ⟨hcall, hrest⟩ := List.ne_and_not_mem_of_not_mem_cons hcalls
      exact ih (h.step hcall) hrest

theorem Backed.run (h : s.Backed) (hkept : s.Kept) {errands : List Errand}
    (hcalls : .sweep ∉ errands) (honce : s.ReportsOnce svc sw errands) :
    (s.run svc sw errands).Backed := by
  induction errands generalizing s with
  | nil => exact h
  | cons e rest ih =>
      obtain ⟨hcall, hrest⟩ := List.ne_and_not_mem_of_not_mem_cons hcalls
      have hstep : (s.step svc sw e).Backed := by
        cases e with
        | clock now => exact h
        | authorize tenant tool => exact h.authorize tenant tool
        | settle nth tool replay audit status =>
          exact h.settle hkept honce.1 tool replay audit status
        | sweep => exact absurd rfl hcall
      exact ih hstep (hkept.step hcall) hrest honce.2

/-- What a grant has reserved can be given back in full, if its report has not come. -/
theorem Backed.releasable_eq (h : s.Backed) (hkept : s.Kept) {g : Grant} (hg : g ∈ s.granted)
    (hopen : g.settled = false) :
    Ledger.releasable (s.world.ledger.used g.counter) g.reservation.quantity =
      g.reservation.quantity := by
  have hdue : g.dueOn g.counter = g.reservation.quantity := if_pos ⟨rfl, hopen⟩
  have hle := dueOn_le_reservedOn hg hkept.priced g.counter
  rw [hdue] at hle
  exact Ledger.releasable_eq (Int.le_of_lt (hkept.priced g hg)) (Int.le_trans hle (h g.counter))

/-- **A report is settled unless an event of some tenant carries its id.**  If none does, it is
answered that its event has been recorded; the event is at the end of the log, and a call that
failed has its units taken off its counter, down to zero: all of them, if no reservation has been
reported twice.  If one does, the report is a duplicate, and the ledger is left alone. -/
theorem settled_unless_taken {w : World} (hindex : w.ledger.Indexed) {errands : List Errand}
    (hcalls : .sweep ∉ errands) {nth : Nat} {g : Grant}
    (hg : ((start w).run svc sw errands).granted[nth]? = some g) (tool : String)
    {replay : ReplayId} (hid : replay.isEmpty = false) (audit : Option String)
    (status : Execution) :
    let s := (start w).run svc sw errands
    let report : Report := ⟨g.reservation, tool, replay, audit, status⟩
    let settled := (s.gate svc sw).settle report
    let before := s.world.ledger
    let after := settled.2.world.ledger
    let back := Ledger.releasable (before.used report.counter) g.reservation.quantity
    ((∀ e ∈ before.events, e.replay ≠ some replay) →
        settled.1 = .ok .inserted ∧
          after.events = before.events ++ [report.event (.drawn s.world.drawn) s.world.now] ∧
          (∀ k, after.used k =
            before.used k - if report.counter = k ∧ status = .failed then back else 0) ∧
          (∀ k, after.stop? k = before.stop? k) ∧
          (∀ tenant, after.entitlement? tenant = before.entitlement? tenant) ∧
          ((∀ k, 0 ≤ w.ledger.used k) → (start w).ReportsOnce svc sw errands →
            g.settled = false → back = g.reservation.quantity)) ∧
      ((∃ e ∈ before.events, e.replay = some replay) →
        settled.1 = .ok .duplicate ∧ after = before) := by
  intro s report settled before after back
  have hkept : s.Kept := (kept_start hindex).run hcalls
  have hmem := List.mem_of_getElem? hg
  have hnamed : Text.isBlankText report.reservation.tenant = false := hkept.named g hmem
  have hsettled : settled = _ := Gate.settle_reliable (g := s.gate svc sw) rfl report
  have hanswer : settled.1 = (Settlement.atOnce report s.world).1 := congrArg Prod.fst hsettled
  have hafter : after = (Settlement.atOnce report s.world).2.ledger :=
    congrArg (fun settled => settled.2.world.ledger) hsettled
  rw [hanswer, hafter]
  constructor
  · intro hfree
    obtain ⟨hinserted, hlog, hused, hstop, hterms⟩ :=
      Settlement.atOnce_of_free hkept.index hnamed hid hfree
    refine ⟨hinserted, hlog, hused, hstop, hterms, ?_⟩
    intro hnonneg honce hopen
    have hbacked : s.Backed := Backed.run (s := start w) hnonneg (kept_start hindex) hcalls honce
    exact hbacked.releasable_eq hkept hmem hopen
  · intro htaken
    exact Settlement.atOnce_of_taken hkept.index hnamed hid htaken

/-! ### Two tenants with one id -/

/-- A world with two tenants that have a unit each. -/
def twoTenants : World :=
  let globex : Entitlement := { oneUnit with tenant := "globex" }
  { oneUnitWorld with ledger := (Ledger.empty.putEntitlement oneUnit).putEntitlement globex }

theorem indexed_twoTenants : twoTenants.ledger.Indexed :=
  Ledger.indexed_empty.of_log rfl rfl

/-- Both have a search under way, and that of globex is reported. -/
def oneReported : List Errand :=
  [.authorize "globex" "search", .authorize "acme" "search",
    .settle 0 "search" "req-1" none .success]

/-- The search of acme. -/
def acmeSearch : Reservation := ⟨"acme", defaultMeter, month, 1, 1, 1, .active⟩

/-- The search of acme fails and is reported under the same id.  No event of acme carries it, and
the report is a duplicate: acme has no event, and its unit stays taken. -/
theorem swallowed_by_other_tenant :
    let s := (start twoTenants).run .standard .standard oneReported
    let report : Report := ⟨acmeSearch, "search", "req-1", none, .failed⟩
    let settled := (s.gate .standard .standard).settle report
    let after := settled.2.world.ledger
    twoTenants.ledger.Indexed ∧ .sweep ∉ oneReported ∧ s.granted[1]? = some ⟨acmeSearch, false⟩ ∧
      (∀ e ∈ s.world.ledger.events, e.tenant = "acme" → e.replay ≠ some "req-1") ∧
      settled.1 = .ok .duplicate ∧ (∀ e ∈ after.events, e.tenant ≠ "acme") ∧
      after.used ⟨"acme", defaultMeter, month.start⟩ = 1 := by
  refine ⟨indexed_twoTenants, by decide, ?_⟩
  simp only [oneReported, run, List.foldl, step, authorize_eq, settle_eq, gate,
    Gate.settle_reliable]
  decide

/-- Under an id of its own the report is recorded, and acme has its unit back. -/
theorem settled_unless_taken_two_tenants :
    let s := (start twoTenants).run .standard .standard oneReported
    let report (replay : ReplayId) : Report := ⟨acmeSearch, "search", replay, none, .failed⟩
    let settled (replay : ReplayId) := (s.gate .standard .standard).settle (report replay)
    let k : CounterKey := ⟨"acme", defaultMeter, month.start⟩
    twoTenants.ledger.Indexed ∧ .sweep ∉ oneReported ∧ s.granted[1]? = some ⟨acmeSearch, false⟩ ∧
      ((settled "req-2").1 = .ok .inserted ∧
        (settled "req-2").2.world.ledger.events =
          s.world.ledger.events ++ [(report "req-2").event (.drawn 1) s.world.now] ∧
        (settled "req-2").2.world.ledger.used k = s.world.ledger.used k - 1) ∧
      (settled "req-1").1 = .ok .duplicate ∧
        (settled "req-1").2.world.ledger = s.world.ledger := by
  intro s report settled k
  have hgranted : s.granted[1]? = some ⟨acmeSearch, false⟩ := by
    simp only [s, oneReported, run, List.foldl, step, authorize_eq, settle_eq]
    decide
  have hevents : (∀ e ∈ s.world.ledger.events, e.replay ≠ some "req-2") ∧
      (∃ e ∈ s.world.ledger.events, e.replay = some "req-1") ∧ s.world.drawn = 1 := by
    simp only [s, oneReported, run, List.foldl, step, authorize_eq, settle_eq]
    decide
  have honce : (start twoTenants).ReportsOnce .standard .standard oneReported := by
    simp only [oneReported, ReportsOnce, step, authorize_eq]
    decide
  obtain ⟨hown, -⟩ := settled_unless_taken indexed_twoTenants (by decide) hgranted "search"
    (by decide : ReplayId.isEmpty "req-2" = false) none .failed
  obtain ⟨-, hshared⟩ := settled_unless_taken indexed_twoTenants (by decide) hgranted "search"
    (by decide : ReplayId.isEmpty "req-1" = false) none .failed
  obtain ⟨hanswer, hlog, hused, -, -, hback⟩ := hown hevents.1
  have hunused : ∀ k, 0 ≤ twoTenants.ledger.used k := fun k => Int.le_refl 0
  refine ⟨indexed_twoTenants, by decide, hgranted, ⟨hanswer, ?_, ?_⟩, hshared hevents.2.1⟩
  · rw [← hevents.2.2]
    exact hlog
  · rw [hused k, if_pos ⟨rfl, rfl⟩, hback hunused honce rfl]
    rfl

end Session

end Turnstile
