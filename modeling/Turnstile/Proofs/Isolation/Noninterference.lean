/-
A tenant's day without the others.

A day is a list of occasions: requests of tenants, moves of the clock and sweeps, one after
another with nothing in between.  A tenant's own day is what is left when the requests of all
other tenants are taken out (`Occasion.concerns`).  The tenant cannot tell the two apart
(`Gate.noninterference`): its requests are answered the same, and in the end its share of the
world is the same.

The two days are followed side by side, from one world.  An occasion of both leaves the two
worlds alike, and one that is missing from the tenant's own day leaves the world like the one
before it (`Gate.Alike.attend`, `Gate.Alike.attend_of_ne`).  A sweep writes to every tenant's
rows, but to each of them by its own rows and history alone (`Ledger.Reconciled.agree`).

Two things are asked of a day.  Tenants do not use each other's replay ids, since whoever
comes second with an id is turned into a duplicate (`ReplaysApart`).  And every sweep ends
with an answer, since one that meets a period that cannot be rolled leaves the rest of the
rows as they are (`Gate.SweepsAnswer`).
-/
import Turnstile.Proofs.Isolation.Request
import Turnstile.Proofs.Reconcile.Effect

namespace Turnstile

/-- Nobody else has an entitlement. -/
def Ledger.Lone (tenant : String) (l : Ledger) : Prop :=
  ∀ other, other ≠ tenant → l.entitlement? other = none

/-! ### Days -/

/-- One thing that happens with nothing in between. -/
inductive Occasion
  | request (r : Request)
  /-- The clock is set. -/
  | clock (now : Instant)
  /-- The clock is moved; out of the calendar it does not go. -/
  | advance (span : Int)
  /-- The sweep runs, and is listed the rows in some order. -/
  | sweep (listing : Listing)

namespace Occasion

/-- The tenant whose request it is, if it is a request. -/
def tenant? : Occasion → Option String
  | request r => some r.tenant
  | clock _ | advance _ | sweep _ => none

/-- The replay id that it records, if it records one. -/
def replay? : Occasion → Option ReplayId
  | request r => r.replay?
  | clock _ | advance _ | sweep _ => none

/-- Is it the tenant's own request, or nobody's? -/
def concerns (tenant : String) (o : Occasion) : Bool := o.tenant?.all (· = tenant)

/-- What is asked of an occasion: a replay id is the tenant's own exactly if the tenant uses it, and
a sweep is listed what there is. -/
structure Fair (tenant : String) (own : ReplayId → Prop) (o : Occasion) : Prop where
  replay : ∀ id, o.replay? = some id → (own id ↔ o.tenant? = some tenant)
  listing : ∀ listing, o = sweep listing → listing.Faithful

theorem concerns_request {tenant : String} {r : Request} :
    (request r).concerns tenant = true ↔ r.tenant = tenant := by
  simp [concerns, tenant?]

end Occasion

/-- No two tenants use one replay id. -/
def ReplaysApart (day : List Occasion) : Prop :=
  ∀ o ∈ day, ∀ o' ∈ day, o.replay?.isSome = true → o.replay? = o'.replay? → o.tenant? = o'.tenant?

instance (day : List Occasion) : Decidable (ReplaysApart day) :=
  inferInstanceAs (Decidable (∀ o ∈ day, ∀ o' ∈ day, _))

/-- The replay ids that a tenant uses over a day. -/
def ReplayOf (tenant : String) (day : List Occasion) (id : ReplayId) : Prop :=
  ∃ o ∈ day, o.tenant? = some tenant ∧ o.replay? = some id

theorem ReplaysApart.fair {day : List Occasion} (h : ReplaysApart day)
    (hlistings : ∀ listing, .sweep listing ∈ day → listing.Faithful) (tenant : String)
    {o : Occasion} (ho : o ∈ day) : o.Fair tenant (ReplayOf tenant day) := by
  refine ⟨?_, fun listing hsweep => hlistings listing (hsweep ▸ ho)⟩
  intro id hid
  constructor
  · rintro ⟨o', ho', htenant, hid'⟩
    exact (h o ho o' ho' (by simp [hid]) (hid.trans hid'.symm)).trans htenant
  · intro htenant
    exact ⟨o, ho, htenant, hid⟩

/-- The world with its clock moved, if it stays in the calendar. -/
def World.moveClock (w : World) (span : Int) : World := (w.advance? span).getD w

theorem World.moveClock_eq (w : World) (span : Int) :
    w.moveClock span = w.setClock ((w.now.after? span).getD w.now) := by
  unfold moveClock advance?
  cases w.now.after? span <;> rfl

/-- Two ledgers that hold the same for a tenant hold the same for it when they are reconciled. -/
theorem Ledger.Alike.reconciled {tenant meter : String} {own : ReplayId → Prop} {now : Instant}
    {l l' l₁ l₂ : Ledger} (h : l.Alike tenant own l') (h₁ : l.Reconciled meter now l₁)
    (h₂ : l'.Reconciled meter now l₂) : l₁.Alike tenant own l₂ := by
  obtain ⟨hentitlement, hrows⟩ := h₁.agree h₂ h.entitlement h.rows h.sum
  refine ⟨hentitlement, hrows, ?_, ?_⟩
  · rw [history_of_events h₂.events, history_of_events h₁.events, h.history]
  · intro r hr
    rw [h₁.replays, h₂.replays, h.replays r hr]

namespace Gate

/-- Sweep once, with the rows listed in some order. -/
def sweepIn (g : Gate) (listing : Listing) : Swept × Gate :=
  ({ g with sweeper := ⟨g.sweeper.meter, listing⟩ } : Gate).sweep

/-- The gate after an occasion. -/
def attend (g : Gate) : Occasion → Gate
  | .request r => (g.serve r).2
  | .clock now => { g with world := g.world.setClock now }
  | .advance span => { g with world := g.world.moveClock span }
  | .sweep listing => (g.sweepIn listing).2

/-- The gate after a day. -/
def after (g : Gate) (day : List Occasion) : Gate := day.foldl attend g

/-- What the tenant is answered on an occasion. -/
def reply (tenant : String) (g : Gate) : Occasion → List Response
  | .request r => if r.tenant = tenant then [(g.serve r).1] else []
  | .clock _ | .advance _ | .sweep _ => []

/-- What the tenant is answered over a day, in the order of its requests. -/
def replies (tenant : String) (g : Gate) : List Occasion → List Response
  | [] => []
  | o :: rest => g.reply tenant o ++ (g.attend o).replies tenant rest

/-- If the sweep runs, it ends with an answer. -/
def Answered (g : Gate) : Occasion → Prop
  | .sweep listing => ∃ report, (g.sweepIn listing).1 = .ok report
  | .request _ | .clock _ | .advance _ => True

/-- Every sweep of a day ends with an answer. -/
def SweepsAnswer (g : Gate) : List Occasion → Prop
  | [] => True
  | o :: rest => g.Answered o ∧ (g.attend o).SweepsAnswer rest

/-! ### One occasion -/

section Reliable

variable {g : Gate} (h : g.backend = .reliable)

include h

theorem attend_request (r : Request) :
    g.attend (.request r) = { g with world := (r.atOnce g.service g.world).2 } := by
  simp only [attend, serve_reliable h]

theorem sweepIn_reliable (listing : Listing) :
    g.sweepIn listing = ((Sweep.atOnce ⟨g.sweeper.meter, listing⟩ g.world).1,
      { g with
        sweeper := ⟨g.sweeper.meter, listing⟩
        world := (Sweep.atOnce ⟨g.sweeper.meter, listing⟩ g.world).2 }) :=
  sweep_reliable h

theorem attend_sweep (listing : Listing) :
    g.attend (.sweep listing) =
      { g with
        sweeper := ⟨g.sweeper.meter, listing⟩
        world := (Sweep.atOnce ⟨g.sweeper.meter, listing⟩ g.world).2 } := by
  simp only [attend, sweepIn_reliable h]

end Reliable

/-- What is known of a gate at all times: its ledger is at hand, and every entitlement is stored
under the name that it carries. -/
structure Ready (g : Gate) : Prop where
  reliable : g.backend = .reliable
  keyed : g.world.ledger.Keyed

namespace Ready

variable {g : Gate}

theorem attend (h : g.Ready) {o : Occasion}
    (hlisting : ∀ listing, o = .sweep listing → listing.Faithful) : (g.attend o).Ready := by
  cases o with
  | request r =>
    rw [attend_request h.reliable]
    exact ⟨h.reliable, Request.keyed_atOnce h.keyed r⟩
  | clock now => exact ⟨h.reliable, h.keyed⟩
  | advance span =>
    refine ⟨h.reliable, ?_⟩
    show (g.world.moveClock span).ledger.Keyed
    rw [World.moveClock_eq]
    exact h.keyed
  | sweep listing =>
    rw [attend_sweep h.reliable]
    exact ⟨h.reliable, Sweep.keyed_atOnce (hlisting listing rfl) h.keyed⟩

/-- An occasion of its own day leaves a tenant by itself. -/
theorem lone_attend (h : g.Ready) {tenant : String} (hlone : g.world.ledger.Lone tenant)
    {o : Occasion} (hconcerns : o.concerns tenant = true)
    (hlisting : ∀ listing, o = .sweep listing → listing.Faithful) :
    (g.attend o).world.ledger.Lone tenant := by
  intro other hne
  cases o with
  | request r =>
    have hother : r.tenant ≠ other := Occasion.concerns_request.mp hconcerns ▸ hne.symm
    have hleft : g.world.Alike other (fun _ => False) (r.atOnce g.service g.world).2 :=
      Request.alike_of_ne g.service h.keyed hother fun _ _ => id
    rw [attend_request h.reliable]
    exact hleft.ledger.entitlement.trans (hlone other hne)
  | clock now => exact hlone other hne
  | advance span =>
    show (g.world.moveClock span).ledger.entitlement? other = none
    rw [World.moveClock_eq]
    exact hlone other hne
  | sweep listing =>
    rw [attend_sweep h.reliable]
    exact Sweep.entitlement?_atOnce_absent (hlisting listing rfl) h.keyed (hlone other hne)

end Ready

/-- Two gates of one service, with worlds that are alike for a tenant. -/
structure Alike (tenant : String) (own : ReplayId → Prop) (g g' : Gate) : Prop where
  service : g'.service = g.service
  meter : g'.sweeper.meter = g.sweeper.meter
  world : g.world.Alike tenant own g'.world

namespace Alike

variable {tenant : String} {own : ReplayId → Prop} {g g' : Gate} {o : Occasion}

/-- **An occasion of both days** ends alike. -/
theorem attend (h : g.Alike tenant own g') (hready : g.Ready) (hready' : g'.Ready)
    (hconcerns : o.concerns tenant = true) (hfair : o.Fair tenant own) (hanswered : g.Answered o)
    (hanswered' : g'.Answered o) :
    g'.reply tenant o = g.reply tenant o ∧ (g.attend o).Alike tenant own (g'.attend o) := by
  cases o with
  | request r =>
    obtain rfl := Occasion.concerns_request.mp hconcerns
    obtain ⟨hanswer, hworld⟩ := Request.endAlike g.service h.world
      fun id hid => (hfair.replay id hid).mpr rfl
    rw [attend_request hready.reliable, attend_request hready'.reliable, reply, reply,
      serve_reliable hready.reliable, serve_reliable hready'.reliable, h.service, hanswer]
    exact ⟨rfl, rfl, h.meter, hworld⟩
  | clock now => exact ⟨rfl, h.service, h.meter, h.world.setClock now⟩
  | advance span =>
    refine ⟨rfl, h.service, h.meter, ?_⟩
    show (g.world.moveClock span).Alike tenant own (g'.world.moveClock span)
    rw [World.moveClock_eq, World.moveClock_eq, h.world.now]
    exact h.world.setClock _
  | sweep listing =>
    have hlisting := hfair.listing listing rfl
    obtain ⟨report, hreport⟩ := hanswered
    obtain ⟨report', hreport'⟩ := hanswered'
    rw [sweepIn_reliable hready.reliable] at hreport
    rw [sweepIn_reliable hready'.reliable] at hreport'
    rw [attend_sweep hready.reliable, attend_sweep hready'.reliable]
    refine ⟨rfl, h.service, h.meter, ?_⟩
    have hfound := Sweep.reconciled_atOnce hlisting hready.keyed hreport
    have hfound' := Sweep.reconciled_atOnce hlisting hready'.keyed hreport'
    rw [h.world.now] at hfound'
    exact ⟨h.world.now, h.world.ledger.reconciled hfound (h.meter ▸ hfound'), h.world.throttle,
      h.world.observer⟩

/-- **A request of another tenant** leaves a gate like the one before it, and the tenant without an
answer. -/
theorem attend_of_ne (h : g.Alike tenant own g') (hready : g.Ready)
    (hconcerns : ¬ o.concerns tenant = true) (hfair : o.Fair tenant own) :
    g.reply tenant o = [] ∧ (g.attend o).Alike tenant own g' := by
  cases o with
  | request r =>
    have hne : r.tenant ≠ tenant := fun heq => hconcerns (Occasion.concerns_request.mpr heq)
    have hleft : g.world.Alike tenant own (r.atOnce g.service g.world).2 := by
      refine Request.alike_of_ne g.service hready.keyed hne fun id hid hown => ?_
      exact hne (Option.some.inj ((hfair.replay id hid).mp hown))
    rw [attend_request hready.reliable]
    exact ⟨if_neg hne, h.service, h.meter, hleft.symm.trans h.world⟩
  | clock | advance | sweep => exact absurd rfl hconcerns

/-! ### A tenant by itself -/

/-- A sweep that answers among others answers where the tenant is by itself. -/
theorem answered_of_lone (h : g.Alike tenant own g') (hready : g.Ready) (hready' : g'.Ready)
    (hlone : g'.world.ledger.Lone tenant) (hfair : o.Fair tenant own) (hanswered : g.Answered o) :
    g'.Answered o := by
  cases o with
  | request | clock | advance => trivial
  | sweep listing =>
    have hlisting := hfair.listing listing rfl
    obtain ⟨report, hreport⟩ := hanswered
    rw [sweepIn_reliable hready.reliable] at hreport
    -- what has ended is the tenant's, and has ended among the others too
    have hrolls : ∀ e ∈ g'.world.ledger.expired g'.world.now,
        ∃ p, e.period.roll? g'.world.now = some p := by
      intro e he
      obtain ⟨⟨other, hstored⟩, hexpired⟩ := Ledger.mem_expired.mp he
      obtain rfl : other = tenant := by
        by_contra hne
        exact absurd ((hlone other hne).symm.trans hstored) (by simp)
      rw [h.world.ledger.entitlement] at hstored
      rw [h.world.now] at hexpired ⊢
      exact Sweep.rolls_atOnce hlisting hreport e (Ledger.mem_expired.mpr ⟨⟨_, hstored⟩, hexpired⟩)
    rw [Answered, sweepIn_reliable hready'.reliable]
    exact ⟨_, Sweep.answer_atOnce hlisting hrolls⟩

/-! ### Whole days -/

variable {day : List Occasion}

/-- A day and the tenant's own day, begun alike, end alike, if the sweeps of both answer or the
tenant's own day begins with nobody else there. -/
theorem after (h : g.Alike tenant own g') (hready : g.Ready) (hready' : g'.Ready)
    (hfair : ∀ o ∈ day, o.Fair tenant own) (hsweeps : g.SweepsAnswer day)
    (hwithout : g'.world.ledger.Lone tenant ∨
      g'.SweepsAnswer (day.filter (·.concerns tenant))) :
    g'.replies tenant (day.filter (·.concerns tenant)) = g.replies tenant day ∧
      (g.after day).Alike tenant own (g'.after (day.filter (·.concerns tenant))) := by
  induction day generalizing g g' with
  | nil => exact ⟨rfl, h⟩
  | cons o rest ih =>
    have hnext := hfair o (by simp)
    have hrest : ∀ o ∈ rest, o.Fair tenant own := fun o ho => hfair o (by simp [ho])
    have hreadyNext := hready.attend hnext.listing
    by_cases hconcerns : o.concerns tenant = true
    · rw [List.filter_cons_of_pos hconcerns] at hwithout ⊢
      have hanswered' : g'.Answered o := by
        rcases hwithout with hlone | hsweeps'
        · exact h.answered_of_lone hready hready' hlone hnext hsweeps.1
        · exact hsweeps'.1
      obtain ⟨hreply, halike⟩ := h.attend hready hready' hconcerns hnext hsweeps.1 hanswered'
      have hwithoutNext := hwithout.imp
        (fun hlone => hready'.lone_attend hlone hconcerns hnext.listing) And.right
      obtain ⟨hreplies, hend⟩ := ih halike hreadyNext (hready'.attend hnext.listing) hrest
        hsweeps.2 hwithoutNext
      refine ⟨?_, hend⟩
      rw [replies, replies, hreply, hreplies]
    · rw [List.filter_cons_of_neg hconcerns] at hwithout ⊢
      obtain ⟨hreply, halike⟩ := h.attend_of_ne hready hconcerns hnext
      obtain ⟨hreplies, hend⟩ := ih halike hreadyNext hready' hrest hsweeps.2 hwithout
      refine ⟨?_, hend⟩
      rw [replies, hreply, hreplies, List.nil_append]

end Alike

/-- **A tenant cannot tell whether the others are there.**  Without the requests of all other tenants
its own are answered the same, and at the end of the day it has the same entitlement, counters and
events, the same bucket, and as many denials and warnings.  The sweeps of its own day have to answer
as well, which goes without saying if nobody else has an entitlement when the day begins. -/
theorem noninterference {g : Gate} (hreliable : g.backend = .reliable)
    (hkeyed : g.world.ledger.Keyed) {day : List Occasion}
    (hlistings : ∀ listing, .sweep listing ∈ day → listing.Faithful) (hapart : ReplaysApart day)
    (tenant : String) (hsweeps : g.SweepsAnswer day)
    (hwithout : g.world.ledger.Lone tenant ∨
      g.SweepsAnswer (day.filter (·.concerns tenant))) :
    let own := day.filter (·.concerns tenant)
    let w := (g.after day).world
    let w' := (g.after own).world
    g.replies tenant own = g.replies tenant day ∧
      w'.ledger.entitlement? tenant = w.ledger.entitlement? tenant ∧
      (∀ k : CounterKey, k.tenant = tenant → w'.ledger.tally? k = w.ledger.tally? k) ∧
      w'.ledger.history tenant = w.ledger.history tenant ∧
      w'.throttle.bucket? tenant = w.throttle.bucket? tenant ∧
      w'.observer.denyCount tenant = w.observer.denyCount tenant ∧
      w'.observer.hasWarned tenant = w.observer.hasWarned tenant := by
  have hfair : ∀ o ∈ day, o.Fair tenant (ReplayOf tenant day) :=
    fun o ho => hapart.fair hlistings tenant ho
  have hready : g.Ready := ⟨hreliable, hkeyed⟩
  have hsame : g.Alike tenant (ReplayOf tenant day) g := ⟨rfl, rfl, .refl g.world⟩
  obtain ⟨hreplies, hend⟩ := hsame.after hready hready hfair hsweeps hwithout
  exact ⟨hreplies, hend.world.ledger.entitlement, hend.world.ledger.rows,
    hend.world.ledger.history, hend.world.throttle.bucket?, hend.world.observer.denyCount,
    hend.world.observer.hasWarned⟩

/-! ### Two tenants -/

/-- A plan with three units, from the first month on. -/
def introduced : SubscriptionUpdate := ⟨.active, some "pro", some ⟨60, 3⟩, some Session.month⟩

/-- The report of a search that a tenant has reserved a unit for. -/
def searched (tenant : String) (replay : ReplayId) (status : Execution) : Report :=
  ⟨⟨tenant, defaultMeter, Session.month, 1, 3, 1, .active⟩, "search", replay, none, status⟩

/-- A gate that nobody has been to. -/
def newGate : Gate :=
  ⟨.standard, .standard, .reliable,
    ⟨.empty, .buckets ∅, .new .standard, ⟨10 * Span.day⟩, 0⟩⟩

/-- Two tenants search, and one of them fails; a month later the sweep runs. -/
def sharedDay : List Occasion :=
  [.request (.sync "acme" introduced), .request (.sync "globex" introduced),
    .request (.authorize "globex" "search"), .request (.authorize "acme" "search"),
    .request (.settle (searched "globex" "b" .failed)),
    .request (.settle (searched "acme" "a" .success)),
    .advance (30 * Span.day), .sweep .reversed, .request (.look "acme")]

theorem sweepsAnswer_sharedDay : newGate.SweepsAnswer sharedDay := by
  refine ⟨trivial, trivial, trivial, trivial, trivial, trivial, trivial, ⟨⟨0, 2⟩, ?_⟩, trivial,
    trivial⟩
  simp only [newGate, attend, serve_reliable, sweepIn_reliable]
  decide

/-- At the end of the day the log holds two events, one of them of the first tenant, which cannot tell
whether the other is there. -/
theorem noninterference_shared_day :
    let own := sharedDay.filter (·.concerns "acme")
    let w := (newGate.after sharedDay).world
    let w' := (newGate.after own).world
    (ReplaysApart sharedDay ∧ newGate.SweepsAnswer sharedDay) ∧
      (w.ledger.events.length = 2 ∧ (w.ledger.history "acme").length = 1) ∧
      newGate.replies "acme" own = newGate.replies "acme" sharedDay ∧
      w'.ledger.entitlement? "acme" = w.ledger.entitlement? "acme" ∧
      (∀ k : CounterKey, k.tenant = "acme" → w'.ledger.tally? k = w.ledger.tally? k) ∧
      w'.ledger.history "acme" = w.ledger.history "acme" := by
  have hapart : ReplaysApart sharedDay := by decide
  have hlistings : ∀ listing, .sweep listing ∈ sharedDay → listing.Faithful := by
    intro listing hmem
    obtain rfl : listing = .reversed := by simpa [sharedDay] using hmem
    exact Listing.faithful_reversed
  have hlone : newGate.world.ledger.Lone "acme" := by
    intro other _
    simp [newGate, Ledger.empty, Ledger.entitlement?]
  have hlog : (newGate.after sharedDay).world.ledger.events.length = 2 ∧
      ((newGate.after sharedDay).world.ledger.history "acme").length = 1 := by
    simp only [after, sharedDay, List.foldl, newGate, attend, serve_reliable, sweepIn_reliable]
    decide
  obtain ⟨hreplies, hentitlement, hrows, hhistory, -⟩ :=
    noninterference (g := newGate) rfl Ledger.keyed_empty hlistings hapart "acme"
      sweepsAnswer_sharedDay (.inl hlone)
  exact ⟨⟨hapart, sweepsAnswer_sharedDay⟩, hlog, hreplies, hentitlement, hrows, hhistory⟩

end Gate

end Turnstile
