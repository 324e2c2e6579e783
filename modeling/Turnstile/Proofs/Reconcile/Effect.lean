/-
What a sweep makes of a ledger.

`Ledger.Reconciled` says of every row after a sweep what it is, from the rows before it.  A
counter that the second pass opens takes its end from the rolled period and its units from the
first pass; every other counter keeps its end and has its units counted anew from the log, over
the bounds that it was found with.  The periods that had ended are rolled, and nothing else
about an entitlement changes.

None of this speaks of the order in which rows are listed, and it leaves no row open
(`Reconciled.unique`), so a sweep is the same in any order (`Sweep.atOnce_any_order`).
-/
import Turnstile.Proofs.Reconcile.Repeat

namespace Turnstile

namespace Ledger

/-- The second ledger is what a sweep at `now` makes of the first. -/
structure Reconciled (meter : String) (now : Instant) (l l' : Ledger) : Prop where
  events : l'.events = l.events
  replays : l'.replays = l.replays
  /-- A period that has ended is rolled, and the counter of the new one is there. -/
  ended : ∀ tenant e, l.entitlement? tenant = some e → e.isExpired now = true →
    ∃ p, e.period.roll? now = some p ∧ l'.entitlement? tenant = some { e with period := p } ∧
      l'.tally? ⟨tenant, meter, p.start⟩ = some ⟨p.stop, l.recount ⟨tenant, meter, p.start⟩⟩
  /-- Every other entitlement stays as it is. -/
  running : ∀ tenant e, l.entitlement? tenant = some e → e.isExpired now = false →
    l'.entitlement? tenant = some e
  absent : ∀ tenant, l.entitlement? tenant = none → l'.entitlement? tenant = none
  /-- Every other counter is recounted from the log. -/
  others : ∀ k, (∀ e p, l.entitlement? k.tenant = some e → e.isExpired now = true →
      e.period.roll? now = some p → ⟨k.tenant, meter, p.start⟩ ≠ k) →
    l'.tally? k = (l.tally? k).map (l.recounted k)

variable {meter tenant : String} {now : Instant} {l l' l₁ l₂ : Ledger}

/-- Where two ledgers agree on a tenant's rows and on what the log says of its periods, they agree
on its rows once they are reconciled. -/
theorem Reconciled.agree (h₁ : l.Reconciled meter now l₁) (h₂ : l'.Reconciled meter now l₂)
    (hstored : l'.entitlement? tenant = l.entitlement? tenant)
    (hrows : ∀ k : CounterKey, k.tenant = tenant → l'.tally? k = l.tally? k)
    (hsum : ∀ meter p, l'.sum tenant meter p = l.sum tenant meter p) :
    l₂.entitlement? tenant = l₁.entitlement? tenant ∧
      ∀ k : CounterKey, k.tenant = tenant → l₂.tally? k = l₁.tally? k := by
  have hrecounted (k : CounterKey) (hk : k.tenant = tenant) :
      (l'.tally? k).map (l'.recounted k) = (l.tally? k).map (l.recounted k) := by
    subst hk
    rw [hrows k rfl]
    refine congrArg (Option.map · (l.tally? k)) (funext fun row => ?_)
    unfold recounted
    rw [hsum]
  refine ⟨?_, ?_⟩
  · cases he : l.entitlement? tenant with
    | none => rw [h₁.absent tenant he, h₂.absent tenant (hstored.trans he)]
    | some e =>
      have he' := hstored.trans he
      cases hexpired : e.isExpired now with
      | false => rw [h₁.running tenant e he hexpired, h₂.running tenant e he' hexpired]
      | true =>
        obtain ⟨p, hp, hrolled, -⟩ := h₁.ended tenant e he hexpired
        obtain ⟨p', hp', hrolled', -⟩ := h₂.ended tenant e he' hexpired
        obtain rfl := Option.some.inj (hp.symm.trans hp')
        rw [hrolled, hrolled']
  · rintro k rfl
    by_cases hopened : ∃ e p, l.entitlement? k.tenant = some e ∧ e.isExpired now = true ∧
        e.period.roll? now = some p ∧ ⟨k.tenant, meter, p.start⟩ = k
    · obtain ⟨e, p, he, hexpired, hp, hk⟩ := hopened
      obtain ⟨p₁, hp₁, -, hopened₁⟩ := h₁.ended k.tenant e he hexpired
      obtain ⟨p₂, hp₂, -, hopened₂⟩ := h₂.ended k.tenant e (hstored.trans he) hexpired
      obtain rfl := Option.some.inj (hp.symm.trans hp₁)
      obtain rfl := Option.some.inj (hp.symm.trans hp₂)
      rw [hk] at hopened₁ hopened₂
      rw [hopened₁, hopened₂]
      unfold recount
      rw [hrecounted k rfl]
    · have hother : ∀ e p, l.entitlement? k.tenant = some e → e.isExpired now = true →
          e.period.roll? now = some p → ⟨k.tenant, meter, p.start⟩ ≠ k :=
        fun e p he hexpired hp hk => hopened ⟨e, p, he, hexpired, hp, hk⟩
      rw [h₁.others k hother, h₂.others k (hstored ▸ hother), hrecounted k rfl]

/-- **There is only one ledger that a sweep can leave.** -/
theorem Reconciled.unique (h₁ : l.Reconciled meter now l₁) (h₂ : l.Reconciled meter now l₂) :
    l₁ = l₂ := by
  have hagree (tenant : String) : l₁.entitlement? tenant = l₂.entitlement? tenant ∧
      ∀ k : CounterKey, k.tenant = tenant → l₁.tally? k = l₂.tally? k :=
    h₂.agree h₁ rfl (fun _ _ => rfl) fun _ _ => rfl
  have hentitlements : l₁.entitlements = l₂.entitlements :=
    Std.ExtTreeMap.ext_getElem? fun tenant => (hagree tenant).1
  refine ext_rows hentitlements (fun k => (hagree k.tenant).2 k rfl) ?_ ?_
  · rw [h₁.events, h₂.events]
  · rw [h₁.replays, h₂.replays]

end Ledger

namespace Sweep

variable {sw : Sweeper} {w : World} {report : SweepReport}

/-- What a sweep does to the entitlements, one by one. -/
theorem entitlement?_atOnce_rolled (hlisting : sw.listing.Faithful) (hkeyed : w.ledger.Keyed)
    (h : (atOnce sw w).1 = .ok report) {e : Entitlement} (he : e ∈ w.ledger.expired w.now)
    {p : Period} (hp : e.period.roll? w.now = some p) :
    (atOnce sw w).2.ledger.entitlement? e.tenant = some { e with period := p } := by
  have hrolls := rolls_atOnce hlisting h
  obtain ⟨l, rest, hfirst, hlisted, heq⟩ := atOnce_eq hlisting w
  obtain ⟨⟨tenant, hstored⟩, -⟩ := Ledger.mem_expired.mp he
  have hsame : l.entitlement? e.tenant = some e := by
    unfold Ledger.entitlement? at hstored ⊢
    rw [hfirst.entitlements, hkeyed tenant e hstored, hstored]
  rw [heq]
  dsimp only [World.withLedger]
  rw [entitlement?_rollRows (Ledger.pairwise_expired hkeyed hlisted)
    (fun e he => hrolls e (hlisted.mem_iff.mp he)) (hlisted.mem_iff.mpr he) hp, hsame]
  rfl

theorem entitlement?_atOnce_absent (hlisting : sw.listing.Faithful) (hkeyed : w.ledger.Keyed)
    {tenant : String} (habsent : w.ledger.entitlement? tenant = none) :
    (atOnce sw w).2.ledger.entitlement? tenant = none := by
  have hterms : (atOnce sw w).2.ledger.terms? tenant = w.ledger.terms? tenant :=
    sameTerms_atOnce hlisting hkeyed tenant
  unfold Ledger.terms? at hterms
  rw [habsent] at hterms
  exact Option.map_eq_none_iff.mp hterms

/-- **A sweep that answers reconciles the ledger.** -/
theorem reconciled_atOnce (hlisting : sw.listing.Faithful) (hkeyed : w.ledger.Keyed)
    (h : (atOnce sw w).1 = .ok report) :
    w.ledger.Reconciled sw.meter w.now (atOnce sw w).2.ledger where
  events := (log_atOnce hlisting hkeyed).1
  replays := (log_atOnce hlisting hkeyed).2
  ended tenant e hstored hexpired := by
    obtain rfl : e.tenant = tenant := hkeyed tenant e hstored
    have he := Ledger.mem_expired.mpr ⟨⟨_, hstored⟩, hexpired⟩
    obtain ⟨p, hp⟩ := rolls_atOnce hlisting h e he
    exact ⟨p, hp, entitlement?_atOnce_rolled hlisting hkeyed h he hp,
      tally?_atOnce_opened hlisting hkeyed h he hp⟩
  running tenant e hstored hrunning := entitlement?_atOnce hlisting hkeyed hstored hrunning
  absent tenant habsent := entitlement?_atOnce_absent hlisting hkeyed habsent
  others k hk := by
    refine tally?_atOnce_of_ne hlisting ?_
    intro e he p hp heq
    obtain ⟨⟨tenant, hstored⟩, hexpired⟩ := Ledger.mem_expired.mp he
    obtain rfl : e.tenant = tenant := hkeyed tenant e hstored
    subst heq
    exact hk e p hstored hexpired hp rfl

/-- Whatever order the rows are listed in, a sweep that can roll every period ends the same. -/
theorem atOnce_any_order {sw' : Sweeper} (hmeter : sw'.meter = sw.meter)
    (hlisting : sw.listing.Faithful) (hlisting' : sw'.listing.Faithful) (hkeyed : w.ledger.Keyed)
    (hrolls : ∀ e ∈ w.ledger.expired w.now, ∃ p, e.period.roll? w.now = some p) :
    atOnce sw' w = atOnce sw w := by
  have hanswer := answer_atOnce hlisting hrolls
  have hanswer' := answer_atOnce hlisting' hrolls
  have hfound := reconciled_atOnce hlisting hkeyed hanswer
  have hfound' := reconciled_atOnce hlisting' hkeyed hanswer'
  rw [hmeter] at hfound'
  refine Prod.ext (hanswer'.trans hanswer.symm) ?_
  exact congrArg w.withLedger (hfound'.unique hfound)

end Sweep

namespace Gate

/-- **The exact effect of a sweep.**  It answers with the number of counters that disagreed with the
log and the number of periods that had ended, and leaves the one ledger that is reconciled with the
one it found.  The third of three sweeps at one time, in whatever order each lists its rows, has
nothing to do. -/
theorem sweep_effect {g : Gate} (hreliable : g.backend = .reliable)
    (hlisting : g.sweeper.listing.Faithful) (hkeyed : g.world.ledger.Keyed)
    (hrolls : ∀ e ∈ g.world.ledger.expired g.world.now, ∃ p, e.period.roll? g.world.now = some p) :
    let after := g.sweep.2
    g.sweep.1 = .ok ⟨g.world.ledger.strays.length,
        (g.world.ledger.expired g.world.now).length⟩ ∧
      g.world.ledger.Reconciled g.sweeper.meter g.world.now after.world.ledger ∧
      after = { g with world := g.world.withLedger after.world.ledger } ∧
      ((∀ tenant e, g.world.ledger.entitlement? tenant = some e → e.period.Whole) →
        g.world.now.Whole → ∀ second third : Sweeper, second.listing.Faithful →
          third.listing.Faithful →
          let again := ({ after with sweeper := second } : Gate).sweep.2
          ({ again with sweeper := third } : Gate).sweep.1 = .ok ⟨0, 0⟩) := by
  have hanswer := Sweep.answer_atOnce hlisting hrolls
  simp only [sweep_reliable, hreliable]
  refine ⟨hanswer, Sweep.reconciled_atOnce hlisting hkeyed hanswer, rfl, ?_⟩
  intro hwhole hnow second third hsecond hthird
  exact Sweep.atOnce_thrice hlisting hsecond hthird hkeyed hwhole hnow hanswer

end Gate

/-- Rows from the last key to the first. -/
def Listing.reversed : Listing :=
  ⟨fun l => l.counterRows.reverse, fun l now => (l.expired now).reverse⟩

theorem Listing.faithful_reversed : Listing.reversed.Faithful :=
  ⟨fun _ => List.reverse_perm _, fun _ _ => List.reverse_perm _⟩

/-- The sweep after the late report repairs the counter of the first month and opens the one of the
next month.  Two more, from the last row to the first, leave nothing to do. -/
theorem Session.sweep_effect_late_report :
    let after := lateGate.sweep.2
    (∀ e ∈ lateGate.world.ledger.expired lateGate.world.now,
        ∃ p, e.period.roll? lateGate.world.now = some p) ∧
      lateGate.sweep.1 = .ok ⟨1, 1⟩ ∧
      lateGate.world.ledger.Reconciled defaultMeter lateGate.world.now after.world.ledger ∧
      let again := ({ after with sweeper := ⟨defaultMeter, .reversed⟩ } : Gate).sweep.2
      ({ again with sweeper := ⟨defaultMeter, .reversed⟩ } : Gate).sweep.1 = .ok ⟨0, 0⟩ := by
  -- all that is left to ask of this one ledger
  have hlate : lateGate.world.ledger.Keyed ∧
      (∀ e ∈ lateGate.world.ledger.expired lateGate.world.now,
        e.period.roll? lateGate.world.now = some nextMonth) ∧
      (∀ row ∈ lateGate.world.ledger.entitlements.toList, row.2.period.Whole) ∧
      lateGate.world.now.Whole ∧
      lateGate.world.ledger.strays.length = 1 ∧
      (lateGate.world.ledger.expired lateGate.world.now).length = 1 := by
    simp only [lateGate, gate, lateReport, run, List.foldl, step, authorize_eq, settle_eq]
    decide
  obtain ⟨hkeyed, hroll, hwhole, hnow, hstrays, hexpired⟩ := hlate
  have hrolls : ∀ e ∈ lateGate.world.ledger.expired lateGate.world.now,
      ∃ p, e.period.roll? lateGate.world.now = some p := fun e he => ⟨nextMonth, hroll e he⟩
  obtain ⟨hanswer, hreconciled, -, hclean⟩ :=
    Gate.sweep_effect (g := lateGate) rfl Listing.faithful_sorted hkeyed hrolls
  rw [hstrays, hexpired] at hanswer
  exact ⟨hrolls, hanswer, hreconciled, hclean (Ledger.forall_entitlement_iff.mpr hwhole) hnow _ _
    Listing.faithful_reversed Listing.faithful_reversed⟩

end Turnstile
