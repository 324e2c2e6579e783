/-
A snapshot foretells the next admission.

A look rolls the tenant's period and reads its counter, and writes nothing; an admission rolls the
period, stores it, opens the counter and reserves on it.  Both come to the same period, whether the
stored one has ended or not, and to the same count, whether the counter is there or not.  So the
units on a snapshot and the price of a tool say whether a call will be admitted, and what a second
snapshot shows after it (`Gate.look_foretells`).
-/
import Turnstile.Proofs.Rollover.Division
import Turnstile.Proofs.Service.Admission
import Turnstile.Proofs.Service.Decision
import Turnstile.Proofs.Service.Snapshot

namespace Turnstile

/-- What a look finds where the tenant's period can be rolled. -/
theorem Look.atOnce_of_counts {svc : Service} {tenant : String} {w : World} {e : Entitlement}
    {p : Period} (hstored : w.ledger.entitlement? tenant = some e)
    (hcounts : e.period.roll? w.now = some p) :
    atOnce svc tenant w = .ok (snapshot e p (w.ledger.used ⟨tenant, svc.meter, p.start⟩)) := by
  simp [atOnce, hstored, hcounts]

/-- A look after an admission shows the same period, with the cost on its counter. -/
theorem Look.atOnce_of_welcome {svc : Service} {tenant tool : String} {w : World} {e : Entitlement}
    {p : Period} (h : Admission.Welcome svc tenant tool w e p) :
    atOnce svc tenant (Admission.atOnce svc tenant tool w).2 =
      .ok (snapshot e p
        (w.ledger.used ⟨tenant, svc.meter, p.start⟩ + svc.costs.costOf tool)) := by
  obtain ⟨-, hledger, -⟩ := Admission.atOnce_of_welcome h
  have hstored : (Admission.atOnce svc tenant tool w).2.ledger.entitlement? tenant =
      some { e with period := p } := by
    rw [hledger, Ledger.entitlement?_charged _ _ _ _ _ h.stored]
  -- the period that has been stored is the one that counts
  have hcounts : ({ e with period := p } : Entitlement).period.roll?
      (Admission.atOnce svc tenant tool w).2.now = some p := by
    rw [Admission.now_atOnce]
    exact Period.roll?_roll? h.counts
  rw [atOnce_of_counts hstored hcounts, hledger, Ledger.used_charged, if_pos rfl]
  rfl

namespace Gate

variable {g : Gate} {tenant : String} {e : Entitlement} {p : Period}

/-- **A snapshot foretells the next admission.**  Looking changes nothing.  A call of a tool that
passes the subscription and the rate check is admitted exactly if the units on the snapshot and the
price of the tool stay within the monthly units; the reservation is then in the period of the
snapshot, and a second snapshot differs from the first in the units of the call alone. -/
theorem look_foretells (hreliable : g.backend = .reliable)
    (hnamed : Text.isBlankText tenant = false)
    (hstored : g.world.ledger.entitlement? tenant = some e)
    (hcounts : e.period.roll? g.world.now = some p) (tool : String) :
    ∃ s, g.look tenant = (.ok s, g) ∧
      (({ e with period := s.period } : Entitlement).admits g.world.now = true →
        (g.world.throttle.allow tenant e.limits.ratePerMinute g.world.now).1.allowed = true →
        let answer := (g.authorize tenant tool).1
        let after := (g.authorize tenant tool).2
        let cost := g.service.costs.costOf tool
        ((∃ r, answer = .ok r) ↔ s.used + cost ≤ s.monthlyUnits) ∧
          ∀ r, answer = .ok r →
            r = ⟨tenant, g.service.meter, s.period, cost, s.monthlyUnits, s.used + cost, s.status⟩ ∧
            ∃ s', after.look tenant = (.ok s', after) ∧ s' = { s with used := r.usedAfter } ∧
              s'.remaining = max 0 (s.monthlyUnits - r.usedAfter) ∧
              (Signed64.Holds (s.monthlyUnits - s.used) →
                Signed64.Holds (s'.monthlyUnits - s'.used))) := by
  refine ⟨Look.snapshot e p (g.world.ledger.used ⟨tenant, g.service.meter, p.start⟩), ?_, ?_⟩
  · rw [look_reliable hreliable, Look.atOnce_of_counts hstored hcounts]
  · intro hadmits hallowed
    rw [authorize_reliable hreliable]
    have hwelcome : (∃ r, (Admission.atOnce g.service tenant tool g.world).1 = .ok r) ↔
        Admission.Welcome g.service tenant tool g.world e p := by
      rw [Admission.atOnce_eq_ok_iff]
      constructor
      · rintro ⟨e', p', h⟩
        obtain rfl := Option.some.inj (hstored.symm.trans h.stored)
        obtain rfl := Option.some.inj (hcounts.symm.trans h.counts)
        exact h
      · exact fun h => ⟨e, p, h⟩
    dsimp only
    refine ⟨?_, ?_⟩
    · rw [hwelcome]
      exact ⟨fun h => h.room, fun hroom => ⟨hnamed, hstored, hcounts, hadmits, hallowed, hroom⟩⟩
    · intro r hr
      have h := hwelcome.mp ⟨r, hr⟩
      rw [(Admission.atOnce_of_welcome h).1] at hr
      obtain rfl := Outcome.ok.inj hr
      have hlook := look_reliable
        (g := { g with world := (Admission.atOnce g.service tenant tool g.world).2 }) hreliable
        tenant
      rw [Look.atOnce_of_welcome h] at hlook
      refine ⟨rfl, _, hlook, rfl, Int.max_comm _ _, ?_⟩
      -- what is left is neither negative nor more than before
      intro hfits
      have hroom := h.room
      have hcost := g.service.costs.costOf_pos tool
      refine Signed64.Holds.of_le hfits ?_ ?_
      · simp only [Look.snapshot]
        omega
      · simp only [Look.snapshot]
        omega

/-- The trial has two units left when its period has ended: a search is admitted in the period that
the snapshot shows, a crawl for five units is not. -/
theorem look_foretells_trial :
    let k : CounterKey := ⟨"acme", defaultMeter, nextTrial.start⟩
    trialGate.backend = .reliable ∧ Text.isBlankText "acme" = false ∧
      trialGate.world.ledger.entitlement? "acme" = some Traffic.lapsedTrial ∧
      Traffic.lapsedTrial.period.roll? trialGate.world.now = some nextTrial ∧
      trialGate.world.ledger.used k = 1 ∧
      ∃ s, trialGate.look "acme" = (.ok s, trialGate) ∧ s.period = nextTrial ∧ s.used = 1 ∧
        (∃ r, (trialGate.authorize "acme" "search").1 = .ok r ∧ r.period = nextTrial ∧
          r.usedAfter = 2) ∧
        ¬ ∃ r, (trialGate.authorize "acme" "crawl").1 = .ok r := by
  have h := welcome_trialGate
  obtain ⟨s, hlook, hsearch⟩ := look_foretells (g := trialGate) rfl h.named h.stored h.counts "search"
  obtain ⟨s', hlook', hcrawl⟩ := look_foretells (g := trialGate) rfl h.named h.stored h.counts "crawl"
  obtain rfl : s' = s := by
    rw [hlook] at hlook'
    exact (Outcome.ok.inj (Prod.mk.inj hlook').1).symm
  have hs : s' = Look.snapshot Traffic.lapsedTrial nextTrial 1 := by
    rw [look_reliable rfl, Look.atOnce_of_counts h.stored h.counts] at hlook
    exact (Outcome.ok.inj (Prod.mk.inj hlook).1).symm
  subst hs
  obtain ⟨hadmitted, hgranted⟩ := hsearch h.admits h.allowed
  obtain ⟨r, hr⟩ := hadmitted.mpr (by decide)
  obtain ⟨rfl, -⟩ := hgranted r hr
  refine ⟨rfl, h.named, h.stored, h.counts, by decide, _, hlook, rfl, rfl, ⟨_, hr, rfl, rfl⟩, ?_⟩
  rw [(hcrawl h.admits h.allowed).1]
  decide

end Gate

end Turnstile
