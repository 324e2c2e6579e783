/-
Tenants that have canceled.

A canceled tenant may work up to the end of the period that it has paid.  The end that is
checked is that of the period that counts at the time of the call, and finding that period
rolls it forward past the call, so that the check is passed by every tenant whose period
can be rolled.  The end that was stored with the cancellation does not matter at all: who
is admitted is said by `canceled_admitted_iff`, in which it does not occur.
-/
import Turnstile.Proofs.Service.Admission
import Turnstile.Proofs.Traffic.Terms

namespace Turnstile

namespace Traffic

variable {svc : Service} {sw : Sweeper}

/-- The gate that the traffic goes through. -/
def gate (svc : Service) (sw : Sweeper) (t : Traffic) : Gate := ⟨svc, sw, .reliable, t.world⟩

/-- **A tenant that has canceled is admitted exactly if its period can be rolled to one that has not
ended, the limiter lets it through and there are units left in that period**, whatever has happened
since the cancellation and whatever the end of the period was then. -/
theorem canceled_admitted_iff {w : World} (hkeyed : w.ledger.Keyed) {before after : List Move}
    {tenant : String} {terms : Terms}
    (hstored : ((quiet w).run svc sw before).world.ledger.terms? tenant = some terms)
    (hcanceled : terms.status = .canceled)
    (hfree : ((quiet w).run svc sw before).Unbilled tenant)
    (hleaves : ∀ m ∈ after, m.Leaves tenant) (tool : String) :
    let t := (quiet w).run svc sw (before ++ after)
    (∃ r, ((t.gate svc sw).authorize tenant tool).1 = .ok r) ↔
      Text.isBlankText tenant = false ∧ ∃ e p, t.world.ledger.entitlement? tenant = some e ∧
        e.terms = terms ∧ e.period.roll? t.world.now = some p ∧ t.world.now ≤ p.stop ∧
        (t.world.throttle.allow tenant terms.limits.ratePerMinute t.world.now).1.allowed = true ∧
        t.world.ledger.used ⟨tenant, svc.meter, p.start⟩ + svc.costs.costOf tool ≤
          terms.limits.monthlyUnits := by
  intro t
  have hterms : t.world.ledger.terms? tenant = some terms := by
    show ((quiet w).run svc sw (before ++ after)).world.ledger.terms? tenant = some terms
    rw [run_append, terms?_run (orderly_run (orderly_quiet hkeyed) before) hfree hleaves]
    exact hstored
  have hknown : ∀ e, t.world.ledger.entitlement? tenant = some e → e.terms = terms := by
    intro e he
    rw [Ledger.terms?_of_entitlement? he] at hterms
    exact Option.some.inj hterms
  -- for a canceled tenant the subscription admits up to the end of the period
  have hadmits : ∀ (e : Entitlement) (p : Period), e.terms = terms →
      (({ e with period := p } : Entitlement).admits t.world.now = true ↔
        t.world.now ≤ p.stop) := by
    intro e p he
    have hstatus : e.status = .canceled := (congrArg Terms.status he).trans hcanceled
    simp [Entitlement.admits, hstatus]
  rw [Gate.authorize_reliable rfl]
  show (∃ r, (Admission.atOnce svc tenant tool t.world).1 = .ok r) ↔ _
  rw [Admission.atOnce_eq_ok_iff]
  constructor
  · rintro ⟨e, p, h⟩
    have he := hknown e h.stored
    refine ⟨h.named, e, p, h.stored, he, h.counts, (hadmits e p he).mp h.admits, ?_, ?_⟩
    · rw [← he]
      exact h.allowed
    · rw [← he]
      exact h.room
  · rintro ⟨hnamed, e, p, hstored', he, hcounts, hstop, hallowed, hroom⟩
    subst he
    exact ⟨e, p, hnamed, hstored', hcounts, (hadmits e p rfl).mpr hstop, hallowed, hroom⟩

/-! ### A tenant that goes on after its last period -/

/-- The trial on its tenth day. -/
def trialWorld : World := lapsedWorld.setClock ⟨10 * Span.day⟩

/-- Billing reports that the tenant has canceled. -/
def canceling : List Move :=
  [.sync "acme" ⟨.canceled, none, none, none⟩, .syncing 0, .syncing 0, .syncing 0, .syncing 0]

/-- The next day after the period, with nothing in between. -/
def afterTheEnd : List Move := [.clock ⟨31 * Span.day⟩]

/-- The trial once it has been canceled. -/
def canceledTrial : Entitlement :=
  { lapsedTrial with status := .canceled, updatedAt := ⟨10 * Span.day⟩ }

theorem keyed_trialWorld : trialWorld.ledger.Keyed :=
  Ledger.keyed_empty.putEntitlement lapsedTrial

/-- The period of a canceled tenant has ended, and it is admitted. -/
theorem canceled_admitted_after_end :
    ((quiet trialWorld).run .standard .standard canceling).world.ledger.entitlement? "acme" =
        some canceledTrial ∧
      canceledTrial.status = .canceled ∧
      canceledTrial.period.stop <
        ((quiet trialWorld).run .standard .standard (canceling ++ afterTheEnd)).world.now ∧
      ∃ r, ((((quiet trialWorld).run .standard .standard (canceling ++ afterTheEnd)).gate
        .standard .standard).authorize "acme" "search").1 = .ok r := by
  refine ⟨by decide, rfl, by decide,
    ⟨"acme", defaultMeter, ⟨⟨30 * Span.day⟩, ⟨60 * Span.day⟩⟩, 1, 3, 1, .canceled⟩, ?_⟩
  rw [Gate.authorize_reliable rfl]
  decide

/-- The cancellation, and the one thing that decides about the call after it: its units. -/
theorem canceled_admitted_iff_trial :
    let t := (quiet trialWorld).run .standard .standard (canceling ++ afterTheEnd)
    ((quiet trialWorld).run .standard .standard canceling).world.ledger.terms? "acme" =
        some canceledTrial.terms ∧
      (∀ m ∈ afterTheEnd, m.Leaves "acme") ∧
      ((∃ r, ((t.gate .standard .standard).authorize "acme" "search").1 = .ok r) ↔
        Text.isBlankText "acme" = false ∧ ∃ e p, t.world.ledger.entitlement? "acme" = some e ∧
          e.terms = canceledTrial.terms ∧ e.period.roll? t.world.now = some p ∧
          t.world.now ≤ p.stop ∧
          (t.world.throttle.allow "acme" canceledTrial.terms.limits.ratePerMinute
            t.world.now).1.allowed = true ∧
          t.world.ledger.used ⟨"acme", Service.standard.meter, p.start⟩ +
            Service.standard.costs.costOf "search" ≤ canceledTrial.terms.limits.monthlyUnits) :=
  ⟨by decide, by decide, canceled_admitted_iff keyed_trialWorld (by decide) rfl
    (by unfold Unbilled; decide) (by decide) "search"⟩

end Traffic

end Turnstile
