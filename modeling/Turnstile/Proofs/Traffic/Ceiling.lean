/-
The ceiling on the units of a period.

However calls overlap, no counter ever holds more than its tenant's limit or less than
nothing, no reservation reports more than the limit, and the units on a counter are
accounted for.  The limit is checked in the same step in which the units are added, so it
does not matter what a call read earlier; what does matter is that the terms it read still
are the tenant's terms, and that a denied call takes nothing back but periods.
-/
import Turnstile.Proofs.Traffic.Balance

namespace Turnstile

namespace Ledger

/-- Every row holds between nothing and its tenant's limit. -/
def Within (limit : String → Int) (l : Ledger) : Prop :=
  ∀ k row, l.tally? k = some row → 0 ≤ row.used ∧ row.used ≤ limit k.tenant

/-- The stored limit of every tenant that has one is the limit given. -/
def Grants (limit : String → Int) (l : Ledger) : Prop :=
  ∀ tenant e, l.entitlement? tenant = some e → e.limits.monthlyUnits = limit tenant

/-- Rows that respect the limits go on doing so. -/
theorem Effect.within {P : String → Terms → Prop} {limit : String → Int} {l l' : Ledger}
    {gain : CounterKey → Int} {entry : Option Event} (hlimit : ∀ tenant, 0 ≤ limit tenant)
    (hP : ∀ tenant terms, P tenant terms → terms.limits.monthlyUnits ≤ limit tenant)
    (h : Effect P l l' gain entry) (hrows : l.Within limit) : l'.Within limit := by
  intro k row hk
  cases h with
  | moved h => exact hrows k row (h.tally? k ▸ hk)
  | ensured tenant meter p =>
    rw [tally?_ensureCounter] at hk
    split at hk
    · obtain rfl := Option.some.inj hk
      cases hold : l.tally? k with
      | none => exact ⟨Int.le_refl 0, hlimit k.tenant⟩
      | some old => exact hrows k old hold
    · exact hrows k row hk
  | @reserved k' old cost terms hrow hcost hterms hle =>
    rw [tally?_setUsed] at hk
    split at hk
    · next hkey =>
      subst hkey
      rw [hrow] at hk
      obtain rfl := Option.some.inj hk
      have hold := hrows k' old hrow
      have hmax := hP k'.tenant terms hterms
      exact ⟨by show 0 ≤ old.used + cost; omega, by show old.used + cost ≤ _; omega⟩
    · exact hrows k row hk
  | recorded e => exact hrows k row (tally?_record l e k ▸ hk)
  | released k' q =>
    cases hold : l.tally? k' with
    | none =>
      rw [release_of_absent hold] at hk
      exact hrows k row hk
    | some old =>
      rw [release_of_tally? hold, tally?_setUsed] at hk
      split at hk
      · next hkey =>
        subst hkey
        rw [hold] at hk
        obtain rfl := Option.some.inj hk
        have hrange := hrows k' old hold
        have hfloor := releasable_le_used hrange.1 q
        have hnonneg := releasable_nonneg old.used q
        exact ⟨by show 0 ≤ old.used - _; omega, by show old.used - _ ≤ _; omega⟩
      · exact hrows k row hk

end Ledger

namespace Traffic

variable {svc : Service} {sw : Sweeper} {limit : String → Int}

/-- Rows stay within the limits, if the terms that are stored do. -/
theorem within_run (hlimit : ∀ tenant, 0 ≤ limit tenant) {P : String → Terms → Prop}
    (hP : ∀ tenant terms, P tenant terms → terms.limits.monthlyUnits ≤ limit tenant)
    {t : Traffic} (h : t.Sound P) (hrows : t.world.ledger.Within limit) {moves : List Move}
    (hmoves : ∀ m ∈ moves, m.OfTools) : (t.run svc sw moves).world.ledger.Within limit := by
  have hrun : (t.run svc sw moves).Sound P ∧ (t.run svc sw moves).world.ledger.Within limit := by
    refine run_induction (P := fun t => t.Sound P ∧ t.world.ledger.Within limit) ⟨h, hrows⟩ ?_
    intro m hm t ⟨hsound, hwithin⟩
    obtain ⟨hsound', gain, entry, heffect, -⟩ := effect_step svc sw hsound (hmoves m hm)
    exact ⟨hsound', heffect.within hlimit hP hwithin⟩
  exact hrun.2

/-- A call that has been admitted was told a count within the limit. -/
theorem Sound.usedAfter_le {P : String → Terms → Prop}
    (hP : ∀ tenant terms, P tenant terms → terms.limits.monthlyUnits ≤ limit tenant)
    {t : Traffic} (h : t.Sound P) {c : ToolCall} (hc : c ∈ t.calls) {r : Reservation}
    (hr : c.reservation? = some r) : r.usedAfter ≤ limit r.tenant := by
  have hsound := (h.calls c hc).admission
  rw [ToolCall.reservation?_eq_some_iff.mp hr] at hsound
  obtain ⟨-, -, hle, terms, hterms, hunits⟩ := hsound r rfl
  have := hP r.tenant terms hterms
  omega

/-- **However calls of tools overlap, every row stays between nothing and its tenant's limit,
every admitted call is told a count within the limit, and the units on a counter are those that
were there, plus those that calls have reserved, less those that have been given back.** -/
theorem quota_ceiling {w : World} (hlimit : ∀ tenant, 0 ≤ limit tenant)
    (hgrants : w.ledger.Grants limit) (hrows : w.ledger.Within limit) {moves : List Move}
    (hmoves : ∀ m ∈ moves, m.OfTools) :
    let t := (quiet w).run svc sw moves
    t.world.ledger.Within limit ∧
      (∀ c ∈ t.calls, ∀ r, c.reservation? = some r → r.usedAfter ≤ limit r.tenant) ∧
      ∀ k, t.world.ledger.used k = w.ledger.used k + t.reserved svc k - t.returned k := by
  intro t
  let P : String → Terms → Prop := fun tenant terms => terms.limits.monthlyUnits = limit tenant
  have hP : ∀ tenant terms, P tenant terms → terms.limits.monthlyUnits ≤ limit tenant :=
    fun tenant terms h => Int.le_of_eq h
  have hstart : (quiet w).Sound P := sound_quiet hgrants
  have hsound : t.Sound P := sound_run hstart hmoves
  refine ⟨within_run hlimit hP hstart hrows hmoves, ?_, ?_⟩
  · intro c hc r hr
    exact hsound.usedAfter_le hP hc hr
  · intro k
    have hused : t.world.ledger.used k - t.net svc k = w.ledger.used k - 0 :=
      used_run hstart hmoves k
    have hnet := t.net_eq svc k
    omega

/-! ### Units given back twice -/

/-- Two calls roll the period side by side.  The first fails, and its report arrives twice without
a replay id, so that it is given back twice. -/
def lateCalls : List Move :=
  [.call "acme" "search", .call "acme" "fetch"] ++ admittedAbreast ++
    [.deliver 0 "search" "" none .failed, .deliver 0 "search" "" none .failed] ++
    settledAbreast

theorem grants_lapsedWorld : lapsedWorld.ledger.Grants (fun _ => 3) := by
  intro tenant e he
  have he : (if "acme" = tenant then some lapsedTrial else Ledger.empty.entitlement? tenant) =
      some e := (Ledger.entitlement?_putEntitlement _ _ _).symm.trans he
  split at he
  · obtain rfl := Option.some.inj he
    rfl
  · simp [Ledger.empty, Ledger.entitlement?] at he

theorem within_lapsedWorld : lapsedWorld.ledger.Within (fun _ => 3) := by
  intro k row hk
  simp [lapsedWorld, Ledger.empty, Ledger.tally?, Ledger.putEntitlement] at hk

/-- The ceiling holds for them, as it does for all calls. -/
theorem quota_ceiling_late_calls :
    let t := (quiet lapsedWorld).run .standard .standard lateCalls
    (∀ m ∈ lateCalls, m.OfTools) ∧ t.world.ledger.Within (fun _ => 3) ∧
      (∀ c ∈ t.calls, ∀ r, c.reservation? = some r → r.usedAfter ≤ 3) ∧
      ∀ k, t.world.ledger.used k =
        lapsedWorld.ledger.used k + t.reserved .standard k - t.returned k :=
  ⟨by decide, quota_ceiling (fun _ => by decide) grants_lapsedWorld
    within_lapsedWorld (by decide)⟩

example : ((quiet lapsedWorld).run .standard .standard lateCalls).returned
    ⟨"acme", defaultMeter, ⟨30 * Span.day⟩⟩ = 2 := by decide

end Traffic

end Turnstile
