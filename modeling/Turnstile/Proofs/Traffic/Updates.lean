/-
Two changes of one subscription.

A change reads the whole entitlement of its tenant, replaces the parts that billing has
reported, and writes the whole entitlement in a later step.  What another change has written in
between is written over, the parts that billing has not reported with the rest.

How two changes get on with each other is a matter of their phases (`Sync.phase`): each waits,
then holds what it has made of what it has read, and then has written it.  One step of either is
`Sync.Next`, and all that the two can come to is `Raced`, with the one that writes first put
first.  If at no time both hold, the second has read what the first has written, and the end is
that of the two in a row.  If both hold at some time, the second writes what it has made without
the first.  Nothing is lost by that exactly if the second brings itself all that the first would
have changed, or the first has nothing to change in what the second has made
(`Traffic.updates_kept_iff`).
-/
import Mathlib.Data.List.Induction
import Turnstile.Proofs.Traffic.Cancellation
import Turnstile.Proofs.Traffic.Periods

namespace Turnstile

/-- The entitlement apart from the time of its last change. -/
def Entitlement.undated (e : Entitlement) : Entitlement := { e with updatedAt := ⟨0⟩ }

/-! ### Changes in a row -/

namespace SubscriptionUpdate

variable {u v : SubscriptionUpdate} {graceDays : Int} {now now' : Instant} {e : Entitlement}

theorem undated_apply (u : SubscriptionUpdate) (graceDays : Int) (now : Instant)
    (e : Entitlement) : (u.apply graceDays now e).undated = u.apply graceDays ⟨0⟩ e := rfl

/-- Where this change has nothing to say of a part, the other leaves it as it is. -/
structure Hides (v u : SubscriptionUpdate) (e : Entitlement) : Prop where
  plan : v.plan = none → ∀ plan ∈ u.plan, plan = e.plan
  limits : v.limits = none → ∀ limits ∈ u.limits, limits = e.limits
  period : v.period = none → ∀ period ∈ u.period, period = e.period

/-- The entitlement has already all that the change says. -/
structure Agrees (u : SubscriptionUpdate) (e : Entitlement) : Prop where
  status : u.status = e.status
  plan : ∀ plan ∈ u.plan, plan = e.plan
  limits : ∀ limits ∈ u.limits, limits = e.limits
  period : ∀ period ∈ u.period, period = e.period

theorem getD_eq_iff {α : Type} {o : Option α} {a : α} : a = o.getD a ↔ ∀ b ∈ o, b = a := by
  cases o with
  | none => simp
  | some b => simp [eq_comm]

theorem getD_getD_eq_iff {α : Type} {o o' : Option α} {a : α} :
    o.getD a = o.getD (o'.getD a) ↔ (o = none → ∀ b ∈ o', b = a) := by
  cases o with
  | none => simp [getD_eq_iff]
  | some b => simp

/-- A change makes the same with another before it or without, exactly if it hides the other. -/
theorem apply_eq_iff_hides :
    v.apply graceDays now e = v.apply graceDays now (u.apply graceDays now' e) ↔ v.Hides u e := by
  simp only [apply, Entitlement.mk.injEq, true_and, and_true, getD_getD_eq_iff]
  constructor
  · rintro ⟨hplan, hlimits, hperiod, -⟩
    exact ⟨hplan, hlimits, hperiod⟩
  · rintro ⟨hplan, hlimits, hperiod⟩
    refine ⟨hplan, hlimits, hperiod, ?_⟩
    rw [getD_getD_eq_iff.mpr hperiod]

/-- A change that comes after another leaves what that has made, exactly if it agrees with it. -/
theorem apply_eq_iff_agrees :
    v.apply graceDays now e = u.apply graceDays now (v.apply graceDays now' e) ↔
      u.Agrees (v.apply graceDays now' e) := by
  constructor
  · intro h
    simp only [apply, Entitlement.mk.injEq, true_and, and_true] at h
    obtain ⟨hplan, hstatus, hlimits, hperiod, -⟩ := h
    exact ⟨hstatus.symm, getD_eq_iff.mp hplan, getD_eq_iff.mp hlimits, getD_eq_iff.mp hperiod⟩
  · rintro ⟨hstatus, hplan, hlimits, hperiod⟩
    have hplan' := getD_eq_iff.mpr hplan
    have hlimits' := getD_eq_iff.mpr hlimits
    have hperiod' := getD_eq_iff.mpr hperiod
    simp only [apply] at hstatus hplan' hlimits' hperiod'
    simp only [apply, Entitlement.mk.injEq, true_and, and_true]
    exact ⟨hplan', hstatus.symm, hlimits', hperiod', by rw [← hperiod', hstatus]⟩

/-- Two changes of what is stored start from the same, as far as what they leave of it goes. -/
theorem apply_base?_eq {tenant : String} {stored : Option Entitlement} {base base' : Entitlement}
    (h : u.base? tenant stored = some base) (h' : v.base? tenant stored = some base') :
    u.apply graceDays now base = u.apply graceDays now base' := by
  cases stored with
  | some e =>
    obtain rfl : e = base := Option.some.inj h
    obtain rfl : e = base' := Option.some.inj h'
    rfl
  | none =>
    unfold base? at h h'
    split at h
    · contradiction
    · next plan period hplan hperiod =>
      split at h'
      · contradiction
      · obtain rfl := Option.some.inj h
        obtain rfl := Option.some.inj h'
        simp [apply, hplan, hperiod, Entitlement.new]
      · cases h'
    · cases h

/-- What this change has written loses nothing of the other: it brings all that the other would have
changed, or the other has nothing to change in it. -/
def Spares (v u : SubscriptionUpdate) (tenant : String) (stored : Option Entitlement)
    (written : Entitlement) : Prop :=
  (∀ base ∈ v.base? tenant stored, v.Hides u base) ∨ u.Agrees written

/-- What the change makes of what is stored, at some time. -/
structure Makes (svc : Service) (tenant : String) (u : SubscriptionUpdate)
    (stored : Option Entitlement) (e : Entitlement) : Prop where
  named : Text.isBlankText tenant = false
  made : ∃ base now, u.base? tenant stored = some base ∧ e = u.apply svc.graceDays now base

end SubscriptionUpdate

/-- The entitlement of the tenant apart from the time of its last change. -/
def Ledger.row? (tenant : String) (l : Ledger) : Option Entitlement :=
  (l.entitlement? tenant).map Entitlement.undated

section InTurn

variable {tenant : String} {u v : SubscriptionUpdate} {w : World}

theorem Sync.entitlement?_atOnce (svc : Service) (hkeyed : w.ledger.Keyed)
    (hnamed : Text.isBlankText tenant = false) {base : Entitlement}
    (hbase : u.base? tenant (w.ledger.entitlement? tenant) = some base) :
    (atOnce svc tenant u w).2.ledger.entitlement? tenant =
      some (u.apply svc.graceDays w.now base) := by
  have hbase' : base.tenant = tenant := tenant_of_base? hbase fun e he => hkeyed tenant e he
  have hname : (u.apply svc.graceDays w.now base).tenant = tenant := hbase'
  unfold atOnce
  rw [if_neg (by simp [hnamed]), hbase]
  dsimp only [World.withLedger]
  split
  · rw [Ledger.entitlement?_ensureCounter, Ledger.entitlement?_putEntitlement, if_pos hname]
  · rw [Ledger.entitlement?_putEntitlement, if_pos hname]

/-- Two changes with nothing in between: the second changes what the first has written. -/
theorem Gate.row?_sync_sync {g : Gate} (hreliable : g.backend = .reliable)
    (hkeyed : g.world.ledger.Keyed) (hnamed : Text.isBlankText tenant = false) {base : Entitlement}
    (hbase : u.base? tenant (g.world.ledger.entitlement? tenant) = some base) :
    ((g.sync tenant u).2.sync tenant v).2.world.ledger.row? tenant =
      some (v.apply g.service.graceDays ⟨0⟩ (u.apply g.service.graceDays ⟨0⟩ base)) := by
  have hfirst := Sync.entitlement?_atOnce g.service hkeyed hnamed hbase
  have hkeyed' : (Sync.atOnce g.service tenant u g.world).2.ledger.Keyed :=
    Sync.keyed_atOnce hkeyed tenant u
  have hsecond := Sync.entitlement?_atOnce g.service (u := v) hkeyed' hnamed
    (congrArg (v.base? tenant) hfirst)
  rw [sync_reliable hreliable]
  dsimp only
  rw [sync_reliable (g := { g with world := (Sync.atOnce g.service tenant u g.world).2 }) hreliable]
  unfold Ledger.row?
  dsimp only
  rw [hsecond]
  rfl

/-- Of two changes of what is stored, the row of one is that of both in a row, in one of the two
orders, exactly if it spares the other. -/
theorem SubscriptionUpdate.Makes.spares_iff {g : Gate} (hreliable : g.backend = .reliable)
    (hkeyed : g.world.ledger.Keyed) {x y : Entitlement}
    (hx : u.Makes g.service tenant (g.world.ledger.entitlement? tenant) x)
    (hy : v.Makes g.service tenant (g.world.ledger.entitlement? tenant) y) :
    (some y.undated = ((g.sync tenant u).2.sync tenant v).2.world.ledger.row? tenant ∨
        some y.undated = ((g.sync tenant v).2.sync tenant u).2.world.ledger.row? tenant) ↔
      v.Spares u tenant (g.world.ledger.entitlement? tenant) y := by
  obtain ⟨hnamed, base, -, hbase, -⟩ := hx
  obtain ⟨-, base', now, hbase', rfl⟩ := hy
  rw [Gate.row?_sync_sync hreliable hkeyed hnamed hbase,
    Gate.row?_sync_sync hreliable hkeyed hnamed hbase', undated_apply, Option.some.injEq,
    Option.some.injEq, apply_base?_eq hbase hbase', apply_eq_iff_hides]
  have hagrees : v.apply g.service.graceDays ⟨0⟩ base' =
      u.apply g.service.graceDays ⟨0⟩ (v.apply g.service.graceDays now base') ↔
        u.Agrees (v.apply g.service.graceDays now base') := apply_eq_iff_agrees
  unfold Spares
  refine or_congr ?_ hagrees
  simp [hbase']

end InTurn

/-! ### One step of a change -/

/-- How far a change has come with the entitlement. -/
inductive Sync.Phase
  /-- It has not read. -/
  | waiting
  /-- It has read, and has still to write. -/
  | holding (e : Entitlement)
  /-- It has written. -/
  | written (e : Entitlement)
  /-- It will not write. -/
  | failed

/-- Has the change still to write what it has made? -/
def Sync.Phase.isHolding : Phase → Bool
  | holding _ => true
  | _ => false

namespace Sync

variable {svc : Service} {tenant : String} {u v : SubscriptionUpdate}

/-- How far the change has come. -/
def phase : Sync → Phase
  | arriving _ _ | reading _ _ => .waiting
  | writing _ _ e => .holding e
  | ensuring _ e | committing _ e | finished (.ok e) => .written e
  | closing _ _ | finished _ => .failed

theorem isWriting_eq (s : Sync) : s.isWriting = s.phase.isHolding := by
  cases s with
  | finished answer => cases answer <;> rfl
  | _ => rfl

/-- The change is the one given, of the tenant given. -/
def Of (tenant : String) (u : SubscriptionUpdate) : Sync → Prop
  | arriving name update => name = tenant ∧ update = u
  | reading scope update =>
    scope.tenant = tenant ∧ Text.isBlankText tenant = false ∧ update = u
  | writing scope _ _ => scope.tenant = tenant
  | closing _ answer => ∀ e, answer ≠ .ok e
  | ensuring _ _ | committing _ _ | finished _ => True

/-- What one step does to the phase, and to what is stored for the tenant. -/
inductive Next (svc : Service) (tenant : String) (u : SubscriptionUpdate) :
    Phase → Option Entitlement → Phase → Option Entitlement → Prop
  | still (p : Phase) (stored : Option Entitlement) : Next svc tenant u p stored p stored
  | refused (stored : Option Entitlement) : Next svc tenant u .waiting stored .failed stored
  | read {stored : Option Entitlement} {e : Entitlement} (h : u.Makes svc tenant stored e) :
      Next svc tenant u .waiting stored (.holding e) stored
  | wrote (e : Entitlement) (stored : Option Entitlement) :
      Next svc tenant u (.holding e) stored (.written e) (some e)

theorem next_step (svc : Service) {s : Sync} (h : s.Of tenant u) (hsound : s.Sound) (w : World) :
    (s.step svc none w).1.Of tenant u ∧
      Next svc tenant u s.phase (w.ledger.entitlement? tenant) (s.step svc none w).1.phase
        ((s.step svc none w).2.ledger.entitlement? tenant) := by
  cases s with
  | arriving name update =>
    obtain ⟨rfl, rfl⟩ := h
    by_cases hblank : Text.isBlankText name = true
    · have hstep : (arriving name update).step svc none w =
          (finished (.error (.ledger .missingTenant)), w) := by
        simp [step, arrive, Scope.begin?, hblank]
      rw [hstep]
      exact ⟨trivial, .refused _⟩
    · have hstep : (arriving name update).step svc none w = (reading ⟨name, []⟩ update, w) := by
        simp [step, arrive, Scope.begin?, hblank]
      rw [hstep]
      exact ⟨⟨rfl, by simpa using hblank, rfl⟩, .still _ _⟩
  | reading scope update =>
    obtain ⟨rfl, hnamed, rfl⟩ := h
    cases hbase : update.base? scope.tenant (w.ledger.entitlement? scope.tenant) with
    | none =>
      have hstep : (reading scope update).step svc none w =
          (closing scope (.error (.ledger (.noEntitlement scope.tenant))), w) := by
        simp [step, read, Scope.getEntitlement, hbase]
      rw [hstep]
      refine ⟨?_, .refused _⟩
      intro e he
      cases he
    | some base =>
      have hstep : (reading scope update).step svc none w =
          (writing scope update (update.apply svc.graceDays w.now base), w) := by
        simp [step, read, Scope.getEntitlement, hbase]
      rw [hstep]
      exact ⟨rfl, .read ⟨hnamed, base, w.now, hbase, rfl⟩⟩
  | writing scope update e =>
    obtain rfl : scope.tenant = tenant := h
    have hstored : ((writing scope update e).step svc none w).2.ledger.entitlement? scope.tenant =
        some e := by
      have hname : e.tenant = scope.tenant := hsound
      show (w.ledger.putEntitlement e).entitlement? scope.tenant = some e
      rw [Ledger.entitlement?_putEntitlement, if_pos hname]
    rw [hstored]
    simp only [step, write]
    split <;> exact ⟨trivial, .wrote e _⟩
  | ensuring scope e => exact ⟨trivial, .still _ _⟩
  | committing scope e => exact ⟨trivial, .still _ _⟩
  | closing scope answer =>
    have hstored : ((closing scope answer).step svc none w).2 = w := by
      show w.withLedger (scope.drop w.ledger) = w
      rw [Scope.drop, hsound]
      rfl
    rw [hstored]
    cases answer with
    | ok e => exact absurd rfl (h e)
    | error => exact ⟨trivial, .still _ _⟩
    | crashed => exact ⟨trivial, .still _ _⟩
  | finished answer => exact ⟨trivial, .still _ _⟩

/-! ### What two changes can come to -/

/-- The phases of a change that has not written: what it holds it has made of what is stored. -/
inductive Ready (svc : Service) (tenant : String) (u : SubscriptionUpdate)
    (stored : Option Entitlement) : Phase → Prop
  | waiting : Ready svc tenant u stored .waiting
  | failed : Ready svc tenant u stored .failed
  | holding {e : Entitlement} (h : u.Makes svc tenant stored e) :
      Ready svc tenant u stored (.holding e)

/-- What two changes can come to of which the second does not write before the first: their phases,
what is stored then, and whether both have held at some time. -/
inductive Raced (svc : Service) (tenant : String) (u v : SubscriptionUpdate)
    (stored₀ : Option Entitlement) : Phase → Phase → Option Entitlement → Prop → Prop
  /-- Neither has written. -/
  | level {p q : Phase} {both : Prop} (hp : Ready svc tenant u stored₀ p)
      (hq : Ready svc tenant v stored₀ q)
      (hboth : both ↔ p.isHolding = true ∧ q.isHolding = true) :
      Raced svc tenant u v stored₀ p q stored₀ both
  /-- The first has written, and the second goes by that. -/
  | ahead {x : Entitlement} {q : Phase} {both : Prop} (hx : u.Makes svc tenant stored₀ x)
      (hq : Ready svc tenant v (some x) q) (hboth : ¬ both) :
      Raced svc tenant u v stored₀ (.written x) q (some x) both
  /-- The first has written, and the second holds what it has made without that. -/
  | overlapped {x y : Entitlement} {both : Prop} (hx : u.Makes svc tenant stored₀ x)
      (hy : v.Makes svc tenant stored₀ y) (hboth : both) :
      Raced svc tenant u v stored₀ (.written x) (.holding y) (some x) both
  /-- Both have written, one after the other. -/
  | inTurn {x y : Entitlement} {both : Prop} (hx : u.Makes svc tenant stored₀ x)
      (hy : v.Makes svc tenant (some x) y) (hboth : ¬ both) :
      Raced svc tenant u v stored₀ (.written x) (.written y) (some y) both
  /-- Both have written, and the second has written over the first. -/
  | overwritten {x y : Entitlement} {both : Prop} (hx : u.Makes svc tenant stored₀ x)
      (hy : v.Makes svc tenant stored₀ y) (hboth : both) :
      Raced svc tenant u v stored₀ (.written x) (.written y) (some y) both

variable {stored₀ stored stored' : Option Entitlement} {p p' q q' : Phase} {both both' : Prop}

/-- A step of the first. -/
theorem Raced.first (h : Raced svc tenant u v stored₀ p q stored both)
    (hnext : Next svc tenant u p stored p' stored')
    (hboth' : both' ↔ both ∨ p'.isHolding = true ∧ q.isHolding = true) :
    Raced svc tenant u v stored₀ p' q stored' both' := by
  cases h with
  | level hp hq hboth =>
    cases hnext with
    | still => exact .level hp hq (by rw [hboth', hboth, or_self])
    | refused => exact .level .failed hq (by simp [hboth', hboth, Phase.isHolding])
    | read hmade => exact .level (.holding hmade) hq (by simp [hboth', hboth, Phase.isHolding])
    | wrote e =>
      cases hp with
      | holding hx =>
        cases hq with
        | waiting => exact .ahead hx .waiting (by simp [hboth', hboth, Phase.isHolding])
        | failed => exact .ahead hx .failed (by simp [hboth', hboth, Phase.isHolding])
        | holding hy => exact .overlapped hx hy (by simp [hboth', hboth, Phase.isHolding])
  | ahead hx hq hboth =>
    cases hnext with
    | still => exact .ahead hx hq (by simp [hboth', hboth, Phase.isHolding])
  | overlapped hx hy hboth =>
    cases hnext with
    | still => exact .overlapped hx hy (hboth'.mpr (.inl hboth))
  | inTurn hx hy hboth =>
    cases hnext with
    | still => exact .inTurn hx hy (by simp [hboth', hboth, Phase.isHolding])
  | overwritten hx hy hboth =>
    cases hnext with
    | still => exact .overwritten hx hy (hboth'.mpr (.inl hboth))

/-- A step of the second, with which it may become the first. -/
theorem Raced.second (h : Raced svc tenant u v stored₀ p q stored both)
    (hnext : Next svc tenant v q stored q' stored')
    (hboth' : both' ↔ both ∨ p.isHolding = true ∧ q'.isHolding = true) :
    Raced svc tenant u v stored₀ p q' stored' both' ∨
      Raced svc tenant v u stored₀ q' p stored' both' := by
  cases h with
  | level hp hq hboth =>
    -- as long as neither has written, either may be put first
    have hswapped : Raced svc tenant v u stored₀ q p stored₀ both :=
      .level hq hp (by rw [hboth, and_comm])
    exact .inr (hswapped.first hnext (by rw [hboth', and_comm]))
  | ahead hx hq hboth =>
    refine .inl ?_
    cases hnext with
    | still => exact .ahead hx hq (by simp [hboth', hboth, Phase.isHolding])
    | refused => exact .ahead hx .failed (by simp [hboth', hboth, Phase.isHolding])
    | read hmade => exact .ahead hx (.holding hmade) (by simp [hboth', hboth, Phase.isHolding])
    | wrote e =>
      cases hq with
      | holding hy => exact .inTurn hx hy (by simp [hboth', hboth, Phase.isHolding])
  | overlapped hx hy hboth =>
    refine .inl ?_
    cases hnext with
    | still => exact .overlapped hx hy (hboth'.mpr (.inl hboth))
    | wrote => exact .overwritten hx hy (hboth'.mpr (.inl hboth))
  | inTurn hx hy hboth =>
    refine .inl ?_
    cases hnext with
    | still => exact .inTurn hx hy (by simp [hboth', hboth, Phase.isHolding])
  | overwritten hx hy hboth =>
    refine .inl ?_
    cases hnext with
    | still => exact .overwritten hx hy (hboth'.mpr (.inl hboth))

/-- Where two changes have written, the row that is there is that of the two in a row, or both have
held at some time and the one that is there has to spare the other. -/
theorem Raced.kept_iff {g : Gate} (hreliable : g.backend = .reliable)
    (hkeyed : g.world.ledger.Keyed) {a b : Entitlement} {stored : Option Entitlement}
    (h : Raced g.service tenant u v (g.world.ledger.entitlement? tenant) (.written a)
      (.written b) stored both) :
    let uv := ((g.sync tenant u).2.sync tenant v).2.world.ledger.row? tenant
    let vu := ((g.sync tenant v).2.sync tenant u).2.world.ledger.row? tenant
    (stored.map Entitlement.undated = uv ∨ stored.map Entitlement.undated = vu) ↔
      (both → stored = some b ∧ v.Spares u tenant (g.world.ledger.entitlement? tenant) b ∨
        stored = some a ∧ u.Spares v tenant (g.world.ledger.entitlement? tenant) a) := by
  intro uv vu
  cases h with
  | level hp => cases hp
  | ahead hx hq => cases hq
  | inTurn hx hy hboth =>
    obtain ⟨hnamed, base, now, hbase, rfl⟩ := hx
    obtain ⟨-, base', now', hbase', rfl⟩ := hy
    obtain rfl := Option.some.inj hbase'
    have huv : some _ = uv := (Gate.row?_sync_sync hreliable hkeyed hnamed hbase).symm
    exact ⟨fun _ h => absurd h hboth, fun _ => .inl huv⟩
  | overwritten hx hy hboth =>
    have hspares := hx.spares_iff hreliable hkeyed hy
    constructor
    · intro hkept _
      exact .inl ⟨rfl, hspares.mp hkept⟩
    · intro h
      rcases h hboth with ⟨-, hb⟩ | ⟨hsame, ha⟩
      · exact hspares.mpr hb
      · -- both have written the same, and the other may as well have been the last
        obtain rfl := Option.some.inj hsame
        exact ((hy.spares_iff hreliable hkeyed hx).mpr ha).symm

/-- What two changes can come to, whoever writes first. -/
def Race (svc : Service) (tenant : String) (u v : SubscriptionUpdate)
    (stored₀ : Option Entitlement) (p q : Phase) (stored : Option Entitlement) (both : Prop) :
    Prop :=
  Raced svc tenant u v stored₀ p q stored both ∨ Raced svc tenant v u stored₀ q p stored both

theorem Race.swap (h : Race svc tenant u v stored₀ p q stored both) :
    Race svc tenant v u stored₀ q p stored both := Or.symm h

/-- A step of either. -/
theorem Race.next (h : Race svc tenant u v stored₀ p q stored both)
    (hnext : Next svc tenant u p stored p' stored') :
    Race svc tenant u v stored₀ p' q stored'
      (both ∨ p'.isHolding = true ∧ q.isHolding = true) := by
  rcases h with h | h
  · exact .inl (h.first hnext Iff.rfl)
  · exact (h.second hnext (by rw [and_comm])).symm

end Sync

/-! ### Traffic of two changes -/

/-- Is the move one of the clock and of changes of subscriptions? -/
def Move.OfSyncs : Move → Prop
  | clock _ | syncing _ => True
  | _ => False

instance : DecidablePred Move.OfSyncs
  | .clock _ | .syncing _ => .isTrue trivial
  | .upsert _ | .call _ _ | .admitting _ | .deliver _ _ _ _ _ | .settling _ _ | .sync _ _
  | .sweep | .sweeping _ => .isFalse id

namespace Traffic

variable {svc : Service} {sw : Sweeper} {t : Traffic} {tenant : String}
  {u v : SubscriptionUpdate} {stored₀ : Option Entitlement} {both : Prop}

/-- All changes that are on their way have read, and none has written. -/
def AllHold (t : Traffic) : Prop := ∀ s ∈ t.syncs, s.isWriting = true

/-- At some time they all hold what they have read. -/
def Overlap (svc : Service) (sw : Sweeper) (t : Traffic) (moves : List Move) : Prop :=
  ∃ before after, moves = before ++ after ∧ (t.run svc sw before).AllHold

theorem overlap_nil : t.Overlap svc sw [] ↔ t.AllHold := by
  constructor
  · rintro ⟨before, after, hsplit, hhold⟩
    obtain ⟨rfl, rfl⟩ := List.append_eq_nil_iff.mp hsplit.symm
    exact hhold
  · intro hhold
    exact ⟨[], [], rfl, hhold⟩

theorem overlap_concat {moves : List Move} {m : Move} :
    t.Overlap svc sw (moves ++ [m]) ↔
      t.Overlap svc sw moves ∨ (t.run svc sw (moves ++ [m])).AllHold := by
  constructor
  · rintro ⟨before, after, hsplit, hhold⟩
    rcases List.eq_nil_or_concat after with rfl | ⟨after', m', rfl⟩
    · rw [List.append_nil] at hsplit
      exact .inr (hsplit ▸ hhold)
    · rw [List.concat_eq_append, ← List.append_assoc] at hsplit
      exact .inl ⟨before, after', (List.append_inj' hsplit rfl).1, hhold⟩
  · rintro (⟨before, after, rfl, hhold⟩ | hhold)
    · exact ⟨before, after ++ [m], by simp, hhold⟩
    · exact ⟨moves ++ [m], [], by simp, hhold⟩

/-- The changes that are on their way are two of one tenant, and they have come to what two can come
to. -/
structure Races (svc : Service) (tenant : String) (u v : SubscriptionUpdate)
    (stored₀ : Option Entitlement) (both : Prop) (t : Traffic) : Prop where
  orderly : t.Orderly
  race : ∃ s s', t.syncs = [s, s'] ∧ s.Of tenant u ∧ s'.Of tenant v ∧
    Sync.Race svc tenant u v stored₀ s.phase s'.phase (t.world.ledger.entitlement? tenant) both

theorem allHold_pair {s s' : Sync} (h : t.syncs = [s, s']) :
    t.AllHold ↔ s.phase.isHolding = true ∧ s'.phase.isHolding = true := by
  simp [AllHold, h, Sync.isWriting_eq]

/-- One move. -/
theorem Races.step (sw : Sweeper) (h : t.Races svc tenant u v stored₀ both) {m : Move}
    (hm : m.OfSyncs) :
    (t.step svc sw m).Races svc tenant u v stored₀ (both ∨ (t.step svc sw m).AllHold) := by
  obtain ⟨horderly, s, s', hsyncs, hs, hs', hrace⟩ := h
  refine ⟨(orderly_step svc sw horderly m).1, ?_⟩
  have hstill : (t.step svc sw m).syncs = [s, s'] →
      (t.step svc sw m).world.ledger = t.world.ledger →
      ∃ s s', (t.step svc sw m).syncs = [s, s'] ∧ s.Of tenant u ∧ s'.Of tenant v ∧
        Sync.Race svc tenant u v stored₀ s.phase s'.phase
          ((t.step svc sw m).world.ledger.entitlement? tenant)
          (both ∨ (t.step svc sw m).AllHold) := by
    intro hafter hledger
    refine ⟨s, s', hafter, hs, hs', ?_⟩
    rw [hledger, allHold_pair hafter]
    exact hrace.next (.still _ _)
  cases m with
  | clock now => exact hstill hsyncs rfl
  | syncing nth =>
    match nth with
    | 0 =>
      have hget : t.syncs[0]? = some s := by rw [hsyncs]; rfl
      obtain ⟨hof, hnext⟩ := Sync.next_step svc hs
        (horderly.syncs s (List.mem_of_getElem? hget)) t.world
      have hafter : (t.step svc sw (.syncing 0)).syncs = [(s.step svc none t.world).1, s'] := by
        simp only [Traffic.step, stepAt_of_getElem? hget]
        rw [hsyncs]
        rfl
      refine ⟨_, s', hafter, hof, hs', ?_⟩
      rw [(getElem?_syncs_syncing svc sw hget).2, allHold_pair hafter]
      exact hrace.next hnext
    | 1 =>
      have hget : t.syncs[1]? = some s' := by rw [hsyncs]; rfl
      obtain ⟨hof, hnext⟩ := Sync.next_step svc hs'
        (horderly.syncs s' (List.mem_of_getElem? hget)) t.world
      have hafter : (t.step svc sw (.syncing 1)).syncs = [s, (s'.step svc none t.world).1] := by
        simp only [Traffic.step, stepAt_of_getElem? hget]
        rw [hsyncs]
        rfl
      refine ⟨s, _, hafter, hs, hof, ?_⟩
      rw [(getElem?_syncs_syncing svc sw hget).2, allHold_pair hafter,
        and_comm (a := s.phase.isHolding = true)]
      exact (hrace.swap.next hnext).swap
    | n + 2 =>
      -- there is no third change
      have hget : t.syncs[n + 2]? = none := by rw [hsyncs]; rfl
      refine hstill ?_ ?_
      · simp only [Traffic.step, stepAt_of_none hget]
        exact hsyncs
      · simp only [Traffic.step, stepAt_of_none hget]
  | upsert | call | admitting | deliver | settling | sync | sweep | sweeping => exact hm.elim

/-- Moves, one after another. -/
theorem races_run (sw : Sweeper) (h : t.Races svc tenant u v stored₀ t.AllHold)
    {moves : List Move} (hmoves : ∀ m ∈ moves, m.OfSyncs) :
    (t.run svc sw moves).Races svc tenant u v stored₀ (t.Overlap svc sw moves) := by
  -- on the last move, since both may have held at any time up to it
  induction moves using List.reverseRecOn with
  | nil =>
    rw [overlap_nil]
    exact h
  | append_singleton rest m ih =>
    have hrest := ih fun m' hm' => hmoves m' (by simp [hm'])
    have hstep := hrest.step sw (hmoves m (by simp))
    rw [overlap_concat, run_append]
    exact hstep

/-- **Two changes of one subscription come to what they come to in a row, in one of the two orders,
exactly if they never both hold what they have read, or what is stored in the end spares the change
that it was made without.**  The one that is stored then either brings all that the other would have
changed, or the other has nothing to change in it. -/
theorem updates_kept_iff (svc : Service) (sw : Sweeper) {w : World} (hkeyed : w.ledger.Keyed)
    (tenant : String) (u v : SubscriptionUpdate) {moves : List Move}
    (hmoves : ∀ m ∈ moves, m.OfSyncs) {a b : Entitlement} :
    let arrived := (quiet w).run svc sw [.sync tenant u, .sync tenant v]
    let t := arrived.run svc sw moves
    let g := (quiet w).gate svc sw
    let stored := w.ledger.entitlement? tenant
    let last := t.world.ledger.entitlement? tenant
    t.syncs = [.finished (.ok a), .finished (.ok b)] →
      ((t.world.ledger.row? tenant =
            ((g.sync tenant u).2.sync tenant v).2.world.ledger.row? tenant ∨
          t.world.ledger.row? tenant =
            ((g.sync tenant v).2.sync tenant u).2.world.ledger.row? tenant) ↔
        (arrived.Overlap svc sw moves →
          last = some b ∧ v.Spares u tenant stored b ∨
            last = some a ∧ u.Spares v tenant stored a)) := by
  intro arrived t g stored last hdone
  have hwaiting : arrived.Races svc tenant u v stored arrived.AllHold := by
    refine ⟨orderly_run (orderly_quiet hkeyed) _, _, _, rfl, ⟨rfl, rfl⟩, ⟨rfl, rfl⟩, .inl ?_⟩
    exact .level .waiting .waiting (allHold_pair rfl)
  obtain ⟨-, s, s', hsyncs, -, -, hrace⟩ := races_run sw hwaiting hmoves
  have hpair : [Sync.finished (.ok a), .finished (.ok b)] = [s, s'] := hdone.symm.trans hsyncs
  obtain ⟨rfl, hrest⟩ := List.cons_eq_cons.mp hpair
  obtain ⟨rfl, -⟩ := List.cons_eq_cons.mp hrest
  rcases hrace with hraced | hraced
  · exact hraced.kept_iff (g := g) rfl hkeyed
  · have hkept := hraced.kept_iff (g := g) rfl hkeyed
    rw [or_comm, or_comm (a := last = some b ∧ _)]
    exact hkept

/-! ### A plan that is lost -/

/-- Billing reports that the trial has become a subscription, with a plan. -/
def planned : SubscriptionUpdate := ⟨.active, some "max", none, none⟩

/-- It reports the same, with the limits of the plan. -/
def limited : SubscriptionUpdate := ⟨.active, none, some ⟨60, 10⟩, none⟩

/-- It reports plan and limits. -/
def complete : SubscriptionUpdate := ⟨.active, some "max", some ⟨60, 10⟩, none⟩

/-- Two changes make their steps in turn. -/
def syncedAbreast : List Move := (List.replicate 4 [.syncing 0, .syncing 1]).flatten

/-- Both are answered with success.  In a row they make a subscription with the plan and the limits,
whichever comes first; side by side the plan is lost. -/
theorem update_lost :
    let arrived := (quiet lapsedWorld).run .standard .standard
      [.sync "acme" planned, .sync "acme" limited]
    let t := arrived.run .standard .standard syncedAbreast
    let g := (quiet lapsedWorld).gate .standard .standard
    let row := { lapsedTrial with status := .active, limits := ⟨60, 10⟩ }
    lapsedWorld.ledger.Keyed ∧ (∀ m ∈ syncedAbreast, m.OfSyncs) ∧
      (∃ a b, t.syncs = [.finished (.ok a), .finished (.ok b)]) ∧
      t.world.ledger.row? "acme" = some row ∧
      ((g.sync "acme" planned).2.sync "acme" limited).2.world.ledger.row? "acme" =
        some { row with plan := "max" } ∧
      ((g.sync "acme" limited).2.sync "acme" planned).2.world.ledger.row? "acme" =
        some { row with plan := "max" } ∧
      row ≠ { row with plan := "max" } := by
  refine ⟨by decide, by decide, ⟨_, _, rfl⟩, by decide, ?_, ?_, by decide⟩
  · simp only [gate, Gate.sync_reliable]
    decide
  · simp only [gate, Gate.sync_reliable]
    decide

/-- If the change that writes last brings the limits as well, nothing is lost. -/
theorem updates_kept_iff_complete :
    let arrived := (quiet lapsedWorld).run .standard .standard
      [.sync "acme" limited, .sync "acme" complete]
    let t := arrived.run .standard .standard syncedAbreast
    let g := (quiet lapsedWorld).gate .standard .standard
    lapsedWorld.ledger.Keyed ∧ (∀ m ∈ syncedAbreast, m.OfSyncs) ∧
      ∃ a b, t.syncs = [.finished (.ok a), .finished (.ok b)] ∧
        (t.world.ledger.row? "acme" =
            ((g.sync "acme" limited).2.sync "acme" complete).2.world.ledger.row? "acme" ∨
          t.world.ledger.row? "acme" =
            ((g.sync "acme" complete).2.sync "acme" limited).2.world.ledger.row? "acme") := by
  have hkeyed : lapsedWorld.ledger.Keyed := by decide
  have hmoves : ∀ m ∈ syncedAbreast, m.OfSyncs := by decide
  have hhides : complete.Hides limited lapsedTrial :=
    ⟨nofun, nofun, fun _ period hperiod => nomatch hperiod⟩
  refine ⟨hkeyed, hmoves, _, _, rfl, ?_⟩
  refine (updates_kept_iff .standard .standard hkeyed "acme" limited complete hmoves rfl).mpr ?_
  intro _
  refine .inl ⟨by decide, .inl ?_⟩
  intro base hbase
  obtain rfl : lapsedTrial = base := Option.some.inj hbase
  exact hhides

end Traffic

end Turnstile
