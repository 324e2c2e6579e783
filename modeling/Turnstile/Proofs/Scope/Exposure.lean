/-
What a rollback can add.

Reserving checks the limit of a counter, and taking a release back does not: the units that
a scope has released may have been reserved by another when it is dropped.  `Scope.back` says
what the notes of a scope make of a count when they are followed.  A scope is harmless on a
counter with a limit if its notes do not lift a full counter above the limit
(`Scope.Harmless`); the counts of harmless rollbacks stay within the limit because following
notes preserves the order of counts.  A scope that is not harmless breaks the limit as soon as
others fill the counter.
-/
import Turnstile.Proofs.Scope.Abreast

namespace Turnstile

variable {k : CounterKey} {limit : Int}

/-! ### Counts after notes -/

/-- What a note makes of the count on a counter. -/
def Undo.back (k : CounterKey) (n : Int) : Undo → Int
  | reserved key cost => if key = k then n - Ledger.releasable n cost else n
  | released key amount => if key = k then n + amount else n
  | entitlement _ _ | period _ _ _ | event _ _ => n

/-- What the notes of a scope make of the count on a counter, the last one first. -/
def Scope.back (k : CounterKey) (s : Scope) (n : Int) : Int := s.undo.foldl (Undo.back k) n

/-- Following the notes of the scope does not lift a full counter above the limit. -/
def Scope.Harmless (k : CounterKey) (limit : Int) (s : Scope) : Prop := s.back k limit ≤ limit

instance (k : CounterKey) (limit : Int) (s : Scope) : Decidable (s.Harmless k limit) :=
  inferInstanceAs (Decidable (_ ≤ _))

theorem Undo.back_le_back (u : Undo) {n m : Int} (h : n ≤ m) : u.back k n ≤ u.back k m := by
  cases u with
  | reserved key cost =>
    simp only [back, Ledger.releasable]
    split <;> omega
  | released key amount =>
    simp only [back]
    split <;> omega
  | entitlement | period | event => exact h

/-- More units before are more units after. -/
theorem Scope.back_le_back (s : Scope) {n m : Int} (h : n ≤ m) : s.back k n ≤ s.back k m := by
  obtain ⟨tenant, undo⟩ := s
  show undo.foldl (Undo.back k) n ≤ undo.foldl (Undo.back k) m
  induction undo generalizing n m with
  | nil => exact h
  | cons u rest ih => exact ih (u.back_le_back h)

/-! ### One write -/

/-- The counter is there, and has no more units than the limit. -/
structure Ledger.Capped (k : CounterKey) (limit : Int) (l : Ledger) : Prop where
  present : (l.tally? k).isSome
  within : l.used k ≤ limit

theorem Ledger.capped_iff {l : Ledger} :
    l.Capped k limit ↔ ∃ row, l.tally? k = some row ∧ row.used ≤ limit := by
  constructor
  · rintro ⟨hpresent, hwithin⟩
    obtain ⟨row, hrow⟩ := Option.isSome_iff_exists.mp hpresent
    exact ⟨row, hrow, used_of_tally? hrow ▸ hwithin⟩
  · rintro ⟨row, hrow, hwithin⟩
    exact ⟨by rw [hrow]; rfl, (used_of_tally? hrow).symm ▸ hwithin⟩

theorem Ledger.isSome_setUsed {l : Ledger} (h : (l.tally? k).isSome) (other : CounterKey)
    (n : Int) : ((l.setUsed other n).tally? k).isSome := by
  rw [tally?_setUsed]
  split
  · next hk =>
    subst hk
    simpa using h
  · exact h

/-- A note does to a counter that is there what it makes of its count. -/
theorem Undo.apply_counter {l : Ledger} (u : Undo) (h : (l.tally? k).isSome) :
    ((u.apply l).tally? k).isSome ∧ (u.apply l).used k = u.back k (l.used k) := by
  cases u with
  | entitlement tenant previous => cases previous <;> exact ⟨h, rfl⟩
  | period tenant previous applied =>
    have hmoved := Undo.periodsMoved_apply l tenant previous applied
    exact ⟨by rw [hmoved.tally?]; exact h, hmoved.used k⟩
  | reserved key cost =>
    refine ⟨?_, ?_⟩
    · show ((l.release key cost).2.tally? k).isSome
      cases hrow : l.tally? key with
      | none => rw [Ledger.release_of_absent hrow]; exact h
      | some row => rw [Ledger.release_of_tally? hrow]; exact Ledger.isSome_setUsed h _ _
    · show (l.release key cost).2.used k = _
      rw [Ledger.used_release]
      simp only [back]
      by_cases hk : key = k
      · subst hk
        obtain ⟨row, hrow⟩ := Option.isSome_iff_exists.mp h
        rw [if_pos rfl, if_pos rfl, Ledger.release_of_tally? hrow, Ledger.used_of_tally? hrow]
      · rw [if_neg hk, if_neg hk]
  | released key amount =>
    simp only [apply, back]
    cases hrow : l.tally? key with
    | none =>
      have hk : key ≠ k := by
        rintro rfl
        rw [hrow] at h
        cases h
      exact ⟨h, (if_neg hk).symm⟩
    | some row =>
      refine ⟨Ledger.isSome_setUsed h _ _, ?_⟩
      dsimp only
      rw [Ledger.used_setUsed hrow]
      split
      · next hk =>
        subst hk
        rw [Ledger.used_of_tally? hrow]
      · rfl
  | event id replay => exact ⟨h, rfl⟩

/-- Dropping a scope does to a counter that is there what its notes make of its count. -/
theorem Scope.drop_counter {l : Ledger} (s : Scope) (h : (l.tally? k).isSome) :
    ((s.drop l).tally? k).isSome ∧ (s.drop l).used k = s.back k (l.used k) := by
  obtain ⟨tenant, undo⟩ := s
  induction undo generalizing l with
  | nil => exact ⟨h, rfl⟩
  | cons u rest ih =>
    obtain ⟨hpresent, hused⟩ := u.apply_counter h
    obtain ⟨hpresent', hused'⟩ := ih hpresent
    refine ⟨hpresent', hused'.trans ?_⟩
    rw [hused]
    rfl

/-- A scope that is harmless can be dropped at any time. -/
theorem Scope.Harmless.capped_drop {s : Scope} (h : s.Harmless k limit) {l : Ledger}
    (hl : l.Capped k limit) : (s.drop l).Capped k limit := by
  obtain ⟨hpresent, hused⟩ := s.drop_counter hl.present
  refine ⟨hpresent, ?_⟩
  rw [hused]
  exact Int.le_trans (s.back_le_back hl.within) h

/-- What a call reserves on the counter, it reserves below the limit. -/
def Scope.Call.Respects (k : CounterKey) (limit : Int) : Scope.Call → Prop
  | .reserve key _ limit' => key = k → limit' = limit
  | _ => True

instance (k : CounterKey) (limit : Int) : DecidablePred (Scope.Call.Respects k limit)
  | .reserve key _ limit' => inferInstanceAs (Decidable (key = k → limit' = limit))
  | .getEntitlement _ | .upsertEntitlement _ | .updatePeriod _ _ | .ensureCounter _ _ _
  | .release _ _ | .record _ => .isTrue trivial

/-- A counter that is there stays there. -/
theorem Scope.Write.present {s s' : Scope} {l l' : Ledger} {c : Scope.Call}
    (h : s.Write l c s' l') (hpresent : (l.tally? k).isSome) : (l'.tally? k).isSome := by
  cases h with
  | nothing => exact hpresent
  | opened meter p =>
    rw [Ledger.tally?_ensureCounter]
    split
    · rfl
    · exact hpresent
  | upserted => exact hpresent
  | moved => rwa [Ledger.tally?_setPeriod]
  | reserved | released => exact Ledger.isSome_setUsed hpresent _ _
  | recorded => rwa [Ledger.tally?_record]

/-- A call keeps the counter below the limit. -/
theorem Scope.Write.capped {s s' : Scope} {l l' : Ledger} {c : Scope.Call}
    (h : s.Write l c s' l') (hc : c.Respects k limit) (hl : l.Capped k limit) :
    l'.Capped k limit := by
  refine ⟨h.present hl.present, ?_⟩
  have hwithin := hl.within
  cases h with
  | nothing => exact hwithin
  | opened meter p => rwa [Ledger.used_ensureCounter]
  | upserted => exact hwithin
  | moved => rwa [Ledger.used_setPeriod]
  | @reserved key row cost limit' htenant hrow hfits =>
    rw [Ledger.used_setUsed hrow]
    split
    · next hk =>
      rw [← hc hk]
      exact hfits.1
    · exact hwithin
  | @released key row q htenant hrow hpos =>
    rw [Ledger.used_setUsed hrow]
    split
    · next hk =>
      subst hk
      rw [Ledger.used_of_tally? hrow] at hwithin
      omega
    · exact hwithin
  | recorded => rwa [Ledger.used_record]

/-! ### Many turns -/

/-- What a turn reserves on the counter, it reserves below the limit. -/
def Turn.Respects (k : CounterKey) (limit : Int) : Turn → Prop
  | call _ c => c.Respects k limit
  | begin _ | commit _ | drop _ => True

instance (k : CounterKey) (limit : Int) : DecidablePred (Turn.Respects k limit)
  | .call _ c => inferInstanceAs (Decidable (c.Respects k limit))
  | .begin _ | .commit _ | .drop _ => .isTrue trivial

namespace Abreast

variable {t : Abreast}

/-- A scope that the turn drops is harmless. -/
def DropsHarmless (k : CounterKey) (limit : Int) (t : Abreast) : Turn → Prop
  | .drop nth => ∀ s ∈ t.scope? nth, s.Harmless k limit
  | .begin _ | .call _ _ | .commit _ => True

instance (k : CounterKey) (limit : Int) (t : Abreast) : DecidablePred (t.DropsHarmless k limit)
  | .drop nth => inferInstanceAs (Decidable (∀ s ∈ t.scope? nth, s.Harmless k limit))
  | .begin _ | .call _ _ | .commit _ => .isTrue trivial

/-- Every scope that is dropped along the turns is harmless when it is dropped. -/
def RollbacksHarmless (k : CounterKey) (limit : Int) (t : Abreast) : List Turn → Prop
  | [] => True
  | turn :: rest => t.DropsHarmless k limit turn ∧ (t.step turn).RollbacksHarmless k limit rest

instance decidableRollbacksHarmless (k : CounterKey) (limit : Int) (t : Abreast) :
    (turns : List Turn) → Decidable (t.RollbacksHarmless k limit turns)
  | [] => .isTrue trivial
  | turn :: rest =>
    have := decidableRollbacksHarmless k limit (t.step turn) rest
    inferInstanceAs (Decidable (_ ∧ _))

theorem capped_step (hl : t.ledger.Capped k limit) {turn : Turn} (hturn : turn.Respects k limit)
    (hdrop : t.DropsHarmless k limit turn) : (t.step turn).ledger.Capped k limit := by
  rcases ledger_step t turn with hsame | ⟨nth, c, s, rfl, hs, hwrite⟩ | ⟨nth, s, rfl, hs, hback⟩
  · rw [hsame]
    exact hl
  · rw [hwrite]
    exact (Scope.write_perform c s t.ledger).capped hturn hl
  · rw [hback]
    exact (hdrop s hs).capped_drop hl

theorem capped_run (hl : t.ledger.Capped k limit) {turns : List Turn}
    (hturns : ∀ turn ∈ turns, turn.Respects k limit)
    (hdrops : t.RollbacksHarmless k limit turns) : (t.run turns).ledger.Capped k limit := by
  induction turns generalizing t with
  | nil => exact hl
  | cons turn rest ih =>
    obtain ⟨hfirst, hrest⟩ := hdrops
    rw [run_cons]
    exact ih (capped_step hl (hturns turn (by simp)) hfirst)
      (fun m hm => hturns m (by simp [hm])) hrest

/-- Others fill the counter: a new scope reserves what is left of it. -/
def filling (k : CounterKey) (limit : Int) (t : Abreast) : List Turn :=
  if t.ledger.used k < limit then
    [.begin k.tenant, .call t.scopes.length (.reserve k (limit - t.ledger.used k) limit)]
  else []

/-- Filling the counter does not drop anything, and leaves open scopes alone. -/
theorem filling_allowed (k : CounterKey) (limit : Int) {nth : Nat} {s : Scope}
    (h : t.scope? nth = some s) :
    (∀ turn ∈ t.filling k limit, turn.Respects k limit ∧ turn.Leaves nth) ∧
      t.RollbacksHarmless k limit (t.filling k limit) := by
  have hlt := lt_of_scope? h
  unfold filling
  split
  · refine ⟨?_, trivial, trivial, trivial⟩
    intro turn hturn
    simp only [List.mem_cons, List.not_mem_nil, or_false] at hturn
    rcases hturn with rfl | rfl
    · exact ⟨trivial, trivial⟩
    · exact ⟨fun _ => rfl, by unfold Turn.Leaves; omega⟩
  · exact ⟨by simp, trivial⟩

/-- After that the counter is full. -/
theorem used_filling (hnamed : Text.isBlankText k.tenant = false)
    (hl : t.ledger.Capped k limit) : (t.run (t.filling k limit)).ledger.used k = limit := by
  obtain ⟨hpresent, hwithin⟩ := hl
  obtain ⟨row, hrow⟩ := Option.isSome_iff_exists.mp hpresent
  have hused := Ledger.used_of_tally? hrow
  unfold filling
  split
  · next hroom =>
    have hopen : (t.step (.begin k.tenant)).scope? t.scopes.length = some ⟨k.tenant, []⟩ := by
      rw [step_begin hnamed, scope?_eq_some_iff]
      simp
    have hledger : (t.step (.begin k.tenant)).ledger = t.ledger := by
      rw [step_begin hnamed]
    have hfits : Ledger.Fits row.used (limit - t.ledger.used k) limit := by
      unfold Ledger.Fits
      omega
    rw [run_cons, run_cons, run_nil, ledger_call hopen, hledger,
      Scope.ledger_reserve_of_fits rfl hrow hfits, Ledger.used_setUsed hrow, if_pos rfl]
    omega
  · rw [run_nil]
    omega

/-- **As long as only harmless scopes are dropped a counter stays within its limit**, however the
calls of the scopes on it overlap.  This is exact: a scope that is still open is harmless if and only
if it can be dropped after every continuation that leaves it alone. -/
theorem ceiling_with_rollbacks {l : Ledger} {row : Tally} (hrow : l.tally? k = some row)
    (hused : row.used ≤ limit) (hnamed : Text.isBlankText k.tenant = false) {turns : List Turn}
    (hturns : ∀ turn ∈ turns, turn.Respects k limit)
    (hdrops : (idle l).RollbacksHarmless k limit turns) :
    let t := (idle l).run turns
    t.ledger.used k ≤ limit ∧
      ∀ nth s, t.scope? nth = some s → (s.Harmless k limit ↔
        ∀ more : List Turn, (∀ turn ∈ more, turn.Respects k limit ∧ turn.Leaves nth) →
          t.RollbacksHarmless k limit more →
          ((t.run more).step (.drop nth)).ledger.used k ≤ limit) := by
  intro t
  have hcapped : t.ledger.Capped k limit :=
    capped_run (Ledger.capped_iff.mpr ⟨row, hrow, hused⟩) hturns hdrops
  refine ⟨hcapped.within, fun nth s hs => ⟨?_, ?_⟩⟩
  · intro hharmless more hmore hrollbacks
    have hs' : (t.run more).scope? nth = some s := scope?_run hs fun turn h => (hmore turn h).2
    have hcapped' := capped_run hcapped (fun turn h => (hmore turn h).1) hrollbacks
    rw [ledger_drop hs']
    exact (hharmless.capped_drop hcapped').within
  · intro hall
    obtain ⟨hallowed, hrollbacks⟩ := filling_allowed k limit hs
    have hover := hall (t.filling k limit) hallowed hrollbacks
    have hs' : (t.run (t.filling k limit)).scope? nth = some s :=
      scope?_run hs fun turn h => (hallowed turn h).2
    have hcapped' := capped_run hcapped (fun turn h => (hallowed turn h).1) hrollbacks
    rw [ledger_drop hs'] at hover
    rw [(s.drop_counter hcapped'.present).2, used_filling hnamed hcapped] at hover
    exact hover

/-! ### A release that is taken back too late -/

/-- The counter of a tenant with one unit a month. -/
def unitKey : CounterKey := ⟨"acme", defaultMeter, ⟨0⟩⟩

/-- Its unit is used. -/
def fullLedger : Ledger :=
  Ledger.empty.putCounter ⟨"acme", defaultMeter, ⟨⟨0⟩, ⟨30 * Span.day⟩⟩, 1⟩

theorem tally?_fullLedger : fullLedger.tally? unitKey = some ⟨⟨30 * Span.day⟩, 1⟩ := by decide

/-- One scope releases the unit, another reserves it. -/
def contested : List Turn :=
  [.begin "acme", .begin "acme", .call 0 (.release unitKey 1), .call 1 (.reserve unitKey 1 1)]

/-- The scope that has released the unit is dropped, and two units of one are used. -/
theorem ceiling_broken_by_rollback :
    fullLedger.tally? unitKey = some ⟨⟨30 * Span.day⟩, 1⟩ ∧
      (∀ turn ∈ contested ++ [.drop 0], turn.Respects unitKey 1) ∧
      ((idle fullLedger).run contested).ledger.used unitKey = 1 ∧
      ((idle fullLedger).run (contested ++ [.drop 0])).ledger.used unitKey = 2 := by
  decide

/-- The other scope is harmless, and if it is the one that is dropped the ceiling holds. -/
theorem ceiling_with_rollbacks_contested :
    let t := (idle fullLedger).run (contested ++ [.drop 1])
    (∀ turn ∈ contested ++ [.drop 1], turn.Respects unitKey 1) ∧
      (idle fullLedger).RollbacksHarmless unitKey 1 (contested ++ [.drop 1]) ∧
      t.ledger.used unitKey ≤ 1 ∧
      ∀ nth s, t.scope? nth = some s → (s.Harmless unitKey 1 ↔
        ∀ more : List Turn, (∀ turn ∈ more, turn.Respects unitKey 1 ∧ turn.Leaves nth) →
          t.RollbacksHarmless unitKey 1 more →
          ((t.run more).step (.drop nth)).ledger.used unitKey ≤ 1) :=
  ⟨by decide, by decide, ceiling_with_rollbacks tally?_fullLedger (by decide) (by decide)
    (by decide) (by decide)⟩

end Abreast

end Turnstile
