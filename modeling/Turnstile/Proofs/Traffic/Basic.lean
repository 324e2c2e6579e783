/-
Calls on their way, side by side.

Between two steps of one call any other call may make steps of its own.  `Traffic` is the
world together with every call that has been made of it: calls of tools, each with the
deliveries of its report, changes of subscriptions, and sweeps.  A `Move` is one thing that
can happen next: the clock is set, an entitlement is written, a call arrives, or a call that
is on its way makes its next step, which is one call to the ledger.  Nothing is refused, as
there is nothing in front of a ledger in memory.  A list of moves is an interleaving, and
every interleaving is such a list; finished calls stay, with their answers.

What holds of every interleaving is shown one step at a time, and the steps all have the
same shape: one machine of a list is replaced, and the world with it (`stepAt`).
-/
import Mathlib.Algebra.BigOperators.Group.List.Basic
import Mathlib.Algebra.Ring.Int.Defs
import Turnstile.Proofs.Ledger.Rollback
import Turnstile.Reconcile.Sweep
import Turnstile.Service.Admission
import Turnstile.Service.Settlement
import Turnstile.Service.Sync

namespace Turnstile

/-! ### One machine of many makes a step -/

/-- The machine at a place makes a step; without one there, nothing happens. -/
def stepAt {σ : Type} (f : σ → World → σ × World) (i : Nat) (l : List σ) (w : World) :
    List σ × World :=
  match l[i]? with
  | some s => (l.set i (f s w).1, (f s w).2)
  | none => (l, w)

section stepAt

variable {σ : Type} {f : σ → World → σ × World} {i : Nat} {l : List σ} {w : World}

theorem stepAt_of_getElem? {s : σ} (h : l[i]? = some s) :
    stepAt f i l w = (l.set i (f s w).1, (f s w).2) := by
  simp [stepAt, h]

theorem stepAt_of_none (h : l[i]? = none) : stepAt f i l w = (l, w) := by
  simp [stepAt, h]

/-- What a step does to the world, it does from some machine of the list. -/
theorem stepAt_world {P : World → Prop} (hw : P w) (h : ∀ s ∈ l, P (f s w).2) :
    P (stepAt f i l w).2 := by
  cases hs : l[i]? with
  | none => rw [stepAt_of_none hs]; exact hw
  | some s => rw [stepAt_of_getElem? hs]; exact h s (List.mem_of_getElem? hs)

/-- What holds of every machine, and of one that has made a step, holds after the step. -/
theorem forall_mem_stepAt {P : σ → Prop} (hl : ∀ s ∈ l, P s) (h : ∀ s ∈ l, P (f s w).1) :
    ∀ s ∈ (stepAt f i l w).1, P s := by
  intro s hs
  cases hi : l[i]? with
  | none => rw [stepAt_of_none hi] at hs; exact hl s hs
  | some s₀ =>
    rw [stepAt_of_getElem? hi] at hs
    rcases List.mem_or_eq_of_mem_set hs with hs | rfl
    · exact hl s hs
    · exact h s₀ (List.mem_of_getElem? hi)

theorem sum_map_set (g : σ → Int) {s : σ} (h : l[i]? = some s) (s' : σ) :
    ((l.set i s').map g).sum = (l.map g).sum - g s + g s' := by
  induction l generalizing i with
  | nil => simp at h
  | cons a rest ih =>
      cases i with
      | zero =>
        have ha : a = s := by simpa using h
        subst ha
        simp only [List.set_cons_zero, List.map_cons, List.sum_cons]
        omega
      | succ i =>
        have ih := ih (i := i) (by simpa using h)
        simp only [List.set_cons_succ, List.map_cons, List.sum_cons]
        omega

end stepAt

/-! ### Calls of tools -/

/-- A report on its way: what it says, how far its settlement has come, and the units that
have been taken off its counter for it. -/
structure Delivery where
  report : Report
  state : Settlement
  returned : Int

namespace Delivery

/-- A report that has just been sent. -/
def new (report : Report) : Delivery := ⟨report, .arriving report, 0⟩

/-- What the next step takes off the counter. -/
def returns (d : Delivery) (w : World) : Int :=
  match d.state with
  | .releasing _ report => (w.ledger.release report.counter report.reservation.quantity).1
  | _ => 0

/-- The next step. -/
def step (d : Delivery) (w : World) : Delivery × World :=
  ({ d with state := (d.state.step none w).1, returned := d.returned + d.returns w },
    (d.state.step none w).2)

end Delivery

/-- A call of a tool: its admission, and the deliveries of its report. -/
structure ToolCall where
  admission : Admission
  deliveries : List Delivery

namespace ToolCall

/-- A call that has just arrived. -/
def new (tenant tool : String) : ToolCall := ⟨.arriving tenant tool, []⟩

/-- The reservation, once the call has been admitted. -/
def reservation? (c : ToolCall) : Option Reservation :=
  match c.admission with
  | .finished (.ok r) => some r
  | _ => none

/-- The next step of the admission. -/
def advance (svc : Service) (c : ToolCall) (w : World) : ToolCall × World :=
  ({ c with admission := (c.admission.step svc none w).1 }, (c.admission.step svc none w).2)

/-- Send the report of a call that has been admitted. -/
def deliver (tool : String) (replay : ReplayId) (audit : Option String) (status : Execution)
    (c : ToolCall) (w : World) : ToolCall × World :=
  match c.reservation? with
  | some r => ({ c with deliveries := c.deliveries ++ [.new ⟨r, tool, replay, audit, status⟩] }, w)
  | none => (c, w)

/-- The next step of a delivery. -/
def settle (nth : Nat) (c : ToolCall) (w : World) : ToolCall × World :=
  ({ c with deliveries := (stepAt Delivery.step nth c.deliveries w).1 },
    (stepAt Delivery.step nth c.deliveries w).2)

end ToolCall

/-! ### Traffic -/

/-- The world, and every call that has been made of it. -/
structure Traffic where
  world : World
  calls : List ToolCall
  syncs : List Sync
  sweeps : List Sweep

/-- What can happen next. -/
inductive Move
  | clock (now : Instant)
  /-- An entitlement is written by somebody else. -/
  | upsert (e : Entitlement)
  /-- A call of a tool arrives. -/
  | call (tenant tool : String)
  /-- An admission makes its next step. -/
  | admitting (call : Nat)
  /-- The report of a call is sent, perhaps not for the first time. -/
  | deliver (call : Nat) (tool : String) (replay : ReplayId) (audit : Option String)
      (status : Execution)
  /-- A delivery makes its next step. -/
  | settling (call nth : Nat)
  /-- A change of a subscription arrives. -/
  | sync (tenant : String) (update : SubscriptionUpdate)
  /-- A change of a subscription makes its next step. -/
  | syncing (nth : Nat)
  /-- A sweep begins. -/
  | sweep
  /-- A sweep makes its next step. -/
  | sweeping (nth : Nat)

/-- Is the move one of the clock and of calls of tools? -/
def Move.OfTools : Move → Prop
  | clock _ | call _ _ | admitting _ | deliver _ _ _ _ _ | settling _ _ => True
  | upsert _ | sync _ _ | syncing _ | sweep | sweeping _ => False

instance : DecidablePred Move.OfTools
  | .clock _ | .call _ _ | .admitting _ | .deliver _ _ _ _ _ | .settling _ _ => .isTrue trivial
  | .upsert _ | .sync _ _ | .syncing _ | .sweep | .sweeping _ => .isFalse id

namespace Traffic

/-- A world without calls. -/
def quiet (w : World) : Traffic := ⟨w, [], [], []⟩

/-- The traffic with other calls of tools, in another world. -/
def withCalls (t : Traffic) (next : List ToolCall × World) : Traffic :=
  { t with calls := next.1, world := next.2 }

/-- One move. -/
def step (svc : Service) (sw : Sweeper) (t : Traffic) : Move → Traffic
  | .clock now => { t with world := t.world.setClock now }
  | .upsert e => { t with world := t.world.withLedger (t.world.ledger.putEntitlement e) }
  | .call tenant tool => { t with calls := t.calls ++ [.new tenant tool] }
  | .admitting i => t.withCalls (stepAt (ToolCall.advance svc) i t.calls t.world)
  | .deliver i tool replay audit status =>
    t.withCalls (stepAt (ToolCall.deliver tool replay audit status) i t.calls t.world)
  | .settling i nth => t.withCalls (stepAt (ToolCall.settle nth) i t.calls t.world)
  | .sync tenant update => { t with syncs := t.syncs ++ [.arriving tenant update] }
  | .syncing nth =>
    { t with
      syncs := (stepAt (Sync.step svc none) nth t.syncs t.world).1
      world := (stepAt (Sync.step svc none) nth t.syncs t.world).2 }
  | .sweep => { t with sweeps := t.sweeps ++ [.listing] }
  | .sweeping nth =>
    { t with
      sweeps := (stepAt (Sweep.step sw none) nth t.sweeps t.world).1
      world := (stepAt (Sweep.step sw none) nth t.sweeps t.world).2 }

/-- A list of moves, one after another. -/
def run (svc : Service) (sw : Sweeper) (t : Traffic) (moves : List Move) : Traffic :=
  moves.foldl (step svc sw) t

variable {svc : Service} {sw : Sweeper}

theorem run_cons (t : Traffic) (m : Move) (moves : List Move) :
    t.run svc sw (m :: moves) = (t.step svc sw m).run svc sw moves := rfl

theorem run_append (t : Traffic) (moves moves' : List Move) :
    t.run svc sw (moves ++ moves') = (t.run svc sw moves).run svc sw moves' :=
  List.foldl_append

/-- What holds at the start and survives every move that is made holds at the end. -/
theorem run_induction {P : Traffic → Prop} {t : Traffic} {moves : List Move} (h : P t)
    (hstep : ∀ m ∈ moves, ∀ t, P t → P (t.step svc sw m)) : P (t.run svc sw moves) := by
  induction moves generalizing t with
  | nil => exact h
  | cons m rest ih =>
      rw [run_cons]
      refine ih (hstep m (by simp) t h) ?_
      intro m' hm' t' ht'
      exact hstep m' (by simp [hm']) t' ht'

/-- What holds at the start and not at the end is ended by some move. -/
theorem exists_ending {P : Traffic → Prop} {t : Traffic} {moves : List Move} (h : P t)
    (hend : ¬ P (t.run svc sw moves)) :
    ∃ before m after, moves = before ++ m :: after ∧ P (t.run svc sw before) ∧
      ¬ P ((t.run svc sw before).step svc sw m) := by
  induction moves generalizing t with
  | nil => exact absurd h hend
  | cons m rest ih =>
      by_cases hnext : P (t.step svc sw m)
      · obtain ⟨before, m', after, rfl, hbefore, hlast⟩ := ih hnext hend
        exact ⟨m :: before, m', after, rfl, hbefore, hlast⟩
      · exact ⟨[], m, rest, rfl, h, hnext⟩

/-- What a move does to the changes of subscriptions: nothing, or one arrives, or one makes its
next step. -/
theorem syncs_step (svc : Service) (sw : Sweeper) (t : Traffic) (m : Move) :
    (t.step svc sw m).syncs = t.syncs ∨
      (∃ tenant update, m = .sync tenant update ∧
        (t.step svc sw m).syncs = t.syncs ++ [.arriving tenant update]) ∨
      ∃ nth s, m = .syncing nth ∧ t.syncs[nth]? = some s ∧
        (t.step svc sw m).syncs = t.syncs.set nth (s.step svc none t.world).1 := by
  cases m with
  | sync tenant update => exact .inr (.inl ⟨tenant, update, rfl, rfl⟩)
  | syncing nth =>
    cases hs : t.syncs[nth]? with
    | none => exact .inl (by simp [step, stepAt_of_none hs])
    | some s => exact .inr (.inr ⟨nth, s, rfl, hs, by simp [step, stepAt_of_getElem? hs]⟩)
  | _ => exact .inl rfl

/-- Is nothing on its way? -/
structure AtRest (t : Traffic) : Prop where
  admissions : ∀ c ∈ t.calls, c.admission.result?.isSome
  deliveries : ∀ c ∈ t.calls, ∀ d ∈ c.deliveries, d.state.result?.isSome

/-! ### A tenant on trial -/

/-- A trial with three units whose period ended a day ago. -/
def lapsedTrial : Entitlement where
  tenant := "acme"
  plan := "pro"
  status := .trialing
  limits := ⟨60, 3⟩
  period := ⟨⟨0⟩, ⟨30 * Span.day⟩⟩
  graceUntil := none
  updatedAt := ⟨0⟩

/-- A world in which there is nothing but that trial. -/
def lapsedWorld : World :=
  ⟨Ledger.empty.putEntitlement lapsedTrial, .unlimited, .new .standard, ⟨31 * Span.day⟩, 0⟩

/-- The first two calls are admitted, step by step beside each other. -/
def admittedAbreast : List Move := (List.replicate 7 [.admitting 0, .admitting 1]).flatten

/-- The first two deliveries of the first call are settled, step by step beside each other. -/
def settledAbreast : List Move := (List.replicate 4 [.settling 0 0, .settling 0 1]).flatten

end Traffic

end Turnstile
