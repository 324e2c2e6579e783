/-
Whole calls, one after another.

A session is a world together with the reservations that have been granted in it, in the
order in which they were granted.  An `Errand` is one thing that is done with nothing else
in between: the clock is set, a tool is authorized, a reservation is settled, the sweep
runs.  Each is a call of a gate with nothing in front of the ledger.

What is asked of the errands around one tenant is said along the list of them: a report
comes once for each reservation, under an id of its own and inside the reservation's period,
and the tenant's period stays what it is (`Session.Orderly`).  Whether the sweep finds the
tenant idle is asked apart from that (`Session.SweepsIdle`), since nothing sees to it.
-/
import Turnstile.Proofs.Reconcile.Sweep
import Turnstile.Proofs.Service.Admission
import Turnstile.Proofs.Service.Settlement
import Turnstile.Proofs.Traffic.Basic

namespace Turnstile

/-- A reservation that has been granted, and whether its report has come. -/
structure Grant where
  reservation : Reservation
  settled : Bool
deriving DecidableEq, Repr

/-- The units that a grant keeps reserved for a tenant. -/
def Grant.due (tenant : String) (g : Grant) : Int :=
  if g.reservation.tenant = tenant ∧ g.settled = false then g.reservation.quantity else 0

/-- The units that are reserved for a tenant and not settled. -/
def outstanding (tenant : String) (granted : List Grant) : Int :=
  (granted.map (Grant.due tenant)).sum

/-- The world, and what has been granted in it. -/
structure Session where
  world : World
  granted : List Grant

/-- One thing that is done with nothing in between. -/
inductive Errand
  | clock (now : Instant)
  | authorize (tenant tool : String)
  /-- The report of a granted reservation comes in. -/
  | settle (nth : Nat) (tool : String) (replay : ReplayId) (audit : Option String)
      (status : Execution)
  | sweep
deriving DecidableEq, Repr

namespace Session

variable (svc : Service) (sw : Sweeper)

/-- A session in which nothing has been granted. -/
def start (w : World) : Session := ⟨w, []⟩

/-- The gate that the errands go through. -/
def gate (s : Session) : Gate := ⟨svc, sw, .reliable, s.world⟩

/-! ### Errands -/

/-- Authorize a tool, and keep what is granted. -/
def authorize (s : Session) (tenant tool : String) : Session :=
  match (s.gate svc sw).authorize tenant tool with
  | (.ok r, g) => ⟨g.world, s.granted ++ [⟨r, false⟩]⟩
  | (_, g) => ⟨g.world, s.granted⟩

/-- Settle a reservation; without one at that place, nothing happens. -/
def settle (s : Session) (nth : Nat) (tool : String) (replay : ReplayId) (audit : Option String)
    (status : Execution) : Session :=
  match s.granted[nth]? with
  | some g =>
    ⟨((s.gate svc sw).settle ⟨g.reservation, tool, replay, audit, status⟩).2.world,
      s.granted.set nth { g with settled := true }⟩
  | none => s

/-- Sweep once. -/
def sweep (s : Session) : Session := { s with world := (s.gate svc sw).sweep.2.world }

/-- Do an errand. -/
def step (s : Session) : Errand → Session
  | .clock now => { s with world := s.world.setClock now }
  | .authorize tenant tool => s.authorize svc sw tenant tool
  | .settle nth tool replay audit status => s.settle svc sw nth tool replay audit status
  | .sweep => s.sweep svc sw

/-- Do errands, one after another. -/
def run (s : Session) (errands : List Errand) : Session := errands.foldl (step svc sw) s

theorem run_append (s : Session) (first second : List Errand) :
    s.run svc sw (first ++ second) = (s.run svc sw first).run svc sw second :=
  List.foldl_append

/-! ### What is asked of the errands around a tenant -/

/-- The period that is stored for the tenant is the one given. -/
def InPeriod (tenant : String) (p : Period) (s : Session) : Prop :=
  (s.world.ledger.entitlement? tenant).map (·.period) = some p

instance (tenant : String) (p : Period) (s : Session) : Decidable (s.InPeriod tenant p) :=
  inferInstanceAs (Decidable (_ = _))

theorem inPeriod_of_stored {tenant : String} {e : Entitlement} {s : Session}
    (h : s.world.ledger.entitlement? tenant = some e) : s.InPeriod tenant e.period := by
  unfold InPeriod
  rw [h]
  rfl

/-- A report about the tenant is the only one of its reservation, carries an id that has not been
recorded, and comes inside the reservation's period. -/
def Allows (tenant : String) (s : Session) : Errand → Prop
  | .settle nth _ replay _ _ => ∀ g ∈ s.granted[nth]?, g.reservation.tenant = tenant →
      g.settled = false ∧ replay.isEmpty = false ∧ replay ∉ s.world.ledger.replays ∧
        g.reservation.period.start ≤ s.world.now ∧ s.world.now < g.reservation.period.stop
  | _ => True

instance (tenant : String) (s : Session) : DecidablePred (s.Allows tenant)
  | .settle nth _ _ _ _ => inferInstanceAs (Decidable (∀ g ∈ s.granted[nth]?, _))
  | .clock _ | .authorize _ _ | .sweep => .isTrue trivial

/-- Every errand is allowed, and leaves the tenant in the period. -/
def Orderly (tenant : String) (p : Period) (s : Session) : List Errand → Prop
  | [] => True
  | e :: rest => s.Allows tenant e ∧ (s.step svc sw e).InPeriod tenant p ∧
      Orderly tenant p (s.step svc sw e) rest

/-- Nothing is reserved for the tenant any more. -/
def Idle (tenant : String) (s : Session) : Prop :=
  ∀ g ∈ s.granted, g.reservation.tenant = tenant → g.settled = true

instance (tenant : String) (s : Session) : Decidable (s.Idle tenant) :=
  inferInstanceAs (Decidable (∀ g ∈ s.granted, _))

/-- Whenever the sweep runs, the tenant is idle. -/
def SweepsIdle (tenant : String) (s : Session) : List Errand → Prop
  | [] => True
  | e :: rest => (e = .sweep → s.Idle tenant) ∧ SweepsIdle tenant (s.step svc sw e) rest

/-- The units of the tenant's successful events in a period. -/
def total (tenant : String) (p : Period) (s : Session) : Int :=
  s.world.ledger.sum tenant svc.meter p

variable {svc sw}

theorem orderly_append {tenant : String} {p : Period} {s : Session} {first second : List Errand}
    (hfirst : s.Orderly svc sw tenant p first)
    (hsecond : (s.run svc sw first).Orderly svc sw tenant p second) :
    s.Orderly svc sw tenant p (first ++ second) := by
  induction first generalizing s with
  | nil => exact hsecond
  | cons e rest ih => exact ⟨hfirst.1, hfirst.2.1, ih hfirst.2.2 hsecond⟩

/-! ### Errands with nothing in between -/

theorem authorize_eq (s : Session) (tenant tool : String) :
    s.authorize svc sw tenant tool =
      match Admission.atOnce svc tenant tool s.world with
      | (.ok r, w) => ⟨w, s.granted ++ [⟨r, false⟩]⟩
      | (_, w) => ⟨w, s.granted⟩ := by
  unfold authorize
  rw [Gate.authorize_reliable rfl]
  dsimp only [gate]
  rcases Admission.atOnce svc tenant tool s.world with ⟨answer, w⟩
  cases answer <;> rfl

/-- A call that is admitted is granted its reservation. -/
theorem authorize_of_ok {s : Session} {tenant tool : String} {r : Reservation}
    (h : (Admission.atOnce svc tenant tool s.world).1 = .ok r) :
    s.authorize svc sw tenant tool =
      ⟨(Admission.atOnce svc tenant tool s.world).2, s.granted ++ [⟨r, false⟩]⟩ := by
  rw [authorize_eq]
  rcases hcall : Admission.atOnce svc tenant tool s.world with ⟨answer, w⟩
  rw [hcall] at h
  obtain rfl : answer = .ok r := h
  rfl

/-- A call that is not admitted is granted nothing. -/
theorem authorize_of_denied {s : Session} {tenant tool : String}
    (h : ∀ r, (Admission.atOnce svc tenant tool s.world).1 ≠ .ok r) :
    s.authorize svc sw tenant tool =
      ⟨(Admission.atOnce svc tenant tool s.world).2, s.granted⟩ := by
  rw [authorize_eq]
  rcases hcall : Admission.atOnce svc tenant tool s.world with ⟨answer, w⟩
  rw [hcall] at h
  cases answer with
  | ok r => exact absurd rfl (h r)
  | error => rfl
  | crashed => rfl

theorem settle_eq (s : Session) (nth : Nat) (tool : String) (replay : ReplayId)
    (audit : Option String) (status : Execution) :
    s.settle svc sw nth tool replay audit status =
      match s.granted[nth]? with
      | some g =>
        ⟨(Settlement.atOnce ⟨g.reservation, tool, replay, audit, status⟩ s.world).2,
          s.granted.set nth { g with settled := true }⟩
      | none => s := by
  unfold settle
  cases s.granted[nth]? with
  | none => rfl
  | some g =>
    dsimp only
    rw [Gate.settle_reliable rfl]
    rfl

theorem settle_of_granted {s : Session} {nth : Nat} {g : Grant} (h : s.granted[nth]? = some g)
    (tool : String) (replay : ReplayId) (audit : Option String) (status : Execution) :
    s.settle svc sw nth tool replay audit status =
      ⟨(Settlement.atOnce ⟨g.reservation, tool, replay, audit, status⟩ s.world).2,
        s.granted.set nth { g with settled := true }⟩ := by
  rw [settle_eq, h]

theorem sweep_eq (s : Session) :
    s.sweep svc sw = { s with world := (Sweep.atOnce sw s.world).2 } := by
  unfold sweep
  rw [Gate.sweep_reliable rfl]
  rfl

end Session

end Turnstile
