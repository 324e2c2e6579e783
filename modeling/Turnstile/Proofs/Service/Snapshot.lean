/-
A look at once.

Made with nothing in between, a look answers with the units on the counter of the period
that counts, and it changes nothing (`Look.atOnce`).
-/
import Turnstile.Proofs.Ledger.Rows
import Turnstile.Proofs.Service.Run

namespace Turnstile

namespace Look

variable {svc : Service}

/-- A look with nothing in between. -/
def atOnce (svc : Service) (tenant : String) (w : World) : Seen :=
  match w.ledger.entitlement? tenant with
  | none => .error (.ledger (.noEntitlement tenant))
  | some e =>
    match e.period.roll? w.now with
    | none => .crashed
    | some p => .ok (snapshot e p (w.ledger.used ⟨tenant, svc.meter, p.start⟩))

/-- **A look with nothing in between changes nothing.** -/
theorem finish_reading (tenant : String) (w : World) :
    (procedure svc).finish (.reading tenant) w = (atOnce svc tenant w, w) := by
  unfold atOnce
  cases he : w.ledger.entitlement? tenant with
  | none =>
    have hread : (procedure svc).step none (.reading tenant) w =
        (.finished (.error (.ledger (.noEntitlement tenant))), w) := by
      simp [procedure, step, read, he]
    rw [Procedure.finish_of_step_eq rfl hread]
    exact Procedure.finish_of_result rfl _
  | some e =>
    cases hp : e.period.roll? w.now with
    | none =>
      have hread : (procedure svc).step none (.reading tenant) w = (.finished .crashed, w) := by
        simp [procedure, step, read, he, hp]
      rw [Procedure.finish_of_step_eq rfl hread]
      dsimp only
      rw [hp]
      exact Procedure.finish_of_result rfl _
    | some p =>
      have hread : (procedure svc).step none (.reading tenant) w =
          (.counting ⟨tenant, svc.meter, p.start⟩ e p, w) := by
        simp [procedure, step, read, he, hp]
      have hcount : (procedure svc).step none (.counting ⟨tenant, svc.meter, p.start⟩ e p) w =
          (.finished (.ok (snapshot e p (w.ledger.used ⟨tenant, svc.meter, p.start⟩))), w) := rfl
      rw [Procedure.finish_of_step_eq rfl hread, Procedure.finish_of_step_eq rfl hcount]
      dsimp only
      rw [hp]
      exact Procedure.finish_of_result rfl _

end Look

/-- A look through the gate at a ledger at hand changes nothing. -/
theorem Gate.look_reliable {g : Gate} (h : g.backend = .reliable) (tenant : String) :
    g.look tenant = (Look.atOnce g.service tenant g.world, g) := by
  unfold look
  rw [run_reliable h, Look.finish_reading]

end Turnstile
