/-
Whole calls.

On a ledger at hand a procedure is never refused, so a call that is made with nothing in
between is its steps one after another, and nothing else (`Procedure.finish`).
-/
import Turnstile.Service.Gate

namespace Turnstile

namespace Procedure

variable {σ α : Type} (p : Procedure σ α)

@[simp] theorem ask_reliable (s : σ) : p.ask .reliable s = (none, .reliable) := by
  unfold ask
  cases p.access? s <;> rfl

/-- Make every step that is left on a ledger at hand. -/
def finish (s : σ) (w : World) : α × World :=
  ((p.run .reliable s w).1, (p.run .reliable s w).2.2)

variable {p}

theorem finish_of_result {s : σ} {a : α} (h : p.result? s = some a) (w : World) :
    p.finish s w = (a, w) := by
  unfold finish
  rw [run_of_result p h]

theorem finish_of_step {s : σ} (h : p.result? s = none) (w : World) :
    p.finish s w = p.finish (p.step none s w).1 (p.step none s w).2 := by
  unfold finish
  rw [run_of_step p h, ask_reliable]

/-- A call goes on from where its next step leads. -/
theorem finish_of_step_eq {s s' : σ} {w w' : World} (h : p.result? s = none)
    (hstep : p.step none s w = (s', w')) : p.finish s w = p.finish s' w' := by
  rw [finish_of_step h, hstep]

/-- A ledger at hand stays at hand. -/
theorem run_reliable (s : σ) (w : World) :
    p.run .reliable s w = ((p.finish s w).1, .reliable, (p.finish s w).2) := by
  cases h : p.result? s with
  | some a => rw [finish_of_result h, run_of_result p h]
  | none =>
    rw [finish_of_step h, run_of_step p h, ask_reliable]
    exact run_reliable _ _
termination_by p.rank s
decreasing_by exact p.rank_step none s w h

end Procedure

namespace Gate

/-- A call of a procedure on a ledger at hand. -/
theorem run_reliable {σ α : Type} {g : Gate} (h : g.backend = .reliable) (p : Procedure σ α)
    (s : σ) :
    g.run p s = ((p.finish s g.world).1, { g with world := (p.finish s g.world).2 }) := by
  unfold run
  rw [h, Procedure.run_reliable]

end Gate

end Turnstile
