/-
Calls of which some are refused.

`Procedure.attempt` makes a procedure go to its end while a list says, call by call, which of its
calls to the ledger are refused, and writes down the calls that it makes.  Nothing is refused once
the list is at its end.  Whatever stands in front of the ledger, a run is such an attempt
(`Procedure.run_eq_attempt`).

When a single call is refused the procedure has come so far as an attempt without refusals, and
goes on from the step that is refused (`Procedure.attempt_refused`).
-/
import Turnstile.Proofs.Service.Run

namespace Turnstile.Procedure

variable {σ α : Type} {p : Procedure σ α} {s : σ} {w : World}

/-- What is said of the next step, and what is left to be said. -/
def told (p : Procedure σ α) (refusals : List (Option LedgerError)) (s : σ) :
    Option LedgerError × List (Option LedgerError) :=
  match p.access? s with
  | some _ => (refusals.head?.join, refusals.tail)
  | none => (none, refusals)

/-- An attempt with calls that were made before it. -/
def after (calls : List Access) (rest : α × List Access × World) : α × List Access × World :=
  (rest.1, calls ++ rest.2.1, rest.2.2)

theorem after_after (calls calls' : List Access) (rest : α × List Access × World) :
    after calls (after calls' rest) = after (calls ++ calls') rest := by
  simp [after]

/-- Make every step that is left, with some calls refused.  Gives the calls that were made as
well. -/
def attempt (p : Procedure σ α) (refusals : List (Option LedgerError)) (s : σ) (w : World) :
    α × List Access × World :=
  match h : p.result? s with
  | some a => (a, [], w)
  | none =>
    let next := p.step (p.told refusals s).1 s w
    have := p.rank_step (p.told refusals s).1 s w h
    after (p.access? s).toList (attempt p (p.told refusals s).2 next.1 next.2)
termination_by p.rank s
decreasing_by exact this

theorem attempt_of_result {a : α} (h : p.result? s = some a)
    (refusals : List (Option LedgerError)) (w : World) : p.attempt refusals s w = (a, [], w) := by
  rw [attempt]
  split <;> simp_all

theorem attempt_of_step (h : p.result? s = none) (refusals : List (Option LedgerError))
    (w : World) :
    p.attempt refusals s w = after (p.access? s).toList (p.attempt (p.told refusals s).2
      (p.step (p.told refusals s).1 s w).1 (p.step (p.told refusals s).1 s w).2) := by
  conv => lhs; rw [attempt]
  split <;> simp_all

/-- A step without a call to the ledger. -/
theorem attempt_of_quiet (h : p.result? s = none) (hquiet : p.access? s = none)
    (refusals : List (Option LedgerError)) (w : World) :
    p.attempt refusals s w = p.attempt refusals (p.step none s w).1 (p.step none s w).2 := by
  have htold : p.told refusals s = (none, refusals) := by simp [told, hquiet]
  rw [attempt_of_step h, htold, hquiet]
  rfl

/-- A step with a call to the ledger. -/
theorem attempt_of_call (h : p.result? s = none) {a : Access} (hcall : p.access? s = some a)
    (refusals : List (Option LedgerError)) (w : World) :
    p.attempt refusals s w = after [a] (p.attempt refusals.tail
      (p.step refusals.head?.join s w).1 (p.step refusals.head?.join s w).2) := by
  have htold : p.told refusals s = (refusals.head?.join, refusals.tail) := by simp [told, hcall]
  rw [attempt_of_step h, htold, hcall]
  rfl

theorem attempt_cons_of_call (h : p.result? s = none) {a : Access} (hcall : p.access? s = some a)
    (refusal : Option LedgerError) (refusals : List (Option LedgerError)) (w : World) :
    p.attempt (refusal :: refusals) s w =
      after [a] (p.attempt refusals (p.step refusal s w).1 (p.step refusal s w).2) :=
  attempt_of_call h hcall (refusal :: refusals) w

/-- A step with a call to the ledger, when no more is said. -/
theorem attempt_nil_of_call (h : p.result? s = none) {a : Access} (hcall : p.access? s = some a)
    (w : World) :
    p.attempt [] s w = after [a] (p.attempt [] (p.step none s w).1 (p.step none s w).2) :=
  attempt_of_call h hcall [] w

/-- **Whatever stands in front of the ledger, a run is an attempt.** -/
theorem run_eq_attempt (b : Backend) (s : σ) (w : World) :
    ∃ refusals, (p.run b s w).1 = (p.attempt refusals s w).1 ∧
      (p.run b s w).2.2 = (p.attempt refusals s w).2.2 := by
  cases h : p.result? s with
  | some a =>
    refine ⟨[], ?_⟩
    rw [run_of_result p h, attempt_of_result h]
    exact ⟨rfl, rfl⟩
  | none =>
    obtain ⟨refusals, hanswer, hworld⟩ := run_eq_attempt (p.ask b s).2 (p.step (p.ask b s).1 s w).1
      (p.step (p.ask b s).1 s w).2
    rw [run_of_step p h, hanswer, hworld]
    cases hcall : p.access? s with
    | none =>
      have hask : p.ask b s = (none, b) := by simp [ask, hcall]
      refine ⟨refusals, ?_⟩
      rw [attempt_of_quiet h hcall, hask]
      exact ⟨rfl, rfl⟩
    | some a =>
      refine ⟨(p.ask b s).1 :: refusals, ?_⟩
      rw [attempt_cons_of_call h hcall]
      exact ⟨rfl, rfl⟩
termination_by p.rank s
decreasing_by exact p.rank_step (p.ask b s).1 s w h

/-- **An attempt in which one call is refused** makes the calls before it and that call as if there
were no refusal, and then goes on from the step that was refused. -/
theorem attempt_refused {Inv : σ → World → Prop} {s : σ} {w : World} (h : Inv s w)
    (hkept : ∀ s w, Inv s w → Inv (p.step none s w).1 (p.step none s w).2) {n : Nat} {a : Access}
    (hcall : (p.attempt [] s w).2.1[n]? = some a) (err : LedgerError) :
    ∃ s' w', Inv s' w' ∧ p.result? s' = none ∧ p.access? s' = some a ∧
      p.attempt (List.replicate n none ++ [some err]) s w =
        after ((p.attempt [] s w).2.1.take (n + 1))
          (p.attempt [] (p.step (some err) s' w').1 (p.step (some err) s' w').2) := by
  cases hresult : p.result? s with
  | some answer =>
    rw [attempt_of_result hresult] at hcall
    cases hcall
  | none =>
    cases haccess : p.access? s with
    | none =>
      rw [attempt_of_quiet hresult haccess] at hcall ⊢
      rw [attempt_of_quiet hresult haccess]
      exact attempt_refused (hkept s w h) hkept hcall err
    | some b =>
      rw [attempt_nil_of_call hresult haccess] at hcall ⊢
      cases n with
      | zero =>
        obtain rfl := Option.some.inj hcall
        refine ⟨s, w, h, hresult, haccess, ?_⟩
        exact attempt_of_call hresult haccess [some err] w
      | succ n =>
        obtain ⟨s', w', h', hresult', haccess', hrest⟩ :=
          attempt_refused (hkept s w h) hkept hcall err
        refine ⟨s', w', h', hresult', haccess', ?_⟩
        rw [List.replicate_succ, List.cons_append, attempt_cons_of_call hresult haccess, hrest]
        rfl
termination_by p.rank s
decreasing_by all_goals exact p.rank_step none s w hresult

end Turnstile.Procedure
