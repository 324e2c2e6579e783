/-
Scopes side by side.

Any number of scopes can be open on one ledger, and between two calls on one of them the
others make calls of their own.  `Abreast` is a ledger with the scopes that have been opened
on it; one that has ended leaves its place empty, and nothing is done through it any more.
A `Turn` is one thing that can happen next: a scope is opened, makes a call, commits, or is
dropped, which takes all of its writes back in one step.  A list of turns is an interleaving.
-/
import Turnstile.Proofs.Scope.Write

namespace Turnstile

/-- A ledger, and the scopes that have been opened on it. -/
structure Abreast where
  ledger : Ledger
  scopes : List (Option Scope)

/-- What can happen next. -/
inductive Turn
  | begin (tenant : String)
  | call (nth : Nat) (c : Scope.Call)
  | commit (nth : Nat)
  | drop (nth : Nat)

/-- Does the turn leave a scope alone? -/
def Turn.Leaves (nth : Nat) : Turn → Prop
  | begin _ => True
  | call n _ | commit n | drop n => n ≠ nth

instance (nth : Nat) : DecidablePred (Turn.Leaves nth)
  | .begin _ => .isTrue trivial
  | .call n _ | .commit n | .drop n => inferInstanceAs (Decidable (n ≠ nth))

namespace Abreast

/-- A ledger that no scope has been opened on. -/
def idle (l : Ledger) : Abreast := ⟨l, []⟩

/-- The open scope at a place. -/
def scope? (t : Abreast) (nth : Nat) : Option Scope := t.scopes[nth]?.join

/-- Work through the open scope at a place; without one there, nothing happens. -/
def through (t : Abreast) (nth : Nat) (f : Scope → Ledger → Option Scope × Ledger) : Abreast :=
  match t.scope? nth with
  | some s => ⟨(f s t.ledger).2, t.scopes.set nth (f s t.ledger).1⟩
  | none => t

/-- One turn. -/
def step (t : Abreast) : Turn → Abreast
  | .begin tenant =>
    match Scope.begin? tenant with
    | .ok s => { t with scopes := t.scopes ++ [some s] }
    | .error _ => t
  | .call nth c => t.through nth fun s l => (some (Scope.perform c s l).2.1, (Scope.perform c s l).2.2)
  | .commit nth => t.through nth fun s l => (none, s.commit.drop l)
  | .drop nth => t.through nth fun s l => (none, s.drop l)

/-- A list of turns, one after another. -/
def run (t : Abreast) (turns : List Turn) : Abreast := turns.foldl step t

variable {t : Abreast} {nth : Nat} {s : Scope}

theorem run_nil (t : Abreast) : t.run [] = t := rfl

theorem run_cons (t : Abreast) (turn : Turn) (turns : List Turn) :
    t.run (turn :: turns) = (t.step turn).run turns := rfl

theorem run_append (t : Abreast) (turns turns' : List Turn) :
    t.run (turns ++ turns') = (t.run turns).run turns' :=
  List.foldl_append

/-! ### The scope at a place -/

theorem scope?_eq_some_iff : t.scope? nth = some s ↔ t.scopes[nth]? = some (some s) := by
  unfold scope?
  exact Option.join_eq_some_iff

theorem lt_of_scope? (h : t.scope? nth = some s) : nth < t.scopes.length :=
  (List.getElem?_eq_some_iff.mp (scope?_eq_some_iff.mp h)).1

theorem step_begin {tenant : String} (h : Text.isBlankText tenant = false) :
    t.step (.begin tenant) = { t with scopes := t.scopes ++ [some ⟨tenant, []⟩] } := by
  have hbegin : Scope.begin? tenant = .ok ⟨tenant, []⟩ := Scope.begin?_eq_ok_iff.mpr ⟨h, rfl⟩
  simp only [step, hbegin]

theorem through_of_scope? (h : t.scope? nth = some s)
    (f : Scope → Ledger → Option Scope × Ledger) :
    t.through nth f = ⟨(f s t.ledger).2, t.scopes.set nth (f s t.ledger).1⟩ := by
  simp only [through, h]

theorem through_of_none (h : t.scope? nth = none) (f : Scope → Ledger → Option Scope × Ledger) :
    t.through nth f = t := by
  simp only [through, h]

theorem ledger_call (h : t.scope? nth = some s) (c : Scope.Call) :
    (t.step (.call nth c)).ledger = (Scope.perform c s t.ledger).2.2 :=
  congrArg ledger (through_of_scope? h _)

theorem ledger_drop (h : t.scope? nth = some s) :
    (t.step (.drop nth)).ledger = s.drop t.ledger :=
  congrArg ledger (through_of_scope? h _)

theorem ledger_through (t : Abreast) (nth : Nat) (f : Scope → Ledger → Option Scope × Ledger) :
    (t.through nth f).ledger = t.ledger ∨
      ∃ s, t.scope? nth = some s ∧ (t.through nth f).ledger = (f s t.ledger).2 := by
  cases hs : t.scope? nth with
  | none => exact .inl (by rw [through_of_none hs])
  | some s => exact .inr ⟨s, rfl, by rw [through_of_scope? hs]⟩

/-- Work through one scope leaves the other places as they are. -/
theorem scope?_through_ne {n : Nat} (hne : n ≠ nth) (f : Scope → Ledger → Option Scope × Ledger) :
    (t.through n f).scope? nth = t.scope? nth := by
  cases hs : t.scope? n with
  | none => rw [through_of_none hs]
  | some s =>
    rw [through_of_scope? hs]
    unfold scope?
    dsimp only
    rw [List.getElem?_set_ne hne]

/-- At its own place is what the work has made of the scope. -/
theorem scope?_through_self (h : t.scope? nth = some s)
    (f : Scope → Ledger → Option Scope × Ledger) :
    (t.through nth f).scope? nth = (f s t.ledger).1 := by
  have hlt := lt_of_scope? h
  rw [through_of_scope? h]
  unfold scope?
  simp [hlt]

/-- A turn that leaves an open scope alone finds it as it is. -/
theorem scope?_step (h : t.scope? nth = some s) {turn : Turn} (hturn : turn.Leaves nth) :
    (t.step turn).scope? nth = some s := by
  cases turn with
  | begin tenant =>
    simp only [step]
    split
    · rw [scope?_eq_some_iff] at h ⊢
      rw [List.getElem?_append_left (List.getElem?_eq_some_iff.mp h).1]
      exact h
    · exact h
  | call n c => exact (scope?_through_ne hturn _).trans h
  | commit n => exact (scope?_through_ne hturn _).trans h
  | drop n => exact (scope?_through_ne hturn _).trans h

/-- What every turn of a kind keeps, any number of them keep. -/
theorem run_induction (Inv : Abreast → Prop) {Ok : Turn → Prop}
    (hstep : ∀ t turn, Ok turn → Inv t → Inv (t.step turn)) (h : Inv t) {turns : List Turn}
    (hturns : ∀ turn ∈ turns, Ok turn) : Inv (t.run turns) := by
  induction turns generalizing t with
  | nil => exact h
  | cons turn rest ih =>
    obtain ⟨hturn, hrest⟩ := List.forall_mem_cons.mp hturns
    rw [run_cons]
    exact ih (hstep t turn hturn h) hrest

theorem scope?_run (h : t.scope? nth = some s) {turns : List Turn}
    (hturns : ∀ turn ∈ turns, turn.Leaves nth) : (t.run turns).scope? nth = some s :=
  run_induction (fun t => t.scope? nth = some s) (fun _ _ hturn h => scope?_step h hturn) h hturns

/-! ### What a turn writes -/

/-- What a turn makes of the ledger: nothing, the writes of a call, or what is left when a scope has
taken its writes back. -/
theorem ledger_step (t : Abreast) (turn : Turn) :
    (t.step turn).ledger = t.ledger ∨
      (∃ nth c s, turn = .call nth c ∧ t.scope? nth = some s ∧
        (t.step turn).ledger = (Scope.perform c s t.ledger).2.2) ∨
      ∃ nth s, turn = .drop nth ∧ t.scope? nth = some s ∧
        (t.step turn).ledger = s.drop t.ledger := by
  cases turn with
  | begin tenant =>
    simp only [step]
    split <;> exact .inl rfl
  | call nth c =>
    rcases ledger_through t nth _ with hsame | ⟨s, hs, hl⟩
    · exact .inl hsame
    · exact .inr (.inl ⟨nth, c, s, rfl, hs, hl⟩)
  | commit nth =>
    rcases ledger_through t nth _ with hsame | ⟨s, -, hl⟩
    · exact .inl hsame
    · exact .inl hl
  | drop nth =>
    rcases ledger_through t nth _ with hsame | ⟨s, hs, hl⟩
    · exact .inl hsame
    · exact .inr (.inr ⟨nth, s, rfl, hs, hl⟩)

end Abreast

end Turnstile
