/-
Reservations add up.

Any number of scopes reserve units on a counter, and some of them are dropped.  A drop gives back
what the notes of the scope say, and stops at zero if there is less on the counter than that.  It
never comes to this: what is on the counter is what was there first and what the scopes have
reserved that have committed or are still open, so it holds at least what any one of the open scopes
has reserved.

What has been reserved is kept in a `Book` beside the ledger, call by call as the calls were
answered.  That the notes of an open scope say the same as the book is part of the invariant
(`Abreast.InStep`).
-/
import Mathlib.Algebra.Order.BigOperators.Group.List
import Mathlib.Algebra.Ring.Int.Defs
import Turnstile.Proofs.Scope.Exposure

namespace Turnstile

variable {k : CounterKey}

/-! ### Notes about a counter -/

/-- Units that are given back on the counter when the note is followed. -/
def Undo.held (k : CounterKey) : Undo → Int
  | reserved key cost => if key = k then cost else 0
  | _ => 0

/-- All that the note does to the counter is to give units back. -/
def Undo.GivesBack (k : CounterKey) : Undo → Prop
  | reserved key cost => key = k → 0 ≤ cost
  | released key _ => key ≠ k
  | _ => True

namespace Scope

variable {s : Scope} {l : Ledger}

/-- Units that the scope gives back on the counter when it is dropped. -/
def held (k : CounterKey) (s : Scope) : Int := (s.undo.map (Undo.held k)).sum

/-- All that dropping the scope does to the counter is to give units back. -/
def GivesBack (k : CounterKey) (s : Scope) : Prop := ∀ u ∈ s.undo, u.GivesBack k

theorem held_note (k : CounterKey) (s : Scope) (u : Undo) :
    (s.note u).held k = s.held k + u.held k := by
  show (u.held k :: s.undo.map (Undo.held k)).sum = _
  rw [List.sum_cons]
  exact Int.add_comm ..

theorem GivesBack.note (h : s.GivesBack k) {u : Undo} (hu : u.GivesBack k) :
    (s.note u).GivesBack k := by
  intro v hv
  rcases List.mem_cons.mp hv with rfl | hv
  · exact hu
  · exact h v hv

theorem GivesBack.held_nonneg (h : s.GivesBack k) : 0 ≤ s.held k := by
  refine List.sum_nonneg fun n hn => ?_
  obtain ⟨u, hu, rfl⟩ := List.mem_map.mp hn
  have hgives := h u hu
  cases u with
  | reserved key cost =>
    simp only [Undo.held]
    split
    · next hk => exact hgives hk
    · exact Int.le_refl 0
  | _ => exact Int.le_refl 0

/-- As long as the units are on the counter, they are given back in full. -/
theorem GivesBack.back (h : s.GivesBack k) {n : Int} (hn : s.held k ≤ n) :
    s.back k n = n - s.held k := by
  obtain ⟨tenant, undo⟩ := s
  induction undo generalizing n with
  | nil => exact (Int.sub_zero n).symm
  | cons u rest ih =>
    have hrest : GivesBack k ⟨tenant, rest⟩ := fun v hv => h v (by simp [hv])
    have hothers := hrest.held_nonneg
    have hheld : held k ⟨tenant, u :: rest⟩ = held k ⟨tenant, rest⟩ + u.held k :=
      held_note k ⟨tenant, rest⟩ u
    have hfirst : u.back k n = n - u.held k := by
      have hu := h u (by simp)
      cases u with
      | reserved key cost =>
        simp only [Undo.back, Undo.held] at hheld ⊢
        by_cases hk : key = k
        · rw [if_pos hk] at hheld
          rw [if_pos hk, if_pos hk, Ledger.releasable_eq (hu hk) (by omega)]
        · rw [if_neg hk, if_neg hk, Int.sub_zero]
      | released key amount =>
        rw [Undo.back, if_neg hu]
        exact (Int.sub_zero n).symm
      | entitlement | period | event => exact (Int.sub_zero n).symm
    show back k ⟨tenant, rest⟩ (u.back k n) = _
    rw [hfirst, ih hrest (by omega)]
    omega

/-! ### One call -/

/-- Units that a call reserves on the counter, by what it is answered. -/
def Call.granted (k : CounterKey) (c : Call) (answer : Except LedgerError Reply) : Int :=
  match c, answer with
  | .reserve key cost _, .ok (.reserved (.reserved _)) => if key = k then cost else 0
  | _, _ => 0

/-- What the call does to the counter is to open it, or to reserve units. -/
def Call.OnlyReserves (k : CounterKey) : Call → Prop
  | .reserve key cost _ => key = k → 0 ≤ cost
  | .release key _ => key ≠ k
  | _ => True

instance (k : CounterKey) : DecidablePred (Call.OnlyReserves k)
  | .reserve key cost _ => inferInstanceAs (Decidable (key = k → 0 ≤ cost))
  | .release key _ => inferInstanceAs (Decidable (key ≠ k))
  | .getEntitlement _ | .upsertEntitlement _ | .updatePeriod _ _ | .ensureCounter _ _ _
  | .record _ => .isTrue trivial

/-- A reservation is granted and noted, or it changes nothing. -/
theorem perform_reserve_cases (s : Scope) (l : Ledger) (key : CounterKey) (cost limit : Int) :
    (∃ row, l.tally? key = some row ∧
        perform (.reserve key cost limit) s l =
          (.ok (.reserved (.reserved (row.used + cost))), s.note (.reserved key cost),
            l.setUsed key (row.used + cost))) ∨
      ∃ answer, (Call.reserve key cost limit).granted k answer = 0 ∧
        perform (.reserve key cost limit) s l = (answer, s, l) := by
  by_cases htenant : key.tenant = s.tenant
  · have hown : ¬(Call.reserve key cost limit).tenant ≠ s.tenant := not_not_intro htenant
    unfold perform
    rw [if_neg hown]
    dsimp only [reserve]
    generalize hr : l.reserve key cost limit = outcome
    obtain ⟨_ | _, l'⟩ := outcome
    · obtain ⟨row, hrow, -, rfl, rfl⟩ := Ledger.reserve_eq_reserved hr
      exact .inl ⟨row, hrow, rfl⟩
    · obtain rfl := Ledger.reserve_eq_rejected hr
      exact .inr ⟨_, rfl, rfl⟩
  · exact .inr ⟨_, rfl, perform_of_ne l htenant⟩

/-- What the call reserves is on the counter and in the notes. -/
structure Books (k : CounterKey) (s : Scope) (l : Ledger) (gain : Int) (s' : Scope) (l' : Ledger) :
    Prop where
  nonneg : 0 ≤ gain
  held : s'.held k = s.held k + gain
  used : l'.used k = l.used k + gain
  notes : s'.GivesBack k

theorem Books.nothing (h : s.GivesBack k) : Books k s l 0 s l :=
  ⟨Int.le_refl 0, (Int.add_zero _).symm, (Int.add_zero _).symm, h⟩

/-- A write that has nothing to do with the counter. -/
theorem Books.elsewhere (h : s.GivesBack k) {u : Undo} {l' : Ledger} (hheld : u.held k = 0)
    (hu : u.GivesBack k) (hused : l'.used k = l.used k) : Books k s l 0 (s.note u) l' :=
  ⟨Int.le_refl 0, by rw [held_note, hheld], by rw [hused, Int.add_zero], h.note hu⟩

theorem books_perform {c : Call} (hc : c.OnlyReserves k) (h : s.GivesBack k) (l : Ledger) :
    Books k s l (c.granted k (perform c s l).1) (perform c s l).2.1 (perform c s l).2.2 := by
  by_cases hreserve : ∃ key cost limit, c = .reserve key cost limit
  · obtain ⟨key, cost, limit, rfl⟩ := hreserve
    rcases perform_reserve_cases (k := k) s l key cost limit with
      ⟨row, hrow, hgranted⟩ | ⟨answer, hnone, hsame⟩
    · rw [hgranted]
      dsimp only [Call.granted]
      refine ⟨?_, held_note k s _, ?_, h.note hc⟩
      · split
        · next hk => exact hc hk
        · exact Int.le_refl 0
      · rw [Ledger.used_setUsed hrow]
        split
        · next hk => rw [← hk, Ledger.used_of_tally? hrow]
        · exact (Int.add_zero _).symm
    · rw [hsame, hnone]
      exact .nothing h
  · have hnone : ∀ answer, c.granted k answer = 0 := by
      intro answer
      cases c with
      | reserve key cost limit => exact absurd ⟨key, cost, limit, rfl⟩ hreserve
      | _ => rfl
    rw [hnone]
    have hwrite := write_perform c s l
    revert hwrite
    generalize (perform c s l).2.1 = s'
    generalize (perform c s l).2.2 = l'
    intro hwrite
    cases hwrite with
    | nothing => exact .nothing h
    | opened => exact ⟨Int.le_refl 0, (Int.add_zero _).symm, by simp, h⟩
    | upserted => exact .elsewhere h rfl trivial rfl
    | moved => exact .elsewhere h rfl trivial (by simp)
    | reserved => exact absurd ⟨_, _, _, rfl⟩ hreserve
    | released htenant hrow =>
      refine .elsewhere h rfl hc ?_
      rw [Ledger.used_setUsed hrow, if_neg hc]
    | recorded => exact .elsewhere h rfl trivial (by simp)

end Scope

/-! ### The book -/

/-- Units that calls have reserved on a counter, with the places of their scopes, and the places
whose scopes have committed. -/
structure Book where
  entries : List (Nat × Int)
  committed : List Nat

namespace Book

/-- Nothing has been reserved. -/
def blank : Book := ⟨[], []⟩

/-- All that has been reserved through the places of a kind. -/
def units (b : Book) (kind : Nat → Bool) : Int :=
  (b.entries.map fun entry => if kind entry.1 then entry.2 else 0).sum

variable {b : Book} {kind : Nat → Bool}

theorem units_congr (other : Nat → Bool) (h : ∀ entry ∈ b.entries, kind entry.1 = other entry.1) :
    b.units kind = b.units other := by
  unfold units
  rw [List.map_congr_left fun entry hentry => by rw [h entry hentry]]

theorem units_append (b : Book) (nth : Nat) (n : Int) (kind : Nat → Bool) :
    units { b with entries := b.entries ++ [(nth, n)] } kind =
      b.units kind + if kind nth then n else 0 := by
  simp [units]

theorem units_nonneg (h : ∀ entry ∈ b.entries, 0 ≤ entry.2) : 0 ≤ b.units kind := by
  refine List.sum_nonneg fun n hn => ?_
  obtain ⟨entry, hentry, rfl⟩ := List.mem_map.mp hn
  split
  · exact h entry hentry
  · exact Int.le_refl 0

/-- The units of one place are apart from those of the others. -/
theorem units_apart {nth : Nat} (h : kind nth = true) :
    b.units kind = b.units (fun n => kind n && n != nth) + b.units (· == nth) := by
  obtain ⟨entries, committed⟩ := b
  unfold units
  induction entries with
  | nil => rfl
  | cons entry rest ih =>
    obtain ⟨n, cost⟩ := entry
    simp only [List.map_cons, List.sum_cons, ih]
    by_cases hn : n = nth
    · subst hn
      simp only [h, bne_self_eq_false, Bool.and_false, beq_self_eq_true, Bool.false_eq_true,
        if_true, if_false]
      omega
    · have hne : (n != nth) = true := bne_iff_ne.mpr hn
      have hnone : (n == nth) = false := beq_false_of_ne hn
      simp only [hne, hnone, Bool.and_true, Bool.false_eq_true, if_false]
      omega

end Book

/-- What the turn's call does to the counter is to open it, or to reserve units. -/
def Turn.OnlyReserves (k : CounterKey) : Turn → Prop
  | call _ c => c.OnlyReserves k
  | begin _ | commit _ | drop _ => True

instance (k : CounterKey) : DecidablePred (Turn.OnlyReserves k)
  | .call _ c => inferInstanceAs (Decidable (c.OnlyReserves k))
  | .begin _ | .commit _ | .drop _ => .isTrue trivial

namespace Abreast

variable {t : Abreast} {b : Book} {u : Int} {nth : Nat} {s : Scope}

/-- The book after a turn. -/
def enter (k : CounterKey) (t : Abreast) (b : Book) : Turn → Book
  | .call nth c =>
    match t.scope? nth with
    | some s =>
      { b with entries := b.entries ++ [(nth, c.granted k (Scope.perform c s t.ledger).1)] }
    | none => b
  | .commit nth =>
    match t.scope? nth with
    | some _ => { b with committed := nth :: b.committed }
    | none => b
  | .begin _ | .drop _ => b

/-- The book after a list of turns. -/
def book (k : CounterKey) (t : Abreast) (b : Book) : List Turn → Book
  | [] => b
  | turn :: rest => book k (t.step turn) (t.enter k b turn) rest

/-- The places whose scopes have committed or are still open. -/
def standing (t : Abreast) (b : Book) (nth : Nat) : Bool :=
  nth ∈ b.committed || (t.scope? nth).isSome

/-- The counter holds what was there first and what stands of the reservations in the book, and the
notes of every open scope say what the book says of it. -/
structure InStep (k : CounterKey) (u : Int) (t : Abreast) (b : Book) : Prop where
  present : (t.ledger.tally? k).isSome
  used : t.ledger.used k = u + b.units (t.standing b)
  notes : ∀ nth s, t.scope? nth = some s → s.GivesBack k ∧ s.held k = b.units (· == nth)
  closed : ∀ nth ∈ b.committed, t.scope? nth = none
  entries : ∀ entry ∈ b.entries, 0 ≤ entry.2 ∧ entry.1 < t.scopes.length
  committed : ∀ nth ∈ b.committed, nth < t.scopes.length

/-! ### Turns -/

/-- Nothing has been reserved, and no scope is open. -/
theorem inStep_idle {l : Ledger} (h : (l.tally? k).isSome) :
    (idle l).InStep k (l.used k) .blank where
  present := h
  used := (Int.add_zero _).symm
  notes nth s hs := by simp [scope?, idle] at hs
  closed nth hnth := by cases hnth
  entries entry hentry := by cases hentry
  committed nth hnth := by cases hnth

theorem length_through (t : Abreast) (nth : Nat) (f : Scope → Ledger → Option Scope × Ledger) :
    (t.through nth f).scopes.length = t.scopes.length := by
  unfold through
  split
  · exact List.length_set
  · rfl

theorem InStep.begin (h : t.InStep k u b) (tenant : String) :
    (t.step (.begin tenant)).InStep k u b := by
  by_cases hblank : Text.isBlankText tenant = true
  · have hstay : t.step (.begin tenant) = t := by simp [step, Scope.begin?, hblank]
    rw [hstay]
    exact h
  · rw [step_begin (by simpa using hblank)]
    -- the new scope has a place that the book says nothing of
    have hplace : ∀ nth, nth ≠ t.scopes.length →
        scope? ⟨t.ledger, t.scopes ++ [some ⟨tenant, []⟩]⟩ nth = t.scope? nth := by
      intro nth hnth
      unfold scope?
      dsimp only
      rw [List.getElem?_append]
      split
      · rfl
      · rw [List.getElem?_eq_none (by simp; omega), List.getElem?_eq_none (by omega)]
    refine ⟨h.present, ?_, ?_, ?_, ?_, ?_⟩
    · show t.ledger.used k = _
      rw [h.used, Book.units_congr _ fun entry hentry => ?_]
      have hlt := (h.entries entry hentry).2
      unfold standing
      rw [hplace entry.1 (by omega)]
    · intro nth s hs
      by_cases hnth : nth = t.scopes.length
      · subst hnth
        obtain rfl : (⟨tenant, []⟩ : Scope) = s := by simpa [scope?] using hs
        refine ⟨by simp [Scope.GivesBack], ?_⟩
        rw [Book.units_congr (fun _ => false) fun entry hentry => ?_]
        · simp [Book.units, Scope.held]
        · have hlt := (h.entries entry hentry).2
          exact beq_false_of_ne (by omega)
      · exact h.notes nth s (hplace nth hnth ▸ hs)
    · intro nth hnth
      have hlt := h.committed nth hnth
      rw [hplace nth (by omega)]
      exact h.closed nth hnth
    · intro entry hentry
      have hlt := h.entries entry hentry
      simp only [List.length_append, List.length_singleton]
      omega
    · intro nth hnth
      have hlt := h.committed nth hnth
      simp only [List.length_append, List.length_singleton]
      omega

theorem InStep.call (h : t.InStep k u b) (hs : t.scope? nth = some s) {c : Scope.Call}
    (hc : c.OnlyReserves k) :
    (t.step (.call nth c)).InStep k u (t.enter k b (.call nth c)) := by
  obtain ⟨hgives, hheld⟩ := h.notes nth s hs
  have hbooks := Scope.books_perform hc hgives t.ledger
  have hledger := ledger_call hs c
  have hself : (t.step (.call nth c)).scope? nth = some (Scope.perform c s t.ledger).2.1 :=
    scope?_through_self hs _
  have hothers : ∀ n, n ≠ nth → (t.step (.call nth c)).scope? n = t.scope? n :=
    fun n hn => scope?_through_ne hn.symm _
  have hlength : (t.step (.call nth c)).scopes.length = t.scopes.length := length_through ..
  simp only [enter, hs]
  refine ⟨?_, ?_, ?_, ?_, ?_, ?_⟩
  · rw [hledger]
    exact (Scope.write_perform c s t.ledger).present h.present
  · have hstanding : ∀ entries n, (t.step (.call nth c)).standing ⟨entries, b.committed⟩ n =
        t.standing b n := by
      intro entries n
      unfold standing
      by_cases hn : n = nth
      · rw [hn, hself, hs]
        rfl
      · rw [hothers n hn]
    have hopen : t.standing b nth = true := by simp [standing, hs]
    rw [hledger, hbooks.used, h.used, Book.units_append, hstanding, hopen, if_pos rfl,
      Book.units_congr (t.standing b) fun entry _ => hstanding _ entry.1]
    omega
  · intro n s' hs'
    rw [Book.units_append]
    by_cases hn : n = nth
    · subst hn
      obtain rfl := Option.some.inj (hself.symm.trans hs')
      rw [beq_self_eq_true, if_pos rfl, hbooks.held, hheld]
      exact ⟨hbooks.notes, rfl⟩
    · rw [if_neg (by simpa using Ne.symm hn), Int.add_zero]
      exact h.notes n s' (hothers n hn ▸ hs')
  · intro n hn
    have hclosed := h.closed n hn
    rw [hothers n ?_]
    · exact hclosed
    · rintro rfl
      rw [hs] at hclosed
      cases hclosed
  · rw [hlength]
    intro entry hentry
    rcases List.mem_append.mp hentry with hold | hnew
    · exact h.entries entry hold
    · rw [List.mem_singleton.mp hnew]
      exact ⟨hbooks.nonneg, lt_of_scope? hs⟩
  · rw [hlength]
    exact h.committed

/-- What is known of every open scope is known of those that are left when one has closed. -/
theorem forall_scope_of_closed {P : Nat → Scope → Prop} {t' : Abreast}
    (h : ∀ n s, t.scope? n = some s → P n s) (hself : t'.scope? nth = none)
    (hothers : ∀ n, n ≠ nth → t'.scope? n = t.scope? n) :
    ∀ n s, t'.scope? n = some s → P n s := by
  intro n s hs
  by_cases hn : n = nth
  · subst hn
    rw [hself] at hs
    cases hs
  · exact h n s (hothers n hn ▸ hs)

theorem InStep.commit (h : t.InStep k u b) (hs : t.scope? nth = some s) :
    (t.step (.commit nth)).InStep k u (t.enter k b (.commit nth)) := by
  have hledger : (t.step (.commit nth)).ledger = t.ledger := by
    show (t.through nth _).ledger = _
    rw [through_of_scope? hs]
  have hself : (t.step (.commit nth)).scope? nth = none := scope?_through_self hs _
  have hothers : ∀ n, n ≠ nth → (t.step (.commit nth)).scope? n = t.scope? n :=
    fun n hn => scope?_through_ne hn.symm _
  have hlength : (t.step (.commit nth)).scopes.length = t.scopes.length := length_through ..
  simp only [enter, hs]
  refine ⟨hledger ▸ h.present, ?_, ?_, ?_, hlength ▸ h.entries, ?_⟩
  · rw [hledger, h.used]
    refine congrArg (u + ·) (Book.units_congr _ fun entry _ => ?_)
    unfold standing
    by_cases hn : entry.1 = nth
    · simp [hn, hs]
    · simp [hn, hothers entry.1 hn]
  · exact forall_scope_of_closed h.notes hself hothers
  · intro n hn
    rcases List.mem_cons.mp hn with rfl | hn
    · exact hself
    · by_cases hnth : n = nth
      · exact hnth ▸ hself
      · exact (hothers n hnth).trans (h.closed n hn)
  · rw [hlength]
    intro n hn
    rcases List.mem_cons.mp hn with rfl | hn
    · exact lt_of_scope? hs
    · exact h.committed n hn

/-- The rollback finds on the counter all that it gives back. -/
theorem InStep.drop (h : t.InStep k u b) (hu : 0 ≤ u) (hs : t.scope? nth = some s) :
    (t.step (.drop nth)).InStep k u b := by
  obtain ⟨hgives, hheld⟩ := h.notes nth s hs
  have hledger : (t.step (.drop nth)).ledger = s.drop t.ledger := ledger_drop hs
  have hself : (t.step (.drop nth)).scope? nth = none := scope?_through_self hs _
  have hothers : ∀ n, n ≠ nth → (t.step (.drop nth)).scope? n = t.scope? n :=
    fun n hn => scope?_through_ne hn.symm _
  have hlength : (t.step (.drop nth)).scopes.length = t.scopes.length := length_through ..
  obtain ⟨hpresent, hused⟩ := s.drop_counter (l := t.ledger) h.present
  have hopen : t.standing b nth = true := by simp [standing, hs]
  have hapart := Book.units_apart (b := b) hopen
  have hrest : 0 ≤ b.units fun n => t.standing b n && n != nth :=
    Book.units_nonneg fun entry hentry => (h.entries entry hentry).1
  refine ⟨hledger ▸ hpresent, ?_, ?_, ?_, hlength ▸ h.entries, hlength ▸ h.committed⟩
  · have hcounter := h.used
    rw [hledger, hused, hgives.back (by omega)]
    have hstanding : ∀ entry ∈ b.entries, (t.step (.drop nth)).standing b entry.1 =
        (t.standing b entry.1 && entry.1 != nth) := by
      intro entry _
      by_cases hn : entry.1 = nth
      · -- a place that is open has not committed
        have hout : nth ∉ b.committed := by
          intro hmem
          have hclosed := h.closed nth hmem
          rw [hs] at hclosed
          cases hclosed
        rw [hn]
        simp [standing, hself, hout]
      · simp [standing, hothers entry.1 hn, hn]
    rw [Book.units_congr (fun n => t.standing b n && n != nth) hstanding]
    omega
  · exact forall_scope_of_closed h.notes hself hothers
  · intro n hn
    by_cases hnth : n = nth
    · exact hnth ▸ hself
    · exact (hothers n hnth).trans (h.closed n hn)

/-- Every turn keeps the counter in step with the book. -/
theorem InStep.step (h : t.InStep k u b) (hu : 0 ≤ u) {turn : Turn} (hturn : turn.OnlyReserves k) :
    (t.step turn).InStep k u (t.enter k b turn) := by
  cases turn with
  | begin tenant => exact h.begin tenant
  | call nth c =>
    cases hs : t.scope? nth with
    | some s => exact h.call hs hturn
    | none =>
      have hstay : t.step (.call nth c) = t := by simp only [Abreast.step, through_of_none hs]
      rw [hstay]
      simpa only [enter, hs] using h
  | commit nth =>
    cases hs : t.scope? nth with
    | some s => exact h.commit hs
    | none =>
      have hstay : t.step (.commit nth) = t := by simp only [Abreast.step, through_of_none hs]
      rw [hstay]
      simpa only [enter, hs] using h
  | drop nth =>
    cases hs : t.scope? nth with
    | some s => exact h.drop hu hs
    | none =>
      have hstay : t.step (.drop nth) = t := by simp only [Abreast.step, through_of_none hs]
      rw [hstay]
      exact h

theorem InStep.run (h : t.InStep k u b) (hu : 0 ≤ u) {turns : List Turn}
    (hturns : ∀ turn ∈ turns, turn.OnlyReserves k) :
    (t.run turns).InStep k u (t.book k b turns) := by
  induction turns generalizing t b with
  | nil => exact h
  | cons turn rest ih =>
    obtain ⟨hturn, hrest⟩ := List.forall_mem_cons.mp hturns
    exact ih (h.step hu hturn) hrest

/-- **Reservations are neither lost nor given back twice.**  At every moment the counter has the
units that were there first and those that scopes have reserved which have committed or are still
open; once no scope is open, these are the reservations of the scopes that have committed. -/
theorem reservations_add_up {l : Ledger} {row : Tally} (hrow : l.tally? k = some row)
    (hused : 0 ≤ row.used) {turns : List Turn} (hturns : ∀ turn ∈ turns, turn.OnlyReserves k) :
    let t := (idle l).run turns
    let b := (idle l).book k .blank turns
    (t.ledger.tally? k).map (·.used) = some (row.used + b.units (t.standing b)) ∧
      ((∀ nth, t.scope? nth = none) →
        (t.ledger.tally? k).map (·.used) =
          some (row.used + b.units fun nth => nth ∈ b.committed)) := by
  intro t b
  have hstart : (idle l).InStep k row.used .blank := by
    rw [← Ledger.used_of_tally? hrow]
    exact inStep_idle (by rw [hrow]; rfl)
  have hend : t.InStep k row.used b := hstart.run hused hturns
  obtain ⟨row', hrow'⟩ := Option.isSome_iff_exists.mp hend.present
  have hall : (t.ledger.tally? k).map (·.used) = some (row.used + b.units (t.standing b)) := by
    rw [← hend.used, Ledger.used_of_tally? hrow', hrow']
    rfl
  refine ⟨hall, fun hclosed => ?_⟩
  rw [hall, Book.units_congr _ fun entry _ => ?_]
  simp [standing, hclosed]

/-! ### Three scopes on one counter -/

/-- One scope reserves twice and commits, one reserves and is dropped, and one is refused what the
other two leave no room for and then reserves less. -/
def threeAbreast : List Turn :=
  [ .begin "acme", .begin "acme", .begin "acme",
    .call 0 (.ensureCounter "acme" defaultMeter ⟨⟨0⟩, ⟨30 * Span.day⟩⟩),
    .call 0 (.reserve unitKey 1 9), .call 1 (.reserve unitKey 4 9), .call 2 (.reserve unitKey 5 9),
    .call 0 (.reserve unitKey 2 9), .drop 1, .call 2 (.reserve unitKey 3 9), .commit 0 ]

/-- The unit that was there, three of the first scope and three of the last, which is open. -/
theorem reservations_add_up_three :
    let t := (idle fullLedger).run threeAbreast
    let b := (idle fullLedger).book unitKey .blank threeAbreast
    b.entries = [(0, 0), (0, 1), (1, 4), (2, 0), (0, 2), (2, 3)] ∧
      (t.ledger.tally? unitKey).map (·.used) = some 7 ∧
      (t.ledger.tally? unitKey).map (·.used) = some (1 + b.units (t.standing b)) ∧
      ((∀ nth, t.scope? nth = none) →
        (t.ledger.tally? unitKey).map (·.used) = some (1 + b.units fun nth => nth ∈ b.committed)) :=
  ⟨by decide, by decide, reservations_add_up tally?_fullLedger (by decide) (by decide)⟩

end Abreast

end Turnstile
