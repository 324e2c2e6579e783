/-
What outlives a rollback.

Two scopes of one tenant overlap.  The second commits, the first is dropped, and what the second
has written may or may not be there afterwards (`Abreast.outlives_rollback`).

Of the entitlement there is what would be there had the first scope been dropped right after
the last write: nothing that happens later matters.  So the write stays if the first scope
had neither replaced the entitlement nor set the period that the write leaves behind, and it is
lost without a trace if the first scope had replaced the entitlement.

An event is there under a replay id if the second scope has once recorded the id while the first
held no event with it.  A duplicate that the first scope alone has recorded goes with it.
-/
import Turnstile.Proofs.Scope.Replays
import Turnstile.Proofs.Scope.Restore

namespace Turnstile

/-! ### Two scopes -/

/-- The turn is one of two scopes; the first does not commit, and the second is not dropped. -/
def Turn.Between (a b : Nat) : Turn → Prop
  | .begin _ => False
  | .call n _ => n = a ∨ n = b
  | .commit n => n = b
  | .drop n => n = a

namespace Abreast

variable {t : Abreast} {a b n : Nat} {tenant : String} {turn : Turn} {turns : List Turn}
  {r : ReplayId}

/-- Somewhere in the turns is one that is as described. -/
def Sometime (P : Abreast → Turn → Prop) : Abreast → List Turn → Prop
  | _, [] => False
  | t, turn :: rest => P t turn ∨ Sometime P (t.step turn) rest

/-- The turn writes the tenant's entitlement. -/
def Sets (tenant : String) (t : Abreast) : Turn → Prop
  | .call nth c => (∃ undo, t.scope? nth = some ⟨tenant, undo⟩) ∧ c.Sets tenant t.ledger
  | _ => False

/-- The turn records an event under the replay id, or finds it to be a duplicate. -/
def Records (nth : Nat) (r : ReplayId) (t : Abreast) : Turn → Prop
  | .call n (.record e) =>
    n = nth ∧ e.replay = some r ∧ ∃ s, t.scope? nth = some s ∧ e.tenant = s.tenant
  | _ => False

/-- Work through one scope leaves the scope at any other place as it is, and what is at its own
place is what the work has made of it. -/
theorem scope?_through_cases (t : Abreast) (nth n : Nat)
    (f : Scope → Ledger → Option Scope × Ledger) :
    (t.through nth f).scope? n = t.scope? n ∨
      ∃ s, nth = n ∧ t.scope? n = some s ∧ (t.through nth f).scope? n = (f s t.ledger).1 := by
  by_cases hn : nth = n
  · subst hn
    cases hs : t.scope? nth with
    | none => exact .inl (by rw [through_of_none hs, hs])
    | some s => exact .inr ⟨s, rfl, rfl, scope?_through_self hs f⟩
  · exact .inl (scope?_through_ne hn f)

theorem keyed_step (h : t.ledger.Keyed) (turn : Turn) : (t.step turn).ledger.Keyed := by
  rcases ledger_step t turn with hsame | ⟨nth, c, s, -, -, hledger⟩ | ⟨nth, s, -, -, hledger⟩
  · rwa [hsame]
  · rw [hledger]
    exact (Scope.write_perform c s t.ledger).keyed h
  · rw [hledger]
    exact s.keyed_drop h

theorem keyed_act (h : t.ledger.Keyed) (act : Act) : (t.act act).ledger.Keyed := by
  cases act with
  | turn turn => exact keyed_step h turn
  | call c => exact Ledger.keyed_perform h c
  | putCounter c => exact h
  | putEvent e => exact h.of_sameTerms fun tenant => by simp [Abreast.act, Ledger.terms?]

theorem keyed_play (h : t.ledger.Keyed) (acts : List Act) : (t.play acts).ledger.Keyed := by
  induction acts generalizing t with
  | nil => exact h
  | cons act rest ih => exact ih (keyed_act h act)

theorem keyed_run (h : t.ledger.Keyed) (turns : List Turn) : (t.run turns).ledger.Keyed := by
  rw [← play_turns]
  exact keyed_play h _

/-- A turn of two scopes leaves a scope alone, makes a call through it, or ends it. -/
theorem scope?_between (hturn : turn.Between a b) (n : Nat) :
    (t.step turn).scope? n = t.scope? n ∨
      (∃ c s, turn = .call n c ∧ t.scope? n = some s ∧
        (t.step turn).scope? n = some (Scope.perform c s t.ledger).2.1) ∨
      (t.step turn).scope? n = none ∧ (turn = .commit n ∨ turn = .drop n) := by
  cases turn with
  | begin tenant => exact absurd hturn id
  | call nth c =>
    rcases scope?_through_cases t nth n _ with hsame | ⟨s, rfl, hs, hcalled⟩
    · exact .inl hsame
    · exact .inr (.inl ⟨c, s, rfl, hs, hcalled⟩)
  | commit nth =>
    rcases scope?_through_cases t nth n _ with hsame | ⟨s, rfl, hs, hended⟩
    · exact .inl hsame
    · exact .inr (.inr ⟨hended, .inl rfl⟩)
  | drop nth =>
    rcases scope?_through_cases t nth n _ with hsame | ⟨s, rfl, hs, hended⟩
    · exact .inl hsame
    · exact .inr (.inr ⟨hended, .inr rfl⟩)

/-- What every call through a scope keeps is so as long as the scope is open. -/
theorem scope_between {Q : Scope → Prop} (hturn : turn.Between a b)
    (hcall : ∀ c, turn = .call n c → ∀ s l, Q s → Q (Scope.perform c s l).2.1)
    (h : ∀ s, t.scope? n = some s → Q s) : ∀ s, (t.step turn).scope? n = some s → Q s := by
  intro s hs
  rcases scope?_between (t := t) hturn n with hsame | ⟨c, s₀, rfl, hs₀, hcalled⟩ | hended
  · exact h s (hsame ▸ hs)
  · rw [hcalled] at hs
    exact Option.some.inj hs ▸ hcall c rfl s₀ t.ledger (h s₀ hs₀)
  · rw [hended.1] at hs
    cases hs

theorem scope_run {Q : Scope → Prop} (hturns : ∀ turn ∈ turns, turn.Between a b)
    (hcalls : ∀ c, .call n c ∈ turns → ∀ s l, Q s → Q (Scope.perform c s l).2.1)
    (h : ∀ s, t.scope? n = some s → Q s) : ∀ s, (t.run turns).scope? n = some s → Q s := by
  have hstep : ∀ (t : Abreast) (turn : Turn), turn.Between a b ∧ turn ∈ turns →
      (∀ s, t.scope? n = some s → Q s) → ∀ s, (t.step turn).scope? n = some s → Q s := by
    rintro t turn ⟨hturn, hmem⟩ hscope
    refine scope_between hturn ?_ hscope
    rintro c rfl
    exact hcalls c hmem
  exact run_induction (fun t => ∀ s, t.scope? n = some s → Q s) hstep h
    fun turn hmem => ⟨hturns turn hmem, hmem⟩

/-- A scope that has ended is not opened again. -/
theorem scope?_run_of_none (h : t.scope? n = none) (hturns : ∀ turn ∈ turns, turn.Between a b) :
    (t.run turns).scope? n = none := by
  rw [Option.eq_none_iff_forall_ne_some]
  have hnever : ∀ s, (t.run turns).scope? n = some s → False :=
    scope_run hturns (fun _ _ _ _ hno => hno) (by simp [h])
  exact hnever

/-- The scope is gone after the turn in which it is dropped. -/
theorem scope?_drop_self (t : Abreast) (n : Nat) : (t.step (.drop n)).scope? n = none := by
  cases hs : t.scope? n with
  | none => rw [step, through_of_none hs, hs]
  | some s => exact scope?_through_self hs _

theorem scope?_run_of_dropped (hturns : ∀ turn ∈ turns, turn.Between a b)
    (hdropped : .drop n ∈ turns) : (t.run turns).scope? n = none := by
  obtain ⟨pre, post, rfl⟩ := List.append_of_mem hdropped
  rw [run_append, run_cons]
  exact scope?_run_of_none (scope?_drop_self _ n) fun m hm => hturns m (by simp [hm])

/-- Two places whose scopes, as long as they are open, are of one tenant. -/
structure Paired (t : Abreast) (a b : Nat) (tenant : String) : Prop where
  ne : a ≠ b
  first : ∀ s, t.scope? a = some s → s.tenant = tenant
  second : ∀ s, t.scope? b = some s → s.tenant = tenant

theorem Paired.step (h : t.Paired a b tenant) (hturn : turn.Between a b) :
    (t.step turn).Paired a b tenant := by
  have hcall : ∀ (c : Scope.Call) (s : Scope) (l : Ledger), s.tenant = tenant →
      (Scope.perform c s l).2.1.tenant = tenant :=
    fun c s l hs => (Scope.write_perform c s l).tenant.trans hs
  exact ⟨h.ne, scope_between hturn (fun c _ => hcall c) h.first,
    scope_between hturn (fun c _ => hcall c) h.second⟩

theorem Paired.run (h : t.Paired a b tenant) (hturns : ∀ turn ∈ turns, turn.Between a b) :
    (t.run turns).Paired a b tenant :=
  run_induction (fun t => t.Paired a b tenant) (fun _ _ hturn h => h.step hturn) h hturns

/-- A call is made through a scope of the tenant. -/
theorem Paired.tenant_call (h : t.Paired a b tenant) {c : Scope.Call}
    (hturn : (Turn.call n c).Between a b) {s : Scope} (hs : t.scope? n = some s) :
    s.tenant = tenant := by
  rcases hturn with rfl | rfl
  · exact h.first s hs
  · exact h.second s hs

/-! ### The entitlement -/

/-- The tenant's entitlement once the scope at a place is dropped. -/
def without (t : Abreast) (nth : Nat) (tenant : String) : Option Entitlement :=
  (t.step (.drop nth)).ledger.entitlement? tenant

theorem without_of_scope? {s : Scope} (hs : t.scope? n = some s) (tenant : String) :
    t.without n tenant = s.restored tenant (t.ledger.entitlement? tenant) := by
  rw [without, ledger_drop hs, Scope.entitlement?_drop]

theorem without_of_none (hs : t.scope? n = none) (tenant : String) :
    t.without n tenant = t.ledger.entitlement? tenant := by
  rw [without, step, through_of_none hs]

/-- It depends on the scope and on the entitlement only. -/
theorem without_congr {t' : Abreast} (hscope : t'.scope? n = t.scope? n)
    (hrow : t'.ledger.entitlement? tenant = t.ledger.entitlement? tenant) :
    t'.without n tenant = t.without n tenant := by
  cases hs : t.scope? n with
  | none => rw [without_of_none (hscope.trans hs), without_of_none hs, hrow]
  | some s => rw [without_of_scope? (hscope.trans hs), without_of_scope? hs, hrow]

/-- What is left of the entitlement without the first scope does not change with a turn that does
not write the entitlement. -/
theorem without_step (h : t.Paired a b tenant) (hturn : turn.Between a b)
    (hsets : ¬Sets tenant t turn) : (t.step turn).without a tenant = t.without a tenant := by
  cases turn with
  | begin other => exact absurd hturn id
  | call n c =>
    cases hn : t.scope? n with
    | none => rw [step, through_of_none hn]
    | some s =>
      obtain rfl := h.tenant_call hturn hn
      have hwrite := Scope.write_perform c s t.ledger
      obtain ⟨hrow, hrestored⟩ := hwrite.spares fun hc => hsets ⟨⟨s.undo, hn⟩, hc⟩
      have hledger := ledger_call hn c
      by_cases hna : n = a
      · subst hna
        have hs' : (t.step (.call n c)).scope? n = some (Scope.perform c s t.ledger).2.1 :=
          scope?_through_self hn _
        rw [without_of_scope? hs', without_of_scope? hn, hledger, hrow, hrestored]
      · exact without_congr (scope?_through_ne hna _) (by rw [hledger, hrow])
  | commit n =>
    obtain rfl : n = b := hturn
    have hledger : (t.step (.commit n)).ledger = t.ledger := by
      rcases ledger_through t n _ with hsame | ⟨s, -, hl⟩
      · exact hsame
      · exact hl
    exact without_congr (scope?_through_ne h.ne.symm _) (by rw [hledger])
  | drop n =>
    obtain rfl : n = a := hturn
    rw [without_of_none (scope?_drop_self t n)]
    rfl

theorem without_run (h : t.Paired a b tenant) (hturns : ∀ turn ∈ turns, turn.Between a b)
    (hsets : ¬Sometime (Sets tenant) t turns) :
    (t.run turns).without a tenant = t.without a tenant := by
  induction turns generalizing t with
  | nil => rfl
  | cons turn rest ih =>
    obtain ⟨hturn, hrest⟩ := List.forall_mem_cons.mp hturns
    obtain ⟨hnot, hlater⟩ := not_or.mp hsets
    rw [run_cons, ih (h.step hturn) hrest hlater, without_step h hturn hnot]

/-! ### What the first scope has noted -/

/-- If all of its calls have spared a period, so do the notes of a scope. -/
theorem notes_spare_run {p : Period} (hturns : ∀ turn ∈ turns, turn.Between a b)
    (hcalls : ∀ c, .call n c ∈ turns → c.Spares tenant p)
    (h : ∀ s, t.scope? n = some s → s.tenant = tenant ∧ ∀ u ∈ s.undo, u.Spares p) :
    ∀ s, (t.run turns).scope? n = some s → s.tenant = tenant ∧ ∀ u ∈ s.undo, u.Spares p := by
  refine scope_run hturns ?_ h
  rintro c hc s l ⟨rfl, hnotes⟩
  have hwrite := Scope.write_perform c s l
  exact ⟨hwrite.tenant, hwrite.notes_spare (hcalls c hc) hnotes⟩

/-- As long as it is open, a scope forgets none of its notes. -/
theorem notes_kept_run (hturns : ∀ turn ∈ turns, turn.Between a b) {u : Undo}
    (h : ∀ s, t.scope? n = some s → u ∈ s.undo) :
    ∀ s, (t.run turns).scope? n = some s → u ∈ s.undo :=
  scope_run hturns (fun c _ s l hu => (Scope.write_perform c s l).notes_kept hu) h

/-- A scope that has replaced the tenant's entitlement has a note of it. -/
theorem exists_replaces_run (hpaired : t.Paired a b tenant) (hkeyed : t.ledger.Keyed)
    (hturns : ∀ turn ∈ turns, turn.Between a b) {e : Entitlement} (htenant : e.tenant = tenant)
    (hmem : .call a (.upsertEntitlement e) ∈ turns) {s : Scope}
    (hs : (t.run turns).scope? a = some s) : ∃ u ∈ s.undo, u.Replaces tenant := by
  obtain ⟨pre, post, rfl⟩ := List.append_of_mem hmem
  obtain ⟨hpre, hrest⟩ := List.forall_mem_append.mp hturns
  obtain ⟨-, hpost⟩ := List.forall_mem_cons.mp hrest
  rw [run_append, run_cons] at hs
  have hkeyed' := keyed_run hkeyed pre
  have hpaired' := hpaired.run hpre
  generalize t.run pre = t' at hs hkeyed' hpaired'
  cases hs₀ : t'.scope? a with
  | none =>
    rw [step, through_of_none hs₀, scope?_run_of_none hs₀ hpost] at hs
    cases hs
  | some s₀ =>
    obtain rfl := hpaired'.first s₀ hs₀
    have hcalled : (t'.step (.call a (.upsertEntitlement e))).scope? a =
        some (s₀.note (.entitlement e.tenant (t'.ledger.entitlement? e.tenant))) := by
      rw [step, scope?_through_self hs₀, Scope.perform_upsertEntitlement htenant]
      rfl
    have hnoted : ∀ s, (t'.step (.call a (.upsertEntitlement e))).scope? a = some s →
        .entitlement e.tenant (t'.ledger.entitlement? e.tenant) ∈ s.undo := by
      intro s hs
      rw [← Option.some.inj (hcalled.symm.trans hs)]
      exact List.mem_cons_self ..
    refine ⟨_, notes_kept_run hpost hnoted s hs, htenant, ?_⟩
    intro e' he'
    rw [← htenant]
    exact hkeyed' e.tenant e' he'

/-- A scope that is not dropped stays open while the other scope works. -/
theorem exists_scope?_run (hne : a ≠ b) (hturns : ∀ turn ∈ turns, turn.Between a b) {s : Scope}
    (hs : t.scope? a = some s) (hopen : .drop a ∉ turns) :
    ∃ s', (t.run turns).scope? a = some s' := by
  have hstep : ∀ (t : Abreast) (turn : Turn), turn.Between a b ∧ turn ≠ .drop a →
      (∃ s, t.scope? a = some s) → ∃ s, (t.step turn).scope? a = some s := by
    rintro t turn ⟨hturn, hnot⟩ ⟨s, hs⟩
    rcases scope?_between (t := t) hturn a with
      hsame | ⟨c, s₀, -, -, hcalled⟩ | ⟨-, rfl | rfl⟩
    · exact ⟨s, hsame.trans hs⟩
    · exact ⟨_, hcalled⟩
    · exact absurd hturn hne
    · exact absurd rfl hnot
  refine run_induction (fun t => ∃ s, t.scope? a = some s) hstep ⟨s, hs⟩ ?_
  intro turn hmem
  exact ⟨hturns turn hmem, fun hdrop => hopen (hdrop ▸ hmem)⟩

/-- Dropping a scope leaves an entitlement alone whose period it has spared. -/
theorem without_of_spared (hs : t.scope? a = some ⟨tenant, []⟩)
    (hturns : ∀ turn ∈ turns, turn.Between a b) {e : Entitlement}
    (hrow : (t.run turns).ledger.entitlement? tenant = some e)
    (hspared : .drop a ∈ turns ∨ ∀ c, .call a c ∈ turns → c.Spares tenant e.period) :
    (t.run turns).without a tenant = some e := by
  cases hs' : (t.run turns).scope? a with
  | none => rw [without_of_none hs', hrow]
  | some s =>
    rw [without_of_scope? hs', hrow]
    refine Scope.restored_of_spares ?_
    rcases hspared with hdropped | hcalls
    · rw [scope?_run_of_dropped hturns hdropped] at hs'
      cases hs'
    · refine (notes_spare_run hturns hcalls ?_ s hs').2
      intro s₀ hs₀
      rw [← Option.some.inj (hs.symm.trans hs₀)]
      exact ⟨rfl, by simp⟩

/-- Dropping a scope that has replaced the entitlement leaves the same of it, whatever call the
other scope has made last. -/
theorem without_of_replaced (hpaired : t.Paired a b tenant) (hkeyed : t.ledger.Keyed)
    {s : Scope} (hs : t.scope? a = some s) (hturns : ∀ turn ∈ turns, turn.Between a b)
    {e : Entitlement} (htenant : e.tenant = tenant)
    (hmem : .call a (.upsertEntitlement e) ∈ turns) (hopen : .drop a ∉ turns) (c c' : Scope.Call) :
    (t.run (turns ++ [.call b c])).without a tenant =
      (t.run (turns ++ [.call b c'])).without a tenant := by
  obtain ⟨s', hs'⟩ := exists_scope?_run hpaired.ne hturns hs hopen
  obtain ⟨u, hu, hreplaces⟩ := exists_replaces_run hpaired hkeyed hturns htenant hmem hs'
  have hother : ∀ c, (t.run (turns ++ [.call b c])).scope? a = some s' := by
    intro c
    rw [run_append, run_cons, run_nil, step, scope?_through_ne hpaired.ne.symm, hs']
  rw [without_of_scope? (hother c), without_of_scope? (hother c')]
  exact Scope.restored_of_replaces hu hreplaces _ _

/-! ### The replay ids -/

/-- The replay id is taken, and the scope at the place would not free it. -/
structure Kept (t : Abreast) (nth : Nat) (r : ReplayId) : Prop where
  taken : r ∈ t.ledger.replays
  unheld : ∀ id, ¬t.Holds nth id (some r)

/-- The scope at the place would free the replay id, or it has ended and the id is free. -/
def Lost (t : Abreast) (nth : Nat) (r : ReplayId) : Prop :=
  (∃ id, t.Holds nth id (some r)) ∨ t.scope? nth = none ∧ r ∉ t.ledger.replays

theorem Kept.step (h : t.Kept a r) (hturn : turn.Between a b) : (t.step turn).Kept a r := by
  have hlogs : t.Logs (.turn turn) (t.step turn) := logs_act t (.turn turn)
  cases hlogs with
  | nothing hevents hreplays hholds =>
    refine ⟨hreplays ▸ h.taken, ?_⟩
    intro id hheld
    exact h.unheld id (hholds _ _ _ hheld)
  | recorded e nth hid hins hledger hholds =>
    refine ⟨?_, ?_⟩
    · rw [hledger]
      exact Ledger.mem_replays_record_iff.mpr (.inl h.taken)
    · intro id hheld
      rcases hholds _ _ _ hheld with hold | ⟨-, -, hr⟩
      · exact h.unheld id hold
      · -- the id is taken, so an event with it is not recorded
        rw [Ledger.record_outcome hr.symm, if_pos h.taken] at hins
        cases hins
  | dropped nth s hact hs hledger hholds =>
    obtain rfl := Act.turn.inj hact
    obtain rfl : nth = a := hturn
    refine ⟨?_, ?_⟩
    · rw [hledger, Scope.mem_replays_drop_iff]
      exact ⟨h.taken, fun id hmem => h.unheld id ⟨s, hs, hmem⟩⟩
    · intro id hheld
      exact h.unheld id (hholds _ _ _ hheld).2

theorem Kept.run (h : t.Kept a r) (hturns : ∀ turn ∈ turns, turn.Between a b) :
    (t.run turns).Kept a r :=
  run_induction (fun t => t.Kept a r) (fun _ _ hturn h => h.step hturn) h hturns

/-- A replay id is kept once the second scope has recorded it and the first would not free it. -/
theorem kept_of_records (hne : a ≠ b) (hrecords : Records b r t turn)
    (hunheld : ∀ id, ¬t.Holds a id (some r)) : (t.step turn).Kept a r := by
  unfold Records at hrecords
  split at hrecords
  · next n e =>
    obtain ⟨rfl, hr, s, hs, htenant⟩ := hrecords
    refine ⟨?_, ?_⟩
    · rw [ledger_call hs, Scope.ledger_perform_record htenant]
      exact Ledger.mem_replays_record hr
    · rintro id ⟨s', hs', hmem⟩
      rw [step, scope?_through_ne hne.symm] at hs'
      exact hunheld id ⟨s', hs', hmem⟩
  · exact absurd hrecords id

/-- A replay id that is free is recorded only by a call that records an event with it. -/
theorem free_step (hturn : turn.Between a b) (hclosed : t.scope? a = none)
    (hfree : r ∉ t.ledger.replays) (hrecords : ¬Records b r t turn) :
    r ∉ (t.step turn).ledger.replays := by
  rcases ledger_step t turn with hsame | ⟨nth, c, s, rfl, hs, hledger⟩ | ⟨nth, s, rfl, hs, -⟩
  · rwa [hsame]
  · rw [hledger]
    obtain rfl | rfl := hturn
    · rw [hclosed] at hs
      cases hs
    have hwrite := Scope.write_perform c s t.ledger
    generalize (Scope.perform c s t.ledger).2.1 = s' at hwrite
    generalize (Scope.perform c s t.ledger).2.2 = l' at hwrite
    cases hwrite with
    | nothing => exact hfree
    | opened => exact hfree
    | upserted => exact hfree
    | moved => simpa using hfree
    | reserved => simpa using hfree
    | released => simpa using hfree
    | @recorded e htenant hins =>
      rw [Ledger.mem_replays_record_iff]
      rintro (hold | hr)
      · exact hfree hold
      · exact hrecords ⟨rfl, hr, s, hs, htenant⟩
  · obtain rfl : nth = a := hturn
    rw [hclosed] at hs
    cases hs

/-- The second scope records an event under the replay id, and the first does not hold one. -/
def RecordsUnheld (a b : Nat) (r : ReplayId) (t : Abreast) (turn : Turn) : Prop :=
  Records b r t turn ∧ ∀ id, ¬t.Holds a id (some r)

/-- A replay id stays lost until the second scope records it with the first not holding it. -/
theorem Lost.step (h : t.Lost a r) (hturn : turn.Between a b) (hne : a ≠ b)
    (hrecords : ¬RecordsUnheld a b r t turn) :
    (t.step turn).Lost a r := by
  rcases h with ⟨id, s, hs, hmem⟩ | ⟨hclosed, hfree⟩
  · rcases scope?_between (t := t) hturn a with
      hsame | ⟨c, s₀, rfl, hs₀, hcalled⟩ | ⟨hended, rfl | rfl⟩
    · exact .inl ⟨id, s, hsame.trans hs, hmem⟩
    · obtain rfl := Option.some.inj (hs.symm.trans hs₀)
      exact .inl ⟨id, _, hcalled, (Scope.write_perform c s t.ledger).notes_kept hmem⟩
    · exact absurd hturn hne
    · refine .inr ⟨hended, ?_⟩
      rw [ledger_drop hs, Scope.mem_replays_drop_iff]
      exact fun hr => hr.2 id hmem
  · have hunheld : ∀ id, ¬t.Holds a id (some r) := by
      rintro id ⟨s, hs, -⟩
      rw [hclosed] at hs
      cases hs
    refine .inr ⟨?_, free_step hturn hclosed hfree fun hrec => hrecords ⟨hrec, hunheld⟩⟩
    have hturns : ∀ m ∈ [turn], m.Between a b := by simpa using hturn
    exact scope?_run_of_none hclosed hturns

theorem Lost.run (h : t.Lost a r) (hne : a ≠ b) (hturns : ∀ turn ∈ turns, turn.Between a b)
    (hrecords : ¬Sometime (RecordsUnheld a b r) t turns) :
    (t.run turns).Lost a r := by
  induction turns generalizing t with
  | nil => exact h
  | cons turn rest ih =>
    obtain ⟨hturn, hrest⟩ := List.forall_mem_cons.mp hturns
    obtain ⟨hnot, hlater⟩ := not_or.mp hrecords
    rw [run_cons]
    exact ih (h.step hturn hne hnot) hrest hlater

theorem kept_run_of_records (hne : a ≠ b) (hturns : ∀ turn ∈ turns, turn.Between a b)
    (hrecords : Sometime (RecordsUnheld a b r) t turns) : (t.run turns).Kept a r := by
  induction turns generalizing t with
  | nil => exact absurd hrecords id
  | cons turn rest ih =>
    obtain ⟨-, hrest⟩ := List.forall_mem_cons.mp hturns
    rw [run_cons]
    rcases hrecords with ⟨hnow, hunheld⟩ | hlater
    · exact (kept_of_records hne hnow hunheld).run hrest
    · exact ih hrest hlater

theorem lost_run_of_records (hne : a ≠ b) (hturns : ∀ turn ∈ turns, turn.Between a b)
    (hrecords : Sometime (Records b r) t turns)
    (hunheld : ¬Sometime (RecordsUnheld a b r) t turns) : (t.run turns).Lost a r := by
  induction turns generalizing t with
  | nil => exact absurd hrecords id
  | cons turn rest ih =>
    obtain ⟨hnot, hlater⟩ := not_or.mp hunheld
    rcases hrecords with hnow | hrecords
    · have hheld : ∃ id, t.Holds a id (some r) := by
        by_contra hnone
        exact hnot ⟨hnow, not_exists.mp hnone⟩
      exact Lost.run (.inl hheld) hne hturns hunheld
    · rw [run_cons]
      exact ih (List.forall_mem_cons.mp hturns).2 hrecords hlater

/-- Once the first scope is dropped, a replay id that the second has recorded is taken exactly if
it was once recorded with the first not holding it. -/
theorem mem_replays_run_iff (hne : a ≠ b) (hturns : ∀ turn ∈ turns, turn.Between a b)
    (hdropped : .drop a ∈ turns) (hrecords : Sometime (Records b r) t turns) :
    r ∈ (t.run turns).ledger.replays ↔ Sometime (RecordsUnheld a b r) t turns := by
  constructor
  · intro htaken
    by_contra hunheld
    rcases lost_run_of_records hne hturns hrecords hunheld with ⟨id, s, hs, -⟩ | ⟨-, hfree⟩
    · rw [scope?_run_of_dropped hturns hdropped] at hs
      cases hs
    · exact hfree htaken
  · intro hunheld
    exact (kept_run_of_records hne hturns hunheld).taken

/-! ### Both together -/

/-- Two scopes of a tenant that have done nothing yet, and turns in which the first is dropped and
the second commits. -/
structure Rivals (t : Abreast) (a b : Nat) (tenant : String) (turns : List Turn) : Prop where
  ne : a ≠ b
  first : t.scope? a = some ⟨tenant, []⟩
  second : t.scope? b = some ⟨tenant, []⟩
  between : ∀ turn ∈ turns, turn.Between a b
  dropped : .drop a ∈ turns
  committed : .commit b ∈ turns

theorem Rivals.paired (h : t.Rivals a b tenant turns) : t.Paired a b tenant := by
  refine ⟨h.ne, ?_, ?_⟩
  · intro s hs
    rw [← Option.some.inj (h.first.symm.trans hs)]
  · intro s hs
    rw [← Option.some.inj (h.second.symm.trans hs)]

/-- **What a rollback leaves of the work of another scope.**  For the last write to the entitlement,
made by the scope that commits: what is there in the end is what would be there had the other scope
been dropped right after it.  The write stays if that scope had ended, or had spared the period that
the write leaves behind; if it had replaced the entitlement, what was written makes no difference.
For each replay id that the committing scope has recorded: there is exactly one event with it if the
id was once recorded with the other scope not holding it, and otherwise there is none. -/
theorem outlives_rollback {acts : List Act} {turns : List Turn} {a b : Nat} {tenant : String}
    (hfresh : ((acts ++ turns.map Act.turn).filterMap Act.eventId?).Nodup)
    (hrivals : ((idle .empty).play acts).Rivals a b tenant turns) :
    let t := (idle .empty).play acts
    let closed := (t.run turns).ledger
    (∀ pre c post, turns = pre ++ .call b c :: post → Sets tenant (t.run pre) (.call b c) →
      ¬Sometime (Sets tenant) (t.run (pre ++ [.call b c])) post →
        let written := t.run (pre ++ [.call b c])
        closed.entitlement? tenant = written.without a tenant ∧
        (∀ e, written.ledger.entitlement? tenant = some e →
          (.drop a ∈ pre ∨ ∀ c', .call a c' ∈ pre → c'.Spares tenant e.period) →
            closed.entitlement? tenant = some e) ∧
        (∀ e, e.tenant = tenant → .call a (.upsertEntitlement e) ∈ pre → .drop a ∉ pre →
          ∀ c', closed.entitlement? tenant =
            (t.run (pre ++ [.call b c'])).without a tenant)) ∧
      ∀ r, Sometime (Records b r) t turns →
        ((closed.eventsUnder r).length = 1 ↔ Sometime (RecordsUnheld a b r) t turns) := by
  intro t closed
  have hpaired : t.Paired a b tenant := hrivals.paired
  have hclosed : (t.run turns).scope? a = none :=
    scope?_run_of_dropped hrivals.between hrivals.dropped
  have hindexed : closed.Indexed := by
    have hplayed := (indexed_idle.play (unspent_idle hfresh)).index
    rwa [play_append, play_turns] at hplayed
  refine ⟨?_, ?_⟩
  · intro pre c post hsplit hsets hlast written
    have hbetween := hrivals.between
    rw [hsplit] at hbetween
    obtain ⟨hpre, hrest⟩ := List.forall_mem_append.mp hbetween
    obtain ⟨hcall, hpost⟩ := List.forall_mem_cons.mp hrest
    have hfirst : ∀ turn ∈ pre ++ [.call b c], turn.Between a b :=
      List.forall_mem_append.mpr ⟨hpre, by simpa using hcall⟩
    have hleft : closed.entitlement? tenant = written.without a tenant := by
      rw [← without_run (hpaired.run hfirst) hpost hlast, ← run_append]
      have hwhole : pre ++ [.call b c] ++ post = turns := by simp [hsplit]
      rw [hwhole, without_of_none hclosed]
    refine ⟨hleft, ?_, ?_⟩
    · intro e hrow hspared
      have hkept := without_of_spared hrivals.first hfirst hrow ?_
      · rw [hleft, hkept]
      · rcases hspared with hdropped | hcalls
        · exact .inl (by simp [hdropped])
        · refine .inr fun c' hc' => ?_
          rcases List.mem_append.mp hc' with hmem | hmem
          · exact hcalls c' hmem
          · obtain ⟨rfl, -⟩ := Turn.call.inj (List.mem_singleton.mp hmem)
            exact absurd rfl hrivals.ne
    · intro e htenant hmem hopen c'
      rw [hleft]
      exact without_of_replaced hpaired (keyed_play Ledger.keyed_empty acts) hrivals.first hpre
        htenant hmem hopen c c'
  · intro r hrecords
    rw [hindexed.length_eventsUnder,
      ← mem_replays_run_iff hrivals.ne hrivals.between hrivals.dropped hrecords]
    show (if r ∈ closed.replays then 1 else 0) = 1 ↔ r ∈ closed.replays
    split <;> simp_all

/-! ### Two upgrades at once -/

/-- An entitlement, and two scopes of its tenant. -/
def upgrading : List Act :=
  [.call (.upsertEntitlement Traffic.lapsedTrial), .turn (.begin "acme"), .turn (.begin "acme")]

/-- The trial on another plan. -/
def onPlan (plan : String) : Entitlement := { Traffic.lapsedTrial with plan }

/-- Both scopes replace the entitlement and record a search under the same replay id. -/
def upgradedTwice : List Turn :=
  [ .call 0 (.upsertEntitlement (onPlan "max")), .call 1 (.upsertEntitlement (onPlan "team")),
    .call 0 (.record (search 0 "late")), .call 1 (.record (search 1 "late")), .commit 1, .drop 0 ]

/-- What the scope that commits has written to the entitlement after the other is lost when the
other is dropped, and so is the search that it was told has been recorded. -/
theorem rollback_takes_committed :
    ((upgrading ++ upgradedTwice.map Act.turn).filterMap Act.eventId?).Nodup ∧
      ((idle .empty).play upgrading).Rivals 0 1 "acme" upgradedTwice ∧
      let t := (idle .empty).play upgrading
      (t.run (upgradedTwice.take 4)).ledger.entitlement? "acme" = some (onPlan "team") ∧
        ((t.run (upgradedTwice.take 3)).ledger.record (search 1 "late")).1 = .duplicate ∧
        (t.run upgradedTwice).ledger.entitlement? "acme" = some Traffic.lapsedTrial ∧
        (t.run upgradedTwice).ledger.eventsUnder "late" = [] := by
  refine ⟨by decide, ⟨by decide, rfl, rfl, ?_, by simp [upgradedTwice], by simp [upgradedTwice]⟩,
    by decide, by decide, by decide, by decide⟩
  simp [upgradedTwice, Turn.Between]

/-- The scope that is dropped only moves the period, and records a search of its own. -/
def upgradedOnce : List Turn :=
  [ .call 0 (.updatePeriod "acme" ⟨⟨30 * Span.day⟩, ⟨60 * Span.day⟩⟩),
    .call 0 (.record (search 0 "early")), .call 1 (.upsertEntitlement (onPlan "team")),
    .call 1 (.record (search 1 "late")), .commit 1, .drop 0 ]

theorem rivals_upgradedOnce : ((idle .empty).play upgrading).Rivals 0 1 "acme" upgradedOnce := by
  refine ⟨by decide, rfl, rfl, ?_, by simp [upgradedOnce], by simp [upgradedOnce]⟩
  simp [upgradedOnce, Turn.Between]

theorem outlives_rollback_upgradedOnce :
    let t := (idle .empty).play upgrading
    ((upgrading ++ upgradedOnce.map Act.turn).filterMap Act.eventId?).Nodup ∧
      t.Rivals 0 1 "acme" upgradedOnce ∧
      (t.run upgradedOnce).ledger.entitlement? "acme" = some (onPlan "team") ∧
      ((t.run upgradedOnce).ledger.eventsUnder "late").length = 1 := by
  intro t
  have hfresh : ((upgrading ++ upgradedOnce.map Act.turn).filterMap Act.eventId?).Nodup := by decide
  obtain ⟨hrow, hlog⟩ := outlives_rollback hfresh rivals_upgradedOnce
  refine ⟨hfresh, rivals_upgradedOnce, ?_, ?_⟩
  · have hlast := hrow (upgradedOnce.take 2) (.upsertEntitlement (onPlan "team"))
      (upgradedOnce.drop 3) rfl ⟨⟨_, rfl⟩, rfl⟩
      (by simp [upgradedOnce, Sometime, Sets, Scope.Call.Sets])
    refine hlast.2.1 (onPlan "team") (by decide) (.inr ?_)
    intro c hc
    simp only [upgradedOnce, List.take_succ_cons, List.take_zero, List.mem_cons, Turn.call.injEq,
      List.not_mem_nil, or_false, true_and] at hc
    rcases hc with rfl | rfl
    · exact fun _ => by decide
    · trivial
  · have hrecords : Records 1 "late" (t.run (upgradedOnce.take 3))
        (.call 1 (.record (search 1 "late"))) := ⟨rfl, rfl, _, rfl, rfl⟩
    refine (hlog "late" (.inr (.inr (.inr (.inl hrecords))))).mpr ?_
    refine .inr (.inr (.inr (.inl ⟨hrecords, ?_⟩)))
    rintro id ⟨s, hs, hmem⟩
    -- the first scope holds a search under another replay id
    have hundo : ((t.run (upgradedOnce.take 3)).scope? 0).map (·.undo) =
        some [.event (.drawn 0) (some "early"), .period "acme" Traffic.lapsedTrial.period
          ⟨⟨30 * Span.day⟩, ⟨60 * Span.day⟩⟩] := by decide
    rw [show (t.run (upgradedOnce.take 3)).scope? 0 = some s from hs] at hundo
    have hnotes : s.undo = _ := Option.some.inj hundo
    rw [hnotes] at hmem
    simp at hmem

end Abreast

end Turnstile
