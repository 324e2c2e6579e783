/-
Metrics and answers.

Admissions and settlements of one service go on beside each other, step by step, and what lies
around the service is left open: the ledger may refuse any call, and between two steps the ledger,
the limiter and the clock may become anything.  Only the observer is the service's own.  `Crowd` is
the world with every call that has been made, and `Stir` one thing that can happen next.

A call is entered into the metrics in the step that settles its answer, and in no other: a denial
when it is turned away, an admission or a failed call when its scope has committed.  So each step
keeps the metrics equal to the entries of the calls (`Admission.enters_step`,
`Settlement.enters_step`), and when nothing is on its way the entries are the answers.
-/
import Mathlib.Data.List.Count
import Turnstile.Proofs.Telemetry.Observer
import Turnstile.Proofs.Traffic.Basic

namespace Turnstile

/-! ### Entries -/

namespace Metrics

/-- Does a counter count an entry?  An entry is made under one name, and every entry but an
admission is a denial as well. -/
def Name.counts (read : Name) (entry : Option Name) : Bool :=
  entry.any fun name => read = name || read = .denied && name ≠ .allowed

/-- The metrics change as an entry does.  One call does not tell what becomes of the alerts. -/
structure Enters (before after : Option Name) (m m' : Metrics) : Prop where
  value : ∀ read : Name, read ≠ .alerts →
    m'.value read + .ofNat (read.counts before).toNat =
      m.value read + .ofNat (read.counts after).toNat

theorem Enters.refl (entry : Option Name) (m : Metrics) : Enters entry entry m m :=
  ⟨fun _ _ => rfl⟩

end Metrics

namespace Observer

open Metrics

variable (o : Observer) (tenant : String)

/-- A denial is entered under the name of its reason. -/
theorem enters_recordDeny (reason : DenyReason) :
    Enters none (some reason.counter) o.metrics (o.recordDeny tenant reason).2.metrics := by
  refine ⟨fun read hread => ?_⟩
  have hvalue : (o.recordDeny tenant reason).2.metrics.value read =
      ((o.metrics.add 1 reason.counter).add 1 .denied).value read := by
    rw [metrics_recordDeny]
    split
    · rw [value_add, if_neg hread.symm]
    · rfl
  rw [hvalue, value_add, value_add]
  cases reason <;> cases read <;> simp [Name.counts, DenyReason.counter]

theorem enters_recordAllow (used limit : Int) :
    Enters none (some .allowed) o.metrics (o.recordAllow tenant used limit).2.metrics := by
  refine ⟨fun read _ => ?_⟩
  rw [metrics_recordAllow, value_add]
  cases read <;> simp [Name.counts]

end Observer

/-! ### Admissions -/

namespace Admission

open Metrics

/-- The name under which an answer is entered.  An error of the ledger is not entered. -/
def entryOf : Admitted → Option Name
  | .ok _ => some .allowed
  | .error (.subscriptionInactive _) => some .subscriptionDenied
  | .error (.rateLimited _) => some .rateLimited
  | .error (.quotaExceeded _) => some .quotaExceeded
  | .error (.ledger _) | .crashed => none

/-- The entry of a call.  It is made when the answer is settled. -/
def entry : Admission → Option Name
  | closing _ answer | finished answer => entryOf answer
  | _ => none

variable (svc : Service) (refusal : Option LedgerError) (w : World)

theorem enters_turnAway (scope : Scope) {reason : DenyReason} {e : ServiceError}
    (h : entryOf (.error e) = some reason.counter) :
    Enters none (turnAway scope w reason e).1.entry w.observer.metrics
      (turnAway scope w reason e).2.observer.metrics := by
  show Enters none (entryOf (.error e)) _ _
  rw [h]
  exact Observer.enters_recordDeny ..

theorem enters_commit (scope : Scope) (cost : Int) (e : Entitlement) (rolled : Bool)
    (usedAfter : Int) :
    Enters none (commit svc scope cost e rolled usedAfter w).1.entry w.observer.metrics
      (commit svc scope cost e rolled usedAfter w).2.observer.metrics := by
  unfold commit
  cases rolled with
  | false => exact Observer.enters_recordAllow ..
  | true => exact Observer.enters_recordAllow (w.observer.reset scope.tenant) ..

/-- **A step of an admission changes the metrics as it changes the call's entry.** -/
theorem enters_step (s : Admission) :
    Enters s.entry (s.step svc refusal w).1.entry w.observer.metrics
      (s.step svc refusal w).2.observer.metrics := by
  cases s with
  | arriving tenant tool =>
    simp only [step, arrive]
    split
    · exact Observer.enters_recordDeny w.observer tenant .missingTenant
    · cases refusal with
      | none => exact .refl none _
      | some e => exact .refl none _
  | reading scope cost now =>
    cases refusal with
    | some e => exact .refl none _
    | none =>
      simp only [step, read]
      split
      · exact enters_turnAway _ _ rfl
      · split
        · split
          · exact .refl none _
          · exact .refl none _
        · exact .refl none _
  | rolling scope cost now e next =>
    cases refusal with
    | some err => exact .refl none _
    | none => exact .refl none _
  | screening scope cost now e rolled =>
    simp only [step, screen]
    split
    · exact enters_turnAway _ _ rfl
    · split
      · exact .refl none _
      · exact enters_turnAway _ _ rfl
  | ensuring scope cost e rolled =>
    cases refusal with
    | some err => exact .refl none _
    | none => exact .refl none _
  | reserving scope cost e rolled =>
    cases refusal with
    | some err => exact .refl none _
    | none =>
      simp only [step, reserve]
      split
      · exact .refl none _
      · exact enters_turnAway _ _ rfl
  | committing scope cost e rolled usedAfter =>
    cases refusal with
    | some err => exact .refl none _
    | none => exact enters_commit ..
  | closing scope answer => exact .refl _ _
  | finished answer => exact .refl _ _

end Admission

/-! ### Settlements -/

/-- A report that is being settled. -/
structure Filing where
  report : Report
  state : Settlement

namespace Filing

open Metrics

/-- A report that has just been handed in. -/
def new (report : Report) : Filing := ⟨report, .arriving report⟩

/-- The next step. -/
def step (refusal : Option LedgerError) (f : Filing) (w : World) : Filing × World :=
  ({ f with state := (f.state.step refusal w).1 }, (f.state.step refusal w).2)

/-- The name under which an answer is entered: only a failed call is, and only once. -/
def entryOf : Settled → Execution → Option Name
  | .ok .inserted, .failed => some .failedExecutions
  | _, _ => none

/-- The entry of a report.  It is made when the answer is settled. -/
def entry (f : Filing) : Option Name :=
  match f.state with
  | .closing _ answer | .finished answer => entryOf answer f.report.status
  | _ => none

/-- What is being settled is the report, as long as it is needed. -/
def Sound (f : Filing) : Prop :=
  match f.state with
  | .arriving report | .recording _ report | .releasing _ report | .committing _ report =>
    report = f.report
  | .closing _ _ | .finished _ => True

variable {f : Filing} (refusal : Option LedgerError) (w : World)

theorem sound_step (h : f.Sound) : (f.step refusal w).1.Sound := by
  obtain ⟨report, state⟩ := f
  cases state with
  | arriving r =>
    obtain rfl : r = report := h
    cases refusal with
    | some e => trivial
    | none =>
      simp only [step, Settlement.step, Settlement.arrive]
      split
      · exact rfl
      · trivial
  | recording scope r =>
    obtain rfl : r = report := h
    cases refusal with
    | some e => trivial
    | none =>
      simp only [step, Settlement.step, Settlement.record]
      split
      · trivial
      · dsimp only
        split
        · exact rfl
        · exact rfl
  | releasing scope r =>
    obtain rfl : r = report := h
    cases refusal with
    | some e => trivial
    | none => exact rfl
  | committing scope r =>
    cases refusal with
    | some e => trivial
    | none => trivial
  | closing scope answer => trivial
  | finished answer => trivial

/-- **A step of a settlement changes the metrics as it changes the entry of its report.** -/
theorem enters_step (h : f.Sound) :
    Enters f.entry (f.step refusal w).1.entry w.observer.metrics
      (f.step refusal w).2.observer.metrics := by
  obtain ⟨report, state⟩ := f
  cases state with
  | arriving r =>
    cases refusal with
    | some e => exact .refl none _
    | none =>
      simp only [step, Settlement.step, Settlement.arrive]
      split
      · exact .refl none _
      · exact .refl none _
  | recording scope r =>
    cases refusal with
    | some e => exact .refl none _
    | none =>
      simp only [step, Settlement.step, Settlement.record]
      split
      · exact .refl none _
      · dsimp only
        split
        · exact .refl none _
        · exact .refl none _
  | releasing scope r =>
    cases refusal with
    | some e => exact .refl none _
    | none => exact .refl none _
  | committing scope r =>
    obtain rfl : r = report := h
    cases refusal with
    | some e => exact .refl none _
    | none =>
      show Enters none (entryOf (.ok .inserted) r.status) _
        (Settlement.commit scope r w).2.observer.metrics
      unfold Settlement.commit
      cases r.status with
      | success => exact .refl none _
      | failed => exact Observer.enters_recordDeny w.observer scope.tenant .executionFailed
  | closing scope answer => exact .refl _ _
  | finished answer => exact .refl _ _

/-- Is it the report of a failed call, and has it been recorded? -/
def recordsFailure (f : Filing) : Bool :=
  f.report.status = .failed && f.state.result? = some (.ok .inserted)

theorem entry_of_ended (h : f.state.result?.isSome) :
    f.entry = if f.recordsFailure then some .failedExecutions else none := by
  obtain ⟨report, state⟩ := f
  cases state with
  | finished answer =>
    show entryOf answer report.status = _
    unfold entryOf
    split
    · next hfailed => simp [recordsFailure, Settlement.result?, hfailed]
    · next hother =>
      rw [if_neg]
      simp only [recordsFailure, Settlement.result?, Bool.and_eq_true, decide_eq_true_eq,
        Option.some.injEq]
      rintro ⟨hfailed, rfl⟩
      exact hother rfl hfailed
  | _ => cases h

end Filing

/-! ### One machine of many -/

section stepAt

variable {σ : Type} {f : σ → World → σ × World} {entry : σ → Option Metrics.Name} {i : Nat}
  {l : List σ} {w : World}

theorem countP_set_add {p : σ → Bool} {s : σ} (h : l[i]? = some s) (s' : σ) :
    (l.set i s').countP p + (p s).toNat = l.countP p + (p s').toNat := by
  induction l generalizing i with
  | nil => simp at h
  | cons a rest ih =>
      cases i with
      | zero =>
        obtain rfl : a = s := by simpa using h
        simp only [List.set_cons_zero, List.countP_cons]
        cases p a <;> cases p s' <;> simp
      | succ i =>
        have ih := ih (i := i) (by simpa using h)
        simp only [List.set_cons_succ, List.countP_cons]
        omega

/-- A machine that enters what it does keeps a counter equal to the entries, whatever else it
counts. -/
theorem value_stepAt
    (h : ∀ s ∈ l, Metrics.Enters (entry s) (entry (f s w).1) w.observer.metrics
      (f s w).2.observer.metrics)
    {read : Metrics.Name} (hread : read ≠ .alerts) {others : Nat}
    (hw : w.observer.metrics.value read =
      .ofNat (l.countP (fun s => read.counts (entry s)) + others)) :
    (stepAt f i l w).2.observer.metrics.value read =
      .ofNat ((stepAt f i l w).1.countP (fun s => read.counts (entry s)) + others) := by
  cases hs : l[i]? with
  | none => rw [stepAt_of_none hs]; exact hw
  | some s =>
    rw [stepAt_of_getElem? hs]
    have henters := (h s (List.mem_of_getElem? hs)).value read hread
    have hcount := countP_set_add (p := fun s => read.counts (entry s)) hs (f s w).1
    dsimp only at hcount ⊢
    refine (UInt64.add_left_inj _).mp (henters.trans ?_)
    rw [hw, ← UInt64.ofNat_add, ← UInt64.ofNat_add]
    congr 1
    omega

end stepAt

/-! ### All calls -/

/-- The world, and every call that has been made of a service. -/
structure Crowd where
  world : World
  admissions : List Admission
  filings : List Filing

/-- What can happen next. -/
inductive Stir
  /-- Everything but the observer becomes what others make of it. -/
  | elsewhere (w : World)
  /-- A call of a tool arrives. -/
  | arrive (tenant tool : String)
  /-- An admission makes its next step, and its call of the ledger may be refused. -/
  | admitting (nth : Nat) (refusal : Option LedgerError)
  /-- A report is handed in, of whatever reservation. -/
  | file (report : Report)
  /-- A settlement makes its next step, and its call of the ledger may be refused. -/
  | settling (nth : Nat) (refusal : Option LedgerError)

namespace Crowd

open Metrics

/-- A world without calls. -/
def quiet (w : World) : Crowd := ⟨w, [], []⟩

/-- The next thing happens. -/
def step (svc : Service) (t : Crowd) : Stir → Crowd
  | .elsewhere w => { t with world := { w with observer := t.world.observer } }
  | .arrive tenant tool => { t with admissions := t.admissions ++ [.arriving tenant tool] }
  | .admitting nth refusal =>
    { t with
      admissions := (stepAt (Admission.step svc refusal) nth t.admissions t.world).1
      world := (stepAt (Admission.step svc refusal) nth t.admissions t.world).2 }
  | .file report => { t with filings := t.filings ++ [.new report] }
  | .settling nth refusal =>
    { t with
      filings := (stepAt (Filing.step refusal) nth t.filings t.world).1
      world := (stepAt (Filing.step refusal) nth t.filings t.world).2 }

/-- One thing happens after another. -/
def run (svc : Service) (t : Crowd) (stirs : List Stir) : Crowd := stirs.foldl (step svc) t

/-- Has every call been answered? -/
structure AtRest (t : Crowd) : Prop where
  admissions : ∀ a ∈ t.admissions, a.result?.isSome
  filings : ∀ f ∈ t.filings, f.state.result?.isSome

/-- The entries that a counter counts. -/
def entries (t : Crowd) (read : Name) : Nat :=
  t.admissions.countP (fun a => read.counts a.entry) + t.filings.countP fun f => read.counts f.entry

/-- What is known of calls on their way: the metrics hold their entries, as numbers that wrap. -/
structure Kept (t : Crowd) : Prop where
  filings : ∀ f ∈ t.filings, f.Sound
  metrics : ∀ read : Name, read ≠ .alerts →
    t.world.observer.metrics.value read = .ofNat (t.entries read)

variable {svc : Service} {t : Crowd}

theorem kept_quiet {w : World} (hfresh : w.observer.metrics = .zero) : (quiet w).Kept :=
  ⟨by simp [quiet], by simp [quiet, entries, hfresh]⟩

/-- Whatever happens next keeps the metrics equal to the entries. -/
theorem Kept.step (h : t.Kept) (s : Stir) : (t.step svc s).Kept := by
  cases s with
  | elsewhere w => exact ⟨h.filings, h.metrics⟩
  | arrive tenant tool =>
    refine ⟨h.filings, fun read hread => ?_⟩
    have hsame : (t.step svc (.arrive tenant tool)).entries read = t.entries read := by
      simp [Crowd.step, entries, List.countP_append, Admission.entry, Name.counts]
    rw [hsame]
    exact h.metrics read hread
  | admitting nth refusal =>
    refine ⟨h.filings, fun read hread => ?_⟩
    exact value_stepAt (fun a _ => Admission.enters_step svc refusal t.world a) hread
      (h.metrics read hread)
  | file report =>
    refine ⟨?_, fun read hread => ?_⟩
    · intro f hf
      rcases List.mem_append.mp hf with hf | hf
      · exact h.filings f hf
      · rw [List.mem_singleton.mp hf]
        exact rfl
    · have hsame : (t.step svc (.file report)).entries read = t.entries read := by
        simp [Crowd.step, entries, List.countP_append, Filing.new, Filing.entry, Name.counts]
      rw [hsame]
      exact h.metrics read hread
  | settling nth refusal =>
    refine ⟨forall_mem_stepAt h.filings fun f hf => Filing.sound_step refusal _ (h.filings f hf),
      fun read hread => ?_⟩
    have hkept := h.metrics read hread
    unfold entries at hkept ⊢
    rw [Nat.add_comm] at hkept ⊢
    exact value_stepAt (fun f hf => Filing.enters_step refusal t.world (h.filings f hf)) hread hkept

theorem Kept.run (h : t.Kept) (stirs : List Stir) : (t.run svc stirs).Kept := by
  induction stirs generalizing t with
  | nil => exact h
  | cons s rest ih => exact ih (h.step s)

/-! ### Calls that have been answered -/

/-- How many calls have been given an answer of some kind. -/
def answers (t : Crowd) (kind : Admitted → Bool) : Nat :=
  t.admissions.countP fun a => a.result?.any kind

/-- How many failed calls have been recorded. -/
def failures (t : Crowd) : Nat := t.filings.countP Filing.recordsFailure

/-- When nothing is on its way, the entries are the answers of the calls. -/
theorem entries_of_atRest (h : t.AtRest) (read : Name) :
    t.entries read = t.answers (fun answer => read.counts (Admission.entryOf answer)) +
      if read.counts (some .failedExecutions) then t.failures else 0 := by
  unfold entries answers failures
  congr 1
  · refine List.countP_congr fun a ha => ?_
    have hended := h.admissions a ha
    cases a <;> simp_all [Admission.result?, Admission.entry]
  · split
    · next hcounts =>
      refine List.countP_congr fun f hf => ?_
      rw [Filing.entry_of_ended (h.filings f hf)]
      cases f.recordsFailure with
      | true => simp [hcounts]
      | false => simp [Name.counts]
    · next hcounts =>
      refine List.countP_eq_zero.mpr fun f hf => ?_
      rw [Filing.entry_of_ended (h.filings f hf)]
      cases f.recordsFailure with
      | true => exact hcounts
      | false => simp [Name.counts]

/-- When nothing is on its way, a counter holds the answers of its kind, and the failures if it
counts them. -/
theorem Kept.value_of_atRest (h : t.Kept) (hrest : t.AtRest) (read : Name) (hread : read ≠ .alerts)
    {kind : Admitted → Bool}
    (hkind : ∀ answer, read.counts (Admission.entryOf answer) = kind answer) :
    t.world.observer.metrics.value read =
      .ofNat (t.answers kind + if read.counts (some .failedExecutions) then t.failures else 0) := by
  rw [h.metrics read hread, entries_of_atRest hrest, funext hkind]

/-- Answers of either of two kinds. -/
theorem answers_add (t : Crowd) {kind other either : Admitted → Bool}
    (h : ∀ answer, (kind answer).toNat + (other answer).toNat = (either answer).toNat) :
    t.answers kind + t.answers other = t.answers either := by
  unfold answers
  induction t.admissions with
  | nil => rfl
  | cons a rest ih =>
      simp only [List.countP_cons]
      cases a.result? with
      | none => simpa using ih
      | some answer =>
        have hnumber : ∀ b : Bool, b.toNat = if b then 1 else 0 := by decide
        have hone := h answer
        rw [hnumber, hnumber, hnumber] at hone
        simp only [Option.any_some]
        omega

/-- The denials among the entries of admissions are the three kinds of denials among the answers. -/
theorem answers_denied (t : Crowd) :
    t.answers (· matches .error (.rateLimited _)) +
        t.answers (· matches .error (.quotaExceeded _)) +
          t.answers (· matches .error (.subscriptionInactive _)) =
      t.answers fun answer => Name.denied.counts (Admission.entryOf answer) := by
  have hbusy : t.answers (· matches .error (.rateLimited _)) +
        t.answers (· matches .error (.quotaExceeded _)) =
      t.answers fun answer =>
        answer matches .error (.rateLimited _) || answer matches .error (.quotaExceeded _) :=
    t.answers_add (by rintro (_ | (_ | _ | _ | _) | _) <;> rfl)
  rw [hbusy]
  exact t.answers_add (by rintro (_ | (_ | _ | _ | _) | _) <;> rfl)

/-- **The metrics are the answers that have been given**, as numbers that wrap.  Whatever the ledger
refuses and whatever becomes of it, once nothing is on its way each answer has been counted once, by
the counter of its kind.  An error of the ledger is of no kind, nor is a report that was recorded
before. -/
theorem metrics_are_answers {w : World} (hfresh : w.observer.metrics = .zero) {stirs : List Stir}
    (hrest : ((quiet w).run svc stirs).AtRest) :
    let t := (quiet w).run svc stirs
    let m := t.world.observer.metrics
    m.allowed = .ofNat (t.answers (· matches .ok _)) ∧
    m.rateLimited = .ofNat (t.answers (· matches .error (.rateLimited _))) ∧
    m.quotaExceeded = .ofNat (t.answers (· matches .error (.quotaExceeded _))) ∧
    m.subscriptionDenied = .ofNat (t.answers (· matches .error (.subscriptionInactive _))) ∧
    m.failedExecutions = .ofNat t.failures ∧
    m.denied = m.rateLimited + m.quotaExceeded + m.subscriptionDenied + m.failedExecutions := by
  intro t m
  have hkept : t.Kept := (kept_quiet hfresh).run stirs
  have hallowed : m.allowed = .ofNat (t.answers (· matches .ok _)) :=
    hkept.value_of_atRest hrest .allowed (by decide)
      (by rintro (_ | (_ | _ | _ | _) | _) <;> rfl)
  have hlimited : m.rateLimited = .ofNat (t.answers (· matches .error (.rateLimited _))) :=
    hkept.value_of_atRest hrest .rateLimited (by decide)
      (by rintro (_ | (_ | _ | _ | _) | _) <;> rfl)
  have hquota : m.quotaExceeded = .ofNat (t.answers (· matches .error (.quotaExceeded _))) :=
    hkept.value_of_atRest hrest .quotaExceeded (by decide)
      (by rintro (_ | (_ | _ | _ | _) | _) <;> rfl)
  have hinactive :
      m.subscriptionDenied = .ofNat (t.answers (· matches .error (.subscriptionInactive _))) :=
    hkept.value_of_atRest hrest .subscriptionDenied (by decide)
      (by rintro (_ | (_ | _ | _ | _) | _) <;> rfl)
  have hfailed : m.failedExecutions = .ofNat t.failures := by
    have hnone : ∀ answer, Name.failedExecutions.counts (Admission.entryOf answer) = false := by
      rintro (_ | (_ | _ | _ | _) | _) <;> rfl
    show m.value .failedExecutions = .ofNat t.failures
    simpa [answers, Name.counts] using
      hkept.value_of_atRest hrest .failedExecutions (by decide) hnone
  refine ⟨hallowed, hlimited, hquota, hinactive, hfailed, ?_⟩
  rw [hlimited, hquota, hinactive, hfailed, ← UInt64.ofNat_add, ← UInt64.ofNat_add,
    ← UInt64.ofNat_add, answers_denied]
  exact hkept.value_of_atRest hrest .denied (by decide) fun _ => rfl

/-! ### A day with every kind of answer -/

/-- The reservation of the first call of the lapsed trial. -/
def firstUnit : Reservation :=
  ⟨"acme", defaultMeter, ⟨⟨30 * Span.day⟩, ⟨60 * Span.day⟩⟩, 1, 3, 1, .trialing⟩

/-- The first call is admitted, fails, and is reported twice.  The second has no tenant, and the
third cannot commit. -/
def mixedDay : List Stir :=
  [.arrive "acme" "search", .arrive " " "search", .arrive "acme" "fetch", .admitting 1 none] ++
    List.replicate 7 (.admitting 0 none) ++ List.replicate 5 (.admitting 2 none) ++
    [.admitting 2 (some (.storage "disk full")), .admitting 2 none,
      .file ⟨firstUnit, "search", "r", none, .failed⟩,
      .file ⟨firstUnit, "search", "r", none, .failed⟩] ++
    List.replicate 4 (.settling 0 none) ++ List.replicate 3 (.settling 1 none)

/-- Of five calls three are counted: the admission, the denial and the failure. -/
theorem metrics_are_answers_mixedDay :
    let t := (quiet Traffic.lapsedWorld).run .standard mixedDay
    let m := t.world.observer.metrics
    Traffic.lapsedWorld.observer.metrics = .zero ∧ t.AtRest ∧ m.allowed = 1 ∧
      m.rateLimited = 0 ∧ m.quotaExceeded = 0 ∧ m.subscriptionDenied = 1 ∧
      m.failedExecutions = 1 ∧ m.denied = 2 := by
  intro t m
  have hrest : t.AtRest := ⟨by decide, by decide⟩
  obtain ⟨hallowed, hlimited, hquota, hinactive, hfailed, hdenied⟩ :=
    metrics_are_answers (w := Traffic.lapsedWorld) rfl hrest
  have hfailures : m.failedExecutions = 1 := hfailed.trans (by decide)
  have hdenials : m.subscriptionDenied = 1 := hinactive.trans (by decide)
  have hquiet : m.rateLimited = 0 ∧ m.quotaExceeded = 0 :=
    ⟨hlimited.trans (by decide), hquota.trans (by decide)⟩
  refine ⟨rfl, hrest, hallowed.trans (by decide), hquiet.1, hquiet.2, hdenials, hfailures, ?_⟩
  rw [show m.denied = _ from hdenied, hquiet.1, hquiet.2, hdenials, hfailures]
  rfl

end Crowd

end Turnstile
