/-
Every key of the settings is judged, and each one by itself.

What is wrong with a key depends on the answer for that key alone (`Key.fault?`): the answer is an
error, or its text has a flaw (`Key.flaw?`).  Settings are loaded if nothing is wrong with any key;
otherwise all that is wrong is reported, one error for each bad key in the order of the keys
(`load_judges_every_key`).  What is loaded is what the answers spell (`spelled`).

The proof has one equation for each reader: what it notes, and what it makes of the settings.
Chained, they give the whole draft (`draft_eq`).  Later keys could spoil the word of earlier ones
in three places: the price of its own takes the place of the table's, distances are raised to one,
and the meter is checked once more at the end.  The last two never do anything to settings that
are loaded.
-/
import Mathlib.Data.List.Basic
import Turnstile.Config.Settings

namespace Turnstile.Settings

variable {α : Type}

/-! ### What an answer holds -/

/-- What a configuration answers for one key. -/
abbrev Answer := Except ConfigError (Option String)

/-- The text in an answer, without the blanks at its ends.  One that is all blank is absent. -/
def textOf : Answer → Option String
  | .ok (some raw) => if Text.isBlankText raw then none else some (Text.trim raw)
  | _ => none

/-- The number in an answer, if its text is one. -/
def numberOf (read : String → Except NumberError α) : Answer → Option α
  | .ok (some raw) => (read (Text.trim raw)).toOption
  | _ => none

/-- The table in the file that an answer names. -/
def tableOf (files : CostFiles) (a : Answer) : Option CostTable :=
  (textOf a).bind fun path => (files path).toOption

theorem asText_some (raw : String) :
    Config.asText (some raw) = if Text.isBlankText raw then none else some (Text.trim raw) := by
  unfold Config.asText
  rw [Option.map_some, Option.filter_some, Text.isEmpty_trim]
  cases Text.isBlankText raw <;> rfl

theorem isBlankText_textOf {a : Answer} {t : String} (h : textOf a = some t) :
    Text.isBlankText t = false := by
  unfold textOf at h
  split at h
  · next raw =>
    split at h
    · cases h
    · next hblank =>
      cases h
      rw [Text.isBlankText_trim]
      simpa using hblank
  · cases h

/-! ### What is wrong with a key -/

/-- What is wrong with a text as a number: it is none, or the number breaks a rule. -/
def numberFlaw? (read : String → Except NumberError α) (rule : α → Bool) (words : String)
    (raw : String) : Option ValueError :=
  match read (Text.trim raw) with
  | .error e => some (.number e)
  | .ok n => if rule n then none else some (.rule words)

/-- What is wrong with a text as the name of a cost table's file. -/
def pathFlaw? (files : CostFiles) (raw : String) : Option ValueError :=
  if Text.isBlankText raw then none
  else match files (Text.trim raw) with
    | .ok _ => none
    | .error e => some e

/-- What is wrong with the answer for a key: the answer is an error, or its text has a flaw. -/
def faultOf (key : String) (flaw? : String → Option ValueError) : Answer → Option ConfigError
  | .error e => some e
  | .ok none => none
  | .ok (some raw) => (flaw? raw).map (.invalidValue key)

/-- The keys of the settings. -/
inductive Key
  | meter
  | costPath
  | unitCost
  | graceDays
  | warning
  | alerts
  | interval
  | databaseUrl
  | statementTimeout
deriving DecidableEq, Repr

namespace Key

/-- The keys in order. -/
def all : List Key :=
  [meter, costPath, unitCost, graceDays, warning, alerts, interval, databaseUrl, statementTimeout]

theorem mem_all (k : Key) : k ∈ all := by cases k <;> decide

/-- The name of a key. -/
def name : Key → String
  | meter => "metering.meter"
  | costPath => "metering.tool_cost_path"
  | unitCost => "metering.default_unit_cost"
  | graceDays => "metering.past_due_grace_days"
  | warning => "observer.warn_utilization"
  | alerts => "observer.alert_every"
  | interval => "reconcile.interval_secs"
  | databaseUrl => "database.url"
  | statementTimeout => "database.statement_timeout_ms"

/-- What is wrong with a text for a key. -/
def flaw? (files : CostFiles) : Key → String → Option ValueError
  | meter | databaseUrl => fun _ => none
  | costPath => pathFlaw? files
  | unitCost => numberFlaw? WholeRange.signed.read (fun n => 0 < n) "must be positive"
  | graceDays => numberFlaw? WholeRange.signed.read (fun n => 0 ≤ n) "must not be negative"
  | warning => numberFlaw? readFloat (fun x => 0.0 < x && x ≤ 1.0) "must be in (0, 1]"
  | alerts | interval | statementTimeout =>
    numberFlaw? readWord (fun n => 1 ≤ n) "must be at least 1"

/-- What is wrong with the answer for a key. -/
def fault? (files : CostFiles) (k : Key) (a : Answer) : Option ConfigError :=
  faultOf k.name (k.flaw? files) a

end Key

/-- All that is wrong, in the order of the keys. -/
def faults (answers : Answers) (files : CostFiles) : List ConfigError :=
  Key.all.filterMap fun k => k.fault? files (answers k.name)

theorem faults_eq_nil_iff {answers : Answers} {files : CostFiles} :
    faults answers files = [] ↔ ∀ k : Key, k.fault? files (answers k.name) = none := by
  unfold faults
  rw [List.filterMap_eq_nil_iff]
  exact ⟨fun h k => h k k.mem_all, fun h k _ => h k⟩

section Sound

variable {key words : String} {read : String → Except NumberError α} {rule : α → Bool} {a : Answer}

/-- A number that nothing is wrong with keeps its rule. -/
theorem rule_of_sound (hsound : faultOf key (numberFlaw? read rule words) a = none) {n : α}
    (hn : numberOf read a = some n) : rule n = true := by
  unfold numberOf at hn
  split at hn
  · next raw =>
    cases hread : read (Text.trim raw) with
    | error e => simp [hread, Except.toOption] at hn
    | ok m =>
      obtain rfl : m = n := by simpa [hread, Except.toOption] using hn
      simpa [faultOf, numberFlaw?, hread] using hsound
  · cases hn

/-- So does the number that is loaded, if the default does. -/
theorem rule_getD (hsound : faultOf key (numberFlaw? read rule words) a = none) (standard : α)
    (hstandard : rule standard = true) : rule ((numberOf read a).getD standard) = true := by
  cases hn : numberOf read a with
  | none => exact hstandard
  | some n => exact rule_of_sound hsound hn

end Sound

/-! ### What each reader does -/

/-- Note what is wrong, if anything is. -/
def Draft.noting (d : Draft) (fault : Option ConfigError) : Draft :=
  { d with errors := d.errors ++ fault.toList }

/-- What is wrong with the answer for a number. -/
def NumberKey.fault? (k : NumberKey α) (a : Answer) : Option ConfigError :=
  faultOf k.key (numberFlaw? k.read k.rule k.words) a

theorem take_text (answers : Answers) (key : String) (d : Draft) :
    d.take (text answers key) =
      (textOf (answers key), d.noting (faultOf key (fun _ => none) (answers key))) := by
  unfold text
  match answers key with
  | .error e => rfl
  | .ok none => simp [Draft.take, Draft.noting, Except.map, Config.asText, textOf, faultOf]
  | .ok (some raw) => simp [Draft.take, Draft.noting, Except.map, asText_some, textOf, faultOf]

/-- Either there is no number, and what is wrong has been noted; or there is one, and checking its
rule notes what is wrong. -/
theorem take_number (answers : Answers) (k : NumberKey α) (d : Draft) :
    (numberOf k.read (answers k.key) = none ∧
      d.take (number answers k) = (none, d.noting (k.fault? (answers k.key)))) ∨
    ∃ n, numberOf k.read (answers k.key) = some n ∧ d.take (number answers k) = (some n, d) ∧
      d.check (k.rule n) k.key k.words = d.noting (k.fault? (answers k.key)) := by
  unfold number NumberKey.fault?
  match answers k.key with
  | .error e => exact .inl ⟨rfl, rfl⟩
  | .ok none =>
    left
    simp [numberOf, Draft.take, Draft.noting, Except.bind, Config.asValue, faultOf]
  | .ok (some raw) =>
    cases hread : k.read (Text.trim raw) with
    | error e =>
      left
      simp [numberOf, numberFlaw?, Draft.take, Draft.note, Draft.noting, Except.bind,
        Except.toOption, Config.asValue, faultOf, hread]
    | ok n =>
      refine .inr ⟨n, ?_, ?_, ?_⟩
      · simp [numberOf, Except.toOption, hread]
      · simp [Draft.take, Except.bind, Config.asValue, hread]
      · cases hrule : k.rule n <;>
          simp [Draft.check, Draft.note, Draft.noting, numberFlaw?, faultOf, hread, hrule]

/-- Storing a number that is there amounts to putting one that may be there. -/
theorem readNumber_eq (answers : Answers) (k : NumberKey α) {store : α → Settings → Settings}
    (put : Option α → Settings → Settings) (d : Draft) (hnone : put none d.settings = d.settings)
    (hsome : ∀ n s, put (some n) s = store n s) :
    readNumber answers k store d =
      (d.noting (k.fault? (answers k.key))).edit (put (numberOf k.read (answers k.key))) := by
  unfold readNumber
  obtain ⟨hn, htake⟩ | ⟨n, hn, htake, hcheck⟩ := take_number answers k d
  · simp only [htake, hn]
    exact congrArg (Draft.mk · _) hnone.symm
  · simp only [htake, hn, hcheck]
    exact congrArg (Draft.edit _) (funext fun s => (hsome n s).symm)

/-- The price of the key, else the one that is there if it is positive, else one. -/
theorem readUnitCost_eq (answers : Answers) (d : Draft) :
    readUnitCost answers d =
      (d.noting (NumberKey.unitCost.fault? (answers unitCostKey))).edit fun s =>
        s.withUnitCost (((numberOf WholeRange.signed.read (answers unitCostKey)).or
          (CostTable.positive? s.costs.default)).getD 1) := by
  have hkey : NumberKey.unitCost.key = unitCostKey := rfl
  have hread : NumberKey.unitCost.read = WholeRange.signed.read := rfl
  unfold readUnitCost
  obtain ⟨hn, htake⟩ | ⟨n, hn, htake, hcheck⟩ := take_number answers NumberKey.unitCost d
  · rw [hkey, hread] at hn
    simp only [htake, hn]
    refine congrArg (Draft.edit _) (funext fun s => ?_)
    rw [Option.none_or, CostTable.positive?]
    by_cases hpos : 0 < s.costs.default
    · rw [if_neg (by omega), if_pos hpos]
      rfl
    · rw [if_pos (by omega), if_neg hpos]
      rfl
  · rw [hkey, hread] at hn
    simp only [htake, hn, hcheck]
    rfl

theorem readMeter_eq (answers : Answers) (d : Draft) :
    readMeter answers d =
      (d.noting (faultOf meterKey (fun _ => none) (answers meterKey))).edit fun s =>
        { s with meter := (textOf (answers meterKey)).getD s.meter } := by
  unfold readMeter
  rw [take_text]
  cases textOf (answers meterKey) <;> rfl

theorem readDatabaseUrl_eq (answers : Answers) (d : Draft) :
    readDatabaseUrl answers d =
      (d.noting (faultOf databaseUrlKey (fun _ => none) (answers databaseUrlKey))).edit fun s =>
        { s with databaseUrl := textOf (answers databaseUrlKey) } := by
  unfold readDatabaseUrl
  rw [take_text]

theorem readCosts_eq (answers : Answers) (files : CostFiles) (d : Draft) :
    readCosts answers files d =
      (d.noting (faultOf costPathKey (pathFlaw? files) (answers costPathKey))).edit fun s =>
        { s with
          costPath := textOf (answers costPathKey)
          costs := (tableOf files (answers costPathKey)).getD s.costs } := by
  unfold readCosts
  rw [take_text]
  unfold tableOf
  match answers costPathKey with
  | .error e => rfl
  | .ok none => rfl
  | .ok (some raw) =>
    by_cases hblank : Text.isBlankText raw = true
    · simp [textOf, faultOf, pathFlaw?, hblank]
    · cases hfile : files (Text.trim raw) <;>
        simp [textOf, faultOf, pathFlaw?, hblank, hfile, Except.toOption, Draft.noting, Draft.edit,
          Draft.note]

/-- The check of the meter finds nothing. -/
theorem checkMeter_eq_self {d : Draft} (h : Text.isBlankText d.settings.meter = false) :
    checkMeter d = d := by
  have hne : d.settings.meter.isEmpty = false := by
    rw [Bool.eq_false_iff]
    intro hempty
    rw [String.isEmpty_iff.mp hempty] at h
    cases h
  simp [checkMeter, Draft.check, hne]

/-! ### The whole draft -/

/-- The settings that answers spell: a key gives its field, and the field of a key that is absent
has its default.  A tool without a price costs what its key says, else what the table says if that
is positive, else one. -/
def spelled (answers : Answers) (files : CostFiles) : Settings :=
  let told (k : Key) : Answer := answers k.name
  let table := tableOf files (told .costPath)
  { meter := (textOf (told .meter)).getD "mcp_units"
    costs :=
      { default := ((numberOf WholeRange.signed.read (told .unitCost)).or
          (table.bind fun t => CostTable.positive? t.default)).getD 1
        tools := (table.map (·.tools)).getD [] }
    costPath := textOf (told .costPath)
    graceDays := (numberOf WholeRange.signed.read (told .graceDays)).getD 7
    observer :=
      { warnUtilization := (numberOf readFloat (told .warning)).getD 0.8
        alertEvery := (numberOf readWord (told .alerts)).getD 10 }
    interval := (numberOf readWord (told .interval)).getD 300
    databaseUrl := textOf (told .databaseUrl)
    statementTimeout := numberOf readWord (told .statementTimeout) }

/-- The settings with distances raised to one. -/
def raised (s : Settings) : Settings :=
  { s with
    observer := s.observer.withAlerts s.observer.alertEvery
    interval := max s.interval 1 }

theorem isBlankText_spelled (answers : Answers) (files : CostFiles) :
    Text.isBlankText (spelled answers files).meter = false := by
  show Text.isBlankText (Option.getD _ _) = false
  cases h : textOf (answers Key.meter.name) with
  | none => decide
  | some t => exact isBlankText_textOf h

/-- The price of a key put into the table of another is the table with that price. -/
theorem costs_eq (own : Option Int) (table : Option CostTable) :
    let costs := table.getD (.uniform 1)
    ({ costs with default := (own.or (CostTable.positive? costs.default)).getD 1 } : CostTable) =
      ⟨(own.or (table.bind fun t => CostTable.positive? t.default)).getD 1,
        (table.map (·.tools)).getD []⟩ := by
  cases table with
  | none => cases own <;> rfl
  | some table => rfl

theorem draft_eq (answers : Answers) (files : CostFiles) :
    draft answers files = ⟨(spelled answers files).raised, faults answers files⟩ := by
  unfold draft
  rw [readMeter_eq, readCosts_eq, readUnitCost_eq,
    readNumber_eq answers .graceDays fun n s => { s with graceDays := n.getD 7 },
    readNumber_eq answers .warning fun x s =>
      { s with observer := s.observer.withWarning (x.getD 0.8) },
    readNumber_eq answers .alerts fun n s =>
      { s with observer := s.observer.withAlerts (n.getD 10) },
    readNumber_eq answers .interval fun n s => { s with interval := max (n.getD 300) 1 },
    readDatabaseUrl_eq,
    readNumber_eq answers .statementTimeout fun n s => { s with statementTimeout := n },
    checkMeter_eq_self]
  · dsimp only [NumberKey.graceDays, NumberKey.warning, NumberKey.alerts, NumberKey.interval,
      NumberKey.statementTimeout, NumberKey.count]
    refine congr (congrArg Draft.mk ?_) ?_
    · have hcosts := costs_eq (numberOf WholeRange.signed.read (answers unitCostKey))
        (tableOf files (answers costPathKey))
      exact congrArg (fun costs => { (spelled answers files).raised with costs }) hcosts
    · simp only [faults, Key.all, List.filterMap_eq_flatMap_toList, List.flatMap_cons,
        List.flatMap_nil, Draft.noting, Draft.edit, Draft.start, List.nil_append, List.append_nil,
        List.append_assoc]
      rfl
  · exact isBlankText_spelled answers files
  all_goals intros; rfl

/-! ### What is loaded -/

/-- Settings that are in range. -/
structure Valid (s : Settings) : Prop where
  meter : Text.isBlankText s.meter = false
  price : 0 < s.costs.default
  graceDays : 0 ≤ s.graceDays
  warning : 0.0 < s.observer.warnUtilization ∧ s.observer.warnUtilization ≤ 1.0
  alertEvery : 1 ≤ s.observer.alertEvery
  interval : 1 ≤ s.interval
  statementTimeout : ∀ ms, s.statementTimeout = some ms → 1 ≤ ms

theorem Valid.raised {s : Settings} (h : s.Valid) : s.raised = s := by
  unfold Settings.raised ObserverConfig.withAlerts
  rw [Nat.max_eq_left h.alertEvery, Nat.max_eq_left h.interval]

/-- Where nothing is wrong, what is spelled is in range.  Nothing checks the price of a table: it
only counts if it is positive. -/
theorem valid_spelled {answers : Answers} {files : CostFiles}
    (hsound : ∀ k : Key, k.fault? files (answers k.name) = none) :
    (spelled answers files).Valid := by
  have hprice := hsound .unitCost
  have hgraceDays := hsound .graceDays
  have hwarning := hsound .warning
  have halerts := hsound .alerts
  have hinterval := hsound .interval
  have htimeout := hsound .statementTimeout
  simp only [Key.fault?, Key.flaw?] at hprice hgraceDays hwarning halerts hinterval htimeout
  have hshare := Bool.and_eq_true_iff.mp (rule_getD hwarning 0.8 (by decide))
  exact {
    meter := isBlankText_spelled answers files
    price := by
      show 0 < Option.getD _ _
      cases hown : numberOf WholeRange.signed.read (answers Key.unitCost.name) with
      | some n => exact of_decide_eq_true (rule_of_sound hprice hown)
      | none =>
        rw [Option.none_or]
        cases htable : (tableOf files (answers Key.costPath.name)).bind
            fun t => CostTable.positive? t.default with
        | none => decide
        | some n =>
          obtain ⟨t, -, hpositive⟩ := Option.bind_eq_some_iff.mp htable
          exact CostTable.positive?_pos hpositive
    graceDays := of_decide_eq_true (rule_getD hgraceDays 7 rfl)
    warning := ⟨of_decide_eq_true hshare.1, of_decide_eq_true hshare.2⟩
    alertEvery := of_decide_eq_true (rule_getD halerts 10 rfl)
    interval := of_decide_eq_true (rule_getD hinterval 300 rfl)
    statementTimeout := fun _ hms => of_decide_eq_true (rule_of_sound htimeout hms) }

namespace Draft

theorem result_eq_ok_iff {d : Draft} {s : Settings} :
    d.result = .ok s ↔ d.errors = [] ∧ d.settings = s := by
  unfold result
  cases d.errors <;> simp

theorem result_of_one {d : Draft} {e : ConfigError} (h : d.errors = [e]) :
    d.result = .error e := by
  simp [result, h, ConfigError.ofList]

theorem result_of_several {d : Draft} (h : 2 ≤ d.errors.length) :
    d.result = .error (.several d.errors) := by
  unfold result
  match herrors : d.errors with
  | [] | [_] => simp [herrors] at h
  | _ :: _ :: _ => rfl

end Draft

theorem load_eq_ok_iff {answers : Answers} {files : CostFiles} {s : Settings} :
    load answers files = .ok s ↔
      (∀ k : Key, k.fault? files (answers k.name) = none) ∧ s = spelled answers files := by
  unfold load
  rw [Draft.result_eq_ok_iff, draft_eq, faults_eq_nil_iff]
  refine and_congr_right fun hsound => ?_
  rw [(valid_spelled hsound).raised]
  exact eq_comm

/-- **Every key is judged, and each by itself.**  Settings are loaded if and only if nothing is
wrong with any key.  Otherwise what is wrong is reported, one error for each bad key in the order of the
keys: a single one as it is, several together.  Settings that are loaded are in range, and they are
what the answers spell, with the defaults of absent keys. -/
theorem load_judges_every_key (answers : Answers) (files : CostFiles) :
    ((∃ s, load answers files = .ok s) ↔ ∀ k : Key, k.fault? files (answers k.name) = none) ∧
      (∀ e, faults answers files = [e] → load answers files = .error e) ∧
      (2 ≤ (faults answers files).length →
        load answers files = .error (.several (faults answers files))) ∧
      ∀ s, load answers files = .ok s → s.Valid ∧ s = spelled answers files := by
  have herrors : (draft answers files).errors = faults answers files := by rw [draft_eq]
  refine ⟨⟨?_, ?_⟩, ?_, ?_, ?_⟩
  · rintro ⟨s, hs⟩
    exact (load_eq_ok_iff.mp hs).1
  · intro hsound
    exact ⟨_, load_eq_ok_iff.mpr ⟨hsound, rfl⟩⟩
  · intro e he
    exact Draft.result_of_one (herrors.trans he)
  · intro hseveral
    rw [← herrors] at hseveral ⊢
    exact Draft.result_of_several hseveral
  · intro s hs
    obtain ⟨hsound, rfl⟩ := load_eq_ok_iff.mp hs
    exact ⟨valid_spelled hsound, rfl⟩

/-- The answers of a short list; all other keys are absent. -/
def listed (l : List (String × Answer)) : Answers := fun key => (l.lookup key).getD (.ok none)

/-- One file, with the price of one tool and none for the others. -/
def priceFile : CostFiles := fun path =>
  if path = "prices.yaml" then .ok ⟨0, [("crawl", 5)]⟩ else .error (.file .missing)

/-- The file is loaded, with one as the price of other tools; a file that is missing is the only
error; and three bad keys make three errors, whatever the file says. -/
theorem load_judges_every_key_priced :
    let priced := (costPathKey, Except.ok (some " prices.yaml "))
    let missing := (costPathKey, Except.ok (some "other.yaml"))
    let blank := (meterKey, Except.ok (some " "))
    let free := (unitCostKey, Except.ok (some "0"))
    let sealed := (databaseUrlKey, Except.error (.provider "sealed"))
    let vague := (statementTimeoutKey, Except.ok (some "soon"))
    (∃ s, load (listed [priced, blank]) priceFile = .ok s ∧ s.costs = ⟨1, [("crawl", 5)]⟩ ∧
        s.meter = "mcp_units" ∧ s.interval = 300) ∧
      load (listed [missing, blank]) priceFile =
        .error (.invalidValue costPathKey (.file .missing)) ∧
      load (listed [vague, sealed, free, priced]) priceFile =
        .error (.several [.invalidValue unitCostKey (.rule "must be positive"), .provider "sealed",
          .invalidValue statementTimeoutKey (.number .invalidDigit)]) := by
  intro priced missing blank free sealed vague
  refine ⟨?_, ?_, ?_⟩
  · obtain ⟨hok, -, -, hspelled⟩ := load_judges_every_key (listed [priced, blank]) priceFile
    obtain ⟨s, hs⟩ := hok.mpr (by intro k; cases k <;> rfl)
    obtain ⟨-, rfl⟩ := hspelled s hs
    exact ⟨_, hs, rfl, rfl, rfl⟩
  · exact (load_judges_every_key (listed [missing, blank]) priceFile).2.1 _ rfl
  · exact (load_judges_every_key (listed [vague, sealed, free, priced]) priceFile).2.2.1
      (by decide)

end Turnstile.Settings
