/-
A stack of layers answers by what its layers hold.

Under given surroundings a layer in memory or of a file holds texts, or cannot be had; what stands
in a stack, at any depth, is a list of such holdings in order (`holdings`).  A look-up through the
stack goes down that list and stops at the first holding that has the key or fails
(`Plain.get_eq`); a listing goes through all of it (`list_stack`).  Both answers depend on the list
alone, so it does not matter how the layers are nested, and a call leaves the list as it is.

The listing of a stack is sorted, with no key twice, and has the keys that a look-up finds
(`layering_consistent`).  A layer by itself is not so: its keys come as they are.
-/
import Turnstile.Config.Layer
import Turnstile.Proofs.Json.Members

namespace Turnstile.Config

/-! ### The first of its kind in a list -/

/-- Past elements of one kind only, there is an element of another. -/
def Past {α : Type} (passed sought : α → Prop) (l : List α) : Prop :=
  ∃ before a after, l = before ++ a :: after ∧ (∀ b ∈ before, passed b) ∧ sought a

section Past

variable {α : Type} {passed sought : α → Prop} {a : α} {l : List α}

theorem not_past_nil : ¬ Past passed sought [] := by
  rintro ⟨before, a, after, h, -⟩
  simp at h

theorem past_cons_iff :
    Past passed sought (a :: l) ↔ sought a ∨ passed a ∧ Past passed sought l := by
  constructor
  · rintro ⟨before, b, after, h, hpassed, hsought⟩
    cases before with
    | nil =>
      obtain ⟨rfl, rfl⟩ := List.cons.inj h
      exact .inl hsought
    | cons c before =>
      obtain ⟨rfl, rfl⟩ := List.cons.inj h
      obtain ⟨hc, hpassed⟩ := List.forall_mem_cons.mp hpassed
      exact .inr ⟨hc, before, b, after, rfl, hpassed, hsought⟩
  · rintro (hsought | ⟨ha, before, b, after, rfl, hpassed, hsought⟩)
    · exact ⟨[], a, l, rfl, fun _ h => absurd h List.not_mem_nil, hsought⟩
    · exact ⟨a :: before, b, after, rfl, List.forall_mem_cons.mpr ⟨ha, hpassed⟩, hsought⟩

theorem past_congr {passed' sought' : α → Prop} (hpassed : ∀ b ∈ l, passed b ↔ passed' b)
    (hsought : ∀ b ∈ l, sought b ↔ sought' b) : Past passed sought l ↔ Past passed' sought' l := by
  induction l with
  | nil => exact iff_of_false not_past_nil not_past_nil
  | cons a rest ih =>
    obtain ⟨ha, hpassed⟩ := List.forall_mem_cons.mp hpassed
    obtain ⟨ha', hsought⟩ := List.forall_mem_cons.mp hsought
    rw [past_cons_iff, past_cons_iff, ha, ha', ih hpassed hsought]

end Past

/-! ### What layers hold -/

/-- The texts of a layer, or why they cannot be had. -/
abbrev Holding := Except ConfigError Texts

namespace Holding

/-- The texts can be had. -/
def Loads (h : Holding) : Prop := ∃ texts, h = .ok texts

/-- The texts can be had, and the key is not among them. -/
def Lacks (key : String) (h : Holding) : Prop := ∃ texts, h = .ok texts ∧ texts.lookup key = none

/-- The texts can be had, and the key stands for a text. -/
def Has (key text : String) (h : Holding) : Prop :=
  ∃ texts, h = .ok texts ∧ texts.lookup key = some text

section Holds

variable {key text : String} {texts : Texts} {e : ConfigError}

theorem loads_ok (texts : Texts) : Loads (.ok texts) := ⟨texts, rfl⟩

theorem lacks_ok_iff : Lacks key (.ok texts) ↔ texts.lookup key = none :=
  ⟨fun ⟨_, h, hlookup⟩ => Except.ok.inj h ▸ hlookup, fun h => ⟨texts, rfl, h⟩⟩

theorem not_lacks_error : ¬ Lacks key (.error e) := fun ⟨_, h, _⟩ => nomatch h

theorem has_ok_iff : Has key text (.ok texts) ↔ texts.lookup key = some text :=
  ⟨fun ⟨_, h, hlookup⟩ => Except.ok.inj h ▸ hlookup, fun h => ⟨texts, rfl, h⟩⟩

theorem not_has_error : ¬ Has key text (.error e) := fun ⟨_, h, _⟩ => nomatch h

end Holds

end Holding

open Holding

namespace Layer

/-- Texts in memory and files, and stacks of them. -/
inductive Plain : Layer → Prop
  | memory (name : String) (values : Texts) : Plain (memory name values)
  | file (path : String) (required : Bool) (kept : Option Texts) : Plain (file path required kept)
  | stack {ls : List Layer} : (∀ l ∈ ls, Plain l) → Plain (stack ls)

mutual

/-- What a layer and those in it hold, in order. -/
def holdings (s : Surroundings) : Layer → List Holding
  | memory _ values => [.ok values]
  | environment _ => []
  | file _ _ (some kept) => [.ok kept]
  | file path required none => [loadFile s.files path required]
  | stack ls => holdingsAll s ls

/-- What several layers hold, in order. -/
def holdingsAll (s : Surroundings) : List Layer → List Holding
  | [] => []
  | l :: rest => holdings s l ++ holdingsAll s rest

end

variable {s : Surroundings} {key start : String} {l : Layer} {ls : List Layer}

theorem holdingsAll_eq (s : Surroundings) (ls : List Layer) :
    holdingsAll s ls = ls.flatMap (holdings s) := by
  induction ls with
  | nil => rfl
  | cons l rest ih => rw [holdingsAll, ih, List.flatMap_cons]

theorem holdings_stack (s : Surroundings) (ls : List Layer) :
    holdings s (stack ls) = ls.flatMap (holdings s) := by
  rw [holdings, holdingsAll_eq]

theorem plain_stack_iff : Plain (stack ls) ↔ ∀ l ∈ ls, Plain l :=
  ⟨fun | .stack h => h, .stack⟩

/-! ### Looking up -/

/-- The text of the first holding that has the key, unless one before it fails. -/
def seek (key : String) : List Holding → Except ConfigError (Option String)
  | [] => .ok none
  | .error e :: _ => .error e
  | .ok texts :: rest =>
    match texts.lookup key with
    | some text => .ok (some text)
    | none => seek key rest

theorem seek_append (key : String) (hs hs' : List Holding) :
    seek key (hs ++ hs') =
      match seek key hs with
      | .ok none => seek key hs'
      | answer => answer := by
  induction hs with
  | nil => rfl
  | cons h rest ih =>
    match h with
    | .error e => rfl
    | .ok texts =>
      rw [List.cons_append, seek, seek]
      cases texts.lookup key with
      | none => exact ih
      | some text => rfl

theorem seek_eq_some_iff {text : String} {hs : List Holding} :
    seek key hs = .ok (some text) ↔ Past (Lacks key) (Has key text) hs := by
  induction hs with
  | nil => simp [seek, not_past_nil]
  | cons h rest ih =>
    rw [past_cons_iff, ← ih]
    match h with
    | .error e => simp [seek, not_lacks_error, not_has_error]
    | .ok texts =>
      rw [lacks_ok_iff, has_ok_iff, seek]
      cases texts.lookup key <;> simp

theorem seek_eq_error_iff {e : ConfigError} {hs : List Holding} :
    seek key hs = .error e ↔ Past (Lacks key) (· = .error e) hs := by
  induction hs with
  | nil => simp [seek, not_past_nil]
  | cons h rest ih =>
    rw [past_cons_iff, ← ih]
    match h with
    | .error e => simp [seek, not_lacks_error]
    | .ok texts =>
      rw [lacks_ok_iff, seek]
      cases texts.lookup key <;> simp

theorem seek_eq_none_iff {hs : List Holding} : seek key hs = .ok none ↔ ∀ h ∈ hs, Lacks key h := by
  induction hs with
  | nil => simp [seek]
  | cons h rest ih =>
    rw [List.forall_mem_cons, ← ih]
    match h with
    | .error e => simp [seek, not_lacks_error]
    | .ok texts =>
      rw [lacks_ok_iff, seek]
      cases texts.lookup key <;> simp

/-- Where all holdings can be had, a key is found if one of them has it. -/
theorem exists_seek_iff {hs : List Holding} (h : ∀ x ∈ hs, Loads x) :
    (∃ text, seek key hs = .ok (some text)) ↔ ∃ x ∈ hs, ∃ text, Has key text x := by
  induction hs with
  | nil => simp [seek]
  | cons x rest ih =>
    obtain ⟨⟨texts, rfl⟩, hrest⟩ := List.forall_mem_cons.mp h
    rw [List.exists_mem_cons_iff, ← ih hrest, seek]
    simp only [has_ok_iff]
    cases texts.lookup key <;> simp

/-- The answer of the first of several layers decides whether the others are asked. -/
theorem first_cons (s : Surroundings) (key : String) (l : Layer) (rest : List Layer) :
    first s key (l :: rest) =
      match (get s key l).1 with
      | .error e => (.error e, (get s key l).2 :: rest)
      | .ok (some text) => (.ok (some (text, (get s key l).2.name)), (get s key l).2 :: rest)
      | .ok none => ((first s key rest).1, (get s key l).2 :: (first s key rest).2) := by
  rw [first]
  rcases get s key l with ⟨_ | _ | _, _⟩ <;> rfl

theorem name_get (s : Surroundings) (key : String) (l : Layer) : (get s key l).2.name = l.name := by
  match l with
  | memory .. | environment _ | file _ _ (some _) => rfl
  | file path required none =>
    rw [get]
    cases loadFile s.files path required <;> rfl
  | stack ls => rfl

/-- A layer that has the key is named if all before it have nothing. -/
theorem first_eq_some_iff {text name : String} :
    (first s key ls).1 = .ok (some (text, name)) ↔
      Past (fun m => (get s key m).1 = .ok none)
        (fun m => (get s key m).1 = .ok (some text) ∧ m.name = name) ls := by
  induction ls with
  | nil => simp [first, not_past_nil]
  | cons l rest ih =>
    rw [past_cons_iff, ← ih, first_cons, name_get]
    cases (get s key l).1 with
    | error e => simp
    | ok found => cases found <;> simp

theorem first_eq_seek (h : ∀ l ∈ ls, (get s key l).1 = seek key (l.holdings s)) :
    (first s key ls).1.map (fun found => found.map (·.1)) = seek key (holdingsAll s ls) := by
  induction ls with
  | nil => rfl
  | cons l rest ih =>
    obtain ⟨hl, hrest⟩ := List.forall_mem_cons.mp h
    rw [holdingsAll, seek_append, ← hl, ← ih hrest, first_cons]
    cases (get s key l).1 with
    | error e => rfl
    | ok found => cases found <;> rfl

theorem seek_singleton (key : String) (texts : Texts) :
    seek key [.ok texts] = .ok (texts.lookup key) := by
  rw [seek]
  cases texts.lookup key <;> rfl

/-- A look-up goes down the list of what is held. -/
theorem Plain.get_eq (h : Plain l) : (get s key l).1 = seek key (l.holdings s) := by
  induction h with
  | memory name values => exact (seek_singleton key values).symm
  | file path required kept =>
    match kept with
    | some kept => exact (seek_singleton key kept).symm
    | none =>
      rw [get, holdings]
      cases loadFile s.files path required with
      | error e => rfl
      | ok texts => exact (seek_singleton key texts).symm
  | stack _ ih => exact first_eq_seek ih

/-! ### Listing -/

theorem mem_insertKey_iff {k : String} {keys : List String} :
    k ∈ insertKey key keys ↔ k = key ∨ k ∈ keys := by
  induction keys with
  | nil => exact List.mem_cons
  | cons head rest ih =>
    unfold insertKey
    split
    · next heq => simp [heq]
    · split
      · exact List.mem_cons
      · rw [List.mem_cons, ih, List.mem_cons]
        exact or_left_comm

theorem pairwise_insertKey {keys : List String} (h : keys.Pairwise (· < ·)) (key : String) :
    (insertKey key keys).Pairwise (· < ·) := by
  induction keys with
  | nil => exact List.pairwise_singleton _ _
  | cons head rest ih =>
    obtain ⟨hhead, hrest⟩ := List.pairwise_cons.mp h
    unfold insertKey
    split
    · exact h
    · next hne =>
      split
      · next hlt =>
        refine List.pairwise_cons.mpr ⟨List.forall_mem_cons.mpr ⟨hlt, fun k hk => ?_⟩, h⟩
        exact hlt.trans (hhead k hk)
      · next hnlt =>
        have hlt : head < key := lt_of_le_of_ne (not_lt.mp hnlt) (Ne.symm hne)
        refine List.pairwise_cons.mpr ⟨fun k hk => ?_, ih hrest⟩
        rcases mem_insertKey_iff.mp hk with rfl | hk
        · exact hlt
        · exact hhead k hk

theorem mem_unite_iff {k : String} {added sorted : List String} :
    k ∈ unite added sorted ↔ k ∈ added ∨ k ∈ sorted := by
  induction added with
  | nil => simp [unite]
  | cons head rest ih =>
    rw [unite, List.foldr_cons, mem_insertKey_iff, ← unite, ih, List.mem_cons, or_assoc]

theorem pairwise_unite {sorted : List String} (h : sorted.Pairwise (· < ·)) (added : List String) :
    (unite added sorted).Pairwise (· < ·) := by
  induction added with
  | nil => exact h
  | cons head rest ih => exact pairwise_insertKey ih head

theorem mem_keysOf_iff {k : String} {texts : Texts} :
    k ∈ keysOf start texts ↔ start.toList <+: k.toList ∧ ∃ text, texts.lookup k = some text := by
  rw [← Option.isSome_iff_exists, Json.isSome_lookup_iff, keysOf, List.mem_filter,
    List.isPrefixOf_iff_prefix, and_comm]
  simp

/-- One listing before another. -/
def uniteAnswers : Outcome ConfigError (List String) → Outcome ConfigError (List String) →
    Outcome ConfigError (List String)
  | .ok keys, .ok more => .ok (unite keys more)
  | .ok _, failed => failed
  | failed, _ => failed

/-- The keys of one holding. -/
def keysHeld (start : String) : Holding → Outcome ConfigError (List String)
  | .ok texts => .ok (keysOf start texts)
  | .error e => .error e

/-- The keys of holdings, sorted, each once, unless one of them fails. -/
def gather (start : String) : List Holding → Outcome ConfigError (List String)
  | [] => .ok []
  | h :: rest => uniteAnswers (keysHeld start h) (gather start rest)

section UniteAnswers

variable {a b : Outcome ConfigError (List String)} {keys : List String} {e : ConfigError}

theorem uniteAnswers_eq_ok_iff :
    uniteAnswers a b = .ok keys ↔
      ∃ own more, a = .ok own ∧ b = .ok more ∧ keys = unite own more := by
  cases a <;> cases b <;> simp [uniteAnswers, eq_comm]

theorem uniteAnswers_eq_error_iff :
    uniteAnswers a b = .error e ↔ a = .error e ∨ (∃ own, a = .ok own) ∧ b = .error e := by
  cases a <;> cases b <;> simp [uniteAnswers]

theorem uniteAnswers_assoc {c : Outcome ConfigError (List String)}
    (hc : ∀ keys, c = .ok keys → keys.Pairwise (· < ·)) :
    uniteAnswers (uniteAnswers a b) c = uniteAnswers a (uniteAnswers b c) := by
  cases c with
  | ok keys =>
    have hsorted := hc keys rfl
    cases a <;> cases b <;> try rfl
    next own more =>
    refine congrArg Outcome.ok ?_
    refine List.Pairwise.eq_of_mem_iff (pairwise_unite hsorted _)
      (pairwise_unite (pairwise_unite hsorted _) _) fun k => ?_
    simp only [mem_unite_iff, or_assoc]
  | error e => cases a <;> cases b <;> rfl
  | crashed => cases a <;> cases b <;> rfl

end UniteAnswers

theorem keysHeld_eq_ok_iff {h : Holding} {keys : List String} :
    keysHeld start h = .ok keys ↔ ∃ texts, h = .ok texts ∧ keys = keysOf start texts := by
  cases h <;> simp [keysHeld, eq_comm]

theorem keysHeld_eq_error_iff {h : Holding} {e : ConfigError} :
    keysHeld start h = .error e ↔ h = .error e := by
  cases h <;> simp [keysHeld]

theorem pairwise_gather {hs : List Holding} {keys : List String} (h : gather start hs = .ok keys) :
    keys.Pairwise (· < ·) := by
  induction hs generalizing keys with
  | nil =>
    cases h
    exact List.Pairwise.nil
  | cons holding rest ih =>
    obtain ⟨own, more, -, hmore, rfl⟩ := uniteAnswers_eq_ok_iff.mp h
    exact pairwise_unite (ih hmore) own

theorem gather_eq_error_iff {hs : List Holding} {e : ConfigError} :
    gather start hs = .error e ↔ Past Loads (· = .error e) hs := by
  induction hs with
  | nil => simp [gather, not_past_nil]
  | cons h rest ih =>
    rw [gather, uniteAnswers_eq_error_iff, keysHeld_eq_error_iff, ih, past_cons_iff]
    simp only [keysHeld_eq_ok_iff, Loads]
    tauto

/-- If all holdings can be had, the keys are those that one of them has. -/
theorem exists_gather (start : String) {hs : List Holding} (h : ∀ x ∈ hs, Loads x) :
    ∃ keys, gather start hs = .ok keys ∧
      ∀ k, k ∈ keys ↔ start.toList <+: k.toList ∧ ∃ x ∈ hs, ∃ text, Has k text x := by
  induction hs with
  | nil => exact ⟨[], rfl, by simp⟩
  | cons x rest ih =>
    obtain ⟨⟨texts, rfl⟩, hrest⟩ := List.forall_mem_cons.mp h
    obtain ⟨keys, hkeys, hmem⟩ := ih hrest
    refine ⟨unite (keysOf start texts) keys, by rw [gather, hkeys]; rfl, fun k => ?_⟩
    rw [mem_unite_iff, mem_keysOf_iff, hmem, List.exists_mem_cons_iff]
    simp only [has_ok_iff]
    tauto

theorem gather_append (start : String) (hs hs' : List Holding) :
    gather start (hs ++ hs') = uniteAnswers (gather start hs) (gather start hs') := by
  induction hs with
  | nil =>
    rw [List.nil_append, gather]
    cases gather start hs' <;> rfl
  | cons h rest ih =>
    rw [List.cons_append, gather, ih, gather, uniteAnswers_assoc fun keys => pairwise_gather]

theorem union_cons (s : Surroundings) (start : String) (l : Layer) (rest : List Layer) :
    union s start (l :: rest) =
      (uniteAnswers (list s start l).1 (union s start rest).1,
        (list s start l).2 ::
          match (list s start l).1 with
          | .ok _ => (union s start rest).2
          | _ => rest) := by
  rw [union]
  rcases list s start l with ⟨_ | _ | _, _⟩
  · rcases union s start rest with ⟨_ | _ | _, _⟩ <;> rfl
  · rcases union s start rest with ⟨_ | _ | _, _⟩ <;> rfl
  · rcases union s start rest with ⟨_ | _ | _, _⟩ <;> rfl

theorem union_eq_gather
    (h : ∀ l ∈ ls, ∀ hs, uniteAnswers (list s start l).1 (gather start hs) =
      gather start (l.holdings s ++ hs)) :
    (union s start ls).1 = gather start (holdingsAll s ls) := by
  induction ls with
  | nil => rfl
  | cons l rest ih =>
    obtain ⟨hl, hrest⟩ := List.forall_mem_cons.mp h
    rw [union_cons, ih hrest, hl, holdingsAll]

/-- In a stack a layer adds the keys of what it holds. -/
theorem Plain.uniteAnswers_list (h : Plain l) (hs : List Holding) :
    uniteAnswers (list s start l).1 (gather start hs) = gather start (l.holdings s ++ hs) := by
  induction h generalizing hs with
  | memory name values => rfl
  | file path required kept =>
    match kept with
    | some kept => rfl
    | none =>
      rw [list, holdings, List.singleton_append, gather]
      cases loadFile s.files path required <;> rfl
  | stack _ ih =>
    rw [list, holdings, gather_append, ← union_eq_gather ih]

/-- A listing goes through all that is held. -/
theorem list_stack (h : Plain (stack ls)) :
    (list s start (stack ls)).1 = gather start (holdings s (stack ls)) := by
  rw [list, holdings]
  exact union_eq_gather fun l hl => (plain_stack_iff.mp h l hl).uniteAnswers_list

/-! ### Calls -/

/-- A call on a layer. -/
inductive Query
  | get (key : String)
  | list (start : String)

/-- What a call is answered with. -/
inductive Reply
  | text (answer : Except ConfigError (Option String))
  | keys (answer : Outcome ConfigError (List String))

/-- Call a layer: the answer, and the layer as it is afterwards. -/
def ask (s : Surroundings) (l : Layer) : Query → Reply × Layer
  | .get key => (.text (get s key l).1, (get s key l).2)
  | .list start => (.keys (list s start l).1, (list s start l).2)

/-- A layer instead of another that holds the same. -/
structure Kept (s : Surroundings) (l l' : Layer) : Prop where
  plain : Plain l'
  holdings : l'.holdings s = l.holdings s

theorem Kept.refl (h : Plain l) : Kept s l l := ⟨h, rfl⟩

theorem Kept.cons {l' : Layer} {rest rest' : List Layer} (h : Kept s l l')
    (hrest : Kept s (stack rest) (stack rest')) :
    Kept s (stack (l :: rest)) (stack (l' :: rest')) where
  plain := plain_stack_iff.mpr
    (List.forall_mem_cons.mpr ⟨h.plain, plain_stack_iff.mp hrest.plain⟩)
  holdings := by
    have hsame := hrest.holdings
    rw [holdings_stack, holdings_stack] at hsame
    rw [holdings_stack, holdings_stack, List.flatMap_cons, List.flatMap_cons, h.holdings, hsame]

theorem kept_first (hplain : ∀ l ∈ ls, Plain l) (h : ∀ l ∈ ls, Kept s l (get s key l).2) :
    Kept s (stack ls) (stack (first s key ls).2) := by
  induction ls with
  | nil => exact .refl (.stack hplain)
  | cons l rest ih =>
    obtain ⟨hl, hrest⟩ := List.forall_mem_cons.mp h
    have hplain := (List.forall_mem_cons.mp hplain).2
    rw [first_cons]
    rcases (get s key l).1 with _ | _ | _
    · exact hl.cons (.refl (.stack hplain))
    · exact hl.cons (ih hplain hrest)
    · exact hl.cons (.refl (.stack hplain))

theorem kept_union (hplain : ∀ l ∈ ls, Plain l) (h : ∀ l ∈ ls, Kept s l (list s start l).2) :
    Kept s (stack ls) (stack (union s start ls).2) := by
  induction ls with
  | nil => exact .refl (.stack hplain)
  | cons l rest ih =>
    obtain ⟨hl, hrest⟩ := List.forall_mem_cons.mp h
    have hplain := (List.forall_mem_cons.mp hplain).2
    rw [union_cons]
    rcases (list s start l).1 with _ | _ | _
    · exact hl.cons (ih hplain hrest)
    · exact hl.cons (.refl (.stack hplain))
    · exact hl.cons (.refl (.stack hplain))

theorem kept_ask_file {path : String} {required : Bool} (q : Query) (kept : Option Texts) :
    Kept s (file path required kept) ((file path required kept).ask s q).2 := by
  match kept, q with
  | some kept, .get key | some kept, .list start => exact .refl (.file ..)
  | none, .get key =>
    rw [ask, get]
    cases hload : loadFile s.files path required with
    | ok texts => exact ⟨.file .., by rw [holdings, holdings, hload]⟩
    | error e => exact .refl (.file ..)
  | none, .list start =>
    rw [ask, list]
    cases hload : loadFile s.files path required with
    | ok texts => exact ⟨.file .., by rw [holdings, holdings, hload]⟩
    | error e => exact .refl (.file ..)

/-- A call leaves a layer with what it holds. -/
theorem Plain.kept_ask (h : Plain l) (q : Query) : Kept s l (l.ask s q).2 := by
  induction h with
  | memory name values => cases q <;> exact .refl (.memory ..)
  | file path required kept => exact kept_ask_file q kept
  | stack hplain ih =>
    cases q with
    | get key => exact kept_first hplain ih
    | list start => exact kept_union hplain ih

/-- What is held decides the answers of a stack. -/
theorem ask_stack_congr {ls' : List Layer} (h : Plain (stack ls))
    (h' : Kept s (stack ls) (stack ls'))
    (q : Query) : ((stack ls').ask s q).1 = ((stack ls).ask s q).1 := by
  cases q with
  | get key => exact congrArg Reply.text (by rw [h'.plain.get_eq, h.get_eq, h'.holdings])
  | list start =>
    exact congrArg Reply.keys (by rw [list_stack h'.plain, list_stack h, h'.holdings])

/-! ### Stacks in stacks -/

/-- Somewhere a stack inside a stack is replaced by its layers. -/
inductive Unnests : List Layer → List Layer → Prop
  | here (before ls after : List Layer) :
      Unnests (before ++ stack ls :: after) (before ++ ls ++ after)
  | within (before after : List Layer) {ls ls' : List Layer} :
      Unnests ls ls' → Unnests (before ++ stack ls :: after) (before ++ stack ls' :: after)

theorem Unnests.kept {ls ls' : List Layer} (h : Unnests ls ls') (hplain : Plain (stack ls)) :
    Kept s (stack ls) (stack ls') := by
  induction h with
  | here before ls after =>
    refine ⟨?_, ?_⟩
    · simp only [plain_stack_iff, List.forall_mem_append, List.forall_mem_cons] at hplain ⊢
      tauto
    · simp [holdings_stack]
  | within before after _ ih =>
    have hinner : Plain (stack _) :=
      plain_stack_iff.mp hplain _ (List.mem_append_right _ List.mem_cons_self)
    refine ⟨?_, ?_⟩
    · simp only [plain_stack_iff, List.forall_mem_append, List.forall_mem_cons] at hplain ⊢
      exact ⟨hplain.1, plain_stack_iff.mp (ih hinner).plain, hplain.2.2⟩
    · rw [holdings_stack, holdings_stack]
      simp only [List.flatMap_append, List.flatMap_cons, (ih hinner).holdings]

/-- **A stack of layers answers as one.**  A look-up finds the text of the first holding that has
the key, fails if and only if a holding that cannot be had comes before it or there is none, and names
the layer of the stack in which it is.  A listing fails if and only if a holding cannot be had;
otherwise it is sorted, with each key once, and has the keys with the right start that a look-up
finds.  Stacks inside the stack can be replaced by their layers, and a call changes the answer of no
other. -/
theorem layering_consistent (s : Surroundings) {ls : List Layer} (hplain : ∀ l ∈ ls, Plain l) :
    let l := stack ls
    let held := l.holdings s
    (∀ key text, (l.get s key).1 = .ok (some text) ↔ Past (Lacks key) (Has key text) held) ∧
      (∀ key e, (l.get s key).1 = .error e ↔ Past (Lacks key) (· = .error e) held) ∧
      (∀ key text name, (l.source s key).1 = .ok (some (text, name)) ↔
        Past (fun m => ∀ h ∈ m.holdings s, Lacks key h)
          (fun m => Past (Lacks key) (Has key text) (m.holdings s) ∧ m.name = name) ls) ∧
      (∀ start e, (l.list s start).1 = .error e ↔ Past Loads (· = .error e) held) ∧
      ((∀ h ∈ held, Loads h) → ∀ start, ∃ keys, (l.list s start).1 = .ok keys ∧
        keys.Pairwise (· < ·) ∧
        ∀ k, k ∈ keys ↔ start.toList <+: k.toList ∧ ∃ text, (l.get s k).1 = .ok (some text)) ∧
      (∀ ls', Unnests ls ls' → ∀ q, ((stack ls').ask s q).1 = (l.ask s q).1) ∧
      ∀ q q', ((l.ask s q).2.ask s q').1 = (l.ask s q').1 := by
  intro l held
  have hstack : Plain l := .stack hplain
  refine ⟨?_, ?_, ?_, ?_, ?_, ?_, ?_⟩
  · intro key text
    rw [hstack.get_eq, seek_eq_some_iff]
  · intro key e
    rw [hstack.get_eq, seek_eq_error_iff]
  · intro key text name
    refine first_eq_some_iff.trans (past_congr ?_ ?_)
    · intro m hm
      rw [(hplain m hm).get_eq, seek_eq_none_iff]
    · intro m hm
      rw [(hplain m hm).get_eq, seek_eq_some_iff]
  · intro start e
    rw [list_stack hstack, gather_eq_error_iff]
  · intro hloads start
    obtain ⟨keys, hkeys, hmem⟩ := exists_gather start hloads
    refine ⟨keys, (list_stack hstack).trans hkeys, pairwise_gather hkeys, fun k => ?_⟩
    rw [hmem, hstack.get_eq, exists_seek_iff hloads]
  · intro ls' h q
    exact ask_stack_congr hstack (h.kept hstack) q
  · intro q q'
    cases q with
    | get key => exact ask_stack_congr hstack (hstack.kept_ask (.get key)) q'
    | list start => exact ask_stack_congr hstack (hstack.kept_ask (.list start)) q'

/-! ### A directory with one file -/

/-- A directory with one file. -/
def oneFile (bytes : List UInt8) : Files := ⟨[(["base.json"], .file bytes)]⟩

theorem read_oneFile {bytes : List UInt8} {text : String} (h : Text.ofBytes? bytes = some text) :
    (oneFile bytes).read "base.json" = .ok text := by
  have hstart : "base.json".startsWith "/" = false := by decide +kernel
  have hend : "base.json".endsWith "/" = false := by decide +kernel
  have hsize : "base.json".utf8ByteSize = 9 := by decide
  have hfollow : (oneFile bytes).follow [] (Files.parts "base.json") =
      .ok (["base.json"], .file bytes) := by
    have hparts : Files.parts "base.json" = ["base.json"] := by decide
    rw [hparts]
    rfl
  simp [Files.read, Files.find, hstart, hend, hsize, hfollow, h]

/-- The file sets one key, and there are no variables. -/
def shelf : Surroundings where
  files := oneFile [123, 34, 97, 34, 58, 51, 125]
  environment := .empty

theorem loadFile_shelf : loadFile shelf.files "base.json" true = .ok [("a", "3")] := by
  have hread : shelf.files.read "base.json" = .ok "\x7b\"a\":3\x7d" :=
    read_oneFile (by decide +kernel)
  have hyaml : isYamlFile "base.json" = false := by decide
  have htexts : textsOf false "\x7b\"a\":3\x7d" = .ok [("a", "3")] := by
    have hsome : (textsOf false "\x7b\"a\":3\x7d").toOption = some [("a", "3")] := by
      decide +kernel
    cases h : textsOf false "\x7b\"a\":3\x7d" with
    | error e => rw [h] at hsome; cases hsome
    | ok texts => rw [h] at hsome; exact congrArg Except.ok (Option.some.inj hsome)
  simp only [loadFile, hread, hyaml, htexts, Bool.not_true, Bool.false_and, Bool.false_eq_true,
    if_false]

/-- Values in memory before the file. -/
def defaults : Layer := stack [memory "defaults" [("b", "2")], file "base.json" true none]

/-- Other values before them. -/
def overridden : List Layer := [memory "overrides" [("b", "1")], defaults]

theorem holdings_defaults : holdings shelf defaults = [.ok [("b", "2")], .ok [("a", "3")]] := by
  simp only [defaults, holdings, holdingsAll, loadFile_shelf, List.singleton_append,
    List.append_nil]

theorem holdings_overridden :
    holdings shelf (stack overridden) = [.ok [("b", "1")], .ok [("b", "2")], .ok [("a", "3")]] := by
  rw [holdings_stack, overridden, List.flatMap_cons, List.flatMap_singleton, holdings_defaults]
  rfl

/-- What only the file in the inner stack has is found through both, under the name of the inner
stack, and is listed after what comes before it; the same stack without the inner one answers
alike. -/
theorem layering_consistent_overridden :
    (∀ l ∈ overridden, Plain l) ∧
      ((stack overridden).get shelf "a").1 = .ok (some "3") ∧
      ((stack overridden).source shelf "a").1 = .ok (some ("3", "composite")) ∧
      (∃ keys, ((stack overridden).list shelf "").1 = .ok keys ∧ keys.Pairwise (· < ·) ∧
        "a" ∈ keys) ∧
      ∀ ls, Unnests overridden ls →
        ((stack ls).ask shelf (.get "a")).1 = .text (.ok (some "3")) := by
  have hplain : ∀ l ∈ overridden, Plain l := by
    refine List.forall_mem_cons.mpr ⟨.memory .., List.forall_mem_singleton.mpr (.stack ?_)⟩
    exact List.forall_mem_cons.mpr ⟨.memory .., List.forall_mem_singleton.mpr (.file ..)⟩
  have hlacks (v : String) : Lacks "a" (.ok [("b", v)]) := lacks_ok_iff.mpr rfl
  have hhas : Has "a" "3" (.ok [("a", "3")]) := has_ok_iff.mpr rfl
  obtain ⟨hget, -, hsource, -, hlist, hnested, -⟩ := layering_consistent shelf hplain
  rw [holdings_overridden] at hget hlist
  have hfound : ((stack overridden).get shelf "a").1 = .ok (some "3") := by
    rw [hget]
    exact ⟨[_, _], _, [], rfl, by simp [hlacks], hhas⟩
  refine ⟨hplain, hfound, ?_, ?_, ?_⟩
  · rw [hsource]
    refine ⟨[_], defaults, [], rfl, by simp [holdings, hlacks], ?_, rfl⟩
    rw [holdings_defaults]
    exact ⟨[_], _, [], rfl, by simp [hlacks], hhas⟩
  · obtain ⟨keys, hkeys, hsorted, hmem⟩ := hlist (by simp [loads_ok]) ""
    exact ⟨keys, hkeys, hsorted, (hmem "a").mpr ⟨List.nil_prefix, "3", hfound⟩⟩
  · intro ls h
    rw [hnested ls h, ask, hfound]

end Layer

end Turnstile.Config
