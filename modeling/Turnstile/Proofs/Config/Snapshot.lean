/-
A file layer is one snapshot of its file.

A layer stands at a place of a tree of stacks, and calls come to it directly or through a stack
above it: through a stack a call gets to the layer at a place if every layer before it lets the call
pass (`Reaches`).  Between calls anything outside may change.  As long as no call gets to a file
layer at a moment when its file can be taken (`Unread`), the layer stays as it is and each call that
gets to it fails.  The first that does get to it at such a moment leaves the texts of that moment in
it, and from then on the tree answers every call as if these texts stood there in memory
(`file_layer_is_one_snapshot`).

For the first part a call changes what stands at a place only if it gets there (`at?_call`); for the
second the answer of a stack is made of the answers of its layers (`answer_stack`), so that a layer
can be exchanged for another with the same answers (`answer_replaced`).
-/
import Turnstile.Proofs.Config.Layer

namespace Turnstile.Config

/-! ### What can be taken from a file -/

/-- The texts that a file layer can take from the files as they are: the flattened content, or none
at all if the file may be absent and is. -/
inductive Takes (files : Files) (path : String) (required : Bool) : Texts → Prop
  | absent : required = false → files.has path = false → Takes files path required []
  | yaml {content : String} {v : Json} : files.read path = .ok content → isYamlFile path = true →
      Yaml.value? content = some v → Takes files path required (flat v)
  | json {content : String} {v : Json} : files.read path = .ok content → isYamlFile path = false →
      Json.parse? content = some v → Takes files path required (flat v)

theorem Files.has_of_read {files : Files} {path content : String}
    (h : files.read path = .ok content) : files.has path = true := by
  rw [Files.read] at h
  rw [Files.has]
  cases hfind : files.find path with
  | error e => rw [hfind] at h; cases h
  | ok entry => rfl

theorem loadFile_eq_ok_iff {files : Files} {path : String} {required : Bool} {texts : Texts} :
    loadFile files path required = .ok texts ↔ Takes files path required texts := by
  constructor
  · intro h
    rw [loadFile] at h
    split at h
    · next habsent =>
      simp only [Bool.and_eq_true, Bool.not_eq_true'] at habsent
      cases h
      exact .absent habsent.1 habsent.2
    · split at h
      · next content hread =>
        cases hyaml : isYamlFile path
        · rw [hyaml, textsOf, if_neg Bool.false_ne_true] at h
          split at h
          · next v hv => cases h; exact .json hread hyaml hv
          · cases h
        · rw [hyaml, textsOf, if_pos rfl] at h
          split at h
          · next v hv => cases h; exact .yaml hread hyaml hv
          · cases h
      · cases h
  · rintro (⟨hrequired, habsent⟩ | ⟨hread, hyaml, hv⟩ | ⟨hread, hyaml, hv⟩)
    · simp [loadFile, hrequired, habsent]
    · simp [loadFile, Files.has_of_read hread, hread, textsOf, hyaml, hv]
    · simp [loadFile, Files.has_of_read hread, hread, textsOf, hyaml, hv]

namespace Layer

variable {s : Surroundings} {q : Query} {l m new : Layer} {ls : List Layer}
  {place handle : List Nat} {path : String} {required : Bool} {kept : Option Texts} {texts : Texts}

/-! ### Places -/

/-- The layer at a place: how to go down through stacks. -/
def at? : Layer → List Nat → Option Layer
  | l, [] => some l
  | stack ls, i :: rest => ls[i]?.bind fun l => l.at? rest
  | _, _ :: _ => none

/-- Another layer at a place. -/
def replaced (new : Layer) : List Nat → Layer → Layer
  | [], _ => new
  | i :: rest, stack ls => stack (ls.modify i (replaced new rest))
  | _ :: _, l => l

theorem at?_stack_cons (ls : List Layer) (i : Nat) (rest : List Nat) :
    (stack ls).at? (i :: rest) = ls[i]?.bind fun l => l.at? rest := rfl

theorem exists_of_at?_cons {i : Nat} {rest : List Nat} (h : l.at? (i :: rest) = some m) :
    ∃ ls sub, l = stack ls ∧ ls[i]? = some sub ∧ sub.at? rest = some m := by
  match l with
  | stack ls =>
    obtain ⟨sub, hsub, hm⟩ := Option.bind_eq_some_iff.mp h
    exact ⟨ls, sub, rfl, hsub, hm⟩

theorem at?_append (l : Layer) (handle rest : List Nat) :
    l.at? (handle ++ rest) = (l.at? handle).bind fun m => m.at? rest := by
  induction handle generalizing l with
  | nil => rfl
  | cons i handle ih =>
    cases l with
    | stack ls =>
      rw [List.cons_append, at?_stack_cons, at?_stack_cons, Option.bind_assoc]
      simp only [ih]
    | _ => rfl

theorem at?_replaced_append (h : l.at? handle = some m) (new : Layer) (rest : List Nat) :
    (replaced new handle l).at? (handle ++ rest) = new.at? rest := by
  induction handle generalizing l with
  | nil => rfl
  | cons i handle ih =>
    obtain ⟨ls, sub, rfl, hsub, hm⟩ := exists_of_at?_cons h
    rw [replaced, List.cons_append, at?_stack_cons, List.getElem?_modify_eq, hsub]
    exact ih hm

/-- What does not stand on the same way down stands as before. -/
theorem at?_replaced_of_apart (new l : Layer) (hplace : ¬ handle <+: place)
    (hhandle : ¬ place <+: handle) : (replaced new handle l).at? place = l.at? place := by
  induction handle generalizing l place with
  | nil => exact absurd List.nil_prefix hplace
  | cons i handle ih =>
    cases place with
    | nil => exact absurd List.nil_prefix hhandle
    | cons j place =>
      match l with
      | stack ls =>
        rw [replaced, at?_stack_cons, at?_stack_cons]
        by_cases heq : i = j
        · subst heq
          rw [List.getElem?_modify_eq]
          cases ls[i]? with
          | none => rfl
          | some sub =>
            exact ih sub (fun h => hplace (List.cons_prefix_cons.mpr ⟨rfl, h⟩))
              fun h => hhandle (List.cons_prefix_cons.mpr ⟨rfl, h⟩)
        · rw [List.getElem?_modify_ne _ _ heq]
      | memory .. | environment _ | file .. => rfl

theorem at?_replaced_above (h : l.at? handle = some m) (new : Layer) (rest : List Nat) :
    (replaced new (handle ++ rest) l).at? handle = some (replaced new rest m) := by
  induction handle generalizing l with
  | nil =>
    cases h
    rfl
  | cons i handle ih =>
    obtain ⟨ls, sub, rfl, hsub, hm⟩ := exists_of_at?_cons h
    rw [List.cons_append, replaced, at?_stack_cons, List.getElem?_modify_eq, hsub]
    exact ih hm

/-! ### How an answer of a stack is made -/

/-- Does a layer with this answer leave the call to the layers after it? -/
def Reply.passes : Reply → Bool
  | .text (.ok none) => true
  | .keys (.ok _) => true
  | _ => false

/-- The answer of a layer, put before that of the layers after it. -/
def Reply.onto : Reply → Reply → Reply
  | .text (.ok none), answer => answer
  | .keys (.ok own), .keys (.ok more) => .keys (.ok (unite own more))
  | .keys (.ok _), answer => answer
  | answer, _ => answer

/-- What a call without layers is answered with. -/
def Query.nothing : Query → Reply
  | .get _ => .text (.ok none)
  | .list _ => .keys (.ok [])

/-- What a call that fails is answered with. -/
def Query.failed (e : ConfigError) : Query → Reply
  | .get _ => .text (.error e)
  | .list _ => .keys (.error e)

theorem Reply.onto_failed {own : Reply} (h : own.passes = true) (e : ConfigError) (q : Query) :
    own.onto (q.failed e) = q.failed e := by
  match own with
  | .text (.ok none) => rfl
  | .keys (.ok _) => cases q <;> rfl

theorem Reply.failed_onto (e : ConfigError) (q : Query) (r : Reply) :
    (q.failed e).onto r = q.failed e := by
  cases q <;> rfl

theorem keys_uniteAnswers (own more : Outcome ConfigError (List String)) :
    Reply.keys (uniteAnswers own more) = (Reply.keys own).onto (.keys more) := by
  cases own <;> cases more <;> rfl

/-- The first layer is asked, and those after it if it lets the call pass. -/
theorem ask_stack_cons (s : Surroundings) (q : Query) (l : Layer) (rest : List Layer) :
    (stack (l :: rest)).ask s q =
      ((l.ask s q).1.onto ((stack rest).ask s q).1,
        stack ((l.ask s q).2 ::
          if (l.ask s q).1.passes then ((stack rest).ask s q).2.layers else rest)) := by
  cases q with
  | get key =>
    rw [ask, ask, ask, get, get, first_cons]
    rcases (get s key l).1 with _ | _ | _ <;> rfl
  | list start =>
    rw [ask, ask, ask, list, list, union_cons]
    refine Prod.ext (keys_uniteAnswers _ _) ?_
    rcases (list s start l).1 with _ | _ | _ <;> rfl

/-- The answers of the layers decide that of the stack. -/
theorem answer_stack (s : Surroundings) (q : Query) (ls : List Layer) :
    ((stack ls).ask s q).1 = (ls.map fun l => (l.ask s q).1).foldr Reply.onto q.nothing := by
  induction ls with
  | nil => cases q <;> rfl
  | cons l rest ih => rw [ask_stack_cons, ih, List.map_cons, List.foldr_cons]

theorem foldr_onto_failed {rs : List Reply} {i : Nat} {e : ConfigError} (q : Query) (r : Reply)
    (hbefore : ∀ own ∈ rs.take i, own.passes = true) (hi : rs[i]? = some (q.failed e)) :
    rs.foldr Reply.onto r = q.failed e := by
  induction rs generalizing i with
  | nil => nomatch hi
  | cons own rest ih =>
    rw [List.foldr_cons]
    cases i with
    | zero =>
      cases hi
      exact Reply.failed_onto e q _
    | succ i =>
      obtain ⟨hown, hbefore⟩ := List.forall_mem_cons.mp hbefore
      rw [ih hbefore hi, Reply.onto_failed hown]

/-! ### Getting to a place -/

/-- A call gets to a place if, in each stack on the way, the layers before let it pass. -/
def Reaches (s : Surroundings) (q : Query) : List Nat → Layer → Prop
  | [], _ => True
  | i :: rest, stack ls =>
    (∀ l ∈ ls.take i, (l.ask s q).1.passes = true) ∧ ∃ l, ls[i]? = some l ∧ Reaches s q rest l
  | _ :: _, _ => False

/-- A layer of a stack is called if those before it let the call pass. -/
theorem layers_ask_stack (s : Surroundings) (q : Query) (ls : List Layer) :
    ∃ ls', ((stack ls).ask s q).2 = stack ls' ∧ ∀ i,
      ((∀ l ∈ ls.take i, (l.ask s q).1.passes = true) →
        ls'[i]? = ls[i]?.map fun l => (l.ask s q).2) ∧
      ((¬ ∀ l ∈ ls.take i, (l.ask s q).1.passes = true) → ls'[i]? = ls[i]?) := by
  induction ls with
  | nil => exact ⟨[], by cases q <;> rfl, fun i => ⟨fun _ => rfl, fun _ => rfl⟩⟩
  | cons l rest ih =>
    obtain ⟨rest', hrest', hlayers⟩ := ih
    rw [ask_stack_cons, hrest', layers]
    cases hpasses : (l.ask s q).1.passes
    · refine ⟨_, rfl, fun i => ?_⟩
      cases i with
      | zero => exact ⟨fun _ => rfl, fun h => absurd (fun _ h => nomatch h) h⟩
      | succ i =>
        refine ⟨fun h => ?_, fun _ => rfl⟩
        exact absurd ((h l List.mem_cons_self).symm.trans hpasses) Bool.true_eq_false.mp
    · refine ⟨_, rfl, fun i => ?_⟩
      cases i with
      | zero => exact ⟨fun _ => rfl, fun h => absurd (fun _ h => nomatch h) h⟩
      | succ i =>
        obtain ⟨hcalled, hleft⟩ := hlayers i
        refine ⟨fun h => hcalled (List.forall_mem_cons.mp h).2, fun h => hleft fun hrest => ?_⟩
        exact h (List.forall_mem_cons.mpr ⟨hpasses, hrest⟩)

theorem at?_ask_of_reaches (h : l.at? place = some m) (hreach : Reaches s q place l) :
    (l.ask s q).2.at? place = some (m.ask s q).2 := by
  induction place generalizing l with
  | nil =>
    cases h
    rfl
  | cons i rest ih =>
    obtain ⟨ls, sub, rfl, hsub, hm⟩ := exists_of_at?_cons h
    obtain ⟨hbefore, sub', hsub', hreach⟩ := hreach
    cases hsub.symm.trans hsub'
    obtain ⟨ls', hls', hlayers⟩ := layers_ask_stack s q ls
    rw [hls', at?_stack_cons, (hlayers i).1 hbefore, hsub]
    exact ih hm hreach

theorem at?_ask_of_not_reaches (h : l.at? place = some m) (hreach : ¬ Reaches s q place l) :
    (l.ask s q).2.at? place = some m := by
  induction place generalizing l with
  | nil => exact absurd trivial hreach
  | cons i rest ih =>
    obtain ⟨ls, sub, rfl, hsub, hm⟩ := exists_of_at?_cons h
    obtain ⟨ls', hls', hlayers⟩ := layers_ask_stack s q ls
    rw [hls', at?_stack_cons]
    by_cases hbefore : ∀ l ∈ ls.take i, (l.ask s q).1.passes = true
    · rw [(hlayers i).1 hbefore, hsub]
      exact ih hm fun h => hreach ⟨hbefore, sub, hsub, h⟩
    · rw [(hlayers i).2 hbefore, hsub]
      exact hm

/-- A failure of a layer that a call gets to is the answer. -/
theorem answer_of_reaches_failed {e : ConfigError} (h : l.at? place = some m)
    (hreach : Reaches s q place l) (hfails : (m.ask s q).1 = q.failed e) :
    (l.ask s q).1 = q.failed e := by
  induction place generalizing l with
  | nil =>
    cases h
    exact hfails
  | cons i rest ih =>
    obtain ⟨ls, sub, rfl, hsub, hm⟩ := exists_of_at?_cons h
    obtain ⟨hbefore, sub', hsub', hreach⟩ := hreach
    cases hsub.symm.trans hsub'
    rw [answer_stack]
    refine foldr_onto_failed q _ (i := i) ?_ ?_
    · rw [← List.map_take]
      exact List.forall_mem_map.mpr hbefore
    · rw [List.getElem?_map, hsub, Option.map_some, ih hm hreach]

/-- Another layer with the same answer leaves the answer of the whole. -/
theorem answer_replaced (h : l.at? place = some m) (hsame : (new.ask s q).1 = (m.ask s q).1) :
    ((replaced new place l).ask s q).1 = (l.ask s q).1 := by
  induction place generalizing l with
  | nil =>
    cases h
    exact hsame
  | cons i rest ih =>
    obtain ⟨ls, sub, rfl, hsub, hm⟩ := exists_of_at?_cons h
    rw [replaced, answer_stack, answer_stack]
    refine congrArg (List.foldr _ _) (List.ext_getElem? fun j => ?_)
    rw [List.getElem?_map, List.getElem?_map]
    by_cases heq : i = j
    · subst heq
      rw [List.getElem?_modify_eq, hsub]
      exact congrArg some (ih hm)
    · rw [List.getElem?_modify_ne _ _ heq]

/-! ### A file layer that is called -/

theorem ask_file_of_takes (h : Takes s.files path required texts) (q : Query) :
    (file path required none).ask s q =
      (((memory "file" texts).ask s q).1, file path required (some texts)) := by
  cases q <;> simp [ask, get, list, loadFile_eq_ok_iff.mpr h]

theorem ask_file_of_not_takes (h : ∀ texts, ¬ Takes s.files path required texts) (q : Query) :
    ∃ e, loadFile s.files path required = .error e ∧
      (file path required none).ask s q = (q.failed e, file path required none) := by
  cases hload : loadFile s.files path required with
  | ok texts => exact absurd (loadFile_eq_ok_iff.mp hload) (h texts)
  | error e => exact ⟨e, rfl, by cases q <;> simp [ask, get, list, hload, Query.failed]⟩

theorem ask_file_kept (s : Surroundings) (path : String) (required : Bool) (texts : Texts)
    (q : Query) :
    (file path required (some texts)).ask s q =
      (((memory "file" texts).ask s q).1, file path required (some texts)) := by
  cases q <;> rfl

end Layer

open Layer

/-! ### Calls and changes -/

/-- What happens: something changes outside, or the layer at a place is called. -/
inductive Act
  | change (s : Surroundings)
  | call (handle : List Nat) (q : Query)

/-- Layers and what they read from. -/
structure Scene where
  surroundings : Surroundings
  tree : Layer

namespace Scene

/-- The answer of the layer at a place, if there is one. -/
def answer? (c : Scene) (handle : List Nat) (q : Query) : Option Reply :=
  (c.tree.at? handle).map fun l => (l.ask c.surroundings q).1

/-- A call leaves the layer at the place as it is afterwards. -/
def step (c : Scene) : Act → Scene
  | .change s => { c with surroundings := s }
  | .call handle q =>
    match c.tree.at? handle with
    | some l => { c with tree := replaced (l.ask c.surroundings q).2 handle c.tree }
    | none => c

/-- One thing after another. -/
def run (c : Scene) (acts : List Act) : Scene := acts.foldl step c

/-- The call, from the layer it is made to, gets to a place. -/
def Visits (c : Scene) (place : List Nat) : Act → Prop
  | .change _ => False
  | .call handle q =>
    ∃ rest l, place = handle ++ rest ∧ c.tree.at? handle = some l ∧
      Reaches c.surroundings q rest l

/-- No call gets to a place at a moment when the file can be taken. -/
def Unread (place : List Nat) (path : String) (required : Bool) : Scene → List Act → Prop
  | _, [] => True
  | c, act :: rest =>
    (c.Visits place act → ∀ texts, ¬ Takes c.surroundings.files path required texts) ∧
      Unread place path required (c.step act) rest

/-- The same with texts in memory in the place of a file layer. -/
def remembering (c : Scene) (place : List Nat) (texts : Texts) : Scene :=
  { c with tree := replaced (memory "file" texts) place c.tree }

variable {c : Scene} {place handle : List Nat} {path : String} {required : Bool}
  {kept : Option Texts} {texts : Texts} {q : Query} {act : Act}

theorem run_append (c : Scene) (acts more : List Act) :
    c.run (acts ++ more) = (c.run acts).run more := List.foldl_append

theorem at?_step_of_visits (h : c.tree.at? place = some (file path required kept))
    (hvisits : c.Visits place (.call handle q)) :
    (c.step (.call handle q)).tree.at? place =
      some ((file path required kept).ask c.surroundings q).2 := by
  obtain ⟨rest, l, rfl, hl, hreach⟩ := hvisits
  rw [at?_append, hl, Option.bind_some] at h
  simp only [step, hl]
  rw [at?_replaced_append hl]
  exact at?_ask_of_reaches h hreach

theorem at?_step_of_not_visits (h : c.tree.at? place = some (file path required kept))
    (hvisits : ¬ c.Visits place act) :
    (c.step act).tree.at? place = some (file path required kept) := by
  cases act with
  | change s => exact h
  | call handle q =>
    cases hl : c.tree.at? handle with
    | none => simpa only [step, hl] using h
    | some l =>
      simp only [step, hl]
      by_cases hplace : handle <+: place
      · obtain ⟨rest, rfl⟩ := hplace
        rw [at?_append, hl, Option.bind_some] at h
        rw [at?_replaced_append hl]
        exact at?_ask_of_not_reaches h fun hreach => hvisits ⟨rest, l, rfl, hl, hreach⟩
      · rw [at?_replaced_of_apart _ _ hplace, h]
        rintro ⟨rest, rfl⟩
        cases rest with
        | nil => exact hplace ⟨[], by simp⟩
        | cons i rest =>
          -- nothing stands below a file
          rw [at?_append, h] at hl
          nomatch hl

/-- What a layer keeps stays. -/
theorem at?_run_of_kept (h : c.tree.at? place = some (file path required (some texts)))
    (acts : List Act) :
    (c.run acts).tree.at? place = some (file path required (some texts)) := by
  induction acts generalizing c with
  | nil => exact h
  | cons act rest ih =>
    refine ih (c := c.step act) ?_
    by_cases hvisits : c.Visits place act
    · cases act with
      | change s => exact hvisits.elim
      | call handle q => rw [at?_step_of_visits h hvisits, ask_file_kept]
    · exact at?_step_of_not_visits h hvisits

/-- Failures are not kept. -/
theorem at?_run_of_unread (h : c.tree.at? place = some (file path required none))
    {acts : List Act} (hunread : Unread place path required c acts) :
    (c.run acts).tree.at? place = some (file path required none) := by
  induction acts generalizing c with
  | nil => exact h
  | cons act rest ih =>
    refine ih (c := c.step act) ?_ hunread.2
    by_cases hvisits : c.Visits place act
    · cases act with
      | change s => exact hvisits.elim
      | call handle q =>
        obtain ⟨e, -, he⟩ := ask_file_of_not_takes (hunread.1 hvisits) q
        rw [at?_step_of_visits h hvisits, he]
    · exact at?_step_of_not_visits h hvisits

/-- In the place of a file layer that answers alike, texts in memory make no difference. -/
theorem answer?_remembering (h : c.tree.at? place = some (file path required kept))
    (hsame : ((memory "file" texts).ask c.surroundings q).1 =
      ((file path required kept).ask c.surroundings q).1) (handle : List Nat) :
    (c.remembering place texts).answer? handle q = c.answer? handle q := by
  unfold answer? remembering
  by_cases hhandle : handle <+: place
  · obtain ⟨rest, rfl⟩ := hhandle
    cases hl : c.tree.at? handle with
    | none =>
      rw [at?_append, hl] at h
      nomatch h
    | some l =>
      rw [at?_append, hl, Option.bind_some] at h
      rw [at?_replaced_above hl]
      exact congrArg some (answer_replaced h hsame)
  · by_cases hplace : place <+: handle
    · obtain ⟨rest, rfl⟩ := hplace
      cases rest with
      | nil => exact absurd ⟨[], by simp⟩ hhandle
      | cons i rest =>
        rw [at?_replaced_append h, at?_append, h]
        rfl
    · rw [at?_replaced_of_apart _ _ hplace hhandle]

/-- When a file layer fails that a call gets to, the call fails. -/
theorem answer?_of_visits_failed {e : ConfigError}
    (h : c.tree.at? place = some (file path required kept))
    (hvisits : c.Visits place (.call handle q))
    (hfails : ((file path required kept).ask c.surroundings q).1 = q.failed e) :
    c.answer? handle q = some (q.failed e) := by
  obtain ⟨rest, l, rfl, hl, hreach⟩ := hvisits
  rw [at?_append, hl, Option.bind_some] at h
  rw [answer?, hl, Option.map_some, answer_of_reaches_failed h hreach hfails]

/-- **A file layer is one snapshot of its file.**  Until a call gets to it at a moment when the file
can be taken, nothing is kept and every call that gets to it fails with why the file cannot be
taken.  The call that gets to it at such a moment, whether it is made to the layer or to a stack
above it, is answered from the texts of that moment.  So is every later call, whatever happens in
between. -/
theorem file_layer_is_one_snapshot (h : c.tree.at? place = some (file path required none)) :
    (∀ acts, Unread place path required c acts →
      let now := c.run acts
      now.tree.at? place = some (file path required none) ∧
      ∀ handle q, now.Visits place (.call handle q) →
        ((∀ texts, ¬ Takes now.surroundings.files path required texts) →
          ∃ e, loadFile now.surroundings.files path required = .error e ∧
            now.answer? handle q = some (q.failed e)) ∧
        ∀ texts, Takes now.surroundings.files path required texts →
          now.answer? handle q = (now.remembering place texts).answer? handle q) ∧
    ∀ before act after texts, Unread place path required c before →
      (c.run before).Visits place act →
      Takes (c.run before).surroundings.files path required texts →
      let now := c.run (before ++ act :: after)
      now.tree.at? place = some (file path required (some texts)) ∧
        (∀ handle q, now.answer? handle q = (now.remembering place texts).answer? handle q) ∧
        (∀ key, now.answer? place (.get key) = some (.text (.ok (texts.lookup key)))) ∧
        ∀ start, now.answer? place (.list start) = some (.keys (.ok (keysOf start texts))) := by
  constructor
  · intro acts hunread now
    have hfile := at?_run_of_unread h hunread
    refine ⟨hfile, fun handle q hvisits => ⟨fun hnot => ?_, fun texts htakes => ?_⟩⟩
    · obtain ⟨e, hload, he⟩ := ask_file_of_not_takes hnot q
      exact ⟨e, hload, answer?_of_visits_failed hfile hvisits (congrArg Prod.fst he)⟩
    · refine (answer?_remembering hfile ?_ handle).symm
      rw [ask_file_of_takes htakes]
  · intro before act after texts hunread hvisits htakes now
    have hfile : now.tree.at? place = some (file path required (some texts)) := by
      have hbefore := at?_run_of_unread h hunread
      show (c.run (before ++ act :: after)).tree.at? place = _
      rw [run_append]
      refine at?_run_of_kept (c := (c.run before).step act) ?_ after
      cases act with
      | change s => exact hvisits.elim
      | call handle q => rw [at?_step_of_visits hbefore hvisits, ask_file_of_takes htakes]
    refine ⟨hfile, fun handle q => ?_, fun key => ?_, fun start => ?_⟩
    · refine (answer?_remembering hfile ?_ handle).symm
      rw [ask_file_kept]
    · rw [answer?, hfile]
      rfl
    · rw [answer?, hfile]
      rfl

/-- Nothing to read. -/
def bare : Surroundings where
  files := .empty
  environment := .empty

theorem loadFile_bare : loadFile bare.files "base.json" true = .error (.file .missing) := by
  have hstart : "base.json".startsWith "/" = false := by decide +kernel
  have hsize : "base.json".utf8ByteSize = 9 := by decide
  have hfollow : bare.files.follow [] (Files.parts "base.json") = .error .missing := by
    have hparts : Files.parts "base.json" = ["base.json"] := by decide
    rw [hparts]
    rfl
  simp [loadFile, Files.read, Files.find, hstart, hsize, hfollow]

theorem not_takes_bare (texts : Texts) : ¬ Takes bare.files "base.json" true texts := fun h =>
  nomatch (loadFile_eq_ok_iff.mpr h).symm.trans loadFile_bare

/-- The call fails, and nothing is kept. -/
theorem step_bare : (Scene.mk bare defaults).step (.call [] (.get "a")) = ⟨bare, defaults⟩ := by
  simp [step, at?, replaced, defaults, ask, Layer.get, first, loadFile_bare]

/-- A call fails while there is no file; one after it was written is answered from it, and so is one
after it was deleted again. -/
theorem file_layer_is_one_snapshot_written :
    defaults.at? [1] = some (file "base.json" true none) ∧
      (Scene.mk bare defaults).answer? [] (.get "a") = some (.text (.error (.file .missing))) ∧
      ((Scene.mk bare defaults).run [.call [] (.get "a"), .change shelf, .call [] (.get "a"),
        .change bare]).answer? [1] (.get "a") = some (.text (.ok (some "3"))) := by
  have hat : defaults.at? [1] = some (file "base.json" true none) := rfl
  obtain ⟨hunread, htaken⟩ := file_layer_is_one_snapshot (c := ⟨bare, defaults⟩) hat
  have hvisits (s : Surroundings) : (Scene.mk s defaults).Visits [1] (.call [] (.get "a")) :=
    ⟨[1], defaults, rfl, rfl, List.forall_mem_singleton.mpr rfl, _, rfl, trivial⟩
  have hrun : (Scene.mk bare defaults).run [.call [] (.get "a"), .change shelf] =
      ⟨shelf, defaults⟩ := by
    rw [run, List.foldl_cons, step_bare]
    rfl
  refine ⟨hat, ?_, ?_⟩
  · obtain ⟨e, he, hfails⟩ := ((hunread [] trivial).2 [] (.get "a") (hvisits bare)).1 not_takes_bare
    cases loadFile_bare.symm.trans he
    exact hfails
  · obtain ⟨-, -, hget, -⟩ := htaken [.call [] (.get "a"), .change shelf] (.call [] (.get "a"))
      [.change bare] [("a", "3")] ⟨fun _ => not_takes_bare, fun h => h.elim, trivial⟩
      (hrun ▸ hvisits shelf) (hrun ▸ loadFile_eq_ok_iff.mp loadFile_shelf)
    exact hget "a"

end Scene

end Turnstile.Config
