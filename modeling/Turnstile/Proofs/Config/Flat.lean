/-
A flat configuration holds exactly the leaves of its tree.

A key is the path to a leaf with points between the names, and the entry under it is the leaf's
text: that much holds of any tree (`mem_flatten_iff`).  If names are not empty and hold no point,
the path can be read back from the key (`join_injective`), so that no leaf writes over another.
The keys and texts of a tree are then determined by which leaf stands at which path; the order of
an object's members, nulls and empty objects leave no trace (`flat_holds_the_leaves`).
-/
import Turnstile.Config.Flat
import Turnstile.Proofs.Json.Members

namespace Turnstile

namespace Json

/-- Is the value one that is kept as text?  Nothing and objects are not. -/
def IsLeaf : Json → Prop
  | null | object _ => False
  | _ => True

/-- The text that is kept of a leaf: a string as it is, anything else as JSON. -/
def leafText : Json → String
  | string s => s
  | v => v.compact

/-- Names lead through objects from the root of a value to a leaf. -/
inductive LeafAt : Json → List String → Json → Prop
  | root {v : Json} : v.IsLeaf → LeafAt v [] v
  | member {members : List (String × Json)} {name : String} {v : Json} {path : List String}
      {leaf : Json} :
      (name, v) ∈ members → LeafAt v path leaf → LeafAt (object members) (name :: path) leaf

/-- A name that can stand between points. -/
def IsSegment (name : String) : Prop := name ≠ "" ∧ '.' ∉ name.toList

/-- Objects are maps, with no name twice, and each of their names can stand between points. -/
inductive Named : Json → Prop
  | other {v : Json} : (∀ members, v ≠ object members) → Named v
  | object {members : List (String × Json)} :
      (members.map (·.1)).Nodup → (∀ m ∈ members, IsSegment m.1) → (∀ m ∈ members, Named m.2) →
      Named (object members)

/-- The same value but for the order of members, at any depth, and for members that are null or an
empty object. -/
inductive Alike : Json → Json → Prop
  | refl (v : Json) : Alike v v
  | trans {u v w : Json} : Alike u v → Alike v w → Alike u w
  | swap (before after : List (String × Json)) (m n : String × Json) :
      Alike (object (before ++ m :: n :: after)) (object (before ++ n :: m :: after))
  | within (before after : List (String × Json)) (name : String) {v w : Json} :
      Alike v w →
        Alike (object (before ++ (name, v) :: after)) (object (before ++ (name, w) :: after))
  | null (before after : List (String × Json)) (name : String) :
      Alike (object (before ++ (name, null) :: after)) (object (before ++ after))
  | empty (before after : List (String × Json)) (name : String) :
      Alike (object (before ++ (name, object []) :: after)) (object (before ++ after))

variable {v w leaf other : Json} {path path' : List String} {members : List (String × Json)}

/-! ### Leaves and their paths -/

theorem leafAt_object_iff :
    LeafAt (object members) path leaf ↔
      ∃ m ∈ members, ∃ rest, path = m.1 :: rest ∧ LeafAt m.2 rest leaf := by
  constructor
  · rintro (h | ⟨hmem, h⟩)
    · exact h.elim
    · exact ⟨_, hmem, _, rfl, h⟩
  · rintro ⟨m, hmem, rest, rfl, h⟩
    exact .member hmem h

theorem not_leafAt_null : ¬ LeafAt null path leaf := by
  rintro ⟨h⟩
  exact h

theorem leafAt_of_isLeaf (hleaf : v.IsLeaf) : LeafAt v path leaf ↔ path = [] ∧ leaf = v := by
  constructor
  · rintro (_ | _)
    · exact ⟨rfl, rfl⟩
    · exact hleaf.elim
  · rintro ⟨rfl, rfl⟩
    exact .root hleaf

theorem named_object_iff :
    Named (object members) ↔
      (members.map (·.1)).Nodup ∧ (∀ m ∈ members, IsSegment m.1) ∧ ∀ m ∈ members, Named m.2 := by
  constructor
  · rintro (h | ⟨hnodup, hsegment, hnamed⟩)
    · exact absurd rfl (h members)
    · exact ⟨hnodup, hsegment, hnamed⟩
  · rintro ⟨hnodup, hsegment, hnamed⟩
    exact .object hnodup hsegment hnamed

theorem LeafAt.isSegment (h : LeafAt v path leaf) (hnamed : v.Named) :
    ∀ name ∈ path, IsSegment name := by
  induction h with
  | root _ => exact fun _ h => absurd h List.not_mem_nil
  | member hmem _ ih =>
    obtain ⟨-, hsegment, hnamed⟩ := named_object_iff.mp hnamed
    exact List.forall_mem_cons.mpr ⟨hsegment _ hmem, ih (hnamed _ hmem)⟩

/-- There is one leaf at a path. -/
theorem LeafAt.unique (h : LeafAt v path leaf) (hnamed : v.Named) (h' : LeafAt v path other) :
    leaf = other := by
  induction h with
  | root hleaf => exact ((leafAt_of_isLeaf hleaf).mp h').2.symm
  | member hmem _ ih =>
    obtain ⟨⟨name, w⟩, hmem', rest, heq, h'⟩ := leafAt_object_iff.mp h'
    obtain ⟨rfl, rfl⟩ := List.cons.inj heq
    obtain ⟨hnodup, -, hnamed⟩ := named_object_iff.mp hnamed
    obtain ⟨-, rfl⟩ := Prod.mk.inj (List.inj_on_of_nodup_map hnodup hmem hmem' rfl)
    exact ih (hnamed _ hmem) h'

/-! ### Values that are alike -/

theorem perm_swap (before after : List (String × Json)) (m n : String × Json) :
    (before ++ m :: n :: after).Perm (before ++ n :: m :: after) :=
  .append_left before (.swap n m after)

/-- The leaves of an object are those below one member and those below the others. -/
theorem leafAt_append_iff {before after : List (String × Json)} {m : String × Json} :
    LeafAt (object (before ++ m :: after)) path leaf ↔
      (∃ rest, path = m.1 :: rest ∧ LeafAt m.2 rest leaf) ∨
        LeafAt (object (before ++ after)) path leaf := by
  simp only [leafAt_object_iff, List.perm_middle.mem_iff, List.exists_mem_cons_iff]

theorem Alike.leafAt_iff (h : Alike v w) : LeafAt v path leaf ↔ LeafAt w path leaf := by
  induction h generalizing path with
  | refl v => rfl
  | trans _ _ ih ih' => exact ih.trans ih'
  | swap before after m n => simp only [leafAt_object_iff, (perm_swap before after m n).mem_iff]
  | within before after name _ ih => simp only [leafAt_append_iff, ih]
  | null before after name => simp [leafAt_append_iff, not_leafAt_null]
  | empty before after name =>
    have hempty : ∀ rest, ¬ LeafAt (object []) rest leaf := by simp [leafAt_object_iff]
    simp [leafAt_append_iff, hempty]

theorem named_append_iff {before after : List (String × Json)} {m : String × Json} :
    Named (object (before ++ m :: after)) ↔
      m.1 ∉ (before ++ after).map (·.1) ∧ IsSegment m.1 ∧ Named m.2 ∧
        Named (object (before ++ after)) := by
  have hperm : (before ++ m :: after).Perm (m :: (before ++ after)) := List.perm_middle
  simp only [named_object_iff, hperm.mem_iff, (hperm.map _).nodup_iff, List.map_cons,
    List.nodup_cons, List.forall_mem_cons]
  tauto

theorem Alike.named (h : Alike v w) (hnamed : v.Named) : w.Named := by
  induction h with
  | refl v => exact hnamed
  | trans _ _ ih ih' => exact ih' (ih hnamed)
  | swap before after m n =>
    have hperm := perm_swap before after m n
    simpa only [named_object_iff, hperm.mem_iff, (hperm.map _).nodup_iff] using hnamed
  | within before after name _ ih =>
    obtain ⟨hfresh, hsegment, hv, hothers⟩ := named_append_iff.mp hnamed
    exact named_append_iff.mpr ⟨hfresh, hsegment, ih hv, hothers⟩
  | null before after name | empty before after name =>
    exact (named_append_iff.mp hnamed).2.2.2

end Json

namespace Config

open Json

variable {v w leaf : Json} {path path' : List String}

/-! ### Keys are paths -/

/-- The key of a path: its names with points between them. -/
def join (path : List String) : String := ".".intercalate path

theorem mem_flatten_of_isLeaf (hleaf : v.IsLeaf) (key : String) (entry : String × String) :
    entry ∈ flatten key v ↔
      ∃ path leaf, LeafAt v path leaf ∧ entry = (path.foldl joinKey key, leaf.leafText) := by
  have hflatten : flatten key v = [(key, v.leafText)] := by
    cases v <;> first | exact hleaf.elim | rfl
  simp [hflatten, leafAt_of_isLeaf hleaf]

mutual

/-- Below a key, flattening gives each leaf's text under the path to it. -/
theorem mem_flatten_iff (key : String) (v : Json) (entry : String × String) :
    entry ∈ flatten key v ↔
      ∃ path leaf, LeafAt v path leaf ∧ entry = (path.foldl joinKey key, leaf.leafText) := by
  match v with
  | .null => simp [flatten, not_leafAt_null]
  | .object members =>
    rw [flatten, mem_flattenMembers_iff]
    simp only [leafAt_object_iff]
    constructor
    · rintro ⟨m, hmem, rest, leaf, h, rfl⟩
      exact ⟨m.1 :: rest, leaf, ⟨m, hmem, rest, rfl, h⟩, rfl⟩
    · rintro ⟨_, leaf, ⟨m, hmem, rest, rfl, h⟩, rfl⟩
      exact ⟨m, hmem, rest, leaf, h, rfl⟩
  | .string _ | .bool _ | .whole _ | .float _ | .array _ =>
    refine mem_flatten_of_isLeaf ?_ key entry
    trivial

theorem mem_flattenMembers_iff (key : String) (members : List (String × Json))
    (entry : String × String) :
    entry ∈ flattenMembers key members ↔
      ∃ m ∈ members, ∃ path leaf, LeafAt m.2 path leaf ∧
        entry = (path.foldl joinKey (joinKey key m.1), leaf.leafText) := by
  match members with
  | [] => simp [flattenMembers]
  | (name, v) :: rest =>
    rw [flattenMembers, List.mem_append, mem_flatten_iff, mem_flattenMembers_iff]
    simp

end

/-- Below a key that is not empty every name comes after a point. -/
theorem foldl_joinKey {key : String} (hkey : key ≠ "") (path : List String) :
    path.foldl joinKey key = join (key :: path) := by
  induction path generalizing key with
  | nil => exact String.intercalate_singleton.symm
  | cons name rest ih =>
    have hjoin : joinKey key name = key ++ "." ++ name :=
      if_neg (mt String.isEmpty_iff.mp hkey)
    have hne : key ++ "." ++ name ≠ "" := by simp [String.append_eq_empty_iff]
    rw [List.foldl_cons, hjoin, ih hne, join, join, String.intercalate_cons_append,
      String.intercalate_cons_cons]

theorem foldl_joinKey_empty (hpath : ∀ name ∈ path, IsSegment name) :
    path.foldl joinKey "" = join path := by
  match path with
  | [] => rfl
  | name :: rest => exact foldl_joinKey (hpath name List.mem_cons_self).1 rest

/-- The names come back when a key is cut at its points. -/
theorem splitOn_join (hpath : ∀ name ∈ path, IsSegment name) (hne : path ≠ []) :
    (join path).toList.splitOn '.' = path.map String.toList := by
  rw [join, String.toList_intercalate]
  refine List.splitOn_intercalate '.' ?_ (by simpa using hne)
  rw [List.forall_mem_map]
  exact fun name hname => (hpath name hname).2

theorem join_eq_empty_iff (hpath : ∀ name ∈ path, IsSegment name) : join path = "" ↔ path = [] := by
  match path with
  | [] => exact iff_of_true rfl rfl
  | name :: rest =>
    refine iff_of_false (fun hempty => ?_) (List.cons_ne_nil _ _)
    have hsplit := splitOn_join hpath (List.cons_ne_nil _ _)
    rw [hempty, String.toList_empty, List.splitOn_nil, List.map_cons] at hsplit
    exact (hpath name List.mem_cons_self).1
      (String.toList_eq_nil_iff.mp (List.cons.inj hsplit).1.symm)

/-- The path can be read back from its key. -/
theorem join_injective (hpath : ∀ name ∈ path, IsSegment name)
    (hpath' : ∀ name ∈ path', IsSegment name) (h : join path = join path') : path = path' := by
  by_cases hne : path = []
  · have hempty : join path' = "" := h.symm.trans ((join_eq_empty_iff hpath).mpr hne)
    rw [hne, (join_eq_empty_iff hpath').mp hempty]
  · have hne' : path' ≠ [] := fun hnil =>
      hne ((join_eq_empty_iff hpath).mp (h.trans ((join_eq_empty_iff hpath').mpr hnil)))
    have hsplit : (join path).toList.splitOn '.' = (join path').toList.splitOn '.' := by rw [h]
    rw [splitOn_join hpath hne, splitOn_join hpath' hne'] at hsplit
    exact List.map_injective_iff.mpr (fun _ _ => String.toList_inj.mp) hsplit

/-! ### The map of a value -/

section Named

variable (hnamed : v.Named)
include hnamed

/-- Two leaves never share a key. -/
theorem leaf_of_join {leaf' : Json} (h : LeafAt v path leaf) (h' : LeafAt v path' leaf')
    (hkey : join path = join path') : path = path' ∧ leaf = leaf' := by
  obtain rfl := join_injective (h.isSegment hnamed) (h'.isSegment hnamed) hkey
  exact ⟨rfl, h.unique hnamed h'⟩

theorem mem_flatten_root_iff (entry : String × String) :
    entry ∈ flatten "" v ↔
      ∃ path leaf, LeafAt v path leaf ∧ entry = (join path, leaf.leafText) := by
  rw [mem_flatten_iff]
  refine exists₂_congr fun path leaf => and_congr_right fun h => ?_
  rw [foldl_joinKey_empty (h.isSegment hnamed)]

theorem agreeing_flatten : Agreeing (flatten "" v) := by
  intro key text text' hentry hentry'
  obtain ⟨path, leaf, h, heq⟩ := (mem_flatten_root_iff hnamed _).mp hentry
  obtain ⟨path', leaf', h', heq'⟩ := (mem_flatten_root_iff hnamed _).mp hentry'
  obtain ⟨rfl, rfl⟩ := Prod.mk.inj heq
  obtain ⟨hkey, rfl⟩ := Prod.mk.inj heq'
  rw [(leaf_of_join hnamed h h' hkey).2]

/-- **A flat configuration holds the leaves of its tree, each under the path to it.**  The keys are
in order, so that none comes twice; there is an entry for each leaf and no other; leaves at
different paths have different keys; and neither the order of members nor nulls nor empty objects
make a difference. -/
theorem flat_holds_the_leaves :
    KeySorted (flat v) ∧
      (∀ key text, (key, text) ∈ flat v ↔
        ∃ path leaf, LeafAt v path leaf ∧ key = join path ∧ text = leaf.leafText) ∧
      (∀ path path' leaf leaf', LeafAt v path leaf → LeafAt v path' leaf' →
        join path = join path' → path = path' ∧ leaf = leaf') ∧
      ∀ w, Alike v w → flat w = flat v := by
  refine ⟨keySorted_sortMembers _, ?_, ?_, ?_⟩
  · intro key text
    rw [flat, mem_sortMembers_iff (agreeing_flatten hnamed), mem_flatten_root_iff hnamed]
    simp only [Prod.mk.injEq]
  · intro path path' leaf leaf' h h' hkey
    exact leaf_of_join hnamed h h' hkey
  · intro w halike
    refine sortMembers_congr (agreeing_flatten hnamed) fun entry => ?_
    rw [mem_flatten_root_iff (halike.named hnamed), mem_flatten_root_iff hnamed]
    exact exists₂_congr fun path leaf => and_congr_left' halike.leafAt_iff.symm

end Named

/-- Where names hold points, two leaves can meet under one key, and one of them is lost. -/
example : flat (object [("a", object [("b", whole 2)]), ("a.b", whole 1)]) = [("a.b", "1")] := by
  decide

/-- The leaves of one part of a configuration. -/
def meteringPart : Json := object [("default_unit_cost", whole 2), ("meter", string "units")]

/-- A nested configuration with a null, an empty object and a list. -/
def nestedConfig : Json :=
  object [("metering", meteringPart),
    ("observer", object [("limits", object []), ("names", array [bool true])]), ("reconcile", null)]

/-- The same in another order, without what is nothing. -/
def shuffledConfig : Json :=
  object [("observer", object [("names", array [bool true])]), ("metering", meteringPart)]

/-- Of the nested configuration the leaves remain, in either order. -/
theorem flat_holds_the_leaves_nested :
    nestedConfig.Named ∧ Alike nestedConfig shuffledConfig ∧
      ("metering.default_unit_cost", "2") ∈ flat nestedConfig ∧
      flat shuffledConfig = flat nestedConfig := by
  have hleaf (v : Json) (h : ∀ members, v ≠ object members) : v.Named := .other h
  have hnamed : nestedConfig.Named := by
    simp [nestedConfig, meteringPart, named_object_iff, IsSegment, hleaf]
  have halike : Alike nestedConfig shuffledConfig :=
    .trans (.null [_, _] [] "reconcile")
      (.trans (.within [_] [] "observer" (.empty [] [_] "limits")) (.swap [] [] _ _))
  have hcost : LeafAt nestedConfig ["metering", "default_unit_cost"] (whole 2) :=
    .member List.mem_cons_self (.member List.mem_cons_self (.root trivial))
  obtain ⟨-, hentries, -, hsame⟩ := flat_holds_the_leaves hnamed
  exact ⟨hnamed, halike, (hentries _ _).mpr ⟨_, _, hcost, by decide, by decide⟩, hsame _ halike⟩

end Config

end Turnstile
