/-
The fields of a record, found by name.

A record travels as an object whose members may stand in any order (`Json.Lists`).  Sorting them to
the fields (`Fields.place`) puts each under the name it has, so that after it a field holds what a
look-up among the members finds (`place_spec`), and every field of a record is found wherever it
stands (`Found`).
-/
import Turnstile.Proofs.Json.Members
import Turnstile.Proofs.Json.Text
import Turnstile.Proofs.Time.Timestamp
import Turnstile.Wire.Record

namespace Turnstile

/-! ### Members in any order -/

namespace Json

variable {members others : List (String × Json)} {k : String} {v : Json}

/-- The members, with no key twice, are those of the object in some order. -/
structure Lists (members : List (String × Json)) (object : Json) : Prop where
  nodup : (members.map (·.1)).Nodup
  sorted : ofMembers members = object

/-- Sorting members that were sorted changes nothing. -/
theorem sortMembers_sortMembers (h : (members.map (·.1)).Nodup) :
    sortMembers (sortMembers members) = sortMembers members :=
  sortMembers_congr (agreeing_of_nodup h) fun _ => mem_sortMembers_iff (agreeing_of_nodup h)

theorem lists_sortMembers (h : (members.map (·.1)).Nodup) :
    Lists (sortMembers members) (ofMembers members) where
  nodup := (keySorted_sortMembers members).nodup
  sorted := congrArg object (sortMembers_sortMembers h)

theorem Lists.mem_iff (h : Lists others (ofMembers members)) (hnodup : (members.map (·.1)).Nodup) :
    (k, v) ∈ others ↔ (k, v) ∈ members := by
  rw [← mem_sortMembers_iff (agreeing_of_nodup h.nodup),
    ← mem_sortMembers_iff (agreeing_of_nodup hnodup), Json.object.inj h.sorted]

theorem Lists.lookup_eq (h : Lists others (ofMembers members))
    (hnodup : (members.map (·.1)).Nodup) (hmem : (k, v) ∈ members) : others.lookup k = some v :=
  (agreeing_of_nodup h.nodup).lookup_eq_some_iff.mpr ((h.mem_iff hnodup).mpr hmem)

theorem Lists.exact (h : Lists others (ofMembers members)) (hnodup : (members.map (·.1)).Nodup)
    (hexact : ∀ m ∈ members, Exact m.2) : Exact (object others) :=
  .object fun m hm => hexact m ((h.mem_iff hnodup).mp hm)

theorem lookup_map {α β : Type} (f : α → β) (members : List (String × α)) (k : String) :
    (members.map fun m => (m.1, f m.2)).lookup k = (members.lookup k).map f := by
  induction members with
  | nil => rfl
  | cons m rest ih =>
    obtain ⟨key, v⟩ := m
    rw [List.map_cons, lookup_cons_eq, lookup_cons_eq, ih]
    split <;> rfl

theorem memberTrees_eq (members : List (String × Json)) :
    memberTrees members = members.map fun m => (some m.1, treeOf m.2) := by
  induction members with
  | nil => rfl
  | cons m rest ih => rw [memberTrees, ih, List.map_cons]

end Json

namespace Wire

open Json (Tree treeOf)

/-! ### Sorting members to fields -/

namespace Fields

variable {names : List String} {found : List (Option Tree)}

/-- Names without repetition have one place each. -/
theorem findIdx?_eq_some_iff (hnames : names.Nodup) {k : String} {i : Nat} :
    names.findIdx? (· = k) = some i ↔ names[i]? = some k := by
  rw [List.findIdx?_eq_some_iff_getElem, List.getElem?_eq_some_iff]
  refine exists_congr fun hi => ?_
  rw [decide_eq_true_eq]
  refine ⟨fun h => h.1, fun h => ⟨h, fun j hji hj => ?_⟩⟩
  have heq : names[j] = names[i] := (decide_eq_true_eq.mp hj).trans h.symm
  exact absurd (hnames.getElem_inj_iff.mp heq) (by omega)

/-- After sorting, a field holds what stands under its name. -/
theorem place_spec (hnames : names.Nodup) {ms : List (String × Tree)}
    (hkeys : (ms.map (·.1)).Nodup) (hlength : found.length = names.length)
    (hfree : ∀ (i : Nat) k, names[i]? = some k → k ∈ ms.map (·.1) → found[i]?.join = none) :
    ∃ trees, place names (ms.map fun m => (some m.1, m.2)) found = some trees ∧
      ∀ (i : Nat) k, names[i]? = some k → trees[i]?.join = (ms.lookup k).or found[i]?.join := by
  induction ms generalizing found with
  | nil => exact ⟨found, rfl, fun i k _ => Option.none_or.symm⟩
  | cons m rest ih =>
    obtain ⟨key, t⟩ := m
    obtain ⟨hkey, hrest⟩ := List.nodup_cons.mp hkeys
    rw [List.map_cons, place]
    cases hplace : names.findIdx? (· = key) with
    | none =>
      have hout : key ∉ names := fun hmem =>
        absurd (List.findIdx?_eq_none_iff.mp hplace key hmem) (by simp)
      obtain ⟨trees, htrees, hlookup⟩ := ih hrest hlength fun i k hi hk =>
        hfree i k hi (List.mem_cons_of_mem _ hk)
      refine ⟨trees, htrees, fun i k hi => ?_⟩
      have hne : k ≠ key := fun h => hout (h ▸ List.mem_of_getElem? hi)
      rw [hlookup i k hi, Json.lookup_cons_eq, if_neg hne]
    | some i =>
      have hi := (findIdx?_eq_some_iff hnames).mp hplace
      have hlt : i < found.length := hlength ▸ (List.getElem?_eq_some_iff.mp hi).1
      have hempty := hfree i key hi List.mem_cons_self
      have hlength' : (found.set i (some t)).length = names.length := by
        rw [List.length_set, hlength]
      have hfree' (j : Nat) (k : String) (hj : names[j]? = some k) (hk : k ∈ rest.map (·.1)) :
          (found.set i (some t))[j]?.join = none := by
        have hne : i ≠ j := by
          rintro rfl
          exact hkey (Option.some.inj (hi.symm.trans hj) ▸ hk)
        rw [List.getElem?_set_ne hne]
        exact hfree j k hj (List.mem_cons_of_mem _ hk)
      obtain ⟨trees, htrees, hlookup⟩ := ih hrest hlength' hfree'
      refine ⟨trees, by simpa [hempty] using htrees, fun j k hj => ?_⟩
      rw [hlookup j k hj, Json.lookup_cons_eq]
      by_cases hk : k = key
      · subst hk
        have hij : i = j := Option.some.inj
          (hplace.symm.trans ((findIdx?_eq_some_iff hnames).mpr hj))
        have hnone : rest.lookup k = none := Option.eq_none_iff_forall_ne_some.mpr fun v hv =>
          hkey (List.mem_map.mpr ⟨(k, v), Json.mem_of_lookup hv, rfl⟩)
        subst hij
        rw [if_pos rfl, hnone, List.getElem?_set_self hlt]
        rfl
      · have hne : i ≠ j := by
          rintro rfl
          exact hk (Option.some.inj (hj.symm.trans hi))
        rw [if_neg hk, List.getElem?_set_ne hne]

/-- Each of the members is in the field of its name. -/
def Found (names : List String) (members : List (String × Json)) (f : Fields) : Prop :=
  ∀ (i : Nat) k v, names[i]? = some k → (k, v) ∈ members → f.tree? i = some (treeOf v)

theorem exists_found (hnames : names.Nodup) {members others : List (String × Json)}
    (hnodup : (members.map (·.1)).Nodup) (h : Json.Lists others (.ofMembers members)) :
    ∃ f, ofTree names (treeOf (.object others)) = some f ∧ Found names members f := by
  have hmap : Json.memberTrees others =
      (others.map fun m => (m.1, treeOf m.2)).map fun m => (some m.1, m.2) := by
    rw [Json.memberTrees_eq, List.map_map]
    rfl
  have hkeys : ((others.map fun m => (m.1, treeOf m.2)).map (·.1)).Nodup := by
    rw [List.map_map]
    exact h.nodup
  have hempty (i : Nat) : (List.replicate names.length (none : Option Tree))[i]?.join = none := by
    rw [List.getElem?_replicate]
    split <;> rfl
  obtain ⟨trees, htrees, hlookup⟩ := place_spec hnames hkeys
    (List.length_replicate (a := (none : Option Tree))) fun i _ _ _ => hempty i
  refine ⟨⟨trees, false⟩, by rw [treeOf, ofTree, hmap, htrees]; rfl, fun i k v hi hmem => ?_⟩
  rw [tree?, hlookup i k hi, Json.lookup_map, h.lookup_eq hnodup hmem]
  rfl

section Found

variable {members : List (String × Json)} {f : Fields} {α β : Type} {d : Decoder α} {k : String}
  {v : Json}

/-- A field is read, and reading goes on with its value. -/
theorem Found.bind_required (h : Found names members f) (i : Nat) (hi : names[i]? = some k)
    (hmem : (k, v) ∈ members) {a : α} (hd : d (treeOf v) = some a) {g : α → Option β} {b : β}
    (hg : g a = some b) : (f.required i d).bind g = some b := by
  rw [Fields.required, h i k v hi hmem, Option.bind_some, hd, Option.bind_some, hg]

theorem Found.bind_optional (h : Found names members f) (i : Nat) (hi : names[i]? = some k)
    (hmem : (k, v) ∈ members) {a : Option α} (hd : d.nullable (treeOf v) = some a)
    {g : Option α → Option β} {b : β} (hg : g a = some b) : (f.optional i d).bind g = some b := by
  rw [Fields.optional, h i k v hi hmem]
  exact Option.bind_eq_some_iff.mpr ⟨a, hd, hg⟩

end Found

end Fields

/-! ### Values in fields -/

namespace Decoder

theorem text_string (s : String) : text (treeOf (.string s)) = some s := rfl

theorem count_whole {n : Int} (h : Signed64.Holds n) : count (treeOf (.whole n)) = some n := by
  simp only [treeOf, count, Json.value?_numeralOf h]
  exact Signed64.check?_eq_some_iff.mpr ⟨rfl, h⟩

theorem timestamp_encodeTime {t : Timestamp} (h : t.Nameable) :
    timestamp (treeOf (encodeTime t)) = some t := by
  rw [encodeTime, timestamp, text_string, Option.bind_some, h.parse?_text]

theorem nullable_string {α : Type} (d : Decoder α) (s : String) :
    d.nullable (treeOf (.string s)) = (d (treeOf (.string s))).map some := rfl

theorem nullable_orNull {t : Option Timestamp} (h : ∀ u ∈ t, u.Nameable) :
    timestamp.nullable (treeOf (.orNull encodeTime t)) = some t := by
  cases t with
  | none => rfl
  | some u =>
    have hread := timestamp_encodeTime (h u rfl)
    rw [encodeTime] at hread
    rw [Json.orNull, encodeTime, nullable_string, hread, Option.map_some]

theorem holds_of_count {t : Tree} {n : Int} (h : count t = some n) : Signed64.Holds n := by
  unfold count at h
  split at h
  · split at h
    · exact (Signed64.check?_eq_some_iff.mp h).1 ▸ (Signed64.check?_eq_some_iff.mp h).2
    · nomatch h
  · nomatch h

theorem nameable_of_timestamp {t : Tree} {u : Timestamp} (h : timestamp t = some u) :
    u.Nameable := by
  obtain ⟨s, -, hs⟩ := Option.bind_eq_some_iff.mp h
  exact Timestamp.nameable_of_parse? hs

theorem nameable_of_nullable {t : Tree} {u : Option Timestamp} (h : timestamp.nullable t = some u) :
    ∀ v ∈ u, v.Nameable := by
  unfold nullable at h
  split at h
  · cases h
    exact fun _ h => nomatch h
  · obtain ⟨v, hv, rfl⟩ := Option.map_eq_some_iff.mp h
    rintro w ⟨⟩
    exact nameable_of_timestamp hv

end Decoder

namespace Fields

variable {f : Fields} {i : Nat}

theorem holds_of_required {n : Int} (h : f.required i .count = some n) : Signed64.Holds n := by
  obtain ⟨t, -, ht⟩ := Option.bind_eq_some_iff.mp h
  exact Decoder.holds_of_count ht

theorem nameable_of_required {u : Timestamp} (h : f.required i .timestamp = some u) :
    u.Nameable := by
  obtain ⟨t, -, ht⟩ := Option.bind_eq_some_iff.mp h
  exact Decoder.nameable_of_timestamp ht

theorem nameable_of_optional {u : Option Timestamp} (h : f.optional i .timestamp = some u) :
    ∀ v ∈ u, v.Nameable := by
  unfold optional at h
  split at h
  · exact Decoder.nameable_of_nullable h
  · obtain ⟨-, h⟩ := Option.ite_none_left_eq_some.mp h
    cases h
    exact fun _ h => nomatch h

end Fields

end Wire

end Turnstile
