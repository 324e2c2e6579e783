/-
Members sorted by their keys.

`insertMember` and `sortMembers` keep members as a map does: strictly in the order of their keys,
so that no key comes twice, and of several members with one key the last stays.  A look-up among
sorted members finds the last of the members they came from (`lookup_sortMembers`), and members
whose keys are told apart are all there after sorting (`mem_sortMembers_iff`).  Sorted members are
determined by which they are, so it does not matter in which order they were put in
(`sortMembers_congr`).
-/
import Mathlib.Data.List.Induction
import Mathlib.Data.List.Sort
import Mathlib.Data.String.Basic
import Turnstile.Json.Value

namespace Turnstile.Json

variable {α : Type} {key k : String} {v w : α} {members : List (String × α)}

/-- Strictly in the order of the keys. -/
def KeySorted (members : List (String × α)) : Prop := members.Pairwise fun a b => a.1 < b.1

/-- Equal keys have equal values. -/
def Agreeing (members : List (String × α)) : Prop :=
  ∀ k v w, (k, v) ∈ members → (k, w) ∈ members → v = w

/-! ### Putting one member in -/

theorem mem_of_mem_insertMember {m : String × α} (h : m ∈ insertMember key v members) :
    m = (key, v) ∨ m ∈ members := by
  induction members with
  | nil => exact .inl (List.mem_singleton.mp h)
  | cons head rest ih =>
    obtain ⟨k, w⟩ := head
    unfold insertMember at h
    split at h
    · rcases List.mem_cons.mp h with h | h
      · exact .inl h
      · exact .inr (List.mem_cons_of_mem _ h)
    · split at h
      · exact List.mem_cons.mp h
      · rcases List.mem_cons.mp h with h | h
        · exact .inr (h ▸ List.mem_cons_self)
        · exact (ih h).imp_right (List.mem_cons_of_mem _)

theorem KeySorted.insertMember (h : KeySorted members) (key : String) (v : α) :
    KeySorted (insertMember key v members) := by
  induction members with
  | nil => exact List.pairwise_singleton _ _
  | cons head rest ih =>
    obtain ⟨k, w⟩ := head
    obtain ⟨hhead, hrest⟩ := List.pairwise_cons.mp h
    unfold Json.insertMember
    split
    · next heq => exact List.pairwise_cons.mpr ⟨fun b hb => heq ▸ hhead b hb, hrest⟩
    · next hne =>
      split
      · next hlt =>
        refine List.pairwise_cons.mpr ⟨fun b hb => ?_, h⟩
        rcases List.mem_cons.mp hb with rfl | hb
        · exact hlt
        · exact hlt.trans (hhead b hb)
      · next hnlt =>
        have hlt : k < key := lt_of_le_of_ne (not_lt.mp hnlt) (Ne.symm hne)
        refine List.pairwise_cons.mpr ⟨fun b hb => ?_, ih hrest⟩
        rcases mem_of_mem_insertMember hb with rfl | hb
        · exact hlt
        · exact hhead b hb

theorem lookup_cons_eq (key k : String) (v : α) (rest : List (String × α)) :
    ((key, v) :: rest).lookup k = if k = key then some v else rest.lookup k := by
  rw [List.lookup_cons]
  by_cases hk : k = key
  · rw [beq_iff_eq.mpr hk, if_pos hk]
  · rw [beq_eq_false_iff_ne.mpr hk, if_neg hk]

/-- A look-up finds what was put in under its key, and elsewhere what was there. -/
theorem lookup_insertMember (key k : String) (v : α) (members : List (String × α)) :
    (insertMember key v members).lookup k = if k = key then some v else members.lookup k := by
  induction members with
  | nil => exact lookup_cons_eq key k v []
  | cons head rest ih =>
    obtain ⟨k', w⟩ := head
    unfold insertMember
    split
    · next heq =>
      subst heq
      simp only [lookup_cons_eq]
      split <;> rfl
    · next hne =>
      split
      · exact lookup_cons_eq ..
      · rw [lookup_cons_eq, ih, lookup_cons_eq]
        by_cases hk : k = key
        · rw [if_neg (hk ▸ hne), if_pos hk, if_pos hk]
        · rw [if_neg hk, if_neg hk]

/-! ### Sorting -/

theorem sortMembers_append_singleton (members : List (String × α)) (key : String) (v : α) :
    sortMembers (members ++ [(key, v)]) = insertMember key v (sortMembers members) := by
  simp [sortMembers]

theorem keySorted_sortMembers (members : List (String × α)) : KeySorted (sortMembers members) := by
  induction members using List.reverseRecOn with
  | nil => exact List.Pairwise.nil
  | append_singleton members m ih =>
    rw [sortMembers_append_singleton]
    exact ih.insertMember m.1 m.2

/-- Of several members with one key the last is found. -/
theorem lookup_sortMembers (k : String) (members : List (String × α)) :
    (sortMembers members).lookup k = members.reverse.lookup k := by
  induction members using List.reverseRecOn with
  | nil => rfl
  | append_singleton members m ih =>
    obtain ⟨key, v⟩ := m
    rw [sortMembers_append_singleton, lookup_insertMember, ih, List.reverse_append]
    exact (lookup_cons_eq ..).symm

/-! ### Looking up and being there -/

theorem mem_of_lookup (h : members.lookup k = some v) : (k, v) ∈ members := by
  obtain ⟨before, after, rfl, -⟩ := List.lookup_eq_some_iff.mp h
  exact List.mem_append_right _ List.mem_cons_self

theorem isSome_lookup_iff : (members.lookup k).isSome ↔ ∃ v, (k, v) ∈ members := by
  rw [List.lookup_isSome_iff]
  constructor
  · rintro ⟨⟨k', v⟩, hmem, hk⟩
    exact ⟨v, (beq_iff_eq.mp hk : k = k') ▸ hmem⟩
  · rintro ⟨v, hmem⟩
    exact ⟨(k, v), hmem, beq_self_eq_true k⟩

/-- Where equal keys have equal values, a look-up finds whatever is there. -/
theorem Agreeing.lookup_eq_some_iff (h : Agreeing members) :
    members.lookup k = some v ↔ (k, v) ∈ members := by
  refine ⟨mem_of_lookup, fun hmem => ?_⟩
  obtain ⟨w, hw⟩ := Option.isSome_iff_exists.mp (isSome_lookup_iff.mpr ⟨v, hmem⟩)
  rw [hw, h k v w hmem (mem_of_lookup hw)]

theorem agreeing_of_nodup (h : (members.map (·.1)).Nodup) : Agreeing members := by
  intro k v w hv hw
  have := List.inj_on_of_nodup_map h hv hw rfl
  exact congrArg Prod.snd this

theorem KeySorted.nodup (h : KeySorted members) : (members.map (·.1)).Nodup :=
  List.pairwise_map.mpr (h.imp fun hlt => hlt.ne)

theorem Agreeing.of_mem_iff {others : List (String × α)} (h : Agreeing members)
    (hmem : ∀ m, m ∈ others ↔ m ∈ members) : Agreeing others :=
  fun k v w hv hw => h k v w ((hmem _).mp hv) ((hmem _).mp hw)

/-- Sorting loses no member and adds none, where equal keys have equal values. -/
theorem mem_sortMembers_iff (h : Agreeing members) :
    (k, v) ∈ sortMembers members ↔ (k, v) ∈ members := by
  have hreverse : Agreeing members.reverse := h.of_mem_iff fun _ => List.mem_reverse
  rw [← (agreeing_of_nodup (keySorted_sortMembers members).nodup).lookup_eq_some_iff,
    lookup_sortMembers, hreverse.lookup_eq_some_iff, List.mem_reverse]

/-- Sorted members are determined by which they are. -/
theorem KeySorted.ext {others : List (String × α)} (h : KeySorted members) (h' : KeySorted others)
    (hmem : ∀ k v, (k, v) ∈ members ↔ (k, v) ∈ others) : members = others :=
  List.Pairwise.eq_of_mem_iff h h' fun m => hmem m.1 m.2

/-- The order in which members come does not matter. -/
theorem sortMembers_congr {others : List (String × α)} (h : Agreeing members)
    (hmem : ∀ m, m ∈ others ↔ m ∈ members) : sortMembers others = sortMembers members := by
  refine (keySorted_sortMembers others).ext (keySorted_sortMembers members) fun k v => ?_
  rw [mem_sortMembers_iff h, mem_sortMembers_iff (h.of_mem_iff hmem), hmem]

end Turnstile.Json
