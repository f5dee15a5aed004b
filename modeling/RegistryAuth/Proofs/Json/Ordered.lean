import Mathlib.Data.List.Induction
import Mathlib.Data.List.Nodup
import RegistryAuth.Json.Basic

/-!
# Members in the order of their names

The members of an object are kept in the order of their names, and of those that have a name in common only
the last one is kept.  Such a list is determined by what is found in it.
-/

namespace RegistryAuth.Json

/-! ## 1. Looking up -/

theorem find?_cons (name : String) (m : String × Json) (members : List (String × Json)) :
    find? name (m :: members) = if m.1 = name then some m.2 else find? name members := by
  by_cases h : m.1 = name
  · rw [if_pos h, find?, List.find?_cons_of_pos (by simpa using h)]
    rfl
  · rw [if_neg h, find?, List.find?_cons_of_neg (by simpa using h)]
    rfl

theorem find?_eq_none_iff {name : String} {members : List (String × Json)} :
    find? name members = none ↔ ∀ m ∈ members, m.1 ≠ name := by
  simp [find?]

/-- Of members that are sorted by name, every one is found. -/
theorem find?_eq_some_iff {name : String} {v : Json} {members : List (String × Json)}
    (hsorted : members.Pairwise fun m m' => m.1 < m'.1) :
    find? name members = some v ↔ (name, v) ∈ members := by
  induction members with
  | nil => simp [find?]
  | cons m members ih =>
    obtain ⟨hlt, hsorted⟩ := List.pairwise_cons.1 hsorted
    rw [find?_cons, List.mem_cons]
    by_cases hm : m.1 = name
    · -- No other member has the name.
      have hother : (name, v) ∉ members := by
        intro hv
        have hafter : m.1 < name := hlt (name, v) hv
        exact String.lt_irrefl name (hm ▸ hafter)
      have hfirst : (name, v) = m ↔ m.2 = v := by
        rw [← hm, eq_comm, Prod.ext_iff]
        exact and_iff_right rfl
      rw [if_pos hm, Option.some.injEq, hfirst, or_iff_left hother]
    · have hfirst : (name, v) ≠ m := fun heq => hm (heq ▸ rfl)
      rw [if_neg hm, or_iff_right hfirst, ih hsorted]

/-- Members that are sorted by name are determined by what is found of them. -/
theorem eq_of_find? {members members' : List (String × Json)}
    (hsorted : members.Pairwise fun m m' => m.1 < m'.1)
    (hsorted' : members'.Pairwise fun m m' => m.1 < m'.1)
    (h : ∀ name, find? name members = find? name members') : members = members' := by
  have hne {m m' : String × Json} (hlt : m.1 < m'.1) : m ≠ m' :=
    fun heq => String.lt_irrefl m.1 (heq ▸ hlt)
  have hmem (m : String × Json) : m ∈ members ↔ m ∈ members' := by
    rw [← find?_eq_some_iff hsorted, ← find?_eq_some_iff hsorted', h]
  refine ((List.perm_ext_iff_of_nodup (hsorted.imp hne) (hsorted'.imp hne)).2 hmem).eq_of_pairwise ?_
    hsorted hsorted'
  intro m m' _ _ hlt hgt
  exact absurd hgt (String.lt_asymm hlt)

/-! ## 2. Sorting -/

theorem find?_insertMember (name other : String) (v : Json) (members : List (String × Json)) :
    find? other (insertMember name v members) = if name = other then some v else find? other members := by
  induction members with
  | nil => exact find?_cons other (name, v) []
  | cons m members ih =>
    unfold insertMember
    by_cases hlt : name < m.1
    · rw [if_pos hlt, find?_cons]
    · rw [if_neg hlt]
      by_cases heq : name = m.1
      · rw [if_pos heq, find?_cons, find?_cons, ← heq]
        split <;> rfl
      · rw [if_neg heq, find?_cons, find?_cons, ih]
        by_cases hm : m.1 = other
        · rw [if_pos hm, if_pos hm, if_neg fun hname => heq (hname.trans hm.symm)]
        · rw [if_neg hm, if_neg hm]

theorem mem_of_mem_insertMember {name : String} {v : Json} {members : List (String × Json)}
    {m : String × Json} (h : m ∈ insertMember name v members) : m = (name, v) ∨ m ∈ members := by
  induction members with
  | nil => exact .inl (List.mem_singleton.1 h)
  | cons m' members ih =>
    unfold insertMember at h
    split at h
    · exact List.mem_cons.1 h
    · split at h
      · exact (List.mem_cons.1 h).imp_right (List.mem_cons_of_mem m')
      · rcases List.mem_cons.1 h with rfl | h
        · exact .inr List.mem_cons_self
        · exact (ih h).imp_right (List.mem_cons_of_mem m')

/-- A member that is put in its place leaves the members sorted. -/
theorem pairwise_insertMember (name : String) (v : Json) {members : List (String × Json)}
    (h : members.Pairwise fun m m' => m.1 < m'.1) :
    (insertMember name v members).Pairwise fun m m' => m.1 < m'.1 := by
  induction members with
  | nil => exact List.pairwise_singleton _ _
  | cons m members ih =>
    obtain ⟨hafter, hsorted⟩ := List.pairwise_cons.1 h
    unfold insertMember
    by_cases hlt : name < m.1
    · rw [if_pos hlt]
      refine List.pairwise_cons.2 ⟨List.forall_mem_cons.2 ⟨hlt, fun m' hm' => ?_⟩, h⟩
      exact String.lt_trans hlt (hafter m' hm')
    · rw [if_neg hlt]
      by_cases heq : name = m.1
      · rw [if_pos heq]
        exact List.pairwise_cons.2 ⟨fun m' hm' => heq ▸ hafter m' hm', hsorted⟩
      · rw [if_neg heq]
        refine List.pairwise_cons.2 ⟨fun m' hm' => ?_, ih hsorted⟩
        rcases mem_of_mem_insertMember hm' with rfl | hm'
        · exact Std.lt_of_le_of_ne hlt (Ne.symm heq)
        · exact hafter m' hm'

/-- What members in the order of a document stand for: members that are sorted by name, of which the last of
each name counts. -/
structure Resolves (written members : List (String × Json)) : Prop where
  sorted : members.Pairwise fun m m' => m.1 < m'.1
  last : ∀ name, find? name members = find? name written.reverse

theorem resolves_sortMembers (written : List (String × Json)) : Resolves written (sortMembers written) := by
  induction written using List.reverseRecOn with
  | nil => exact ⟨List.Pairwise.nil, fun _ => rfl⟩
  | append_singleton written m ih =>
    have hsort : sortMembers (written ++ [m]) = insertMember m.1 m.2 (sortMembers written) := by
      rw [sortMembers, List.foldl_append]
      rfl
    rw [hsort]
    refine ⟨pairwise_insertMember m.1 m.2 ih.sorted, fun name => ?_⟩
    rw [find?_insertMember, List.reverse_append, List.reverse_singleton, List.singleton_append, find?_cons,
      ih.last]

theorem resolves_iff {written members : List (String × Json)} :
    Resolves written members ↔ members = sortMembers written := by
  constructor
  · intro h
    have hsort := resolves_sortMembers written
    exact eq_of_find? h.sorted hsort.sorted fun name => (h.last name).trans (hsort.last name).symm
  · rintro rfl
    exact resolves_sortMembers written

/-- Members that are sorted already stand for themselves. -/
theorem resolves_self {members : List (String × Json)} (h : members.Pairwise fun m m' => m.1 < m'.1) :
    Resolves members members := by
  refine ⟨h, fun name => ?_⟩
  induction members with
  | nil => rfl
  | cons m members ih =>
    obtain ⟨hafter, hsorted⟩ := List.pairwise_cons.1 h
    have happend : find? name (m :: members).reverse =
        (find? name members.reverse).or (find? name [m]) := by
      rw [List.reverse_cons, find?, List.find?_append, Option.map_or]
      rfl
    rw [happend, ← ih hsorted, find?_cons, find?_cons]
    by_cases hm : m.1 = name
    · have hnone : find? name members = none :=
        find?_eq_none_iff.2 fun m' hm' heq => String.lt_irrefl name (by simpa [hm, heq] using hafter m' hm')
      rw [if_pos hm, if_pos hm, hnone]
      rfl
    · rw [if_neg hm, if_neg hm]
      exact Option.or_none.symm

end RegistryAuth.Json
