import Mathlib.Data.List.Basic
import RegistryAuth.Text.Blank
import RegistryAuth.Text.CodeTable

/-!
# Texts in parts

The parts of a text hold only characters of the text, and a text that is put together only those of its
parts and what was put between them.  Parts that do not hold what is put between them are had back.  What
replaces the pattern at the beginning of a text stands there, and is not looked into.
-/

namespace RegistryAuth.Text

/-! ## 1. Parts -/

variable {c sep : Char}

theorem mem_of_mem_splitAt_go {parts : List (List Char)} {part cs p : List Char}
    (hp : p ∈ splitAt.go sep parts part cs) (hc : c ∈ p) :
    (∃ q ∈ parts, c ∈ q) ∨ c ∈ part ∨ c ∈ cs := by
  induction cs generalizing parts part with
  | nil =>
    rw [splitAt.go, List.mem_reverse] at hp
    rcases List.mem_cons.1 hp with rfl | hp
    · exact .inr (.inl (List.mem_reverse.1 hc))
    · exact .inl ⟨p, hp, hc⟩
  | cons d cs ih =>
    rw [splitAt.go] at hp
    by_cases hd : d = sep
    · rw [if_pos hd] at hp
      rcases ih hp with ⟨q, hq, hcq⟩ | hnone | hcs
      · rcases List.mem_cons.1 hq with rfl | hq
        · exact .inr (.inl (List.mem_reverse.1 hcq))
        · exact .inl ⟨q, hq, hcq⟩
      · cases hnone
      · exact .inr (.inr (List.mem_cons_of_mem d hcs))
    · rw [if_neg hd] at hp
      rcases ih hp with hparts | hpart | hcs
      · exact .inl hparts
      · rcases List.mem_cons.1 hpart with rfl | hpart
        · exact .inr (.inr List.mem_cons_self)
        · exact .inr (.inl hpart)
      · exact .inr (.inr (List.mem_cons_of_mem d hcs))

theorem mem_of_mem_splitAt {cs part : List Char} (hpart : part ∈ splitAt sep cs) (hc : c ∈ part) :
    c ∈ cs := by
  rcases mem_of_mem_splitAt_go hpart hc with ⟨q, hq, -⟩ | hnone | hcs
  · cases hq
  · cases hnone
  · exact hcs

/-- Parts do not hold what the text is split at. -/
theorem not_mem_of_mem_splitAt {cs part : List Char} (hpart : part ∈ splitAt sep cs) : sep ∉ part := by
  have hgo (parts : List (List Char)) (last cs : List Char) (hparts : ∀ p ∈ parts, sep ∉ p)
      (hlast : sep ∉ last) : ∀ p ∈ splitAt.go sep parts last cs, sep ∉ p := by
    induction cs generalizing parts last with
    | nil =>
      intro p hp
      rw [splitAt.go, List.mem_reverse, List.mem_cons] at hp
      rcases hp with rfl | hp
      · rwa [List.mem_reverse]
      · exact hparts p hp
    | cons c cs ih =>
      rw [splitAt.go]
      split
      · refine ih _ [] (fun p hp => ?_) List.not_mem_nil
        rcases List.mem_cons.1 hp with rfl | hp
        · rwa [List.mem_reverse]
        · exact hparts p hp
      · rename_i hc
        exact ih parts (c :: last) hparts (List.not_mem_cons_of_ne_of_not_mem (Ne.symm hc) hlast)
  exact hgo [] [] cs (fun p hp => absurd hp List.not_mem_nil) List.not_mem_nil part hpart

theorem of_mem_intercalate {parts : List (List Char)} (h : c ∈ [sep].intercalate parts) :
    c = sep ∨ ∃ part ∈ parts, c ∈ part := by
  induction parts with
  | nil => cases h
  | cons p parts ih =>
    cases parts with
    | nil =>
      rw [List.intercalate_singleton] at h
      exact .inr ⟨p, List.mem_cons_self, h⟩
    | cons q parts =>
      rw [List.intercalate_cons_cons] at h
      rcases List.mem_append.1 h with h | h
      · rcases List.mem_append.1 h with h | h
        · exact .inr ⟨p, List.mem_cons_self, h⟩
        · exact .inl (List.mem_singleton.1 h)
      · rcases ih h with hsep | ⟨part, hpart, hc⟩
        · exact .inl hsep
        · exact .inr ⟨part, List.mem_cons_of_mem p hpart, hc⟩

theorem splitAt_eq_splitOn (sep : Char) (cs : List Char) : splitAt sep cs = cs.splitOn sep := by
  have hgo (parts : List (List Char)) (part : List Char) :
      splitAt.go sep parts part cs = parts.reverse ++ cs.splitOnPPrepend (· == sep) part := by
    induction cs generalizing parts part with
    | nil => rw [splitAt.go, List.splitOnPPrepend_nil, List.reverse_cons]
    | cons c cs ih =>
      rw [splitAt.go, List.splitOnPPrepend_cons_eq_if, ih, ih]
      by_cases hc : c = sep
      · rw [if_pos hc, if_pos (beq_iff_eq.2 hc), List.reverse_cons, List.append_assoc]
        rfl
      · rw [if_neg hc, if_neg (mt beq_iff_eq.1 hc)]
  exact hgo [] []

/-- Parts that are put together are what the text is split into again. -/
theorem splitAt_intercalate {parts : List (List Char)} (hne : parts ≠ []) (h : ∀ p ∈ parts, sep ∉ p) :
    splitAt sep ([sep].intercalate parts) = parts := by
  rw [splitAt_eq_splitOn, List.splitOn_intercalate sep h hne]

/-- The parts of a text put together are the text. -/
theorem intercalate_splitAt (sep : Char) (cs : List Char) : [sep].intercalate (splitAt sep cs) = cs := by
  rw [splitAt_eq_splitOn, List.intercalate_splitOn]

/-- What parts are read as, each of them is read as. -/
theorem exists_of_mem_mapM {α β : Type} {f : α → Option β} {xs : List α} {ys : List β}
    (h : xs.mapM f = some ys) {y : β} (hy : y ∈ ys) : ∃ x ∈ xs, f x = some y := by
  induction xs generalizing ys with
  | nil =>
    cases h
    cases hy
  | cons x xs ih =>
    rw [List.mapM_cons] at h
    obtain ⟨z, hz, h⟩ := Option.bind_eq_some_iff.1 h
    obtain ⟨zs, hzs, h⟩ := Option.bind_eq_some_iff.1 h
    cases h
    rcases List.mem_cons.1 hy with rfl | hy
    · exact ⟨x, List.mem_cons_self, hz⟩
    · obtain ⟨x', hx', hfx⟩ := ih hzs hy
      exact ⟨x', List.mem_cons_of_mem x hx', hfx⟩

/-- Parts of which each is read are read as a whole. -/
theorem mapM_eq_some_map {α β : Type} {f : α → Option β} {g : α → β} {xs : List α}
    (h : ∀ x ∈ xs, f x = some (g x)) : xs.mapM f = some (xs.map g) := by
  induction xs with
  | nil => rfl
  | cons x xs ih =>
    have hx := h x List.mem_cons_self
    have hxs := ih fun y hy => h y (List.mem_cons_of_mem x hy)
    rw [List.mapM_cons, hx, hxs]
    rfl

/-! ## 2. Replaced places -/

variable {pattern value : List Char}

theorem replaceAll_go_acc (skip : Nat) (acc cs : List Char) :
    replaceAll.go pattern value skip acc cs = acc.reverse ++ replaceAll.go pattern value skip [] cs := by
  induction cs generalizing skip acc with
  | nil => exact (List.append_nil _).symm
  | cons c cs ih =>
    cases skip with
    | succ n =>
      rw [replaceAll.go, replaceAll.go]
      exact ih n acc
    | zero =>
      rw [replaceAll.go, replaceAll.go]
      split
      · rw [ih _ (value.reverse ++ acc), ih _ (value.reverse ++ [])]
        simp
      · rw [ih _ (c :: acc), ih _ [c]]
        simp

theorem replaceAll_go_length (passed rest acc : List Char) :
    replaceAll.go pattern value passed.length acc (passed ++ rest) =
      replaceAll.go pattern value 0 acc rest := by
  induction passed with
  | nil => rfl
  | cons c passed ih => exact ih

/-- A text that begins with the pattern begins with what replaces it. -/
theorem replaceAll_append (hne : pattern ≠ []) (value rest : List Char) :
    replaceAll pattern value (pattern ++ rest) = value ++ replaceAll pattern value rest := by
  obtain ⟨c, passed, rfl⟩ := List.exists_cons_of_ne_nil hne
  have hbegins : (c :: passed).isPrefixOf (c :: (passed ++ rest)) = true :=
    List.isPrefixOf_iff_prefix.2 (List.prefix_append (c :: passed) rest)
  unfold replaceAll
  rw [List.cons_append, replaceAll.go, if_pos ⟨hne, hbegins⟩, List.length_cons, Nat.add_sub_cancel,
    replaceAll_go_length, replaceAll_go_acc]
  simp

/-- A text without the first character of the pattern is left as it is. -/
theorem replaceAll_eq_self {c : Char} {cs : List Char} (h : c ∉ cs) (passed value : List Char) :
    replaceAll (c :: passed) value cs = cs := by
  induction cs with
  | nil => rfl
  | cons d cs ih =>
    rw [List.mem_cons, not_or] at h
    have hnot : ¬ (c :: passed).isPrefixOf (d :: cs) = true := fun hbegins =>
      h.1 (List.cons_prefix_cons.1 (List.isPrefixOf_iff_prefix.1 hbegins)).1
    unfold replaceAll at ih ⊢
    rw [replaceAll.go, if_neg fun hand => hnot hand.2, replaceAll_go_acc, ih h.2]
    rfl

end RegistryAuth.Text
