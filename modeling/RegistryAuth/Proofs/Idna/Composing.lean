import Mathlib.Data.List.Basic
import RegistryAuth.Idna.Normal

/-!
# What composing keeps

An ASCII character is joined to no other before it, so one that ends a text is still there when the text is
composed: `mem_compose_concat`.  Elsewhere in a text it may be lost to a mark after it.
-/

namespace RegistryAuth.Idna

variable {c : Char}

/-! ## 1. The order of marks -/

theorem mem_sorted {run : List Char} : c ∈ orderMarks.sorted run ↔ c ∈ run := by
  unfold orderMarks.sorted
  rw [List.mem_mergeSort, List.mem_reverse]

theorem mem_orderMarks_go {run cs : List Char} : c ∈ orderMarks.go run cs ↔ c ∈ run ∨ c ∈ cs := by
  induction cs generalizing run with
  | nil => simp [orderMarks.go, mem_sorted]
  | cons d cs ih =>
    rw [orderMarks.go]
    by_cases hd : combiningClass d = 0
    · rw [if_pos hd, List.mem_append, mem_sorted, List.mem_cons, ih, List.mem_cons]
      simp
    · rw [if_neg hd, ih, List.mem_cons, List.mem_cons, or_assoc, or_left_comm]

/-- A character that is no mark stays behind the text before it. -/
theorem orderMarks_go_concat (hc : combiningClass c = 0) (run cs : List Char) :
    orderMarks.go run (cs ++ [c]) = orderMarks.go run cs ++ [c] := by
  induction cs generalizing run with
  | nil =>
    show orderMarks.go run [c] = orderMarks.sorted run ++ [c]
    rw [orderMarks.go, if_pos hc]
    simp [orderMarks.go, orderMarks.sorted]
  | cons d cs ih =>
    rw [List.cons_append, orderMarks.go, orderMarks.go]
    by_cases hd : combiningClass d = 0
    · rw [if_pos hd, if_pos hd, ih, List.append_assoc]
      rfl
    · rw [if_neg hd, if_neg hd, ih]

/-! ## 2. Joining -/

theorem join?_of_ascii (hc : c.toNat < 0x80) (a : Char) : join? a c = none :=
  if_pos hc

namespace Joining

variable {j : Joining}

/-- Whether a character is held where no later one can be joined to it. -/
def Holds (j : Joining) (c : Char) : Prop :=
  c ∈ j.done ∨ j.starter ≠ none ∧ c ∈ j.marks

theorem Holds.mem_finish (h : j.Holds c) : c ∈ j.finish := by
  unfold finish
  cases hstarter : j.starter with
  | none =>
    rcases h with hdone | ⟨hne, -⟩
    · exact hdone
    · exact absurd hstarter hne
  | some s =>
    apply List.mem_append.2
    rcases h with hdone | ⟨-, hmarks⟩
    · exact .inr (List.mem_cons_of_mem s hdone)
    · exact .inl hmarks

theorem Holds.push (h : j.Holds c) (d : Char) : (j.push d).Holds c := by
  have hfinish := h.mem_finish
  unfold Joining.push
  cases hstarter : j.starter with
  | none =>
    have hdone : c ∈ j.done := by
      rcases h with hdone | ⟨hne, -⟩
      · exact hdone
      · exact absurd hstarter hne
    simp only
    split
    · exact .inl hdone
    · exact .inl (List.mem_cons_of_mem d hdone)
  | some s =>
    have hkept : c ∈ j.done ∨ c ∈ j.marks := h.imp_right And.right
    simp only
    split
    · exact hkept.imp_right fun hmarks => ⟨Option.some_ne_none _, hmarks⟩
    · split
      · exact .inl hfinish
      · exact hkept.imp_right fun hmarks => ⟨Option.some_ne_none _, List.mem_cons_of_mem d hmarks⟩

/-- A mark in ASCII is joined to nothing, and held. -/
theorem holds_push (hc : c.toNat < 0x80) (hmark : combiningClass c ≠ 0) (j : Joining) :
    (j.push c).Holds c := by
  unfold push
  cases j.starter with
  | none =>
    simp only [if_neg hmark]
    exact .inl List.mem_cons_self
  | some s =>
    simp only [join?_of_ascii hc, ite_self, if_neg hmark]
    exact .inr ⟨Option.some_ne_none _, List.mem_cons_self⟩

theorem mem_finish_push (hc : c.toNat < 0x80) (hclass : combiningClass c = 0) (j : Joining) :
    c ∈ (j.push c).finish := by
  unfold push
  cases j.starter with
  | none =>
    simp only [if_pos hclass]
    exact List.mem_cons_self
  | some s =>
    simp only [join?_of_ascii hc, ite_self, if_pos hclass]
    exact List.mem_cons_self

theorem holds_foldl (hc : c.toNat < 0x80) (hmark : combiningClass c ≠ 0) {cs : List Char} (hcs : c ∈ cs)
    (j : Joining) : (cs.foldl push j).Holds c := by
  induction cs generalizing j with
  | nil => cases hcs
  | cons d cs ih =>
    rcases List.mem_cons.1 hcs with rfl | hcs
    · exact List.foldlRecOn (motive := fun j : Joining => j.Holds c) cs push (holds_push hc hmark j)
        fun _ hj d _ => hj.push d
    · exact ih hcs (j.push d)

end Joining

/-- An ASCII character at the end of a text is not lost. -/
theorem mem_compose_concat (hc : c.toNat < 0x80) (cs : List Char) : c ∈ compose (cs ++ [c]) := by
  have hparts : parts c = [c] := if_pos (by omega)
  have hdecompose : decompose (cs ++ [c]) = orderMarks.go [] (cs.flatMap parts ++ [c]) := by
    unfold decompose
    rw [List.flatMap_append, List.flatMap_singleton, hparts]
    rfl
  unfold compose
  split
  · exact List.mem_append_right cs List.mem_cons_self
  · rw [hdecompose, List.mem_reverse]
    -- No mark is joined to it in either case, but only a mark may change places with others.
    by_cases hclass : combiningClass c = 0
    · rw [orderMarks_go_concat hclass, List.foldl_append]
      exact Joining.mem_finish_push hc hclass _
    · have hmem : c ∈ orderMarks.go [] (cs.flatMap parts ++ [c]) :=
        mem_orderMarks_go.2 (.inr (List.mem_append_right _ List.mem_cons_self))
      exact (Joining.holds_foldl hc hclass hmem _).mem_finish

end RegistryAuth.Idna
