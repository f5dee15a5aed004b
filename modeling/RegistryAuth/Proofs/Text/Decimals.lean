import Mathlib.Data.List.Basic
import Mathlib.Data.List.Induction
import Mathlib.Data.List.TakeWhile
import Mathlib.Tactic.IntervalCases
import RegistryAuth.Text.Ascii
import RegistryAuth.Text.Blank

/-!
# Decimal digits

Texts of decimal digits and the number that they write, in whichever way it is gathered.
-/

namespace RegistryAuth.Text

/-! ## 1. Digits -/

def IsDecimal (ds : List Char) : Prop :=
  ds ≠ [] ∧ ∀ c ∈ ds, c.isDigit = true

theorem isDecimal_toDigits (n : Nat) : IsDecimal (Nat.toDigits 10 n) :=
  ⟨Nat.toDigits_ne_nil, fun _ hc => Nat.isDigit_of_mem_toDigits (by decide) (by decide) hc⟩

theorem isDecimal_zero : IsDecimal ['0'] :=
  ⟨List.cons_ne_nil _ _, fun _ hc => List.mem_singleton.1 hc ▸ rfl⟩

theorem IsDecimal.of_subset {ds part : List Char} (h : IsDecimal ds) (hne : part ≠ [])
    (hsub : part ⊆ ds) : IsDecimal part :=
  ⟨hne, fun c hc => h.2 c (hsub hc)⟩

theorem isDigit_of_mem_zeros {n : Nat} {c : Char} (h : c ∈ List.replicate n '0') : c.isDigit = true := by
  rw [List.eq_of_mem_replicate h]
  rfl

theorem IsDecimal.append_zeros {ds : List Char} (h : IsDecimal ds) (n : Nat) :
    IsDecimal (ds ++ List.replicate n '0') := by
  refine ⟨List.append_ne_nil_of_left_ne_nil h.1 _, fun c hc => ?_⟩
  exact (List.mem_append.1 hc).elim (h.2 c) isDigit_of_mem_zeros

theorem IsDecimal.zeros_append {ds : List Char} (h : IsDecimal ds) (n : Nat) :
    IsDecimal (List.replicate n '0' ++ ds) := by
  refine ⟨List.append_ne_nil_of_right_ne_nil _ h.1, fun c hc => ?_⟩
  exact (List.mem_append.1 hc).elim isDigit_of_mem_zeros (h.2 c)

/-- No zero stands before the digits of a number that is not zero itself. -/
theorem head?_toDigits {n : Nat} (h : 0 < n) : (Nat.toDigits 10 n).head? ≠ some '0' := by
  induction n using Nat.strong_induction_on with
  | _ n ih =>
    rw [Nat.toDigits_eq_if (by decide)]
    by_cases hn : n < 10
    · rw [if_pos hn]
      interval_cases n <;> decide
    · rw [if_neg hn, List.head?_append_of_ne_nil _ Nat.toDigits_ne_nil]
      exact ih (n / 10) (by omega) (by omega)

theorem bounds_of_isDigit {c : Char} (h : c.isDigit = true) : 48 ≤ c.toNat ∧ c.toNat ≤ 57 := by
  simpa [Char.isDigit, UInt32.le_iff_toNat_le] using h

theorem isBlank_of_isDigit {c : Char} (h : c.isDigit = true) : isBlank c = false := by
  have hbounds := bounds_of_isDigit h
  simp only [isBlank, Bool.or_eq_false_iff, Bool.and_eq_false_iff, decide_eq_false_iff_not,
    beq_eq_false_iff_ne]
  omega

theorem isDigit_eq (c : Char) : isDigit c = c.isDigit := by
  unfold isDigit Char.isDigit
  simp only [UInt32.le_iff_toNat_le]
  rfl

variable {ds : List Char}

theorem IsDecimal.isDigit (h : IsDecimal ds) : ∀ c ∈ ds, isDigit c = true :=
  fun c hc => (isDigit_eq c).trans (h.2 c hc)

theorem IsDecimal.all (h : IsDecimal ds) : ds.all Text.isDigit = true :=
  List.all_eq_true.2 h.isDigit

/-! ## 2. The number that digits write -/

theorem foldl_digits (ds : List Char) (n : Nat) :
    ds.foldl (fun n c => n * 10 + (c.toNat - 0x30)) n = Nat.ofDigitChars 10 ds n := by
  induction ds generalizing n with
  | nil => rfl
  | cons c ds ih =>
    rw [List.foldl_cons, ih, Nat.ofDigitChars_cons, Nat.mul_comm]
    rfl

theorem le_ofDigitChars (cs : List Char) (n : Nat) : n ≤ Nat.ofDigitChars 10 cs n := by
  rw [Nat.ofDigitChars_eq_ofDigitChars_zero]
  have hscaled : n ≤ 10 ^ cs.length * n := Nat.le_mul_of_pos_left n (Nat.pow_pos (by decide))
  omega

theorem digitChar_of_isDigit {c : Char} (h : c.isDigit = true) :
    Nat.digitChar (c.toNat - '0'.toNat) = c := by
  have hbounds := bounds_of_isDigit h
  have hzero : '0'.toNat = 48 := rfl
  rw [hzero, ← Char.ofNat_toNat c]
  obtain ⟨hlow, hhigh⟩ := hbounds
  generalize c.toNat = n at hlow hhigh
  interval_cases n <;> rfl

theorem ofDigitChars_pos (h : IsDecimal ds) (hhead : ds.head? ≠ some '0') :
    0 < Nat.ofDigitChars 10 ds 0 := by
  obtain ⟨c, cs, rfl⟩ := List.exists_cons_of_ne_nil h.1
  have hbounds := bounds_of_isDigit (h.2 c List.mem_cons_self)
  have hne : c.toNat ≠ '0'.toNat := fun heq => hhead (congrArg some (Char.ext (UInt32.toNat_inj.1 heq)))
  have hzero : '0'.toNat = 48 := rfl
  have hle := le_ofDigitChars cs (10 * 0 + (c.toNat - '0'.toNat))
  rw [Nat.ofDigitChars_cons]
  omega

/-- A number is written in one way if no zero stands before its digits. -/
theorem toDigits_ofDigitChars (h : IsDecimal ds) (hhead : ds.head? ≠ some '0') :
    Nat.toDigits 10 (Nat.ofDigitChars 10 ds 0) = ds := by
  induction ds using List.reverseRecOn with
  | nil => exact absurd rfl h.1
  | append_singleton cs c ih =>
    have hc : c.isDigit = true := h.2 c (by simp)
    have hdigit : c.toNat - '0'.toNat < 10 := by
      have hbounds := bounds_of_isDigit hc
      have hzero : '0'.toNat = 48 := rfl
      omega
    have hlast : Nat.toDigits 10 (c.toNat - '0'.toNat) = [c] := by
      rw [Nat.toDigits_of_lt_base hdigit, digitChar_of_isDigit hc]
    rw [Nat.ofDigitChars_append, Nat.ofDigitChars_cons, Nat.ofDigitChars_nil]
    by_cases hcs : cs = []
    · rw [hcs, Nat.ofDigitChars_nil, Nat.mul_zero, Nat.zero_add]
      exact hlast
    · have hdecimal : IsDecimal cs := h.of_subset hcs (List.subset_append_left cs [c])
      rw [List.head?_append_of_ne_nil _ hcs] at hhead
      rw [← Nat.toDigits_append_toDigits (by decide) (ofDigitChars_pos hdecimal hhead) hdigit,
        ih hdecimal hhead, hlast]

/-! ## 3. Text with something around it -/

section Around

variable {α : Type} {p : α → Bool} {before xs after : List α}

theorem trimEndWhile_append (hafter : ∀ x ∈ after, p x = true)
    (hlast : ∀ x, xs.getLast? = some x → p x = false) : trimEndWhile p (xs ++ after) = xs := by
  have hstays : xs.reverse.dropWhile p = xs.reverse := by
    cases hreverse : xs.reverse with
    | nil => rfl
    | cons x rest =>
      have hx : xs.getLast? = some x := by rw [← List.head?_reverse, hreverse, List.head?_cons]
      exact List.dropWhile_cons_of_neg (by simp [hlast x hx])
  unfold trimEndWhile
  rw [List.reverse_append, List.dropWhile_append_of_pos fun x hx => hafter x (List.mem_reverse.1 hx),
    hstays, List.reverse_reverse]

theorem trimEndWhile_append_replicate [BEq α] [LawfulBEq α] {x : α} {xs : List α}
    (h : x ∉ xs) (n : Nat) : trimEndWhile (· == x) (xs ++ List.replicate n x) = xs := by
  refine trimEndWhile_append (fun y hy => beq_iff_eq.2 (List.eq_of_mem_replicate hy)) fun y hy => ?_
  exact beq_false_of_ne fun heq => h (heq ▸ List.mem_of_getLast? hy)

theorem exists_trimEndWhile_append_replicate [BEq α] [LawfulBEq α] (x : α) (xs : List α) :
    ∃ n, xs = trimEndWhile (· == x) xs ++ List.replicate n x := by
  have hends : ∀ y ∈ xs.reverse.takeWhile (· == x), y = x :=
    fun y hy => beq_iff_eq.1 (List.mem_takeWhile_imp (p := (· == x)) hy)
  have hsplit := congrArg List.reverse (List.takeWhile_append_dropWhile (p := (· == x)) (l := xs.reverse))
  rw [List.reverse_append, List.reverse_reverse, List.eq_replicate_of_mem hends, List.reverse_replicate] at hsplit
  exact ⟨_, hsplit.symm⟩

/-- What is around a text is trimmed, if the text neither begins nor ends with any of it. -/
theorem trimWhile_of_around (hbefore : ∀ x ∈ before, p x = true) (hafter : ∀ x ∈ after, p x = true)
    (hne : xs ≠ []) (hfirst : ∀ x, xs.head? = some x → p x = false)
    (hlast : ∀ x, xs.getLast? = some x → p x = false) : trimWhile p (before ++ xs ++ after) = xs := by
  obtain ⟨x, rest, rfl⟩ := List.exists_cons_of_ne_nil hne
  have hdrop : (before ++ (x :: rest) ++ after).dropWhile p = (x :: rest) ++ after := by
    rw [List.append_assoc, List.dropWhile_append_of_pos hbefore, List.cons_append]
    exact List.dropWhile_cons_of_neg (by simp [hfirst x rfl])
  rw [trimWhile, hdrop]
  exact trimEndWhile_append hafter hlast

/-- What is around a text is trimmed, if nothing of the text itself is. -/
theorem trimWhile_around (hbefore : ∀ x ∈ before, p x = true) (hafter : ∀ x ∈ after, p x = true)
    (h : ∀ x ∈ xs, p x = false) : trimWhile p (before ++ (xs ++ after)) = xs := by
  by_cases hne : xs = []
  · -- Nothing is left between what is around.
    have hall : ∀ x ∈ before ++ after, p x = true :=
      fun x hx => (List.mem_append.1 hx).elim (hbefore x) (hafter x)
    rw [hne, List.nil_append, trimWhile, List.dropWhile_eq_nil_iff.2 hall]
    rfl
  · rw [← List.append_assoc]
    exact trimWhile_of_around hbefore hafter hne (fun x hx => h x (List.mem_of_head? hx))
      fun x hx => h x (List.mem_of_getLast? hx)

end Around

end RegistryAuth.Text
