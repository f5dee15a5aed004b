import RegistryAuth.Proofs.Json.Lexing
import RegistryAuth.Proofs.Results

/-!
# Numbers are read

What is read as a number belongs to the grammar, as what is passed over does, and what comes after a number
does not matter to it.
-/

namespace RegistryAuth.Json

open Text (Bytes)

/-! ## 1. What is read could be passed over -/

section Passing

variable {negative : Bool} {significand dropped : Nat} {start e : Int} {bs rest rest' : Bytes} {n : Number}
  {x : Binary64}

theorem passExponent_of_readExponent (h : readExponent negative significand start bs = .ok (x, rest)) :
    passExponent bs = .ok rest := by
  unfold readExponent at h
  unfold passExponent
  grind [bind_eq_ok_iff]

theorem real_eq_ok_iff {y : Except Fault (Binary64 × Bytes)} :
    readFraction.real y = .ok (n, rest) ↔ ∃ x, y = .ok (x, rest) ∧ n = .real x := by
  constructor
  · intro h
    unfold readFraction.real at h
    split at h
    · cases h
      exact ⟨_, rfl, rfl⟩
    · cases h
  · rintro ⟨x, rfl, rfl⟩
    rfl

theorem passExponent_of_real
    (h : readFraction.real (readExponent negative significand start bs) = .ok (n, rest)) :
    passExponent bs = .ok rest := by
  obtain ⟨x, hx, -⟩ := real_eq_ok_iff.1 h
  exact passExponent_of_readExponent hx

theorem eq_of_real_map {y : Except Fault Binary64} (h : readFraction.real (y.map (·, rest')) = .ok (n, rest)) :
    rest' = rest := by
  obtain ⟨x, hx, -⟩ := real_eq_ok_iff.1 h
  obtain ⟨y, -, hy⟩ := map_eq_ok_iff.1 hx
  exact congrArg Prod.snd hy

theorem eq_of_finish (h : readFraction.finish negative significand dropped bs = .ok (n, rest)) :
    bs = rest := by
  unfold readFraction.finish at h
  repeat' split at h
  · exact eq_of_real_map h
  all_goals exact congrArg Prod.snd (Except.ok.inj h)

theorem passFraction_of_readFraction (h : readFraction negative significand dropped bs = .ok (n, rest)) :
    passFraction bs = .ok rest := by
  cases bs with
  | nil => exact congrArg Except.ok (eq_of_finish h)
  | cons b bs =>
    by_cases hpoint : b = byte '.'
    · simp only [readFraction, if_pos hpoint] at h
      cases bs with
      | nil => cases h
      | cons d bs =>
        -- The reader refuses an empty fraction after taking its digits, the other before.
        by_cases hd : isDigit d = true
        · rw [if_neg (isDigits_takeWhile hd bs).1] at h
          simp only [passFraction, if_pos hpoint, if_pos hd]
          cases hleft : (d :: bs).dropWhile isDigit with
          | nil =>
            rw [hleft] at h
            exact congrArg Except.ok (eq_of_real_map h)
          | cons c after =>
            rw [hleft] at h
            simp only at h ⊢
            by_cases hmark : isExponentMark c = true
            · rw [if_pos hmark] at h ⊢
              exact passExponent_of_real h
            · rw [if_neg hmark] at h ⊢
              exact congrArg Except.ok (eq_of_real_map h)
        · rw [List.takeWhile_cons_of_neg hd, if_pos rfl] at h
          cases h
    · simp only [readFraction, if_neg hpoint] at h
      simp only [passFraction, if_neg hpoint]
      by_cases hmark : isExponentMark b = true
      · rw [if_pos hmark] at h ⊢
        exact passExponent_of_real h
      · rw [if_neg hmark] at h ⊢
        exact congrArg Except.ok (eq_of_finish h)

theorem passNumber_of_readUnsigned (h : readUnsigned negative bs = .ok (n, rest)) :
    bs.head? ≠ some (byte '-') ∧ passNumber bs = .ok rest := by
  cases bs with
  | nil => cases h
  | cons b bs =>
    unfold readUnsigned at h
    simp only at h
    by_cases hzero : b = byte '0'
    · subst hzero
      refine ⟨fun heq => absurd (Option.some.inj heq) (by decide), ?_⟩
      rw [if_pos rfl] at h
      cases bs with
      | nil => exact passFraction_of_readFraction h
      | cons c bs =>
        simp only at h
        split at h
        · cases h
        · rename_i hc
          have hpass := passFraction_of_readFraction h
          have hminus : byte '0' ≠ byte '-' := by decide
          simp only [passNumber, if_neg hminus, if_true, if_neg hc, hpass]
    · rw [if_neg hzero] at h
      split at h
      · rename_i hd
        have hminus : b ≠ byte '-' := ne_of_isDigit hd (by decide)
        have hpass := passFraction_of_readFraction h
        refine ⟨fun heq => hminus (Option.some.inj heq), ?_⟩
        simp only [passNumber, if_neg hminus, if_neg hzero, if_pos hd, hpass]
      · cases h

/-- What is read as a number could as well be passed over. -/
theorem passNumber_of_readNumber (h : readNumber bs = .ok (n, rest)) : passNumber bs = .ok rest := by
  cases bs with
  | nil => cases h
  | cons b bs =>
    unfold readNumber at h
    simp only at h
    by_cases hminus : b = byte '-'
    · rw [if_pos hminus] at h
      obtain ⟨hhead, hpass⟩ := passNumber_of_readUnsigned h
      rw [hminus, passNumber_minus hhead, hpass]
    · rw [if_neg hminus] at h
      exact (passNumber_of_readUnsigned h).2

end Passing

/-! ## 2. What comes after a number -/

theorem ends_nil : Ends [] :=
  fun _ h => by cases h

variable {rest : Bytes}

theorem takeWhile_digits {ds : Bytes} (hds : IsDigits ds)
    (hrest : ∀ b, rest.head? = some b → isDigit b = false) : (ds ++ rest).takeWhile isDigit = ds := by
  rw [List.takeWhile_append_of_pos hds.2]
  cases rest with
  | nil => exact List.append_nil ds
  | cons b rest => rw [List.takeWhile_cons_of_neg (by simp [hrest b rfl]), List.append_nil]

/-- A number that ends has neither fraction nor exponent. -/
theorem readFraction_of_ends (hrest : Ends rest) (negative : Bool) (n dropped : Nat) :
    readFraction negative n dropped rest = readFraction.finish negative n dropped rest := by
  cases rest with
  | nil => rfl
  | cons b rest =>
    obtain ⟨-, hpoint, hmark⟩ := hrest.head rfl
    simp only [readFraction, if_neg hpoint, hmark, if_neg Bool.false_ne_true]

section Ending

variable {sign whole fraction exponent ds : Bytes} (negative : Bool) (significand dropped : Nat) (start : Int)

theorem readExponent_append (hsign : IsSign sign) (hds : IsDigits ds) (hrest : Ends rest) :
    readExponent negative significand start (sign ++ (ds ++ rest)) =
      (readExponent negative significand start (sign ++ ds)).map fun r => (r.1, rest) := by
  have htake := takeWhile_digits hds fun _ hb => (hrest.head hb).1
  have hdrop := dropWhile_digits hds fun _ hb => (hrest.head hb).1
  have htake' : (ds ++ []).takeWhile isDigit = ds := takeWhile_digits hds fun _ hb => by cases hb
  have hdrop' : (ds ++ []).dropWhile isDigit = [] := dropWhile_digits hds fun _ hb => by cases hb
  cases ds with
  | nil => exact absurd rfl hds.1
  | cons d ds =>
    have hd : isDigit d = true := hds.2 d List.mem_cons_self
    have hminus : d ≠ byte '-' := ne_of_isDigit hd (by decide)
    have hplus : d ≠ byte '+' := ne_of_isDigit hd (by decide)
    rw [List.append_nil] at htake' hdrop'
    rw [List.cons_append] at htake hdrop ⊢
    have hdash : byte '+' ≠ byte '-' := by decide
    rcases hsign with rfl | rfl | rfl
    all_goals
      simp only [readExponent, List.nil_append, List.singleton_append, if_neg hminus, if_neg hplus,
        if_neg hdash, if_true, hd, htake, hdrop, htake', hdrop']
      split
      · split <;> rfl
      · cases assemble negative significand _ <;> rfl

theorem real_map (y : Except Fault (Binary64 × Bytes)) :
    readFraction.real (y.map fun r => (r.1, rest)) = (readFraction.real y).map fun r => (r.1, rest) := by
  cases y <;> rfl

theorem real_assembled (y : Except Fault Binary64) :
    readFraction.real (y.map (·, rest)) = (readFraction.real (y.map (·, []))).map fun r => (r.1, rest) := by
  cases y <;> rfl

theorem finish_append (rest : Bytes) :
    readFraction.finish negative significand dropped rest =
      (readFraction.finish negative significand dropped []).map fun r => (r.1, rest) := by
  unfold readFraction.finish
  repeat' split
  · exact real_assembled _
  all_goals rfl

theorem readFraction_exponent (he : IsExponent exponent) (hrest : Ends rest) :
    readFraction negative significand dropped (exponent ++ rest) =
      (readFraction negative significand dropped exponent).map fun r => (r.1, rest) := by
  cases he with
  | none =>
    rw [List.nil_append, readFraction_of_ends hrest, readFraction_of_ends ends_nil, finish_append]
  | @mark m sign ds hm hsign hds =>
    have hpoint : m ≠ byte '.' := by
      rintro rfl
      cases hm
    have hread := readExponent_append negative significand dropped hsign hds hrest
    simp only [List.cons_append, List.append_assoc, readFraction, if_neg hpoint, hm, if_true, hread, real_map]

theorem readFraction_append (hf : IsFraction fraction) (he : IsExponent exponent) (hrest : Ends rest) :
    readFraction negative significand dropped (fraction ++ (exponent ++ rest)) =
      (readFraction negative significand dropped (fraction ++ exponent)).map fun r => (r.1, rest) := by
  cases hf with
  | none => exact readFraction_exponent negative significand dropped he hrest
  | @point ds hds =>
    have hhead : ∀ b, (exponent ++ rest).head? = some b → isDigit b = false :=
      fun _ hb => (head_exponent he hrest hb).1
    have hhead' : ∀ b, exponent.head? = some b → isDigit b = false :=
      fun _ hb => (head_exponent he ends_nil ((List.append_nil exponent).symm ▸ hb)).1
    have htake := takeWhile_digits hds hhead
    have hdrop := dropWhile_digits hds hhead
    have htake' := takeWhile_digits hds hhead'
    have hdrop' := dropWhile_digits hds hhead'
    simp only [List.cons_append, readFraction, if_true, htake, hdrop, htake', hdrop', if_neg hds.1]
    cases he with
    | none =>
      rw [List.nil_append, ← real_assembled]
      cases rest with
      | nil => rfl
      | cons b rest => simp only [(hrest.head rfl).2.2, if_neg Bool.false_ne_true]
    | @mark m sign digits hm hsign hdigits =>
      have hread (significand : Nat) (start : Int) :=
        readExponent_append negative significand start hsign hdigits hrest
      simp only [List.cons_append, List.append_assoc, hm, if_true, hread, real_map]

theorem readUnsigned_append (hw : IsWhole whole) (hf : IsFraction fraction) (he : IsExponent exponent)
    (hrest : Ends rest) :
    readUnsigned negative (whole ++ (fraction ++ (exponent ++ rest))) =
      (readUnsigned negative (whole ++ (fraction ++ exponent))).map fun r => (r.1, rest) := by
  have hread (significand dropped : Nat) := readFraction_append negative significand dropped hf he hrest
  have hdigit : ∀ b, (fraction ++ (exponent ++ rest)).head? = some b → isDigit b = false :=
    fun _ => isDigit_after hf he hrest
  have hdigit' : ∀ b, (fraction ++ exponent).head? = some b → isDigit b = false :=
    fun _ hb => isDigit_after hf he ends_nil ((List.append_nil exponent).symm ▸ hb)
  cases hw with
  | zero =>
    have hzero {after : Bytes} (h : ∀ b, after.head? = some b → isDigit b = false) :
        readUnsigned negative ([byte '0'] ++ after) = readFraction negative 0 0 after := by
      cases after with
      | nil => rfl
      | cons c after =>
        simp only [List.singleton_append, readUnsigned, if_true, h c rfl, if_neg Bool.false_ne_true]
    rw [hzero hdigit, hzero hdigit', hread]
  | @digits d ds hds hzero =>
    have hd : isDigit d = true := hds.2 d List.mem_cons_self
    have htake := takeWhile_digits hds hdigit
    have hdrop := dropWhile_digits hds hdigit
    have htake' := takeWhile_digits hds hdigit'
    have hdrop' := dropWhile_digits hds hdigit'
    rw [List.cons_append] at htake hdrop htake' hdrop'
    simp only [List.cons_append, readUnsigned, if_neg hzero, hd, if_true, htake, hdrop, htake', hdrop', hread]

/-- What comes after a number does not matter to it, as long as it ends there. -/
theorem readNumber_append {number : Bytes} (h : IsNumber number) (hrest : Ends rest) :
    readNumber (number ++ rest) = (readNumber number).map fun r => (r.1, rest) := by
  cases h with
  | @parts sign whole fraction exponent hsign hw hf he =>
    have hread (negative : Bool) := readUnsigned_append negative hw hf he hrest
    simp only [List.append_assoc]
    rcases hsign with rfl | rfl
    · obtain ⟨d, ds, rfl, hd⟩ := hw.isDigit_head
      have hminus : d ≠ byte '-' := ne_of_isDigit hd (by decide)
      have hread' := hread false
      simp only [List.nil_append, List.cons_append] at hread' ⊢
      simp only [readNumber, if_neg hminus, hread']
    · exact hread true

end Ending

end RegistryAuth.Json
