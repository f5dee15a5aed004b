import Mathlib.Algebra.Ring.Int.Defs
import Mathlib.Algebra.Ring.Nat
import Mathlib.Data.Nat.Log
import RegistryAuth.Binary64.Basic

/-!
# Rounding to the format

What is rounded keeps a mantissa of 53 bits.  A natural number below 2⁵³ is kept as it is; a greater one
stays at 2⁵³ or above it, or becomes infinite.  A quotient that is not too great stays finite.
-/

namespace RegistryAuth.Binary64

/-! ## 1. The mantissa -/

section Quotients

variable {num den : Nat} {e : Int}

theorem le_roundHalfEven (num den : Nat) : num / den ≤ roundHalfEven num den := by
  unfold roundHalfEven
  extract_lets q r
  repeat' split
  all_goals omega

theorem roundHalfEven_le (num den : Nat) : roundHalfEven num den ≤ num / den + 1 := by
  unfold roundHalfEven
  extract_lets q r
  repeat' split
  all_goals omega

theorem roundHalfEven_one (n : Nat) : roundHalfEven n 1 = n := by
  unfold roundHalfEven
  rw [Nat.div_one, Nat.mod_one]
  rfl

/-- Scaled to at most 53 bits more than the denominator has, a quotient is below 2⁵³. -/
theorem scaled_lt (hden : 0 < den) (he : (num.log2 : Int) - den.log2 - 52 ≤ e) :
    (scaled num den e).1 / (scaled num den e).2 < 2 ^ 53 := by
  have hnum : num < 2 ^ (num.log2 + 1) := Nat.lt_log2_self
  have hlow : 2 ^ den.log2 ≤ den := Nat.log2_self_le hden.ne'
  unfold scaled
  by_cases hsign : 0 ≤ e
  · rw [if_pos hsign]
    apply Nat.div_lt_of_lt_mul
    calc num < 2 ^ (num.log2 + 1) := hnum
      _ ≤ 2 ^ (den.log2 + e.toNat + 53) := Nat.pow_le_pow_right (by decide) (by omega)
      _ = 2 ^ den.log2 * 2 ^ e.toNat * 2 ^ 53 := by rw [Nat.pow_add, Nat.pow_add]
      _ ≤ den * 2 ^ e.toNat * 2 ^ 53 := Nat.mul_le_mul_right _ (Nat.mul_le_mul_right _ hlow)
  · rw [if_neg hsign]
    apply Nat.div_lt_of_lt_mul
    calc num * 2 ^ (-e).toNat < 2 ^ (num.log2 + 1) * 2 ^ (-e).toNat :=
          Nat.mul_lt_mul_of_pos_right hnum (Nat.pow_pos (by decide))
      _ = 2 ^ (num.log2 + 1 + (-e).toNat) := (Nat.pow_add ..).symm
      _ ≤ 2 ^ (den.log2 + 53) := Nat.pow_le_pow_right (by decide) (by omega)
      _ = 2 ^ den.log2 * 2 ^ 53 := Nat.pow_add ..
      _ ≤ den * 2 ^ 53 := Nat.mul_le_mul_right _ hlow

theorem scaled_exponentOf_lt (num : Nat) (hden : 0 < den) :
    (scaled num den (exponentOf num den)).1 / (scaled num den (exponentOf num den)).2 < 2 ^ 53 := by
  unfold exponentOf
  extract_lets e s
  by_cases hfull : 0x20000000000000 ≤ s.1 / s.2
  · rw [if_pos hfull]
    exact scaled_lt hden (by omega)
  · rw [if_neg hfull]
    -- The least exponent is taken only where it is above the one with a full mantissa.
    rcases le_or_gt minExponent e with hmin | hmin
    · rw [max_eq_right hmin]
      exact Nat.lt_of_not_le hfull
    · rw [max_eq_left hmin.le]
      exact scaled_lt hden (by omega)

/-- A rounded quotient has a mantissa of 53 bits, full if the quotient fills it. -/
theorem nearest_cases (negative : Bool) (hnum : 0 < num) (hden : 0 < den) :
    ∃ m e, m < 2 ^ 53 ∧
      min (2 ^ 52) ((scaled num den (exponentOf num den)).1 / (scaled num den (exponentOf num den)).2) ≤ m ∧
      exponentOf num den ≤ e ∧ e ≤ exponentOf num den + 1 ∧
      nearest negative num den = if maxExponent < e then .infinite negative else .finite negative m e := by
  have hlt := scaled_exponentOf_lt num hden
  unfold nearest
  rw [if_neg hnum.ne']
  extract_lets e s m
  have hle : m ≤ s.1 / s.2 + 1 := roundHalfEven_le _ _
  have hge : s.1 / s.2 ≤ m := le_roundHalfEven _ _
  by_cases hfull : m = 0x20000000000000
  · rw [if_pos hfull]
    exact ⟨0x10000000000000, e + 1, by decide, min_le_left _ _, by omega, le_rfl, rfl⟩
  · rw [if_neg hfull]
    have hm : m < 2 ^ 53 := by
      change s.1 / s.2 < 2 ^ 53 at hlt
      omega
    exact ⟨m, e, hm, (min_le_right _ _).trans hge, le_rfl, by omega, rfl⟩

theorem exponentOf_le {k : Nat} (h : num < den * 2 ^ k) : exponentOf num den ≤ k - 52 := by
  have hlog : num.log2 < den.log2 + 1 + k := by
    rcases Nat.eq_zero_or_pos num with rfl | hnum
    · have hzero : Nat.log2 0 = 0 := rfl
      omega
    · rw [Nat.log2_lt hnum.ne', Nat.pow_add]
      exact h.trans (Nat.mul_lt_mul_of_pos_right Nat.lt_log2_self (Nat.pow_pos (by decide)))
  unfold exponentOf
  extract_lets e s
  apply max_le
  · unfold minExponent
    omega
  · split <;> omega

/-- Whether a number is finite, with a mantissa of 53 bits and an exponent that is not above a bound. -/
def Within (x : Binary64) (bound : Int) : Prop :=
  ∃ negative m e, x = .finite negative m e ∧ m < 2 ^ 53 ∧ e ≤ bound

theorem Within.isFinite {x : Binary64} {bound : Int} (h : x.Within bound) : x.isFinite = true := by
  obtain ⟨negative, m, e, rfl, -, -⟩ := h
  rfl

/-- A quotient below a power of two in reach is finite. -/
theorem within_nearest (negative : Bool) {k : Nat} (hden : 0 < den) (h : num < den * 2 ^ k)
    (hk : k ≤ 1022) : (nearest negative num den).Within (k - 51) := by
  rcases Nat.eq_zero_or_pos num with rfl | hnum
  · refine ⟨negative, 0, minExponent, if_pos rfl, by decide, ?_⟩
    unfold minExponent
    omega
  · have hexponent := exponentOf_le h
    obtain ⟨m, e, hm, -, -, he, heq⟩ := nearest_cases negative hnum hden
    rw [if_neg (by unfold maxExponent; omega)] at heq
    exact ⟨negative, m, e, heq, hm, by omega⟩

theorem Within.mono {x : Binary64} {bound bound' : Int} (h : x.Within bound) (hle : bound ≤ bound') :
    x.Within bound' := by
  obtain ⟨negative, m, e, rfl, hm, he⟩ := h
  exact ⟨negative, m, e, rfl, hm, he.trans hle⟩

theorem isFinite_neg (x : Binary64) : x.neg.isFinite = x.isFinite := by
  cases x <;> rfl

theorem isFinite_of_isZero {x : Binary64} (h : x.isZero = true) : x.isFinite = true := by
  cases x with
  | finite negative m e => rfl
  | infinite negative => cases h
  | notANumber => cases h

theorem scaled_lt_of_le {m m' : Nat} {k : Nat} (hm : m < 2 ^ 53) (hm' : 2 ^ 52 ≤ m') (he : -(k : Int) ≤ e) :
    (scaled m m' e).1 < (scaled m m' e).2 * 2 ^ (k + 1) := by
  unfold scaled
  by_cases hsign : 0 ≤ e
  · rw [if_pos hsign]
    calc m < 2 ^ 52 * 1 * 2 ^ 1 := hm
      _ ≤ m' * 2 ^ e.toNat * 2 ^ (k + 1) :=
        Nat.mul_le_mul (Nat.mul_le_mul hm' Nat.one_le_two_pow) (Nat.pow_le_pow_right (by decide) (by omega))
  · rw [if_neg hsign]
    calc m * 2 ^ (-e).toNat < 2 ^ 53 * 2 ^ (-e).toNat :=
          Nat.mul_lt_mul_of_pos_right hm (Nat.pow_pos (by decide))
      _ ≤ 2 ^ 53 * 2 ^ k := Nat.mul_le_mul_left _ (Nat.pow_le_pow_right (by decide) (by omega))
      _ = 2 ^ 52 * 2 ^ (k + 1) := by rw [Nat.pow_succ 2 52, Nat.pow_succ 2 k, Nat.mul_assoc, Nat.mul_comm 2]
      _ ≤ m' * 2 ^ (k + 1) := Nat.mul_le_mul_right _ hm'

/-- What is divided by a number with a full mantissa stays within a bound. -/
theorem Within.div {x : Binary64} {bound e' : Int} {m' : Nat} {k : Nat} (h : x.Within bound)
    (negative' : Bool) (hm' : 2 ^ 52 ≤ m') (hbound : bound - e' ≤ k) (hk : k ≤ 1021) :
    (x.div (.finite negative' m' e')).Within (k - 50) := by
  obtain ⟨negative, m, e, rfl, hm, he⟩ := h
  have hpos : 0 < m' := hm'.trans_lt' (Nat.pow_pos (by decide))
  have hden : 0 < (scaled m m' (e' - e)).2 := by
    unfold scaled
    split
    · exact Nat.mul_pos hpos (Nat.pow_pos (by decide))
    · exact hpos
  have hlt : (scaled m m' (e' - e)).1 < (scaled m m' (e' - e)).2 * 2 ^ (k + 1) :=
    scaled_lt_of_le hm hm' (by omega)
  have hnearest := within_nearest (negative != negative') hden hlt (by omega)
  rw [Int.natCast_add, Int.natCast_one, show (k : Int) + 1 - 51 = k - 50 by omega] at hnearest
  rw [Binary64.div, if_neg hpos.ne']
  exact hnearest

end Quotients

/-! ## 2. Natural numbers -/

section Naturals

variable {n : Nat}

/-- Scaled to as many bits as it has, a natural number is at least that power of two. -/
theorem two_pow_le_scaled {k : Nat} {e : Int} (hn : 0 < n) (he : e + k ≤ n.log2) :
    2 ^ k ≤ (scaled n 1 e).1 / (scaled n 1 e).2 := by
  have hlow : 2 ^ n.log2 ≤ n := Nat.log2_self_le hn.ne'
  unfold scaled
  by_cases hsign : 0 ≤ e
  · rw [if_pos hsign]
    apply (Nat.le_div_iff_mul_le (Nat.mul_pos Nat.one_pos (Nat.pow_pos (by decide)))).2
    calc 2 ^ k * (1 * 2 ^ e.toNat) = 2 ^ (k + e.toNat) := by rw [Nat.one_mul, Nat.pow_add]
      _ ≤ 2 ^ n.log2 := Nat.pow_le_pow_right (by decide) (by omega)
      _ ≤ n := hlow
  · rw [if_neg hsign, Nat.div_one]
    calc 2 ^ k ≤ 2 ^ (n.log2 + (-e).toNat) := Nat.pow_le_pow_right (by decide) (by omega)
      _ = 2 ^ n.log2 * 2 ^ (-e).toNat := Nat.pow_add ..
      _ ≤ n * 2 ^ (-e).toNat := Nat.mul_le_mul_right _ hlow

theorem exponentOf_one (hn : 0 < n) : exponentOf n 1 = (n.log2 : Int) - 52 := by
  have hone : Nat.log2 1 = 0 := rfl
  unfold exponentOf
  rw [hone]
  extract_lets e s
  have hfull : 2 ^ 53 ≤ s.1 / s.2 := two_pow_le_scaled hn (by omega)
  change 0x20000000000000 ≤ s.1 / s.2 at hfull
  rw [if_pos hfull, max_eq_right (by unfold minExponent; omega)]
  omega

theorem scaled_of_nonpos {num den : Nat} {e : Int} (h : e ≤ 0) :
    scaled num den e = (num * 2 ^ (-e).toNat, den) := by
  unfold scaled
  by_cases hsign : 0 ≤ e
  · have hzero : e = 0 := by omega
    rw [if_pos hsign, hzero]
    exact Prod.ext (Nat.mul_one num).symm (Nat.mul_one den)
  · rw [if_neg hsign]
    rfl

/-- A natural number that fits the mantissa is exact. -/
theorem nearest_of_lt_two_pow (negative : Bool) (hn : 0 < n) (h : n < 2 ^ 53) :
    nearest negative n 1 = .finite negative (n * 2 ^ (52 - n.log2)) ((n.log2 : Int) - 52) := by
  have hlog : n.log2 < 53 := (Nat.log2_lt hn.ne').2 h
  have hexponent := exponentOf_one hn
  have hscaled : scaled n 1 ((n.log2 : Int) - 52) = (n * 2 ^ (52 - n.log2), 1) := by
    rw [scaled_of_nonpos (by omega)]
    congr 3
    omega
  have hlt := scaled_exponentOf_lt n Nat.one_pos
  rw [hexponent, hscaled, Nat.div_one] at hlt
  change n * 2 ^ (52 - n.log2) < 0x20000000000000 at hlt
  unfold nearest
  rw [if_neg hn.ne', hexponent]
  simp only [hscaled, roundHalfEven_one]
  rw [if_neg hlt.ne]
  exact if_neg (by unfold maxExponent; omega)

/-- The mantissa of a natural number is full. -/
theorem nearest_of_pos (negative : Bool) (hn : 0 < n) :
    ∃ m e, 2 ^ 52 ≤ m ∧ m < 2 ^ 53 ∧ (n.log2 : Int) - 52 ≤ e ∧ e ≤ (n.log2 : Int) - 51 ∧
      nearest negative n 1 = if maxExponent < e then .infinite negative else .finite negative m e := by
  obtain ⟨m, e, hm, hmin, hle, hge, heq⟩ := nearest_cases negative hn Nat.one_pos
  rw [exponentOf_one hn] at hmin hle hge
  exact ⟨m, e, hmin.trans' (le_min le_rfl (two_pow_le_scaled hn (by omega))), hm, hle, by omega, heq⟩

end Naturals

/-! ## 3. Whole numbers through the format -/

/-- A natural number with a sign. -/
def signed (negative : Bool) (n : Nat) : Int :=
  if negative then -(n : Int) else n

@[simp] theorem signed_true (n : Nat) : signed true n = -(n : Int) := rfl

@[simp] theorem signed_false (n : Nat) : signed false n = n := rfl

@[simp] theorem signed_zero (negative : Bool) : signed negative 0 = 0 := by
  cases negative <;> rfl

theorem floor?_of_nonneg (negative : Bool) (m : Nat) {e : Int} (h : 0 ≤ e) :
    (finite negative m e).floor? = some (signed negative (m * 2 ^ e.toNat)) := by
  have hscaled : scaled m 1 (-e) = (m * 2 ^ e.toNat, 1) := by
    rw [scaled_of_nonpos (by omega), Int.neg_neg]
  unfold floor?
  simp only [hscaled]
  rw [Int.natCast_one, Int.fdiv_one]
  rfl

theorem floor?_of_exact (negative : Bool) (n k : Nat) :
    (finite negative (n * 2 ^ k) (-(k : Int))).floor? = some (signed negative n) := by
  have hscaled : scaled (n * 2 ^ k) 1 (- -(k : Int)) = (n * 2 ^ k, 2 ^ k) := by
    unfold scaled
    rw [Int.neg_neg, if_pos (Int.natCast_nonneg k), Int.toNat_natCast, Nat.one_mul]
    rfl
  have hne : ((2 ^ k : Nat) : Int) ≠ 0 := Int.natCast_ne_zero.2 (Nat.pow_pos (by decide)).ne'
  unfold floor?
  simp only [hscaled, Int.natCast_mul]
  cases negative with
  | true =>
    rw [if_pos rfl, ← Int.neg_mul, Int.mul_fdiv_cancel _ hne]
    rfl
  | false =>
    rw [if_neg Bool.false_ne_true, Int.mul_fdiv_cancel _ hne]
    rfl

/-- What a number of the format keeps of a whole number: all of it below 2⁵³, and from there on that it
is so great. -/
structure Approximates (x : Binary64) (n : Int) : Prop where
  exact : n.natAbs < 2 ^ 53 → x.floor? = some n
  above : 2 ^ 53 ≤ n → ∀ k, x.floor? = some k → 2 ^ 53 ≤ k
  below : n ≤ -2 ^ 53 → ∀ k, x.floor? = some k → k ≤ -2 ^ 53

theorem natAbs_signed (negative : Bool) (n : Nat) : (signed negative n).natAbs = n := by
  cases negative with
  | true => exact Int.natAbs_neg _ |>.trans (Int.natAbs_natCast n)
  | false => exact Int.natAbs_natCast n

/-- A great number is approximated by what is as great and has its sign. -/
theorem Approximates.of_great {x : Binary64} {negative : Bool} {n : Nat} (hn : 2 ^ 53 ≤ n)
    (h : ∀ k, x.floor? = some k → ∃ m, 2 ^ 53 ≤ m ∧ k = signed negative m) :
    x.Approximates (signed negative n) := by
  refine ⟨fun hsmall => ?_, fun habove k hk => ?_, fun hbelow k hk => ?_⟩
  · rw [natAbs_signed] at hsmall
    omega
  · obtain ⟨m, hm, rfl⟩ := h k hk
    cases negative <;> simp only [signed_true, signed_false] at * <;> omega
  · obtain ⟨m, hm, rfl⟩ := h k hk
    cases negative <;> simp only [signed_true, signed_false] at * <;> omega

theorem approximates_zero (negative : Bool) : (finite negative 0 minExponent).Approximates 0 := by
  refine ⟨fun _ => ?_, fun habove => ?_, fun hbelow => ?_⟩
  · cases negative <;> decide
  · omega
  · omega

theorem approximates_nearest (negative : Bool) (n : Nat) :
    (nearest negative n 1).Approximates (signed negative n) := by
  rcases Nat.eq_zero_or_pos n with rfl | hn
  · rw [signed_zero]
    exact approximates_zero negative
  · rcases Nat.lt_or_ge n (2 ^ 53) with hsmall | hgreat
    · have hlog : n.log2 < 53 := (Nat.log2_lt hn.ne').2 hsmall
      have hexponent : (n.log2 : Int) - 52 = -((52 - n.log2 : Nat) : Int) := by omega
      have hexact : (nearest negative n 1).floor? = some (signed negative n) := by
        rw [nearest_of_lt_two_pow negative hn hsmall, hexponent]
        exact floor?_of_exact negative n (52 - n.log2)
      refine ⟨fun _ => hexact, fun habove => ?_, fun hbelow => ?_⟩
      · cases negative <;> simp only [signed_true, signed_false] at habove <;> omega
      · cases negative <;> simp only [signed_true, signed_false] at hbelow <;> omega
    · have hlog : 53 ≤ n.log2 := (Nat.le_log2 hn.ne').2 hgreat
      obtain ⟨m, e, hm, -, he, -, heq⟩ := nearest_of_pos negative hn
      refine .of_great hgreat fun k hk => ?_
      rw [heq] at hk
      split at hk
      · cases hk
      · rw [floor?_of_nonneg negative m (by omega)] at hk
        refine ⟨m * 2 ^ e.toNat, ?_, (Option.some.inj hk).symm⟩
        calc 2 ^ 53 = 2 ^ 52 * 2 ^ 1 := by decide
          _ ≤ m * 2 ^ e.toNat := Nat.mul_le_mul hm (Nat.pow_le_pow_right (by decide) (by omega))

end RegistryAuth.Binary64
