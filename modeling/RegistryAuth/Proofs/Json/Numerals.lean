import RegistryAuth.Proofs.Json.Grammar
import RegistryAuth.Proofs.Text.Decimals
import RegistryAuth.Proofs.Text.Utf8

/-!
# Numbers as they are written

A number is written in decimal digits, and a real that is finite with a point among them or an exponent
after them.  What is written belongs to the grammar of numbers: no zero stands before other digits, and a
digit stands on either side of a point.
-/

namespace RegistryAuth

open Text Text.Utf8

/-! ## 1. The shortest decimal -/

namespace Binary64

theorem scaled_pos {num den : Nat} (h : 0 < num) (e : Int) : 0 < (scaled num den e).1 := by
  unfold scaled
  split
  · exact h
  · exact Nat.mul_pos h (Nat.pow_pos (by decide))

/-- Zero is not in the interval of a number that is not zero. -/
theorem pos_of_holds {m n : Nat} {e k : Int} (hm : 0 < m) (h : (interval m e).holds n k = true) :
    0 < n := by
  have hlow : 0 < (interval m e).low := by
    unfold interval
    refine Nat.mul_pos ?_ (scaled_pos (by decide) _)
    split <;> omega
  apply Nat.pos_of_ne_zero
  rintro rfl
  have hunit : 0 < (if 0 ≤ k then 1 else Nat.pow 10 (-k).toNat) := by
    split
    · decide
    · exact Nat.pow_pos (by decide)
  have hprod := Nat.mul_pos hlow hunit
  unfold Interval.holds at h
  simp only [Nat.zero_mul, ite_self] at h
  split at h
  · rw [Bool.and_eq_true, decide_eq_true_eq] at h
    omega
  · rw [Bool.and_eq_true, decide_eq_true_eq] at h
    omega

theorem digits_of_atLength? {m count : Nat} {e : Int} {d : Decimal} (hm : 0 < m)
    (h : atLength? (interval m e) count = some d) : 0 < d.digits := by
  unfold atLength? at h
  extract_lets k num den below r nearer other at h
  by_cases hnearer : (interval m e).holds nearer k = true
  · rw [if_pos hnearer] at h
    cases h
    exact pos_of_holds hm hnearer
  · rw [if_neg hnearer] at h
    by_cases hother : r ≠ 0 ∧ (interval m e).holds other k = true
    · rw [if_pos hother] at h
      cases h
      exact pos_of_holds hm hother.2
    · rw [if_neg hother] at h
      cases h

theorem digits_go_strip (n : Nat) {d : Decimal} (h : 0 < d.digits) : 0 < (Decimal.strip.go n d).digits := by
  induction n generalizing d with
  | zero => exact h
  | succ n ih =>
    unfold Decimal.strip.go
    split
    · apply ih
      show 0 < d.digits / 10
      omega
    · exact h

/-- The decimal of a number that is not zero has a digit, if its length is found. -/
theorem digits_shortest {m : Nat} (hm : 0 < m) (e : Int) :
    0 < (shortest m e).digits ∨ (shortest m e).exponent = 0 := by
  unfold shortest
  simp only
  split
  · rename_i d hfind
    obtain ⟨n, -, hn⟩ := List.exists_of_findSome?_eq_some hfind
    exact .inl (digits_go_strip 18 (digits_of_atLength? hm hn))
  · exact .inr rfl

end Binary64

/-! ## 2. Numbers of the grammar -/

namespace Json

theorem ascii_of_isDigit {c : Char} (h : c.isDigit = true) :
    c.toNat < 0x80 ∧ isDigit (byte c) = true ∧ (c ≠ '0' → byte c ≠ byte '0') := by
  have hbounds := bounds_of_isDigit h
  have hbyte : (byte c).toNat = c.toNat := toNat_ofNat (by omega)
  refine ⟨by omega, ?_, fun hne heq => hne ?_⟩
  · simp only [isDigit, Bool.and_eq_true, decide_eq_true_eq, UInt8.le_iff_toNat_le, hbyte]
    exact hbounds
  · have hzero : c.toNat = '0'.toNat := hbyte.symm.trans (congrArg UInt8.toNat heq)
    exact Char.ext (UInt32.toNat_inj.1 hzero)

theorem isDigits_encode {ds : List Char} (h : IsDecimal ds) : IsDigits (encode ds) := by
  obtain ⟨hne, hall⟩ := h
  constructor
  · obtain ⟨c, cs, rfl⟩ := List.exists_cons_of_ne_nil hne
    rw [encode_cons_of_ascii (ascii_of_isDigit (hall c List.mem_cons_self)).1]
    exact List.cons_ne_nil _ _
  · intro b hb
    obtain ⟨c, hc, hb⟩ := List.mem_flatMap.1 hb
    obtain ⟨hascii, hdigit, -⟩ := ascii_of_isDigit (hall c hc)
    rw [utf8EncodeChar_of_ascii hascii, List.mem_singleton] at hb
    exact hb ▸ hdigit

theorem isWhole_encode {ds : List Char} (h : IsDecimal ds) (hhead : ds.head? ≠ some '0') :
    IsWhole (encode ds) := by
  have hdigits := isDigits_encode h
  obtain ⟨c, cs, rfl⟩ := List.exists_cons_of_ne_nil h.1
  obtain ⟨hascii, -, hzero⟩ := ascii_of_isDigit (h.2 c List.mem_cons_self)
  rw [encode_cons_of_ascii hascii] at hdigits ⊢
  exact .digits hdigits (hzero fun heq => hhead (congrArg some heq))

theorem isFraction_encode {ds : List Char} (h : IsDecimal ds) : IsFraction (encode ('.' :: ds)) :=
  .point (isDigits_encode h)

theorem isExponent_encode {sign : Char} (hsign : sign = '-' ∨ sign = '+') {ds : List Char}
    (h : IsDecimal ds) : IsExponent (encode ('e' :: sign :: ds)) := by
  have hdigits := isDigits_encode h
  have hmark {s : Bytes} (hs : IsSign s) : IsExponent (byte 'e' :: (s ++ encode ds)) := .mark rfl hs hdigits
  rcases hsign with rfl | rfl
  · have hminus : IsSign [byte '-'] := .inr (.inl rfl)
    exact hmark hminus
  · have hplus : IsSign [byte '+'] := .inr (.inr rfl)
    exact hmark hplus

/-- A number without a sign. -/
def IsUnsigned (bs : Bytes) : Prop :=
  ∃ whole fraction exponent, bs = whole ++ (fraction ++ exponent) ∧ IsWhole whole ∧
    IsFraction fraction ∧ IsExponent exponent

theorem IsUnsigned.isNumber {bs : Bytes} (h : IsUnsigned bs) : IsNumber bs := by
  obtain ⟨whole, fraction, exponent, rfl, hw, hf, he⟩ := h
  exact .parts (.inl rfl) hw hf he

theorem IsUnsigned.isNumber_minus {bs : Bytes} (h : IsUnsigned bs) : IsNumber (byte '-' :: bs) := by
  obtain ⟨whole, fraction, exponent, rfl, hw, hf, he⟩ := h
  exact .parts (.inr rfl) hw hf he

theorem isUnsigned_point {ds ds' : List Char} (hw : IsWhole (encode ds)) (h' : IsDecimal ds') :
    IsUnsigned (encode (ds ++ '.' :: ds')) := by
  refine ⟨_, _, [], ?_, hw, isFraction_encode h', .none⟩
  rw [encode_append, List.append_nil]

/-- The digits of a number, as its whole part. -/
theorem isWhole_toDigits (n : Nat) : IsWhole (encode (Nat.toDigits 10 n)) := by
  by_cases hn : n = 0
  · rw [hn]
    exact .zero
  · exact isWhole_encode (isDecimal_toDigits n) (head?_toDigits (Nat.pos_of_ne_zero hn))

/-- By where the point stands: behind zeros, among the digits, before them, or after the first of them with
an exponent. -/
theorem isUnsigned_write (l : Binary64.Layout) {d : Binary64.Decimal}
    (hd : 0 < d.digits ∨ d.exponent = 0) : IsUnsigned (encode (l.write d)) := by
  have hds := isDecimal_toDigits d.digits
  have hwhole := isWhole_toDigits d.digits
  have hhead : 0 < d.digits → (Nat.toDigits 10 d.digits).head? ≠ some '0' := head?_toDigits
  have hzero : d.digits = 0 → Nat.toDigits 10 d.digits = ['0'] := fun h => by rw [h]; rfl
  unfold Binary64.Layout.write
  simp only
  generalize Nat.toDigits 10 d.digits = ds at *
  have hlength : 0 < ds.length := List.length_pos_iff.2 hds.1
  generalize htop : (ds.length : Int) + d.exponent - 1 = top
  by_cases hplain : l.leastPlain ≤ top ∧ top ≤ l.greatestPlain
  · rw [if_pos hplain]
    by_cases hexponent : 0 ≤ d.exponent
    · rw [if_pos hexponent]
      apply isUnsigned_point _ isDecimal_zero
      rcases hd with hd | hd
      · apply isWhole_encode (hds.append_zeros _)
        rw [List.head?_append_of_ne_nil _ hds.1]
        exact hhead hd
      · rw [hd]
        exact (List.append_nil ds).symm ▸ hwhole
    · rw [if_neg hexponent]
      have hpos : 0 < d.digits := hd.resolve_right (by omega)
      by_cases hunits : 0 ≤ top
      · rw [if_pos hunits]
        have htake : ds.take (top.toNat + 1) ≠ [] := by simp [hds.1]
        have hdrop : 0 < (ds.drop (top.toNat + 1)).length := by
          rw [List.length_drop]
          omega
        have htakeHead : (ds.take (top.toNat + 1)).head? = ds.head? := by
          rw [List.head?_take, if_neg (Nat.succ_ne_zero _)]
        apply isUnsigned_point
        · apply isWhole_encode (hds.of_subset htake (List.take_subset _ _))
          rw [htakeHead]
          exact hhead hpos
        · exact hds.of_subset (List.ne_nil_of_length_pos hdrop) (List.drop_subset _ _)
      · rw [if_neg hunits]
        have hunit : IsWhole (encode ['0']) := .zero
        exact isUnsigned_point hunit (hds.zeros_append _)
  · rw [if_neg hplain]
    have hsign : (if 0 ≤ top then '+' else '-') = '-' ∨ (if 0 ≤ top then '+' else '-') = '+' := by
      by_cases hunits : 0 ≤ top
      · exact .inr (if_pos hunits)
      · exact .inl (if_neg hunits)
    have hexponent := isExponent_encode hsign
      ((isDecimal_toDigits top.natAbs).zeros_append (l.exponentDigits - (Nat.toDigits 10 top.natAbs).length))
    rw [encode_append]
    -- One digit stands alone; of more of them the first stands before a point.
    rcases ds with _ | ⟨c, _ | ⟨c', cs⟩⟩
    · exact absurd rfl hds.1
    · exact ⟨encode [c], [], _, rfl, hwhole, .none, hexponent⟩
    · have hpos : 0 < d.digits := by
        apply Nat.pos_of_ne_zero
        intro heq
        cases hzero heq
      have hfirst : IsDecimal [c] := hds.of_subset (by simp) (by simp)
      have hothers : IsDecimal (c' :: cs) := hds.of_subset (by simp) (by simp)
      refine ⟨encode [c], encode ('.' :: c' :: cs), _, ?_, isWhole_encode hfirst (hhead hpos),
        isFraction_encode hothers, hexponent⟩
      rw [← List.append_assoc, ← encode_append [c] ('.' :: c' :: cs)]
      rfl

theorem Number.isNumber_text_whole (n : Int) : IsNumber (encode (Number.whole n).text) := by
  have hunsigned : IsUnsigned (encode (Nat.toDigits 10 n.natAbs)) :=
    ⟨_, [], [], (List.append_nil _).symm, isWhole_toDigits n.natAbs, .none, .none⟩
  show IsNumber (encode (if n < 0 then '-' :: Nat.toDigits 10 n.natAbs else Nat.toDigits 10 n.natAbs))
  by_cases hn : n < 0
  · rw [if_pos hn]
    exact hunsigned.isNumber_minus
  · rw [if_neg hn]
    exact hunsigned.isNumber

theorem Number.isNumber_text_finite (negative : Bool) (m : Nat) (e : Int) :
    IsNumber (encode (Number.real (.finite negative m e)).text) := by
  have hbody : IsUnsigned (encode
      (if m = 0 then ['0', '.', '0'] else realLayout.write (Binary64.shortest m e))) := by
    by_cases hm : m = 0
    · rw [if_pos hm]
      have hunit : IsWhole (encode ['0']) := .zero
      exact isUnsigned_point hunit isDecimal_zero
    · rw [if_neg hm]
      exact isUnsigned_write realLayout (Binary64.digits_shortest (Nat.pos_of_ne_zero hm) e)
  cases negative with
  | true => exact hbody.isNumber_minus
  | false => exact hbody.isNumber

end Json

end RegistryAuth
