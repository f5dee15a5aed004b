import RegistryAuth.Proofs.Binary64.Rounding
import RegistryAuth.Proofs.Json.Numbers
import RegistryAuth.Proofs.Json.Numerals

/-!
# What numbers stand for

A number stands for a whole number of 64 bits if its text is the one way to write it.  Every other number of
the grammar stands for a real, which is finite, or is refused.
-/

namespace RegistryAuth.Json

open Text Text.Utf8

/-! ## 1. Reals -/

theorem absorb_le {n : Nat} (hn : n ≤ maxWord) (ds : Bytes) : (absorb n ds).1 ≤ maxWord := by
  have hgo (count : Nat) : (absorb.go n count ds).1 ≤ maxWord := by
    induction ds generalizing n count with
    | nil => exact hn
    | cons d ds ih =>
      rw [absorb.go]
      by_cases hnext : maxWord < n * 10 + digitValue d
      · rw [if_pos hnext]
        exact hn
      · rw [if_neg hnext]
        exact ih (Nat.le_of_not_lt hnext) (count + 1)
  exact hgo 0

theorem isFinite_nearest_pow : ∀ k < 309, (Binary64.nearest false (Nat.pow 10 k) 1).isFinite = true := by
  decide +kernel

/-- What is divided by a power of ten stays within a bound. -/
theorem within_div_pow {x : Binary64} {bound : Int} (hx : x.Within bound) {k l : Nat} (hk : k ≤ 308)
    (hbound : bound - (3 * k - 52) ≤ l) (hl : l ≤ 1021) :
    (x.div (Binary64.nearest false (Nat.pow 10 k) 1)).Within (l - 50) := by
  have hfinite := isFinite_nearest_pow k (by omega)
  have hpos : 0 < Nat.pow 10 k := Nat.pow_pos (by decide)
  -- Each factor of ten takes at least three binary places away.
  have hlog : 3 * k ≤ (Nat.pow 10 k).log2 := by
    apply (Nat.le_log2 hpos.ne').2
    rw [Nat.pow_mul]
    exact Nat.pow_le_pow_left (by decide) k
  obtain ⟨m, e, hm, -, he, -, heq⟩ := Binary64.nearest_of_pos false hpos
  rw [heq] at hfinite ⊢
  split at hfinite
  · cases hfinite
  · rename_i hexponent
    rw [if_neg hexponent]
    exact hx.div false hm (by omega) hl

theorem within_ofNat {n : Nat} (hn : n ≤ maxWord) : (Binary64.ofNat n).Within 13 := by
  have hlt : n < 1 * 2 ^ 64 := by
    unfold maxWord at hn
    omega
  exact Binary64.within_nearest false Nat.one_pos hlt (by decide)

theorem within_scaleDown {x : Binary64} (e : Int) (hx : x.Within 13) :
    (scaleDown x e).1.Within 13 ∧ (-308 ≤ (scaleDown x e).2 ∨ (scaleDown x e).1.isZero = true) := by
  fun_induction scaleDown x e with
  | case1 x e hfurther ih =>
    -- A name for the exponent keeps the power from being computed.
    generalize hk : (308 : Nat) = k at ih ⊢
    have hdiv := within_div_pow hx (k := k) (l := 0) (by omega) (by omega) (by decide)
    exact ih (hdiv.mono (by decide))
  | case2 x e hend =>
    refine ⟨hx, ?_⟩
    simp only
    by_cases hzero : x.isZero = true
    · exact .inr hzero
    · exact .inl (by simp [hzero] at hend; omega)

/-- A number that is assembled is finite: what would be beyond the format is refused. -/
theorem isFinite_of_assemble {negative : Bool} {significand : Nat} {e : Int} {x : Binary64}
    (hfits : significand ≤ maxWord) (h : assemble negative significand e = .ok x) : x.isFinite = true := by
  have hsign {y : Binary64} (hy : y.isFinite = true) : (if negative then y.neg else y).isFinite = true := by
    split
    · rwa [Binary64.isFinite_neg]
    · exact hy
  unfold assemble at h
  extract_lets sign y z at h
  have hy : y.Within 13 := within_ofNat hfits
  by_cases hzero : y.isZero = true
  · rw [if_pos hzero] at h
    exact Except.ok.inj h ▸ hsign (Binary64.isFinite_of_isZero hzero)
  · rw [if_neg hzero] at h
    split at h
    · cases h
    · split at h
      · split at h
        · rename_i hfinite
          exact Except.ok.inj h ▸ hsign hfinite
        · cases h
      · have hscaled := within_scaleDown e hy
        generalize scaleDown y e = scaled at h hscaled
        obtain ⟨y', e'⟩ := scaled
        obtain ⟨hwithin, hend⟩ := hscaled
        simp only at h hend
        split at h
        · exact Except.ok.inj h ▸ hsign hwithin.isFinite
        · rename_i hrest
          have hbound := hend.resolve_right hrest
          -- The power that is left may be small, so that nothing is taken away: 13 + 52 is 65.
          have hdiv := within_div_pow hwithin (k := (-e').toNat) (l := 65) (by omega) (by omega) (by decide)
          exact Except.ok.inj h ▸ hsign hdiv.isFinite

theorem isFinite_of_readExponent {negative : Bool} {significand : Nat} {start : Int} {bs rest : Bytes}
    {x : Binary64} (hfits : significand ≤ maxWord)
    (h : readExponent negative significand start bs = .ok (x, rest)) : x.isFinite = true := by
  unfold readExponent at h
  grind [bind_eq_ok_iff, isFinite_of_assemble, Binary64.isFinite]

theorem isFinite_of_real {negative : Bool} {significand : Nat} {start : Int} {bs rest : Bytes}
    {x : Binary64} (hfits : significand ≤ maxWord)
    (h : readFraction.real (readExponent negative significand start bs) = .ok (.real x, rest)) :
    x.isFinite = true := by
  obtain ⟨y, hy, heq⟩ := real_eq_ok_iff.1 h
  cases heq
  exact isFinite_of_readExponent hfits hy

theorem isFinite_of_real_assemble {negative : Bool} {significand : Nat} {e : Int} {rest rest' : Bytes}
    {x : Binary64} (hfits : significand ≤ maxWord)
    (h : readFraction.real ((assemble negative significand e).map (·, rest')) = .ok (.real x, rest)) :
    x.isFinite = true := by
  obtain ⟨y, hy, heq⟩ := real_eq_ok_iff.1 h
  cases heq
  obtain ⟨z, hz, heq⟩ := map_eq_ok_iff.1 hy
  cases heq
  exact isFinite_of_assemble hfits hz

theorem isFinite_of_finish {negative : Bool} {significand dropped : Nat} {bs rest : Bytes} {x : Binary64}
    (hfits : significand ≤ maxWord)
    (h : readFraction.finish negative significand dropped bs = .ok (.real x, rest)) :
    x.isFinite = true := by
  unfold readFraction.finish at h
  split at h
  · exact isFinite_of_real_assemble hfits h
  · split at h
    · cases h
    · split at h
      · cases h
        rw [Binary64.isFinite_neg]
        exact (within_ofNat hfits).isFinite
      · cases h

theorem isFinite_of_readFraction {negative : Bool} {significand dropped : Nat} {bs rest : Bytes}
    {x : Binary64} (hfits : significand ≤ maxWord)
    (h : readFraction negative significand dropped bs = .ok (.real x, rest)) : x.isFinite = true := by
  have hfits' (ds : Bytes) : (absorb significand ds).1 ≤ maxWord := absorb_le hfits ds
  unfold readFraction at h
  split at h
  · exact isFinite_of_finish hfits h
  · split at h
    · simp only at h
      split at h
      · cases h
      · split at h
        · split at h
          · exact isFinite_of_real (hfits' _) h
          · exact isFinite_of_real_assemble (hfits' _) h
        · exact isFinite_of_real_assemble (hfits' _) h
    · split at h
      · exact isFinite_of_real hfits h
      · exact isFinite_of_finish hfits h

theorem isFinite_of_readUnsigned {negative : Bool} {bs rest : Bytes} {x : Binary64}
    (h : readUnsigned negative bs = .ok (.real x, rest)) : x.isFinite = true := by
  have hzero : 0 ≤ maxWord := Nat.zero_le _
  unfold readUnsigned at h
  split at h
  · cases h
  · split at h
    · split at h
      · split at h
        · cases h
        · exact isFinite_of_readFraction hzero h
      · exact isFinite_of_readFraction hzero h
    · split at h
      · exact isFinite_of_readFraction (absorb_le hzero _) h
      · cases h

/-- A real is finite: a number beyond the format is refused. -/
theorem isFinite_of_readNumber {bs rest : Bytes} {x : Binary64} (h : readNumber bs = .ok (.real x, rest)) :
    x.isFinite = true := by
  unfold readNumber at h
  split at h
  · split at h
    · exact isFinite_of_readUnsigned h
    · exact isFinite_of_readUnsigned h
  · cases h

/-! ## 2. Whole numbers -/

theorem digitValue_byte {c : Char} (hc : c.isDigit = true) :
    digitValue (byte c) = c.toNat - '0'.toNat := by
  have hascii := (ascii_of_isDigit hc).1
  have hbyte : (byte c).toNat = c.toNat := toNat_ofNat (by omega)
  rw [digitValue, hbyte]
  rfl

/-- Digits are all taken if the number that they write fits 64 bits. -/
theorem absorb_go_encode {cs : List Char} (hcs : ∀ c ∈ cs, c.isDigit = true) {n : Nat}
    (hfits : Nat.ofDigitChars 10 cs n ≤ maxWord) (count : Nat) :
    absorb.go n count (encode cs) = (Nat.ofDigitChars 10 cs n, count + cs.length, []) := by
  induction cs generalizing n count with
  | nil => rfl
  | cons c cs ih =>
    have hc : c.isDigit = true := hcs c List.mem_cons_self
    rw [Nat.ofDigitChars_cons] at hfits ⊢
    have hnext : n * 10 + digitValue (byte c) = 10 * n + (c.toNat - '0'.toNat) := by
      rw [digitValue_byte hc, Nat.mul_comm]
    have hle := le_ofDigitChars cs (10 * n + (c.toNat - '0'.toNat))
    have hrest := ih (fun d hd => hcs d (List.mem_cons_of_mem c hd)) hfits (count + 1)
    rw [encode_cons_of_ascii (ascii_of_isDigit hc).1]
    show absorb.go n count (byte c :: encode cs) = _
    rw [absorb.go]
    simp only [hnext]
    rw [if_neg (by omega), hrest, List.length_cons]
    congr 2
    omega

theorem readUnsigned_toDigits {n : Nat} (hn : n ≤ maxWord) (hrest : Ends rest) (negative : Bool) :
    readUnsigned negative (encode (Nat.toDigits 10 n) ++ rest) =
      readFraction.finish negative n 0 rest := by
  have hdecimal := isDecimal_toDigits n
  have hdigits := isDigits_encode hdecimal
  have hwhole := isWhole_toDigits n
  have htake := takeWhile_digits hdigits fun _ hb => (hrest.head hb).1
  have hdrop := dropWhile_digits hdigits fun _ hb => (hrest.head hb).1
  have habsorb := absorb_go_encode hdecimal.2 (n := 0) (by rwa [Nat.ofDigitChars_ten_toDigits]) 0
  rw [Nat.ofDigitChars_ten_toDigits] at habsorb
  rw [← readFraction_of_ends hrest]
  generalize encode (Nat.toDigits 10 n) = ds at *
  cases hwhole with
  | zero =>
    obtain rfl : 0 = n := congrArg Prod.fst habsorb
    rw [List.singleton_append]
    cases rest with
    | nil => rfl
    | cons b rest =>
      have hb := (hrest.head rfl).1
      simp only [readUnsigned, if_true, hb, if_neg Bool.false_ne_true]
  | @digits d ds _ hd =>
    have hdigit : isDigit d = true := hdigits.2 d List.mem_cons_self
    rw [List.cons_append] at htake hdrop ⊢
    simp only [readUnsigned, if_neg hd, hdigit, if_true, htake, hdrop]
    rw [absorb, habsorb]
    rfl

/-- A whole number of 64 bits, with a sign or without, is read back. -/
theorem readNumber_wholeText {n : Int} (hlow : -0x8000000000000000 ≤ n) (hhigh : n ≤ maxWord)
    (hrest : Ends rest) : readNumber (encode (wholeText n) ++ rest) = .ok (.whole n, rest) := by
  have hfits : n.natAbs ≤ maxWord := by
    unfold maxWord at hhigh ⊢
    omega
  have hread := readUnsigned_toDigits hfits hrest
  unfold wholeText
  by_cases hn : n < 0
  · rw [if_pos hn, encode_cons_of_ascii (by decide), List.cons_append]
    have hsign : ¬ (n.natAbs = 0 ∨ 0x8000000000000000 < n.natAbs) := by omega
    have hvalue : -(n.natAbs : Int) = n := by omega
    show readUnsigned true (encode (Nat.toDigits 10 n.natAbs) ++ rest) = _
    rw [hread, readFraction.finish, if_neg (by decide), if_neg (by decide), if_neg hsign, hvalue]
  · rw [if_neg hn]
    have hvalue : (n.natAbs : Int) = n := by omega
    obtain ⟨d, ds, hds, hd⟩ := (isWhole_toDigits n.natAbs).isDigit_head
    have hminus : d ≠ byte '-' := ne_of_isDigit hd (by decide)
    have hunsigned : readNumber (encode (Nat.toDigits 10 n.natAbs) ++ rest) =
        readUnsigned false (encode (Nat.toDigits 10 n.natAbs) ++ rest) := by
      rw [hds, List.cons_append, readNumber, if_neg hminus]
    rw [hunsigned, hread, readFraction.finish, if_neg (by decide), if_pos (by decide), hvalue]

/-- Digits that are all taken write a number that fits 64 bits. -/
theorem fits_of_absorb_go {cs : List Char} (hcs : ∀ c ∈ cs, c.isDigit = true) {n count : Nat}
    (hn : n ≤ maxWord) (h : (absorb.go n count (encode cs)).2.2 = []) :
    Nat.ofDigitChars 10 cs n ≤ maxWord := by
  induction cs generalizing n count with
  | nil => exact hn
  | cons c cs ih =>
    have hc : c.isDigit = true := hcs c List.mem_cons_self
    have hnext : n * 10 + digitValue (byte c) = 10 * n + (c.toNat - '0'.toNat) := by
      rw [digitValue_byte hc, Nat.mul_comm]
    rw [encode_cons_of_ascii (ascii_of_isDigit hc).1] at h
    change (absorb.go n count (byte c :: encode cs)).2.2 = [] at h
    rw [absorb.go] at h
    simp only [hnext] at h
    rw [Nat.ofDigitChars_cons]
    split at h
    · cases h
    · rename_i hfits
      exact ih (fun d hd => hcs d (List.mem_cons_of_mem c hd)) (Nat.le_of_not_lt hfits) h

theorem exists_digit {b : UInt8} (hb : isDigit b = true) :
    ∃ c : Char, c.isDigit = true ∧ String.utf8EncodeChar c = [b] := by
  have hof : b = UInt8.ofNat b.toNat := UInt8.ofNat_toNat.symm
  simp only [isDigit, Bool.and_eq_true, decide_eq_true_eq, UInt8.le_iff_toNat_le] at hb
  obtain ⟨hlow, hhigh⟩ := hb
  change 48 ≤ b.toNat at hlow
  change b.toNat ≤ 57 at hhigh
  rw [hof]
  generalize b.toNat = n at hlow hhigh
  exact ⟨Char.ofNat n, by interval_cases n <;> rfl, by interval_cases n <;> rfl⟩

theorem exists_decimal {ds : Bytes} (hds : IsDigits ds) : ∃ cs, IsDecimal cs ∧ ds = encode cs := by
  obtain ⟨cs, hcs, rfl⟩ : ∃ cs : List Char, (∀ c ∈ cs, c.isDigit = true) ∧ ds = encode cs := by
    have hall := hds.2
    clear hds
    induction ds with
    | nil => exact ⟨[], fun c hc => absurd hc List.not_mem_nil, rfl⟩
    | cons b ds ih =>
      obtain ⟨c, hc, hb⟩ := exists_digit (hall b List.mem_cons_self)
      obtain ⟨cs, hcs, rfl⟩ := ih fun d hd => hall d (List.mem_cons_of_mem b hd)
      refine ⟨c :: cs, List.forall_mem_cons.2 ⟨hc, hcs⟩, ?_⟩
      rw [encode_cons, hb, List.singleton_append]
  refine ⟨cs, ⟨?_, hcs⟩, rfl⟩
  rintro rfl
  exact hds.1 rfl

theorem real_ne_whole (y : Except Fault (Binary64 × Bytes)) (n : Int) (rest : Bytes) :
    readFraction.real y ≠ .ok (.whole n, rest) := by
  intro h
  obtain ⟨x, -, heq⟩ := real_eq_ok_iff.1 h
  cases heq

theorem of_readFraction_whole {negative : Bool} {significand dropped : Nat} {bs rest : Bytes} {n : Int}
    (h : readFraction negative significand dropped bs = .ok (.whole n, rest)) :
    bs = rest ∧ dropped = 0 ∧ readFraction.finish negative significand 0 bs = .ok (.whole n, rest) := by
  have hfinish (h : readFraction.finish negative significand dropped bs = .ok (.whole n, rest)) :
      bs = rest ∧ dropped = 0 ∧ readFraction.finish negative significand 0 bs = .ok (.whole n, rest) := by
    have hdropped : dropped = 0 := by
      by_contra hne
      unfold readFraction.finish at h
      rw [if_pos hne] at h
      exact real_ne_whole _ _ _ h
    subst hdropped
    exact ⟨eq_of_finish h, rfl, h⟩
  unfold readFraction at h
  split at h
  · exact hfinish h
  · split at h
    · simp only at h
      split at h
      · cases h
      · repeat' split at h
        all_goals exact absurd h (real_ne_whole _ _ _)
    · split at h
      · exact absurd h (real_ne_whole _ _ _)
      · exact hfinish h

theorem of_readUnsigned_whole {negative : Bool} {bs : Bytes} {n : Int}
    (h : readUnsigned negative bs = .ok (.whole n, [])) :
    ∃ k, bs = encode (Nat.toDigits 10 k) ∧ k ≤ maxWord ∧
      readFraction.finish negative k 0 [] = .ok (.whole n, []) := by
  cases bs with
  | nil => cases h
  | cons b bs =>
    unfold readUnsigned at h
    simp only at h
    by_cases hzero : b = byte '0'
    · subst hzero
      rw [if_pos rfl] at h
      have hread : readFraction negative 0 0 bs = .ok (.whole n, []) := by
        cases bs with
        | nil => exact h
        | cons c bs =>
          simp only at h
          split at h
          · cases h
          · exact h
      obtain ⟨rfl, -, hfinish⟩ := of_readFraction_whole hread
      exact ⟨0, rfl, Nat.zero_le _, hfinish⟩
    · rw [if_neg hzero] at h
      split at h
      · rename_i hd
        obtain ⟨hrest, hleft, hfinish⟩ := of_readFraction_whole h
        have hdigits := isDigits_takeWhile hd bs
        have htake : (b :: bs).takeWhile isDigit = b :: bs := by
          have hsplit := List.takeWhile_append_dropWhile (p := isDigit) (l := b :: bs)
          rwa [hrest, List.append_nil] at hsplit
        rw [htake] at hdigits hleft hfinish
        rw [hrest] at hfinish
        obtain ⟨cs, hcs, hencode⟩ := exists_decimal hdigits
        -- Without a zero at the front the digits are the only ones for their number.
        have hhead : cs.head? ≠ some '0' := by
          intro hhead
          obtain ⟨cs, rfl⟩ := List.head?_eq_some_iff.1 hhead
          exact hzero (List.cons.inj hencode).1
        rw [hencode] at hleft hfinish ⊢
        have hfits := fits_of_absorb_go hcs.2 (Nat.zero_le _) (List.length_eq_zero_iff.1 hleft)
        rw [absorb, absorb_go_encode hcs.2 hfits] at hfinish
        refine ⟨_, ?_, hfits, hfinish⟩
        rw [toDigits_ofDigitChars hcs hhead]
      · cases h

/-- A number that is read as a whole one is written in the one way for it. -/
theorem of_readNumber_whole {bs : Bytes} {n : Int} (h : readNumber bs = .ok (.whole n, [])) :
    -0x8000000000000000 ≤ n ∧ n ≤ maxWord ∧ bs = encode (wholeText n) := by
  cases bs with
  | nil => cases h
  | cons b bs =>
    unfold readNumber at h
    simp only at h
    by_cases hminus : b = byte '-'
    · rw [if_pos hminus] at h
      obtain ⟨k, hbs, hfits, hfinish⟩ := of_readUnsigned_whole h
      rw [readFraction.finish, if_neg (by decide), if_neg (by decide)] at hfinish
      split at hfinish
      · cases hfinish
      · rename_i hsign
        cases hfinish
        have habs : (-(k : Int)).natAbs = k := by omega
        refine ⟨by omega, by omega, ?_⟩
        rw [wholeText, if_pos (by omega), habs, encode_cons_of_ascii (by decide), ← hbs, hminus]
        rfl
    · rw [if_neg hminus] at h
      obtain ⟨k, hbs, hfits, hfinish⟩ := of_readUnsigned_whole h
      rw [readFraction.finish, if_neg (by decide), if_pos (by decide)] at hfinish
      cases hfinish
      refine ⟨by omega, by omega, ?_⟩
      rw [wholeText, if_neg (by omega), hbs]
      rfl

/-! ## 3. Numbers that are written out -/

variable {rest : Bytes}

/-- A number that is written out: a whole number of 64 bits in the one way for it, or a real that is
finite, which is what the text alone is read as. -/
inductive IsNumeral : Number → Bytes → Prop
  | whole {n : Int} (hlow : -0x8000000000000000 ≤ n) (hhigh : n ≤ maxWord) :
    IsNumeral (.whole n) (encode (wholeText n))
  | real {x : Binary64} {bs : Bytes} (hnumber : IsNumber bs) (hread : readNumber bs = .ok (.real x, []))
    (hfinite : x.isFinite = true) : IsNumeral (.real x) bs

theorem IsNumeral.isNumber {n : Number} {bs : Bytes} (h : IsNumeral n bs) : IsNumber bs := by
  cases h with
  | whole _ _ => exact Number.isNumber_text_whole _
  | real hnumber _ _ => exact hnumber

theorem IsNumeral.readNumber_append {n : Number} {bs : Bytes} (h : IsNumeral n bs) (hrest : Ends rest) :
    readNumber (bs ++ rest) = .ok (n, rest) := by
  cases h with
  | whole hlow hhigh => exact readNumber_wholeText hlow hhigh hrest
  | real hnumber hread _ =>
    rw [Json.readNumber_append hnumber hrest, hread]
    rfl

/-- What is read is a number that is written out, if it ends where the reader stopped. -/
theorem of_readNumber {n : Number} {bs : Bytes} (h : readNumber bs = .ok (n, rest)) :
    ∃ number, bs = number ++ rest ∧ IsNumber number ∧ (Ends rest → IsNumeral n number) := by
  obtain ⟨number, rfl, hnumber⟩ := of_passNumber (passNumber_of_readNumber h)
  refine ⟨number, rfl, hnumber, fun hrest => ?_⟩
  have hread : readNumber number = .ok (n, []) := by
    -- With nothing after it the number is read to its end.
    have hall := readNumber_append hnumber ends_nil
    rw [List.append_nil] at hall
    rw [readNumber_append hnumber hrest] at h
    obtain ⟨r, hr, heq⟩ := map_eq_ok_iff.1 h
    obtain rfl : r.1 = n := congrArg Prod.fst heq
    rw [hall, hr]
    rfl
  cases n with
  | whole n =>
    obtain ⟨hlow, hhigh, rfl⟩ := of_readNumber_whole hread
    exact .whole hlow hhigh
  | real x => exact .real hnumber hread (isFinite_of_readNumber hread)

end RegistryAuth.Json
