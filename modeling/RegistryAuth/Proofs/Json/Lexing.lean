import RegistryAuth.Proofs.Json.Grammar

/-!
# Lexemes are read

What belongs to the grammar is read off the front of bytes, and what comes after it is left.  A number has
no end of its own, so what comes after it must not go on with it.
-/

namespace RegistryAuth.Json

open Text (Bytes)

/-! ## 1. White space and words -/

theorem skipGap_append {gap : Bytes} (hgap : IsGap gap) (bs : Bytes) :
    skipGap (gap ++ bs) = skipGap bs :=
  List.dropWhile_append_of_pos hgap

theorem skipGap_eq_nil {gap : Bytes} (hgap : IsGap gap) : skipGap gap = [] := by
  have hall := skipGap_append hgap []
  rwa [List.append_nil] at hall

theorem skipGap_cons {b : UInt8} (hb : isGap b = false) (bs : Bytes) : skipGap (b :: bs) = b :: bs :=
  List.dropWhile_cons_of_neg (by simp [hb])

theorem skipGap_before {gap : Bytes} {b : UInt8} (hgap : IsGap gap) (hb : isGap b = false) (bs : Bytes) :
    skipGap (gap ++ b :: bs) = b :: bs :=
  (skipGap_append hgap _).trans (skipGap_cons hb bs)

theorem isGap_quote : isGap (byte '"') = false := by
  decide

theorem isGap_comma : isGap (byte ',') = false := by
  decide

theorem readWord_append (word : List Char) (rest : Bytes) :
    readWord word (word.map byte ++ rest) = .ok rest := by
  induction word with
  | nil => rfl
  | cons c word ih =>
    show readWord (c :: word) (byte c :: (word.map byte ++ rest)) = .ok rest
    rw [readWord, if_pos rfl, ih]

theorem readColon_append {gap : Bytes} (hgap : IsGap gap) (rest : Bytes) :
    readColon (gap ++ byte ':' :: rest) = .ok rest := by
  unfold readColon
  rw [skipGap_before hgap (by decide)]
  rfl

/-! ## 2. Numbers -/

/-- Whether a number that stands before a byte may go on with it. -/
def goesOn (b : UInt8) : Bool :=
  isDigit b || b == byte '.' || isExponentMark b

/-- Whether a number ends where bytes begin. -/
def Ends (rest : Bytes) : Prop :=
  ∀ b, rest.head? = some b → goesOn b = false

theorem goesOn_of_isGap {b : UInt8} (hb : isGap b = true) : goesOn b = false := by
  simp only [isGap, Bool.or_eq_true, beq_iff_eq] at hb
  rcases hb with ((rfl | rfl) | rfl) | rfl <;> decide

theorem ends_gap {gap : Bytes} (hgap : IsGap gap) {b : UInt8} (hb : goesOn b = false) (rest : Bytes) :
    Ends (gap ++ b :: rest) := by
  intro c hc
  cases gap with
  | nil =>
    cases hc
    exact hb
  | cons g gap =>
    cases hc
    exact goesOn_of_isGap (hgap c List.mem_cons_self)

theorem ne_of_isDigit {b c : UInt8} (hb : isDigit b = true) (hc : isDigit c = false) : b ≠ c := by
  rintro rfl
  exact Bool.noConfusion (hb.symm.trans hc)

theorem ne_of_startsNumber {b c : UInt8} (hb : startsNumber b = true) (hc : startsNumber c = false) :
    b ≠ c := by
  rintro rfl
  exact Bool.noConfusion (hb.symm.trans hc)

theorem isGap_of_startsNumber {b : UInt8} (hb : startsNumber b = true) : isGap b = false := by
  have hne {c : UInt8} (hc : startsNumber c = false) : b ≠ c := ne_of_startsNumber hb hc
  simp only [isGap, Bool.or_eq_false_iff, beq_eq_false_iff_ne]
  exact ⟨⟨⟨hne (by decide), hne (by decide)⟩, hne (by decide)⟩, hne (by decide)⟩

variable {rest : Bytes}

theorem Ends.head (h : Ends rest) {b : UInt8} (hb : rest.head? = some b) :
    isDigit b = false ∧ b ≠ byte '.' ∧ isExponentMark b = false := by
  have hgoes := h b hb
  simp only [goesOn, Bool.or_eq_false_iff, beq_eq_false_iff_ne] at hgoes
  exact ⟨hgoes.1.1, hgoes.1.2, hgoes.2⟩

/-- A run of digits is taken as a whole. -/
theorem dropWhile_digits {ds : Bytes} (hds : IsDigits ds)
    (hrest : ∀ b, rest.head? = some b → isDigit b = false) : (ds ++ rest).dropWhile isDigit = rest := by
  rw [List.dropWhile_append_of_pos hds.2]
  cases rest with
  | nil => rfl
  | cons b rest => exact List.dropWhile_cons_of_neg (by simp [hrest b rfl])

theorem passExponent_append {sign ds : Bytes} (hsign : IsSign sign) (hds : IsDigits ds)
    (hrest : Ends rest) : passExponent (sign ++ (ds ++ rest)) = .ok rest := by
  have hdrop := dropWhile_digits hds fun _ hb => (hrest.head hb).1
  cases ds with
  | nil => exact absurd rfl hds.1
  | cons d ds =>
    have hd : isDigit d = true := hds.2 d List.mem_cons_self
    have hnone : ¬ (d = byte '-' ∨ d = byte '+') :=
      not_or.2 ⟨ne_of_isDigit hd (by decide), ne_of_isDigit hd (by decide)⟩
    rw [List.cons_append] at hdrop ⊢
    rcases hsign with rfl | rfl | rfl
    · simp only [passExponent, List.nil_append, if_neg hnone, hd, if_true, hdrop]
    · simp only [passExponent, List.singleton_append, true_or, if_true, hd, hdrop]
    · simp only [passExponent, List.singleton_append, or_true, if_true, hd, hdrop]

/-- Neither digits nor a point go on where an exponent may stand. -/
theorem head_exponent {exponent : Bytes} (he : IsExponent exponent) (hrest : Ends rest) {b : UInt8}
    (hb : (exponent ++ rest).head? = some b) : isDigit b = false ∧ b ≠ byte '.' := by
  cases he with
  | none => exact ⟨(hrest.head hb).1, (hrest.head hb).2.1⟩
  | @mark m sign ds hm _ _ =>
    obtain rfl : m = b := Option.some.inj hb
    simp only [isExponentMark, Bool.or_eq_true, beq_iff_eq] at hm
    rcases hm with rfl | rfl <;> decide

theorem passFraction_exponent {exponent : Bytes} (he : IsExponent exponent) (hrest : Ends rest) :
    passFraction (exponent ++ rest) = .ok rest := by
  have hhead : ∀ b, (exponent ++ rest).head? = some b → b ≠ byte '.' :=
    fun _ hb => (head_exponent he hrest hb).2
  cases he with
  | none =>
    cases rest with
    | nil => rfl
    | cons b rest =>
      have hmark := (hrest.head rfl).2.2
      simp only [passFraction, List.nil_append, if_neg (hhead b rfl), hmark, if_neg Bool.false_ne_true]
  | @mark m sign ds hm hsign hds =>
    have hpass := passExponent_append hsign hds hrest
    simp only [passFraction, List.cons_append, List.append_assoc, if_neg (hhead m rfl), hm, if_true,
      hpass]

theorem passFraction_point {ds after : Bytes} (hds : IsDigits ds)
    (hafter : ∀ b, after.head? = some b → isDigit b = false ∧ b ≠ byte '.') :
    passFraction (byte '.' :: (ds ++ after)) = passFraction after := by
  have hdrop := dropWhile_digits hds fun b hb => (hafter b hb).1
  cases ds with
  | nil => exact absurd rfl hds.1
  | cons d ds =>
    have hd : isDigit d = true := hds.2 d List.mem_cons_self
    rw [List.cons_append] at hdrop ⊢
    cases after with
    | nil => simp only [passFraction, if_true, hd, hdrop]
    | cons c after =>
      have hc := (hafter c rfl).2
      simp only [passFraction, if_true, hd, hdrop, if_neg hc]

theorem passFraction_append {fraction exponent : Bytes} (hf : IsFraction fraction)
    (he : IsExponent exponent) (hrest : Ends rest) :
    passFraction (fraction ++ (exponent ++ rest)) = .ok rest := by
  have hexponent := passFraction_exponent he hrest
  cases hf with
  | none => exact hexponent
  | point hds => exact (passFraction_point hds fun _ => head_exponent he hrest).trans hexponent

/-- No digit comes after the whole part of a number. -/
theorem isDigit_after {fraction exponent : Bytes} (hf : IsFraction fraction) (he : IsExponent exponent)
    (hrest : Ends rest) {b : UInt8} (hb : (fraction ++ (exponent ++ rest)).head? = some b) :
    isDigit b = false := by
  cases hf with
  | none => exact (head_exponent he hrest hb).1
  | point _ =>
    cases hb
    decide

theorem passNumber_unsigned {whole fraction exponent : Bytes} (hw : IsWhole whole)
    (hf : IsFraction fraction) (he : IsExponent exponent) (hrest : Ends rest) :
    passNumber (whole ++ (fraction ++ (exponent ++ rest))) = .ok rest := by
  have hpass := passFraction_append hf he hrest
  have hdigit : ∀ b, (fraction ++ (exponent ++ rest)).head? = some b → isDigit b = false :=
    fun _ => isDigit_after hf he hrest
  cases hw with
  | zero =>
    cases hafter : fraction ++ (exponent ++ rest) with
    | nil =>
      rw [hafter] at hpass
      exact hpass
    | cons c after =>
      have hc : isDigit c = false := hdigit c (hafter ▸ rfl)
      rw [hafter] at hpass
      have hne : byte '0' ≠ byte '-' := by decide
      simp only [passNumber, List.singleton_append, if_neg hne, if_true, hc, if_neg Bool.false_ne_true,
        hpass]
  | @digits d ds hds hzero =>
    have hd : isDigit d = true := hds.2 d List.mem_cons_self
    have hminus : d ≠ byte '-' := ne_of_isDigit hd (by decide)
    have hdrop := dropWhile_digits hds hdigit
    simp only [List.cons_append] at hdrop
    simp only [passNumber, List.cons_append, if_neg hminus, if_neg hzero, hd, if_true, hdrop, hpass]

theorem IsWhole.isDigit_head {whole : Bytes} (h : IsWhole whole) :
    ∃ d ds, whole = d :: ds ∧ isDigit d = true := by
  cases h with
  | zero => exact ⟨byte '0', [], rfl, by decide⟩
  | @digits d ds hds _ => exact ⟨d, ds, rfl, hds.2 d List.mem_cons_self⟩

theorem IsNumber.exists_cons {number : Bytes} (h : IsNumber number) :
    ∃ b bs, number = b :: bs ∧ startsNumber b = true := by
  cases h with
  | @parts sign whole fraction exponent hsign hw _ _ =>
    obtain ⟨d, ds, rfl, hd⟩ := hw.isDigit_head
    rcases hsign with rfl | rfl
    · exact ⟨d, _, rfl, by simp [startsNumber, hd]⟩
    · exact ⟨byte '-', _, rfl, rfl⟩

theorem passNumber_append {number : Bytes} (h : IsNumber number) (hrest : Ends rest) :
    passNumber (number ++ rest) = .ok rest := by
  cases h with
  | @parts sign whole fraction exponent hsign hw hf he =>
    have hpass := passNumber_unsigned hw hf he hrest
    simp only [List.append_assoc]
    rcases hsign with rfl | rfl
    · exact hpass
    · obtain ⟨d, ds, rfl, hd⟩ := hw.isDigit_head
      have hminus : (d :: ds ++ (fraction ++ (exponent ++ rest))).head? ≠ some (byte '-') :=
        fun heq => ne_of_isDigit hd (by decide) (Option.some.inj heq)
      exact (passNumber_minus hminus).trans hpass

/-! ## 3. Strings -/

theorem exists_four {ds : Bytes} (h : ds.length = 4) : ∃ a b c d, ds = [a, b, c, d] := by
  match ds, h with
  | [a, b, c, d], _ => exact ⟨a, b, c, d, rfl⟩

theorem passString_append {raw : Bytes} (h : IsPassed raw) (rest : Bytes) :
    passString (raw ++ byte '"' :: rest) = .ok rest := by
  unfold passString
  induction h with
  | nil => rfl
  | plain hb _ ih =>
    simp only [List.cons_append, passString.go, if_neg hb.1, if_neg hb.2.1, if_neg hb.2.2, ih]
  | @short b c raw hc _ ih =>
    have hu : b ≠ byte 'u' := by
      rintro rfl
      cases hc
    have hquote : byte '\\' ≠ byte '"' := by decide
    simp only [List.cons_append, passString.go, if_neg hquote, if_true, if_neg hu, hc, Option.isSome_some, ih]
  | @unit ds raw n hlen hn _ ih =>
    obtain ⟨a, b, c, d, rfl⟩ := exists_four hlen
    have hquote : byte '\\' ≠ byte '"' := by decide
    have hunit : hexUnit? [d, c, b, a] = some n := hn
    simp only [List.cons_append, List.nil_append, passString.go, if_neg hquote, if_true, hunit,
      List.length_cons, List.length_nil, Option.isSome_some, ih]
    rfl

theorem go_unit {ds : Bytes} {high : Option Nat} {n : Nat} {state : StringState} {out : Bytes}
    (hlen : ds.length = 4) (hn : hexUnit? ds.reverse = some n) (htake : takeUnit high n = .ok (state, out))
    (acc rest : Bytes) :
    readStringBytes.go (.unit high []) acc (ds ++ rest) = readStringBytes.go state (out ++ acc) rest := by
  obtain ⟨a, b, c, d, rfl⟩ := exists_four hlen
  have hunit : hexUnit? [d, c, b, a] = some n := hn
  show readStringBytes.go (.unit high [c, b, a]) acc (d :: rest) = _
  rw [readStringBytes.go]
  simp only [List.length_cons, List.length_nil, if_neg (Nat.lt_irrefl 3), hunit, htake]

theorem readStringBytes_append {raw out : Bytes} (h : Writes raw out) (acc rest : Bytes) :
    readStringBytes.go .plain acc (raw ++ byte '"' :: rest) = .ok (acc.reverse ++ out, rest) := by
  have escaped (bs acc : Bytes) :
      readStringBytes.go .plain acc (byte '\\' :: bs) = readStringBytes.go .escape acc bs := rfl
  induction h generalizing acc with
  | nil => simp [readStringBytes.go]
  | @plain b raw out hb _ ih =>
    simp only [List.cons_append, readStringBytes.go, if_neg hb.1, if_neg hb.2.1, if_neg hb.2.2,
      ih (b :: acc), List.reverse_cons, List.append_assoc, List.nil_append]
  | @short b c raw out hc _ ih =>
    have hu : b ≠ byte 'u' := by
      rintro rfl
      cases hc
    simp only [List.cons_append, escaped, readStringBytes.go, if_neg hu, hc, ih (c :: acc),
      List.reverse_cons, List.append_assoc, List.nil_append]
  | @unit ds raw out n hlen hn hscalar _ ih =>
    have htake : takeUnit none n = .ok (.plain, reversedBytes n) := by
      simp only [takeUnit, if_neg (show ¬ (0xDC00 ≤ n ∧ n ≤ 0xDFFF) by omega),
        if_neg (show ¬ (0xD800 ≤ n ∧ n ≤ 0xDBFF) by omega)]
    simp only [List.cons_append, List.append_assoc, escaped]
    rw [readStringBytes.go, if_pos rfl, go_unit hlen hn htake, ih, List.reverse_append, reversedBytes,
      List.reverse_reverse, List.append_assoc]
  | @pair ds ds' raw out n n' hlen hn hhigh hlen' hn' hlow _ ih =>
    have htake : takeUnit none n = .ok (.half n, []) := by
      simp only [takeUnit, if_neg (show ¬ (0xDC00 ≤ n ∧ n ≤ 0xDFFF) by omega), if_pos hhigh]
    have htake' : takeUnit (some n) n' = .ok (.plain,
        reversedBytes (0x10000 + (n - 0xD800) * 0x400 + (n' - 0xDC00))) := by
      simp only [takeUnit, if_pos hlow]
    simp only [List.cons_append, List.append_assoc, escaped]
    rw [readStringBytes.go, if_pos rfl, go_unit hlen hn htake, readStringBytes.go, if_pos rfl,
      readStringBytes.go, if_pos rfl, go_unit hlen' hn' htake', ih, List.nil_append, List.reverse_append,
      reversedBytes, List.reverse_reverse, List.append_assoc]

/-- A text that is written out is read as it is. -/
theorem readString_append {t : String} {text : Bytes} (h : IsText t text) :
    ∃ left, text = byte '"' :: left ∧ ∀ rest, readString (left ++ rest) = .ok (t, rest) := by
  obtain ⟨raw, out, rfl, hwrites, hdecode⟩ := h
  refine ⟨raw ++ [byte '"'], rfl, fun rest => ?_⟩
  have hread : readStringBytes (raw ++ byte '"' :: rest) = .ok (out, rest) :=
    readStringBytes_append hwrites [] rest
  rw [List.append_assoc, List.singleton_append, readString, hread]
  simp only [hdecode, String.ofList_toList]

end RegistryAuth.Json
