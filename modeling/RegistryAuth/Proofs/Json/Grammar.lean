import Mathlib.Data.List.TakeWhile
import RegistryAuth.Json.Parser

/-!
# The grammar of JSON

What a reader has taken from the front of bytes belongs to the grammar (RFC 8259), which is written down
here over the bytes themselves.  A string that is read has to write well-formed UTF-8.  Of a string that
is passed over only the escapes and the control characters are looked at, so the grammar is wider there.
-/

namespace RegistryAuth.Json

open Text (Bytes)

/-! ## 1. White space and words -/

/-- White space. -/
def IsGap (bs : Bytes) : Prop :=
  ∀ b ∈ bs, isGap b = true

theorem IsGap.nil : IsGap [] :=
  fun _ hb => absurd hb List.not_mem_nil

theorem IsGap.append {bs bs' : Bytes} (h : IsGap bs) (h' : IsGap bs') : IsGap (bs ++ bs') := by
  intro b hb
  rcases List.mem_append.1 hb with hb | hb
  · exact h b hb
  · exact h' b hb

/-- What is skipped before something else is white space. -/
theorem exists_gap (bs : Bytes) : ∃ gap, IsGap gap ∧ bs = gap ++ skipGap bs :=
  ⟨bs.takeWhile isGap, fun _ hb => List.mem_takeWhile_imp hb, List.takeWhile_append_dropWhile.symm⟩

theorem eq_append_of_readWord {word : List Char} {bs rest : Bytes} (h : readWord word bs = .ok rest) :
    bs = word.map byte ++ rest := by
  induction word generalizing bs with
  | nil =>
    cases h
    rfl
  | cons c word ih =>
    cases bs with
    | nil => cases h
    | cons b bs =>
      unfold readWord at h
      split at h
      · rename_i hb
        rw [hb, ih h]
        rfl
      · cases h

/-! ## 2. Numbers -/

def IsDigits (bs : Bytes) : Prop :=
  bs ≠ [] ∧ ∀ b ∈ bs, isDigit b = true

/-- The whole part of a number: no zero stands before other digits. -/
inductive IsWhole : Bytes → Prop
  | zero : IsWhole [byte '0']
  | digits {d : UInt8} {ds : Bytes} (h : IsDigits (d :: ds)) (hd : d ≠ byte '0') : IsWhole (d :: ds)

inductive IsFraction : Bytes → Prop
  | none : IsFraction []
  | point {ds : Bytes} (h : IsDigits ds) : IsFraction (byte '.' :: ds)

/-- The sign of an exponent, or none. -/
def IsSign (bs : Bytes) : Prop :=
  bs = [] ∨ bs = [byte '-'] ∨ bs = [byte '+']

inductive IsExponent : Bytes → Prop
  | none : IsExponent []
  | mark {m : UInt8} {sign ds : Bytes} (hm : isExponentMark m = true) (hs : IsSign sign)
    (h : IsDigits ds) : IsExponent (m :: (sign ++ ds))

inductive IsNumber : Bytes → Prop
  | parts {sign whole fraction exponent : Bytes} (hs : sign = [] ∨ sign = [byte '-'])
    (hw : IsWhole whole) (hf : IsFraction fraction) (he : IsExponent exponent) :
    IsNumber (sign ++ (whole ++ (fraction ++ exponent)))

/-- The digits at the front of bytes of which the first is one. -/
theorem isDigits_takeWhile {d : UInt8} (hd : isDigit d = true) (bs : Bytes) :
    IsDigits ((d :: bs).takeWhile isDigit) := by
  refine ⟨?_, fun _ hb => List.mem_takeWhile_imp hb⟩
  rw [List.takeWhile_cons_of_pos hd]
  exact List.cons_ne_nil _ _

theorem of_passExponent {bs rest : Bytes} (h : passExponent bs = .ok rest) :
    ∃ sign ds, bs = sign ++ (ds ++ rest) ∧ IsSign sign ∧ IsDigits ds := by
  -- The sign is taken off first, if there is one.
  have signed (sign : Bytes) {d : UInt8} {left : Bytes} (hbs : bs = sign ++ d :: left)
      (hsign : IsSign sign) (hd : isDigit d = true) (hrest : (d :: left).dropWhile isDigit = rest) :
      ∃ sign ds, bs = sign ++ (ds ++ rest) ∧ IsSign sign ∧ IsDigits ds :=
    ⟨sign, _, by rw [hbs, ← hrest, List.takeWhile_append_dropWhile], hsign, isDigits_takeWhile hd left⟩
  cases bs with
  | nil => cases h
  | cons b bs =>
    unfold passExponent at h
    simp only at h
    by_cases hb : b = byte '-' ∨ b = byte '+'
    · rw [if_pos hb] at h
      cases bs with
      | nil => cases h
      | cons d left =>
        simp only at h
        split at h
        · rename_i hd
          exact signed [b] rfl (.inr (hb.imp (congrArg ([·])) (congrArg ([·])))) hd (Except.ok.inj h)
        · cases h
    · rw [if_neg hb] at h
      simp only at h
      split at h
      · rename_i hd
        exact signed [] rfl (.inl rfl) hd (Except.ok.inj h)
      · cases h

theorem isExponent_of_passExponent {m : UInt8} {bs rest : Bytes} (hm : isExponentMark m = true)
    (h : passExponent bs = .ok rest) : ∃ exponent, m :: bs = exponent ++ rest ∧ IsExponent exponent := by
  obtain ⟨sign, ds, rfl, hsign, hds⟩ := of_passExponent h
  exact ⟨m :: (sign ++ ds), by simp, .mark hm hsign hds⟩

theorem of_passFraction {bs rest : Bytes} (h : passFraction bs = .ok rest) :
    ∃ fraction exponent, bs = fraction ++ (exponent ++ rest) ∧ IsFraction fraction ∧
      IsExponent exponent := by
  cases bs with
  | nil =>
    cases h
    exact ⟨[], [], rfl, .none, .none⟩
  | cons b bs =>
    unfold passFraction at h
    simp only at h
    by_cases hb : b = byte '.'
    · subst hb
      rw [if_pos rfl] at h
      cases bs with
      | nil => cases h
      | cons d bs =>
        simp only at h
        split at h
        · rename_i hd
          have hsplit : d :: bs = (d :: bs).takeWhile isDigit ++ (d :: bs).dropWhile isDigit :=
            List.takeWhile_append_dropWhile.symm
          have hpoint : IsFraction (byte '.' :: (d :: bs).takeWhile isDigit) :=
            .point (isDigits_takeWhile hd bs)
          -- After the digits comes an exponent, something else or nothing.
          cases hleft : (d :: bs).dropWhile isDigit with
          | nil =>
            rw [hleft] at h hsplit
            cases h
            exact ⟨_, [], congrArg (byte '.' :: ·) hsplit, hpoint, .none⟩
          | cons c after =>
            rw [hleft] at h hsplit
            simp only at h
            split at h
            · rename_i hc
              obtain ⟨exponent, hafter, hexponent⟩ := isExponent_of_passExponent hc h
              rw [hafter] at hsplit
              exact ⟨_, exponent, congrArg (byte '.' :: ·) hsplit, hpoint, hexponent⟩
            · cases h
              exact ⟨_, [], congrArg (byte '.' :: ·) hsplit, hpoint, .none⟩
        · cases h
    · rw [if_neg hb] at h
      split at h
      · rename_i hm
        obtain ⟨exponent, hbs, hexponent⟩ := isExponent_of_passExponent hm h
        exact ⟨[], exponent, hbs, .none, hexponent⟩
      · cases h
        exact ⟨[], [], rfl, .none, .none⟩

/-- A sign is taken off a number, though not two of them. -/
theorem passNumber_minus {bs : Bytes} (h : bs.head? ≠ some (byte '-')) :
    passNumber (byte '-' :: bs) = passNumber bs := by
  cases bs with
  | nil => rfl
  | cons b bs =>
    have hb : b ≠ byte '-' := fun heq => h (congrArg some heq)
    unfold passNumber
    simp only [if_true, if_neg hb]

/-- The whole part of a number without a sign. -/
theorem of_passNumber_unsigned {bs rest : Bytes} (hbs : bs.head? ≠ some (byte '-'))
    (h : passNumber bs = .ok rest) :
    ∃ whole after, bs = whole ++ after ∧ IsWhole whole ∧ passFraction after = .ok rest := by
  cases bs with
  | nil => cases h
  | cons b bs =>
    have hminus : b ≠ byte '-' := fun heq => hbs (congrArg some heq)
    unfold passNumber at h
    simp only [if_neg hminus] at h
    by_cases hb : b = byte '0'
    · rw [if_pos hb] at h
      subst hb
      cases bs with
      | nil => exact ⟨[byte '0'], [], rfl, .zero, h⟩
      | cons c left =>
        simp only at h
        split at h
        · cases h
        · exact ⟨[byte '0'], c :: left, rfl, .zero, h⟩
    · rw [if_neg hb] at h
      split at h
      · rename_i hd
        refine ⟨_, _, List.takeWhile_append_dropWhile.symm, ?_, h⟩
        have hdigits := isDigits_takeWhile hd bs
        rw [List.takeWhile_cons_of_pos hd] at hdigits ⊢
        exact .digits hdigits hb
      · cases h

/-- What is passed over as a number is one. -/
theorem of_passNumber {bs rest : Bytes} (h : passNumber bs = .ok rest) :
    ∃ number, bs = number ++ rest ∧ IsNumber number := by
  obtain ⟨sign, left, rfl, hsign, hleft, h⟩ : ∃ sign left, bs = sign ++ left ∧
      (sign = [] ∨ sign = [byte '-']) ∧ left.head? ≠ some (byte '-') ∧ passNumber left = .ok rest := by
    by_cases hbs : bs.head? = some (byte '-')
    · obtain ⟨left, rfl⟩ := List.head?_eq_some_iff.1 hbs
      by_cases hleft : left.head? = some (byte '-')
      · obtain ⟨left, rfl⟩ := List.head?_eq_some_iff.1 hleft
        cases h
      · exact ⟨[byte '-'], left, rfl, .inr rfl, hleft, (passNumber_minus hleft).symm.trans h⟩
    · exact ⟨[], bs, rfl, .inl rfl, hbs, h⟩
  obtain ⟨whole, after, rfl, hwhole, hafter⟩ := of_passNumber_unsigned hleft h
  obtain ⟨fraction, exponent, rfl, hfraction, hexponent⟩ := of_passFraction hafter
  exact ⟨sign ++ (whole ++ (fraction ++ exponent)), by simp, .parts hsign hwhole hfraction hexponent⟩

/-! ## 3. Strings -/

/-- Whether a byte stands for itself in a string. -/
def IsPlain (b : UInt8) : Prop :=
  b ≠ byte '"' ∧ b ≠ byte '\\' ∧ ¬ b < 0x20

/-- What stands between the quotes of a string, and the bytes that it writes. -/
inductive Writes : Bytes → Bytes → Prop
  | nil : Writes [] []
  | plain {b : UInt8} {raw out : Bytes} (hb : IsPlain b) (h : Writes raw out) :
    Writes (b :: raw) (b :: out)
  | short {b c : UInt8} {raw out : Bytes} (hc : shortEscape? b = some c) (h : Writes raw out) :
    Writes (byte '\\' :: b :: raw) (c :: out)
  | unit {ds raw out : Bytes} {n : Nat} (hlen : ds.length = 4) (hn : hexUnit? ds.reverse = some n)
    (hscalar : n < 0xD800 ∨ 0xDFFF < n) (h : Writes raw out) :
    Writes (byte '\\' :: byte 'u' :: (ds ++ raw)) (String.utf8EncodeChar (Char.ofNat n) ++ out)
  -- Two halves of a surrogate pair write one character.
  | pair {ds ds' raw out : Bytes} {n n' : Nat} (hlen : ds.length = 4) (hn : hexUnit? ds.reverse = some n)
    (hhigh : 0xD800 ≤ n ∧ n ≤ 0xDBFF) (hlen' : ds'.length = 4) (hn' : hexUnit? ds'.reverse = some n')
    (hlow : 0xDC00 ≤ n' ∧ n' ≤ 0xDFFF) (h : Writes raw out) :
    Writes (byte '\\' :: byte 'u' :: (ds ++ byte '\\' :: byte 'u' :: (ds' ++ raw)))
      (String.utf8EncodeChar (Char.ofNat (0x10000 + (n - 0xD800) * 0x400 + (n' - 0xDC00))) ++ out)

/-- What stands between the quotes of a string that nobody reads: any bytes but control characters, with
escapes that may write halves of a pair alone. -/
inductive IsPassed : Bytes → Prop
  | nil : IsPassed []
  | plain {b : UInt8} {raw : Bytes} (hb : IsPlain b) (h : IsPassed raw) : IsPassed (b :: raw)
  | short {b c : UInt8} {raw : Bytes} (hc : shortEscape? b = some c) (h : IsPassed raw) :
    IsPassed (byte '\\' :: b :: raw)
  | unit {ds raw : Bytes} {n : Nat} (hlen : ds.length = 4) (hn : hexUnit? ds.reverse = some n)
    (h : IsPassed raw) : IsPassed (byte '\\' :: byte 'u' :: (ds ++ raw))

/-- What is read of a string could as well be passed over. -/
theorem Writes.isPassed {raw out : Bytes} (h : Writes raw out) : IsPassed raw := by
  induction h with
  | nil => exact .nil
  | plain hb _ ih => exact .plain hb ih
  | short hc _ ih => exact .short hc ih
  | unit hlen hn _ _ ih => exact .unit hlen hn ih
  | pair hlen hn _ hlen' hn' _ _ ih => exact .unit hlen hn (.unit hlen' hn' ih)

/-- The first half of a pair, as it was taken, or nothing. -/
inductive HalfTaken : Option Nat → Bytes → Prop
  | none : HalfTaken none []
  | some {ds : Bytes} {n : Nat} (hlen : ds.length = 4) (hn : hexUnit? ds = some n)
    (hhigh : 0xD800 ≤ n ∧ n ≤ 0xDBFF) : HalfTaken (some n) (byte '\\' :: byte 'u' :: ds.reverse)

/-- What a reader has taken of a string since it was last between characters. -/
inductive Opened : StringState → Bytes → Prop
  | plain : Opened .plain []
  | escape : Opened .escape [byte '\\']
  | unit {high : Option Nat} {lead ds : Bytes} (hhigh : HalfTaken high lead) (hlen : ds.length ≤ 3) :
    Opened (.unit high ds) (lead ++ byte '\\' :: byte 'u' :: ds.reverse)
  | half {n : Nat} {lead : Bytes} (hhigh : HalfTaken (some n) lead) : Opened (.half n) lead
  | halfEscape {n : Nat} {lead : Bytes} (hhigh : HalfTaken (some n) lead) :
    Opened (.halfEscape n) (lead ++ [byte '\\'])

/-- Four digits are the first half of a pair, or they write a character, with the first half if there is
one. -/
theorem of_takeUnit {high : Option Nat} {lead ds out : Bytes} {n : Nat} {state : StringState}
    (hhigh : HalfTaken high lead) (hlen : ds.length = 4) (hn : hexUnit? ds = some n)
    (h : takeUnit high n = .ok (state, out)) :
    (state = .half n ∧ out = [] ∧
        HalfTaken (some n) (lead ++ byte '\\' :: byte 'u' :: ds.reverse)) ∨
      state = .plain ∧ ∀ raw written, Writes raw written →
        Writes (lead ++ byte '\\' :: byte 'u' :: (ds.reverse ++ raw)) (out.reverse ++ written) := by
  have hlen' : ds.reverse.length = 4 := ds.length_reverse.trans hlen
  have hn' : hexUnit? ds.reverse.reverse = some n := ds.reverse_reverse.symm ▸ hn
  unfold takeUnit at h
  cases hhigh with
  | none =>
    by_cases hlow : 0xDC00 ≤ n ∧ n ≤ 0xDFFF
    · simp [if_pos hlow] at h
    · by_cases hhalf : 0xD800 ≤ n ∧ n ≤ 0xDBFF
      · simp only [if_neg hlow, if_pos hhalf] at h
        cases h
        exact .inl ⟨rfl, rfl, .some hlen hn hhalf⟩
      · simp only [if_neg hlow, if_neg hhalf] at h
        cases h
        refine .inr ⟨rfl, fun raw written hwrites => ?_⟩
        rw [reversedBytes, List.reverse_reverse]
        exact .unit hlen' hn' (by omega) hwrites
  | @some ds₀ n₀ hlen₀ hn₀ hhigh₀ =>
    by_cases hlow : 0xDC00 ≤ n ∧ n ≤ 0xDFFF
    · simp only [if_pos hlow] at h
      cases h
      refine .inr ⟨rfl, fun raw written hwrites => ?_⟩
      rw [reversedBytes, List.reverse_reverse]
      exact .pair (ds₀.length_reverse.trans hlen₀) (ds₀.reverse_reverse.symm ▸ hn₀) hhigh₀ hlen' hn'
        hlow hwrites
    · simp [if_neg hlow] at h

/-- From wherever a reader stands, what it has taken and what it takes up to the closing quote write what
it returns. -/
theorem of_readStringBytes_go {state : StringState} {acc bs content rest lead : Bytes}
    (hopened : Opened state lead) (h : readStringBytes.go state acc bs = .ok (content, rest)) :
    ∃ raw out, bs = raw ++ byte '"' :: rest ∧ Writes (lead ++ raw) out ∧
      content = acc.reverse ++ out := by
  -- By induction on the bytes.  What one of them adds to the lead is taken off what is still to come.
  induction bs generalizing state acc lead with
  | nil => cases h
  | cons b bs ih =>
    have further {state' : StringState} {lead' : Bytes} (hopened' : Opened state' lead')
        (hlead : lead' = lead ++ [b]) (h' : readStringBytes.go state' acc bs = .ok (content, rest)) :
        ∃ raw out, b :: bs = raw ++ byte '"' :: rest ∧ Writes (lead ++ raw) out ∧
          content = acc.reverse ++ out := by
      obtain ⟨raw, out, rfl, hwrites, hcontent⟩ := ih hopened' h'
      rw [hlead, List.append_assoc] at hwrites
      exact ⟨b :: raw, out, rfl, hwrites, hcontent⟩
    have written {w : Bytes}
        (hw : ∀ raw out, Writes raw out → Writes (lead ++ b :: raw) (w.reverse ++ out))
        (h' : readStringBytes.go .plain (w ++ acc) bs = .ok (content, rest)) :
        ∃ raw out, b :: bs = raw ++ byte '"' :: rest ∧ Writes (lead ++ raw) out ∧
          content = acc.reverse ++ out := by
      obtain ⟨raw, out, rfl, hwrites, rfl⟩ := ih .plain h'
      exact ⟨b :: raw, w.reverse ++ out, rfl, hw raw out hwrites, by simp⟩
    unfold readStringBytes.go at h
    cases hopened with
    | plain =>
      simp only at h
      split at h
      · rename_i hb
        cases h
        exact ⟨[], [], by rw [hb]; rfl, .nil, (List.append_nil _).symm⟩
      · rename_i hquote
        split at h
        · rename_i hb
          exact further .escape (by rw [hb]; rfl) h
        · rename_i hslash
          split at h
          · cases h
          · rename_i hcontrol
            exact written (w := [b]) (fun _ _ => .plain ⟨hquote, hslash, hcontrol⟩) h
    | escape =>
      simp only at h
      split at h
      · rename_i hb
        exact further (.unit .none (Nat.zero_le _)) (by rw [hb]; rfl) h
      · split at h
        · rename_i c hc
          exact written (w := [c]) (fun _ _ => .short hc) h
        · cases h
    | @unit high lead ds hhigh hlen =>
      simp only at h
      split at h
      · rename_i hshort
        have hlen' : (b :: ds).length ≤ 3 := hshort
        exact further (.unit hhigh hlen') (by simp) h
      · rename_i hlong
        have hfour : (b :: ds).length = 4 := by
          rw [List.length_cons]
          omega
        split at h
        · cases h
        · rename_i n hn
          split at h
          · rename_i state' out htake
            rcases of_takeUnit hhigh hfour hn htake with ⟨rfl, rfl, hhalf⟩ | ⟨rfl, hwrites⟩
            · exact further (.half hhalf) (by simp) h
            · exact written (fun raw out hraw => by simpa using hwrites raw out hraw) h
          · cases h
    | half hhigh =>
      simp only at h
      split at h
      · rename_i hb
        exact further (.halfEscape hhigh) (by rw [hb]) h
      · cases h
    | halfEscape hhigh =>
      simp only at h
      split at h
      · rename_i hb
        exact further (.unit hhigh (Nat.zero_le _)) (by rw [hb]; simp) h
      · cases h

/-- A string that is written out between its quotes, and the text that it writes. -/
def IsText (t : String) (bs : Bytes) : Prop :=
  ∃ raw out, bs = byte '"' :: (raw ++ [byte '"']) ∧ Writes raw out ∧
    Text.Utf8.decode? out = some t.toList

theorem of_readString {t : String} {bs rest : Bytes} (h : readString bs = .ok (t, rest)) :
    ∃ text, byte '"' :: bs = text ++ rest ∧ IsText t text := by
  unfold readString at h
  split at h
  · rename_i content rest' hread
    split at h
    · rename_i cs hdecode
      cases h
      obtain ⟨raw, out, rfl, hwrites, hcontent⟩ := of_readStringBytes_go .plain hread
      have hcontent : content = out := hcontent
      refine ⟨byte '"' :: (raw ++ [byte '"']), by simp, raw, out, rfl, hwrites, ?_⟩
      rw [← hcontent, String.toList_ofList]
      exact hdecode
    · cases h
  · cases h

/-- Whether a string reader that takes no pairs can stand there. -/
def StringState.isSingle : StringState → Bool
  | .plain | .escape | .unit none _ => true
  | _ => false

/-- What a string is passed over by, from wherever its reader stands. -/
theorem of_passString_go {state : StringState} {bs rest lead : Bytes} (hopened : Opened state lead)
    (hsingle : state.isSingle = true) (h : passString.go state bs = .ok rest) :
    ∃ raw, bs = raw ++ byte '"' :: rest ∧ IsPassed (lead ++ raw) := by
  induction bs generalizing state lead with
  | nil => cases h
  | cons b bs ih =>
    have further {state' : StringState} {lead' : Bytes} (hopened' : Opened state' lead')
        (hsingle' : state'.isSingle = true) (hlead : lead' = lead ++ [b])
        (h' : passString.go state' bs = .ok rest) :
        ∃ raw, b :: bs = raw ++ byte '"' :: rest ∧ IsPassed (lead ++ raw) := by
      obtain ⟨raw, rfl, hraw⟩ := ih hopened' hsingle' h'
      rw [hlead, List.append_assoc] at hraw
      exact ⟨b :: raw, rfl, hraw⟩
    have passed (hw : ∀ raw, IsPassed raw → IsPassed (lead ++ b :: raw))
        (h' : passString.go .plain bs = .ok rest) :
        ∃ raw, b :: bs = raw ++ byte '"' :: rest ∧ IsPassed (lead ++ raw) := by
      obtain ⟨raw, rfl, hraw⟩ := ih .plain rfl h'
      exact ⟨b :: raw, rfl, hw raw hraw⟩
    unfold passString.go at h
    cases hopened with
    | plain =>
      simp only at h
      split at h
      · rename_i hb
        cases h
        exact ⟨[], by rw [hb]; rfl, .nil⟩
      · rename_i hquote
        split at h
        · rename_i hb
          exact further .escape rfl (by rw [hb]; rfl) h
        · rename_i hslash
          split at h
          · cases h
          · rename_i hcontrol
            exact passed (fun _ => .plain ⟨hquote, hslash, hcontrol⟩) h
    | escape =>
      simp only at h
      split at h
      · rename_i hb
        exact further (.unit .none (Nat.zero_le _)) rfl (by rw [hb]; rfl) h
      · split at h
        · rename_i hc
          obtain ⟨c, hc⟩ := Option.isSome_iff_exists.1 hc
          exact passed (fun _ => .short hc) h
        · cases h
    | @unit high lead ds hhigh hlen =>
      cases hhigh with
      | some _ _ _ => cases hsingle
      | none =>
        simp only at h
        split at h
        · rename_i hshort
          have hlen' : (b :: ds).length ≤ 3 := hshort
          exact further (.unit .none hlen') rfl (by simp) h
        · rename_i hlong
          split at h
          · rename_i hn
            obtain ⟨n, hn⟩ := Option.isSome_iff_exists.1 hn
            have hfour : (b :: ds).reverse.length = 4 := by
              rw [List.length_reverse, List.length_cons]
              omega
            refine passed (fun raw hraw => ?_) h
            have hunit : IsPassed (byte '\\' :: byte 'u' :: ((b :: ds).reverse ++ raw)) :=
              .unit hfour ((b :: ds).reverse_reverse.symm ▸ hn) hraw
            simpa using hunit
          · cases h
    | half _ => cases hsingle
    | halfEscape _ => cases hsingle

theorem of_passString {bs rest : Bytes} (h : passString bs = .ok rest) :
    ∃ raw, bs = raw ++ byte '"' :: rest ∧ IsPassed raw :=
  of_passString_go .plain rfl h

end RegistryAuth.Json
