import Mathlib.Data.List.Infix
import RegistryAuth.Proofs.Text.Utf8

/-!
# Lossy decoding

Bytes are cut into characters and into ill-formed pieces, each as long as it could still have become a
character: `Cuts` says so by the encodings of characters alone, and `cuts_iff` that nothing else is cut.
What is well formed is kept wherever it stands: `pieces_around`.
-/

namespace RegistryAuth.Text.Utf8

/-! ## 1. The bytes of a character -/

theorem toNat_ofNat_of_scalar {v : Nat} (h : v < 0xD800 ∨ 0xDFFF < v ∧ v < 0x110000) :
    (Char.ofNat v).val.toNat = v := by
  rw [Char.ofNat, dif_pos h]
  rfl

/-- What a leading byte and its promise say of each other. -/
theorem of_lead? {b : Nat} {l : Lead} (h : lead? b = some l) :
    0x80 ≤ l.lo ∧ l.hi ≤ 0xBF ∧
      (l.follow = 1 ∧ 0xC2 ≤ b ∧ b < 0xE0 ∨
        l.follow = 2 ∧ 0xE0 ≤ b ∧ b < 0xF0 ∧ (b = 0xE0 → l.lo = 0xA0) ∧ (b = 0xED → l.hi = 0x9F) ∨
        l.follow = 3 ∧ 0xF0 ≤ b ∧ b ≤ 0xF4 ∧ (b = 0xF0 → l.lo = 0x90) ∧ (b = 0xF4 → l.hi = 0x8F)) := by
  unfold lead? at h
  repeat' split at h
  all_goals cases h
  all_goals refine ⟨by decide, by decide, ?_⟩
  all_goals simp
  all_goals omega

section Encodings

variable {b₀ b₁ b₂ b₃ : UInt8} {l : Lead}

theorem isTail_iff {b : UInt8} : isTail b = true ↔ 0x80 ≤ b.toNat ∧ b.toNat ≤ 0xBF := by
  simp [isTail]

theorem eq_ofNat {b : UInt8} {n : Nat} (h : n = b.toNat) : UInt8.ofNat n = b := by
  rw [h, UInt8.ofNat_toNat]

theorem encode_char₂ (hl : lead? b₀.toNat = some l) (h₁ : l.lo ≤ b₁.toNat ∧ b₁.toNat ≤ l.hi)
    (hfollow : l.follow = 1) : String.utf8EncodeChar (char₂ b₀ b₁) = [b₀, b₁] := by
  have hlead := of_lead? hl
  obtain ⟨v, hv⟩ : ∃ v, (b₀.toNat - 0xC0) * 64 + (b₁.toNat - 0x80) = v := ⟨_, rfl⟩
  have hval := toNat_ofNat_of_scalar (v := v) (by omega)
  unfold char₂ String.utf8EncodeChar
  simp only [hv, hval]
  rw [if_neg (by omega), if_pos (by omega), eq_ofNat (b := b₀) (by omega), eq_ofNat (b := b₁) (by omega)]

theorem encode_char₃ (hl : lead? b₀.toNat = some l) (h₁ : l.lo ≤ b₁.toNat ∧ b₁.toNat ≤ l.hi)
    (hfollow : l.follow = 2) (h₂ : isTail b₂ = true) :
    String.utf8EncodeChar (char₃ b₀ b₁ b₂) = [b₀, b₁, b₂] := by
  have hlead := of_lead? hl
  rw [isTail_iff] at h₂
  obtain ⟨v, hv⟩ : ∃ v, ((b₀.toNat - 0xE0) * 64 + (b₁.toNat - 0x80)) * 64 + (b₂.toNat - 0x80) = v := ⟨_, rfl⟩
  have hval := toNat_ofNat_of_scalar (v := v) (by omega)
  unfold char₃ String.utf8EncodeChar
  simp only [hv, hval]
  rw [if_neg (by omega), if_neg (by omega), if_pos (by omega), eq_ofNat (b := b₀) (by omega),
    eq_ofNat (b := b₁) (by omega), eq_ofNat (b := b₂) (by omega)]

theorem encode_char₄ (hl : lead? b₀.toNat = some l) (h₁ : l.lo ≤ b₁.toNat ∧ b₁.toNat ≤ l.hi)
    (hfollow : l.follow = 3) (h₂ : isTail b₂ = true) (h₃ : isTail b₃ = true) :
    String.utf8EncodeChar (char₄ b₀ b₁ b₂ b₃) = [b₀, b₁, b₂, b₃] := by
  have hlead := of_lead? hl
  rw [isTail_iff] at h₂ h₃
  obtain ⟨v, hv⟩ : ∃ v, (((b₀.toNat - 0xF0) * 64 + (b₁.toNat - 0x80)) * 64 + (b₂.toNat - 0x80)) * 64 +
      (b₃.toNat - 0x80) = v := ⟨_, rfl⟩
  have hval := toNat_ofNat_of_scalar (v := v) (by omega)
  unfold char₄ String.utf8EncodeChar
  simp only [hv, hval]
  rw [if_neg (by omega), if_neg (by omega), if_neg (by omega), eq_ofNat (b := b₀) (by omega),
    eq_ofNat (b := b₁) (by omega), eq_ofNat (b := b₂) (by omega), eq_ofNat (b := b₃) (by omega)]

end Encodings

/-- No character begins with a byte that continues one. -/
theorem exists_of_encodeChar (c : Char) :
    ∃ b bs, String.utf8EncodeChar c = b :: bs ∧ isTail b = false := by
  have hof {n : Nat} (hn : n < 0x80 ∨ 0xC0 ≤ n ∧ n < 0x100) : isTail (UInt8.ofNat n) = false := by
    rw [← Bool.not_eq_true, isTail_iff, toNat_ofNat (by omega)]
    omega
  have hc := c.valid
  unfold String.utf8EncodeChar
  simp only
  repeat' split
  · exact ⟨_, _, rfl, hof (by omega)⟩
  · exact ⟨_, _, rfl, hof (by omega)⟩
  · exact ⟨_, _, rfl, hof (by omega)⟩
  · exact ⟨_, _, rfl, hof (by omega)⟩

theorem isTail_of_mem_tail {c : Char} {b : UInt8} (hb : b ∈ (String.utf8EncodeChar c).tail) :
    isTail b = true := by
  unfold String.utf8EncodeChar at hb
  simp only at hb
  repeat' split at hb
  all_goals simp only [List.tail_cons, List.mem_cons, List.not_mem_nil, or_false] at hb
  · rw [hb]
    apply isTail_ofNat
    omega
  · rcases hb with rfl | rfl
    all_goals
      apply isTail_ofNat
      omega
  · rcases hb with rfl | rfl | rfl
    all_goals
      apply isTail_ofNat
      omega

/-! ## 2. The piece that is cut off first -/

/-- What may be seen behind a piece that was cut off as ill-formed before some bytes: their first byte, a byte
that continues no character, or none. -/
def Follows (rest rest' : Bytes) : Prop :=
  rest'.head? = rest.head? ∨ ∀ b, rest'.head? = some b → isTail b = false

/-- Bytes that the cuts leave as ill-formed before others, whatever follows the first byte of these. -/
structure Refused (bad rest : Bytes) : Prop where
  nonempty : bad ≠ []
  begins : bad.length = 1 ∨ ∃ c, bad <+: String.utf8EncodeChar c
  cut : ∀ acc rest', Follows rest rest' →
    pieces.go acc (bad ++ rest') = pieces.go (.illFormed bad :: acc) rest'

section Refusals

variable {b₀ b₁ b₂ : UInt8} {l : Lead} {rest rest' : Bytes}

/-- A byte that is refused behind some bytes is refused wherever it follows. -/
theorem Follows.refused {p : UInt8 → Prop} (hp : ∀ b, isTail b = false → ¬ p b)
    (hnext : ∀ b, rest.head? = some b → ¬ p b) (h : Follows rest rest') :
    ∀ b, rest'.head? = some b → ¬ p b := by
  rcases h with hsame | hother
  · rwa [hsame]
  · exact fun b hb => hp b (hother b hb)

theorem refused_first (h₀ : ¬ b₀.toNat < 0x80) (hl : lead? b₀.toNat = none) (rest : Bytes) :
    Refused [b₀] rest where
  nonempty := List.cons_ne_nil _ _
  begins := .inl rfl
  cut acc rest' _ := by rw [List.singleton_append, pieces.go, if_neg h₀, hl]

theorem refused_second (h₀ : ¬ b₀.toNat < 0x80) (hl : lead? b₀.toNat = some l)
    (hnext : ∀ b, rest.head? = some b → ¬ (l.lo ≤ b.toNat ∧ b.toNat ≤ l.hi)) : Refused [b₀] rest where
  nonempty := List.cons_ne_nil _ _
  begins := .inl rfl
  cut acc rest' hfollows := by
    have hlead := of_lead? hl
    have hrefused := hfollows.refused (p := fun b => l.lo ≤ b.toNat ∧ b.toNat ≤ l.hi)
      (fun b hb => by rw [← Bool.not_eq_true, isTail_iff] at hb; omega) hnext
    rw [List.singleton_append, pieces.go, if_neg h₀, hl]
    cases rest' with
    | nil => rw [pieces.go]
    | cons b₁ r₁ => exact if_neg (hrefused b₁ rfl)

/-- Two bytes can still become a character, as they would with the least bytes behind them. -/
theorem begins_second (hl : lead? b₀.toNat = some l) (h₁ : l.lo ≤ b₁.toNat ∧ b₁.toNat ≤ l.hi)
    (hfollow : l.follow ≠ 1) : ∃ c, [b₀, b₁] <+: String.utf8EncodeChar c := by
  have hlead := of_lead? hl
  have htail : isTail 0x80 = true := rfl
  by_cases htwo : l.follow = 2
  · exact ⟨char₃ b₀ b₁ 0x80, by rw [encode_char₃ hl h₁ htwo htail]; exact ⟨[0x80], rfl⟩⟩
  · exact ⟨char₄ b₀ b₁ 0x80 0x80, by
      rw [encode_char₄ hl h₁ (by omega) htail htail]; exact ⟨[0x80, 0x80], rfl⟩⟩

theorem refused_third (h₀ : ¬ b₀.toNat < 0x80) (hl : lead? b₀.toNat = some l)
    (h₁ : l.lo ≤ b₁.toNat ∧ b₁.toNat ≤ l.hi) (hfollow : l.follow ≠ 1)
    (hnext : ∀ b, rest.head? = some b → ¬ isTail b = true) : Refused [b₀, b₁] rest where
  nonempty := List.cons_ne_nil _ _
  begins := .inr (begins_second hl h₁ hfollow)
  cut acc rest' hfollows := by
    have hrefused := hfollows.refused (p := fun b => isTail b = true)
      (fun b hb => Bool.eq_false_iff.1 hb) hnext
    rw [List.cons_append, List.singleton_append, pieces.go, if_neg h₀, hl]
    simp only
    rw [if_pos h₁, if_neg hfollow]
    cases rest' with
    | nil => rw [pieces.go]
    | cons b₂ r₂ => exact if_neg (hrefused b₂ rfl)

theorem refused_fourth (h₀ : ¬ b₀.toNat < 0x80) (hl : lead? b₀.toNat = some l)
    (h₁ : l.lo ≤ b₁.toNat ∧ b₁.toNat ≤ l.hi) (hone : l.follow ≠ 1) (h₂ : isTail b₂ = true)
    (htwo : l.follow ≠ 2) (hnext : ∀ b, rest.head? = some b → ¬ isTail b = true) :
    Refused [b₀, b₁, b₂] rest where
  nonempty := List.cons_ne_nil _ _
  begins := by
    have hlead := of_lead? hl
    have htail : isTail 0x80 = true := rfl
    refine .inr ⟨char₄ b₀ b₁ b₂ 0x80, ?_⟩
    rw [encode_char₄ hl h₁ (by omega) h₂ htail]
    exact ⟨[0x80], rfl⟩
  cut acc rest' hfollows := by
    have hrefused := hfollows.refused (p := fun b => isTail b = true)
      (fun b hb => Bool.eq_false_iff.1 hb) hnext
    rw [List.cons_append, List.cons_append, List.singleton_append, pieces.go, if_neg h₀, hl]
    simp only
    rw [if_pos h₁, if_neg hone, if_pos h₂, if_neg htwo]
    cases rest' with
    | nil => rw [pieces.go]
    | cons b₃ r₃ => exact if_neg (hrefused b₃ rfl)

end Refusals

/-- A character or a refused piece that stands before other bytes. -/
inductive Front : Bytes → Piece → Bytes → Prop
  | char (c : Char) (rest : Bytes) : Front (String.utf8EncodeChar c ++ rest) (.char c) rest
  | illFormed {bad rest : Bytes} (h : Refused bad rest) : Front (bad ++ rest) (.illFormed bad) rest

/-- By how far the first character can be read. -/
theorem exists_front {bs : Bytes} (h : bs ≠ []) : ∃ p rest, Front bs p rest := by
  have hchar (rest : Bytes) {c : Char} {start : Bytes} (hc : String.utf8EncodeChar c = start) :
      Front (start ++ rest) (.char c) rest := hc ▸ .char c rest
  have hnone {p : UInt8 → Prop} : ∀ b, ([] : Bytes).head? = some b → ¬ p b :=
    fun b hb => nomatch hb
  have hhead {b : UInt8} {r : Bytes} {p : UInt8 → Prop} (hb : ¬ p b) :
      ∀ b', (b :: r).head? = some b' → ¬ p b' := fun b' heq => Option.some.inj heq ▸ hb
  fun_cases pieces.go [] bs with
  | case1 => exact absurd rfl h
  | case2 b₀ r₀ h₀ =>
    have hascii : String.utf8EncodeChar (Char.ofNat b₀.toNat) = [b₀] := by
      have hval := toNat_ofNat_of_scalar (v := b₀.toNat) (by omega)
      rw [utf8EncodeChar_of_ascii (hval.trans_lt h₀)]
      exact congrArg (fun b => [b]) (eq_ofNat hval)
    exact ⟨_, _, hchar r₀ hascii⟩
  | case3 b₀ r₀ h₀ hl => exact ⟨_, _, .illFormed (refused_first h₀ hl r₀)⟩
  | case4 b₀ h₀ l hl => exact ⟨_, _, .illFormed (refused_second h₀ hl hnone)⟩
  | case5 b₀ h₀ l hl b₁ r₁ h₁ hfollow => exact ⟨_, _, hchar r₁ (encode_char₂ hl h₁ hfollow)⟩
  | case6 b₀ h₀ l hl b₁ h₁ hfollow => exact ⟨_, _, .illFormed (refused_third h₀ hl h₁ hfollow hnone)⟩
  | case7 b₀ h₀ l hl b₁ h₁ hone b₂ r₂ h₂ htwo =>
    exact ⟨_, _, hchar r₂ (encode_char₃ hl h₁ htwo h₂)⟩
  | case8 b₀ h₀ l hl b₁ h₁ hone b₂ h₂ htwo =>
    exact ⟨_, _, .illFormed (refused_fourth h₀ hl h₁ hone h₂ htwo hnone)⟩
  | case9 b₀ h₀ l hl b₁ h₁ hone b₂ h₂ htwo b₃ r₃ h₃ =>
    have hlead := of_lead? hl
    exact ⟨_, _, hchar r₃ (encode_char₄ hl h₁ (by omega) h₂ h₃)⟩
  | case10 b₀ h₀ l hl b₁ h₁ hone b₂ h₂ htwo b₃ r₃ h₃ =>
    exact ⟨_, _, .illFormed (refused_fourth h₀ hl h₁ hone h₂ htwo (hhead h₃))⟩
  | case11 b₀ h₀ l hl b₁ h₁ hone b₂ r₂ h₂ =>
    exact ⟨_, _, .illFormed (refused_third h₀ hl h₁ hone (hhead h₂))⟩
  | case12 b₀ h₀ l hl b₁ r₁ h₁ => exact ⟨_, _, .illFormed (refused_second h₀ hl (hhead h₁))⟩

/-! ## 3. One cut after another -/

theorem Front.bytes_append {bs rest : Bytes} {p : Piece} (h : Front bs p rest) : bs = p.bytes ++ rest := by
  cases h <;> rfl

theorem Front.length_lt {bs rest : Bytes} {p : Piece} (h : Front bs p rest) : rest.length < bs.length := by
  have hpos : 0 < p.bytes.length := by
    cases h with
    | char c =>
      obtain ⟨b, tail, hc, -⟩ := exists_of_encodeChar c
      show 0 < (String.utf8EncodeChar c).length
      rw [hc]
      exact Nat.succ_pos _
    | illFormed h => exact List.length_pos_iff.2 h.nonempty
  rw [h.bytes_append, List.length_append]
  omega

/-- The piece in front is cut off also when other bytes follow that begin with a character. -/
theorem Front.go {bs rest : Bytes} {p : Piece} (h : Front bs p rest) (acc : List Piece) {after : Bytes}
    (hafter : ∀ b, after.head? = some b → isTail b = false) :
    pieces.go acc (bs ++ after) = pieces.go (p :: acc) (rest ++ after) := by
  cases h with
  | char c => rw [List.append_assoc, go_encodeChar]
  | illFormed h =>
    rw [List.append_assoc]
    apply h.cut
    cases rest with
    | nil => exact .inr hafter
    | cons b rest => exact .inl rfl

theorem Front.go_self {bs rest : Bytes} {p : Piece} (h : Front bs p rest) (acc : List Piece) :
    pieces.go acc bs = pieces.go (p :: acc) rest := by
  have hnone : ∀ b, ([] : Bytes).head? = some b → isTail b = false := fun b hb => nomatch hb
  have hgo := h.go acc hnone
  rwa [List.append_nil, List.append_nil] at hgo

/-- What was cut before stands before what is cut. -/
theorem go_eq_append (acc : List Piece) (bs : Bytes) : pieces.go acc bs = acc.reverse ++ pieces bs := by
  induction hlength : bs.length using Nat.strong_induction_on generalizing acc bs with
  | _ n ih =>
    by_cases hbs : bs = []
    · rw [hbs, pieces, pieces.go, pieces.go, List.reverse_nil, List.append_nil]
    · obtain ⟨p, rest, hfront⟩ := exists_front hbs
      have hlt := hlength ▸ hfront.length_lt
      have hpieces : pieces bs = [p] ++ pieces rest := (hfront.go_self []).trans (ih _ hlt [p] rest rfl)
      rw [hfront.go_self, ih _ hlt (p :: acc) rest rfl, hpieces, List.reverse_cons, List.append_assoc]

theorem Front.pieces_eq {bs rest : Bytes} {p : Piece} (h : Front bs p rest) :
    pieces bs = p :: pieces rest := by
  rw [pieces, h.go_self, go_eq_append]
  rfl

theorem encodeChar_append_inj {c d : Char} {bs ds : Bytes}
    (h : String.utf8EncodeChar c ++ bs = String.utf8EncodeChar d ++ ds) : c = d ∧ bs = ds := by
  have hpieces := congrArg pieces h
  rw [(Front.char c bs).pieces_eq, (Front.char d ds).pieces_eq] at hpieces
  obtain rfl : c = d := by
    injection (List.cons.inj hpieces).1
  exact ⟨rfl, List.append_cancel_left h⟩

/-- Before bytes that begin with a character the cuts are what they are without them. -/
theorem pieces_append (bs : Bytes) {after : Bytes} (hafter : ∀ b, after.head? = some b → isTail b = false) :
    pieces (bs ++ after) = pieces bs ++ pieces after := by
  induction hlength : bs.length using Nat.strong_induction_on generalizing bs with
  | _ n ih =>
    by_cases hbs : bs = []
    · rw [hbs]
      rfl
    · obtain ⟨p, rest, hfront⟩ := exists_front hbs
      have hlt := hlength ▸ hfront.length_lt
      rw [hfront.pieces_eq, pieces, hfront.go [] hafter, go_eq_append, ih _ hlt rest rfl]
      rfl

theorem pieces_encode_append (cs : List Char) (after : Bytes) :
    pieces (encode cs ++ after) = cs.map .char ++ pieces after := by
  induction cs with
  | nil => rfl
  | cons c cs ih =>
    have hfront : Front (encode (c :: cs) ++ after) (.char c) (encode cs ++ after) := by
      rw [encode_cons, List.append_assoc]
      exact .char c _
    rw [hfront.pieces_eq, ih]
    rfl

/-- Well-formed text is read as itself wherever it stands, and what is around it as if it stood alone. -/
theorem pieces_around {cs : List Char} (hcs : cs ≠ []) (before after : Bytes) :
    pieces (before ++ (encode cs ++ after)) = pieces before ++ (cs.map .char ++ pieces after) := by
  rw [pieces_append before, pieces_encode_append]
  intro b hb
  obtain ⟨c, cs, rfl⟩ := List.exists_cons_of_ne_nil hcs
  obtain ⟨b', tail, hc, htail⟩ := exists_of_encodeChar c
  rw [encode_cons, hc] at hb
  exact Option.some.inj hb ▸ htail

theorem decodeLossy_around {cs : List Char} (hcs : cs ≠ []) (before after : Bytes) :
    decodeLossy (before ++ (encode cs ++ after)) = decodeLossy before ++ (cs ++ decodeLossy after) := by
  unfold decodeLossy
  rw [pieces_around hcs, List.map_append, List.map_append, List.map_map]
  exact congrArg (fun ds => _ ++ (ds ++ _)) (List.map_id cs)

theorem decodeLossy_concat {c : Char} (hc : c.toNat < 0x80) (bs : Bytes) :
    decodeLossy (bs ++ [UInt8.ofNat c.toNat]) = decodeLossy bs ++ [c] := by
  have h := decodeLossy_around (List.cons_ne_nil c []) bs []
  rwa [encode_cons_of_ascii hc] at h

/-! ## 4. What is cut off -/

/-- As much of the bytes as can still become a character, where none can be read: one byte at least, and no
more than begin a character. -/
structure IsMaximalSubpart (bad rest : Bytes) : Prop where
  nonempty : bad ≠ []
  unreadable : ∀ c, ¬ String.utf8EncodeChar c <+: bad ++ rest
  begins : bad.length = 1 ∨ ∃ c, bad <+: String.utf8EncodeChar c
  longest : ∀ longer, longer <+: bad ++ rest → bad.length < longer.length →
    ∀ c, ¬ longer <+: String.utf8EncodeChar c

/-- Bytes cut into characters and ill-formed pieces. -/
inductive Cuts : Bytes → List Piece → Prop
  | nil : Cuts [] []
  | char {rest : Bytes} {ps : List Piece} (c : Char) (h : Cuts rest ps) :
    Cuts (String.utf8EncodeChar c ++ rest) (.char c :: ps)
  | illFormed {bad rest : Bytes} {ps : List Piece} (hbad : IsMaximalSubpart bad rest) (h : Cuts rest ps) :
    Cuts (bad ++ rest) (.illFormed bad :: ps)

/-- Where a piece was refused no character is read, since a character would have been cut off. -/
theorem Refused.unreadable {bad rest : Bytes} (h : Refused bad rest) (c : Char) :
    ¬ String.utf8EncodeChar c <+: bad ++ rest := by
  rintro ⟨after, hafter⟩
  have hchar := (Front.char c after).pieces_eq
  rw [hafter, (Front.illFormed h).pieces_eq] at hchar
  cases hchar

theorem Refused.isMaximalSubpart {bad rest : Bytes} (h : Refused bad rest) : IsMaximalSubpart bad rest where
  nonempty := h.nonempty
  unreadable := h.unreadable
  begins := h.begins
  longest := by
    rintro longer ⟨after, hafter⟩ hlength c ⟨tail, htail⟩
    obtain ⟨more, hlonger, hrest⟩ : ∃ more, longer = bad ++ more ∧ rest = more ++ after := by
      rcases List.append_eq_append_iff.1 hafter with ⟨more, hbad, -⟩ | ⟨more, hlonger, hrest⟩
      · rw [hbad, List.length_append] at hlength
        omega
      · exact ⟨more, hlonger, hrest⟩
    have hmore : more ≠ [] := by
      rintro rfl
      rw [hlonger, List.append_nil] at hlength
      exact Nat.lt_irrefl _ hlength
    -- The character would begin with the refused bytes, before the byte at which they were refused.
    obtain ⟨b, more, rfl⟩ := List.exists_cons_of_ne_nil hmore
    have hsame : Follows rest (b :: more ++ tail) := .inl (by rw [hrest]; rfl)
    have hcut := h.cut [] _ hsame
    rw [← List.append_assoc, ← hlonger, htail, ← List.append_nil (String.utf8EncodeChar c), go_encodeChar,
      go_eq_append, go_eq_append] at hcut
    cases hcut

/-- There is one such piece at most. -/
theorem IsMaximalSubpart.eq {bad bad' rest rest' : Bytes} (h : IsMaximalSubpart bad rest)
    (h' : IsMaximalSubpart bad' rest') (heq : bad ++ rest = bad' ++ rest') : bad = bad' ∧ rest = rest' := by
  have hle {bad bad' rest rest' : Bytes} (h : IsMaximalSubpart bad rest) (h' : IsMaximalSubpart bad' rest')
      (heq : bad ++ rest = bad' ++ rest') : bad'.length ≤ bad.length := by
    by_contra hlt
    have hpos := List.length_pos_iff.2 h.nonempty
    obtain ⟨c, hc⟩ := h'.begins.resolve_left (by omega)
    exact h.longest bad' ⟨rest', heq.symm⟩ (by omega) c hc
  exact List.append_inj heq (Nat.le_antisymm (hle h' h heq.symm) (hle h h' heq))

theorem cuts_pieces (bs : Bytes) : Cuts bs (pieces bs) := by
  induction hlength : bs.length using Nat.strong_induction_on generalizing bs with
  | _ n ih =>
    by_cases hbs : bs = []
    · rw [hbs]
      exact .nil
    · obtain ⟨p, rest, hfront⟩ := exists_front hbs
      have hrest := ih _ (hlength ▸ hfront.length_lt) rest rfl
      rw [hfront.pieces_eq]
      cases hfront with
      | char c => exact .char c hrest
      | illFormed h => exact .illFormed h.isMaximalSubpart hrest

/-- Bytes can be cut in one way only, which is the one in which they are cut. -/
theorem cuts_iff {bs : Bytes} {ps : List Piece} : Cuts bs ps ↔ ps = pieces bs := by
  refine ⟨fun h => ?_, fun h => h ▸ cuts_pieces bs⟩
  induction h with
  | nil => rfl
  | char c h ih => rw [(Front.char c _).pieces_eq, ih]
  | @illFormed bad rest ps hbad h ih =>
    obtain ⟨p, rest', hfront⟩ := exists_front (List.append_ne_nil_of_left_ne_nil hbad.nonempty rest)
    have hpieces := hfront.pieces_eq
    generalize hbs : bad ++ rest = bs at hfront hpieces
    cases hfront with
    | char c => exact absurd ⟨rest', hbs.symm⟩ (hbad.unreadable c)
    | illFormed hbad' =>
      obtain ⟨rfl, rfl⟩ := hbad.eq hbad'.isMaximalSubpart hbs
      rw [hpieces, ih]

/-- Nothing is lost by the cuts. -/
theorem Cuts.flatMap_bytes {bs : Bytes} {ps : List Piece} (h : Cuts bs ps) : ps.flatMap Piece.bytes = bs := by
  induction h with
  | nil => rfl
  | char c h ih => rw [List.flatMap_cons, ih]; rfl
  | illFormed hbad h ih => rw [List.flatMap_cons, ih]; rfl

theorem encode_of_mapM_char? {ps : List Piece} {cs : List Char} (h : ps.mapM Piece.char? = some cs) :
    encode cs = ps.flatMap Piece.bytes := by
  induction ps generalizing cs with
  | nil =>
    cases h
    rfl
  | cons p ps ih =>
    rw [List.mapM_cons] at h
    obtain ⟨c, hc, h⟩ := Option.bind_eq_some_iff.1 h
    obtain ⟨rest, hrest, h⟩ := Option.bind_eq_some_iff.1 h
    cases h
    cases p with
    | char d =>
      cases hc
      rw [List.flatMap_cons, ← ih hrest, encode_cons]
      rfl
    | illFormed bad => cases hc

/-- Bytes are read strictly as the characters that they write, and not at all if they write none. -/
theorem decode?_eq_some_iff {bs : Bytes} {cs : List Char} : decode? bs = some cs ↔ encode cs = bs := by
  constructor
  · intro h
    rw [encode_of_mapM_char? h, (cuts_pieces bs).flatMap_bytes]
  · rintro rfl
    exact decode?_encode cs

/-! ## 5. What a text shows of bytes -/

/-- A text that shows bytes: their characters, with U+FFFD for each ill-formed piece.  Well-formed bytes are
shown in full, and so is every well-formed stretch of others, between what is before and behind it. -/
structure Shows (bs : Bytes) (cs : List Char) : Prop where
  cuts : ∃ ps, Cuts bs ps ∧ ps.flatMap Piece.bytes = bs ∧ cs = ps.map Piece.shown
  wellFormed : ∀ ds, bs = encode ds → encode cs = bs
  kept : ∀ before ds after, ds ≠ [] → bs = before ++ (encode ds ++ after) →
    cs = decodeLossy before ++ (ds ++ decodeLossy after)

theorem shows_decodeLossy (bs : Bytes) : Shows bs (decodeLossy bs) where
  cuts := ⟨pieces bs, cuts_pieces bs, (cuts_pieces bs).flatMap_bytes, rfl⟩
  wellFormed := by
    rintro ds rfl
    rw [decodeLossy_encode]
  kept := by
    rintro before ds after hds rfl
    exact decodeLossy_around hds before after

/-- One text only shows bytes. -/
theorem Shows.eq_decodeLossy {bs : Bytes} {cs : List Char} (h : Shows bs cs) : cs = decodeLossy bs := by
  obtain ⟨ps, hcuts, -, rfl⟩ := h.cuts
  rw [cuts_iff.1 hcuts]
  rfl

end RegistryAuth.Text.Utf8
