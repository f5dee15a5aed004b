import RegistryAuth.Text.Utf8

/-!
# Encoded text is read back

Bytes that write characters are cut into those characters: `decodeLossy_encode` and `decode?_encode`.
-/

namespace RegistryAuth.Text.Utf8

/-! ## 1. ASCII -/

theorem utf8EncodeChar_of_ascii {c : Char} (h : c.toNat < 0x80) :
    String.utf8EncodeChar c = [UInt8.ofNat c.toNat] := by
  unfold String.utf8EncodeChar
  exact if_pos (show c.toNat ≤ 0x7F by omega)

theorem encode_append (cs ds : List Char) : encode (cs ++ ds) = encode cs ++ encode ds :=
  List.flatMap_append

theorem encode_cons (c : Char) (cs : List Char) :
    encode (c :: cs) = String.utf8EncodeChar c ++ encode cs := rfl

theorem encode_cons_of_ascii {c : Char} (h : c.toNat < 0x80) (cs : List Char) :
    encode (c :: cs) = UInt8.ofNat c.toNat :: encode cs := by
  rw [encode_cons, utf8EncodeChar_of_ascii h]
  rfl

theorem encode_of_ascii {cs : List Char} (h : ∀ c ∈ cs, c.toNat < 0x80) :
    encode cs = cs.map fun c => UInt8.ofNat c.toNat := by
  induction cs with
  | nil => rfl
  | cons c cs ih =>
    rw [encode_cons_of_ascii (h c List.mem_cons_self), ih fun d hd => h d (List.mem_cons_of_mem c hd),
      List.map_cons]

theorem toNat_ofNat {n : Nat} (h : n < 256) : (UInt8.ofNat n).toNat = n := by
  rw [UInt8.toNat_ofNat']
  omega

/-- No byte of a character beyond ASCII is one of ASCII. -/
theorem le_of_mem_utf8EncodeChar {c : Char} (h : 0x80 ≤ c.toNat) {b : UInt8}
    (hb : b ∈ String.utf8EncodeChar c) : 0x80 ≤ b.toNat := by
  have hof {n : Nat} (hlo : 0x80 ≤ n) (hhi : n < 0x100) (heq : b = UInt8.ofNat n) : 0x80 ≤ b.toNat := by
    rw [heq, toNat_ofNat hhi]
    exact hlo
  have hc : c.val.toNat = c.toNat := rfl
  unfold String.utf8EncodeChar at hb
  simp only [hc] at hb
  rw [if_neg (by omega)] at hb
  split at hb
  · simp only [List.mem_cons, List.not_mem_nil, or_false] at hb
    rcases hb with hb | hb <;> exact hof (by omega) (by omega) hb
  · split at hb
    · simp only [List.mem_cons, List.not_mem_nil, or_false] at hb
      rcases hb with hb | hb | hb <;> exact hof (by omega) (by omega) hb
    · simp only [List.mem_cons, List.not_mem_nil, or_false] at hb
      rcases hb with hb | hb | hb | hb <;> exact hof (by omega) (by omega) hb

/-- No other character is written with the byte of one of ASCII. -/
theorem eq_of_mem_utf8EncodeChar {c d : Char} (hd : d.toNat < 0x80)
    (h : UInt8.ofNat d.toNat ∈ String.utf8EncodeChar c) : c = d := by
  by_cases hc : c.toNat < 0x80
  · rw [utf8EncodeChar_of_ascii hc, List.mem_singleton] at h
    have hcode := congrArg UInt8.toNat h
    rw [toNat_ofNat (by omega), toNat_ofNat (by omega)] at hcode
    exact Char.ext (UInt32.toNat_inj.1 hcode.symm)
  · have hle := le_of_mem_utf8EncodeChar (Nat.not_lt.1 hc) h
    rw [toNat_ofNat (by omega)] at hle
    omega

/-! ## 2. Leading bytes -/

/-- The first byte of a character of two bytes. -/
theorem lead?_of_two {v : Nat} (hlo : 0x80 ≤ v) (hhi : v ≤ 0x7FF) :
    lead? (v / 64 % 32 + 0xC0) = some ⟨1, 0x80, 0xBF⟩ := by
  unfold lead?
  rw [if_neg (by omega), if_pos (by omega)]

/-- The first byte of a character of three bytes, surrogates being none. -/
theorem lead?_of_three {v : Nat} (hlo : 0x800 ≤ v) (hhi : v ≤ 0xFFFF)
    (hscalar : v < 0xD800 ∨ 0xDFFF < v) :
    ∃ l, lead? (v / 4096 % 16 + 0xE0) = some l ∧ l.follow = 2 ∧ l.lo ≤ v / 64 % 64 + 0x80 ∧
      v / 64 % 64 + 0x80 ≤ l.hi := by
  -- The second byte is bounded from below after E0 and from above after ED.
  unfold lead?
  rw [if_neg (by omega), if_neg (by omega)]
  split
  · exact ⟨_, rfl, rfl, by simp only; omega, by simp only; omega⟩
  · split
    · exact ⟨_, rfl, rfl, by simp only; omega, by simp only; omega⟩
    · rw [if_pos (by omega)]
      exact ⟨_, rfl, rfl, by simp only; omega, by simp only; omega⟩

/-- The first byte of a character of four bytes. -/
theorem lead?_of_four {v : Nat} (hlo : 0x10000 ≤ v) (hhi : v < 0x110000) :
    ∃ l, lead? (v / 262144 % 8 + 0xF0) = some l ∧ l.follow = 3 ∧ l.lo ≤ v / 4096 % 64 + 0x80 ∧
      v / 4096 % 64 + 0x80 ≤ l.hi := by
  -- The second byte is bounded from below after F0 and from above after F4.
  unfold lead?
  rw [if_neg (by omega), if_neg (by omega), if_neg (by omega), if_neg (by omega), if_neg (by omega)]
  split
  · exact ⟨_, rfl, rfl, by simp only; omega, by simp only; omega⟩
  · split
    · exact ⟨_, rfl, rfl, by simp only; omega, by simp only; omega⟩
    · rw [if_pos (by omega)]
      exact ⟨_, rfl, rfl, by simp only; omega, by simp only; omega⟩

/-! ## 3. One character -/

theorem isTail_ofNat {n : Nat} (h : n < 64) : isTail (UInt8.ofNat (n + 0x80)) = true := by
  unfold isTail
  rw [toNat_ofNat (by omega)]
  simp
  omega

section Cuts

variable {v : Nat} (acc : List Piece) (rest : Bytes)

theorem go_two (hlo : 0x80 ≤ v) (hhi : v ≤ 0x7FF) :
    pieces.go acc
        (UInt8.ofNat (v / 64 % 32 + 0xC0) :: UInt8.ofNat (v % 64 + 0x80) :: rest) =
      pieces.go (.char (Char.ofNat v) :: acc) rest := by
  have h₀ : (UInt8.ofNat (v / 64 % 32 + 0xC0)).toNat = v / 64 % 32 + 0xC0 := toNat_ofNat (by omega)
  have h₁ : (UInt8.ofNat (v % 64 + 0x80)).toNat = v % 64 + 0x80 := toNat_ofNat (by omega)
  have hchar : char₂ (UInt8.ofNat (v / 64 % 32 + 0xC0)) (UInt8.ofNat (v % 64 + 0x80)) =
      Char.ofNat v := by
    unfold char₂
    rw [h₀, h₁]
    exact congrArg Char.ofNat (by omega)
  rw [pieces.go, h₀, if_neg (by omega), lead?_of_two hlo hhi]
  simp only [h₁]
  rw [if_pos (by omega), if_pos trivial, hchar]

theorem go_three (hlo : 0x800 ≤ v) (hhi : v ≤ 0xFFFF) (hscalar : v < 0xD800 ∨ 0xDFFF < v) :
    pieces.go acc
        (UInt8.ofNat (v / 4096 % 16 + 0xE0) :: UInt8.ofNat (v / 64 % 64 + 0x80) ::
          UInt8.ofNat (v % 64 + 0x80) :: rest) =
      pieces.go (.char (Char.ofNat v) :: acc) rest := by
  have h₀ : (UInt8.ofNat (v / 4096 % 16 + 0xE0)).toNat = v / 4096 % 16 + 0xE0 :=
    toNat_ofNat (by omega)
  have h₁ : (UInt8.ofNat (v / 64 % 64 + 0x80)).toNat = v / 64 % 64 + 0x80 := toNat_ofNat (by omega)
  have h₂ : (UInt8.ofNat (v % 64 + 0x80)).toNat = v % 64 + 0x80 := toNat_ofNat (by omega)
  have hchar : char₃ (UInt8.ofNat (v / 4096 % 16 + 0xE0)) (UInt8.ofNat (v / 64 % 64 + 0x80))
      (UInt8.ofNat (v % 64 + 0x80)) = Char.ofNat v := by
    unfold char₃
    rw [h₀, h₁, h₂]
    exact congrArg Char.ofNat (by omega)
  obtain ⟨l, hlead, hfollow, hl, hr⟩ := lead?_of_three hlo hhi hscalar
  rw [pieces.go, h₀, if_neg (by omega), hlead]
  simp only [h₁]
  rw [if_pos ⟨hl, hr⟩, if_neg (by omega), if_pos (isTail_ofNat (by omega)), if_pos hfollow, hchar]

theorem go_four (hlo : 0x10000 ≤ v) (hhi : v < 0x110000) :
    pieces.go acc
        (UInt8.ofNat (v / 262144 % 8 + 0xF0) :: UInt8.ofNat (v / 4096 % 64 + 0x80) ::
          UInt8.ofNat (v / 64 % 64 + 0x80) :: UInt8.ofNat (v % 64 + 0x80) :: rest) =
      pieces.go (.char (Char.ofNat v) :: acc) rest := by
  have h₀ : (UInt8.ofNat (v / 262144 % 8 + 0xF0)).toNat = v / 262144 % 8 + 0xF0 :=
    toNat_ofNat (by omega)
  have h₁ : (UInt8.ofNat (v / 4096 % 64 + 0x80)).toNat = v / 4096 % 64 + 0x80 :=
    toNat_ofNat (by omega)
  have h₂ : (UInt8.ofNat (v / 64 % 64 + 0x80)).toNat = v / 64 % 64 + 0x80 := toNat_ofNat (by omega)
  have h₃ : (UInt8.ofNat (v % 64 + 0x80)).toNat = v % 64 + 0x80 := toNat_ofNat (by omega)
  have hchar : char₄ (UInt8.ofNat (v / 262144 % 8 + 0xF0)) (UInt8.ofNat (v / 4096 % 64 + 0x80))
      (UInt8.ofNat (v / 64 % 64 + 0x80)) (UInt8.ofNat (v % 64 + 0x80)) = Char.ofNat v := by
    unfold char₄
    rw [h₀, h₁, h₂, h₃]
    exact congrArg Char.ofNat (by omega)
  obtain ⟨l, hlead, hfollow, hl, hr⟩ := lead?_of_four hlo hhi
  rw [pieces.go, h₀, if_neg (by omega), hlead]
  simp only [h₁]
  rw [if_pos ⟨hl, hr⟩, if_neg (by omega), if_pos (isTail_ofNat (by omega)), if_neg (by omega),
    if_pos (isTail_ofNat (by omega)), hchar]

/-- The bytes of a character are cut off as that character. -/
theorem go_encodeChar (c : Char) :
    pieces.go acc (String.utf8EncodeChar c ++ rest) = pieces.go (.char c :: acc) rest := by
  -- By the number of bytes that the value takes; surrogates are no characters.
  obtain ⟨v, hv⟩ : ∃ v, c.val.toNat = v := ⟨_, rfl⟩
  have hscalar : v < 0xD800 ∨ 0xDFFF < v ∧ v < 0x110000 := hv ▸ c.valid
  have hc : Char.ofNat v = c := hv ▸ Char.ofNat_toNat c
  unfold String.utf8EncodeChar
  simp only [hv]
  rw [← hc]
  by_cases h₁ : v ≤ 0x7F
  · rw [if_pos h₁, List.singleton_append, pieces.go, toNat_ofNat (by omega), if_pos (by omega)]
  · rw [if_neg h₁]
    by_cases h₂ : v ≤ 0x7FF
    · rw [if_pos h₂]
      exact go_two acc rest (by omega) h₂
    · rw [if_neg h₂]
      by_cases h₃ : v ≤ 0xFFFF
      · rw [if_pos h₃]
        exact go_three acc rest (by omega) h₃ (by omega)
      · rw [if_neg h₃]
        exact go_four acc rest (by omega) (by omega)

end Cuts

/-! ## 4. Texts -/

theorem go_encode (cs : List Char) (acc : List Piece) :
    pieces.go acc (encode cs) = acc.reverse ++ cs.map .char := by
  -- Pieces are gathered in reverse, so the accumulator is generalized.
  induction cs generalizing acc with
  | nil =>
    show pieces.go acc [] = _
    rw [pieces.go, List.map_nil, List.append_nil]
  | cons c cs ih =>
    show pieces.go acc (String.utf8EncodeChar c ++ encode cs) = _
    rw [go_encodeChar, ih]
    simp

theorem pieces_encode (cs : List Char) : pieces (encode cs) = cs.map .char :=
  go_encode cs []

/-- What is encoded is read back by strict decoding. -/
theorem decode?_encode (cs : List Char) : decode? (encode cs) = some cs := by
  unfold decode?
  rw [pieces_encode]
  induction cs with
  | nil => rfl
  | cons c cs ih => simp [Piece.char?, ih]

theorem encode_inj {cs ds : List Char} : encode cs = encode ds ↔ cs = ds := by
  refine ⟨fun h => ?_, congrArg encode⟩
  have hdecode := congrArg decode? h
  rw [decode?_encode, decode?_encode] at hdecode
  exact Option.some.inj hdecode

/-- What is encoded is read back by lossy decoding. -/
theorem decodeLossy_encode (cs : List Char) : decodeLossy (encode cs) = cs := by
  unfold decodeLossy
  rw [pieces_encode, List.map_map]
  exact List.map_id cs

end RegistryAuth.Text.Utf8
