import RegistryAuth.Proofs.Text.Utf8
import RegistryAuth.Url.Percent

/-!
# Percent-encoded bytes

The code of a byte is read back as that byte, and every byte that begins no code as itself.  An encoded text
holds characters of the text and codes, and the text is had back from it if it holds no code itself.
-/

namespace RegistryAuth.Url

open Text

/-! ## 1. Codes -/

theorem hexDigit_spec : ∀ d < 16, (hexDigit d).toNat < 0x80 ∧
    hexByte? (UInt8.ofNat (hexDigit d).toNat) = some d ∧
    UInt8.ofNat (hexDigit d).toNat ∉ ([0x2B, 0x26, 0x3D] : Bytes) := by
  decide

theorem encode_percentByte (b : UInt8) :
    Utf8.encode (percentByte b) = [0x25, UInt8.ofNat (hexDigit (b.toNat / 16)).toNat,
      UInt8.ofNat (hexDigit (b.toNat % 16)).toNat] := by
  have hb := b.toNat_lt
  unfold percentByte
  rw [Utf8.encode_cons_of_ascii (by decide),
    Utf8.encode_cons_of_ascii (hexDigit_spec _ (by omega)).1,
    Utf8.encode_cons_of_ascii (hexDigit_spec _ (by omega)).1]
  rfl

theorem go_percentByte (b : UInt8) (acc rest : Bytes) :
    percentDecode.go acc (Utf8.encode (percentByte b) ++ rest) = percentDecode.go (b :: acc) rest := by
  have hb := b.toNat_lt
  have hhigh := (hexDigit_spec (b.toNat / 16) (by omega)).2.1
  have hlow := (hexDigit_spec (b.toNat % 16) (by omega)).2.1
  have hbyte : (b.toNat / 16 * 16 + b.toNat % 16).toUInt8 = b := by
    rw [Nat.div_add_mod']
    exact UInt8.ofNat_toNat
  rw [encode_percentByte, List.cons_append, List.cons_append, List.cons_append, List.nil_append,
    percentDecode.go, hhigh, hlow]
  simp only
  rw [hbyte]

/-- Only characters that need not be encoded are left as they are. -/
theorem of_mem_percentEncode {set : Char → Bool} {cs : List Char} {c : Char}
    (h : c ∈ percentEncode set cs) : c ∈ cs ∧ set c = false ∨ ∃ b, c ∈ percentByte b := by
  obtain ⟨d, hd, hcd⟩ := List.mem_flatMap.1 h
  by_cases hset : set d = true
  · rw [if_pos hset] at hcd
    obtain ⟨b, -, hcb⟩ := List.mem_flatMap.1 hcd
    exact .inr ⟨b, hcb⟩
  · rw [if_neg hset, List.mem_singleton] at hcd
    subst hcd
    exact .inl ⟨hd, Bool.eq_false_iff.2 hset⟩

/-! ## 2. Bytes without a code -/

/-- A byte that begins no code stands for itself. -/
theorem go_of_no_code {b : UInt8} {bs : Bytes}
    (h : ∀ x y rest, b = 0x25 → bs = x :: y :: rest → hexByte? x = none ∨ hexByte? y = none)
    (acc : Bytes) : percentDecode.go acc (b :: bs) = percentDecode.go (b :: acc) bs := by
  by_cases hcode : b = 0x25 ∧ ∃ x y rest, bs = x :: y :: rest
  · obtain ⟨rfl, x, y, rest, rfl⟩ := hcode
    rw [percentDecode.go]
    split
    · rename_i hx hy
      rcases h x y rest rfl rfl with hnone | hnone
      · rw [hx] at hnone
        cases hnone
      · rw [hy] at hnone
        cases hnone
    · rfl
  · exact percentDecode.go.eq_2 acc b bs fun x y rest hb hbs => hcode ⟨hb, x, y, rest, hbs⟩

theorem go_of_ne {b : UInt8} (h : b ≠ 0x25) (acc rest : Bytes) :
    percentDecode.go acc (b :: rest) = percentDecode.go (b :: acc) rest :=
  go_of_no_code (fun _ _ _ heq _ => absurd heq h) acc

/-- A byte at the end that is no digit ends no code. -/
theorem percentDecode_go_concat {b : UInt8} (hb : hexByte? b = none) (acc bs : Bytes) :
    percentDecode.go acc (bs ++ [b]) = percentDecode.go acc bs ++ [b] := by
  fun_induction percentDecode.go acc bs with
  | case1 acc h l rest x y hl hh ih =>
    rw [List.cons_append, List.cons_append, List.cons_append, percentDecode.go, hh, hl]
    exact ih
  | case2 acc h l rest hnone ih =>
    refine (go_of_no_code (fun x y rest' _ hbs => ?_) acc).trans ih
    cases hbs
    cases hx : hexByte? h with
    | none => exact .inl rfl
    | some x =>
      cases hy : hexByte? l with
      | none => exact .inr rfl
      | some y => exact absurd hy (hnone x y hx)
  | case3 acc b' rest hne ih =>
    refine (go_of_no_code (fun x y rest' hb' hbs => ?_) acc).trans ih
    rcases rest with _ | ⟨x', _ | ⟨y', rest⟩⟩
    · cases hbs
    · cases hbs
      exact .inr hb
    · exact absurd rfl (hne x' y' rest hb')
  | case4 acc =>
    have hgo : percentDecode.go acc [b] = percentDecode.go (b :: acc) [] :=
      go_of_no_code (fun _ _ _ _ hbs => by cases hbs) acc
    exact hgo.trans List.reverse_cons

/-! ## 3. Encoded texts -/

variable {set : Char → Bool} {cs : List Char}

theorem percentEncode_cons (set : Char → Bool) (c : Char) (cs : List Char) :
    percentEncode set (c :: cs) =
      (if set c then (String.utf8EncodeChar c).flatMap percentByte else [c]) ++ percentEncode set cs :=
  List.flatMap_cons

theorem percentEncode_eq_self (h : ∀ c ∈ cs, set c = false) : percentEncode set cs = cs := by
  induction cs with
  | nil => rfl
  | cons c cs ih =>
    rw [percentEncode_cons, if_neg (Bool.eq_false_iff.1 (h c List.mem_cons_self)),
      ih fun d hd => h d (List.mem_cons_of_mem c hd)]
    rfl

theorem mem_percentEncode {c : Char} (hc : c ∈ cs) (hset : set c = false) : c ∈ percentEncode set cs := by
  refine List.mem_flatMap.2 ⟨c, hc, ?_⟩
  rw [if_neg (Bool.eq_false_iff.1 hset)]
  exact List.mem_singleton_self c

theorem ne_of_mem_utf8EncodeChar {c : Char} (hc : c ≠ '%') {b : UInt8} (hb : b ∈ String.utf8EncodeChar c) :
    b ≠ 0x25 := by
  rintro rfl
  exact hc (Utf8.eq_of_mem_utf8EncodeChar (d := '%') (by decide) hb)

theorem go_append_of_ne {bs : Bytes} (h : ∀ b ∈ bs, b ≠ 0x25) (acc rest : Bytes) :
    percentDecode.go acc (bs ++ rest) = percentDecode.go (bs.reverse ++ acc) rest := by
  induction bs generalizing acc with
  | nil => rfl
  | cons b bs ih =>
    rw [List.cons_append, go_of_ne (h b List.mem_cons_self),
      ih (fun b' hb' => h b' (List.mem_cons_of_mem b hb')), List.reverse_cons, List.append_assoc]
    rfl

theorem go_flatMap_percentByte (bs acc rest : Bytes) :
    percentDecode.go acc (Utf8.encode (bs.flatMap percentByte) ++ rest) =
      percentDecode.go (bs.reverse ++ acc) rest := by
  -- The accumulator holds what was decoded, the last byte first, so it is generalized.
  induction bs generalizing acc with
  | nil => rfl
  | cons b bs ih =>
    rw [List.flatMap_cons, Utf8.encode_append, List.append_assoc, go_percentByte, ih, List.reverse_cons,
      List.append_assoc]
    rfl

/-- What an encoded text holds is had back if the text itself holds no code. -/
theorem percentDecode_percentEncode (h : '%' ∉ cs) :
    percentDecode (Utf8.encode (percentEncode set cs)) = Utf8.encode cs := by
  have hgo (acc : Bytes) : percentDecode.go acc (Utf8.encode (percentEncode set cs)) =
      acc.reverse ++ Utf8.encode cs := by
    induction cs generalizing acc with
    | nil => exact (List.append_nil _).symm
    | cons c cs ih =>
      rw [List.mem_cons, not_or] at h
      rw [percentEncode_cons, Utf8.encode_append, Utf8.encode_cons]
      by_cases hset : set c = true
      · rw [if_pos hset, go_flatMap_percentByte, ih h.2, List.reverse_append, List.reverse_reverse,
          List.append_assoc]
      · have hone : Utf8.encode [c] = String.utf8EncodeChar c := List.append_nil _
        rw [if_neg hset, hone, go_append_of_ne fun b => ne_of_mem_utf8EncodeChar (Ne.symm h.1), ih h.2,
          List.reverse_append, List.reverse_reverse, List.append_assoc]
  exact hgo []

theorem eq_of_percentEncode_eq {ds : List Char} (hcs : '%' ∉ cs) (hds : '%' ∉ ds)
    (h : percentEncode set cs = percentEncode set ds) : cs = ds := by
  have hbytes := calc
    Utf8.encode cs = percentDecode (Utf8.encode (percentEncode set cs)) :=
      (percentDecode_percentEncode hcs).symm
    _ = percentDecode (Utf8.encode (percentEncode set ds)) := by rw [h]
    _ = Utf8.encode ds := percentDecode_percentEncode hds
  have hread := congrArg Utf8.decode? hbytes
  rw [Utf8.decode?_encode, Utf8.decode?_encode] at hread
  exact Option.some.inj hread

end RegistryAuth.Url
