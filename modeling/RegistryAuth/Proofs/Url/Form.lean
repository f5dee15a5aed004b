import RegistryAuth.Proofs.Url.Percent
import RegistryAuth.Url.Form

/-!
# A written form is read back

What is decoded from the bytes of a form are the pairs that it was written from, whatever their texts:
`Form.decode_encode`.  A form that is added to a query leaves the pairs before it as they are:
`Url.decode_addQuery`.
-/

namespace RegistryAuth

open Text

/-! ## 1. Texts -/

namespace Form

/-- A plus sign is read as a blank. -/
def unplus (b : UInt8) : UInt8 :=
  if b = 0x2B then 0x20 else b

/-- The bytes that have a meaning of their own in a form. -/
def separators : Bytes := [0x2B, 0x26, 0x3D]

theorem isPlain_spec {c : Char} (h : isPlain c = true) : c.toNat < 0x80 ∧
    UInt8.ofNat c.toNat ≠ 0x25 ∧ UInt8.ofNat c.toNat ∉ separators := by
  -- Letters and digits lie apart from the separators; the other plain characters are checked.
  have hcode : c.toNat < 0x80 ∧ c.toNat ≠ 0x25 ∧ c.toNat ≠ 0x2B ∧ c.toNat ≠ 0x26 ∧ c.toNat ≠ 0x3D := by
    simp only [isPlain, Text.isLetter, Text.isCapital, Text.isDigit, Bool.or_eq_true, Bool.and_eq_true,
      decide_eq_true_eq, beq_iff_eq] at h
    rcases h with ((((hletter | hdigit) | rfl) | rfl) | rfl) | rfl
    · omega
    · omega
    · decide
    · decide
    · decide
    · decide
  have hne : ∀ {n : Nat}, n < 0x100 → c.toNat ≠ n → UInt8.ofNat c.toNat ≠ UInt8.ofNat n := by
    intro n hn hcn heq
    have hto := congrArg UInt8.toNat heq
    rw [Utf8.toNat_ofNat (by omega), Utf8.toNat_ofNat hn] at hto
    exact hcn hto
  obtain ⟨hlt, hpercent, hplus, hand, hequals⟩ := hcode
  refine ⟨hlt, hne (by decide) hpercent, ?_⟩
  simp only [separators, List.mem_cons, List.not_mem_nil, or_false, not_or]
  exact ⟨hne (by decide) hplus, hne (by decide) hand, hne (by decide) hequals⟩

theorem not_separator_of_percent {b x : UInt8} (h : x ∈ Utf8.encode (Url.percentByte b)) :
    x ∉ separators := by
  have hb := b.toNat_lt
  rw [Url.encode_percentByte] at h
  simp only [List.mem_cons, List.not_mem_nil, or_false] at h
  rcases h with rfl | rfl | rfl
  · decide
  · exact (Url.hexDigit_spec _ (by omega)).2.2
  · exact (Url.hexDigit_spec _ (by omega)).2.2

theorem map_unplus {bs : Bytes} (h : ∀ b ∈ bs, b ∉ separators) : bs.map unplus = bs := by
  refine (List.map_congr_left fun b hb => ?_).trans (List.map_id bs)
  have hne : b ≠ 0x2B := fun heq => h b hb (heq ▸ List.mem_cons_self)
  exact if_neg hne

theorem go_percentBytes (bs acc rest : Bytes) :
    Url.percentDecode.go acc ((Utf8.encode (bs.flatMap Url.percentByte)).map unplus ++ rest) =
      Url.percentDecode.go (bs.reverse ++ acc) rest := by
  have hnot : ∀ x ∈ Utf8.encode (bs.flatMap Url.percentByte), x ∉ separators := by
    intro x hx
    rw [Utf8.encode, List.flatMap_assoc] at hx
    obtain ⟨b, -, hb⟩ := List.mem_flatMap.1 hx
    exact not_separator_of_percent hb
  rw [map_unplus hnot, Url.go_flatMap_percentByte]

/-- The written form of a character is decoded to the bytes of the character. -/
theorem go_encodeChar (c : Char) (acc rest : Bytes) :
    Url.percentDecode.go acc ((Utf8.encode (encodeChar c)).map unplus ++ rest) =
      Url.percentDecode.go ((String.utf8EncodeChar c).reverse ++ acc) rest := by
  -- A blank is written as a plus sign, a plain character as itself, all else byte by byte.
  unfold encodeChar
  by_cases hblank : c = ' '
  · rw [if_pos hblank, hblank]
    exact Url.go_of_ne (by decide) acc rest
  · rw [if_neg hblank]
    by_cases hplain : isPlain c = true
    · obtain ⟨hlt, hpercent, hsep⟩ := isPlain_spec hplain
      have hplus : UInt8.ofNat c.toNat ≠ 0x2B := fun heq => hsep (heq ▸ List.mem_cons_self)
      rw [if_pos hplain, Utf8.encode_cons_of_ascii hlt, Utf8.utf8EncodeChar_of_ascii hlt]
      show Url.percentDecode.go acc (unplus (UInt8.ofNat c.toNat) :: rest) = _
      rw [unplus, if_neg hplus]
      exact Url.go_of_ne hpercent acc rest
    · rw [if_neg hplain]
      exact go_percentBytes _ acc rest

theorem go_encodeText (cs : List Char) (acc : Bytes) :
    Url.percentDecode.go acc ((Utf8.encode (cs.flatMap encodeChar)).map unplus) =
      acc.reverse ++ Utf8.encode cs := by
  induction cs generalizing acc with
  | nil => exact (List.append_nil _).symm
  | cons c cs ih =>
    rw [List.flatMap_cons, Utf8.encode_append, List.map_append, go_encodeChar, ih]
    simp [Utf8.encode]

theorem decodeText_encodeText (s : String) : decodeText (Utf8.encode (encodeText s)) = s := by
  show String.ofList (Utf8.decodeLossy
    (Url.percentDecode.go [] ((Utf8.encode (s.toList.flatMap encodeChar)).map unplus))) = s
  rw [go_encodeText, List.reverse_nil, List.nil_append, Utf8.decodeLossy_encode]
  exact String.ofList_toList

theorem not_delimiter_of_char {c : Char} {b : UInt8} (h : b ∈ Utf8.encode (encodeChar c)) :
    b ≠ 0x26 ∧ b ≠ 0x3D := by
  have hof : b ∉ separators → b ≠ 0x26 ∧ b ≠ 0x3D := by
    intro hnot
    constructor
    · rintro rfl
      exact hnot (by decide)
    · rintro rfl
      exact hnot (by decide)
  unfold encodeChar at h
  by_cases hblank : c = ' '
  · rw [if_pos hblank] at h
    rw [List.mem_singleton.1 h]
    decide
  · rw [if_neg hblank] at h
    by_cases hplain : isPlain c = true
    · obtain ⟨hlt, -, hsep⟩ := isPlain_spec hplain
      rw [if_pos hplain, Utf8.encode_cons_of_ascii hlt] at h
      obtain rfl := List.mem_singleton.1 h
      exact hof hsep
    · rw [if_neg hplain, Utf8.encode, List.flatMap_assoc] at h
      obtain ⟨x, -, hx⟩ := List.mem_flatMap.1 h
      exact hof (not_separator_of_percent hx)

/-- Within a written text nothing ends a name or a pair. -/
theorem not_delimiter_of_text {s : String} {b : UInt8} (h : b ∈ Utf8.encode (encodeText s)) :
    b ≠ 0x26 ∧ b ≠ 0x3D := by
  rw [Utf8.encode, encodeText, List.flatMap_assoc] at h
  obtain ⟨c, -, hc⟩ := List.mem_flatMap.1 h
  exact not_delimiter_of_char hc

/-! ## 2. Pairs -/

theorem encode_encodePair (pair : String × String) :
    Utf8.encode (encodePair pair) =
      Utf8.encode (encodeText pair.1) ++ 0x3D :: Utf8.encode (encodeText pair.2) := by
  unfold encodePair
  rw [Utf8.encode_append, Utf8.encode_cons_of_ascii (by decide)]
  rfl

theorem decodePair_encodePair (pair : String × String) :
    decodePair (Utf8.encode (encodePair pair)) = pair := by
  -- The first equals sign is the one between the texts, since none stands in the name.
  have hname : ∀ b ∈ Utf8.encode (encodeText pair.1), (b != 0x3D) = true :=
    fun b hb => bne_iff_ne.2 (not_delimiter_of_text hb).2
  unfold decodePair
  rw [encode_encodePair, List.takeWhile_append_of_pos hname, List.dropWhile_append_of_pos hname,
    List.takeWhile_cons_of_neg (by decide), List.dropWhile_cons_of_neg (by decide), List.append_nil]
  show (decodeText _, decodeText (Utf8.encode (encodeText pair.2))) = pair
  rw [decodeText_encodeText, decodeText_encodeText]

theorem encodePair_ne_nil (pair : String × String) : Utf8.encode (encodePair pair) ≠ [] := by
  rw [encode_encodePair]
  exact List.append_ne_nil_of_right_ne_nil _ (List.cons_ne_nil _ _)

theorem not_and_of_pair {pair : String × String} {b : UInt8}
    (h : b ∈ Utf8.encode (encodePair pair)) : b ≠ 0x26 := by
  rw [encode_encodePair] at h
  rcases List.mem_append.1 h with hname | hrest
  · exact (not_delimiter_of_text hname).1
  · rcases List.mem_cons.1 hrest with rfl | hvalue
    · decide
    · exact (not_delimiter_of_text hvalue).1

/-! ## 3. Forms -/

theorem go_part {sep : UInt8} {bs : Bytes} (h : ∀ b ∈ bs, b ≠ sep) (parts : List Bytes)
    (part rest : Bytes) :
    splitBytes.go sep parts part (bs ++ rest) = splitBytes.go sep parts (bs.reverse ++ part) rest := by
  induction bs generalizing part with
  | nil => rfl
  | cons b bs ih =>
    rw [List.cons_append, splitBytes.go, if_neg (h b List.mem_cons_self),
      ih fun x hx => h x (List.mem_cons_of_mem _ hx), List.reverse_cons, List.append_assoc]
    rfl

theorem go_parts {sep : UInt8} {p : Bytes} {ps : List Bytes} (hp : ∀ b ∈ p, b ≠ sep)
    (hps : ∀ q ∈ ps, ∀ b ∈ q, b ≠ sep) (parts : List Bytes) :
    splitBytes.go sep parts [] (p ++ ps.flatMap (sep :: ·)) = parts.reverse ++ p :: ps := by
  induction ps generalizing p parts with
  | nil =>
    rw [go_part hp, List.flatMap_nil, splitBytes.go]
    simp
  | cons q qs ih =>
    rw [go_part hp, List.flatMap_cons, List.cons_append, splitBytes.go, if_pos rfl,
      ih (hps q List.mem_cons_self) fun x hx => hps x (List.mem_cons_of_mem _ hx)]
    simp

theorem encode_intercalate (x : List Char) (xs : List (List Char)) :
    Utf8.encode (['&'].intercalate (x :: xs)) =
      Utf8.encode x ++ (xs.map Utf8.encode).flatMap ((0x26 : UInt8) :: ·) := by
  induction xs generalizing x with
  | nil => simp
  | cons y ys ih =>
    have hand : Utf8.encode ['&'] = [0x26] := rfl
    rw [List.intercalate_cons_cons, Utf8.encode_append, Utf8.encode_append, ih, hand,
      List.append_assoc]
    rfl

/-- What is decoded from the bytes of a form are the pairs of the form. -/
theorem decode_encode (form : Form) : decode (Utf8.encode form.encode) = form := by
  cases form with
  | nil => rfl
  | cons pair pairs =>
    -- No pair holds the sign that parts pairs, and none is empty, so the parts are the pairs.
    have hparts : ∀ q ∈ (pairs.map encodePair).map Utf8.encode, ∀ b ∈ q, b ≠ 0x26 := by
      intro q hq b hb
      simp only [List.map_map, List.mem_map, Function.comp_apply] at hq
      obtain ⟨p, -, rfl⟩ := hq
      exact not_and_of_pair hb
    have hsplit : splitBytes 0x26 (Utf8.encode (Form.encode (pair :: pairs))) =
        (pair :: pairs).map fun p => Utf8.encode (encodePair p) := by
      unfold splitBytes Form.encode
      rw [List.map_cons, encode_intercalate, go_parts (fun b hb => not_and_of_pair hb) hparts]
      simp
    have hkept : ((pair :: pairs).map fun p => Utf8.encode (encodePair p)).filter (· ≠ []) =
        (pair :: pairs).map fun p => Utf8.encode (encodePair p) := by
      refine List.filter_eq_self.2 fun bs hbs => ?_
      obtain ⟨p, -, rfl⟩ := List.mem_map.1 hbs
      exact decide_eq_true (encodePair_ne_nil p)
    unfold decode
    rw [hsplit, hkept, List.map_map]
    exact (List.map_congr_left fun p _ => decodePair_encodePair p).trans (List.map_id _)

/-! ## 4. Forms after other text -/

/-- Parts are gathered in reverse, before those that come after them. -/
theorem go_acc (sep : UInt8) (parts : List Bytes) (part bs : Bytes) :
    splitBytes.go sep parts part bs = parts.reverse ++ splitBytes.go sep [] part bs := by
  induction bs generalizing parts part with
  | nil => simp [splitBytes.go]
  | cons b bs ih =>
    rw [splitBytes.go, splitBytes.go]
    by_cases hb : b = sep
    · rw [if_pos hb, if_pos hb, ih, ih [part.reverse]]
      simp
    · rw [if_neg hb, if_neg hb, ih]

theorem splitBytes_append (sep : UInt8) (bs rest : Bytes) :
    splitBytes sep (bs ++ sep :: rest) = splitBytes sep bs ++ splitBytes sep rest := by
  have hgo (part : Bytes) : splitBytes.go sep [] part (bs ++ sep :: rest) =
      splitBytes.go sep [] part bs ++ splitBytes sep rest := by
    induction bs generalizing part with
    | nil =>
      have hcut : splitBytes.go sep [] part (sep :: rest) = splitBytes.go sep [part.reverse] [] rest := by
        rw [splitBytes.go, if_pos rfl]
      rw [List.nil_append, hcut, go_acc]
      rfl
    | cons b bs ih =>
      rw [List.cons_append, splitBytes.go, splitBytes.go]
      by_cases hb : b = sep
      · rw [if_pos hb, if_pos hb, go_acc, ih, go_acc sep [part.reverse] [] bs, List.append_assoc]
      · rw [if_neg hb, if_neg hb, ih]
  exact hgo []

/-- The pairs of two texts with the sign between them that parts pairs. -/
theorem decode_append (bs rest : Bytes) : decode (bs ++ 0x26 :: rest) = decode bs ++ decode rest := by
  unfold decode
  rw [splitBytes_append, List.filter_append, List.map_append]

end Form

/-- A query that a form is added to holds its own pairs and then those of the form. -/
theorem Url.decode_addQuery (u : Url) (form : Form) :
    ∃ q, (u.addQuery form).query = some q ∧
      Form.decode (Utf8.encode q) = Form.decode (Utf8.encode (u.query.getD [])) ++ form := by
  refine ⟨_, rfl, ?_⟩
  by_cases hquery : u.query.getD [] = []
  · rw [if_pos hquery, hquery, Form.decode_encode]
    rfl
  · rw [if_neg hquery, Utf8.encode_append, Utf8.encode_cons_of_ascii (by decide)]
    refine (Form.decode_append _ _).trans ?_
    rw [Form.decode_encode]

end RegistryAuth
