import RegistryAuth.Proofs.Results
import RegistryAuth.Text.Base64Url

/-!
# Base64url is read back

Every sequence of bytes is decoded from its symbols, whichever of the three lengths its last group has, and
from no others: `decode_eq_ok_iff`.  No symbol is a padding sign.
-/

namespace RegistryAuth.Text.Base64Url

/-! ## 1. Symbols -/

theorem value?_symbol : ∀ v < 64, value? (symbol v) = some v := by
  decide

theorem symbol_ne_padding : ∀ v < 64, symbol v ≠ padding := by
  decide

theorem valueAt_symbol (offset : Nat) {v : Nat} (hv : v < 64) : valueAt offset (symbol v) = .ok v := by
  unfold valueAt
  rw [value?_symbol v hv]

/-- Every byte of an encoded text is the symbol of six bits. -/
theorem exists_of_mem_encode {bs : Bytes} {b : UInt8} (h : b ∈ encode bs) : ∃ v < 64, b = symbol v := by
  fun_induction encode bs with
  | case1 => cases h
  | case2 a =>
    have ha := a.toNat_lt
    simp only [List.mem_cons, List.not_mem_nil, or_false] at h
    rcases h with rfl | rfl
    · exact ⟨_, by omega, rfl⟩
    · exact ⟨_, by omega, rfl⟩
  | case3 a b' =>
    have ha := a.toNat_lt
    have hb := b'.toNat_lt
    simp only [List.mem_cons, List.not_mem_nil, or_false] at h
    rcases h with rfl | rfl | rfl
    · exact ⟨_, by omega, rfl⟩
    · exact ⟨_, by omega, rfl⟩
    · exact ⟨_, by omega, rfl⟩
  | case4 a b' c rest ih =>
    have ha := a.toNat_lt
    have hb := b'.toNat_lt
    have hc := c.toNat_lt
    simp only [List.mem_cons] at h
    rcases h with rfl | rfl | rfl | rfl | h
    · exact ⟨_, by omega, rfl⟩
    · exact ⟨_, by omega, rfl⟩
    · exact ⟨_, by omega, rfl⟩
    · exact ⟨_, by omega, rfl⟩
    · exact ih h

theorem danglingSymbol?_encode (bs : Bytes) : danglingSymbol? (encode bs) = none := by
  unfold danglingSymbol?
  cases hlast : (encode bs).getLast? with
  | none => rfl
  | some b =>
    obtain ⟨v, hv, rfl⟩ := exists_of_mem_encode (List.mem_of_getLast? hlast)
    simp [value?_symbol v hv]

/-! ## 2. Groups -/

section Joined

variable (a b c : UInt8)

theorem joined_first : joined (a.toNat / 4) (a.toNat % 4 * 16 + b.toNat / 16) 2 = a := by
  have hb := b.toNat_lt
  have hsum : a.toNat / 4 * 4 + (a.toNat % 4 * 16 + b.toNat / 16) / 16 = a.toNat := by omega
  show UInt8.ofNat (a.toNat / 4 * 4 + (a.toNat % 4 * 16 + b.toNat / 16) / 16) = a
  rw [hsum, UInt8.ofNat_toNat]

theorem joined_second :
    joined (a.toNat % 4 * 16 + b.toNat / 16) (b.toNat % 16 * 4 + c.toNat / 64) 4 = b := by
  have hc := c.toNat_lt
  apply UInt8.toNat_inj.1
  show ((a.toNat % 4 * 16 + b.toNat / 16) * 16 + (b.toNat % 16 * 4 + c.toNat / 64) / 4) % 256 = b.toNat
  have hb := b.toNat_lt
  omega

theorem joined_third : joined (b.toNat % 16 * 4 + c.toNat / 64) (c.toNat % 64) 6 = c := by
  apply UInt8.toNat_inj.1
  show ((b.toNat % 16 * 4 + c.toNat / 64) * 64 + c.toNat % 64 / 1) % 256 = c.toNat
  have hc := c.toNat_lt
  omega

end Joined

theorem lastValues_symbols (offset i : Nat) (vs : List Nat) (h : ∀ v ∈ vs, v < 64) :
    lastValues offset i none (vs.map symbol) = .ok vs := by
  induction vs generalizing i with
  | nil => rfl
  | cons v vs ih =>
    have hv : v < 64 := h v List.mem_cons_self
    have hvs := ih (i + 1) fun w hw => h w (List.mem_cons_of_mem v hw)
    rw [List.map_cons, lastValues, if_neg (symbol_ne_padding v hv)]
    simp only [valueAt_symbol _ hv, hvs, Bind.bind, Except.bind, Pure.pure, Except.pure]

section Last

variable (offset : Nat) {v w x y : Nat} (hv : v < 64) (hw : w < 64)
include hv hw

theorem lastGroup_two (hbits : w % 16 = 0) :
    lastGroup offset [symbol v, symbol w] = .ok [joined v w 2] := by
  have hvalues : lastValues offset 0 none [symbol v, symbol w] = .ok [v, w] :=
    lastValues_symbols offset 0 [v, w] (by simp [hv, hw])
  simp [lastGroup, hvalues, hbits]

theorem lastGroup_three (hx : x < 64) (hbits : x % 4 = 0) :
    lastGroup offset [symbol v, symbol w, symbol x] = .ok [joined v w 2, joined w x 4] := by
  have hvalues : lastValues offset 0 none [symbol v, symbol w, symbol x] = .ok [v, w, x] :=
    lastValues_symbols offset 0 [v, w, x] (by simp [hv, hw, hx])
  simp [lastGroup, hvalues, hbits]

theorem lastGroup_four (hx : x < 64) (hy : y < 64) :
    lastGroup offset [symbol v, symbol w, symbol x, symbol y] = .ok (groupBytes v w x y) := by
  have hvalues : lastValues offset 0 none [symbol v, symbol w, symbol x, symbol y] = .ok [v, w, x, y] :=
    lastValues_symbols offset 0 [v, w, x, y] (by simp [hv, hw, hx, hy])
  simp [lastGroup, hvalues]

/-- A group that others follow is read by itself. -/
theorem groups_four (hx : x < 64) (hy : y < 64) {bs rest : Bytes} (hne : rest ≠ [])
    (h : groups (offset + 4) rest = .ok bs) :
    groups offset (symbol v :: symbol w :: symbol x :: symbol y :: rest) =
      .ok (groupBytes v w x y ++ bs) := by
  obtain ⟨e, rest, rfl⟩ := List.exists_cons_of_ne_nil hne
  rw [groups]
  simp only [valueAt_symbol _ hv, valueAt_symbol _ hw, valueAt_symbol _ hx, valueAt_symbol _ hy, h,
    Bind.bind, Except.bind, Pure.pure, Except.pure]

end Last

/-! ## 3. Decoding -/

theorem groups_encode (offset : Nat) (bs : Bytes) : groups offset (encode bs) = .ok bs := by
  -- By the groups that `encode` makes; the last of them has one, two or three bytes.
  fun_induction encode bs generalizing offset with
  | case1 => rfl
  | case2 a =>
    have ha := a.toNat_lt
    have hlast := lastGroup_two offset (v := a.toNat / 4) (w := a.toNat % 4 * 16) (by omega) (by omega)
      (by omega)
    have hfirst : joined (a.toNat / 4) (a.toNat % 4 * 16) 2 = a := joined_first a 0
    rw [hfirst] at hlast
    exact hlast
  | case3 a b =>
    have ha := a.toNat_lt
    have hb := b.toNat_lt
    have hlast := lastGroup_three offset (v := a.toNat / 4) (w := a.toNat % 4 * 16 + b.toNat / 16)
      (x := b.toNat % 16 * 4) (by omega) (by omega) (by omega) (by omega)
    have hsecond : joined (a.toNat % 4 * 16 + b.toNat / 16) (b.toNat % 16 * 4) 4 = b :=
      joined_second a b 0
    rw [joined_first, hsecond] at hlast
    exact hlast
  | case4 a b c rest ih =>
    have ha := a.toNat_lt
    have hb := b.toNat_lt
    have hc := c.toNat_lt
    have hgroup : groupBytes (a.toNat / 4) (a.toNat % 4 * 16 + b.toNat / 16)
        (b.toNat % 16 * 4 + c.toNat / 64) (c.toNat % 64) = [a, b, c] := by
      rw [groupBytes, joined_first, joined_second, joined_third]
    by_cases hne : encode rest = []
    · obtain rfl : rest = [] := by
        have hrest := ih offset
        rw [hne] at hrest
        exact (Except.ok.inj hrest).symm
      rw [encode, ← hgroup]
      exact lastGroup_four offset (by omega) (by omega) (by omega) (by omega)
    · have hcons : a :: b :: c :: rest = [a, b, c] ++ rest := rfl
      rw [hcons, ← hgroup]
      exact groups_four offset (by omega) (by omega) (by omega) (by omega) hne (ih (offset + 4))

/-- Encoded bytes are read back as they were. -/
theorem decode_encode (bs : Bytes) : decode (encode bs) = .ok bs := by
  unfold decode
  rw [danglingSymbol?_encode]
  exact groups_encode 0 bs

/-! ## 4. Symbols that encode something -/

theorem of_value?_ofNat : ∀ n < 256, (value? (UInt8.ofNat n)).all
    (fun v => v < 64 && symbol v == UInt8.ofNat n) = true := by
  decide +kernel

theorem of_valueAt {offset v : Nat} {b : UInt8} (h : valueAt offset b = .ok v) : v < 64 ∧ symbol v = b := by
  have hall := of_value?_ofNat b.toNat b.toNat_lt
  unfold valueAt at h
  split at h
  · rename_i w hw
    cases h
    rw [UInt8.ofNat_toNat, hw] at hall
    simpa using hall
  · cases h

section Splits

variable {v w x y : Nat} (hv : v < 64) (hw : w < 64)

include hv hw in
theorem toNat_joined_two : (joined v w 2).toNat = v * 4 + w / 16 := by
  show (v * 4 + w / 16) % 256 = _
  omega

theorem toNat_joined_four (hx : x < 64) : (joined w x 4).toNat = w % 16 * 16 + x / 4 := by
  show (w * 16 + x / 4) % 256 = _
  omega

include hv hw

theorem encode_one (hbits : w % 16 = 0) : encode [joined v w 2] = [symbol v, symbol w] := by
  have hfirst : (v * 4 + w / 16) / 4 = v := by omega
  have hlast : (v * 4 + w / 16) % 4 * 16 = w := by omega
  rw [encode, toNat_joined_two hv hw, hfirst, hlast]

theorem encode_two (hx : x < 64) (hbits : x % 4 = 0) :
    encode [joined v w 2, joined w x 4] = [symbol v, symbol w, symbol x] := by
  have hfirst : (v * 4 + w / 16) / 4 = v := by omega
  have hsecond : (v * 4 + w / 16) % 4 * 16 + (w % 16 * 16 + x / 4) / 16 = w := by omega
  have hlast : (w % 16 * 16 + x / 4) % 16 * 4 = x := by omega
  rw [encode, toNat_joined_two hv hw, toNat_joined_four hx, hfirst, hsecond, hlast]

/-- A group is encoded as the symbols that it was made of. -/
theorem encode_groupBytes (hx : x < 64) (hy : y < 64) (rest : Bytes) :
    encode (groupBytes v w x y ++ rest) = symbol v :: symbol w :: symbol x :: symbol y :: encode rest := by
  have hthird : (joined x y 6).toNat = x % 4 * 64 + y := by
    show (x * 64 + y / 1) % 256 = _
    omega
  have h₁ : (v * 4 + w / 16) / 4 = v := by omega
  have h₂ : (v * 4 + w / 16) % 4 * 16 + (w % 16 * 16 + x / 4) / 16 = w := by omega
  have h₃ : (w % 16 * 16 + x / 4) % 16 * 4 + (x % 4 * 64 + y) / 64 = x := by omega
  have h₄ : (x % 4 * 64 + y) % 64 = y := by omega
  rw [groupBytes, List.cons_append, List.cons_append, List.cons_append, List.nil_append, encode,
    toNat_joined_two hv hw, toNat_joined_four hx, hthird, h₁, h₂, h₃, h₄]

end Splits

/-- Behind padding no symbol is taken. -/
theorem lastValues_padded {offset i p : Nat} {bs : Bytes} {vs : List Nat}
    (h : lastValues offset i (some p) bs = .ok vs) : vs = [] := by
  induction bs generalizing i with
  | nil => exact (Except.ok.inj h).symm
  | cons b bs ih =>
    unfold lastValues at h
    split at h
    · split at h
      · cases h
      · exact ih h
    · cases h

/-- The values of a last group without padding are those of its symbols. -/
theorem of_lastValues {offset i : Nat} {bs : Bytes} {vs : List Nat} (h : lastValues offset i none bs = .ok vs)
    (hlength : vs.length = bs.length) : bs = vs.map symbol ∧ ∀ v ∈ vs, v < 64 := by
  induction bs generalizing i vs with
  | nil =>
    cases h
    exact ⟨rfl, fun v hv => absurd hv List.not_mem_nil⟩
  | cons b bs ih =>
    unfold lastValues at h
    split at h
    · split at h
      · cases h
      · rw [lastValues_padded h] at hlength
        cases hlength
    · obtain ⟨v, hv, h⟩ := bind_eq_ok_iff.1 h
      obtain ⟨ws, hws, h⟩ := bind_eq_ok_iff.1 h
      cases h
      obtain ⟨hlt, rfl⟩ := of_valueAt hv
      obtain ⟨rfl, hall⟩ := ih hws (Nat.succ.inj hlength)
      exact ⟨rfl, List.forall_mem_cons.2 ⟨hlt, hall⟩⟩

/-- The unused bits of a last group have to be zero. -/
theorem of_lastGroup {offset : Nat} {bs out : Bytes} (hshort : bs.length ≤ 4)
    (h : lastGroup offset bs = .ok out) : bs = encode out := by
  unfold lastGroup at h
  split at h
  · cases h
  · rename_i vs hvalues
    split at h
    · rename_i a b rest
      split at h
      · cases h
      · rename_i hlength
        obtain ⟨rfl, hall⟩ := of_lastValues hvalues (Decidable.not_not.1 hlength)
        simp only [List.mem_cons, forall_eq_or_imp] at hall
        obtain ⟨ha, hb, hrest⟩ := hall
        split at h
        · split at h
          · rename_i hbits
            cases h
            exact (encode_one ha hb hbits).symm
          · cases h
        · rename_i c
          split at h
          · rename_i hbits
            cases h
            exact (encode_two ha hb (hrest c List.mem_cons_self) hbits).symm
          · cases h
        · rename_i c d left
          cases h
          obtain rfl : left = [] := by
            simp only [List.length_map, List.length_cons] at hshort
            exact List.length_eq_zero_iff.1 (by omega)
          have hgroup := encode_groupBytes ha hb (hrest c (by simp)) (hrest d (by simp)) []
          rw [List.append_nil] at hgroup
          exact hgroup.symm
    · split at h
      · rename_i hbs
        cases h
        exact hbs
      · cases h

theorem of_groups {offset : Nat} {bs out : Bytes} (h : groups offset bs = .ok out) : bs = encode out := by
  fun_induction groups offset bs generalizing out with
  | case1 offset a b c d e rest ih =>
    obtain ⟨v, hv, h⟩ := bind_eq_ok_iff.1 h
    obtain ⟨w, hw, h⟩ := bind_eq_ok_iff.1 h
    obtain ⟨x, hx, h⟩ := bind_eq_ok_iff.1 h
    obtain ⟨y, hy, h⟩ := bind_eq_ok_iff.1 h
    obtain ⟨bytes, hbytes, h⟩ := bind_eq_ok_iff.1 h
    cases h
    obtain ⟨hv', rfl⟩ := of_valueAt hv
    obtain ⟨hw', rfl⟩ := of_valueAt hw
    obtain ⟨hx', rfl⟩ := of_valueAt hx
    obtain ⟨hy', rfl⟩ := of_valueAt hy
    rw [encode_groupBytes hv' hw' hx' hy', ← ih hbytes]
  | case2 offset last hlast =>
    refine of_lastGroup ?_ h
    rcases last with _ | ⟨a, _ | ⟨b, _ | ⟨c, _ | ⟨d, _ | ⟨e, rest⟩⟩⟩⟩⟩
    case cons.cons.cons.cons.cons => exact absurd rfl (hlast a b c d e rest)
    all_goals simp

/-- Nothing else is decoded than encoded bytes: neither padding nor unused bits that are set. -/
theorem decode_eq_ok_iff {bs out : Bytes} : decode bs = .ok out ↔ bs = encode out := by
  refine ⟨fun h => ?_, fun h => h ▸ decode_encode out⟩
  unfold decode at h
  split at h
  · cases h
  · exact of_groups h

end RegistryAuth.Text.Base64Url
