import RegistryAuth.Proofs.Json.Strings
import RegistryAuth.Token.Identifier

/-!
# What is taken for an identifier

A text is taken for an identifier just if it is not empty, holds no white space and has at most 512 bytes,
be it given as it is or in JSON.  The bound is told as one of characters.  It is that for texts of ASCII only:
any other text has more bytes than characters, and is refused with fewer of them.
-/

namespace RegistryAuth

open Text

/-! ## 1. Bytes and characters -/

theorem utf8ByteSize_eq (s : String) : s.utf8ByteSize = (s.toList.map Char.utf8Size).sum := by
  conv_lhs => rw [← String.ofList_toList (s := s)]
  rw [← String.size_toByteArray, String.toByteArray_ofList, List.utf8Encode]
  simp

/-- A text has at least as many bytes as characters, and at most four times as many. -/
theorem utf8ByteSize_bounds (s : String) : s.length ≤ s.utf8ByteSize ∧ s.utf8ByteSize ≤ 4 * s.length := by
  rw [utf8ByteSize_eq, ← String.length_toList]
  induction s.toList with
  | nil => exact ⟨Nat.le_refl 0, Nat.le_refl 0⟩
  | cons c cs ih =>
    have hpos := c.utf8Size_pos
    have hle := c.utf8Size_le_four
    rw [List.map_cons, List.sum_cons, List.length_cons]
    omega

theorem utf8Size_eq_one_iff_isAscii (c : Char) : c.utf8Size = 1 ↔ isAscii c = true := by
  have htoNat : c.val.toNat = c.toNat := rfl
  rw [Char.utf8Size_eq_one_iff, UInt32.le_iff_toNat_le, htoNat, isAscii, decide_eq_true_eq]
  exact Nat.lt_succ_iff.symm

/-- A text has as many bytes as characters just if it is one of ASCII. -/
theorem utf8ByteSize_eq_length_iff (s : String) :
    s.utf8ByteSize = s.length ↔ ∀ c ∈ s.toList, isAscii c = true := by
  have hsum (cs : List Char) : cs.length ≤ (cs.map Char.utf8Size).sum ∧
      ((cs.map Char.utf8Size).sum = cs.length ↔ ∀ c ∈ cs, isAscii c = true) := by
    induction cs with
    | nil => simp
    | cons c cs ih =>
      have hpos := c.utf8Size_pos
      rw [List.map_cons, List.sum_cons, List.length_cons, List.forall_mem_cons, ← ih.2,
        ← utf8Size_eq_one_iff_isAscii]
      omega
  rw [utf8ByteSize_eq, ← String.length_toList]
  exact (hsum s.toList).2

/-! ## 2. Identifiers -/

namespace Identifier

/-- Whether a text is one that an identifier can have. -/
structure IsUsable (s : String) : Prop where
  ne_empty : s ≠ ""
  not_blank : ∀ c ∈ s.toList, isBlank c = false
  short : s.utf8ByteSize ≤ 512

/-- Why a text is refused.  What it holds counts before its length. -/
inductive Refused (kind : Kind) (s : String) : Fault → Prop
  | empty (h : s = "") : Refused kind s (.empty kind)
  | blank {c : Char} (hc : c ∈ s.toList) (h : isBlank c = true) : Refused kind s (.blank kind)
  | tooLong (hblank : ∀ c ∈ s.toList, isBlank c = false) (h : 512 < s.utf8ByteSize) :
    Refused kind s (.tooLong kind)

variable {kind : Kind} {s : String} {f : Fault}

theorem IsUsable.fault?_eq (h : IsUsable s) (kind : Kind) : fault? kind s = none := by
  have hempty : ¬ s.isEmpty = true := fun heq => h.ne_empty (String.isEmpty_iff.1 heq)
  have hblank : s.toList.any isBlank = false := by simpa [List.any_eq_false] using h.not_blank
  have hlong : ¬ maxLength < s.utf8ByteSize := Nat.not_lt.2 h.short
  unfold fault?
  rw [if_neg hempty, if_neg (Bool.eq_false_iff.1 hblank), if_neg hlong]

theorem Refused.fault?_eq (h : Refused kind s f) : fault? kind s = some f := by
  unfold fault?
  cases h with
  | empty h => rw [if_pos (String.isEmpty_iff.2 h)]
  | @blank c hc h =>
    have hempty : ¬ s.isEmpty = true := by
      intro heq
      rw [String.isEmpty_iff.1 heq] at hc
      cases hc
    rw [if_neg hempty, if_pos (List.any_eq_true.2 ⟨c, hc, h⟩)]
  | tooLong hblank h =>
    have hempty : ¬ s.isEmpty = true := by
      intro heq
      rw [String.isEmpty_iff.1 heq, String.utf8ByteSize_empty] at h
      omega
    have hany : s.toList.any isBlank = false := by simpa [List.any_eq_false] using hblank
    rw [if_neg hempty, if_neg (Bool.eq_false_iff.1 hany), if_pos (show maxLength < s.utf8ByteSize from h)]

theorem isUsable_or_refused (kind : Kind) (s : String) : IsUsable s ∨ ∃ f, Refused kind s f := by
  by_cases hempty : s = ""
  · exact .inr ⟨_, .empty hempty⟩
  by_cases hblank : ∀ c ∈ s.toList, isBlank c = false
  · by_cases hlong : 512 < s.utf8ByteSize
    · exact .inr ⟨_, .tooLong hblank hlong⟩
    · exact .inl ⟨hempty, hblank, Nat.le_of_not_lt hlong⟩
  · obtain ⟨c, hc, hcblank⟩ : ∃ c ∈ s.toList, isBlank c = true := by simpa using hblank
    exact .inr ⟨_, .blank hc hcblank⟩

theorem ofText_eq_ok_iff {id : Identifier kind} : ofText kind s = .ok id ↔ s = id.text := by
  unfold ofText
  constructor
  · intro h
    split at h
    · cases h
      rfl
    · cases h
  · rintro rfl
    split
    · rfl
    · rename_i fault hfault
      rw [id.isSound] at hfault
      cases hfault

theorem ofText_of_isUsable (h : IsUsable s) (kind : Kind) : ∃ id, ofText kind s = .ok id ∧ id.text = s :=
  ⟨⟨s, h.fault?_eq kind⟩, ofText_eq_ok_iff.2 rfl, rfl⟩

theorem ofText_of_refused (h : Refused kind s f) : ofText kind s = .error f := by
  have hsome := h.fault?_eq
  unfold ofText
  split
  · rename_i hnone
    cases hsome.symm.trans hnone
  · rename_i f' hf'
    rw [Option.some.inj (hsome.symm.trans hf')]

theorem exists_ofText_eq_ok_iff : (∃ id, ofText kind s = .ok id ∧ id.text = s) ↔ IsUsable s := by
  refine ⟨?_, fun h => ofText_of_isUsable h kind⟩
  rintro ⟨id, hid, -⟩
  rcases isUsable_or_refused kind s with h | ⟨f, h⟩
  · exact h
  · cases hid.symm.trans (ofText_of_refused h)

theorem ofText_eq_error_iff : ofText kind s = .error f ↔ Refused kind s f := by
  refine ⟨fun hf => ?_, ofText_of_refused⟩
  rcases isUsable_or_refused kind s with h | ⟨f', h⟩
  · obtain ⟨id, hid, -⟩ := ofText_of_isUsable h kind
    cases hid.symm.trans hf
  · rwa [Except.error.inj (hf.symm.trans (ofText_of_refused h))]

/-- In JSON a text is taken for the identifier that it is taken for as it is, or refused with the same
message. -/
theorem parse_of_isStringDocument (kind : Kind) {bs : Bytes} (h : Json.IsStringDocument bs s) :
    parse kind bs = (ofText kind s).mapError fun f => .mismatch (.rejected f.message) := by
  unfold parse
  rw [Json.parseStringAs_of_isStringDocument _ h]
  cases ofText kind s <;> rfl

theorem parse_text (kind : Kind) (s : String) :
    parse kind (bytesOf (Json.string s).text) =
      (ofText kind s).mapError fun f => .mismatch (.rejected f.message) :=
  parse_of_isStringDocument kind (Json.isStringDocument_text s)

/-- Every way of making an identifier of a text takes and refuses the same texts, for the same reasons.  The
length that counts is that in bytes, which is at least the number of characters, and the same just for texts of
ASCII. -/
theorem identifier_is_made_iff_usable (kind : Kind) (s : String) :
    ((∃ id, ofText kind s = .ok id ∧ id.text = s) ↔ IsUsable s) ∧
    (∀ f, ofText kind s = .error f ↔ Refused kind s f) ∧
    parse kind (bytesOf (Json.string s).text) =
      (ofText kind s).mapError (fun f => .mismatch (.rejected f.message)) ∧
    (s.length ≤ s.utf8ByteSize ∧ s.utf8ByteSize ≤ 4 * s.length) ∧
    (s.utf8ByteSize = s.length ↔ ∀ c ∈ s.toList, isAscii c = true) :=
  ⟨exists_ofText_eq_ok_iff, fun _ => ofText_eq_error_iff, parse_text kind s, utf8ByteSize_bounds s,
    utf8ByteSize_eq_length_iff s⟩

/-- A text of 257 characters, each of two bytes, is too long. -/
theorem accented_text_is_too_long :
    ofText .client (String.ofList (List.replicate 257 'é')) = .error (.tooLong .client) ∧
      ¬ ∀ (kind : Kind) (s : String), (∃ id, ofText kind s = .ok id) ↔
        s ≠ "" ∧ (∀ c ∈ s.toList, isBlank c = false) ∧ s.length ≤ 512 := by
  have hchars : ∀ c ∈ (String.ofList (List.replicate 257 'é')).toList, c = 'é' := by
    intro c hc
    rw [String.toList_ofList] at hc
    exact List.eq_of_mem_replicate hc
  have hblank : ∀ c ∈ (String.ofList (List.replicate 257 'é')).toList, isBlank c = false :=
    fun c hc => hchars c hc ▸ by decide
  have hbytes : (String.ofList (List.replicate 257 'é')).utf8ByteSize = 514 := by decide +kernel
  have hlength : (String.ofList (List.replicate 257 'é')).length = 257 := by
    rw [← String.length_toList, String.toList_ofList, List.length_replicate]
  have hrefused : ofText .client (String.ofList (List.replicate 257 'é')) = .error (.tooLong .client) :=
    ofText_of_refused (.tooLong hblank (by omega))
  refine ⟨hrefused, fun hall => ?_⟩
  have hne : String.ofList (List.replicate 257 'é') ≠ "" := by
    intro heq
    rw [heq] at hlength
    cases hlength
  obtain ⟨id, hid⟩ := (hall .client _).2 ⟨hne, hblank, by omega⟩
  rw [hrefused] at hid
  cases hid

end Identifier

end RegistryAuth
