import RegistryAuth.Proofs.Token.Claims

/-!
# Tokens that are decoded

A token is decoded exactly if it is a compact JWT: its text has two points, and what stands between them is an
object in base64url, padded or not.  Nothing else of the text matters: `Claims.decodes_iff_compact`.
-/

namespace RegistryAuth

open Text Text.Utf8

namespace Claims

/-! ## 1. The middle part -/

/-- Whether a text has exactly two points, and what stands between them. -/
def IsMiddle (payload text : List Char) : Prop :=
  text.count '.' = 2 ∧ ∃ header signature, text = header ++ '.' :: (payload ++ '.' :: signature)

theorem middlePart?_eq_some_iff {text payload : List Char} :
    middlePart? text = some payload ↔ IsMiddle payload text := by
  have hjoined (header middle signature : List Char) :
      ['.'].intercalate [header, middle, signature] = header ++ '.' :: (middle ++ '.' :: signature) := by
    simp [List.intercalate_cons_cons]
  constructor
  · intro h
    unfold middlePart? at h
    split at h
    · rename_i header middle signature hsplit
      cases h
      have hnone (part : List Char) (hpart : part ∈ [header, payload, signature]) : part.count '.' = 0 :=
        List.count_eq_zero.2 (not_mem_of_mem_splitAt (hsplit ▸ hpart))
      have htext := intercalate_splitAt '.' text
      rw [hsplit, hjoined] at htext
      refine ⟨?_, header, signature, htext.symm⟩
      rw [← htext]
      simp [hnone header (by simp), hnone payload (by simp), hnone signature (by simp)]
    · cases h
  · rintro ⟨hcount, header, signature, rfl⟩
    simp only [List.count_append, List.count_cons_self] at hcount
    have hnone : ∀ part ∈ [header, payload, signature], '.' ∉ part := by
      simp only [List.forall_mem_cons, ← List.count_eq_zero]
      exact ⟨by omega, by omega, by omega, fun part hpart => absurd hpart List.not_mem_nil⟩
    have hsplit := splitAt_intercalate (List.cons_ne_nil header [payload, signature]) hnone
    rw [hjoined] at hsplit
    rw [middlePart?, hsplit]

/-! ## 2. The payload -/

/-- The bytes of a payload are those that it is the base64url of, but for signs of padding at its end. -/
theorem payloadBytes_eq_ok_iff {payload : List Char} {bs : Bytes} :
    payloadBytes payload = .ok bs ↔ ∃ n, payload = AccessToken.base64Text bs ++ List.replicate n '=' := by
  constructor
  · intro h
    rw [payloadBytes, Base64Url.decode_eq_ok_iff, ← AccessToken.encode_base64Text, encode_inj] at h
    rw [← h]
    exact exists_trimEndWhile_append_replicate '=' payload
  · rintro ⟨n, rfl⟩
    exact AccessToken.payloadBytes_padded bs n

/-! ## 3. Tokens -/

/-- Whether a text is a compact JWT of these claims: the part between its points is the base64url of a
document that denotes them as an object, with any number of signs of padding. -/
def IsCompact (claims : Claims) (text : List Char) : Prop :=
  ∃ payload bs n, IsMiddle payload text ∧ payload = AccessToken.base64Text bs ++ List.replicate n '=' ∧
    Json.IsDocument bs (.object claims.members)

theorem decode_eq_ok_iff {token : AccessToken} {claims : Claims} :
    decode token = .ok claims ↔ IsCompact claims token.text.toList := by
  constructor
  · intro h
    unfold decode at h
    split at h
    · cases h
    · rename_i payload hmiddle
      split at h
      · cases h
      · rename_i bs hbytes
        split at h
        · cases h
        · rename_i members hparse
          cases h
          obtain ⟨n, hpayload⟩ := payloadBytes_eq_ok_iff.1 hbytes
          exact ⟨payload, bs, n, middlePart?_eq_some_iff.1 hmiddle, hpayload, Json.parseObject_eq_ok_iff.1 hparse⟩
  · rintro ⟨payload, bs, n, hmiddle, hpayload, hdoc⟩
    have hmiddle := middlePart?_eq_some_iff.2 hmiddle
    have hbytes := payloadBytes_eq_ok_iff.2 ⟨n, hpayload⟩
    have hparse := Json.parseObject_eq_ok_iff.2 hdoc
    simp only [decode, hmiddle, hbytes, hparse]

/-- What is not decoded is malformed as a whole. -/
theorem decode_eq_error {token : AccessToken} {f : Fault} (h : decode token = .error f) :
    ∃ reason, f = .malformed payloadName reason := by
  unfold decode at h
  split at h
  · cases h
    exact ⟨_, rfl⟩
  · split at h
    · cases h
      exact ⟨_, rfl⟩
    · split at h
      · cases h
        exact ⟨_, rfl⟩
      · cases h

theorem decode_congr {token other : AccessToken}
    (h : middlePart? other.text.toList = middlePart? token.text.toList) : decode other = decode token := by
  simp only [decode, h]

/-- A token is decoded as the claims that it is a compact JWT of.  Any other token has a malformed payload.
Beside the middle part only the number of points matters. -/
theorem decodes_iff_compact (token : AccessToken) :
    (∀ claims, decode token = .ok claims ↔ IsCompact claims token.text.toList) ∧
      ((¬ ∃ claims, IsCompact claims token.text.toList) →
        ∃ reason, decode token = .error (.malformed "payload" reason)) ∧
      ∀ other payload, IsMiddle payload token.text.toList → IsMiddle payload other.text.toList →
        decode other = decode token := by
  refine ⟨fun claims => decode_eq_ok_iff, fun hnone => ?_, fun other payload h h' => ?_⟩
  · cases hdecode : decode token with
    | error f =>
      obtain ⟨reason, rfl⟩ := decode_eq_error hdecode
      exact ⟨reason, rfl⟩
    | ok claims => exact absurd ⟨claims, decode_eq_ok_iff.1 hdecode⟩ hnone
  · apply decode_congr
    rw [middlePart?_eq_some_iff.2 h, middlePart?_eq_some_iff.2 h']

/-- White space before an object that has a member twice. -/
def repeatedBytes : Bytes :=
  " \x7b\"a\":1,\"a\":null\x7d".toList.map Json.byte

theorem isDocument_repeated : Json.IsDocument repeatedBytes (.object [("a", .null)]) := by
  have hname : Json.IsText "a" [0x22, 0x61, 0x22] := by
    have hplain : Json.IsPlain 0x61 := ⟨by decide, by decide, by decide⟩
    exact ⟨[0x61], [0x61], rfl, .plain hplain .nil, rfl⟩
  have hwhole : Json.Denotes 126 (Utf8.encode (Json.wholeText 1)) (.number (.whole 1)) :=
    .number (.whole (by decide) (by decide))
  have hbody := Json.DenotesMembers.next Json.isLead_nil hname .nil .nil hwhole
    (.next Json.isLead_comma hname .nil .nil .null (.close .nil))
  have hmembers : Json.Resolves [("a", .number (.whole 1)), ("a", .null)] [("a", .null)] :=
    Json.resolves_iff.2 rfl
  have hgap : Json.IsGap [0x20] := fun b hb => List.mem_singleton.1 hb ▸ rfl
  exact ⟨[0x20], _, [], by decide, hgap, .nil, .object hbody hmembers⟩

def repeatedToken : AccessToken :=
  ⟨"e30.IHsiYSI6MSwiYSI6bnVsbH0=."⟩

theorem decode_repeated :
    IsCompact ⟨[("a", .null)]⟩ repeatedToken.text.toList ∧
      decode repeatedToken = .ok ⟨[("a", .null)]⟩ ∧
      (¬ ∃ claims, IsCompact claims "e30".toList) ∧
      (∃ reason, decode ⟨"e30"⟩ = .error (.malformed "payload" reason)) ∧
      IsMiddle "IHsiYSI6MSwiYSI6bnVsbH0=".toList repeatedToken.text.toList ∧
      IsMiddle "IHsiYSI6MSwiYSI6bnVsbH0=".toList "é.IHsiYSI6MSwiYSI6bnVsbH0=. ".toList ∧
      decode ⟨"é.IHsiYSI6MSwiYSI6bnVsbH0=. "⟩ = decode repeatedToken := by
  have hmiddle : IsMiddle "IHsiYSI6MSwiYSI6bnVsbH0=".toList repeatedToken.text.toList :=
    ⟨by decide, "e30".toList, [], by decide⟩
  have hmiddle' : IsMiddle "IHsiYSI6MSwiYSI6bnVsbH0=".toList "é.IHsiYSI6MSwiYSI6bnVsbH0=. ".toList :=
    ⟨by decide, ['é'], [' '], by decide⟩
  have hcompact : IsCompact ⟨[("a", .null)]⟩ repeatedToken.text.toList :=
    ⟨_, repeatedBytes, 1, hmiddle, by decide, isDocument_repeated⟩
  have hnone : ¬ ∃ claims, IsCompact claims "e30".toList := by
    rintro ⟨claims, payload, bs, n, ⟨hcount, -⟩, -⟩
    exact absurd hcount (by decide)
  exact ⟨hcompact, ((decodes_iff_compact repeatedToken).1 _).2 hcompact, hnone,
    (decodes_iff_compact ⟨"e30"⟩).2.1 hnone, hmiddle, hmiddle',
    (decodes_iff_compact repeatedToken).2.2 ⟨"é.IHsiYSI6MSwiYSI6bnVsbH0=. "⟩ _ hmiddle hmiddle'⟩

end Claims

end RegistryAuth
