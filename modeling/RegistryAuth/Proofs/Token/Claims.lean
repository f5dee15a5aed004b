import RegistryAuth.Proofs.Json.Restoring
import RegistryAuth.Proofs.Text.Base64Url
import RegistryAuth.Proofs.Text.Decimals
import RegistryAuth.Proofs.Text.Parts
import RegistryAuth.Token.Claims

/-!
# Claims are had back

An unsigned token holds the claims that it was made of, whatever padding its payload has:
`Claims.unsigned_decodes_to_its_members`.
-/

namespace RegistryAuth

open Text Text.Utf8

/-! ## 1. Payloads -/

namespace AccessToken

/-- The character of a symbol is the symbol in UTF-8, and neither of the signs that have a meaning besides. -/
theorem char_symbol : ∀ v < 64,
    String.utf8EncodeChar (Char.ofNat (Base64Url.symbol v).toNat) = [Base64Url.symbol v] ∧
      Char.ofNat (Base64Url.symbol v).toNat ≠ '.' ∧ Char.ofNat (Base64Url.symbol v).toNat ≠ '=' := by
  decide

theorem encode_base64Text (bs : Bytes) : Utf8.encode (base64Text bs) = Base64Url.encode bs := by
  have hsymbols (symbols : Bytes) (h : ∀ b ∈ symbols, ∃ v < 64, b = Base64Url.symbol v) :
      Utf8.encode (symbols.map fun b => Char.ofNat b.toNat) = symbols := by
    induction symbols with
    | nil => rfl
    | cons b symbols ih =>
      obtain ⟨v, hv, rfl⟩ := h b List.mem_cons_self
      rw [List.map_cons, encode_cons, (char_symbol v hv).1, List.singleton_append,
        ih fun b' hb' => h b' (List.mem_cons_of_mem _ hb')]
  exact hsymbols _ fun _ => Base64Url.exists_of_mem_encode

theorem ne_of_mem_base64Text {bs : Bytes} {c : Char} (hc : c ∈ base64Text bs) : c ≠ '.' ∧ c ≠ '=' := by
  obtain ⟨b, hb, rfl⟩ := List.mem_map.1 hc
  obtain ⟨v, hv, rfl⟩ := Base64Url.exists_of_mem_encode hb
  exact (char_symbol v hv).2

/-- The token with padding signs behind its payload; a token that has none is kept. -/
def padded (token : AccessToken) (n : Nat) : AccessToken :=
  match splitAt '.' token.text.toList with
  | [header, payload, signature] =>
    ⟨String.ofList (['.'].intercalate [header, payload ++ List.replicate n '=', signature])⟩
  | _ => token

theorem splitAt_parts {payload : List Char} (h : '.' ∉ payload) :
    splitAt '.' (['.'].intercalate [base64Text unsignedHeader, payload, placeholderSignature]) =
      [base64Text unsignedHeader, payload, placeholderSignature] := by
  have hheader : '.' ∉ base64Text unsignedHeader := fun hc => (ne_of_mem_base64Text hc).1 rfl
  have hsignature : '.' ∉ placeholderSignature := by decide
  refine splitAt_intercalate (List.cons_ne_nil _ _) fun p hp => ?_
  simp only [List.mem_cons, List.not_mem_nil, or_false] at hp
  rcases hp with rfl | rfl | rfl
  · exact hheader
  · exact h
  · exact hsignature

theorem middlePart?_unsigned (payload : Json) (n : Nat) :
    Claims.middlePart? ((unsigned payload).padded n).text.toList =
      some (base64Text (Utf8.encode payload.print) ++ List.replicate n '=') := by
  have hpayload : '.' ∉ base64Text (Utf8.encode payload.print) := fun hc => (ne_of_mem_base64Text hc).1 rfl
  have hpadded : '.' ∉ base64Text (Utf8.encode payload.print) ++ List.replicate n '=' := by
    simp [hpayload]
  have hsplit : splitAt '.' (unsigned payload).text.toList =
      [base64Text unsignedHeader, base64Text (Utf8.encode payload.print), placeholderSignature] := by
    rw [unsigned, String.toList_ofList, splitAt_parts hpayload]
  unfold padded Claims.middlePart?
  simp only [hsplit, String.toList_ofList, splitAt_parts hpadded]

theorem payloadBytes_padded (bs : Bytes) (n : Nat) :
    Claims.payloadBytes (base64Text bs ++ List.replicate n '=') = .ok bs := by
  have hnone : '=' ∉ base64Text bs := fun h => (ne_of_mem_base64Text h).2 rfl
  rw [Claims.payloadBytes, trimEndWhile_append_replicate hnone, encode_base64Text, Base64Url.decode_encode]

end AccessToken

/-! ## 2. Claims -/

namespace Claims

theorem decode_padded {members : List (String × Json)} (h : Json.IsExact 127 (.object members)) (n : Nat) :
    decode ((AccessToken.unsigned (.object members)).padded n) = .ok ⟨members⟩ := by
  unfold decode
  simp only [AccessToken.middlePart?_unsigned, AccessToken.payloadBytes_padded, Json.parseObject_print h]

/-- The claims of an unsigned token are the members of the object that it was made of, however its payload
is padded. -/
theorem unsigned_decodes_to_its_members {members : List (String × Json)}
    (h : Json.IsExact 127 (.object members)) (n : Nat) :
    ∃ claims, decode ((AccessToken.unsigned (.object members)).padded n) = .ok claims ∧
      claims.members = members ∧
      (∀ name v, claims.get? name = some v ↔ (name, v) ∈ members) ∧
      ∀ name, claims.get? name = none ↔ ∀ m ∈ members, m.1 ≠ name := by
  cases h with
  | object hsorted hmembers =>
    exact ⟨⟨members⟩, decode_padded (.object hsorted hmembers) n, rfl,
      fun _ _ => Json.find?_eq_some_iff hsorted, fun _ => Json.find?_eq_none_iff⟩

def nestedClaims : List (String × Json) :=
  [("exp", .number (.whole 18446744073709551615)),
    ("roles", .array [.null, .bool true, .object [("", .number (.whole (-9223372036854775808)))]]),
    ("tid", .string "a\"b\\c\n\x01é"), ("tidé", .object [])]

theorem unsigned_decodes_to_nested_members :
    Json.IsExact 127 (.object nestedClaims) ∧
      ∃ claims, decode ((AccessToken.unsigned (.object nestedClaims)).padded 3) = .ok claims ∧
        claims.members = nestedClaims ∧
        (∀ name v, claims.get? name = some v ↔ (name, v) ∈ nestedClaims) ∧
        ∀ name, claims.get? name = none ↔ ∀ m ∈ nestedClaims, m.1 ≠ name := by
  have hnumber : Json.IsExact 124 (.number (.whole (-9223372036854775808))) := .whole (by decide) (by decide)
  have hinner : Json.IsExact 125 (.object [("", .number (.whole (-9223372036854775808)))]) :=
    .object (by decide) fun m hm => List.mem_singleton.1 hm ▸ hnumber
  have hroles : Json.IsExact 126
      (.array [.null, .bool true, .object [("", .number (.whole (-9223372036854775808)))]]) := by
    refine .array fun v hv => ?_
    simp only [List.mem_cons, List.not_mem_nil, or_false] at hv
    rcases hv with rfl | rfl | rfl
    · exact .null
    · exact .bool true
    · exact hinner
  have hexact : Json.IsExact 127 (.object nestedClaims) := by
    refine .object (by decide) fun m hm => ?_
    simp only [nestedClaims, List.mem_cons, List.not_mem_nil, or_false] at hm
    rcases hm with rfl | rfl | rfl | rfl
    · exact .whole (by decide) (by decide)
    · exact hroles
    · exact .string _
    · exact .object .nil fun m hm => absurd hm List.not_mem_nil
  exact ⟨hexact, unsigned_decodes_to_its_members hexact 3⟩

end Claims

end RegistryAuth
