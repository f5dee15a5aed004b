import RegistryAuth.Proofs.Token.Identifiers
import RegistryAuth.Token.Access

/-!
# Tokens and identifiers in JSON

What is written of a token or of an identifier is read back as what it was.  Bytes are read as an identifier
just if they are a document of one string, and the text that it spells is one that an identifier can have.  The
rule is applied to what is spelled, so white space is found behind an escape too.
-/

namespace RegistryAuth

open Text

theorem AccessToken.parse_print (token : AccessToken) : parse (bytesOf token.print) = .ok token := by
  -- No text is refused for a token.
  unfold parse Json.parseString print
  rw [Json.parseStringAs_of_isStringDocument .ok (Json.isStringDocument_text token.text)]
  rfl

namespace Identifier

variable {kind : Kind} {bs : Bytes} {id : Identifier kind}

theorem isUsable_text (id : Identifier kind) : IsUsable id.text :=
  exists_ofText_eq_ok_iff.1 ⟨id, ofText_eq_ok_iff.2 rfl, rfl⟩

theorem parse_print (id : Identifier kind) : parse kind (bytesOf id.print) = .ok id := by
  have hmade : ofText kind id.text = .ok id := ofText_eq_ok_iff.2 rfl
  unfold print
  rw [parse_text, hmade]
  rfl

theorem parse_eq_ok_iff :
    parse kind bs = .ok id ↔ ∃ s, Json.IsStringDocument bs s ∧ ofText kind s = .ok id := by
  unfold parse
  rw [Json.parseStringAs_eq_ok_iff]
  simp only [mapError_eq_ok_iff]

theorem isStringDocument_of_parse (h : parse kind bs = .ok id) : Json.IsStringDocument bs id.text := by
  obtain ⟨s, hdoc, hmade⟩ := parse_eq_ok_iff.1 h
  rwa [ofText_eq_ok_iff.1 hmade] at hdoc

theorem exists_parse_eq_ok_iff :
    (∃ id, parse kind bs = .ok id) ↔ ∃ s, Json.IsStringDocument bs s ∧ IsUsable s := by
  constructor
  · rintro ⟨id, hid⟩
    exact ⟨id.text, isStringDocument_of_parse hid, id.isUsable_text⟩
  · rintro ⟨s, hdoc, husable⟩
    obtain ⟨id, hmade, -⟩ := ofText_of_isUsable husable kind
    exact ⟨id, parse_eq_ok_iff.2 ⟨s, hdoc, hmade⟩⟩

/-- Tokens and identifiers are read back from their JSON.  Any bytes are read as an identifier just if they are
a document of one string of whose text one can be made, and as the one that is made of it; the document of any
other string is refused for what is wrong with its text. -/
theorem identifier_parses_iff_string_document :
    (∀ token : AccessToken, AccessToken.parse (bytesOf token.print) = .ok token) ∧
      ∀ kind : Kind,
        (∀ id : Identifier kind, parse kind (bytesOf id.print) = .ok id) ∧
        (∀ bs id, parse kind bs = .ok id ↔ ∃ s, Json.IsStringDocument bs s ∧ ofText kind s = .ok id) ∧
        (∀ bs, (∃ id, parse kind bs = .ok id) ↔ ∃ s, Json.IsStringDocument bs s ∧ IsUsable s) ∧
        (∀ bs id, parse kind bs = .ok id → Json.IsStringDocument bs id.text ∧ IsUsable id.text) ∧
        ∀ bs s, Json.IsStringDocument bs s →
          parse kind bs = (ofText kind s).mapError fun f => .mismatch (.rejected f.message) := by
  refine ⟨AccessToken.parse_print, fun kind => ⟨parse_print, ?_, ?_, ?_, ?_⟩⟩
  · intro bs id
    exact parse_eq_ok_iff
  · intro bs
    exact exists_parse_eq_ok_iff
  · intro bs id hid
    exact ⟨isStringDocument_of_parse hid, id.isUsable_text⟩
  · intro bs s hdoc
    exact parse_of_isStringDocument kind hdoc

section Escaped

open Json

/-- A string in front of a line break, with an escape for each half of its first character. -/
def pairedBytes : Bytes :=
  bytesOf "\"\\ud83d\\uDE00\\/\"\n"

/-- A string with a blank beyond ASCII, which is written as an escape. -/
def blankedBytes : Bytes :=
  bytesOf "\"t\\u00a01\""

theorem isStringDocument_paired : IsStringDocument pairedBytes "😀/" := by
  have hhigh : IsCodeUnit ['d', '8', '3', 'd'] 0xD83D :=
    .digits (i := 13) (j := 8) (k := 3) (l := 13) rfl rfl rfl rfl
  have hlow : IsCodeUnit ['D', 'E', '0', '0'] 0xDE00 :=
    .digits (i := 13) (j := 14) (k := 0) (l := 0) rfl rfl rfl rfl
  have hface : IsEscape _ '😀' := .pair hhigh hlow (by decide) (by decide) (by decide)
  have hslash : IsEscape ['\\', '/'] '/' := .short (by decide)
  have hspace : IsSpace ['\n'] := by
    intro c hc
    exact .inr (.inr (.inl (List.mem_singleton.1 hc)))
  exact ⟨[], _, ['\n'], rfl, isSpace_nil, hspace, .escape hface (.escape hslash .nil)⟩

theorem isStringDocument_blanked : IsStringDocument blankedBytes "t\u00a01" := by
  have hblank : IsCodeUnit ['0', '0', 'a', '0'] ('\u00a0' : Char).toNat :=
    .digits (i := 0) (j := 0) (k := 10) (l := 0) rfl rfl rfl rfl
  have hone : Spells ['1'] ['1'] := .plain (by decide) (by decide) (by decide) .nil
  exact ⟨[], _, [], rfl, isSpace_nil, isSpace_nil,
    .plain (by decide) (by decide) (by decide) (.escape (.unit hblank) hone)⟩

end Escaped

theorem serialization_of_escaped_strings :
    Json.IsStringDocument pairedBytes "😀/" ∧
      (∃ id, ofText .tenant "😀/" = .ok id ∧ parse .tenant pairedBytes = .ok id ∧
        Json.IsStringDocument pairedBytes id.text ∧ IsUsable id.text) ∧
      Json.IsStringDocument blankedBytes "t\u00a01" ∧
      parse .tenant blankedBytes = .error (.mismatch (.rejected "Tenant identifier contains whitespace.")) := by
  obtain ⟨-, hread, -, hsound, hdocument⟩ := identifier_parses_iff_string_document.2 .tenant
  have hmade : ofText .tenant "😀/" = .ok ⟨"😀/", by decide⟩ := ofText_eq_ok_iff.2 rfl
  have hparse := (hread pairedBytes _).2 ⟨"😀/", isStringDocument_paired, hmade⟩
  have hblank : Refused .tenant "t\u00a01" (.blank .tenant) := .blank (c := '\u00a0') (by decide) (by decide)
  have hpaired := hsound pairedBytes _ hparse
  refine ⟨isStringDocument_paired, ⟨_, hmade, hparse, hpaired⟩, isStringDocument_blanked, ?_⟩
  rw [hdocument blankedBytes _ isStringDocument_blanked, ofText_of_refused hblank]
  rfl

end Identifier

end RegistryAuth
