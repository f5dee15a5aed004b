import RegistryAuth.Proofs.Json.Documents
import RegistryAuth.Proofs.Json.Printing
import RegistryAuth.Proofs.Results
import RegistryAuth.Proofs.Text.Lossy

/-!
# Documents that are one string

The grammar of strings over characters: most characters stand for themselves, a backslash begins an escape,
and two escapes may write the halves of one character.  Bytes are a string just if they encode a text of this
grammar, so nothing that is no UTF-8 is one: `isText_iff`.  A reader that wants a string takes exactly such
documents, and makes of one what it makes of the text that the string spells: `parseStringAs_eq_ok_iff`.
-/

namespace RegistryAuth.Json

open Text (Bytes bytesOf)
open Text.Utf8

/-! ## 1. What a text spells -/

/-- What may stand behind a backslash, with the character that is meant; `u` and its digits apart. -/
def shortEscapes : List (Char × Char) :=
  [('"', '"'), ('\\', '\\'), ('/', '/'), ('b', '\x08'), ('f', '\x0c'), ('n', '\n'), ('r', '\r'), ('t', '\t')]

/-- Four hexadecimal digits and the number that they write. -/
inductive IsCodeUnit : List Char → Nat → Prop
  | digits {a b c d : Char} {i j k l : Nat} (ha : Text.hexValue? a = some i) (hb : Text.hexValue? b = some j)
    (hc : Text.hexValue? c = some k) (hd : Text.hexValue? d = some l) :
    IsCodeUnit [a, b, c, d] (((i * 16 + j) * 16 + k) * 16 + l)

/-- An escape and the character that it stands for. -/
inductive IsEscape : List Char → Char → Prop
  | short {e c : Char} (h : (e, c) ∈ shortEscapes) : IsEscape ['\\', e] c
  -- No character has the number of a surrogate, so neither half of a pair can stand alone.
  | unit {c : Char} {ds : List Char} (hds : IsCodeUnit ds c.toNat) : IsEscape ('\\' :: 'u' :: ds) c
  | pair {c : Char} {ds ds' : List Char} {n n' : Nat} (hds : IsCodeUnit ds n) (hds' : IsCodeUnit ds' n')
    (hhigh : 0xD800 ≤ n ∧ n ≤ 0xDBFF) (hlow : 0xDC00 ≤ n' ∧ n' ≤ 0xDFFF)
    (hc : c.toNat = 0x10000 + (n - 0xD800) * 0x400 + (n' - 0xDC00)) :
    IsEscape ('\\' :: 'u' :: (ds ++ '\\' :: 'u' :: ds')) c

/-- What stands between the quotes of a string, and the characters that it spells. -/
inductive Spells : List Char → List Char → Prop
  | nil : Spells [] []
  | plain {c : Char} {raw cs : List Char} (hquote : c ≠ '"') (hslash : c ≠ '\\') (hcontrol : 0x20 ≤ c.toNat)
    (h : Spells raw cs) : Spells (c :: raw) (c :: cs)
  | escape {c : Char} {e raw cs : List Char} (he : IsEscape e c) (h : Spells raw cs) : Spells (e ++ raw) (c :: cs)

/-- White space around a document. -/
def IsSpace (cs : List Char) : Prop :=
  ∀ c ∈ cs, c = ' ' ∨ c = '\t' ∨ c = '\n' ∨ c = '\r'

/-- Whether bytes are a text of nothing but a string, and what the string spells. -/
def IsStringDocument (bs : Bytes) (s : String) : Prop :=
  ∃ gap raw gap', bs = encode (gap ++ '"' :: (raw ++ '"' :: gap')) ∧ IsSpace gap ∧ IsSpace gap' ∧
    Spells raw s.toList

/-! ## 2. Escapes in bytes -/

theorem encode_cons_byte {c : Char} (h : c.toNat < 0x80) (cs : List Char) :
    encode (c :: cs) = byte c :: encode cs :=
  encode_cons_of_ascii h cs

theorem shortEscape?_byte {e c : Char} (h : (e, c) ∈ shortEscapes) :
    shortEscape? (byte e) = some (byte c) ∧ e.toNat < 0x80 ∧ c.toNat < 0x80 := by
  have hall : (shortEscapes.all fun p => shortEscape? (byte p.1) == some (byte p.2) &&
      decide (p.1.toNat < 0x80) && decide (p.2.toNat < 0x80)) = true := by decide
  simpa [and_assoc] using List.all_eq_true.1 hall (e, c) h

theorem exists_shortEscape {b o : UInt8} (h : shortEscape? b = some o) :
    ∃ e c, (e, c) ∈ shortEscapes ∧ b = byte e ∧ o = byte c := by
  unfold shortEscape? at h
  by_cases hself : b = byte '"' ∨ b = byte '\\' ∨ b = byte '/'
  · rw [if_pos hself] at h
    cases h
    rcases hself with rfl | rfl | rfl
    · exact ⟨'"', '"', by decide, rfl, rfl⟩
    · exact ⟨'\\', '\\', by decide, rfl, rfl⟩
    · exact ⟨'/', '/', by decide, rfl, rfl⟩
  rw [if_neg hself] at h
  repeat' split at h
  all_goals cases h
  all_goals subst b
  · exact ⟨'b', '\x08', by decide, rfl, rfl⟩
  · exact ⟨'f', '\x0c', by decide, rfl, rfl⟩
  · exact ⟨'n', '\n', by decide, rfl, rfl⟩
  · exact ⟨'r', '\r', by decide, rfl, rfl⟩
  · exact ⟨'t', '\t', by decide, rfl, rfl⟩

theorem of_hexValue? {c : Char} {n : Nat} (h : Text.hexValue? c = some n) : c.toNat < 0x80 ∧ n < 16 := by
  unfold Text.hexValue? at h
  simp only at h
  repeat' split at h
  all_goals cases h
  all_goals omega

theorem hexValue?_byte {c : Char} {n : Nat} (h : Text.hexValue? c = some n) : hexValue? (byte c) = some n := by
  have hascii := (of_hexValue? h).1
  have hbyte : (byte c).toNat = c.toNat := toNat_ofNat (by omega)
  rw [hexValue?, hbyte, Char.ofNat_toNat, h]

theorem exists_hexDigit {b : UInt8} {n : Nat} (h : hexValue? b = some n) :
    ∃ c, Text.hexValue? c = some n ∧ byte c = b := by
  have hlt := b.toNat_lt
  have hval : (Char.ofNat b.toNat).toNat = b.toNat := toNat_ofNat_of_scalar (by omega)
  refine ⟨Char.ofNat b.toNat, h, ?_⟩
  rw [byte, hval]
  exact eq_ofNat rfl

theorem IsCodeUnit.lt {ds : List Char} {n : Nat} (h : IsCodeUnit ds n) : n < 0x10000 := by
  cases h with
  | digits ha hb hc hd =>
    have ha := (of_hexValue? ha).2
    have hb := (of_hexValue? hb).2
    have hc := (of_hexValue? hc).2
    have hd := (of_hexValue? hd).2
    omega

theorem hexUnit?_eq_some_iff {a b c d : UInt8} {n : Nat} :
    hexUnit? [a, b, c, d].reverse = some n ↔
      ∃ i j k l, hexValue? a = some i ∧ hexValue? b = some j ∧ hexValue? c = some k ∧
        hexValue? d = some l ∧ n = ((i * 16 + j) * 16 + k) * 16 + l := by
  constructor
  · intro h
    simp only [hexUnit?, List.reverse_cons, List.reverse_nil, List.nil_append, List.cons_append, List.foldr_cons,
      List.foldr_nil, Option.bind_eq_bind, Option.bind_eq_some_iff, Option.pure_def, Option.some.injEq] at h
    obtain ⟨k', ⟨j', ⟨i', ⟨_, rfl, i, ha, rfl⟩, j, hb, rfl⟩, k, hc, rfl⟩, l, hd, rfl⟩ := h
    rw [Nat.zero_mul, Nat.zero_add]
    exact ⟨i, j, k, l, ha, hb, hc, hd, rfl⟩
  · rintro ⟨i, j, k, l, ha, hb, hc, hd, rfl⟩
    simp [hexUnit?, ha, hb, hc, hd]

theorem encode_digits {a b c d : Char} {i j k l : Nat} (ha : Text.hexValue? a = some i)
    (hb : Text.hexValue? b = some j) (hc : Text.hexValue? c = some k) (hd : Text.hexValue? d = some l) :
    encode [a, b, c, d] = [byte a, byte b, byte c, byte d] := by
  rw [encode_cons_byte (of_hexValue? ha).1, encode_cons_byte (of_hexValue? hb).1,
    encode_cons_byte (of_hexValue? hc).1, encode_cons_byte (of_hexValue? hd).1]
  rfl

theorem IsCodeUnit.hexUnit?_encode {ds : List Char} {n : Nat} (h : IsCodeUnit ds n) :
    (encode ds).length = 4 ∧ hexUnit? (encode ds).reverse = some n := by
  cases h with
  | @digits a b c d i j k l ha hb hc hd =>
    rw [encode_digits ha hb hc hd]
    refine ⟨rfl, hexUnit?_eq_some_iff.2 ⟨i, j, k, l, ?_, ?_, ?_, ?_, rfl⟩⟩
    · exact hexValue?_byte ha
    · exact hexValue?_byte hb
    · exact hexValue?_byte hc
    · exact hexValue?_byte hd

theorem exists_codeUnit {ds : Bytes} {n : Nat} (hlen : ds.length = 4) (h : hexUnit? ds.reverse = some n) :
    ∃ units, ds = encode units ∧ IsCodeUnit units n := by
  obtain ⟨a, b, c, d, rfl⟩ := exists_four hlen
  obtain ⟨i, j, k, l, ha, hb, hc, hd, rfl⟩ := hexUnit?_eq_some_iff.1 h
  obtain ⟨a', ha', rfl⟩ := exists_hexDigit ha
  obtain ⟨b', hb', rfl⟩ := exists_hexDigit hb
  obtain ⟨c', hc', rfl⟩ := exists_hexDigit hc
  obtain ⟨d', hd', rfl⟩ := exists_hexDigit hd
  exact ⟨[a', b', c', d'], (encode_digits ha' hb' hc' hd').symm, .digits ha' hb' hc' hd'⟩

theorem encode_unit (ds : List Char) : encode ('\\' :: 'u' :: ds) = byte '\\' :: byte 'u' :: encode ds := by
  rw [encode_cons_byte (by decide), encode_cons_byte (by decide)]

theorem IsEscape.writes {e : List Char} {c : Char} {raw out : Bytes} (he : IsEscape e c) (h : Writes raw out) :
    Writes (encode e ++ raw) (String.utf8EncodeChar c ++ out) := by
  cases he with
  | short he =>
    obtain ⟨hshort, hescape, hchar⟩ := shortEscape?_byte he
    rw [encode_cons_byte (by decide), encode_cons_byte hescape, utf8EncodeChar_of_ascii hchar]
    exact .short hshort h
  | unit hds =>
    obtain ⟨hlen, hunit⟩ := hds.hexUnit?_encode
    have hscalar : c.toNat < 0xD800 ∨ 0xDFFF < c.toNat ∧ c.toNat < 0x110000 := c.valid
    have hwrites := Writes.unit hlen hunit (by omega) h
    rw [Char.ofNat_toNat] at hwrites
    rw [encode_unit]
    exact hwrites
  | pair hds hds' hhigh hlow hc =>
    obtain ⟨hlen, hunit⟩ := hds.hexUnit?_encode
    obtain ⟨hlen', hunit'⟩ := hds'.hexUnit?_encode
    have hwrites := Writes.pair hlen hunit hhigh hlen' hunit' hlow h
    rw [← hc, Char.ofNat_toNat] at hwrites
    rw [encode_unit, encode_append, encode_unit]
    simpa using hwrites

/-! ## 3. Strings in bytes -/

theorem Spells.writes {raw cs : List Char} (h : Spells raw cs) : Writes (encode raw) (encode cs) := by
  induction h with
  | nil => exact .nil
  | plain hquote hslash hcontrol _ ih =>
    rw [encode_cons, encode_cons]
    apply writes_append_of_isPlain _ ih
    intro b hb
    exact isPlain_of_mem_utf8EncodeChar hquote hslash (Nat.not_lt.2 hcontrol) hb
  | escape he _ ih =>
    rw [encode_append, encode_cons]
    exact he.writes ih

/-- How a string begins: with its end, with a byte that stands for itself, or with an escape. -/
theorem Writes.front {raw out : Bytes} (h : Writes raw out) :
    (raw = [] ∧ out = []) ∨
      (∃ b rest after, raw = b :: rest ∧ out = b :: after ∧ IsPlain b ∧ Writes rest after) ∨
      ∃ e c rest after, raw = encode e ++ rest ∧ out = String.utf8EncodeChar c ++ after ∧ IsEscape e c ∧
        Writes rest after := by
  cases h with
  | nil => exact .inl ⟨rfl, rfl⟩
  | plain hb h => exact .inr (.inl ⟨_, _, _, rfl, rfl, hb, h⟩)
  | short hc h =>
    obtain ⟨e, c, he, rfl, rfl⟩ := exists_shortEscape hc
    obtain ⟨-, hescape, hchar⟩ := shortEscape?_byte he
    refine .inr (.inr ⟨['\\', e], c, _, _, ?_, ?_, .short he, h⟩)
    · rw [encode_cons_byte (by decide), encode_cons_byte hescape]
      rfl
    · rw [utf8EncodeChar_of_ascii hchar]
      rfl
  | @unit _ _ _ n hlen hn hscalar h =>
    obtain ⟨ds, rfl, hds⟩ := exists_codeUnit hlen hn
    have hlt := hds.lt
    -- Four digits that are no surrogate write the number of a character.
    have hvalue : (Char.ofNat n).toNat = n := toNat_ofNat_of_scalar (by omega)
    rw [← hvalue] at hds
    refine .inr (.inr ⟨_, _, _, _, ?_, rfl, .unit hds, h⟩)
    rw [encode_unit]
    rfl
  | @pair _ _ _ _ n n' hlen hn hhigh hlen' hn' hlow h =>
    obtain ⟨ds, rfl, hds⟩ := exists_codeUnit hlen hn
    obtain ⟨ds', rfl, hds'⟩ := exists_codeUnit hlen' hn'
    have hvalue := toNat_ofNat_of_scalar (v := 0x10000 + (n - 0xD800) * 0x400 + (n' - 0xDC00)) (by omega)
    refine .inr (.inr ⟨_, _, _, _, ?_, rfl, .pair hds hds' hhigh hlow hvalue, h⟩)
    rw [encode_unit, encode_append, encode_unit]
    simp

/-- Bytes that go on with a character stand for themselves, since nothing that is escaped begins with them. -/
theorem Writes.of_tail {raw tail out : Bytes} (htail : ∀ b ∈ tail, isTail b = true)
    (h : Writes raw (tail ++ out)) : ∃ rest, raw = tail ++ rest ∧ Writes rest out := by
  induction tail generalizing raw with
  | nil => exact ⟨raw, rfl, h⟩
  | cons t tail ih =>
    have ht : isTail t = true := htail t List.mem_cons_self
    rw [List.cons_append] at h
    rcases h.front with ⟨-, hout⟩ | ⟨b, rest, after, rfl, hout, -, hrest⟩ | ⟨e, c, rest, after, -, hout, -, -⟩
    · cases hout
    · obtain ⟨rfl, rfl⟩ := List.cons.inj hout
      obtain ⟨left, rfl, hleft⟩ := ih (fun b hb => htail b (List.mem_cons_of_mem t hb)) hrest
      exact ⟨left, rfl, hleft⟩
    · obtain ⟨b, bs, hc, hb⟩ := exists_of_encodeChar c
      rw [hc] at hout
      obtain ⟨rfl, -⟩ := List.cons.inj hout
      rw [ht] at hb
      cases hb

/-- A character whose first byte stands for itself needs no escape. -/
theorem not_escaped_of_isPlain {c : Char} {b : UInt8} {bs : Bytes} (hc : String.utf8EncodeChar c = b :: bs)
    (hb : IsPlain b) : c ≠ '"' ∧ c ≠ '\\' ∧ 0x20 ≤ c.toNat := by
  obtain ⟨hquote, hslash, hcontrol⟩ := hb
  have hascii (hlt : c.toNat < 0x80) : b = byte c := by
    rw [utf8EncodeChar_of_ascii hlt] at hc
    exact (List.cons.inj hc).1.symm
  refine ⟨?_, ?_, ?_⟩
  · rintro rfl
    exact hquote (hascii (by decide))
  · rintro rfl
    exact hslash (hascii (by decide))
  · apply Nat.le_of_not_lt
    intro hlt
    apply hcontrol
    rw [hascii (by omega), UInt8.lt_iff_toNat_lt]
    show (UInt8.ofNat c.toNat).toNat < 0x20
    rw [toNat_ofNat (by omega)]
    exact hlt

theorem exists_spells {raw : Bytes} {cs : List Char} (h : Writes raw (encode cs)) :
    ∃ text, raw = encode text ∧ Spells text cs := by
  -- By induction on the characters: a byte that stands for itself brings the rest of its character with it.
  induction cs generalizing raw with
  | nil =>
    rcases h.front with ⟨rfl, -⟩ | ⟨_, _, _, -, hout, -⟩ | ⟨_, c, _, _, -, hout, -⟩
    · exact ⟨[], rfl, .nil⟩
    · cases hout
    · obtain ⟨b, bs, hc, -⟩ := exists_of_encodeChar c
      rw [hc] at hout
      cases hout
  | cons c cs ih =>
    obtain ⟨b, bs, hc, -⟩ := exists_of_encodeChar c
    rw [encode_cons] at h
    rcases h.front with ⟨-, hout⟩ | ⟨b', rest, after, rfl, hout, hplain, hrest⟩ |
      ⟨e, c', rest, after, rfl, hout, he, hrest⟩
    · rw [hc] at hout
      cases hout
    · rw [hc, List.cons_append] at hout
      obtain ⟨rfl, rfl⟩ := List.cons.inj hout
      have htail : ∀ t ∈ bs, isTail t = true := by
        intro t ht
        apply isTail_of_mem_tail (c := c)
        rw [hc]
        exact ht
      obtain ⟨left, rfl, hleft⟩ := hrest.of_tail htail
      obtain ⟨text, rfl, hspells⟩ := ih hleft
      obtain ⟨hquote, hslash, hcontrol⟩ := not_escaped_of_isPlain hc hplain
      refine ⟨c :: text, ?_, .plain hquote hslash hcontrol hspells⟩
      rw [encode_cons, hc]
      rfl
    · obtain ⟨rfl, rfl⟩ := encodeChar_append_inj hout
      obtain ⟨text, rfl, hspells⟩ := ih hrest
      exact ⟨e ++ text, (encode_append e text).symm, .escape he hspells⟩

/-- Bytes are a string just if they encode a text that is one. -/
theorem isText_iff {s : String} {bs : Bytes} :
    IsText s bs ↔ ∃ raw, bs = encode ('"' :: (raw ++ ['"'])) ∧ Spells raw s.toList := by
  have hquoted (raw : List Char) : encode ('"' :: (raw ++ ['"'])) = byte '"' :: (encode raw ++ [byte '"']) := by
    rw [encode_cons_byte (by decide), encode_append, encode_cons_byte (by decide)]
    rfl
  constructor
  · rintro ⟨raw, out, rfl, hwrites, hdecode⟩
    obtain rfl := decode?_eq_some_iff.1 hdecode
    obtain ⟨text, rfl, hspells⟩ := exists_spells hwrites
    exact ⟨text, (hquoted text).symm, hspells⟩
  · rintro ⟨raw, rfl, hspells⟩
    exact ⟨encode raw, encode s.toList, hquoted raw, hspells.writes, decode?_encode s.toList⟩

/-! ## 4. Documents -/

theorem isSpace_nil : IsSpace [] :=
  fun _ hc => absurd hc List.not_mem_nil

theorem isGap_encode {cs : List Char} (h : IsSpace cs) : IsGap (encode cs) := by
  induction cs with
  | nil => exact .nil
  | cons c cs ih =>
    have hrest := ih fun d hd => h d (List.mem_cons_of_mem c hd)
    have hc : c.toNat < 0x80 ∧ isGap (byte c) = true := by
      rcases h c List.mem_cons_self with rfl | rfl | rfl | rfl <;> decide
    rw [encode_cons_byte hc.1]
    intro b hb
    rcases List.mem_cons.1 hb with rfl | hb
    · exact hc.2
    · exact hrest b hb

theorem exists_space {gap : Bytes} (h : IsGap gap) : ∃ cs, gap = encode cs ∧ IsSpace cs := by
  induction gap with
  | nil => exact ⟨[], rfl, isSpace_nil⟩
  | cons b gap ih =>
    obtain ⟨cs, rfl, hcs⟩ := ih fun b' hb' => h b' (List.mem_cons_of_mem b hb')
    obtain ⟨c, rfl, hascii, hc⟩ : ∃ c, b = byte c ∧ c.toNat < 0x80 ∧
        (c = ' ' ∨ c = '\t' ∨ c = '\n' ∨ c = '\r') := by
      have hb := h b List.mem_cons_self
      simp only [isGap, Bool.or_eq_true, beq_iff_eq] at hb
      rcases hb with ((rfl | rfl) | rfl) | rfl
      · exact ⟨' ', by decide⟩
      · exact ⟨'\n', by decide⟩
      · exact ⟨'\t', by decide⟩
      · exact ⟨'\r', by decide⟩
    refine ⟨c :: cs, (encode_cons_byte hascii cs).symm, ?_⟩
    intro d hd
    rcases List.mem_cons.1 hd with rfl | hd
    · exact hc
    · exact hcs d hd

/-- The two grammars, that over bytes and that over characters, have the same strings. -/
theorem isDocument_string_iff {bs : Bytes} {s : String} : IsDocument bs (.string s) ↔ IsStringDocument bs s := by
  have hparts (gap raw gap' : List Char) : encode (gap ++ '"' :: (raw ++ '"' :: gap')) =
      encode gap ++ (encode ('"' :: (raw ++ ['"'])) ++ encode gap') := by
    rw [← encode_append, ← encode_append]
    simp
  constructor
  · rintro ⟨before, v, after, rfl, hbefore, hafter, hdenotes⟩
    obtain ⟨gap, rfl, hgap⟩ := exists_space hbefore
    obtain ⟨gap', rfl, hgap'⟩ := exists_space hafter
    cases hdenotes with
    | string htext =>
      obtain ⟨raw, rfl, hspells⟩ := isText_iff.1 htext
      exact ⟨gap, raw, gap', (hparts gap raw gap').symm, hgap, hgap', hspells⟩
  · rintro ⟨gap, raw, gap', rfl, hgap, hgap', hspells⟩
    have htext : IsText s (encode ('"' :: (raw ++ ['"']))) := isText_iff.2 ⟨raw, rfl, hspells⟩
    exact ⟨_, _, _, hparts gap raw gap', isGap_encode hgap, isGap_encode hgap', .string htext⟩

/-- What is printed of a string spells it. -/
theorem isStringDocument_text (s : String) : IsStringDocument (bytesOf (Json.string s).text) s := by
  obtain ⟨raw, hraw, hspells⟩ := isText_iff.1 (isText_printString s)
  refine ⟨[], raw, [], ?_, isSpace_nil, isSpace_nil, hspells⟩
  rw [bytesOf, text, String.toList_ofList, print]
  exact hraw

section Reading

variable {α : Type} (make : String → Except String α) {bs : Bytes}

/-- A document that is a string is taken for what the string is taken for. -/
theorem parseStringAs_of_isStringDocument {s : String} (h : IsStringDocument bs s) :
    parseStringAs make bs = (make s).mapError fun m => .mismatch (.rejected m) := by
  obtain ⟨gap, v, gap', rfl, hgap, hgap', hdenotes⟩ := isDocument_string_iff.2 h
  cases hdenotes with
  | string htext =>
    simp only [parseStringAs, readText_append hgap htext, skipGap_eq_nil hgap', if_true]
    cases make s <;> rfl

theorem of_parseStringAs {a : α} (h : parseStringAs make bs = .ok a) :
    ∃ s, IsStringDocument bs s ∧ make s = .ok a := by
  unfold parseStringAs at h
  split at h
  · cases h
  · rename_i s rest hread
    split at h
    · cases h
    · rename_i a' hmake
      split at h
      · rename_i hend
        cases h
        obtain ⟨gap, v, rfl, hgap, htext⟩ := of_readText hread
        obtain ⟨gap', hgap', hrest⟩ := exists_gap rest
        rw [hend, List.append_nil] at hrest
        subst hrest
        exact ⟨s, isDocument_string_iff.1 ⟨gap, v, rest, rfl, hgap, hgap', .string htext⟩, hmake⟩
      · cases h

theorem parseStringAs_eq_ok_iff {a : α} :
    parseStringAs make bs = .ok a ↔ ∃ s, IsStringDocument bs s ∧ make s = .ok a := by
  refine ⟨of_parseStringAs make, ?_⟩
  rintro ⟨s, hdoc, hmake⟩
  rw [parseStringAs_of_isStringDocument make hdoc, hmake]
  rfl

end Reading

end RegistryAuth.Json
