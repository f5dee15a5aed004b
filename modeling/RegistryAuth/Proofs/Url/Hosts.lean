import RegistryAuth.Proofs.Idna.Names
import RegistryAuth.Proofs.Url.Authority
import RegistryAuth.Proofs.Url.Percent

/-!
# What an authority is written with

No user, password or host holds an `@`, so the one of an authority ends its user.  No host but one in
brackets holds a colon, so what follows the first colon behind the user is the port.
-/

namespace RegistryAuth.Url

open Text (Bytes)

/-! ## 1. Marks -/

/-- The characters that part an authority. -/
def authorityMarks : List Char := ['@', ':', '[', ']']

theorem not_mark_of_hexDigit : ∀ d < 16, hexDigit d ∉ authorityMarks := by
  decide

theorem not_mark_of_percentByte {b : UInt8} {c : Char} (h : c ∈ percentByte b) : c ∉ authorityMarks := by
  have hb := b.toNat_lt
  simp only [percentByte, List.mem_cons, List.not_mem_nil, or_false] at h
  rcases h with rfl | rfl | rfl
  · decide
  · exact not_mark_of_hexDigit _ (by omega)
  · exact not_mark_of_hexDigit _ (by omega)

theorem mark_of_mem_percentEncode {set : Char → Bool} {cs : List Char} {c : Char}
    (hc : c ∈ authorityMarks) (h : c ∈ percentEncode set cs) : c ∈ cs ∧ set c = false := by
  rcases of_mem_percentEncode h with hkept | ⟨b, hb⟩
  · exact hkept
  · exact absurd hc (not_mark_of_percentByte hb)

theorem not_mem_percentEncode {set : Char → Bool} {c : Char} (hc : c ∈ authorityMarks)
    (hset : set c = true) (cs : List Char) : c ∉ percentEncode set cs := by
  intro h
  have hfalse := (mark_of_mem_percentEncode hc h).2
  rw [hset] at hfalse
  cases hfalse

/-! ## 2. Hosts -/

/-- The written form of a host: a name without marks, or something in brackets. -/
inductive IsHostText : List Char → Prop
  | name {text : List Char} (h : ∀ c ∈ text, c ∉ authorityMarks) : IsHostText text
  | brackets {text : List Char} (hat : '@' ∉ text) (hclose : ']' ∉ text) :
    IsHostText ('[' :: (text ++ [']']))

theorem IsHostText.not_mem_at {text : List Char} (h : IsHostText text) : '@' ∉ text := by
  cases h with
  | name hname => exact fun hmem => hname '@' hmem (by decide)
  | brackets hat hclose => simp [hat]

theorem not_mark_of_isDigit {c : Char} (h : c.isDigit = true) : c ∉ authorityMarks := by
  intro hc
  simp only [authorityMarks, List.mem_cons, List.not_mem_nil, or_false] at hc
  rcases hc with rfl | rfl | rfl | rfl <;> exact absurd h (by decide)

theorem isHostText_ipv4 (n : Nat) : IsHostText (Ipv4.text n) := by
  refine .name fun c hc => ?_
  rcases Text.of_mem_intercalate hc with rfl | ⟨part, hpart, hc⟩
  · decide
  · obtain ⟨byte, -, rfl⟩ := List.mem_map.1 hpart
    exact not_mark_of_isDigit (Nat.isDigit_of_mem_toDigits (by decide) (by decide) hc)

/-- Whether a text of groups holds neither an `@` nor a bracket that closes. -/
def IsGroupsText (cs : List Char) : Prop :=
  ∀ c ∈ cs, c ≠ '@' ∧ c ≠ ']'

theorem IsGroupsText.append {cs ds : List Char} (h : IsGroupsText cs) (h' : IsGroupsText ds) :
    IsGroupsText (cs ++ ds) :=
  fun c hc => (List.mem_append.1 hc).elim (h c) (h' c)

theorem isGroupsText_hexDigit : ∀ d < 16, Text.hexDigit d ≠ '@' ∧ Text.hexDigit d ≠ ']' := by
  decide

theorem isGroupsText_hexText_go {acc : List Char} (hacc : IsGroupsText acc) (n : Nat) :
    IsGroupsText (Text.hexText.go acc n) := by
  have hcons {d : Nat} (hd : d < 16) {acc : List Char} (hacc : IsGroupsText acc) :
      IsGroupsText (Text.hexDigit d :: acc) := by
    intro c hc
    rcases List.mem_cons.1 hc with rfl | hc
    · exact isGroupsText_hexDigit d hd
    · exact hacc c hc
  induction n using Nat.strongRecOn generalizing acc with
  | _ n ih =>
    rw [Text.hexText.go]
    by_cases hn : n < 16
    · rw [if_pos hn]
      exact hcons hn hacc
    · rw [if_neg hn]
      exact ih (n / 16) (by omega) (hcons (by omega) hacc)

theorem isGroupsText_joined (groups : List Nat) : IsGroupsText (Ipv6.joined groups) := by
  intro c hc
  rcases Text.of_mem_intercalate hc with rfl | ⟨part, hpart, hc⟩
  · decide
  · obtain ⟨group, -, rfl⟩ := List.mem_map.1 hpart
    exact isGroupsText_hexText_go (fun _ hd => absurd hd List.not_mem_nil) group c hc

theorem isHostText_ipv6 (groups : List Nat) : IsHostText (Host.ipv6 groups).text := by
  have htext : IsGroupsText (Ipv6.text groups) := by
    unfold Ipv6.text
    simp only
    split
    · exact isGroupsText_joined _
    · refine ((isGroupsText_joined _).append ?_).append (isGroupsText_joined _)
      intro c hc
      simp only [List.mem_cons, List.not_mem_nil, or_false, or_self] at hc
      subst hc
      decide
  exact .brackets (fun h => (htext _ h).1 rfl) (fun h => (htext _ h).2 rfl)

namespace Host

theorem exists_of_ofBrackets {cs : List Char} {host : Host} (h : ofBrackets cs = .ok host) :
    ∃ groups, host = .ipv6 groups := by
  unfold ofBrackets at h
  split at h
  · split at h
    · rename_i groups hgroups
      exact ⟨groups, (Except.ok.inj h).symm⟩
    · cases h
  · cases h

theorem of_ofDomain {name : List Char} {host : Host} (h : ofDomain name = .ok host) :
    (∃ address, host = .ipv4 address) ∨ host = .domain name := by
  unfold ofDomain at h
  split at h
  · cases h
  · split at h
    · split at h
      · rename_i address haddress
        exact .inl ⟨address, (Except.ok.inj h).symm⟩
      · cases h
    · exact .inr (Except.ok.inj h).symm

/-- Every mark of an authority is one that no domain name may hold. -/
theorem not_mark_of_isAllowed {c : Char} (h : Idna.isForbidden c = false) : c ∉ authorityMarks := by
  intro hc
  have hall : authorityMarks.all Idna.isForbidden = true := by decide
  rw [List.all_eq_true.1 hall c hc] at h
  cases h

theorem isHostText_of_parse {cs : List Char} {host : Host} (h : parse cs = .ok host) :
    IsHostText host.text := by
  unfold parse at h
  split at h
  · obtain ⟨groups, rfl⟩ := exists_of_ofBrackets h
    exact isHostText_ipv6 groups
  · split at h
    · rename_i name hname
      rcases of_ofDomain h with ⟨address, rfl⟩ | rfl
      · exact isHostText_ipv4 address
      · exact .name fun c hc => not_mark_of_isAllowed (Idna.isAllowed_of_toAscii? hname c hc)
    · cases h

theorem isHostText_of_parseOpaque {cs : List Char} {host : Host} (h : parseOpaque cs = .ok host) :
    IsHostText host.text := by
  unfold parseOpaque at h
  split at h
  · obtain ⟨groups, rfl⟩ := exists_of_ofBrackets h
    exact isHostText_ipv6 groups
  · split at h
    · cases h
    · rename_i hnone
      obtain rfl := Except.ok.inj h
      refine .name fun c hc hmark => ?_
      have hall : authorityMarks.all isForbidden = true := by decide
      rw [Bool.not_eq_true, List.any_eq_false] at hnone
      exact hnone c (mark_of_mem_percentEncode hmark hc).1 (List.all_eq_true.1 hall c hmark)

theorem IsOfFile.isHostText {host : Host} (h : host.IsOfFile) : IsHostText host.text := by
  rcases h with rfl | ⟨text, h⟩
  · exact .name fun _ hc => absurd hc List.not_mem_nil
  · exact isHostText_of_parse h

end Host

/-! ## 3. Authorities -/

/-- Whether the marks in an authority are those that part it. -/
structure Authority.IsPlain (a : Authority) : Prop where
  username : '@' ∉ a.username
  password : ∀ p, a.password = some p → '@' ∉ p
  host : IsHostText a.host.text

theorem isPlain_of_parseAuthority {scheme cs left : List Char} {special ended : Bool} {a : Authority}
    (h : parseAuthority scheme special ended cs = .ok (a, left)) : a.IsPlain := by
  have hat (cs : List Char) : '@' ∉ percentEncode inUserSet cs :=
    not_mem_percentEncode (by decide) (by decide) cs
  obtain ⟨user, place, port, -, hhost, -, ha, -⟩ := of_parseAuthority h
  refine ⟨?_, fun p hp => ?_, ?_⟩
  · rw [ha]
    exact hat _
  · rw [ha] at hp
    simp only [splitUser] at hp
    split at hp
    · cases hp
    · exact Option.some.inj hp ▸ hat _
  · cases special with
    | true => exact Host.isHostText_of_parse hhost
    | false => exact Host.isHostText_of_parseOpaque hhost

/-- The authority of every address that is read. -/
theorem isPlain_of_parse {s : String} {u : Url} {a : Authority} (h : parse s = .ok u)
    (ha : u.authority = some a) : a.IsPlain := by
  have hslashes {scheme cs : List Char} {kind : SchemeKind} (h : parseAfterSlashes scheme kind cs = .ok u) :
      a.IsPlain := by
    obtain ⟨a', left, hauthority, hurl⟩ := of_parseAfterSlashes h
    have ha' : u.authority = some a' := congrArg Url.authority hurl
    obtain rfl := Option.some.inj (ha.symm.trans ha')
    exact isPlain_of_parseAuthority hauthority
  obtain ⟨scheme, rest, -, hread⟩ := of_parse h
  cases hread with
  | special _ h => exact hslashes h
  | slashes _ h => exact hslashes h
  | file _ h =>
    obtain ⟨host, -, ha', hhost⟩ := of_parseFile h
    obtain rfl := Option.some.inj (ha.symm.trans ha')
    exact ⟨List.not_mem_nil, fun _ hp => (nomatch hp), hhost.isHostText⟩
  | plain _ h =>
    rw [← h, (of_parsePlain scheme rest).2] at ha
    cases ha

/-! ## 4. Hosts with a control or a blank at the end -/

theorem ne_of_control {c d : Char} (hc : c.toNat ≤ 0x20) (hd : 0x20 < d.toNat) : c ≠ d := by
  rintro rfl
  omega

/-- No host is read of a text that ends with a control or a blank. -/
theorem Host.parse_concat {c : Char} (hc : c.toNat ≤ 0x20) (cs : List Char) (host : Host) :
    Host.parse (cs ++ [c]) ≠ .ok host := by
  intro h
  unfold Host.parse at h
  split at h
  · unfold ofBrackets at h
    have hlast : (cs ++ [c]).getLast? ≠ some ']' := by
      rw [List.getLast?_concat]
      exact fun heq => ne_of_control hc (by decide) (Option.some.inj heq)
    rw [if_neg hlast] at h
    cases h
  · have hdigit : ∀ n ≤ 0x20, hexByte? (UInt8.ofNat n) = none := by decide
    have hdecode : percentDecode (Text.Utf8.encode (cs ++ [c])) =
        percentDecode (Text.Utf8.encode cs) ++ [UInt8.ofNat c.toNat] := by
      rw [Text.Utf8.encode_append, Text.Utf8.encode_cons_of_ascii (by omega)]
      exact percentDecode_go_concat (hdigit _ hc) [] _
    rw [hdecode, Idna.toAscii?_concat hc] at h
    cases h

end RegistryAuth.Url
