import RegistryAuth.Proofs.Url.Hosts

/-!
# Addresses that go on

What is written behind an address of the web, with a slash between the two, leaves the scheme and the
authority of the address as they are, whatever it holds.  The slash ends the authority before any of it is
reached.  Only blanks at the end of the address can come in between: they are trimmed off an address that
stands alone, but behind an authority they make it one that is not read.
-/

namespace RegistryAuth

namespace Url

/-! ## 1. Slashes between texts -/

/-- Whether a slash stands between a text and what goes on behind it: at the end of the text, or at the
beginning of what is behind, blanks and controls before it apart. -/
def IsParted (text rest : List Char) : Prop :=
  text.getLast? = some '/' ∨ ∃ gap after, rest = gap ++ '/' :: after ∧ ∀ c ∈ gap, c.toNat ≤ 0x20

theorem IsParted.of_append {front text rest : List Char} (h : IsParted (front ++ text) rest)
    (hne : text ≠ []) : IsParted text rest := by
  refine h.imp_left fun hlast => ?_
  rw [List.getLast?_append] at hlast
  cases htext : text.getLast? with
  | none => exact absurd (List.getLast?_eq_none_iff.1 htext) hne
  | some c =>
    rw [htext] at hlast
    exact hlast

/-- A text that goes on behind a slash is cleaned as it would be alone, blanks at its end apart. -/
theorem exists_cleaned {cs rest : List Char} (h : cs.getLast? = some '/' ∨ rest.head? = some '/') :
    ∃ rest', cleaned (cs ++ rest) = cleaned cs ++ rest' ∧ IsParted (cleaned cs) rest' := by
  obtain ⟨kept, hslash, hcleaned⟩ : ∃ kept : Char → Bool, kept '/' = true ∧
      ∀ cs, cleaned cs = (Text.trimWhile (·.toNat ≤ 0x20) cs).filter kept :=
    ⟨_, rfl, fun _ => rfl⟩
  -- Nothing is trimmed across a slash.
  have hfront (front after : List Char) : cleaned (front ++ '/' :: after) =
      (front.dropWhile (·.toNat ≤ 0x20)).filter kept ++
        '/' :: (Text.trimEndWhile (·.toNat ≤ 0x20) after).filter kept := by
    have hdrop : (front ++ '/' :: after).dropWhile (·.toNat ≤ 0x20) =
        front.dropWhile (·.toNat ≤ 0x20) ++ '/' :: after := by
      rw [List.dropWhile_append]
      split
      · rename_i hnil
        rw [List.isEmpty_iff.1 hnil, List.dropWhile_cons_of_neg (by decide)]
        rfl
      · rfl
    rw [hcleaned, Text.trimWhile, hdrop, Text.trimEndWhile_append_cons _ _ _ (by decide),
      List.filter_append, List.filter_cons_of_pos hslash]
  rcases h with h | h
  · obtain ⟨front, rfl⟩ := List.getLast?_eq_some_iff.1 h
    have halone := hfront front []
    refine ⟨(Text.trimEndWhile (·.toNat ≤ 0x20) rest).filter kept, ?_, .inl ?_⟩
    · rw [halone, List.append_assoc, List.singleton_append, hfront]
      simp [Text.trimEndWhile]
    · rw [halone]
      simp [Text.trimEndWhile]
  · obtain ⟨after, rfl⟩ := List.head?_eq_some_iff.1 h
    obtain ⟨gap, hgap, hblank⟩ := Text.exists_trimmed (·.toNat ≤ 0x20) (cs.dropWhile (·.toNat ≤ 0x20))
    have hfilter : (cs.dropWhile (·.toNat ≤ 0x20)).filter kept = cleaned cs ++ gap.filter kept := by
      rw [hcleaned, Text.trimWhile, ← List.filter_append, ← hgap]
    have hgapBlank : ∀ c ∈ gap.filter kept, c.toNat ≤ 0x20 :=
      fun c hc => of_decide_eq_true (hblank c (List.mem_of_mem_filter hc))
    refine ⟨gap.filter kept ++ '/' :: (Text.trimEndWhile (·.toNat ≤ 0x20) after).filter kept, ?_,
      .inr ⟨_, _, rfl, hgapBlank⟩⟩
    rw [hfront, hfilter, List.append_assoc]

theorem splitScheme?_goOn {cs scheme rest : List Char} (h : splitScheme? cs = some (scheme, rest))
    (more : List Char) :
    splitScheme? (cs ++ more) = some (scheme, rest ++ more) ∧ ∃ name, cs = name ++ ':' :: rest := by
  unfold splitScheme? at h
  split at h
  · rename_i c after hhead hafter
    have hcs : cs = cs.takeWhile isSchemeChar ++ ':' :: after :=
      hafter ▸ List.takeWhile_append_dropWhile.symm
    have hall : ∀ d ∈ cs.takeWhile isSchemeChar, isSchemeChar d = true :=
      fun _ hd => List.mem_takeWhile_imp hd
    have hmore : cs ++ more = cs.takeWhile isSchemeChar ++ ':' :: (after ++ more) := by
      conv_lhs => rw [hcs]
      simp
    have hcolon : ¬ isSchemeChar ':' = true := by decide
    have hhead' : (cs ++ more).head? = some c := by
      rw [List.head?_append, hhead]
      rfl
    have htake : (cs ++ more).takeWhile isSchemeChar = cs.takeWhile isSchemeChar := by
      rw [hmore, List.takeWhile_append_of_pos hall, List.takeWhile_cons_of_neg hcolon, List.append_nil]
    have hdrop : (cs ++ more).dropWhile isSchemeChar = ':' :: (after ++ more) := by
      rw [hmore, List.dropWhile_append_of_pos hall, List.dropWhile_cons_of_neg hcolon]
    split at h
    · rename_i hletter
      cases h
      refine ⟨?_, _, hcs⟩
      unfold splitScheme?
      rw [hhead', hdrop, htake]
      exact if_pos hletter
    · cases h
  · cases h

theorem endsAuthority_of_control {c : Char} (hc : c.toNat ≤ 0x20) : endsAuthority true c = false := by
  have hne {d : Char} (hd : 0x20 < d.toNat) : c ≠ d := ne_of_control hc hd
  simp [endsAuthority, isSeparator, endsPath, hne (d := '/') (by decide), hne (d := '\\') (by decide),
    hne (d := '?') (by decide), hne (d := '#') (by decide)]

/-- The text of an authority is the same when its address goes on, but for blanks behind it. -/
theorem exists_authorityText {cs rest : List Char} (h : IsParted cs rest) :
    ∃ gap, (cut (endsAuthority true) (cs ++ rest)).1 = (cut (endsAuthority true) cs).1 ++ gap ∧
      ∀ c ∈ gap, c.toNat ≤ 0x20 := by
  rw [fst_cut, fst_cut, List.takeWhile_append]
  split
  · -- No slash is in the text, so it is behind the text.
    rename_i hlength
    have hall : cs.takeWhile (!endsAuthority true ·) = cs :=
      (List.takeWhile_prefix _).eq_of_length hlength
    rcases h with hlast | ⟨gap, after, rfl, hgap⟩
    · have hslash := List.takeWhile_eq_self_iff.1 hall '/' (List.mem_of_getLast? hlast)
      exact absurd hslash (by decide)
    · have hnot : ∀ c ∈ gap, (!endsAuthority true c) = true :=
        fun c hc => congrArg not (endsAuthority_of_control (hgap c hc))
      refine ⟨gap, ?_, hgap⟩
      rw [List.takeWhile_append_of_pos hnot, List.takeWhile_cons_of_neg (by decide), hall,
        List.append_nil]
  · exact ⟨[], (List.append_nil _).symm, fun _ hc => absurd hc List.not_mem_nil⟩

/-! ## 2. Authorities -/

section Authority

variable {scheme cs left left' : List Char} {special ended ended' : Bool} {a a' : Authority}

/-- What an authority is read as does not hang on whether more follows it. -/
theorem eq_of_parseAuthority (h : parseAuthority scheme special ended cs = .ok (a, left))
    (h' : parseAuthority scheme special ended' cs = .ok (a', left')) : a' = a := by
  obtain ⟨user, place, port, hsplit, hhost, hport, ha, -⟩ := of_parseAuthority h
  obtain ⟨user', place', port', hsplit', hhost', hport', ha', -⟩ := of_parseAuthority h'
  obtain ⟨rfl, rfl⟩ := Prod.mk.inj (hsplit.symm.trans hsplit')
  obtain rfl := Except.ok.inj (hport.symm.trans hport')
  rw [ha, ha', Except.ok.inj (hhost.symm.trans hhost')]

/-- A control or a blank at the end of an authority is neither a part of its host nor of its port. -/
theorem parseAuthority_concat {c : Char} (hc : c.toNat ≤ 0x20) (hback : '\\' ∉ cs) :
    parseAuthority scheme true ended (cs ++ [c]) ≠ .ok (a, left) := by
  intro h
  have hne {d : Char} (hd : 0x20 < d.toNat) : c ≠ d := ne_of_control hc hd
  obtain ⟨user, place, port, hsplit, hhost, hport, -, -⟩ := of_parseAuthority h
  obtain ⟨before, hplace⟩ := splitAtLastAt_concat (hne (d := '@') (by decide)) cs
  have hsuffix := splitAtLastAt_suffix (cs ++ [c])
  rw [hsplit] at hplace hsuffix
  obtain rfl : place = before ++ [c] := hplace
  obtain ⟨rest, hrest, hcolon⟩ := hostPart_append (before ++ [c])
  rcases hcolon with rfl | ⟨digits, rfl⟩
  · rw [List.append_nil] at hrest
    rw [← hrest] at hhost
    exact Host.parse_concat hc before a.host hhost
  · -- The character is the last of the port.
    have hdrop : (before ++ [c]).drop (hostPart (before ++ [c])).length = ':' :: digits :=
      (congrArg (List.drop _) hrest).trans List.drop_left
    have hlast : (':' :: digits).getLast? = some c := by
      have hall := congrArg List.getLast? hrest
      rw [List.getLast?_concat, List.getLast?_append, List.getLast?_cons] at hall
      rw [List.getLast?_cons]
      exact hall.symm
    have hmem : c ∈ digits := by
      rcases List.mem_cons.1 (List.mem_of_getLast? hlast) with heq | hmem
      · exact absurd heq (hne (by decide))
      · exact hmem
    have hcut : cut (· == '\\') digits = (digits, []) := by
      refine cut_of_forall fun d hd => beq_false_of_ne ?_
      rintro rfl
      have hin : '\\' ∈ before ++ [c] := by
        rw [hrest]
        exact List.mem_append_right _ (List.mem_cons_of_mem _ hd)
      rcases List.mem_append.1 (hsuffix.subset hin) with hin | hin
      · exact hback hin
      · exact hne (by decide) (List.mem_singleton.1 hin).symm
    rw [hdrop, List.drop_one, List.tail_cons, hcut] at hport
    have hdigit := List.all_eq_true.1 (parsePort_eq_ok hport).1 c hmem
    simp [Text.isDigit] at hdigit
    omega

/-- An authority with blanks behind it is read as without them, if it is read at all. -/
theorem eq_of_parseAuthority_append {gap : List Char} (hback : '\\' ∉ cs)
    (hgap : ∀ c ∈ gap, c.toNat ≤ 0x20) (h : parseAuthority scheme true ended cs = .ok (a, left))
    (h' : parseAuthority scheme true ended' (cs ++ gap) = .ok (a', left')) : a' = a := by
  rcases gap.eq_nil_or_concat with rfl | ⟨blanks, c, rfl⟩
  · rw [List.append_nil] at h'
    exact eq_of_parseAuthority h h'
  · rw [List.concat_eq_append] at h' hgap
    rw [← List.append_assoc] at h'
    refine absurd h' (parseAuthority_concat (hgap c (by simp)) ?_)
    rw [List.mem_append, not_or]
    refine ⟨hback, fun hmem => ?_⟩
    exact ne_of_control (hgap '\\' (List.mem_append_left _ hmem)) (by decide) rfl

end Authority

theorem parseAfterSlashes_nil (scheme : List Char) (u : Url) :
    parseAfterSlashes scheme .special [] ≠ .ok u := by
  intro h
  obtain ⟨a, left, hauthority, -⟩ := of_parseAfterSlashes h
  obtain ⟨user, place, port, hsplit, hhost, -, -, -⟩ := of_parseAuthority hauthority
  cases hsplit
  have hnone : (Host.parse []).isOk = false := by decide +kernel
  have hsome : (Host.parse []).isOk = true := congrArg Except.isOk hhost
  rw [hnone] at hsome
  cases hsome

/-! ## 3. Addresses -/

theorem authority_of_parseAfterSlashes_append {scheme cs more : List Char} {u e : Url}
    (hparted : IsParted cs more) (hu : parseAfterSlashes scheme .special cs = .ok u)
    (he : parseAfterSlashes scheme .special (cs ++ more) = .ok e) :
    ∃ a, u.authority = some a ∧ e.authority = some a := by
  obtain ⟨gap, hgap, hblank⟩ := exists_authorityText hparted
  obtain ⟨a, left, ha, hurl⟩ := of_parseAfterSlashes hu
  obtain ⟨a', left', ha', hurl'⟩ := of_parseAfterSlashes he
  have hback : '\\' ∉ (cut (endsAuthority true) cs).1 := by
    rw [fst_cut]
    intro hmem
    exact absurd (List.mem_takeWhile_imp hmem) (by decide)
  rw [show SchemeKind.special.isSpecial = true from rfl] at ha ha'
  rw [hgap] at ha'
  obtain rfl := eq_of_parseAuthority_append hback hblank ha ha'
  exact ⟨a', congrArg Url.authority hurl, congrArg Url.authority hurl'⟩

/-- An address of the web that goes on behind a slash keeps its scheme and its authority: the user, the
password, the host and the port. -/
theorem origin_of_append {s t : String} {u e : Url} {rest : List Char}
    (hscheme : u.scheme = "http".toList ∨ u.scheme = "https".toList) (hu : parse s = .ok u)
    (ht : t.toList = s.toList ++ rest) (hslash : s.toList.getLast? = some '/' ∨ rest.head? = some '/')
    (he : parse t = .ok e) :
    e.scheme = u.scheme ∧ ∃ a, u.authority = some a ∧ e.authority = some a := by
  obtain ⟨cs, hsplit, hread⟩ := of_parse_web hscheme hu
  obtain ⟨more, hcleaned, hparted⟩ := exists_cleaned hslash
  obtain ⟨hsplit', name, hname⟩ := splitScheme?_goOn hsplit more
  rw [← hcleaned, ← ht] at hsplit'
  have hsame : e.scheme = u.scheme := by
    obtain ⟨scheme, cs', hsplitE, hreadE⟩ := of_parse he
    cases hsplit'.symm.trans hsplitE
    exact hreadE.scheme_eq
  obtain ⟨cs', hsplitE, hreadE⟩ := of_parse_web (hsame ▸ hscheme) he
  obtain ⟨-, rfl⟩ := Prod.mk.inj (Option.some.inj (hsplit'.symm.trans hsplitE))
  -- Something is left of the address behind its slashes, and what goes on is put behind that.
  have hne : cs.dropWhile (isSeparator true) ≠ [] := by
    intro hnil
    rw [hnil] at hread
    exact parseAfterSlashes_nil _ _ hread
  have hparts : name ++ ':' :: cs.takeWhile (isSeparator true) ++ cs.dropWhile (isSeparator true) =
      cleaned s.toList := by
    rw [List.append_assoc, List.cons_append, List.takeWhile_append_dropWhile, hname]
  rw [← hparts] at hparted
  rw [hsame, List.dropWhile_append, if_neg (by simpa using hne)] at hreadE
  exact ⟨hsame, authority_of_parseAfterSlashes_append (hparted.of_append hne) hread hreadE⟩

end Url

end RegistryAuth
