import RegistryAuth.Proofs.Registry.Form
import RegistryAuth.Proofs.Url.Names
import RegistryAuth.Proofs.Url.Segments

/-!
# Registries with ordinary names

A registry whose name is ordinary is addressed literally: the name stands in the address as it was given, with
the port unless it is the scheme's own, and the service that the form names is the name without the port.
-/

namespace RegistryAuth.Registry

open Text Url Idna

/-! ## 1. The name that is given -/

/-- Whether a text is given with slashes behind it, if any, and white space around. -/
def IsGiven (place : List Char) (host : String) : Prop :=
  ∃ before after n, host.toList = before ++ (place ++ List.replicate n '/' ++ after) ∧
    (∀ c ∈ before, isBlank c = true) ∧ ∀ c ∈ after, isBlank c = true

/-- Whether a character may be in a name or in a port behind it. -/
def isPlaceChar (c : Char) : Bool :=
  isNameChar c || c == ':'

theorem isPlaceChar_of_isDigit {c : Char} (h : c.isDigit = true) : isPlaceChar c = true := by
  simp [isPlaceChar, isNameChar, isLabelChar, isDigit_eq, h]

theorem isPlaceChar_of_mem_portText {port : Option Nat} {c : Char} (h : c ∈ portText port) :
    isPlaceChar c = true := by
  cases port with
  | none => cases h
  | some p =>
    rcases List.mem_cons.1 h with rfl | hdigit
    · rfl
    · exact isPlaceChar_of_isDigit ((isDecimal_toDigits p).2 c hdigit)

theorem lt_of_isPlaceChar {c : Char} (h : isPlaceChar c = true) : c.toNat < 0x80 := by
  rcases Bool.or_eq_true_iff.1 h with hname | hcolon
  · exact lt_of_isNameChar hname
  · rw [beq_iff_eq.1 hcolon]
    decide

/-- Whether a character is kept by all that looks at the text of a host: it is not trimmed or refused, ends
nothing, and may stand in the address of a request. -/
structure IsHarmless (c : Char) : Prop where
  not_blank : isBlank c = false
  not_delimiter : isDelimiter c = false
  kept : isKept c = true
  not_ends : endsAuthority true c = false
  allowed : Http.Uri.isAuthorityChar c = true
  not_mark : c ∉ ['[', ']', '@', '%']

theorem isHarmless_of_isPlaceChar {c : Char} (h : isPlaceChar c = true) : IsHarmless c := by
  have hall : ∀ n < 0x80, isPlaceChar (Char.ofNat n) = true →
      isBlank (Char.ofNat n) = false ∧ isDelimiter (Char.ofNat n) = false ∧ isKept (Char.ofNat n) = true ∧
        endsAuthority true (Char.ofNat n) = false ∧ Http.Uri.isAuthorityChar (Char.ofNat n) = true ∧
        Char.ofNat n ∉ ['[', ']', '@', '%'] := by
    decide
  have hc := hall c.toNat (lt_of_isPlaceChar h)
  rw [Char.ofNat_toNat] at hc
  obtain ⟨hblank, hdelimiter, hkept, hends, hallowed, hmark⟩ := hc h
  exact ⟨hblank, hdelimiter, hkept, hends, hallowed, hmark⟩

variable {parts : List (List Char)} {port : Option Nat} {host : String}

theorem isPlaceChar_of_mem (h : IsOrdinary parts) {c : Char} (hc : c ∈ joined parts ++ portText port) :
    isPlaceChar c = true := by
  rcases List.mem_append.1 hc with hc | hc
  · exact Bool.or_eq_true_iff.2 (.inl (h.isNameChar_of_mem hc))
  · exact isPlaceChar_of_mem_portText hc

/-- White space and slashes are trimmed off a place, and nothing of the place itself. -/
theorem IsGiven.trimmedHost_eq {place : List Char} (h : IsGiven place host)
    (hplace : ∀ c ∈ place, isPlaceChar c = true) : trimmedHost host = place := by
  obtain ⟨before, after, n, htext, hbefore, hafter⟩ := h
  have hblank : ∀ c ∈ place ++ List.replicate n '/', isBlank c = false := by
    intro c hc
    rcases List.mem_append.1 hc with hc | hc
    · exact (isHarmless_of_isPlaceChar (hplace c hc)).not_blank
    · rw [List.eq_of_mem_replicate hc]
      rfl
  have hslash : '/' ∉ place := fun hmem => absurd (hplace '/' hmem) (by decide)
  unfold trimmedHost
  rw [htext, trimWhile_around hbefore hafter hblank, trimEndWhile_append_replicate hslash]

/-! ## 2. The address -/

/-- The port that an address names: the one that the scheme has without saying so is left out. -/
def shownPort (scheme : String) (port : Option Nat) : Option Nat :=
  if port = some (if scheme = "http" then 80 else 443) then none else port

theorem shownPort_eq {scheme : String} (hscheme : scheme = "http" ∨ scheme = "https") (port : Option Nat) :
    (if port = defaultPort? scheme.toList then none else port) = shownPort scheme port := by
  rcases hscheme with rfl | rfl
  · rfl
  · rfl

/-- The address of a registry with an ordinary name. -/
def namedUrl (scheme : String) (name : List Char) (port : Option Nat) : Url where
  scheme := scheme.toList
  authority := some ⟨[], none, .domain name, shownPort scheme port⟩
  path := .segments ["oauth2".toList, "exchange".toList]
  query := none
  fragment := none

theorem text_authority (name : List Char) (port : Option Nat) :
    Authority.text ⟨[], none, .domain name, port⟩ = name ++ portText port := by
  cases port with
  | none => rfl
  | some p => rfl

theorem chars_namedUrl (scheme : String) (name : List Char) (port : Option Nat) :
    (namedUrl scheme name port).chars =
      scheme.toList ++ "://".toList ++ name ++ portText (shownPort scheme port) ++
        "/oauth2/exchange".toList := by
  have hpath : (namedUrl scheme name port).path.text = "/oauth2/exchange".toList := by
    show (Path.segments ["oauth2".toList, "exchange".toList]).text = _
    decide
  have hback : (namedUrl scheme name port).back = [] := rfl
  have hfront : (namedUrl scheme name port).front =
      scheme.toList ++ ':' :: '/' :: '/' :: (name ++ portText (shownPort scheme port)) := by
    rw [← text_authority]
    rfl
  rw [chars, hpath, hback, hfront]
  simp

theorem exchangeUrl_eq_namedUrl {s : ExchangeSettings} (hscheme : s.scheme = "http" ∨ s.scheme = "https")
    (h : IsOrdinary parts) (hport : ∀ p, port = some p → p ≤ 65535)
    (hgiven : IsGiven (joined parts ++ portText port) host) :
    exchangeUrl s host = .ok (namedUrl s.scheme (joined parts) port) := by
  have hplace : ∀ c ∈ joined parts ++ portText port, isPlaceChar c = true :=
    fun c hc => isPlaceChar_of_mem h hc
  have hharmless : ∀ c ∈ joined parts ++ portText port, IsHarmless c :=
    fun c hc => isHarmless_of_isPlaceChar (hplace c hc)
  have hne : joined parts ++ portText port ≠ [] := List.append_ne_nil_of_left_ne_nil h.joined_ne_nil _
  have hdelimiter : (joined parts ++ portText port).any isDelimiter = false :=
    List.any_eq_false.2 fun c hc => Bool.eq_false_iff.1 (hharmless c hc).not_delimiter
  have hkept : (joined parts ++ portText port).filter isKept = joined parts ++ portText port :=
    List.filter_eq_self.2 fun c hc => (hharmless c hc).kept
  have hends : (joined parts ++ portText port).any (endsAuthority true) = false :=
    List.any_eq_false.2 fun c hc => Bool.eq_false_iff.1 (hharmless c hc).not_ends
  have hkind : schemeKind s.scheme.toList = .special := by
    rcases hscheme with hscheme | hscheme
    · rw [hscheme]
      decide
    · rw [hscheme]
      decide
  have hsplit : splitScheme? (cleaned
      (s.scheme ++ "://" ++ String.ofList (joined parts ++ portText port) ++ exchangePath).toList) =
        some (s.scheme.toList,
          '/' :: '/' :: (joined parts ++ portText port ++ '/' :: "oauth2/exchange".toList)) := by
    rw [splitScheme?_endpoint hscheme, hkept]
    rfl
  have hparse := parse_eq_ok hkind hsplit hne hends (parseAuthority_joined h hport s.scheme.toList true)
  -- The path is that of the exchange, whatever the name is.
  have hpath : readSegments .special (cut endsPath "oauth2/exchange".toList).1 =
      ["oauth2".toList, "exchange".toList] := by
    decide
  have hback : (cut endsPath "oauth2/exchange".toList).2 = [] := by decide
  rw [hpath, hback, withBack_of_nil, shownPort_eq hscheme] at hparse
  unfold exchangeUrl endpointUrl
  simp only [hgiven.trimmedHost_eq hplace, List.isEmpty_eq_false_iff.2 hne, hdelimiter, Bool.or_self,
    Bool.false_eq_true, if_false]
  rw [hparse]
  rfl

/-! ## 3. The request -/

/-- Colons apart, nothing is noted of the characters of a place. -/
theorem foldlM_push_of_place {cs : List Char} (h : ∀ c ∈ cs, isPlaceChar c = true ∧ c ≠ ':')
    (seen : Http.Uri.Seen) : cs.foldlM Http.Uri.Seen.push seen = .ok seen := by
  induction cs with
  | nil => rfl
  | cons c cs ih =>
    obtain ⟨hplace, hcolon⟩ := h c List.mem_cons_self
    have hmark := (isHarmless_of_isPlaceChar hplace).not_mark
    simp only [List.mem_cons, List.not_mem_nil, or_false, not_or] at hmark
    obtain ⟨hopen, hclose, hat, hpercent⟩ := hmark
    have hpush : seen.push c = .ok seen := by
      unfold Http.Uri.Seen.push
      rw [if_neg hcolon, if_neg hopen, if_neg hclose, if_neg hat, if_neg hpercent,
        if_pos (isHarmless_of_isPlaceChar hplace).allowed]
    rw [List.foldlM_cons, hpush]
    exact ih fun d hd => h d (List.mem_cons_of_mem c hd)

theorem checkAuthority_joined (h : IsOrdinary parts) (port : Option Nat) :
    Http.Uri.checkAuthority (joined parts ++ portText port) = .ok () := by
  have hname : ∀ c ∈ joined parts, isPlaceChar c = true ∧ c ≠ ':' := by
    intro c hc
    refine ⟨Bool.or_eq_true_iff.2 (.inl (h.isNameChar_of_mem hc)), ?_⟩
    rintro rfl
    exact absurd (h.isNameChar_of_mem hc) (by decide)
  -- The colon before the port is the only one.
  have hseen : ∃ n ≤ 1, (joined parts ++ portText port).foldlM Http.Uri.Seen.push
      ⟨0, false, false, false⟩ = .ok ⟨n, false, false, false⟩ := by
    rw [List.foldlM_append, foldlM_push_of_place hname]
    cases port with
    | none => exact ⟨0, by decide, rfl⟩
    | some p =>
      have hdigits : ∀ c ∈ Nat.toDigits 10 p, isPlaceChar c = true ∧ c ≠ ':' := by
        intro c hc
        have hdigit := (isDecimal_toDigits p).2 c hc
        refine ⟨isPlaceChar_of_isDigit hdigit, ?_⟩
        rintro rfl
        cases hdigit
      exact ⟨1, by decide, foldlM_push_of_place hdigits ⟨1, false, false, false⟩⟩
  obtain ⟨n, hn, hseen⟩ := hseen
  have hlast : (joined parts ++ portText port).getLast? ≠ some '@' := fun hlast =>
    absurd (isPlaceChar_of_mem h (List.mem_of_getLast? hlast)) (by decide)
  unfold Http.Uri.checkAuthority
  rw [hseen]
  refine if_neg ?_
  rintro (hopen | hcolons | hat | hpercent)
  · exact hopen rfl
  · exact absurd hcolons (Nat.not_lt.2 hn)
  · exact hlast hat
  · cases hpercent

/-- The address of requests to a registry with an ordinary name, if it is not too long. -/
theorem ofUrl_namedUrl {scheme : String} (hscheme : scheme = "http" ∨ scheme = "https") (h : IsOrdinary parts)
    (port : Option Nat) :
    Http.Uri.ofUrl (namedUrl scheme (joined parts) port) =
      if Http.Uri.maxLength < (namedUrl scheme (joined parts) port).chars.length then .error .uriTooLong
      else .ok ⟨some scheme.toList, joined parts ++ portText (shownPort scheme port),
        "/oauth2/exchange".toList, none⟩ := by
  have hshort : ¬ Http.Uri.maxScheme < scheme.toList.length := by
    rcases hscheme with rfl | rfl
    · decide
    · decide
  have hne : joined parts ++ portText (shownPort scheme port) ≠ [] :=
    List.append_ne_nil_of_left_ne_nil h.joined_ne_nil _
  have hpath : (Path.segments ["oauth2".toList, "exchange".toList]).text = "/oauth2/exchange".toList := by
    decide
  unfold Http.Uri.ofUrl
  split
  · rfl
  · simp only [namedUrl, text_authority, if_neg hshort, checkAuthority_joined h, if_neg hne, hpath]
    rfl

theorem host?_namedUrl (scheme : String) {name : List Char} (hname : name ≠ []) (port : Option Nat) :
    (namedUrl scheme name port).host? = some (.domain name) :=
  if_neg fun heq => hname (Host.domain.inj heq)

/-- A registry with an ordinary name is addressed by that name: its address is the scheme, the name, the port
if it is not the scheme's own, and the path of the exchange.  The service is the name without the port.  So it
is told in the form of every request, and a request is made whenever the address is not too long for one. -/
theorem ordinary_host_is_addressed_by_name {s : ExchangeSettings}
    (hscheme : s.scheme = "http" ∨ s.scheme = "https") (h : IsOrdinary parts) (hport : ∀ p, port = some p → p ≤ 65535)
    (hgiven : IsGiven (joined parts ++ portText port) host) :
    ∃ url, exchangeUrl s host = .ok url ∧
      url.text = s.scheme ++ "://" ++ String.ofList (joined parts) ++
        String.ofList (portText (shownPort s.scheme port)) ++ "/oauth2/exchange" ∧
      url.host? = some (.domain (joined parts)) ∧
      ∀ (token : AccessToken) (tenant : Option TenantId),
        if Http.Uri.maxLength < url.chars.length then
          request s token tenant host = .error (.request .uriTooLong)
        else ∃ req, request s token tenant host = .ok req ∧ req.uri.text = url.text ∧
          Form.decode (Utf8.encode req.body) =
            [("grant_type", "access_token"), ("service", String.ofList (joined parts))] ++
              (tenant.map fun t => ("tenant", t.text)).toList ++ [("access_token", token.text)] := by
  have hurl := exchangeUrl_eq_namedUrl hscheme h hport hgiven
  have hhost := host?_namedUrl s.scheme h.joined_ne_nil port
  have huri := ofUrl_namedUrl hscheme h port
  have htext : (namedUrl s.scheme (joined parts) port).text =
      s.scheme ++ "://" ++ String.ofList (joined parts) ++
        String.ofList (portText (shownPort s.scheme port)) ++ "/oauth2/exchange" := by
    rw [← String.toList_inj]
    simp only [text, chars_namedUrl, String.toList_append, String.toList_ofList]
  refine ⟨_, hurl, htext, hhost, fun token tenant => ?_⟩
  unfold request
  rw [hurl]
  split
  · rename_i hlong
    rw [if_pos hlong] at huri
    simp only [Bind.bind, Except.bind, hhost, huri]
    rfl
  · rename_i hshort
    rw [if_neg hshort] at huri
    simp only [Bind.bind, Except.bind, hhost, huri]
    refine ⟨_, rfl, ?_, Form.decode_encode _⟩
    rw [htext, ← String.toList_inj]
    simp [Http.Uri.text]

/-- The service of a name whose port is the scheme's own. -/
theorem request_of_numbered_registry :
    ∃ url, exchangeUrl ⟨"https"⟩ "\u2003eu-1.registry7.io:443//\n" = .ok url ∧
      url.text = "https://eu-1.registry7.io/oauth2/exchange" ∧
      url.host? = some (.domain "eu-1.registry7.io".toList) := by
  have hordinary : IsOrdinary ["eu-1".toList, "registry7".toList, "io".toList] := by
    refine ⟨by decide, fun cs hcs => ?_, fun cs hcs => ?_⟩
    · simp only [List.mem_cons, List.not_mem_nil, or_false] at hcs
      rcases hcs with rfl | rfl | rfl
      · exact ⟨by decide, by decide, by decide⟩
      · exact ⟨by decide, by decide, by decide⟩
      · exact ⟨by decide, by decide, by decide⟩
    · cases hcs
      decide
  have hgiven : IsGiven (joined ["eu-1".toList, "registry7".toList, "io".toList] ++ portText (some 443))
      "\u2003eu-1.registry7.io:443//\n" :=
    ⟨['\u2003'], ['\n'], 2, by decide, List.all_eq_true.1 (by decide), List.all_eq_true.1 (by decide)⟩
  obtain ⟨url, hurl, htext, hhost, -⟩ := ordinary_host_is_addressed_by_name (s := ⟨"https"⟩) (.inr rfl)
    hordinary (fun p hp => Option.some.inj hp ▸ by decide) hgiven
  exact ⟨url, hurl, htext.trans (by decide), hhost⟩

end RegistryAuth.Registry
