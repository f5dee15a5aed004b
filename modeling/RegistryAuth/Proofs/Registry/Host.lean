import RegistryAuth.Proofs.Url.Authority
import RegistryAuth.Registry.Exchange

/-!
# Where a registry's host leads

The host of a registry is bare text that is put into an address.  No user, query or fragment can come of
it.  Without a backslash all of it is the authority of the address, and the path is the one of the
exchange; a backslash ends the authority as a slash does, but only slashes are refused.
-/

namespace RegistryAuth.Registry

open Text Url

/-! ## 1. The text of the address -/

/-- Whether a character counts in the text of an address; tabs and line ends do not. -/
def isKept (c : Char) : Bool :=
  c != '\t' && c != '\n' && c != '\r'

/-- What is read of a host: the trimmed text, tabs and line ends within it apart. -/
def readHost (host : String) : List Char :=
  (trimmedHost host).filter isKept

/-- A host that can be put into an address: something is left of it, and nothing in it is refused. -/
structure IsBare (host : String) : Prop where
  ne_nil : trimmedHost host ≠ []
  not_delimiter : ∀ c ∈ trimmedHost host, isDelimiter c = false

variable {s : ExchangeSettings} {host : String} {url : Url}

theorem exchangeUrl_eq_ok (h : exchangeUrl s host = .ok url) :
    IsBare host ∧
      parse (s.scheme ++ "://" ++ String.ofList (trimmedHost host) ++ exchangePath) = .ok url := by
  unfold exchangeUrl at h
  simp only at h
  split at h
  · simp at h
  · rename_i hbare
    rw [Bool.or_eq_true, not_or, Bool.not_eq_true, Bool.not_eq_true, List.isEmpty_eq_false_iff,
      List.any_eq_false] at hbare
    exact ⟨⟨hbare.1, fun c hc => by simpa using hbare.2 c hc⟩, mapError_eq_ok_iff.1 h⟩

/-- What is read of a bare host begins with a character that no host is trimmed of. -/
theorem IsBare.readHost_eq_cons (h : IsBare host) :
    ∃ c rest, readHost host = c :: rest ∧ isDelimiter c = false := by
  obtain ⟨c, rest, hcons⟩ := List.exists_cons_of_ne_nil h.ne_nil
  -- Slashes are trimmed off the end only, so the head is that of the text without white space.
  have hblank : isBlank c = false := by
    refine head?_trimWhile isBlank host.toList ?_
    obtain ⟨slashes, hslashes⟩ := trimEndWhile_prefix (· == '/') (trimWhile isBlank host.toList)
    rw [← hslashes, List.head?_append, show trimEndWhile _ _ = c :: rest from hcons]
    rfl
  have hkept : isKept c = true := by
    unfold isKept
    simp only [Bool.and_eq_true, bne_iff_ne, ne_eq]
    refine ⟨⟨?_, ?_⟩, ?_⟩
    · rintro rfl
      exact absurd hblank (by decide)
    · rintro rfl
      exact absurd hblank (by decide)
    · rintro rfl
      exact absurd hblank (by decide)
  refine ⟨c, rest.filter isKept, ?_, h.not_delimiter c (hcons ▸ List.mem_cons_self)⟩
  rw [readHost, hcons, List.filter_cons_of_pos hkept]

theorem IsBare.not_delimiter_of_readHost (h : IsBare host) {c : Char} (hc : c ∈ readHost host) :
    isDelimiter c = false :=
  h.not_delimiter c (List.mem_of_mem_filter hc)

/-- The scheme of an address, and what is read of the address behind it. -/
theorem splitScheme?_endpoint {scheme : String} (hscheme : scheme = "http" ∨ scheme = "https")
    (name : List Char) :
    splitScheme? (cleaned (scheme ++ "://" ++ String.ofList name ++ exchangePath).toList) =
      some (scheme.toList, "//".toList ++ (name.filter isKept ++ exchangePath.toList)) := by
  have hchars : (scheme ++ "://" ++ String.ofList name ++ exchangePath).toList =
      scheme.toList ++ "://".toList ++ name ++ exchangePath.toList := by
    simp only [String.toList_append, String.toList_ofList]
  -- Nothing is trimmed off the address, since it begins with a letter and ends with one.
  have hends : ∃ cs, scheme.toList ++ "://".toList ++ name ++ exchangePath.toList =
      'h' :: (cs ++ ['e']) := by
    rcases hscheme with rfl | rfl
    · exact ⟨"ttp://".toList ++ name ++ "/oauth2/exchang".toList, by simp [exchangePath]⟩
    · exact ⟨"ttps://".toList ++ name ++ "/oauth2/exchang".toList, by simp [exchangePath]⟩
  obtain ⟨cs, hcs⟩ := hends
  have htrim : trimWhile (·.toNat ≤ 0x20) ('h' :: (cs ++ ['e'])) = 'h' :: (cs ++ ['e']) :=
    trimWhile_of_ends _ (by decide) (by decide)
  have hfilter : (scheme.toList ++ "://".toList ++ name ++ exchangePath.toList).filter isKept =
      scheme.toList ++ ':' :: ("//".toList ++ (name.filter isKept ++ exchangePath.toList)) := by
    rcases hscheme with rfl | rfl
    · simp only [List.filter_append]
      rfl
    · simp only [List.filter_append]
      rfl
  have hcleaned : cleaned (scheme ++ "://" ++ String.ofList name ++ exchangePath).toList =
      (scheme.toList ++ "://".toList ++ name ++ exchangePath.toList).filter isKept := by
    rw [hchars, cleaned, hcs, htrim]
    rfl
  rw [hcleaned, hfilter]
  rcases hscheme with rfl | rfl
  · exact splitScheme?_append _ rfl (by decide) (by decide)
  · exact splitScheme?_append _ rfl (by decide) (by decide)

/-! ## 2. Host and path -/

/-- What is read behind the slashes of the address, and its two parts: the authority ends at the first
slash or backslash, and those that it would begin with are passed over. -/
def place (host : String) : List Char × List Char :=
  cut (endsAuthority true) ((readHost host ++ exchangePath.toList).dropWhile (isSeparator true))

/-- Whether an address is made of an authority and a path that are read from two texts, and of nothing
else but its scheme. -/
structure MadeOf (scheme : List Char) (parts : List Char × List Char) (url : Url) : Prop where
  scheme_eq : url.scheme = scheme
  authority : ∃ a, url.authority = some a ∧ a.username = [] ∧ a.password = none ∧
    a.ReadFrom scheme parts.1
  path_eq : url.path = .segments (parsePath .special parts.2)
  query_eq : url.query = none
  fragment_eq : url.fragment = none

theorem not_delimiter_of_exchangePath {c : Char} (hc : c ∈ exchangePath.toList) :
    c ≠ '@' ∧ endsPath c = false := by
  have hall : exchangePath.toList.all (fun c => c != '@' && !endsPath c) = true := by decide
  simpa using List.all_eq_true.1 hall c hc

theorem IsBare.not_mark (h : IsBare host) {c : Char}
    (hc : c ∈ (readHost host ++ exchangePath.toList).dropWhile (isSeparator true)) :
    c ≠ '@' ∧ endsPath c = false := by
  rcases List.mem_append.1 ((List.dropWhile_suffix _).subset hc) with hc | hc
  · have hdelimiter := h.not_delimiter_of_readHost hc
    simp only [isDelimiter, Bool.or_eq_false_iff, beq_eq_false_iff_ne] at hdelimiter
    obtain ⟨⟨⟨-, hquery⟩, hfragment⟩, hat⟩ := hdelimiter
    refine ⟨hat, ?_⟩
    simp [endsPath, hquery, hfragment]
  · exact not_delimiter_of_exchangePath hc

/-- The first part of a place ends before the first backslash. -/
theorem not_mem_fst_place (host : String) : '\\' ∉ (place host).1 := by
  rw [place, fst_cut]
  intro hmem
  have hends := List.mem_takeWhile_imp hmem
  exact absurd hends (by decide)

theorem parse_endpoint {scheme : String} (hscheme : scheme = "http" ∨ scheme = "https")
    (name : List Char) :
    parse (scheme ++ "://" ++ String.ofList name ++ exchangePath) =
      parseAfterSlashes scheme.toList .special
        ((name.filter isKept ++ exchangePath.toList).dropWhile (isSeparator true)) := by
  have hkind : schemeKind scheme.toList = .special := by
    rcases hscheme with rfl | rfl
    · decide
    · decide
  unfold parse
  rw [splitScheme?_endpoint hscheme]
  simp only [hkind]
  rfl

/-- Without a backslash the host is the whole of the authority, and the path is that of the exchange. -/
theorem IsBare.place_eq (h : IsBare host) (hback : '\\' ∉ trimmedHost host) :
    place host = (readHost host, exchangePath.toList) := by
  have hnot : ∀ c ∈ readHost host, isSeparator true c = false ∧ endsPath c = false := by
    intro c hc
    have hne : c ≠ '\\' := fun heq => hback (heq ▸ List.mem_of_mem_filter hc)
    have hdelimiter := h.not_delimiter_of_readHost hc
    simp only [isDelimiter, Bool.or_eq_false_iff, beq_eq_false_iff_ne] at hdelimiter
    obtain ⟨⟨⟨hslash, hquery⟩, hfragment⟩, -⟩ := hdelimiter
    simp [isSeparator, endsPath, hslash, hne, hquery, hfragment]
  obtain ⟨c, rest, hcons, -⟩ := h.readHost_eq_cons
  have hfirst : ¬ isSeparator true c = true := by
    simp [(hnot c (hcons ▸ List.mem_cons_self)).1]
  unfold place
  rw [hcons, List.cons_append, List.dropWhile_cons_of_neg hfirst, ← List.cons_append, ← hcons]
  refine cut_append (fun d hd => ?_) rfl
  simp [endsAuthority, hnot d hd]

/-- The address that is made for a host is made of an authority and a path and of nothing else.  All of
the host is the authority, and the path is that of the exchange, unless there is a backslash in the host:
what follows it is a part of the path. -/
theorem host_is_authority_without_backslash (hscheme : s.scheme = "http" ∨ s.scheme = "https")
    (h : exchangeUrl s host = .ok url) :
    MadeOf s.scheme.toList (place host) url ∧
      ('\\' ∉ trimmedHost host → MadeOf s.scheme.toList (readHost host, exchangePath.toList) url ∧
        url.path.text = exchangePath.toList) := by
  obtain ⟨hbare, hparse⟩ := exchangeUrl_eq_ok h
  have hname : (trimmedHost host).filter isKept = readHost host := rfl
  rw [parse_endpoint hscheme, hname] at hparse
  obtain ⟨a, left, hauthority, huser, hpassword, hurl⟩ := parseAfterSlashes_eq_ok
    (fun hat => (hbare.not_mark hat).1 rfl) (fun c hc => (hbare.not_mark hc).2) hparse
  rw [← place] at hauthority hurl
  have hat : '@' ∉ (place host).1 := by
    rw [place, fst_cut]
    intro hmem
    exact (hbare.not_mark ((List.takeWhile_prefix _).subset hmem)).1 rfl
  -- No backslash is left in the authority, so all of it is host and port and nothing is left over.
  obtain ⟨hread, hleft⟩ := readFrom_of_parseAuthority hat (not_mem_fst_place host) hauthority
  rw [hleft, List.nil_append] at hurl
  have hmade : MadeOf s.scheme.toList (place host) url := by
    rw [hurl]
    exact ⟨rfl, ⟨a, rfl, huser, hpassword, hread⟩, rfl, rfl, rfl⟩
  refine ⟨hmade, fun hback => ?_⟩
  rw [hbare.place_eq hback] at hmade
  refine ⟨hmade, ?_⟩
  rw [hmade.path_eq]
  show (Path.segments (parsePath .special exchangePath.toList)).text = _
  decide

/-- The address for a host that is trimmed and names a port. -/
theorem exchangeUrl_of_local_host :
    ∃ url, exchangeUrl .default " localhost:5000/ " = .ok url ∧
      MadeOf "https".toList ("localhost:5000".toList, exchangePath.toList) url ∧
      url.path.text = exchangePath.toList := by
  have hsome : (exchangeUrl .default " localhost:5000/ ").isOk = true := by decide +kernel
  obtain ⟨url, hurl⟩ := isOk_iff.1 hsome
  have hread : readHost " localhost:5000/ " = "localhost:5000".toList := by decide +kernel
  obtain ⟨-, hmade⟩ := host_is_authority_without_backslash (s := .default) (.inr rfl) hurl
  have hall := hmade (by decide +kernel)
  rw [hread] at hall
  exact ⟨url, hurl, hall⟩

/-- A backslash steers the request to another path: not all of every host is the authority. -/
theorem exchangeUrl_of_backslash :
    (exchangeUrl .default "registry.example\\v2").toOption.map (·.path.text) =
        some "/v2/oauth2/exchange".toList ∧
      ¬ ∀ (s : ExchangeSettings) (host : String) (url : Url), s.scheme = "http" ∨ s.scheme = "https" →
        exchangeUrl s host = .ok url → url.path.text = exchangePath.toList := by
  have hpath : (exchangeUrl .default "registry.example\\v2").toOption.map (·.path.text) =
      some "/v2/oauth2/exchange".toList := by
    decide +kernel
  refine ⟨hpath, fun hall => ?_⟩
  cases hresult : exchangeUrl .default "registry.example\\v2" with
  | error fault => simp [hresult, Except.toOption] at hpath
  | ok url =>
    have hsame := hall .default _ url (.inr rfl) hresult
    rw [hresult] at hpath
    have hother : url.path.text = "/v2/oauth2/exchange".toList := Option.some.inj hpath
    rw [hsame] at hother
    exact absurd hother (by decide)

end RegistryAuth.Registry
