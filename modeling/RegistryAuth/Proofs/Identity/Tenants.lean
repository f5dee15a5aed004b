import RegistryAuth.Proofs.Url.Segments
import RegistryAuth.Settings

/-!
# The endpoint of a tenant

With the authority and the path that settings have unless others are set, every tenant has an endpoint.  The
tenant takes its place in the text of the address before that is read, so only the text of one segment becomes
one: slashes and backslashes, the marks of a query and of a fragment, and dotted texts lead elsewhere.
-/

namespace RegistryAuth

open Text Url

/-! ## 1. The text of the endpoint -/

theorem Identifier.eq_of_text {kind : Kind} {a b : Identifier kind} (h : a.text = b.text) : a = b := by
  cases a
  cases b
  cases h
  rfl

theorem Identifier.toList_ne_nil {kind : Kind} (id : Identifier kind) : id.text.toList ≠ [] := by
  have hsound := id.isSound
  unfold fault? at hsound
  split at hsound
  · cases hsound
  · rename_i hne
    exact fun hnil => hne (String.isEmpty_iff.2 (String.toList_eq_nil_iff.1 hnil))

theorem Identifier.not_isBlank {kind : Kind} (id : Identifier kind) {c : Char} (hc : c ∈ id.text.toList) :
    isBlank c = false := by
  have hsound := id.isSound
  unfold fault? at hsound
  split at hsound
  · cases hsound
  · split at hsound
    · cases hsound
    · rename_i hblank
      exact Bool.eq_false_iff.2 (List.any_eq_false.1 (Bool.not_eq_true _ ▸ hblank) c hc)

namespace WorkloadSettings

/-- What is written behind the tenant. -/
def tokenSegments : List (List Char) :=
  ["oauth2".toList, "v2.0".toList, "token".toList]

/-- The path of a tenant's endpoint as it is written. -/
def tenantPath (tenant : TenantId) : List Char :=
  ['/'].intercalate (tenant.text.toList :: tokenSegments)

theorem tenantPath_eq (tenant : TenantId) :
    tenantPath tenant = tenant.text.toList ++ "/oauth2/v2.0/token".toList := by
  unfold tenantPath tokenSegments
  rw [List.intercalate_cons_cons, List.append_assoc]
  rfl

theorem replaceAll_tokenPath (audience : String) (tenant : TenantId) :
    replaceAll tenantPlace tenant.text.toList (forAudience audience).tokenPath.toList = tenantPath tenant := by
  have hplace : "\x7btenant\x7d/oauth2/v2.0/token".toList = tenantPlace ++ "/oauth2/v2.0/token".toList := by
    decide
  show replaceAll tenantPlace tenant.text.toList "\x7btenant\x7d/oauth2/v2.0/token".toList = _
  rw [hplace, replaceAll_append (by decide), tenantPath_eq]
  exact congrArg (tenant.text.toList ++ ·) (replaceAll_eq_self (by decide) _ _)

theorem toList_endpointText (audience : String) (tenant : TenantId) :
    ((forAudience audience).endpointText tenant).toList =
      "https://login.microsoftonline.com/".toList ++ (tenantPath tenant).dropWhile (· == '/') := by
  have hslash : "https://login.microsoftonline.com/".toList.getLast? = some '/' := by decide
  unfold endpointText
  rw [replaceAll_tokenPath,
    show (forAudience audience).authority = "https://login.microsoftonline.com/" from rfl, if_pos hslash,
    String.toList_append]
  exact congrArg (_ ++ ·) String.toList_ofList

/-- A text without white space that neither begins nor ends with a control is read as it is. -/
theorem cleaned_of_ends {x y : Char} (cs : List Char) (hx : decide (x.toNat ≤ 0x20) = false)
    (hy : decide (y.toNat ≤ 0x20) = false) (hblank : ∀ c ∈ x :: (cs ++ [y]), isBlank c = false) :
    cleaned (x :: (cs ++ [y])) = x :: (cs ++ [y]) := by
  unfold cleaned
  rw [trimWhile_of_ends (fun c : Char => decide (c.toNat ≤ 0x20)) hx hy, List.filter_eq_self]
  intro c hc
  have hne {d : Char} (hd : isBlank d = true) : (c != d) = true := by
    refine bne_iff_ne.2 fun heq => ?_
    rw [← heq, hblank c hc] at hd
    cases hd
  rw [hne (by decide), hne (by decide), hne (by decide)]
  rfl

/-- The path as it is written ends with a letter, and holds only characters of the tenant and of what is
written behind it. -/
theorem exists_dropWhile_tenantPath (tenant : TenantId) :
    ∃ path, (tenantPath tenant).dropWhile (· == '/') = path ++ ['n'] ∧
      ∀ c ∈ path ++ ['n'], c ∈ tenant.text.toList ∨ c ∈ "/oauth2/v2.0/token".toList := by
  have hlast : tenantPath tenant = (tenant.text.toList ++ "/oauth2/v2.0/toke".toList) ++ ['n'] := by
    rw [tenantPath_eq, List.append_assoc]
    rfl
  obtain ⟨path, hpath⟩ : ∃ path, (tenantPath tenant).dropWhile (· == '/') = path ++ ['n'] := by
    rw [hlast, List.dropWhile_append]
    split
    · exact ⟨[], rfl⟩
    · exact ⟨_, rfl⟩
  refine ⟨path, hpath, fun c hc => ?_⟩
  rw [← hpath] at hc
  have hmem := (List.dropWhile_suffix _).subset hc
  rwa [tenantPath_eq, List.mem_append] at hmem

theorem cleaned_endpointText (audience : String) (tenant : TenantId) :
    cleaned ((forAudience audience).endpointText tenant).toList =
      ((forAudience audience).endpointText tenant).toList := by
  obtain ⟨path, hpath, hmem⟩ := exists_dropWhile_tenantPath tenant
  have hplain : ("https://login.microsoftonline.com/".toList ++ "/oauth2/v2.0/token".toList).all
      (!isBlank ·) = true := by
    decide
  rw [toList_endpointText, hpath]
  refine cleaned_of_ends ("ttps://login.microsoftonline.com/".toList ++ path) (by decide) (by decide) ?_
  intro c hc
  have hparts : c ∈ "https://login.microsoftonline.com/".toList ++ (path ++ ['n']) := hc
  rcases List.mem_append.1 hparts with hc | hc
  · simpa using List.all_eq_true.1 hplain c (List.mem_append_left _ hc)
  · rcases hmem c hc with hc | hc
    · exact tenant.not_isBlank hc
    · simpa using List.all_eq_true.1 hplain c (List.mem_append_right _ hc)

/-- The address of every tenant is read: what is written for the tenant begins the path, and ends it at the
first mark in it. -/
theorem tokenEndpoint_eq_ok (audience : String) (tenant : TenantId) :
    (forAudience audience).tokenEndpoint tenant = .ok (withBack true "https".toList
      (some ⟨[], none, .domain "login.microsoftonline.com".toList, none⟩)
      (.segments (readSegments .special (cut endsPath ((tenantPath tenant).dropWhile (· == '/'))).1))
      (cut endsPath ((tenantPath tenant).dropWhile (· == '/'))).2) := by
  have hauthority : (parseAuthority "https".toList true true "login.microsoftonline.com".toList).toOption =
      some (⟨[], none, .domain "login.microsoftonline.com".toList, none⟩, []) := by
    decide +kernel
  have hsplit : splitScheme? (cleaned ((forAudience audience).endpointText tenant).toList) =
      some ("https".toList, '/' :: '/' :: ("login.microsoftonline.com".toList ++
        '/' :: (tenantPath tenant).dropWhile (· == '/'))) := by
    rw [cleaned_endpointText, toList_endpointText]
    exact @splitScheme?_append "https".toList _ (by decide) (by decide) (by decide)
  unfold tokenEndpoint endpointUrl
  rw [parse_eq_ok (by decide) hsplit (by decide) (by decide) (eq_ok_of_toOption hauthority)]
  rfl

/-! ## 2. The path of the endpoint -/

/-- Whether an address is the endpoint of a tenant: it ends with its path, which is the tenant and then what
is written behind every tenant. -/
structure IsEndpointOf (tenant : TenantId) (e : Url) : Prop where
  path_eq : e.path = .segments (percentEncode inPathSet tenant.text.toList :: tokenSegments)
  query_eq : e.query = none
  fragment_eq : e.fragment = none

theorem isSegment_of_mem_tokenSegments {s : List Char} (h : s ∈ tokenSegments) : IsSegment s := by
  have hnot : tokenSegments.all (fun s => !s.any (endsAuthority true) && !isDotted s) = true := by decide
  have hs := List.all_eq_true.1 hnot s h
  rw [Bool.and_eq_true, Bool.not_eq_true', Bool.not_eq_true'] at hs
  exact ⟨hs.1, hs.2⟩

theorem map_percentEncode_tokenSegments : tokenSegments.map (percentEncode inPathSet) = tokenSegments := by
  decide

variable {tenant : TenantId}

theorem dropWhile_tenantPath (h : '/' ∉ tenant.text.toList) :
    (tenantPath tenant).dropWhile (· == '/') = tenantPath tenant := by
  obtain ⟨c, rest, hcons⟩ := List.exists_cons_of_ne_nil tenant.toList_ne_nil
  have hc : c ≠ '/' := fun heq => h (hcons ▸ heq ▸ List.mem_cons_self)
  rw [tenantPath_eq, hcons, List.cons_append, List.dropWhile_cons_of_neg (by simp [hc])]

theorem tokenEndpoint_of_isSegment (h : IsSegment tenant.text.toList) (audience : String) :
    (forAudience audience).tokenEndpoint tenant = .ok ⟨"https".toList,
      some ⟨[], none, .domain "login.microsoftonline.com".toList, none⟩,
      .segments (percentEncode inPathSet tenant.text.toList :: tokenSegments), none, none⟩ := by
  have hslash : '/' ∉ tenant.text.toList := fun hmem => absurd (h.not_ends_of_mem hmem).1 (by decide)
  have hall : ∀ s ∈ tenant.text.toList :: tokenSegments, IsSegment s := by
    intro s hs
    rcases List.mem_cons.1 hs with rfl | hs
    · exact h
    · exact isSegment_of_mem_tokenSegments hs
  have hends : ∀ c ∈ tenantPath tenant, endsPath c = false := by
    intro c hc
    rcases of_mem_intercalate hc with rfl | ⟨s, hs, hc⟩
    · rfl
    · exact ((hall s hs).not_ends_of_mem hc).2
  rw [tokenEndpoint_eq_ok, dropWhile_tenantPath hslash, cut_of_forall hends, withBack_of_nil, tenantPath,
    readSegments_intercalate (List.cons_ne_nil _ _) hall, List.map_cons, map_percentEncode_tokenSegments]

/-- A dotted tenant is not left in the path. -/
theorem readSegments_of_dotted (hdotted : isDotted tenant.text.toList = true)
    (hsep : ∀ c ∈ tenant.text.toList, isSeparator true c = false) :
    readSegments .special (tenantPath tenant) = tokenSegments := by
  have hsplit : splitSegments true (tenantPath tenant) = tenant.text.toList :: tokenSegments := by
    refine splitSegments_intercalate (List.cons_ne_nil _ _) fun s hs c hc => ?_
    rcases List.mem_cons.1 hs with rfl | hs
    · exact hsep c hc
    · exact ((isSegment_of_mem_tokenSegments hs).not_ends_of_mem hc).1
  have hencoded : isDotted (percentEncode inPathSet tenant.text.toList) = true := by
    rwa [isDotted_percentEncode]
  show (addSegments false []
    ((splitSegments true (tenantPath tenant)).map (percentEncode inPathSet))).reverse = _
  rw [hsplit, List.map_cons, map_percentEncode_tokenSegments, tokenSegments, addSegments_of_dotted hencoded]
  decide

/-- Only of the text of one segment the endpoint is made as it should be. -/
theorem isSegment_of_isEndpointOf {audience : String} {e : Url}
    (h : (forAudience audience).tokenEndpoint tenant = .ok e) (hof : IsEndpointOf tenant e) :
    IsSegment tenant.text.toList := by
  obtain rfl := Except.ok.inj ((tokenEndpoint_eq_ok audience tenant).symm.trans h)
  have hends := forall_of_snd_cut (eq_nil_of_withBack hof.query_eq hof.fragment_eq)
  have hpath := Path.segments.inj hof.path_eq
  rw [cut_of_forall hends] at hpath
  have hsep : ∀ c ∈ tenant.text.toList, isSeparator true c = false := by
    intro c hc
    by_contra hc'
    -- Separators are not encoded, so this one would be left in the first segment.
    have hset : inPathSet c = false := not_inPathSet_of_isSeparator (Bool.not_eq_false _ ▸ hc')
    exact hc' (not_separator_of_readSegments (hpath ▸ List.mem_cons_self) (mem_percentEncode hc hset))
  have hslash : '/' ∉ tenant.text.toList := fun hmem => absurd (hsep '/' hmem) (by decide)
  rw [dropWhile_tenantPath hslash] at hpath hends
  refine ⟨?_, ?_⟩
  · rw [List.any_eq_false]
    intro c hc
    have hmem : c ∈ tenantPath tenant := tenantPath_eq tenant ▸ List.mem_append_left _ hc
    simp [endsAuthority, hsep c hc, hends c hmem]
  · by_contra hdotted
    rw [Bool.not_eq_false] at hdotted
    rw [readSegments_of_dotted hdotted hsep] at hpath
    exact absurd (congrArg List.length hpath) (by simp)

/-! ## 3. Tenants and their endpoints -/

/-- The audience and the file of the assertion have no part in an endpoint. -/
theorem tokenEndpoint_eq_forAudience {s : WorkloadSettings}
    (hauthority : s.authority = "https://login.microsoftonline.com/")
    (hpath : s.tokenPath = "\x7btenant\x7d/oauth2/v2.0/token") :
    s.tokenEndpoint = (forAudience s.audience).tokenEndpoint := by
  funext tenant
  unfold tokenEndpoint endpointText
  rw [hauthority, hpath]
  rfl

/-- With the authority and the path that settings have unless others are set, every tenant has an endpoint, and
it is made of the tenant as one segment and the three segments behind it just if the tenant is the text of one
segment.  Such tenants have the same endpoint just if they are encoded the same, which different ones are only
if one of them holds codes itself. -/
theorem tokenEndpoint_holds_tenant_iff_segment {s : WorkloadSettings}
    (hauthority : s.authority = "https://login.microsoftonline.com/")
    (hpath : s.tokenPath = "\x7btenant\x7d/oauth2/v2.0/token") (tenant : TenantId) :
    (∃ e, s.tokenEndpoint tenant = .ok e ∧ (IsEndpointOf tenant e ↔ IsSegment tenant.text.toList)) ∧
    ∀ other : TenantId, IsSegment tenant.text.toList → IsSegment other.text.toList →
      (s.tokenEndpoint tenant = s.tokenEndpoint other ↔
        percentEncode inPathSet tenant.text.toList = percentEncode inPathSet other.text.toList) ∧
      ('%' ∉ tenant.text.toList → '%' ∉ other.text.toList → s.tokenEndpoint tenant = s.tokenEndpoint other →
        tenant = other) := by
  rw [tokenEndpoint_eq_forAudience hauthority hpath]
  refine ⟨⟨_, tokenEndpoint_eq_ok s.audience tenant,
    isSegment_of_isEndpointOf (tokenEndpoint_eq_ok s.audience tenant), fun hsegment => ?_⟩,
    fun other hsegment hother => ?_⟩
  · have hsame := Except.ok.inj
      ((tokenEndpoint_eq_ok s.audience tenant).symm.trans (tokenEndpoint_of_isSegment hsegment s.audience))
    rw [hsame]
    exact ⟨rfl, rfl, rfl⟩
  · have hiff : (forAudience s.audience).tokenEndpoint tenant = (forAudience s.audience).tokenEndpoint other ↔
        percentEncode inPathSet tenant.text.toList = percentEncode inPathSet other.text.toList := by
      rw [tokenEndpoint_of_isSegment hsegment, tokenEndpoint_of_isSegment hother]
      simp
    refine ⟨hiff, fun htenant hother' hsame => ?_⟩
    exact Identifier.eq_of_text (String.toList_inj.1 (eq_of_percentEncode_eq htenant hother' (hiff.1 hsame)))

/-- A tenant beyond ASCII with braces and dots, and one that differs from it in an accent. -/
theorem tokenEndpoint_of_accented_tenant :
    ∃ e, (forAudience "").tokenEndpoint ⟨"é\x7b..:@\x7d", by decide⟩ = .ok e ∧
      IsEndpointOf ⟨"é\x7b..:@\x7d", by decide⟩ e ∧
      (forAudience "").tokenEndpoint ⟨"e\x7b..:@\x7d", by decide⟩ ≠ .ok e := by
  have hsegment : IsSegment "é\x7b..:@\x7d".toList := ⟨by decide, by decide⟩
  have hother : IsSegment "e\x7b..:@\x7d".toList := ⟨by decide, by decide⟩
  obtain ⟨⟨e, he, hof⟩, hothers⟩ :=
    tokenEndpoint_holds_tenant_iff_segment (s := forAudience "") rfl rfl ⟨"é\x7b..:@\x7d", by decide⟩
  refine ⟨e, he, hof.2 hsegment, fun hsame => ?_⟩
  have heq := (hothers ⟨"e\x7b..:@\x7d", by decide⟩ hsegment hother).2 (by decide) (by decide)
    (he.trans hsame.symm)
  exact absurd (congrArg Identifier.text heq) (by decide)

/-- A tenant with the mark of a query ends the path, and a slash before a tenant is dropped: not every tenant
has an endpoint made of it, and not every two have different ones. -/
theorem tokenEndpoint_of_marked_tenant :
    ((forAudience "").tokenEndpoint ⟨"t?x", by decide⟩).toOption.bind (·.query) =
        some "x/oauth2/v2.0/token".toList ∧
      (¬ ∀ (tenant : TenantId) (e : Url), (forAudience "").tokenEndpoint tenant = .ok e →
        IsEndpointOf tenant e) ∧
      ¬ ∀ (tenant other : TenantId) (e : Url), (forAudience "").tokenEndpoint tenant = .ok e →
        (forAudience "").tokenEndpoint other = .ok e → tenant = other := by
  have hquery : ((forAudience "").tokenEndpoint ⟨"t?x", by decide⟩).toOption.bind (·.query) =
      some "x/oauth2/v2.0/token".toList := by
    decide +kernel
  refine ⟨hquery, fun hall => ?_, fun hall => ?_⟩
  · have hof := hall _ _ (tokenEndpoint_eq_ok "" ⟨"t?x", by decide⟩)
    rw [tokenEndpoint_eq_ok] at hquery
    exact absurd (hof.query_eq.symm.trans hquery) (by decide)
  · have hpath : (tenantPath ⟨"/t", by decide⟩).dropWhile (· == '/') =
        (tenantPath ⟨"t", by decide⟩).dropWhile (· == '/') := by
      decide
    have hslashed := tokenEndpoint_eq_ok "" ⟨"/t", by decide⟩
    rw [hpath] at hslashed
    have heq := hall _ _ _ hslashed (tokenEndpoint_eq_ok "" ⟨"t", by decide⟩)
    exact absurd (congrArg Identifier.text heq) (by decide)

end WorkloadSettings

end RegistryAuth
