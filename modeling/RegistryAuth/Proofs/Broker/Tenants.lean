import RegistryAuth.Proofs.Broker.Permanence
import RegistryAuth.Proofs.Registry.Form
import RegistryAuth.Proofs.Token.Identifiers

/-!
# The tenant of an exchange

An authorizer asks for the tenant that it is given, or else for the one that the token tells, or else for
none; no token keeps it from asking.  An exchange by claims is the exchange of an authorizer that is given no
tenant, where the token tells one, and ends at once where it does not.
-/

namespace RegistryAuth

open Text

/-! ## 1. The tenant that a token tells -/

namespace Claims

theorem tenant_of_firstOf? {claims : Claims} {name : String} {v : Json} {tenant : TenantId}
    (h : claims.firstOf? tenantNames = some (name, v)) :
    claims.tenant = .ok tenant ↔ v = .string tenant.text := by
  unfold Claims.tenant
  rw [h]
  cases v with
  | string s => simp only [mapError_eq_ok_iff, Identifier.ofText_eq_ok_iff, Json.string.injEq]
  | _ => simp

/-- The first of the two claims that is there counts, whatever it holds. -/
theorem tenant_eq_ok_iff {claims : Claims} {tenant : TenantId} :
    claims.tenant = .ok tenant ↔ claims.get? "tid" = some (.string tenant.text) ∨
      claims.get? "tid" = none ∧ claims.get? "tenant" = some (.string tenant.text) := by
  have hfirst : claims.firstOf? tenantNames =
      ((claims.get? "tid").map ("tid", ·)).or ((claims.get? "tenant").map ("tenant", ·)) := by
    unfold tenantNames firstOf? firstOf? firstOf?
    cases claims.get? "tid" <;> cases claims.get? "tenant" <;> rfl
  cases htid : claims.get? "tid" with
  | some v =>
    rw [htid] at hfirst
    simp [tenant_of_firstOf? hfirst]
  | none =>
    rw [htid] at hfirst
    cases hsecond : claims.get? "tenant" with
    | some v =>
      rw [hsecond] at hfirst
      simp [tenant_of_firstOf? hfirst]
    | none =>
      rw [hsecond] at hfirst
      have hnone : claims.firstOf? tenantNames = none := hfirst
      simp [Claims.tenant, hnone]

end Claims

namespace AccessToken

variable {token : AccessToken} {tenant : TenantId}

/-- Whether a token tells a tenant: it is a compact JWT, and the first of the claims that name one is a text
that does. -/
inductive Tells (token : AccessToken) (tenant : TenantId) : Prop
  | tid {claims : Claims} (hdecode : Claims.decode token = .ok claims)
    (h : claims.get? "tid" = some (.string tenant.text))
  | second {claims : Claims} (hdecode : Claims.decode token = .ok claims)
    (hnone : claims.get? "tid" = none) (h : claims.get? "tenant" = some (.string tenant.text))

theorem tenant_eq_ok_iff : token.tenant = .ok tenant ↔ token.Tells tenant := by
  unfold AccessToken.tenant
  constructor
  · intro h
    split at h
    · rename_i claims hdecode
      rcases Claims.tenant_eq_ok_iff.1 h with h | ⟨hnone, h⟩
      · exact .tid hdecode h
      · exact .second hdecode hnone h
    · cases h
  · rintro (⟨hdecode, h⟩ | ⟨hdecode, hnone, h⟩)
    · rw [hdecode]
      exact Claims.tenant_eq_ok_iff.2 (.inl h)
    · rw [hdecode]
      exact Claims.tenant_eq_ok_iff.2 (.inr ⟨hnone, h⟩)

/-- The tenant that a token is exchanged for, by the one that is given. -/
inductive ExchangedFor (token : AccessToken) : Option TenantId → Option TenantId → Prop
  | given (tenant : TenantId) : ExchangedFor token (some tenant) (some tenant)
  | told {tenant : TenantId} (h : token.Tells tenant) : ExchangedFor token none (some tenant)
  | untold (h : ∀ tenant, ¬ token.Tells tenant) : ExchangedFor token none none

theorem exchangedFor (token : AccessToken) (given : Option TenantId) :
    token.ExchangedFor given (given <|> token.tenant.toOption) := by
  cases given with
  | some tenant => exact .given tenant
  | none =>
    cases htenant : token.tenant with
    | ok tenant => exact .told (tenant_eq_ok_iff.1 htenant)
    | error fault =>
      refine .untold fun tenant h => ?_
      rw [tenant_eq_ok_iff.2 h] at htenant
      cases htenant

end AccessToken

/-! ## 2. The request of an exchange -/

/-- Whether an error is that of a claim. -/
def Error.isClaim : Error → Bool
  | .claim _ => true
  | _ => false

theorem Error.isClaim_of_isInput {e : Error} (h : e.isInput = true) : e.isClaim = false := by
  cases e <;> simp_all [isInput, isClaim]

theorem Error.isClaim_of_isAnswer {e : Error} (h : e.isAnswer = true) : e.isClaim = false := by
  cases e <;> simp_all [isAnswer, isClaim]

theorem Error.root_of_isOperation {e : Error} (h : e.isOperation = false) : e.root = e := by
  cases e <;> simp_all [isOperation, root]

namespace Registry

variable {s : ExchangeSettings} {token : AccessToken} {tenant : Option TenantId} {host : String}

theorem tenant_mem_of_request {q : Http.Request} (h : request s token tenant host = .ok q) :
    (∃ v, ("tenant", v) ∈ Form.decode (Utf8.encode q.body)) ↔ tenant.isSome = true := by
  rw [service_of_request h, Form.decode_encode]
  cases tenant <;> simp [form]

end Registry

namespace Stage

theorem Asked.isClaim_of_error {g : Stage} {es : List Event} {e : Error}
    (h : g.Asked es (.ended (.error e))) : e.isClaim = false := by
  cases h with
  | refused hp => exact Error.isClaim_of_isInput (isInput_of_prepare hp)
  | withdrawn => rfl
  | unmade hp hunmade =>
    rw [← hunmade]
    rfl
  | settled hp hr => exact Error.isClaim_of_isAnswer (isAnswer_of_conclude hr)
  | abandoned hp ht => rfl

theorem Course.isClaim_of_error {g : Stage} {es : List Event} {e : Error}
    (h : g.Course es (.ended (.error e))) : e.isClaim = false := by
  cases h with
  | missed hf ha => exact ha.isClaim_of_error

theorem Course.began {g : Stage} {es : List Event} {turn : Turn} (h : g.Course es turn) :
    .signal (.began g.operation) ∈ es := by
  cases h <;> simp [Operation.opening]

end Stage

/-! ## 3. Calls -/

/-- What is to be known of the tenant that a call of an authorizer asks for, from its records and its
result. -/
structure TenantAccounted (call : Nat) (a : Authorizer) (given : Option TenantId) (host : String)
    (rs : List Record) (result : Option Result) : Prop where
  /-- The form that is sent names the tenant that the token retrieved is exchanged for, if there is one. -/
  sent : ∀ q, ⟨⟨call, some .registryExchange⟩, .sent q⟩ ∈ rs →
    ∃ token tenant, ⟨⟨call, some .managedIdentity⟩, .ended (.ok token)⟩ ∈ rs ∧
      token.ExchangedFor given tenant ∧
      Form.decode (Utf8.encode q.body) =
        [("grant_type", "access_token"), ("service", String.ofList q.uri.host)] ++
          (tenant.map fun t => ("tenant", t.text)).toList ++ [("access_token", token.text)]
  /-- Behind every token that is retrieved the exchange begins. -/
  began : ∀ token, ⟨⟨call, some .managedIdentity⟩, .ended (.ok token)⟩ ∈ rs →
    ⟨⟨call, some .registryExchange⟩, .signal (.began .registryExchange)⟩ ∈ rs
  /-- Another token makes no difference to whether a request can be made, nor to what its outcome means. -/
  alike : ∀ token token' files slot outcome,
    (∀ e, (Call.exchangeStage a.exchanger given host token).prepare files = .error e ↔
      (Call.exchangeStage a.exchanger given host token').prepare files = .error e) ∧
    (Call.exchangeStage a.exchanger given host token).conclude slot outcome =
      (Call.exchangeStage a.exchanger given host token').conclude slot outcome
  failed : ∀ e, result = some (.token (.error e)) → e.root.isClaim = false

/-- What is to be known of a call that exchanges a token by its claims. -/
structure ClaimsAccounted (x : Exchanger) (token : AccessToken) (host : String) (rs : List Record)
    (result : Option Result) : Prop where
  /-- The request of an authorizer that is given no tenant names one just where the token tells it. -/
  named : ∀ files q, (Call.exchangeStage x none host token).prepare files = .ok (.ok q) →
    ((∃ v, ("tenant", v) ∈ Form.decode (Utf8.encode q.body)) ↔ ∃ tenant, token.Tells tenant)
  /-- Then the call is the exchange of such an authorizer, poll for poll. -/
  told : ∀ tenant, token.Tells tenant → ∀ c s,
    Call.start c s (.exchangeByClaims x token host) =
      Call.start c s (.stage (Call.exchangeStage x none host token))
  sent : ∀ o q, ⟨o, .sent q⟩ ∈ rs → ∀ files,
    (Call.exchangeStage x none host token).prepare files = .ok (.ok q)
  /-- Otherwise the first poll ends it and changes nothing. -/
  untold : (∀ tenant, ¬ token.Tells tenant) →
    rs = [] ∧ (∀ y, result = some y → ∃ fault, y = .token (.error (.claim fault))) ∧
      ∀ c s, ∃ fault, Call.start c s (.exchangeByClaims x token host) =
        (s, .done (.token (.error (.claim fault))))

namespace Call

variable {c : Caller} {a : Authorizer} {selector : Selector} {given : Option TenantId} {host : String}
  {rs : List Record} {phase : Phase}

theorem prepare_exchangeStage {x : Exchanger} {token : AccessToken} {files : Files} {q : Http.Request}
    (h : (exchangeStage x given host token).prepare files = .ok (.ok q)) :
    Registry.request x.settings token (given <|> token.tenant.toOption) host = .ok q :=
  eq_ok_of_prepared h

theorem exchangeStage_alike {x : Exchanger} {token : AccessToken} {files : Files} {e : Error}
    (h : (exchangeStage x given host token).prepare files = .error e) (token' : AccessToken) :
    (exchangeStage x given host token').prepare files = .error e := by
  obtain ⟨fault, hfault, rfl⟩ := mapError_eq_error_iff.1 h
  have hrequest := Registry.request_eq_error (map_eq_error_iff.1 hfault) token'
    (given <|> token'.tenant.toOption)
  exact mapError_eq_error_iff.2 ⟨fault, map_eq_error_iff.2 hrequest, rfl⟩

theorem History.tenant_sent (h : History c (.authorize a (.managed selector given) host) rs phase)
    {q : Http.Request} (hq : ⟨⟨c.call, some .registryExchange⟩, .sent q⟩ ∈ rs) :
    ∃ token tenant, ⟨⟨c.call, some .managedIdentity⟩, .ended (.ok token)⟩ ∈ rs ∧
      token.ExchangedFor given tenant ∧
      Form.decode (Utf8.encode q.body) =
        [("grant_type", "access_token"), ("service", String.ofList q.uri.host)] ++
          (tenant.map fun t => ("tenant", t.text)).toList ++ [("access_token", token.text)] := by
  obtain ⟨g, es, token, es', turn, hg, hes, hes', rfl, hsent⟩ := h.of_exchange hq
  obtain ⟨files, hp⟩ := hes'.prepare_of_sent hsent
  have hended := ended_mem_retrieval (c := c) hg hes
  refine ⟨token, _, List.mem_append_left _ (List.mem_append_left _ (List.mem_append_right _ hended)),
    token.exchangedFor given, ?_⟩
  rw [Registry.service_of_request (prepare_exchangeStage hp), Form.decode_encode]
  rfl

/-- A retrieval that ended with a token went on with the exchange of the token. -/
theorem History.exchange_began (h : History c (.authorize a (.managed selector given) host) rs phase)
    {token : AccessToken} (hended : ⟨⟨c.call, some .managedIdentity⟩, .ended (.ok token)⟩ ∈ rs) :
    ⟨⟨c.call, some .registryExchange⟩, .signal (.began .registryExchange)⟩ ∈ rs := by
  -- The authorizer's own records are of another operation.
  have hwithin : ∀ es, ⟨⟨c.call, some .managedIdentity⟩, .ended (.ok token)⟩ ∉
      (c.within .acquireWithManagedIdentity).records es := by
    intro es hmem
    cases (Origin.mem_records.1 hmem).1
  cases h with
  | unpolled => exact absurd hended List.not_mem_nil
  | mismatched hop hnone he =>
    subst hop
    exact absurd hended (hwithin _)
  | retrieving hop hg h =>
    subst hop
    rcases List.mem_append.1 hended with hended | hended
    · exact absurd hended (hwithin _)
    · cases h.ended_mem_iff.1 (Origin.mem_records.1 hended).2
  | unretrieved hop hg h =>
    subst hop
    rcases List.mem_append.1 hended with hended | hended
    · rcases List.mem_append.1 hended with hended | hended
      · exact absurd hended (hwithin _)
      · cases h.ended_mem_iff.1 (Origin.mem_records.1 hended).2
    · exact absurd hended (hwithin _)
  | @retrieved _ _ _ op g x es es' token' turn hop hg h hx h' =>
    subst hop hx
    have hbegan : ⟨⟨c.call, some .registryExchange⟩, .signal (.began .registryExchange)⟩ ∈
        Origin.records ⟨c.call, some .registryExchange⟩ es' :=
      (Origin.mem_records_iff _ es' _).2 h'.began
    exact List.mem_append_left _ (List.mem_append_right _ hbegan)
  | plain hc hp hr => simp [Command.isPlain] at hc

theorem History.isClaim_of_failed (h : History c (.authorize a (.managed selector given) host) rs phase)
    {e : Error} (hphase : phase = .done (.token (.error e))) : e.root.isClaim = false := by
  have hroot {cause : Error} (hop : cause.isOperation = false) (hclaim : cause.isClaim = false)
      (op : Operation) : (Error.operation op cause).root.isClaim = false := by
    rw [Error.root, Error.root_of_isOperation hop]
    exact hclaim
  cases h with
  | unpolled => simp at hphase
  | retrieving hop hg h => simp at hphase
  | plain hc hp hr => simp [Command.isPlain] at hc
  | mismatched hop hnone he =>
    subst he
    cases hphase
    rfl
  | unretrieved hop hg h =>
    cases hphase
    exact hroot h.isOperation_of_error h.isClaim_of_error _
  | @retrieved _ _ _ op g x es es' token turn hop hg h hx h' =>
    cases turn with
    | going p => simp [exchangePhase] at hphase
    | ended result =>
      cases result with
      | ok token => simp [exchangePhase] at hphase
      | error cause =>
        cases hphase
        exact hroot h'.isOperation_of_error h'.isClaim_of_error _

theorem History.tenantAccounted (h : History c (.authorize a (.managed selector given) host) rs phase) :
    TenantAccounted c.call a given host rs (result? ⟨c, phase⟩) where
  sent _ hq := h.tenant_sent hq
  began _ hended := h.exchange_began hended
  alike token token' _ _ _ :=
    ⟨fun _ => ⟨fun he => exchangeStage_alike he token', fun he => exchangeStage_alike he token⟩, rfl⟩
  failed _ he := h.isClaim_of_failed (phase_of_result? he)

section Claims

variable {x : Exchanger} {token : AccessToken}

theorem exchangeStage_of_tells {tenant : TenantId} (h : token.Tells tenant) :
    exchangeStage x none host token = .exchange x token (some tenant) host := by
  rw [exchangeStage, AccessToken.tenant_eq_ok_iff.2 h]
  rfl

theorem start_of_tells {tenant : TenantId} (h : token.Tells tenant) (c : Caller) (s : State) :
    start c s (.exchangeByClaims x token host) = start c s (.stage (exchangeStage x none host token)) := by
  rw [exchangeStage_of_tells h]
  simp only [start, AccessToken.tenant_eq_ok_iff.2 h]

theorem start_of_fault {fault : Claims.Fault} (h : token.tenant = .error fault) (c : Caller) (s : State) :
    start c s (.exchangeByClaims x token host) = (s, .done (.token (.error (.claim fault)))) := by
  simp only [start, h]

theorem exists_fault_of_untold (h : ∀ tenant, ¬ token.Tells tenant) :
    ∃ fault, token.tenant = .error fault := by
  cases htenant : token.tenant with
  | ok tenant => exact absurd (AccessToken.tenant_eq_ok_iff.1 htenant) (h tenant)
  | error fault => exact ⟨fault, rfl⟩

theorem named_of_prepare {files : Files} {q : Http.Request}
    (h : (exchangeStage x none host token).prepare files = .ok (.ok q)) :
    (∃ v, ("tenant", v) ∈ Form.decode (Utf8.encode q.body)) ↔ ∃ tenant, token.Tells tenant := by
  rw [Registry.tenant_mem_of_request (prepare_exchangeStage h)]
  constructor
  · intro hsome
    obtain ⟨tenant, htenant⟩ := Option.isSome_iff_exists.1 hsome
    exact ⟨tenant, AccessToken.tenant_eq_ok_iff.1 (eq_ok_of_toOption htenant)⟩
  · rintro ⟨tenant, htells⟩
    rw [AccessToken.tenant_eq_ok_iff.2 htells]
    rfl

theorem History.claims_sent (h : History c (.exchangeByClaims x token host) rs phase) {o : Origin}
    {q : Http.Request} (hq : ⟨o, .sent q⟩ ∈ rs) (files : Files) :
    (exchangeStage x none host token).prepare files = .ok (.ok q) := by
  cases h with
  | unpolled => exact absurd hq List.not_mem_nil
  | unclaimed ht => exact absurd hq List.not_mem_nil
  | @byClaims _ _ _ tenant g es turn ht hg h =>
    obtain ⟨files', hp⟩ := h.prepare_of_sent (Origin.mem_records.1 hq).2
    rw [exchangeStage_of_tells (AccessToken.tenant_eq_ok_iff.1 ht)]
    subst hg
    exact hp
  | plain hc hp hr => simp [Command.isPlain] at hc

theorem History.of_untold (h : History c (.exchangeByClaims x token host) rs phase)
    (hnone : ∀ tenant, ¬ token.Tells tenant) :
    rs = [] ∧ ∀ y, phase = .done y → ∃ fault, y = .token (.error (.claim fault)) := by
  cases h with
  | unpolled => exact ⟨rfl, fun y hy => by simp at hy⟩
  | @unclaimed _ _ _ fault ht => exact ⟨rfl, fun y hy => ⟨fault, by simpa using hy.symm⟩⟩
  | byClaims ht hg h => exact absurd (AccessToken.tenant_eq_ok_iff.1 ht) (hnone _)
  | plain hc hp hr => simp [Command.isPlain] at hc

theorem History.claimsAccounted (h : History c (.exchangeByClaims x token host) rs phase) :
    ClaimsAccounted x token host rs (result? ⟨c, phase⟩) where
  named _ _ hp := named_of_prepare hp
  told _ ht c s := start_of_tells ht c s
  sent _ _ hq files := h.claims_sent hq files
  untold hnone := by
    obtain ⟨hrecords, hresult⟩ := h.of_untold hnone
    obtain ⟨fault, hfault⟩ := exists_fault_of_untold hnone
    exact ⟨hrecords, fun y hy => hresult y (phase_of_result? hy),
      fun c s => ⟨fault, start_of_fault hfault c s⟩⟩

end Claims

end Call

namespace Traffic

/-- After every run an authorizer has asked for the tenant that it was given, or else for the one that the
token retrieved tells, or else for none, and has not failed for it; an exchange by claims has sent what an
authorizer that is given no tenant sends, or has failed for its claims and done nothing. -/
theorem exchange_asks_for_given_or_told_tenant {s : State} (htrace : s.trace = []) (ms : List Move)
    (i : Nat) (name host : String) :
    (∀ a selector given, (Move.made ms)[i]? = some (name, .authorize a (.managed selector given) host) →
      TenantAccounted i a given host (recordsOf i ((ofState s).run ms).state.trace)
        (((ofState s).run ms).result? i)) ∧
    ∀ x token, (Move.made ms)[i]? = some (name, .exchangeByClaims x token host) →
      ClaimsAccounted x token host (recordsOf i ((ofState s).run ms).state.trace)
        (((ofState s).run ms).result? i) := by
  constructor
  · intro a selector given hmade
    obtain ⟨c, hc, hcaller, hhistory⟩ := (recorded_run htrace ms).history i name _ hmade
    have haccounted := hhistory.tenantAccounted
    rw [hcaller] at haccounted
    rw [result?, hc, Option.bind_some]
    exact haccounted
  · intro x token hmade
    obtain ⟨c, hc, hcaller, hhistory⟩ := (recorded_run htrace ms).history i name _ hmade
    rw [result?, hc, Option.bind_some]
    exact hhistory.claimsAccounted

/-- A token whose first claim tells nothing and hides the second. -/
def hidingToken : AccessToken :=
  .unsigned (.object [("tenant", .string "t1"), ("tid", .null)])

def tellingToken : AccessToken :=
  .unsigned (.object [("tenant", .string "t1")])

def tenantState : State :=
  .fresh 3 (.ofSeconds 1) [Sample.answer "access_token" hidingToken.text,
    Sample.answer "refresh_token" "r", Sample.answer "refresh_token" "r2"]

/-- An authorizer and an exchange by claims, each polled once. -/
def tenantCalls : List Move :=
  [.call "facade" (.authorize Sample.authorizer (.managed Sample.selector none) "registry.io"),
    .call "claims" (.exchangeByClaims ⟨.default, 0⟩ tellingToken "registry.io"), .poll 0, .poll 1]

theorem token_without_tenant_is_exchanged :
    ((ofState tenantState).run tenantCalls).token? 0 = some ⟨"r"⟩ ∧
      ((ofState tenantState).run tenantCalls).token? 1 = some ⟨"r2"⟩ ∧
      TenantAccounted 0 Sample.authorizer none "registry.io"
        (recordsOf 0 ((ofState tenantState).run tenantCalls).state.trace)
        (((ofState tenantState).run tenantCalls).result? 0) ∧
      ClaimsAccounted ⟨.default, 0⟩ tellingToken "registry.io"
        (recordsOf 1 ((ofState tenantState).run tenantCalls).state.trace)
        (((ofState tenantState).run tenantCalls).result? 1) :=
  ⟨by decide +kernel, by decide +kernel,
    (exchange_asks_for_given_or_told_tenant (s := tenantState) rfl tenantCalls 0 "facade" "registry.io").1
      _ _ _ rfl,
    (exchange_asks_for_given_or_told_tenant (s := tenantState) rfl tenantCalls 1 "claims" "registry.io").2
      _ _ rfl⟩

end Traffic

end RegistryAuth
