import RegistryAuth.Proofs.Broker.Permits
import RegistryAuth.Proofs.Url.Form

/-!
# Authorizers

A call of an authorizer gets a token and has it exchanged, and stops at the first of the two that fails.
`FacadeAccounted` is what holds of such a call after every run: what it has sent and what its result rests
on.  A credential of the other flow ends it at once, with nothing but the record of it.
-/

namespace RegistryAuth

open Text

/-! ## 1. The request of an exchange -/

namespace Registry

/-- How an exchange can be asked for depends on the host alone; the token and its tenant only come into
the form. -/
theorem request_with_form {s : ExchangeSettings} {token : AccessToken} {tenant : Option TenantId}
    {host : String} {q : Http.Request} (h : request s token tenant host = .ok q) :
    ∃ service, ∀ token' tenant', request s token' tenant' host =
      .ok { q with body := (form service tenant' token').encode } := by
  unfold request at h ⊢
  cases hurl : exchangeUrl s host with
  | error fault => simp [hurl, Bind.bind, Except.bind] at h
  | ok url =>
    simp only [hurl, Bind.bind, Except.bind] at h ⊢
    split at h
    · simp at h
    · rename_i service _
      split at h
      · simp at h
      · cases h
        exact ⟨service.text, fun _ _ => rfl⟩

theorem body_of_request {s : ExchangeSettings} {token : AccessToken} {tenant : Option TenantId}
    {host : String} {q : Http.Request} (h : request s token tenant host = .ok q) :
    ∃ service, q.body = (form service tenant token).encode := by
  obtain ⟨service, hforms⟩ := request_with_form h
  have hself := hforms token tenant
  rw [h] at hself
  exact ⟨service, congrArg Http.Request.body (Except.ok.inj hself)⟩

/-- The field of a form that carries the token holds the token. -/
theorem token_of_form (service : List Char) (tenant : Option TenantId) (token : AccessToken) :
    (form service tenant token).filter (·.1 = "access_token") = [("access_token", token.text)] := by
  cases tenant <;> simp [form]

/-- What a registry reads in the body of a request is the token that was to be exchanged. -/
theorem token_of_request {s : ExchangeSettings} {token : AccessToken} {tenant : Option TenantId}
    {host : String} {q : Http.Request} (h : request s token tenant host = .ok q) :
    (Form.decode (Utf8.encode q.body)).filter (·.1 = "access_token") =
      [("access_token", token.text)] := by
  obtain ⟨service, hbody⟩ := body_of_request h
  rw [hbody, Form.decode_encode, token_of_form]

end Registry

namespace Stage

variable {g : Stage} {es : List Event}

/-- A stage's failure is its own and no authorizer's. -/
theorem Asked.isOperation_of_error {e : Error} (h : g.Asked es (.ended (.error e))) :
    e.isOperation = false := by
  cases h with
  | refused hp => exact Error.isOperation_of_isInput (isInput_of_prepare hp)
  | withdrawn => rfl
  | unmade hp hunmade =>
    rw [← hunmade]
    rfl
  | settled hp hr => exact Error.isOperation_of_isAnswer (isAnswer_of_conclude hr)
  | abandoned hp ht => rfl

theorem Course.isOperation_of_error {e : Error} (h : g.Course es (.ended (.error e))) :
    e.isOperation = false := by
  cases h with
  | missed hf ha => exact ha.isOperation_of_error

end Stage

/-! ## 2. Requests of records -/

/-- The operation in which a record says that a request was sent. -/
def Record.sentIn? (r : Record) : Option (Option Operation) :=
  match r.event with
  | .sent _ => some r.origin.operation
  | _ => none

/-- The operations in which requests were sent, in their order. -/
def sendsOf (rs : List Record) : List (Option Operation) :=
  rs.filterMap Record.sentIn?

theorem sendsOf_append (rs ts : List Record) : sendsOf (rs ++ ts) = sendsOf rs ++ sendsOf ts :=
  List.filterMap_append

theorem sendsOf_spending (o : Origin) (es : List Event) :
    sendsOf (o.records (es.filter Event.isSpending)) = sendsOf (o.records es) := by
  unfold sendsOf Origin.records
  rw [List.filterMap_map, List.filterMap_map, List.filterMap_filter]
  congr 1
  funext e
  cases e <;> rfl

theorem sendsOf_reports {o : Origin} {es : List Event} (h : ∀ e ∈ es, e.isReport = true) :
    sendsOf (o.records es) = [] := by
  refine List.filterMap_eq_nil_iff.2 fun r hr => ?_
  obtain ⟨e, he, rfl⟩ := List.mem_map.1 hr
  have hreport := h e he
  cases e <;> first | rfl | exact Bool.noConfusion hreport

/-- A stage sends one request at most. -/
theorem Stage.Course.sends_once {g : Stage} {es : List Event} {turn : Turn} (h : g.Course es turn)
    (o : Origin) : sendsOf (o.records es) = [] ∨ sendsOf (o.records es) = [o.operation] := by
  have hspent := h.spent
  rw [← sendsOf_spending]
  generalize es.filter Event.isSpending = spent at hspent ⊢
  cases hspent with
  | nothing => exact .inl rfl
  | permit => exact .inl rfl
  | request q => exact .inr rfl

/-! ## 3. What a call of an authorizer does -/

/-- The operation of the stage that gets a token for a credential. -/
def Credential.retrieval : Credential → Operation
  | .managed .. => .managedIdentity
  | .workload .. => .workloadIdentity

/-- The error of an authorizer that does not serve the flow of a credential. -/
def mismatchError (a : Authorizer) (credential : Credential) : Error :=
  .operation (Call.operationOf credential)
    (.config (.flowMismatch a.retriever.flow credential.flow))

/-- What made a call of an authorizer fail: the flow, the retrieval, or the exchange behind a retrieval
that did not. -/
inductive FirstFailure (call : Nat) (a : Authorizer) (credential : Credential) (rs : List Record) :
    Error → Prop
  | flow (h : a.retriever.flow ≠ credential.flow) :
    FirstFailure call a credential rs (.config (.flowMismatch a.retriever.flow credential.flow))
  | retrieval {e : Error} (h : ⟨⟨call, some credential.retrieval⟩, .ended (.error e)⟩ ∈ rs)
    (hnone : ∀ r ∈ rs, r.origin ≠ ⟨call, some .registryExchange⟩) :
    FirstFailure call a credential rs e
  | exchange {token : AccessToken} {e : Error}
    (h : [⟨⟨call, some credential.retrieval⟩, .ended (.ok token)⟩,
      ⟨⟨call, some .registryExchange⟩, .ended (.error e)⟩].Sublist rs) :
    FirstFailure call a credential rs e

/-- What is to be known of a call of an authorizer from its records and its result. -/
structure FacadeAccounted (call : Nat) (a : Authorizer) (credential : Credential) (rs : List Record)
    (result : Option Result) : Prop where
  /-- A request for a token is sent at most, and one for its exchange behind it. -/
  sends : (sendsOf rs).Sublist [some credential.retrieval, some .registryExchange]
  /-- What is exchanged is the token that the retrieval ended with before. -/
  exchanged : ∀ q, ⟨⟨call, some .registryExchange⟩, .sent q⟩ ∈ rs →
    ∃ token, [⟨⟨call, some credential.retrieval⟩, .ended (.ok token)⟩,
        ⟨⟨call, some .registryExchange⟩, .sent q⟩].Sublist rs ∧
      (Form.decode (Utf8.encode q.body)).filter (·.1 = "access_token") =
        [("access_token", token.text)]
  returned : ∀ x, result = some x → ∃ outcome, x = .token outcome
  /-- A refresh token is that of the answer to the exchange, for which the last request was sent. -/
  refreshed : ∀ token, result = some (.token (.ok token)) →
    (sendsOf rs).getLast? = some (some .registryExchange) ∧
    ∃ q slot response fields, [⟨⟨call, some .registryExchange⟩, .sent q⟩,
        ⟨⟨call, some .registryExchange⟩, .settled slot (.ok response)⟩].Sublist rs ∧
      response.status = 200 ∧ Registry.answerRecord.read response.body = .ok fields ∧
      fields.text? "refresh_token" = some token.text
  /-- A failure is named after the operation once, around what failed first. -/
  failed : ∀ e, result = some (.token (.error e)) →
    ∃ cause, e = .operation (Call.operationOf credential) cause ∧ cause.isOperation = false ∧
      FirstFailure call a credential rs cause
  /-- For a credential of the other flow nothing is done but to tell so. -/
  mismatched : a.retriever.flow ≠ credential.flow →
    (∀ r ∈ rs, r.event.isReport = true) ∧
      ∀ x, result = some x → x = .token (.error (mismatchError a credential))

namespace Call

theorem operation_eq_retrieval {r : Retriever} {credential : Credential} {g : Stage}
    (h : retrieval? r credential = some g) : g.operation = credential.retrieval := by
  cases r <;> cases credential <;> simp only [retrieval?, reduceCtorEq, Option.some.injEq] at h
  · rw [← h]
    rfl
  · rw [← h]
    rfl

theorem origin_of_retrieval {r : Retriever} {credential : Credential} {g : Stage} (c : Caller)
    (h : retrieval? r credential = some g) : g.origin c = ⟨c.call, some credential.retrieval⟩ :=
  congrArg (fun op => Origin.mk c.call (some op)) (operation_eq_retrieval h)

theorem pair_sublist {rs ts : List Record} {r t : Record} (hr : r ∈ rs) (ht : t ∈ ts) :
    [r, t].Sublist (rs ++ ts) :=
  (List.singleton_sublist.2 hr).append (List.singleton_sublist.2 ht)

variable {c : Caller} {a : Authorizer} {credential : Credential} {host : String} {rs : List Record}
  {phase : Phase}

section Retrieved

variable {g : Stage} {es es' : List Event} {token : AccessToken} {turn : Turn}

theorem ended_mem_retrieval {result : Except Error AccessToken}
    (hg : retrieval? a.retriever credential = some g) (h : g.Course es (.ended result)) :
    ⟨⟨c.call, some credential.retrieval⟩, .ended result⟩ ∈ (g.origin c).records es := by
  rw [← origin_of_retrieval c hg]
  exact h.ended_mem_records c

theorem sends_retrieval (hg : retrieval? a.retriever credential = some g) (h : g.Course es turn) :
    (sendsOf ((g.origin c).records es)).Sublist [some credential.retrieval] := by
  have hop : (g.origin c).operation = some credential.retrieval :=
    congrArg some (operation_eq_retrieval hg)
  rcases h.sends_once (g.origin c) with hnone | hone
  · rw [hnone]
    exact List.nil_sublist _
  · rw [hop] at hone
    exact hone ▸ .refl _

theorem sends_exchange (h : (exchangeStage a.exchanger (tenantOf credential) host token).Course es turn) :
    (sendsOf (((exchangeStage a.exchanger (tenantOf credential) host token).origin c).records es)).Sublist
      [some .registryExchange] := by
  rcases h.sends_once (Stage.origin _ c) with hnone | hone
  · rw [hnone]
    exact List.nil_sublist _
  · exact hone ▸ .refl _

theorem sends_of_sent (h : (exchangeStage a.exchanger (tenantOf credential) host token).Course es turn)
    {q : Http.Request} (hq : .sent q ∈ es) :
    sendsOf (((exchangeStage a.exchanger (tenantOf credential) host token).origin c).records es) =
      [some .registryExchange] := by
  rcases h.sends_once (Stage.origin _ c) with hnone | hone
  · have hsent := List.filterMap_eq_nil_iff.1 hnone _ ((Origin.mem_records_iff _ es _).2 hq)
    exact absurd hsent (Option.some_ne_none _)
  · exact hone

/-- The records of an authorizer whose retrieval ended with a token. -/
def retrievedRecords (c : Caller) (credential : Credential) (g x : Stage) (es es' : List Event)
    (turn : Turn) : List Record :=
  (c.within (operationOf credential)).records (operationOf credential).opening ++
    (g.origin c).records es ++ (x.origin c).records es' ++
      (c.within (operationOf credential)).records (facadeClosing (operationOf credential) turn)

/-- Where an exchange has begun, the retrieval had ended with the token that is exchanged. -/
theorem History.of_exchange (h : History c (.authorize a credential host) rs phase) {e : Event}
    (hmem : ⟨⟨c.call, some .registryExchange⟩, e⟩ ∈ rs) :
    ∃ g es token es' turn, retrieval? a.retriever credential = some g ∧
      g.Course es (.ended (.ok token)) ∧
      (exchangeStage a.exchanger (tenantOf credential) host token).Course es' turn ∧
      rs = retrievedRecords c credential g
        (exchangeStage a.exchanger (tenantOf credential) host token) es es' turn ∧ e ∈ es' := by
  -- Neither the authorizer's own records nor those of the retrieval are of the exchange.
  have hwithin : ∀ es, ⟨⟨c.call, some .registryExchange⟩, e⟩ ∉
      (c.within (operationOf credential)).records es := by
    intro es hmem
    have ho := (Origin.mem_records.1 hmem).1
    exact within_operationOf_ne c credential
      (exchangeStage a.exchanger (tenantOf credential) host ⟨""⟩) ho.symm
  have hretrieval : ∀ {g es}, retrieval? a.retriever credential = some g →
      ⟨⟨c.call, some .registryExchange⟩, e⟩ ∉ (g.origin c).records es := by
    intro g es hg hmem
    have ho := congrArg Origin.operation (Origin.mem_records.1 hmem).1
    exact operation_of_retrieval? hg (Option.some.inj ho).symm
  cases h with
  | unpolled => exact absurd hmem List.not_mem_nil
  | mismatched hop hnone he => exact absurd hmem (hop ▸ hwithin _)
  | retrieving hop hg h =>
    subst hop
    simp [hwithin, hretrieval hg] at hmem
  | unretrieved hop hg h =>
    subst hop
    simp [hwithin, hretrieval hg] at hmem
  | @retrieved _ _ _ _ g x es es' token turn hop hg h hx h' =>
    subst hop hx
    refine ⟨g, es, token, es', turn, hg, h, h', rfl, ?_⟩
    simp only [List.mem_append, hwithin, hretrieval hg, false_or, or_false] at hmem
    exact (Origin.mem_records.1 hmem).2
  | plain hc hp hr => simp [Command.isPlain] at hc

end Retrieved

theorem History.sends (h : History c (.authorize a credential host) rs phase) :
    (sendsOf rs).Sublist [some credential.retrieval, some .registryExchange] := by
  have hopening : ∀ op : Operation, sendsOf ((c.within op).records op.opening) = [] :=
    fun op => sendsOf_reports fun e he => isReport_opening he
  have hclosing : ∀ (op : Operation) result, sendsOf ((c.within op).records (op.closing result)) = [] :=
    fun op result => sendsOf_reports fun e he => isReport_closing he
  have hfirst : ∀ {sends : List (Option Operation)}, sends.Sublist [some credential.retrieval] →
      sends.Sublist [some credential.retrieval, some .registryExchange] :=
    fun hsub => hsub.trans (List.sublist_append_left [_] [_])
  cases h with
  | unpolled => exact List.nil_sublist _
  | mismatched hop hnone he =>
    rw [Origin.records_append, sendsOf_append, hopening, hclosing]
    exact List.nil_sublist _
  | retrieving hop hg h =>
    rw [sendsOf_append, hopening]
    exact hfirst (sends_retrieval hg h)
  | unretrieved hop hg h =>
    rw [sendsOf_append, sendsOf_append, hopening, hclosing, List.append_nil]
    exact hfirst (sends_retrieval hg h)
  | retrieved hop hg h hx h' =>
    subst hx
    rw [sendsOf_append, sendsOf_append, sendsOf_append, hopening,
      sendsOf_reports (isReport_facadeClosing _ _), List.append_nil]
    exact (sends_retrieval hg h).append (sends_exchange h')
  | plain hc hp hr => simp [Command.isPlain] at hc

theorem History.exchanged (h : History c (.authorize a credential host) rs phase) {q : Http.Request}
    (hq : ⟨⟨c.call, some .registryExchange⟩, .sent q⟩ ∈ rs) :
    ∃ token, [⟨⟨c.call, some credential.retrieval⟩, .ended (.ok token)⟩,
        ⟨⟨c.call, some .registryExchange⟩, .sent q⟩].Sublist rs ∧
      (Form.decode (Utf8.encode q.body)).filter (·.1 = "access_token") =
        [("access_token", token.text)] := by
  -- The retrieval's end stands before all records of the exchange, so before the request too.
  obtain ⟨g, es, token, es', turn, hg, hes, hes', rfl, hsent⟩ := h.of_exchange hq
  obtain ⟨files, hp⟩ := hes'.prepare_of_sent hsent
  refine ⟨token, ?_, Registry.token_of_request (eq_ok_of_prepared hp)⟩
  refine List.Sublist.trans ?_ (List.sublist_append_left _ _)
  have hended := ended_mem_retrieval (c := c) hg hes
  exact pair_sublist (List.mem_append_right _ hended) (Origin.mem_records.2 ⟨rfl, hsent⟩)

theorem History.refreshed (h : History c (.authorize a credential host) rs phase)
    {token : AccessToken} (hphase : phase = .done (.token (.ok token))) :
    (sendsOf rs).getLast? = some (some .registryExchange) ∧
    ∃ q slot response fields, [⟨⟨c.call, some .registryExchange⟩, .sent q⟩,
        ⟨⟨c.call, some .registryExchange⟩, .settled slot (.ok response)⟩].Sublist rs ∧
      response.status = 200 ∧ Registry.answerRecord.read response.body = .ok fields ∧
      fields.text? "refresh_token" = some token.text := by
  cases h with
  | unpolled => simp at hphase
  | mismatched hop hnone he => simp at hphase
  | retrieving hop hg h => simp at hphase
  | unretrieved hop hg h => simp at hphase
  | plain hc hp hr => simp [Command.isPlain] at hc
  | @retrieved _ _ _ op g x es es' retrieved turn hop hg h hx h' =>
    subst hx
    cases turn with
    | going p => simp [exchangePhase] at hphase
    | ended result =>
      cases result with
      | error e => simp [exchangePhase] at hphase
      | ok token' =>
        obtain rfl : token' = token := by simpa [exchangePhase] using hphase
        rcases h'.of_token with ⟨found, hf, -⟩ | ⟨files, q, slot, response, hp, hsub, hconclude⟩
        · cases hf
        · rw [exchangeStage, Stage.conclude_exchange, Registry.token_eq] at hconclude
          obtain ⟨hstatus, -, fields, hread, htext⟩ := TokenAnswer.of_token_eq_ok hconclude
          have hsends := sends_of_sent (c := c) h' (hsub.subset List.mem_cons_self)
          refine ⟨?_, q, slot, response, fields, ?_, hstatus, hread, htext⟩
          -- What the authorizer records behind the exchange sends nothing.
          · rw [sendsOf_append, sendsOf_append, hsends,
              sendsOf_reports (isReport_facadeClosing _ _), List.append_nil, List.getLast?_concat]
          · refine List.Sublist.trans (hsub.map _) ?_
            refine List.Sublist.trans ?_ (List.sublist_append_left _ _)
            exact List.sublist_append_right _ _

theorem History.failed (h : History c (.authorize a credential host) rs phase) {e : Error}
    (hphase : phase = .done (.token (.error e))) :
    ∃ cause, e = .operation (operationOf credential) cause ∧ cause.isOperation = false ∧
      FirstFailure c.call a credential rs cause := by
  cases h with
  | unpolled => simp at hphase
  | retrieving hop hg h => simp at hphase
  | plain hc hp hr => simp [Command.isPlain] at hc
  | mismatched hop hnone he =>
    subst hop he
    cases hphase
    exact ⟨_, rfl, rfl, .flow ((retrieval?_eq_none_iff _ _).1 hnone)⟩
  | @unretrieved _ _ _ op g es cause hop hg h =>
    subst hop
    cases hphase
    have hended := ended_mem_retrieval (c := c) hg h
    rw [origin_of_retrieval c hg] at hended ⊢
    refine ⟨cause, rfl, h.isOperation_of_error, .retrieval ?_ fun r hr ho => ?_⟩
    · exact List.mem_append_left _ (List.mem_append_right _ hended)
    -- No record is of the exchange, since the call ended with its retrieval.
    · have hop : r.origin.operation = some .registryExchange := congrArg Origin.operation ho
      simp only [List.mem_append, Origin.mem_records] at hr
      rcases hr with (⟨hr, -⟩ | ⟨hr, -⟩) | ⟨hr, -⟩ <;> rw [hr] at hop
      · cases credential <;> simp [Caller.within, operationOf] at hop
      · cases credential <;> simp [Credential.retrieval] at hop
      · cases credential <;> simp [Caller.within, operationOf] at hop
  | @retrieved _ _ _ op g x es es' token turn hop hg h hx h' =>
    subst hop hx
    cases turn with
    | going p => simp [exchangePhase] at hphase
    | ended result =>
      cases result with
      | ok token => simp [exchangePhase] at hphase
      | error cause =>
        cases hphase
        -- The retrieval ended with a token before the exchange failed.
        have hended := ended_mem_retrieval (c := c) hg h
        have hpair := pair_sublist (List.mem_append_right
          ((c.within (operationOf credential)).records (operationOf credential).opening) hended)
          (h'.ended_mem_records c)
        exact ⟨cause, rfl, h'.isOperation_of_error,
          .exchange (hpair.trans (List.sublist_append_left _ _))⟩

theorem History.result_of_mismatch (h : History c (.authorize a credential host) rs phase)
    (hflow : a.retriever.flow ≠ credential.flow) {x : Result} (hphase : phase = .done x) :
    x = .token (.error (mismatchError a credential)) := by
  have hnone := (retrieval?_eq_none_iff a.retriever credential).2 hflow
  cases h with
  | unpolled => simp at hphase
  | mismatched hop hnone he =>
    subst hop he
    exact (Phase.done.inj hphase).symm
  | retrieving hop hg h => simp [hnone] at hg
  | unretrieved hop hg h => simp [hnone] at hg
  | retrieved hop hg h hx h' => simp [hnone] at hg
  | plain hc hp hr => simp [Command.isPlain] at hc

theorem History.returned (h : History c (.authorize a credential host) rs phase) {x : Result}
    (hphase : phase = .done x) : ∃ outcome, x = .token outcome := by
  cases h with
  | unpolled => simp at hphase
  | mismatched hop hnone he => exact ⟨_, by simpa using hphase.symm⟩
  | retrieving hop hg h => simp at hphase
  | unretrieved hop hg h => exact ⟨_, by simpa using hphase.symm⟩
  | @retrieved _ _ _ _ _ _ _ _ _ turn hop hg h hx h' =>
    cases turn with
    | going p => simp [exchangePhase] at hphase
    | ended result => exact ⟨_, by simpa [exchangePhase] using hphase.symm⟩
  | plain hc hp hr => simp [Command.isPlain] at hc

/-- Whatever an authorizer has come to, its records and its result are accounted for. -/
theorem History.accounted (h : History c (.authorize a credential host) rs phase) :
    FacadeAccounted c.call a credential rs (result? ⟨c, phase⟩) := by
  have hdone : ∀ {x}, result? ⟨c, phase⟩ = some x → phase = .done x := phase_of_result?
  exact {
    sends := h.sends
    exchanged := fun q hq => h.exchanged hq
    returned := fun x hx => h.returned (hdone hx)
    refreshed := fun token hx => h.refreshed (hdone hx)
    failed := fun e hx => h.failed (hdone hx)
    mismatched := fun hflow =>
      ⟨fun r hr => (h.of_mismatch hflow r hr).2, fun x hx => h.result_of_mismatch hflow (hdone hx)⟩ }

/-- A call of an authorizer that does not serve the flow of the credential, and the state that it leaves:
nothing is changed but the trace. -/
def refused (call : Call) (a : Authorizer) (credential : Credential) (s : State) : State × Call :=
  let op := operationOf credential
  let e := mismatchError a credential
  ({ s with
      trace := s.trace ++ (call.caller.within op).records (op.opening ++ op.closing (.error e)) },
    { call with phase := .done (.token (.error e)) })

theorem poll_of_mismatch (hflow : a.retriever.flow ≠ credential.flow) (i : Nat) (name host : String)
    (s : State) :
    (ofCommand i name (.authorize a credential host)).poll s =
      (ofCommand i name (.authorize a credential host)).refused a credential s := by
  -- Without a retrieval the first poll is the signals of a failure and nothing else.
  have hnone := (retrieval?_eq_none_iff a.retriever credential).2 hflow
  simp [poll, ofCommand, start, authorize, hnone, refused, finish, State.signal, State.record,
    Origin.records, Operation.opening, Operation.closing, mismatchError, Caller.within,
    Outcome.ofResult]

end Call

namespace Traffic

/-- After every run a call of an authorizer has sent at most a request for a token and one to exchange
it, and has returned what the registry answered or the error of what failed first; a credential of the
other flow ends it in its first poll, whatever the state, and nothing but the trace is changed. -/
theorem authorizer_retrieves_then_exchanges {s : State} (htrace : s.trace = []) (ms : List Move) {i : Nat}
    {name : String} {a : Authorizer} {credential : Credential} {host : String}
    (hmade : (Move.made ms)[i]? = some (name, .authorize a credential host)) :
    FacadeAccounted i a credential (recordsOf i ((ofState s).run ms).state.trace)
        (((ofState s).run ms).result? i) ∧
      (a.retriever.flow ≠ credential.flow → ∀ t : State,
        (Call.ofCommand i name (.authorize a credential host)).poll t =
          (Call.ofCommand i name (.authorize a credential host)).refused a credential t) := by
  obtain ⟨c, hc, hcaller, hhistory⟩ := (recorded_run htrace ms).history i name _ hmade
  have hresult : ((ofState s).run ms).result? i = c.result? := by
    rw [result?, hc, Option.bind_some]
  have haccounted := hhistory.accounted
  rw [hresult]
  rw [hcaller] at haccounted
  exact ⟨haccounted, fun hflow => Call.poll_of_mismatch hflow i name host⟩

/-- A call of an authorizer that is polled once. -/
def singleCall : List Move :=
  [.call "call" (.authorize Sample.authorizer (.managed Sample.selector none) "registry.io"), .poll 0]

/-- The call is accounted for, and returns the token of the registry. -/
theorem facade_of_single_call :
    (Move.made singleCall)[0]? =
      some ("call", .authorize Sample.authorizer (.managed Sample.selector none) "registry.io") ∧
    ((ofState Sample.state).run singleCall).token? 0 = some ⟨"r"⟩ ∧
    FacadeAccounted 0 Sample.authorizer (.managed Sample.selector none)
      (recordsOf 0 ((ofState Sample.state).run singleCall).state.trace)
      (((ofState Sample.state).run singleCall).result? 0) := by
  refine ⟨rfl, by decide +kernel, ?_⟩
  exact (authorizer_retrieves_then_exchanges (s := Sample.state) rfl singleCall rfl).1

end Traffic

end RegistryAuth
