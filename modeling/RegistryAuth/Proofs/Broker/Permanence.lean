import RegistryAuth.Proofs.Broker.Facade

/-!
# Permanent failures

A failure is permanent when the same input cannot succeed later.  Answers of servers, whatever they hold,
make no failure permanent: what is permanent was found out before the failing stage had sent anything,
from the settings and the input of the call.
-/

namespace RegistryAuth

/-! ## 1. Layers of operations -/

namespace Error

/-- An error within layers of operations, the outermost first. -/
def within (e : Error) (ops : List Operation) : Error :=
  ops.foldr .operation e

theorem root_within (e : Error) (ops : List Operation) : (e.within ops).root = e.root := by
  induction ops with
  | nil => rfl
  | cons op ops ih => exact ih

theorem isPermanent_of_root_eq {e e' : Error} (h : e.root = e'.root) :
    e.isPermanent = e'.isPermanent := by
  unfold isPermanent
  rw [h]

end Error

/-! ## 2. Errors of answers -/

/-- No response makes a failure permanent, whatever metadata were recorded with it. -/
theorem AnswerError.isPermanent {op : Operation} {slot : Http.Slot} {response : Http.Response}
    {e : Error} (h : AnswerError op slot response e) : e.isPermanent = false := by
  cases h <;> rfl

/-! ## 3. Errors of preparations -/

/-- Whether a fault is one of the making of a request: of its endpoint, its host or its parts. -/
def ConfigFault.isOfRequest : ConfigFault → Bool
  | .invalidEndpoint .. | .invalidRegistryHost _ | .request _ => true
  | _ => false

theorem isOfRequest_of_endpointUrl {endpoint : String} {fault : ConfigFault}
    (h : endpointUrl endpoint = .error fault) : fault.isOfRequest = true := by
  obtain ⟨cause, -, rfl⟩ := mapError_eq_error_iff.1 h
  rfl

theorem isOfRequest_of_uri {url : Url} {fault : ConfigFault} {request : Http.Uri → Http.Request}
    (h : ((Http.Uri.ofUrl url).mapError ConfigFault.request >>= fun uri => pure (request uri)) =
      .error fault) : fault.isOfRequest = true := by
  rcases bind_eq_error_iff.1 h with huri | ⟨uri, -, hpure⟩
  · obtain ⟨cause, -, rfl⟩ := mapError_eq_error_iff.1 huri
    rfl
  · cases hpure

theorem Managed.isOfRequest_of_request {s : ManagedSettings} {selector : Selector}
    {fault : ConfigFault} (h : request s selector = .error fault) : fault.isOfRequest = true := by
  rcases bind_eq_error_iff.1 h with hurl | ⟨url, -, huri⟩
  · exact isOfRequest_of_endpointUrl hurl
  · exact isOfRequest_of_uri huri

namespace Registry

variable {s : ExchangeSettings} {token : AccessToken} {tenant : Option TenantId} {host : String}
  {fault : ConfigFault}

theorem isOfRequest_of_exchangeUrl (h : exchangeUrl s host = .error fault) :
    fault.isOfRequest = true := by
  unfold exchangeUrl at h
  simp only at h
  split at h
  · cases h
    rfl
  · exact isOfRequest_of_endpointUrl h

theorem isOfRequest_of_request (h : request s token tenant host = .error fault) :
    fault.isOfRequest = true := by
  rcases bind_eq_error_iff.1 h with hurl | ⟨url, -, hrest⟩
  · exact isOfRequest_of_exchangeUrl hurl
  · split at hrest
    · cases hrest
      rfl
    · exact isOfRequest_of_uri hrest

/-- Whether an exchange can be asked for depends on the host alone, and not on the token. -/
theorem request_eq_error (h : request s token tenant host = .error fault) (token' : AccessToken)
    (tenant' : Option TenantId) : request s token' tenant' host = .error fault := by
  rcases bind_eq_error_iff.1 h with hurl | ⟨url, hurl, hrest⟩
  · exact bind_eq_error_iff.2 (.inl hurl)
  · refine bind_eq_error_iff.2 (.inr ⟨url, hurl, ?_⟩)
    cases hhost : url.host? with
    | none =>
      rw [hhost] at hrest
      exact hrest
    | some service =>
      rw [hhost] at hrest
      rcases bind_eq_error_iff.1 hrest with huri | ⟨uri, -, hpure⟩
      · exact bind_eq_error_iff.2 (.inl huri)
      · cases hpure

end Registry

/-- An assertion that cannot be read is no fault of the settings. -/
theorem Workload.of_assertion_eq_error {path : String} {content : Except FileFault Text.Bytes}
    {e : Error} (h : assertion path content = .error e) :
    ∃ fault cause, e = .credential path fault cause := by
  unfold assertion at h
  split at h
  · exact ⟨_, _, (Except.error.inj h).symm⟩
  · split at h
    · exact ⟨_, _, (Except.error.inj h).symm⟩
    · simp only at h
      split at h
      · exact ⟨_, _, (Except.error.inj h).symm⟩
      · cases h

/-- Whether an event tells that a request was settled without a response. -/
def Event.isUnanswered : Event → Bool
  | .settled _ (.error _) => true
  | _ => false

namespace Stage

variable {g : Stage} {files : Files} {fault : ConfigFault} {e : Error}

theorem isOfRequest_of_prepare (h : g.prepare files = .error (.config fault)) :
    fault.isOfRequest = true := by
  cases g with
  | managed r selector =>
    obtain ⟨fault', hrequest, heq⟩ := mapError_eq_error_iff.1 h
    cases heq
    exact Managed.isOfRequest_of_request (map_eq_error_iff.1 hrequest)
  | exchange x token tenant host =>
    obtain ⟨fault', hrequest, heq⟩ := mapError_eq_error_iff.1 h
    cases heq
    exact Registry.isOfRequest_of_request (map_eq_error_iff.1 hrequest)
  | workload r client tenant =>
    have hgrant := map_eq_error_iff.1 h
    unfold Workload.grant at hgrant
    split at hgrant
    · rename_i e hassertion
      obtain ⟨cause, detail, he⟩ := Workload.of_assertion_eq_error hassertion
      rw [he] at hgrant
      cases hgrant
    · split at hgrant
      · rename_i fault' hurl
        cases hgrant
        exact isOfRequest_of_endpointUrl hurl
      · cases hgrant

/-- A stage that is prepared with a permanent failure is so by a fault of its request. -/
theorem of_prepare_eq_error (h : g.prepare files = .error e) (hpermanent : e.isPermanent = true) :
    ∃ fault, e = .config fault ∧ fault.isOfRequest = true := by
  have hinput := isInput_of_prepare h
  cases e with
  | config fault => exact ⟨fault, rfl, isOfRequest_of_prepare h⟩
  | credential path fault cause => exact Bool.noConfusion hpermanent
  | _ => exact Bool.noConfusion hinput

/-! ## 4. Where permanent failures are raised -/

variable {es : List Event}

/-- A permanent failure of a stage whose request, if it was settled, was so by a response, is one of its
preparation, and the stage sent nothing. -/
theorem Course.of_permanent (h : g.Course es (.ended (.error e))) (hpermanent : e.isPermanent = true)
    (hanswered : ∀ e ∈ es, e.isUnanswered = false) :
    ∃ files fault, g.prepare files = .error e ∧ e = .config fault ∧ fault.isOfRequest = true ∧
      ∀ q, .sent q ∉ es := by
  cases h with
  | @missed found asked _ hf ha =>
    cases ha with
    | @refused files e hp =>
      obtain ⟨fault, he, hfault⟩ := of_prepare_eq_error hp hpermanent
      refine ⟨files, fault, hp, he, hfault, fun q hq => ?_⟩
      have hspending : .sent q ∈ (g.operation.opening ++ found ++
          g.operation.closing (.error e)).filter Event.isSpending := List.mem_filter.2 ⟨hq, rfl⟩
      rw [List.filter_append, List.filter_append, hf.spending] at hspending
      exact List.not_mem_nil hspending
    | withdrawn => exact Bool.noConfusion hpermanent
    | unmade hp he =>
      subst he
      exact Bool.noConfusion hpermanent
    | @settled files q reply now result hp hr =>
      have hsettled := hanswered (.settled reply.slot reply.outcome) (by simp)
      cases houtcome : reply.outcome with
      | error failure =>
        rw [houtcome] at hsettled
        exact Bool.noConfusion hsettled
      | ok response =>
        rw [houtcome] at hr
        rw [(answerError_of_conclude hr).isPermanent] at hpermanent
        exact Bool.noConfusion hpermanent
    | abandoned hp ht => exact Bool.noConfusion hpermanent

end Stage

namespace Command

variable {command : Command} {g g' : Stage} {files : Files} {fault : ConfigFault}

theorem prepare_exchange {x : Exchanger} {token : AccessToken} {tenant : Option TenantId}
    {host : String} (h : (Stage.exchange x token tenant host).prepare files = .error (.config fault))
    (token' : AccessToken) (tenant' : Option TenantId) :
    (Stage.exchange x token' tenant' host).prepare files = .error (.config fault) := by
  obtain ⟨fault', hrequest, heq⟩ := mapError_eq_error_iff.1 h
  have hother := Registry.request_eq_error (map_eq_error_iff.1 hrequest) token' tenant'
  exact mapError_eq_error_iff.2 ⟨fault', map_eq_error_iff.2 hother, heq⟩

/-- A stage that cannot be prepared for a command cannot be so whatever token the command gets. -/
theorem Runs.prepare_eq_error (h : command.Runs g) (h' : command.Runs g')
    (hop : g.operation = g'.operation) (hp : g.prepare files = .error (.config fault)) :
    g'.prepare files = .error (.config fault) := by
  by_cases hexchange : g.operation = .registryExchange
  · cases h with
    | stage g =>
      cases h' with
      | stage g => exact hp
    | byClaims ht =>
      cases h' with
      | byClaims ht' => exact prepare_exchange hp _ _
    | retrieval hg => exact absurd hexchange (Call.operation_of_retrieval? hg)
    | exchange token =>
      cases h' with
      | retrieval hg => exact absurd (hop.symm.trans hexchange) (Call.operation_of_retrieval? hg)
      | exchange token' => exact prepare_exchange hp _ _
  · rw [← h.eq_of_operation h' hop hexchange]
    exact hp

end Command

/-- Where the permanent failure of a call was raised: before the stage that failed had sent anything. -/
inductive RaisedUnsent (call : Nat) (trace : List Record) : Command → Error → Prop
  /-- The claims of a token that was to be exchanged do not name a tenant. -/
  | claims {x : Exchanger} {token : AccessToken} {host : String} {fault : Claims.Fault}
    (h : token.tenant = .error fault) (hnone : recordsOf call trace = []) :
    RaisedUnsent call trace (.exchangeByClaims x token host) (.claim fault)
  /-- The credential is one of the other flow. -/
  | flow {a : Authorizer} {credential : Credential} {host : String}
    (h : a.retriever.flow ≠ credential.flow) (hsent : ∀ o q, o.call = call → ⟨o, .sent q⟩ ∉ trace) :
    RaisedUnsent call trace (.authorize a credential host) (mismatchError a credential)
  /-- A request cannot be made, whatever token the stage is to exchange. -/
  | request {command : Command} {op : Operation} {files : Files} {fault : ConfigFault} {e : Error}
    (hended : ⟨⟨call, some op⟩, .ended (.error (.config fault))⟩ ∈ trace)
    (hsent : ∀ q, ⟨⟨call, some op⟩, .sent q⟩ ∉ trace) (hfault : fault.isOfRequest = true)
    (hruns : ∃ g : Stage, command.Runs g ∧ g.operation = op)
    (hprepare : ∀ g : Stage, command.Runs g → g.operation = op →
      g.prepare files = .error (.config fault))
    (he : e.root = .config fault) : RaisedUnsent call trace command e

/-! ## 5. What a call has failed by -/

namespace Call

/-- What the error of a call comes from, by what the call has recorded: the claims of a token that was to
be exchanged, a credential of the other flow, or the end of a stage. -/
inductive FailedBy (c : Caller) (rs : List Record) : Command → Error → Prop
  | claims {x : Exchanger} {token : AccessToken} {host : String} {fault : Claims.Fault}
    (h : token.tenant = .error fault) (hnone : rs = []) :
    FailedBy c rs (.exchangeByClaims x token host) (.claim fault)
  | flow {a : Authorizer} {credential : Credential} {host : String}
    (h : a.retriever.flow ≠ credential.flow) (hreports : ∀ r ∈ rs, r.event.isReport = true) :
    FailedBy c rs (.authorize a credential host) (mismatchError a credential)
  | stage {command : Command} {g : Stage} {cause e : Error} (hg : command.Runs g)
    (h : ⟨g.origin c, .ended (.error cause)⟩ ∈ rs) (he : e.root = cause.root) :
    FailedBy c rs command e

variable {c : Caller} {command : Command} {rs : List Record} {phase : Phase} {e : Error}

/-- Whatever error a call for a token has returned, it has failed by something. -/
theorem History.failedBy (h : History c command rs phase) (hplain : command.isPlain = false)
    (hphase : phase = .done (.token (.error e))) : FailedBy c rs command e := by
  have hhistory := h
  cases h with
  | unpolled => cases hphase
  | plain hc hp hr => exact Bool.noConfusion (hplain.symm.trans hc)
  | @alone g es turn h =>
    cases turn with
    | going p => cases hphase
    | ended result =>
      cases hphase
      exact .stage (.stage g) (h.ended_mem_records c) rfl
  | unclaimed ht =>
    cases hphase
    exact .claims ht rfl
  | @byClaims x token host tenant g es turn ht hg h =>
    cases turn with
    | going p => cases hphase
    | ended result =>
      cases hphase
      exact .stage (hg ▸ .byClaims ht) (h.ended_mem_records c) rfl
  | @mismatched a credential host op e' hop hnone he =>
    subst hop he
    cases hphase
    exact .flow ((retrieval?_eq_none_iff _ _).1 hnone) fun r hr =>
      (hhistory.of_mismatch ((retrieval?_eq_none_iff _ _).1 hnone) r hr).2
  | retrieving hop hg h => cases hphase
  | unretrieved hop hg h =>
    cases hphase
    have hended := h.ended_mem_records c
    exact .stage (.retrieval hg) (List.mem_append_left _ (List.mem_append_right _ hended)) rfl
  | @retrieved a credential host op g x es es' token turn hop hg h hx h' =>
    subst hx
    cases turn with
    | going p => cases hphase
    | ended result =>
      cases result with
      | ok token' => cases hphase
      | error cause =>
        cases hphase
        have hended := h'.ended_mem_records c
        exact .stage (.exchange token) (List.mem_append_left _ (List.mem_append_right _ hended)) rfl

end Call

/-! ## 6. Runs -/

namespace Traffic

variable {ms : List Move} {w : Traffic}

/-- The error that a call has returned. -/
def error? (w : Traffic) (call : Nat) : Option Error :=
  match w.result? call with
  | some (.token (.error e)) => some e
  | _ => none

theorem result?_of_error? {call : Nat} {e : Error} (h : w.error? call = some e) :
    w.result? call = some (.token (.error e)) := by
  unfold error? at h
  split at h
  · rename_i e' hresult
    rw [hresult, Option.some.inj h]
  · simp at h

/-- The stage that a call has failed by has taken its course to the failure. -/
theorem Recorded.course_of_failed (h : w.Recorded ms) {i : Nat} {name : String} {command : Command}
    {op : Operation} {result : Except Error AccessToken} (hop : ∃ g : Stage, g.operation = op)
    (hmade : (Move.made ms)[i]? = some (name, command))
    (hended : ⟨⟨i, some op⟩, .ended result⟩ ∈ w.state.trace) :
    ∃ g : Stage, command.Runs g ∧ g.operation = op ∧
      g.Course (eventsOf ⟨i, some op⟩ w.state.trace) (.ended result) := by
  obtain ⟨g, rfl⟩ := hop
  obtain ⟨name', command', g', turn, hmade', hruns, hop', hcourse⟩ := h.course hended (.inr ⟨g, rfl⟩)
  have hturn := hcourse.ended_mem_iff.1 ((mem_eventsOf_iff _ _ _).2 hended)
  have hcommand : (name', command') = (name, command) :=
    Option.some.inj (hmade'.symm.trans hmade)
  cases hcommand
  rw [hturn] at hcourse
  exact ⟨g', hruns, (Option.some.inj hop').symm, hcourse⟩

/-- A call for a token whose requests were answered with responses, whatever these held, has failed for good
only by something that was found out before the failing stage sent anything; and layers of operations
change neither what an error stems from nor whether it is permanent. -/
theorem permanent_errors_precede_requests {s : State} (htrace : s.trace = []) (ms : List Move) {i : Nat}
    {name : String} {command : Command} {e : Error}
    (hmade : (Move.made ms)[i]? = some (name, command)) (hplain : command.isPlain = false)
    (hanswered : ∀ r ∈ ((ofState s).run ms).state.trace, r.origin.call = i →
      r.event.isUnanswered = false)
    (hresult : ((ofState s).run ms).result? i = some (.token (.error e))) :
    (e.isPermanent = true → RaisedUnsent i ((ofState s).run ms).state.trace command e) ∧
      ∀ (cause : Error) (ops : List Operation), (cause.within ops).root = cause.root ∧
        (cause.within ops).isPermanent = cause.isPermanent := by
  have hrecorded := recorded_run htrace ms
  refine ⟨fun hpermanent => ?_, fun cause ops => ?_⟩
  · have hhistory := hrecorded.history_of_result? hmade hresult
    cases hhistory.failedBy hplain rfl with
    | claims h hnone => exact .claims h hnone
    | flow h hreports =>
      refine .flow h fun o q ho hq => ?_
      have hreport := hreports _ ((mem_recordsOf_iff _ _ _).2 ⟨hq, ho⟩)
      exact Bool.noConfusion hreport
    | @stage _ g cause _ hg hended he =>
      have hmem := ((mem_recordsOf_iff _ _ _).1 hended).1
      obtain ⟨g', hruns, hop, hcourse⟩ := hrecorded.course_of_failed ⟨g, rfl⟩ hmade hmem
      have hcause : cause.isPermanent = true := Error.isPermanent_of_root_eq he ▸ hpermanent
      obtain ⟨files, fault, hprepare, hfault, hrequest, hsent⟩ := hcourse.of_permanent hcause
        fun e' he' => hanswered _ ((mem_eventsOf_iff _ _ _).1 he') rfl
      subst hfault
      have hnone : ∀ q, ⟨⟨i, some g.operation⟩, .sent q⟩ ∉ ((ofState s).run ms).state.trace :=
        fun q hq => hsent q ((mem_eventsOf_iff _ _ _).2 hq)
      have hothers : ∀ g'' : Stage, command.Runs g'' → g''.operation = g.operation →
          g''.prepare files = .error (.config fault) :=
        fun g'' hruns'' hop'' => hruns.prepare_eq_error hruns'' (hop.trans hop''.symm) hprepare
      exact .request hmem hnone hrequest ⟨g', hruns, hop⟩ hothers he
  · have hroot := cause.root_within ops
    exact ⟨hroot, Error.isPermanent_of_root_eq hroot⟩

/-- A call of an authorizer for a host that is none. -/
def hostlessCall : List Move :=
  [.call "call" (.authorize Sample.authorizer (.managed Sample.selector none) "registry.io/path"),
    .poll 0]

/-- The metadata endpoint answers the call, whose exchange then fails for good before it asks. -/
theorem permanence_of_hostless_call :
    ∃ e, ((ofState Sample.state).run hostlessCall).error? 0 = some e ∧
      e.message = "acquire_with_managed_identity failed: " ++
        "Registry host `registry.io/path` has no hostname." ∧ e.isPermanent = true ∧
      RaisedUnsent 0 ((ofState Sample.state).run hostlessCall).state.trace
        (.authorize Sample.authorizer (.managed Sample.selector none) "registry.io/path") e := by
  have hend : (((ofState Sample.state).run hostlessCall).error? 0).map
      (fun e => (e.message, e.isPermanent)) = some ("acquire_with_managed_identity failed: " ++
        "Registry host `registry.io/path` has no hostname.", true) := by
    decide +kernel
  have hanswered : ∀ r ∈ ((ofState Sample.state).run hostlessCall).state.trace, r.origin.call = 0 →
      r.event.isUnanswered = false := by
    decide +kernel
  obtain ⟨e, he, hboth⟩ := Option.map_eq_some_iff.1 hend
  have hpermanent : e.isPermanent = true := congrArg Prod.snd hboth
  have haccounted := permanent_errors_precede_requests (s := Sample.state) rfl hostlessCall rfl rfl hanswered
    (result?_of_error? he)
  exact ⟨e, he, congrArg Prod.fst hboth, hpermanent, haccounted.1 hpermanent⟩

end Traffic

end RegistryAuth
