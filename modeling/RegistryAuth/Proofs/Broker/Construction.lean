import RegistryAuth.Proofs.Broker.Permanence

/-!
# Requests that can go nowhere

An endpoint may be a URL and yet no place for a request: it names no authority, or is too long.  A stage
that asks the node or a registry finds this out first of all and fails for good, with nothing spent.  That
of a workload finds it out when it is about to send: its permit is spent, and it fails as if the identity
provider had given a wrong answer.
-/

namespace RegistryAuth

/-! ## 1. Endpoints -/

theorem Managed.request_of_uri {fault : Http.Fault} {s : ManagedSettings} {selector : Selector} {url : Url}
    (hurl : (endpointUrl s.endpoint).map (·.addQuery (Managed.query s selector)) = .ok url)
    (huri : Http.Uri.ofUrl url = .error fault) :
    Managed.request s selector = .error (.request fault) := by
  obtain ⟨base, hbase, rfl⟩ := map_eq_ok_iff.1 hurl
  refine bind_eq_error_iff.2 (.inr ⟨base, hbase, bind_eq_error_iff.2 (.inl ?_)⟩)
  rw [huri]
  rfl

theorem Origin.eq_of_append_records {o : Origin} {trace : List Record} {es es' : List Event}
    (h : trace ++ o.records es = trace ++ o.records es') : es = es' := by
  have hrecords : o.records es = o.records es' := List.append_cancel_left h
  rw [← eventsOf_records o es, hrecords, eventsOf_records]

namespace Stage

/-- The URL that the request of a stage is to go to. -/
def endpoint : Stage → Except ConfigFault Url
  | .managed r selector =>
    (endpointUrl r.settings.endpoint).map (·.addQuery (Managed.query r.settings selector))
  | .workload r _ tenant => r.settings.tokenEndpoint tenant
  | .exchange x _ _ host => Registry.exchangeUrl x.settings host

/-- What is wrong with an endpoint that is a URL, if no request can go to it. -/
def addressFault? (g : Stage) : Option Http.Fault :=
  match g.endpoint with
  | .error _ => none
  | .ok url =>
    match Http.Uri.ofUrl url with
    | .error fault => some fault
    | .ok _ => none

/-- The faults that a request is refused with because it can go nowhere.  The name of a registry is at
fault when the endpoint that is made of it has no host. -/
inductive RefusedFor (fault : Http.Fault) : Stage → ConfigFault → Prop
  | address {g : Stage} : RefusedFor fault g (.request fault)
  | host {x : Exchanger} {token : AccessToken} {tenant : Option TenantId} {host : String} :
    RefusedFor fault (.exchange x token tenant host) (.invalidRegistryHost host)

variable {g : Stage} {fault : Http.Fault}

theorem exists_of_addressFault? (h : g.addressFault? = some fault) :
    ∃ url, g.endpoint = .ok url ∧ Http.Uri.ofUrl url = .error fault := by
  unfold addressFault? at h
  split at h
  · cases h
  · rename_i url hurl
    split at h
    · rename_i fault' huri
      cases h
      exact ⟨url, hurl, huri⟩
    · cases h

/-- Neither the node nor a registry is asked by a stage whose request can go nowhere. -/
theorem prepare_of_addressFault? (h : g.addressFault? = some fault) (hg : g.readsFile = false)
    (files : Files) :
    ∃ cause, RefusedFor fault g cause ∧ g.prepare files = .error (.config cause) := by
  obtain ⟨url, hurl, huri⟩ := exists_of_addressFault? h
  cases g with
  | workload r client tenant => exact Bool.noConfusion hg
  | managed r selector =>
    refine ⟨.request fault, .address, ?_⟩
    have hrequest := Managed.request_of_uri hurl huri
    exact mapError_eq_error_iff.2 ⟨_, map_eq_error_iff.2 hrequest, rfl⟩
  | exchange x token tenant host =>
    have hurl : Registry.exchangeUrl x.settings host = .ok url := hurl
    cases hhost : url.host? with
    | none =>
      have hrequest : Registry.request x.settings token tenant host =
          .error (.invalidRegistryHost host) := by
        simp [Registry.request, hurl, hhost, Bind.bind, Except.bind]
      exact ⟨_, .host, mapError_eq_error_iff.2 ⟨_, map_eq_error_iff.2 hrequest, rfl⟩⟩
    | some service =>
      have hrequest : Registry.request x.settings token tenant host = .error (.request fault) := by
        simp [Registry.request, hurl, hhost, huri, Bind.bind, Except.bind]
      exact ⟨_, .address, mapError_eq_error_iff.2 ⟨_, map_eq_error_iff.2 hrequest, rfl⟩⟩

/-- The grant of a workload is made even when its request can go nowhere. -/
theorem prepare_of_assertion {r : WorkloadRetriever} {client : ClientId} {tenant : TenantId}
    (h : (Stage.workload r client tenant).addressFault? = some fault) {files : Files} {text : String}
    (hassertion : Workload.assertion r.settings.assertionFile
      (files.read r.settings.assertionFile) = .ok text) :
    (Stage.workload r client tenant).prepare files = .ok (.error fault) := by
  obtain ⟨url, hurl, huri⟩ := exists_of_addressFault? h
  have hurl : r.settings.tokenEndpoint tenant = .ok url := hurl
  refine map_eq_ok_iff.2 ⟨⟨url, client, text, r.settings.scope⟩, ?_, ?_⟩
  · simp only [Workload.grant, hassertion, hurl]
  · exact bind_eq_error_iff.2 (.inl huri)

theorem prepare_of_readsFile (h : g.addressFault? = some fault) (hg : g.readsFile = true)
    (files : Files) :
    (∃ path f cause, g.prepare files = .error (.credential path f cause)) ∨
      g.prepare files = .ok (.error fault) := by
  cases g with
  | managed r selector => exact Bool.noConfusion hg
  | exchange x token tenant host => exact Bool.noConfusion hg
  | workload r client tenant =>
    cases hassertion : Workload.assertion r.settings.assertionFile
        (files.read r.settings.assertionFile) with
    | error e =>
      obtain ⟨f, cause, rfl⟩ := Workload.of_assertion_eq_error hassertion
      refine .inl ⟨r.settings.assertionFile, f, cause, map_eq_error_iff.2 ?_⟩
      simp only [Workload.grant, hassertion]
    | ok text => exact .inr (prepare_of_assertion h hassertion)

/-- No stage whose request can go nowhere has a request to send. -/
theorem prepare_ne_request (h : g.addressFault? = some fault) (files : Files) (q : Http.Request) :
    g.prepare files ≠ .ok (.ok q) := by
  intro hp
  cases hg : g.readsFile with
  | false =>
    obtain ⟨cause, -, hrefused⟩ := prepare_of_addressFault? h hg files
    rw [hp] at hrefused
    cases hrefused
  | true =>
    rcases prepare_of_readsFile h hg files with ⟨path, f, cause, hunread⟩ | hunmade
    · rw [hp] at hunread
      cases hunread
    · rw [hp] at hunmade
      cases hunmade

/-! ## 2. Polls of one stage -/

/-- What the polls of a stage have recorded and where it stands, whatever has been done to the state
between one poll and the next. -/
inductive Polled (g : Stage) (c : Caller) : List Event → Turn → Prop
  | start {s : State} {es : List Event}
    (htrace : (g.start c s).1.trace = s.trace ++ (g.origin c).records es) :
    Polled g c es (g.start c s).2
  | resume {s : State} {p : Progress} {es new : List Event} (h : Polled g c es (.going p))
    (htrace : (g.resume c s p).1.trace = s.trace ++ (g.origin c).records new) :
    Polled g c (es ++ new) (g.resume c s p).2

theorem Polled.course {c : Caller} {es : List Event} {turn : Turn} (h : g.Polled c es turn) :
    g.Course es turn := by
  induction h with
  | @start s es htrace =>
    obtain ⟨es', htrace', hcourse⟩ := g.course_start c s
    rwa [Origin.eq_of_append_records (htrace.symm.trans htrace')]
  | @resume s p es new _ htrace ih =>
    obtain ⟨new', htrace', hcourse⟩ := g.course_resume c s ih
    rwa [Origin.eq_of_append_records (htrace.symm.trans htrace')]

/-- A state where a stage has told that it begins. -/
def begun (g : Stage) (c : Caller) (s : State) : State :=
  s.signal (g.origin c) [.began g.operation, .counted g.operation .attempt]

theorem start_of_served {c : Caller} {s t : State} {token : AccessToken}
    (h : g.lookUp c (g.begun c s) = (t, some token)) : g.start c s = g.finish c t (.ok token) := by
  unfold begun at h
  simp only [start, h]

theorem start_of_unserved {c : Caller} {s t : State} (h : g.lookUp c (g.begun c s) = (t, none)) :
    g.start c s = if g.readsFile && t.slowFiles then (t, .going .reading) else g.enter c t := by
  unfold begun at h
  simp only [start, h]

/-- The first poll of a stage that reads no file, when its request can go nowhere. -/
theorem start_of_addressFault? (h : g.addressFault? = some fault) (hg : g.readsFile = false)
    (c : Caller) (s : State) :
    (∃ token, (g.lookUp c (g.begun c s)).2 = some token ∧ (g.start c s).2 = .ended (.ok token)) ∨
      (g.lookUp c (g.begun c s)).2 = none ∧ ∃ cause, RefusedFor fault g cause ∧
        (g.start c s).2 = .ended (.error (.config cause)) := by
  obtain ⟨⟨t, served⟩, hlookUp⟩ : ∃ r, g.lookUp c (g.begun c s) = r := ⟨_, rfl⟩
  rw [hlookUp]
  cases served with
  | some token =>
    rw [start_of_served hlookUp]
    exact .inl ⟨token, rfl, rfl⟩
  | none =>
    obtain ⟨cause, hcause, hprepare⟩ := prepare_of_addressFault? h hg t.files
    refine .inr ⟨rfl, cause, hcause, ?_⟩
    rw [start_of_unserved hlookUp]
    simp only [hg, Bool.false_and, enter, hprepare]
    rfl

/-! ## 3. Where such a stage can stand -/

/-- What a stage has recorded whose request can go nowhere, and where it stands. -/
inductive Stranded (g : Stage) (fault : Http.Fault) : List Event → Turn → Prop
  -- A stage that asks the node or a registry ends with its first poll.
  | served {es : List Event} {token : AccessToken} (hg : g.readsFile = false)
    (hspent : es.filter Event.isSpending = [])
    (hlooked : ∃ cache key now, .looked cache key now (some token) ∈ es) :
    Stranded g fault es (.ended (.ok token))
  | refused {es : List Event} {cause : ConfigFault} (hg : g.readsFile = false)
    (hspent : es.filter Event.isSpending = []) (hcause : RefusedFor fault g cause) :
    Stranded g fault es (.ended (.error (.config cause)))
  -- That of a workload reads its assertion, waits for a permit and takes it.
  | reading {es : List Event} (hg : g.readsFile = true) (hspent : es.filter Event.isSpending = []) :
    Stranded g fault es (.going .reading)
  | unread {es : List Event} {path cause : String} {f : FileFault} (hg : g.readsFile = true)
    (hspent : es.filter Event.isSpending = []) :
    Stranded g fault es (.ended (.error (.credential path f cause)))
  | waiting {es : List Event} (hg : g.readsFile = true) (hspent : es.filter Event.isSpending = []) :
    Stranded g fault es (.going (.waiting (.error fault)))
  | withdrawn {es : List Event} (hg : g.readsFile = true) (hspent : es.filter Event.isSpending = []) :
    Stranded g fault es (.ended (.error .rateLimitCancelled))
  | unmade {es : List Event} (hg : g.readsFile = true)
    (hspent : es.filter Event.isSpending = [.permit g.bucket]) :
    Stranded g fault es (.ended (.error
      (Http.unexpected .workloadIdentity none ("failed to prepare request: " ++ fault.message))))

variable {c : Caller} {es : List Event} {turn : Turn}

theorem Course.filter_isSpending {found asked : List Event} {served : Option AccessToken}
    (hf : g.Found served found) : (g.operation.opening ++ found ++ asked).filter Event.isSpending =
      asked.filter Event.isSpending := by
  rw [List.filter_append, List.filter_append, hf.spending]
  rfl

/-- A stage that refuses its request spends nothing. -/
theorem Course.spending_of_refused (h : g.Course es turn)
    (hrefused : ∀ files, ∃ e, g.prepare files = .error e) : es.filter Event.isSpending = [] := by
  -- Whatever is spent is so on what was prepared.
  have never {files : Files} {request : Except Http.Fault Http.Request} {P : Prop}
      (hp : g.prepare files = .ok request) : P := by
    obtain ⟨e, he⟩ := hrefused files
    rw [hp] at he
    cases he
  cases h with
  | served hf =>
    rw [filter_isSpending hf]
    rfl
  | missed hf ha =>
    rw [filter_isSpending hf]
    cases ha with
    | reading | refused _ | waiting _ | withdrawn => rfl
    | unmade hp _ | flying hp | settled hp _ | hung hp | abandoned hp _ => exact never hp

/-- By its course, a stage of a workload is stranded. -/
theorem Course.stranded (h : g.Course es turn) (hfault : g.addressFault? = some fault)
    (hg : g.readsFile = true) : g.Stranded fault es turn := by
  cases h with
  | served hf =>
    cases hf with
    | managed hhit => exact Bool.noConfusion hg
  | missed hf ha =>
    cases ha with
    | reading => exact .reading hg (filter_isSpending hf)
    | @refused files e hp =>
      rcases prepare_of_readsFile hfault hg files with ⟨path, f, cause, hunread⟩ | hunmade
      · obtain rfl : e = .credential path f cause := Except.error.inj (hp.symm.trans hunread)
        exact .unread hg (filter_isSpending hf)
      · rw [hp] at hunmade
        cases hunmade
    | @waiting files request hp =>
      rcases prepare_of_readsFile hfault hg files with ⟨path, f, cause, hunread⟩ | hunmade
      · rw [hp] at hunread
        cases hunread
      · obtain rfl : request = .error fault := Except.ok.inj (hp.symm.trans hunmade)
        exact .waiting hg (filter_isSpending hf)
    | withdrawn => exact .withdrawn hg (filter_isSpending hf)
    | @unmade files fault' e hp he =>
      rcases prepare_of_readsFile hfault hg files with ⟨path, f, cause, hunread⟩ | hunmade
      · rw [hp] at hunread
        cases hunread
      · obtain rfl : fault' = fault := Except.error.inj (Except.ok.inj (hp.symm.trans hunmade))
        subst he
        exact .unmade hg (filter_isSpending hf)
    | flying hp | settled hp _ | hung hp | abandoned hp _ =>
      exact absurd hp (prepare_ne_request hfault _ _)

/-- A stage that reads no file has ended when its request can go nowhere. -/
theorem Polled.ended (h : g.Polled c es turn) (hfault : g.addressFault? = some fault)
    (hg : g.readsFile = false) :
    (∃ token, turn = .ended (.ok token)) ∨
      ∃ cause, RefusedFor fault g cause ∧ turn = .ended (.error (.config cause)) := by
  -- By induction on the polls: the first has ended the stage, so there is no other.
  induction h with
  | @start s es htrace =>
    rcases start_of_addressFault? hfault hg c s with ⟨token, -, hturn⟩ | ⟨-, cause, hcause, hturn⟩
    · exact .inl ⟨token, hturn⟩
    · exact .inr ⟨cause, hcause, hturn⟩
  | resume _ _ ih => rcases ih with ⟨token, hturn⟩ | ⟨cause, -, hturn⟩ <;> cases hturn

/-- Whatever is done to the state between its polls, a stage whose request can go nowhere is stranded. -/
theorem Polled.stranded (h : g.Polled c es turn) (hfault : g.addressFault? = some fault) :
    g.Stranded fault es turn := by
  cases hg : g.readsFile with
  | true => exact h.course.stranded hfault hg
  | false =>
    have hspent : es.filter Event.isSpending = [] := h.course.spending_of_refused fun files =>
      have ⟨cause, _, hrefused⟩ := prepare_of_addressFault? hfault hg files
      ⟨_, hrefused⟩
    rcases h.ended hfault hg with ⟨token, rfl⟩ | ⟨cause, hcause, rfl⟩
    · refine .served hg hspent ?_
      rcases h.course.of_token with ⟨found, hfound, hsub⟩ | ⟨files, q, _, _, hp, -⟩
      · cases hfound with
        | @managed r selector _ now _ =>
          exact ⟨r.cache, selector.cacheKey, now, hsub List.mem_cons_self⟩
      · exact absurd hp (prepare_ne_request hfault files q)
    · exact .refused hg hspent hcause

/-- A failure of such a stage is permanent unless it is one of a workload. -/
theorem Stranded.isPermanent {e : Error} (h : g.Stranded fault es (.ended (.error e))) :
    e.isPermanent = !g.readsFile := by
  cases h with
  | refused hg _ _ | unread hg _ | withdrawn hg _ | unmade hg _ =>
    rw [hg]
    rfl

/-- The permit that there is for a request is spent, though the request was not made. -/
theorem pollPermit_of_permit (fault : Http.Fault) {s : State} (hcancelled : s.isCancelled c.name = false)
    {n : Nat} (hpermits : s.permits g.bucket = n + 1) :
    (g.pollPermit c s (.error fault)).2 = .ended (.error (Http.unexpected .workloadIdentity none
        ("failed to prepare request: " ++ fault.message))) ∧
      (g.pollPermit c s (.error fault)).1.permits g.bucket = n := by
  have htake : s.takePermit? (g.origin c) g.bucket =
      some ({ s with permits := fun b => if b = g.bucket then n else s.permits b }.record (g.origin c)
        (.permit g.bucket)) := by
    unfold State.takePermit?
    rw [hpermits]
  simp only [pollPermit, hcancelled, htake, Bool.false_eq_true, if_false]
  refine ⟨rfl, ?_⟩
  show (if g.bucket = g.bucket then n else s.permits g.bucket) = n
  rw [if_pos rfl]

theorem start_of_permit (hg : g.readsFile = true) {s : State} {n : Nat} (hslow : s.slowFiles = false)
    (hcancelled : s.isCancelled c.name = false) (hpermits : s.permits g.bucket = n + 1)
    (hprepare : g.prepare s.files = .ok (.error fault)) :
    (g.start c s).2 = .ended (.error (Http.unexpected .workloadIdentity none
        ("failed to prepare request: " ++ fault.message))) ∧
      (g.start c s).1.permits g.bucket = n := by
  -- What was told at the beginning changes nothing that the stage looks at.
  have hlookUp : g.lookUp c (g.begun c s) = (g.begun c s, none) := by
    cases g with
    | managed r selector => exact Bool.noConfusion hg
    | exchange x token tenant host => exact Bool.noConfusion hg
    | workload r client tenant => rfl
  have hslow : (g.begun c s).slowFiles = false := hslow
  have hprepare : g.prepare (g.begun c s).files = .ok (.error fault) := hprepare
  have hstart : g.start c s = g.enter c (g.begun c s) := by
    rw [start_of_unserved hlookUp, hslow, Bool.and_false, if_neg Bool.false_ne_true]
  have henter : g.enter c (g.begun c s) = g.pollPermit c (g.begun c s) (.error fault) := by
    simp only [enter, hprepare]
  rw [hstart, henter]
  exact pollPermit_of_permit (s := g.begun c s) fault hcancelled hpermits

/-! ## 4. Runs -/

theorem endpoint_of_runs {command : Command} {g' : Stage} (h : command.Runs g) (h' : command.Runs g')
    (hop : g.operation = g'.operation) : g.endpoint = g'.endpoint := by
  by_cases hexchange : g.operation = .registryExchange
  · cases h with
    | stage g =>
      cases h' with
      | stage g => rfl
    | byClaims ht =>
      cases h' with
      | byClaims ht' => rfl
    | retrieval hg => exact absurd hexchange (Call.operation_of_retrieval? hg)
    | exchange token =>
      cases h' with
      | retrieval hg => exact absurd (hop.symm.trans hexchange) (Call.operation_of_retrieval? hg)
      | exchange token' => rfl
  · rw [h.eq_of_operation h' hop hexchange]

/-- No run sends a request to an endpoint that no request can go to. -/
theorem not_sent_of_addressFault? {s : State} (htrace : s.trace = []) (ms : List Move) {i : Nat}
    {name : String} {command : Command} (hmade : (Move.made ms)[i]? = some (name, command))
    (hruns : command.Runs g) (hfault : g.addressFault? = some fault) (q : Http.Request) :
    ⟨⟨i, some g.operation⟩, .sent q⟩ ∉ ((Traffic.ofState s).run ms).state.trace := by
  intro hsent
  obtain ⟨name', command', g', turn, hmade', hruns', hop, hcourse⟩ :=
    (Traffic.recorded_run htrace ms).course hsent (.inr ⟨g, rfl⟩)
  have hcommand : (name', command') = (name, command) := Option.some.inj (hmade'.symm.trans hmade)
  cases hcommand
  -- The stage that has sent the request may exchange another token, but at the same place.
  have hfault' : g'.addressFault? = some fault := by
    rw [← hfault, addressFault?, addressFault?,
      endpoint_of_runs hruns hruns' (Option.some.inj hop)]
  obtain ⟨files, hp⟩ := hcourse.prepare_of_sent ((mem_eventsOf_iff _ _ _).2 hsent)
  exact prepare_ne_request hfault' files q hp

/-! ## 5. All that comes of it -/

/-- What comes of a request that can go nowhere.  Asking the node for a token that is not cached fails for
good, and so does an exchange, at once and with nothing spent.  For a workload whose assertion can be read
the permit that there is is spent and the failure is one that may pass.  Nothing is ever sent. -/
theorem unaddressed_stage_sends_nothing (hfault : g.addressFault? = some fault) (c : Caller) :
    (∀ es turn, g.Polled c es turn → g.Stranded fault es turn ∧
      ∀ e, turn = .ended (.error e) → e.isPermanent = !g.readsFile) ∧
    (g.readsFile = false → ∀ s : State, (g.lookUp c (g.begun c s)).2 = none →
      ∃ cause, RefusedFor fault g cause ∧ (g.start c s).2 = .ended (.error (.config cause))) ∧
    (∀ r client tenant, g = .workload r client tenant → ∀ (s : State) (text : String) (n : Nat),
      s.slowFiles = false → s.isCancelled c.name = false → s.permits r.bucket = n + 1 →
      Workload.assertion r.settings.assertionFile (s.files.read r.settings.assertionFile) = .ok text →
      (g.start c s).2 = .ended (.error (Http.unexpected .workloadIdentity none
          ("failed to prepare request: " ++ fault.message))) ∧
        (g.start c s).1.permits r.bucket = n) ∧
    (∀ (s : State) (ms : List Move) (i : Nat) (name : String) (command : Command), s.trace = [] →
      (Move.made ms)[i]? = some (name, command) → command.Runs g →
      ∀ q, ⟨⟨i, some g.operation⟩, .sent q⟩ ∉ ((Traffic.ofState s).run ms).state.trace) := by
  refine ⟨fun es turn h => ?_, fun hg s hmiss => ?_, ?_, ?_⟩
  · have hstranded := h.stranded hfault
    refine ⟨hstranded, ?_⟩
    rintro e rfl
    exact hstranded.isPermanent
  · rcases start_of_addressFault? hfault hg c s with ⟨token, hserved, -⟩ | ⟨-, hrefused⟩
    · rw [hmiss] at hserved
      cases hserved
    · exact hrefused
  · rintro r client tenant rfl s text n hslow hcancelled hpermits hassertion
    exact start_of_permit rfl hslow hcancelled hpermits (prepare_of_assertion hfault hassertion)
  · exact fun s ms i name command htrace hmade hruns q =>
      not_sent_of_addressFault? htrace ms hmade hruns hfault q

/-- A workload whose identity provider is named without a scheme, so that its host is taken for one. -/
def schemeless : Stage :=
  .workload ⟨{ WorkloadSettings.forAudience defaultAudience with
    authority := "localhost:8080", assertionFile := "assertion" }, 0⟩
    ⟨"client-1", by decide⟩ ⟨"tenant-1", by decide⟩

/-- A state where the assertion of a workload can be read and two permits are left. -/
def readyState : State :=
  { State.fresh 2 (.ofSeconds 1) [] with
    files := ⟨[("assertion".toList, .content (Text.bytesOf "jwt"))]⟩ }

/-- Who asks for the token of a workload. -/
def asker : Caller :=
  ⟨0, "call", false⟩

theorem assertion_readyState :
    Workload.assertion "assertion" (readyState.files.read "assertion") = .ok "jwt" := by
  rfl

/-- The permit is spent, and the failure is one that may pass. -/
theorem construction_of_schemeless :
    schemeless.addressFault? = some .invalidFormat ∧
    (schemeless.start asker readyState).2 = .ended (.error
      (Http.unexpected .workloadIdentity none "failed to prepare request: invalid format")) ∧
    (schemeless.start asker readyState).1.permits 0 = 1 := by
  have hfault : schemeless.addressFault? = some .invalidFormat := by decide +kernel
  have haccounted := unaddressed_stage_sends_nothing hfault asker
  exact ⟨hfault, haccounted.2.2.1 _ _ _ rfl readyState "jwt" 1 rfl rfl rfl assertion_readyState⟩

/-- So it is not so that every request that can go nowhere is a permanent failure. -/
theorem unmade_request_is_transient :
    ¬ ∀ (r : WorkloadRetriever) (client : ClientId) (tenant : TenantId) (fault : Http.Fault)
      (c : Caller) (s : State) (text : String),
      (Stage.workload r client tenant).addressFault? = some fault → s.slowFiles = false →
      Workload.assertion r.settings.assertionFile (s.files.read r.settings.assertionFile) = .ok text →
      ∃ e, ((Stage.workload r client tenant).start c s).2 = .ended (.error e) ∧ e.isPermanent = true := by
  intro hall
  have hfault : schemeless.addressFault? = some .invalidFormat := by decide +kernel
  obtain ⟨e, hended, hpermanent⟩ :=
    hall _ _ _ .invalidFormat asker readyState "jwt" hfault rfl assertion_readyState
  have hprepare := prepare_of_assertion hfault assertion_readyState
  have hunmade := (start_of_permit (c := asker) (n := 1) rfl rfl rfl rfl hprepare).1
  rw [hunmade] at hended
  cases hended
  cases hpermanent

end Stage

end RegistryAuth
