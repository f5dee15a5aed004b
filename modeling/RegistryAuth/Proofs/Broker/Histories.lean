import RegistryAuth.Proofs.Broker.Courses

/-!
# Histories

`Call.History` lists what a call can have recorded by the time it stands somewhere, stage after stage.
`Traffic.recorded_run` says that after every run each call has such a history, whatever the calls beside
it have done.
-/

namespace RegistryAuth

/-! ## 1. Histories -/

/-- A failure of an operation counts as what it was before it was named after the operation. -/
theorem Outcome.ofResult_mapError (result : Except Error AccessToken) (f : Error → Error) :
    Outcome.ofResult (result.mapError f) = .ofResult result := by
  cases result <;> rfl

/-- Whether a command uses no stage. -/
def Command.isPlain : Command → Bool
  | .permit _ | .throttle .. | .cancel | .refuse _ => true
  | _ => false

/-- Whether a call stands where one that uses no stage can stand. -/
def Phase.isPlain : Phase → Bool
  | .ready command => command.isPlain
  | .running .. => false
  | .working _ | .done _ => true

/-- Whether an event is one of a call that uses no stage. -/
def Event.isPlain : Event → Bool
  | .permit _ | .cancelled _ => true
  | _ => false

namespace Call

/-- Where a call of a single stage stands. -/
def alone (g : Stage) : Turn → Phase
  | .going p => .running .result g p
  | .ended result => .done (.token result)

/-- Where the exchange of an authorizer stands. -/
def exchangePhase (op : Operation) (g : Stage) : Turn → Phase
  | .going p => .running (.exchange op) g p
  | .ended result => .done (.token (result.mapError (.operation op)))

/-- What an authorizer records when a stage has ended its operation. -/
def facadeClosing (op : Operation) : Turn → List Event
  | .going _ => []
  | .ended result => op.closing (result.mapError (.operation op))

/-- What a call records, from its first poll to where it stands. -/
inductive History (c : Caller) : Command → List Record → Phase → Prop
  | unpolled (command : Command) : History c command [] (.ready command)
  | alone {g : Stage} {es : List Event} {turn : Turn} (h : g.Course es turn) :
    History c (.stage g) ((g.origin c).records es) (alone g turn)
  | unclaimed {x : Exchanger} {token : AccessToken} {host : String} {fault : Claims.Fault}
    (h : token.tenant = .error fault) :
    History c (.exchangeByClaims x token host) [] (.done (.token (.error (.claim fault))))
  | byClaims {x : Exchanger} {token : AccessToken} {host : String} {tenant : TenantId} {g : Stage}
    {es : List Event} {turn : Turn} (ht : token.tenant = .ok tenant)
    (hg : g = .exchange x token (some tenant) host) (h : g.Course es turn) :
    History c (.exchangeByClaims x token host) ((g.origin c).records es) (alone g turn)
  | mismatched {a : Authorizer} {credential : Credential} {host : String} {op : Operation}
    {e : Error} (hop : operationOf credential = op) (h : retrieval? a.retriever credential = none)
    (he : e = .operation op (.config (.flowMismatch a.retriever.flow credential.flow))) :
    History c (.authorize a credential host)
      ((c.within op).records (op.opening ++ op.closing (.error e))) (.done (.token (.error e)))
  | retrieving {a : Authorizer} {credential : Credential} {host : String} {op : Operation}
    {g : Stage} {es : List Event} {p : Progress} (hop : operationOf credential = op)
    (hg : retrieval? a.retriever credential = some g) (h : g.Course es (.going p)) :
    History c (.authorize a credential host)
      ((c.within op).records op.opening ++ (g.origin c).records es)
      (.running (.retrieval op a.exchanger (tenantOf credential) host) g p)
  | unretrieved {a : Authorizer} {credential : Credential} {host : String} {op : Operation}
    {g : Stage} {es : List Event} {e : Error} (hop : operationOf credential = op)
    (hg : retrieval? a.retriever credential = some g) (h : g.Course es (.ended (.error e))) :
    History c (.authorize a credential host)
      ((c.within op).records op.opening ++ (g.origin c).records es ++
        (c.within op).records (op.closing (.error (.operation op e))))
      (.done (.token (.error (.operation op e))))
  | retrieved {a : Authorizer} {credential : Credential} {host : String} {op : Operation}
    {g x : Stage} {es es' : List Event} {token : AccessToken} {turn : Turn}
    (hop : operationOf credential = op) (hg : retrieval? a.retriever credential = some g)
    (h : g.Course es (.ended (.ok token)))
    (hx : x = exchangeStage a.exchanger (tenantOf credential) host token)
    (h' : x.Course es' turn) :
    History c (.authorize a credential host)
      ((c.within op).records op.opening ++ (g.origin c).records es ++ (x.origin c).records es' ++
        (c.within op).records (facadeClosing op turn))
      (exchangePhase op x turn)
  | plain {command : Command} {rs : List Record} {phase : Phase} (hc : command.isPlain = true)
    (hp : phase.isPlain = true) (hr : ∀ r ∈ rs, r.origin = c.plain ∧ r.event.isPlain = true) :
    History c command rs phase

theorem phase_of_result? {c : Call} {result : Result} (h : c.result? = some result) :
    c.phase = .done result := by
  unfold result? at h
  split at h
  · rename_i result' hphase
    rw [hphase, Option.some.inj h]
  · simp at h

/-! ## 2. Polls go on with the history -/

variable {c : Caller}

/-- A poll records what the history goes on with. -/
def Extends (c : Caller) (command : Command) (rs : List Record) (s : State) (after : State × Phase) :
    Prop :=
  ∃ new, after.1.trace = s.trace ++ new ∧ History c command (rs ++ new) after.2

theorem Extends.of_unchanged {command : Command} {rs : List Record} {s : State} {phase : Phase}
    (h : History c command rs phase) : Extends c command rs s (s, phase) :=
  ⟨[], (List.append_nil _).symm, by rwa [List.append_nil]⟩

theorem Extends.trans {command : Command} {rs new : List Record} {s t : State}
    {after : State × Phase} (ht : t.trace = s.trace ++ new)
    (h : Extends c command (rs ++ new) t after) : Extends c command rs s after := by
  obtain ⟨more, htrace, hhistory⟩ := h
  refine ⟨new ++ more, ?_, by rwa [← List.append_assoc]⟩
  rw [htrace, ht, List.append_assoc]

theorem proceed_result (c : Caller) (g : Stage) (r : State × Turn) :
    proceed c .result g r = (r.1, alone g r.2) := by
  obtain ⟨s, turn⟩ := r
  cases turn <;> rfl

/-- A call of a single stage goes on with what the stage goes on with. -/
theorem extends_result {command : Command} {g : Stage} (es : List Event) {s : State}
    {r : State × Turn}
    (hhistory : ∀ {es turn}, g.Course es turn →
      History c command ((g.origin c).records es) (alone g turn))
    (hcourse : ∃ new, r.1.trace = s.trace ++ (g.origin c).records new ∧ g.Course (es ++ new) r.2) :
    Extends c command ((g.origin c).records es) s (proceed c .result g r) := by
  obtain ⟨new, htrace, hnew⟩ := hcourse
  rw [proceed_result]
  refine ⟨(g.origin c).records new, htrace, ?_⟩
  rw [← Origin.records_append]
  exact hhistory hnew

theorem trace_finish (s : State) (op : Operation) (result : Except Error AccessToken) :
    (finish c s op result).1.trace =
      s.trace ++ (c.within op).records (op.closing (result.mapError (.operation op))) := by
  show (s.signal (c.within op) _).trace ++ [_] = _
  rw [State.trace_signal, List.append_assoc, Operation.closing, Outcome.ofResult_mapError]
  rfl

section Facade

variable {a : Authorizer} {credential : Credential} {host : String} {op : Operation} {g : Stage}
  (hop : operationOf credential = op) (hg : retrieval? a.retriever credential = some g)
include hop hg

theorem extends_exchange {es es' : List Event} {token : AccessToken} {x : Stage} {turn : Turn}
    (h : g.Course es (.ended (.ok token)))
    (hx : x = exchangeStage a.exchanger (tenantOf credential) host token) (h' : x.Course es' turn)
    (t : State) :
    Extends c (.authorize a credential host)
      ((c.within op).records op.opening ++ (g.origin c).records es ++ (x.origin c).records es') t
      (last c (.exchange op) x (t, turn)) := by
  cases turn with
  | going p =>
    refine ⟨(c.within op).records (facadeClosing op (.going p)), ?_,
      .retrieved hop hg h hx h'⟩
    exact (List.append_nil _).symm
  | ended result => exact ⟨_, trace_finish t op result, .retrieved hop hg h hx h'⟩

/-- Where the retrieval ended with a token, the poll goes on with the exchange. -/
theorem extends_retrieval {es : List Event} {turn : Turn} (h : g.Course es turn) (t : State) :
    Extends c (.authorize a credential host)
      ((c.within op).records op.opening ++ (g.origin c).records es) t
      (proceed c (.retrieval op a.exchanger (tenantOf credential) host) g (t, turn)) := by
  cases turn with
  | going p => exact .of_unchanged (.retrieving hop hg h)
  | ended result =>
    cases result with
    | error e => exact ⟨_, trace_finish t op (.error e), .unretrieved hop hg h⟩
    | ok token =>
      -- The poll goes on at once, so the records of the exchange join those of this poll.
      obtain ⟨x, hx⟩ : ∃ x, x = exchangeStage a.exchanger (tenantOf credential) host token := ⟨_, rfl⟩
      obtain ⟨es', htrace, h'⟩ := x.course_start c t
      have hafter : proceed c (.retrieval op a.exchanger (tenantOf credential) host) g
          (t, .ended (.ok token)) = last c (.exchange op) x (x.start c t) := by
        rw [hx]
        rfl
      rw [hafter]
      exact .trans htrace (extends_exchange hop hg h hx h' _)

end Facade

theorem extends_authorize (s : State) (a : Authorizer) (credential : Credential) (host : String) :
    Extends c (.authorize a credential host) [] s (authorize c s a credential host) := by
  -- The operation is named so that the two branches of the definition show it alike.
  obtain ⟨op, hop⟩ : ∃ op, operationOf credential = op := ⟨_, rfl⟩
  have htrace := s.trace_signal (c.within op) [.began op, .counted op .attempt]
  unfold authorize
  simp only [hop]
  split
  · rename_i h
    refine ⟨_, ?_, .mismatched hop h rfl⟩
    rw [trace_finish, htrace, List.append_assoc, ← Origin.records_append]
    rfl
  · rename_i g hg
    obtain ⟨es, htrace', hes⟩ := g.course_start c (s.signal (c.within op) [.began op, .counted op .attempt])
    rw [htrace, List.append_assoc] at htrace'
    exact .trans htrace' (extends_retrieval hop hg hes _)

theorem plain_concat {rs : List Record} {e : Event}
    (hr : ∀ r ∈ rs, r.origin = c.plain ∧ r.event.isPlain = true) (he : e.isPlain = true) :
    ∀ r ∈ rs ++ [⟨c.plain, e⟩], r.origin = c.plain ∧ r.event.isPlain = true := by
  intro r hmem
  rcases List.mem_append.1 hmem with hold | hnew
  · exact hr r hold
  · rw [List.mem_singleton.1 hnew]
    exact ⟨rfl, he⟩

theorem extends_acquire (s : State) (command : Command) (rs : List Record) (bucket : Nat)
    (waiting : Phase) (refused : Error → Phase) (granted : State → State × Phase)
    (hc : command.isPlain = true) (hr : ∀ r ∈ rs, r.origin = c.plain ∧ r.event.isPlain = true)
    (hw : waiting.isPlain = true) (href : ∀ e, (refused e).isPlain = true)
    (hgranted : ∀ t rs, (∀ r ∈ rs, r.origin = c.plain ∧ r.event.isPlain = true) →
      Extends c command rs t (granted t)) :
    Extends c command rs s (acquire c s bucket waiting refused granted) := by
  unfold acquire
  split
  · exact .of_unchanged (.plain hc (href _) hr)
  · split
    · exact .of_unchanged (.plain hc hw hr)
    · rename_i t hp
      exact .trans (State.trace_of_takePermit? hp) (hgranted t _ (plain_concat hr rfl))

theorem extends_beginWork (work : Work) (command : Command) (hc : command.isPlain = true) (t : State)
    (rs : List Record) (hr : ∀ r ∈ rs, r.origin = c.plain ∧ r.event.isPlain = true) :
    Extends c command rs t (beginWork c work t) := by
  have hphase : (if work.suspends then Phase.working work.ending
      else endWork work.ending).isPlain = true := by
    split
    · rfl
    · cases work.ending <;> rfl
  unfold beginWork
  simp only
  split
  · exact ⟨[⟨c.plain, .cancelled c.name⟩], rfl, .plain hc hphase (plain_concat hr rfl)⟩
  · exact .of_unchanged (.plain hc hphase hr)

theorem extends_plain (s : State) {command : Command} {rs : List Record} (hc : command.isPlain = true)
    (hr : ∀ r ∈ rs, r.origin = c.plain ∧ r.event.isPlain = true) {next : Command}
    (hnext : next.isPlain = true) : Extends c command rs s (start c s next) := by
  cases next with
  | permit bucket =>
    exact extends_acquire s command rs bucket _ _ _ hc hr rfl (fun _ => rfl)
      fun t rs hr => .of_unchanged (.plain hc rfl hr)
  | throttle bucket work =>
    exact extends_acquire s command rs bucket _ _ _ hc hr rfl (fun _ => rfl)
      (extends_beginWork work command hc)
  | cancel =>
    exact ⟨[⟨c.plain, .cancelled c.name⟩], rfl, .plain hc rfl (plain_concat hr rfl)⟩
  | refuse fault => exact .of_unchanged (.plain hc rfl hr)
  | stage g => simp [Command.isPlain] at hnext
  | exchangeByClaims x token host => simp [Command.isPlain] at hnext
  | authorize a credential host => simp [Command.isPlain] at hnext

theorem extends_start (s : State) (command : Command) :
    Extends c command [] s (start c s command) := by
  have hempty : ∀ r ∈ ([] : List Record), r.origin = c.plain ∧ r.event.isPlain = true :=
    fun r hr => absurd hr List.not_mem_nil
  cases command with
  | stage g =>
    exact extends_result [] .alone (g.course_start c s)
  | exchangeByClaims x token host =>
    cases ht : token.tenant with
    | error fault =>
      simp only [start, ht]
      exact .of_unchanged (.unclaimed ht)
    | ok tenant =>
      simp only [start, ht]
      exact extends_result [] (.byClaims ht rfl)
        ((Stage.exchange x token (some tenant) host).course_start c s)
  | authorize a credential host => exact extends_authorize s a credential host
  | permit bucket => exact extends_plain s rfl hempty rfl
  | throttle bucket work => exact extends_plain s rfl hempty rfl
  | cancel => exact extends_plain s rfl hempty rfl
  | refuse fault => exact extends_plain s rfl hempty rfl

/-- A poll of a call goes on with its history. -/
theorem History.poll {call : Call} {command : Command} {rs : List Record}
    (h : History call.caller command rs call.phase) (s : State) :
    ∃ new, (call.poll s).1.trace = s.trace ++ new ∧
      History call.caller command (rs ++ new) (call.poll s).2.phase := by
  -- What has ended stays as it is; what is under way goes on with the course of its stage.
  obtain ⟨c, phase⟩ := call
  change History c command rs phase at h
  cases h with
  | unpolled => exact extends_start s command
  | unclaimed h => exact Extends.of_unchanged (.unclaimed h)
  | mismatched hop h he => exact Extends.of_unchanged (.mismatched hop h he)
  | unretrieved hop hg h => exact Extends.of_unchanged (.unretrieved hop hg h)
  | @alone g es turn h =>
    cases turn with
    | ended result => exact Extends.of_unchanged (.alone h)
    | going p => exact extends_result es .alone (g.course_resume c s h)
  | @byClaims x token host tenant g es turn ht hg h =>
    cases turn with
    | ended result => exact Extends.of_unchanged (.byClaims ht hg h)
    | going p => exact extends_result es (.byClaims ht hg) (g.course_resume c s h)
  | @retrieving a credential host op g es p hop hg h =>
    obtain ⟨new, htrace, hnew⟩ := g.course_resume c s h
    refine Extends.trans htrace ?_
    rw [List.append_assoc, ← Origin.records_append]
    exact extends_retrieval hop hg hnew _
  | @retrieved a credential host op g x es es' token turn hop hg h hx h' =>
    cases turn with
    | ended result => exact Extends.of_unchanged (.retrieved hop hg h hx h')
    | going p =>
      obtain ⟨new, htrace, hnew⟩ := x.course_resume c s h'
      refine Extends.trans htrace ?_
      have hnone : (c.within op).records (facadeClosing op (.going p)) = [] := rfl
      rw [hnone, List.append_nil, List.append_assoc, ← Origin.records_append]
      exact extends_exchange hop hg h hx hnew _
  | plain hc hp hr =>
    cases phase with
    | ready next => exact extends_plain s hc hr hp
    | running purpose g p => simp [Phase.isPlain] at hp
    | done result => exact Extends.of_unchanged (.plain hc rfl hr)
    | working ending =>
      show Extends c command rs s (if s.isCancelled c.name = true then _ else _)
      split
      · exact .of_unchanged (.plain hc rfl hr)
      · exact .of_unchanged (.plain hc (by cases ending <;> rfl) hr)

/-- A history is of one call only. -/
theorem History.call_of_mem {command : Command} {rs : List Record} {phase : Phase}
    (h : History c command rs phase) {r : Record} (hr : r ∈ rs) : r.origin.call = c.call := by
  have hone : ∀ {o : Origin} {es : List Event}, o.call = c.call → r ∈ o.records es →
      r.origin.call = c.call := by
    intro o es ho hmem
    rw [Origin.origin_of_mem_records hmem, ho]
  cases h with
  | unpolled => exact absurd hr List.not_mem_nil
  | unclaimed h => exact absurd hr List.not_mem_nil
  | alone h => exact hone rfl hr
  | byClaims ht hg h => exact hone rfl hr
  | mismatched hop h he => exact hone rfl hr
  | retrieving hop hg h =>
    rcases List.mem_append.1 hr with hr | hr
    · exact hone rfl hr
    · exact hone rfl hr
  | unretrieved hop hg h =>
    simp only [List.mem_append] at hr
    rcases hr with (hr | hr) | hr
    · exact hone rfl hr
    · exact hone rfl hr
    · exact hone rfl hr
  | retrieved hop hg h hx h' =>
    simp only [List.mem_append] at hr
    rcases hr with ((hr | hr) | hr) | hr
    · exact hone rfl hr
    · exact hone rfl hr
    · exact hone rfl hr
    · exact hone rfl hr
  | plain hc hp hplain => exact congrArg Origin.call (hplain r hr).1

/-! ## 3. Origins -/

/-- The operation of an authorizer is none of its stages. -/
theorem within_operationOf_ne (c : Caller) (credential : Credential) (g : Stage) :
    c.within (operationOf credential) ≠ g.origin c := by
  intro h
  have hop : some (operationOf credential) = some g.operation := congrArg Origin.operation h
  cases credential <;> cases g <;> simp [operationOf, Stage.operation] at hop

theorem retrieval?_eq_none_iff (r : Retriever) (credential : Credential) :
    retrieval? r credential = none ↔ r.flow ≠ credential.flow := by
  cases r <;> cases credential <;> simp [retrieval?, Retriever.flow, Credential.flow]

theorem operation_of_retrieval? {r : Retriever} {credential : Credential} {g : Stage}
    (h : retrieval? r credential = some g) : g.operation ≠ .registryExchange := by
  unfold retrieval? at h
  split at h
  · cases h
    exact Operation.noConfusion
  · cases h
    exact Operation.noConfusion
  · simp at h

end Call

/-- The stages that a command can come to run. -/
inductive Command.Runs : Command → Stage → Prop
  | stage (g : Stage) : Runs (.stage g) g
  | byClaims {x : Exchanger} {token : AccessToken} {host : String} {tenant : TenantId}
    (h : token.tenant = .ok tenant) :
    Runs (.exchangeByClaims x token host) (.exchange x token (some tenant) host)
  | retrieval {a : Authorizer} {credential : Credential} {host : String} {g : Stage}
    (h : Call.retrieval? a.retriever credential = some g) : Runs (.authorize a credential host) g
  | exchange {a : Authorizer} {credential : Credential} {host : String} (token : AccessToken) :
    Runs (.authorize a credential host)
      (Call.exchangeStage a.exchanger (Call.tenantOf credential) host token)

theorem Command.Runs.isPlain {command : Command} {g : Stage} (h : command.Runs g) :
    command.isPlain = false := by
  cases h <;> rfl

theorem Command.Runs.eq_retrieval {a : Authorizer} {credential : Credential} {host : String} {g : Stage}
    (h : (Command.authorize a credential host).Runs g) (hg : g.operation ≠ .registryExchange) :
    Call.retrieval? a.retriever credential = some g := by
  cases h with
  | retrieval h => exact h
  | exchange token => exact absurd rfl hg

/-- Whether an event only tells of stages and of their ends. -/
def Event.isReport : Event → Bool
  | .signal _ | .ended _ => true
  | _ => false

namespace Call

theorem isReport_opening {op : Operation} {e : Event} (h : e ∈ op.opening) : e.isReport = true := by
  simp only [Operation.opening, List.mem_cons, List.not_mem_nil, or_false] at h
  rcases h with rfl | rfl <;> rfl

theorem isReport_closing {op : Operation} {result : Except Error AccessToken} {e : Event}
    (h : e ∈ op.closing result) : e.isReport = true := by
  simp only [Operation.closing, List.mem_cons, List.not_mem_nil, or_false] at h
  rcases h with rfl | rfl <;> rfl

/-- What a call does at one origin: it has the course of one stage, or does nothing that a stage does. -/
def SingleStage (c : Caller) (command : Command) (o : Origin) (es : List Event) : Prop :=
  (∀ e ∈ es, e.isReport = true ∧ (∃ credential, o = c.within (operationOf credential)) ∨
      e.isPlain = true ∧ o = c.plain) ∨
    ∃ g turn, command.Runs g ∧ o = g.origin c ∧ g.Course es turn

variable {c : Caller} {command : Command} {o : Origin}

theorem SingleStage.nil : SingleStage c command o [] :=
  .inl fun _ he => absurd he List.not_mem_nil

theorem SingleStage.of_reports {credential : Credential} {es : List Event}
    (h : ∀ e ∈ es, e.isReport = true) :
    SingleStage c command o (eventsOf o ((c.within (operationOf credential)).records es)) := by
  by_cases ho : c.within (operationOf credential) = o
  · rw [← ho, eventsOf_records]
    exact .inl fun e he => .inl ⟨h e he, credential, rfl⟩
  · rw [eventsOf_records_of_ne o es ho]
    exact .nil

theorem SingleStage.of_course {g : Stage} {es : List Event} {turn : Turn} (hg : command.Runs g)
    (h : g.Course es turn) : SingleStage c command o (eventsOf o ((g.origin c).records es)) := by
  by_cases ho : g.origin c = o
  · refine .inr ⟨g, turn, hg, ho.symm, ?_⟩
    rwa [← ho, eventsOf_records]
  · rw [eventsOf_records_of_ne o es ho]
    exact .nil

theorem isReport_facadeClosing (op : Operation) (turn : Turn) :
    ∀ e ∈ facadeClosing op turn, e.isReport = true := by
  cases turn with
  | going p => exact fun e he => absurd he List.not_mem_nil
  | ended result => exact fun e he => isReport_closing he

/-- An authorizer's own events are at an origin where no stage of it is. -/
theorem SingleStage.within_append {credential : Credential} {before after : List Event}
    {rs : List Record} (hbefore : ∀ e ∈ before, e.isReport = true)
    (hafter : ∀ e ∈ after, e.isReport = true)
    (hnone : c.within (operationOf credential) = o → eventsOf o rs = [])
    (h : SingleStage c command o (eventsOf o rs)) :
    SingleStage c command o (eventsOf o ((c.within (operationOf credential)).records before ++ rs ++
      (c.within (operationOf credential)).records after)) := by
  -- Either the authorizer's own events are all that is seen, or none of them is.
  by_cases ho : c.within (operationOf credential) = o
  · have hrecords : ∀ es, eventsOf o ((c.within (operationOf credential)).records es) = es := by
      intro es
      rw [ho, eventsOf_records]
    rw [eventsOf_append, eventsOf_append, hnone ho, List.append_nil, hrecords, hrecords]
    refine .inl fun e he => .inl ⟨?_, credential, ho.symm⟩
    rcases List.mem_append.1 he with he | he
    · exact hbefore e he
    · exact hafter e he
  · rw [eventsOf_append, eventsOf_append, eventsOf_records_of_ne o _ ho,
      eventsOf_records_of_ne o _ ho, List.append_nil]
    exact h

theorem History.at_origin {rs : List Record} {phase : Phase} (h : History c command rs phase)
    (o : Origin) : SingleStage c command o (eventsOf o rs) := by
  have hnone : ∀ {credential : Credential} {g : Stage} (es : List Event),
      c.within (operationOf credential) = o → eventsOf o ((g.origin c).records es) = [] := by
    intro credential g es ho
    exact eventsOf_records_of_ne o es (ho ▸ (within_operationOf_ne c credential g).symm)
  cases h with
  | unpolled => exact .nil
  | unclaimed h => exact .nil
  | alone h => exact .of_course (.stage _) h
  | byClaims ht hg h => exact .of_course (hg ▸ .byClaims ht) h
  | mismatched hop h he =>
    subst hop
    refine .of_reports fun e he => ?_
    rcases List.mem_append.1 he with he | he
    · exact isReport_opening he
    · exact isReport_closing he
  | @retrieving a credential host op g es p hop hg h =>
    subst hop
    have hend : (c.within (operationOf credential)).records [] = [] := rfl
    rw [← List.append_nil (_ ++ _), ← hend]
    exact .within_append (fun e he => isReport_opening he) (fun e he => absurd he List.not_mem_nil)
      (hnone _) (.of_course (.retrieval hg) h)
  | unretrieved hop hg h =>
    subst hop
    exact .within_append (fun e he => isReport_opening he) (fun e he => isReport_closing he)
      (hnone _) (.of_course (.retrieval hg) h)
  | @retrieved a credential host op g x es es' token turn hop hg h hx h' =>
    subst hop hx
    rw [List.append_assoc ((c.within _).records _)]
    refine .within_append (fun e he => isReport_opening he) (isReport_facadeClosing _ turn) ?_ ?_
    · intro ho
      rw [eventsOf_append, hnone es ho, hnone es' ho]
      rfl
    · rw [eventsOf_append]
      -- Retrieval and exchange are different operations, so one of them at most is at the origin.
      by_cases ho : g.origin c = o
      · have hne : (exchangeStage a.exchanger (tenantOf credential) host token).origin c ≠ o := by
          intro hx
          have hop : some (Stage.operation _) = some g.operation :=
            congrArg Origin.operation (hx.trans ho.symm)
          exact operation_of_retrieval? hg (Option.some.inj hop).symm
        rw [eventsOf_records_of_ne o es' hne, List.append_nil]
        exact .of_course (.retrieval hg) h
      · rw [eventsOf_records_of_ne o es ho, List.nil_append]
        exact .of_course (.exchange token) h'
  | plain hc hp hr =>
    exact .inl fun e he => .inr (hr ⟨o, e⟩ ((mem_eventsOf_iff o rs e).1 he)).symm

/-- What only a stage does, or is done in the operation of one, belongs to the course of a stage. -/
theorem SingleStage.course {es : List Event} (h : SingleStage c command o es) {e : Event}
    (he : e ∈ es)
    (honly : e.isReport = false ∧ e.isPlain = false ∨ ∃ g : Stage, o.operation = some g.operation) :
    ∃ g turn, command.Runs g ∧ o = g.origin c ∧ g.Course es turn := by
  -- Reports of an authorizer and plain events are left; the origin or the event tells both apart.
  rcases h with hnone | hcourse
  · rcases hnone e he with ⟨hreport, credential, ho⟩ | ⟨hplain, ho⟩
    · rcases honly with ⟨hnot, -⟩ | ⟨g, hop⟩
      · simp [hnot] at hreport
      · have heq : c.within (operationOf credential) = g.origin c := by
          rw [ho] at hop
          exact congrArg (Origin.mk c.call) hop
        exact absurd heq (within_operationOf_ne c credential g)
    · rcases honly with ⟨-, hnot⟩ | ⟨g, hop⟩
      · simp [hnot] at hplain
      · rw [ho] at hop
        exact absurd hop.symm (Option.some_ne_none _)
  · exact hcourse

/-- An authorizer that does not serve the flow of a credential only tells that it failed. -/
theorem History.of_mismatch {a : Authorizer} {credential : Credential} {host : String}
    {rs : List Record} {phase : Phase} (h : History c (.authorize a credential host) rs phase)
    (hflow : a.retriever.flow ≠ credential.flow) :
    ∀ r ∈ rs, r.origin = c.within (operationOf credential) ∧ r.event.isReport = true := by
  have hnone := (retrieval?_eq_none_iff a.retriever credential).2 hflow
  intro r hr
  cases h with
  | unpolled => exact absurd hr List.not_mem_nil
  | mismatched hop h he =>
    subst hop
    refine ⟨Origin.origin_of_mem_records hr, ?_⟩
    obtain ⟨e, hmem, rfl⟩ := List.mem_map.1 hr
    rcases List.mem_append.1 hmem with hmem | hmem
    · exact isReport_opening hmem
    · exact isReport_closing hmem
  | retrieving hop hg h => simp [hnone] at hg
  | unretrieved hop hg h => simp [hnone] at hg
  | retrieved hop hg h hx h' => simp [hnone] at hg
  | plain hc hp hplain => simp [Command.isPlain] at hc

/-- A call of a single stage ends with what the stage ends with. -/
theorem History.ended_of_stage {g : Stage} {rs : List Record} {phase : Phase}
    {result : Except Error AccessToken} (h : History c (.stage g) rs phase)
    (hphase : phase = .done (.token result)) : ⟨g.origin c, .ended result⟩ ∈ rs := by
  cases h with
  | unpolled => simp at hphase
  | plain hc hp hr => simp [Command.isPlain] at hc
  | @alone g es turn hcourse =>
    cases turn with
    | going p => simp [Call.alone] at hphase
    | ended result' =>
      obtain rfl : result' = result := by simpa [Call.alone] using hphase
      exact hcourse.ended_mem_records c

/-- A call for a token that has not begun has recorded nothing. -/
theorem History.eq_nil_of_ready {rs : List Record} {phase : Phase} (h : History c command rs phase)
    {next : Command} (hphase : phase = .ready next) (hplain : command.isPlain = false) : rs = [] := by
  cases h with
  | unpolled => rfl
  | unclaimed ht => rfl
  | @alone g es turn h => cases turn <;> simp [Call.alone] at hphase
  | @byClaims x token host tenant g es turn ht hg h => cases turn <;> simp [Call.alone] at hphase
  | mismatched hop hnone he => simp at hphase
  | retrieving hop hg h => simp at hphase
  | unretrieved hop hg h => simp at hphase
  | @retrieved a credential host op g x es es' token turn hop hg h hx h' =>
    cases turn <;> simp [exchangePhase] at hphase
  | plain hc hp hr => simp [hc] at hplain

end Call

/-- A command runs one stage of an operation, but for exchanges of different tokens. -/
theorem Command.Runs.eq_of_operation {command : Command} {g g' : Stage} (h : command.Runs g)
    (h' : command.Runs g') (hop : g.operation = g'.operation)
    (hne : g.operation ≠ .registryExchange) : g = g' := by
  cases h with
  | stage g => cases h' with | stage g => rfl
  | byClaims ht => exact absurd rfl hne
  | exchange token => exact absurd rfl hne
  | retrieval hg =>
    cases h' with
    | retrieval hg' => exact Option.some.inj (hg.symm.trans hg')
    | exchange token => exact absurd hop hne

/-! ## 4. Runs -/

/-- What is known of every call after a run. -/
structure Traffic.Recorded (ms : List Move) (w : Traffic) : Prop where
  length_eq : w.calls.length = (Move.made ms).length
  history : ∀ i name command, (Move.made ms)[i]? = some (name, command) →
    ∃ c, w.calls[i]? = some c ∧ c.caller = ⟨i, name, command.isPatient⟩ ∧
      Call.History c.caller command (recordsOf i w.state.trace) c.phase
  known : ∀ r ∈ w.state.trace, r.origin.call < w.calls.length

namespace Traffic

theorem made_append (ms : List Move) (m : Move) :
    Move.made (ms ++ [m]) = Move.made ms ++ m.made?.toList := by
  rw [Move.made, List.filterMap_append, Move.made]
  cases h : m.made? <;> simp [h]

/-- What holds of a call when it is made, and is kept by its polls and by all other moves, holds of every
call after a run. -/
theorem calls_induction {s : State} {P : List Move → Nat → String × Command → Call → Prop}
    (hcall : ∀ ms i made, P (ms ++ [.call made.1 made.2]) i made (.ofCommand i made.1 made.2))
    (hother : ∀ ms m i made c, m ≠ .poll i → P ms i made c → P (ms ++ [m]) i made c)
    (hpoll : ∀ ms i made c, P ms i made c →
      P (ms ++ [.poll i]) i made (c.poll ((ofState s).run ms).state).2) (ms : List Move) :
    ((ofState s).run ms).calls.length = (Move.made ms).length ∧
      ∀ (i : Nat) made, (Move.made ms)[i]? = some made →
        ∃ c, ((ofState s).run ms).calls[i]? = some c ∧ P ms i made c := by
  induction ms using List.reverseRecOn with
  | nil => exact ⟨rfl, fun i made hi => by simp [Move.made] at hi⟩
  | append_singleton ms m ih =>
    obtain ⟨hlength, h⟩ := ih
    have hrun : (ofState s).run (ms ++ [m]) = ((ofState s).run ms).step m := run_append _ ms [m]
    rw [hrun]
    -- A move that makes no call and polls none leaves the calls what they were.
    have hsame : m.made? = none → (((ofState s).run ms).step m).calls = ((ofState s).run ms).calls →
        (∀ i, ((ofState s).run ms).calls[i]? ≠ none → m ≠ .poll i) →
        (((ofState s).run ms).step m).calls.length = (Move.made (ms ++ [m])).length ∧
        ∀ (i : Nat) made, (Move.made (ms ++ [m]))[i]? = some made →
          ∃ c, (((ofState s).run ms).step m).calls[i]? = some c ∧ P (ms ++ [m]) i made c := by
      intro hnone hcalls hm
      rw [made_append, hnone, Option.toList_none, List.append_nil, hcalls]
      refine ⟨hlength, fun i made hi => ?_⟩
      obtain ⟨c, hc, hP⟩ := h i made hi
      exact ⟨c, hc, hother ms m i made c (hm i (by simp [hc])) hP⟩
    cases m with
    | call name command =>
      rw [made_append]
      show (_ ++ [Call.ofCommand _ name command]).length = (_ ++ [(name, command)]).length ∧
        ∀ (i : Nat) made, (_ ++ [(name, command)])[i]? = some made →
          ∃ c, (_ ++ [Call.ofCommand _ name command])[i]? = some c ∧ _
      refine ⟨by simp [hlength], fun i made hi => ?_⟩
      rcases Nat.lt_or_ge i (Move.made ms).length with hlt | hge
      · rw [List.getElem?_append_left hlt] at hi
        obtain ⟨c, hc, hP⟩ := h i made hi
        rw [List.getElem?_append_left (hlength ▸ hlt)]
        exact ⟨c, hc, hother ms _ i made c Move.noConfusion hP⟩
      · obtain rfl : i = (Move.made ms).length := by
          have hbound := (List.getElem?_eq_some_iff.1 hi).1
          rw [List.length_append, List.length_singleton] at hbound
          omega
        rw [List.getElem?_concat_length] at hi
        obtain rfl := Option.some.inj hi
        rw [← hlength, List.getElem?_concat_length]
        exact ⟨_, rfl, hcall ms _ (name, command)⟩
    | poll j =>
      cases hj : ((ofState s).run ms).calls[j]? with
      | none =>
        refine hsame rfl (congrArg Traffic.calls (step_poll_of_none hj)) fun i hi heq => ?_
        obtain rfl := Move.poll.inj heq
        exact hi hj
      | some d =>
        have hnone : (Move.poll j).made? = none := rfl
        rw [step_poll_of_some hj, made_append, hnone, Option.toList_none, List.append_nil]
        refine ⟨by simp [hlength], fun i made hi => ?_⟩
        obtain ⟨c, hc, hP⟩ := h i made hi
        show ∃ c', (((ofState s).run ms).calls.set j _)[i]? = some c' ∧ _
        by_cases hij : j = i
        · subst hij
          obtain rfl : c = d := Option.some.inj (hc.symm.trans hj)
          exact ⟨_, List.getElem?_set_self (List.getElem?_eq_some_iff.1 hj).1, hpoll ms j made c hP⟩
        · refine ⟨c, (List.getElem?_set_ne hij).trans hc, hother ms _ i made c ?_ hP⟩
          exact fun heq => hij (Move.poll.inj heq)
    | clocks clock machine => exact hsame rfl rfl fun _ _ => Move.noConfusion
    | files files slow => exact hsame rfl rfl fun _ _ => Move.noConfusion
    | sweep cache => exact hsame rfl rfl fun _ _ => Move.noConfusion

/-- A call that was never polled is as it was made. -/
theorem calls_of_unpolled {s : State} {ms : List Move} {made : String × Command}
    (hmade : (Move.made ms)[i]? = some made) (hunpolled : .poll i ∉ ms) :
    ((ofState s).run ms).calls[i]? = some (.ofCommand i made.1 made.2) := by
  have hall := (calls_induction (s := s)
    (P := fun ms i made c => .poll i ∉ ms → c = .ofCommand i made.1 made.2)
    (fun _ _ _ _ => rfl) (fun ms m i _ _ _ h hnone => h fun hmem => hnone (List.mem_append_left _ hmem))
    (fun ms i _ _ _ hnone => absurd (List.mem_append_right ms (List.mem_singleton_self _)) hnone) ms).2
  obtain ⟨c, hc, hP⟩ := hall i made hmade
  rw [hc, hP hunpolled]

variable {ms : List Move} {w : Traffic}

theorem Recorded.of_unchanged {w' : Traffic} {m : Move} (h : w.Recorded ms) (hm : m.made? = none)
    (hcalls : w'.calls = w.calls) (htrace : w'.state.trace = w.state.trace) :
    w'.Recorded (ms ++ [m]) := by
  have hmade : Move.made (ms ++ [m]) = Move.made ms := by
    rw [made_append, hm]
    exact List.append_nil _
  constructor
  · rw [hcalls, hmade]
    exact h.length_eq
  · rw [hcalls, hmade, htrace]
    exact h.history
  · rw [hcalls, htrace]
    exact h.known

theorem Recorded.call (h : w.Recorded ms) (name : String) (command : Command) :
    (w.step (.call name command)).Recorded (ms ++ [.call name command]) where
  length_eq := by
    rw [made_append]
    show (w.calls ++ [_]).length = (Move.made ms ++ [(name, command)]).length
    simp [h.length_eq]
  history i name' command' hi := by
    rw [made_append] at hi
    change (Move.made ms ++ [(name, command)])[i]? = _ at hi
    show ∃ c, (w.calls ++ [_])[i]? = _ ∧ _
    by_cases hlt : i < w.calls.length
    · rw [List.getElem?_append_left (h.length_eq ▸ hlt)] at hi
      obtain ⟨c, hc, hcaller, hhistory⟩ := h.history i name' command' hi
      exact ⟨c, by rw [List.getElem?_append_left hlt, hc], hcaller, hhistory⟩
    · -- Nothing has been recorded under the number of a call that is made only now.
      have hi' : i = w.calls.length := by
        have hbound := (List.getElem?_eq_some_iff.1 hi).1
        simp only [List.length_append, List.length_singleton, ← h.length_eq] at hbound
        omega
      have hnew : command' = command ∧ name' = name := by
        rw [hi', h.length_eq, List.getElem?_concat_length] at hi
        cases hi
        exact ⟨rfl, rfl⟩
      have hnone : recordsOf i w.state.trace = [] :=
        recordsOf_of_forall_ne i _ fun r hr hcall => hlt (hcall ▸ h.known r hr)
      refine ⟨.ofCommand w.calls.length name command, ?_, ?_, ?_⟩
      · rw [hi', List.getElem?_concat_length]
      · rw [hi', hnew.1, hnew.2]
        rfl
      · show Call.History _ _ (recordsOf i w.state.trace) _
        rw [hnone, hnew.1]
        exact .unpolled command
  known r hr := by
    have hlt := h.known r hr
    show _ < (w.calls ++ [_]).length
    rw [List.length_append]
    omega

theorem Recorded.poll (h : w.Recorded ms) (i : Nat) : (w.step (.poll i)).Recorded (ms ++ [.poll i]) := by
  cases hci : w.calls[i]? with
  | none =>
    have hsame : w.step (.poll i) = w := by simp only [step, hci]
    rw [hsame]
    exact h.of_unchanged rfl rfl rfl
  | some c =>
    have hlt : i < w.calls.length := (List.getElem?_eq_some_iff.1 hci).1
    obtain ⟨⟨name, command⟩, hmade⟩ : ∃ x, (Move.made ms)[i]? = some x :=
      ⟨_, List.getElem?_eq_getElem (h.length_eq ▸ hlt)⟩
    obtain ⟨c', hc', hcaller, hhistory⟩ := h.history i name command hmade
    obtain rfl : c' = c := Option.some.inj (hc'.symm.trans hci)
    -- What the poll records is the call's own, so the histories of the other calls stand.
    obtain ⟨new, htrace, hnew⟩ := hhistory.poll w.state
    have hown : ∀ r ∈ new, r.origin.call = i := by
      intro r hr
      rw [hnew.call_of_mem (List.mem_append_right _ hr), hcaller]
    have hstep : w.step (.poll i) = ⟨(c'.poll w.state).1, w.calls.set i (c'.poll w.state).2⟩ := by
      simp only [step, hci]
    have hsame : Move.made (ms ++ [.poll i]) = Move.made ms := by
      rw [made_append]
      exact List.append_nil _
    rw [hstep]
    constructor
    · rw [hsame, List.length_set]
      exact h.length_eq
    · intro j name' command' hj
      rw [hsame] at hj
      show ∃ d : Call, (w.calls.set i _)[j]? = _ ∧ d.caller = _ ∧
        Call.History d.caller command' (recordsOf j (c'.poll w.state).1.trace) d.phase
      rw [htrace, recordsOf_append]
      by_cases hij : i = j
      · obtain rfl := hij
        obtain ⟨rfl, rfl⟩ : name = name' ∧ command = command' := by
          rw [hmade] at hj
          cases hj
          exact ⟨rfl, rfl⟩
        rw [recordsOf_of_forall i new hown]
        exact ⟨(c'.poll w.state).2, List.getElem?_set_self hlt, hcaller, hnew⟩
      · rw [recordsOf_of_forall_ne j new fun r hr hj => hij (hown r hr ▸ hj), List.append_nil,
          List.getElem?_set_ne hij]
        exact h.history j name' command' hj
    · intro r hr
      rw [List.length_set]
      rw [htrace] at hr
      rcases List.mem_append.1 hr with hold | hr
      · exact h.known r hold
      · rw [hown r hr]
        exact hlt

/-- After a run from a state where nothing has happened, each call has a history. -/
theorem recorded_run {s : State} (hs : s.trace = []) (ms : List Move) :
    ((ofState s).run ms).Recorded ms := by
  -- Nothing was made and nothing happened at first; each move keeps what is known of every call.
  refine run_induction (P := Recorded) ⟨rfl, ?_, ?_⟩ ?_ ms
  · intro i name command hi
    simp [Move.made] at hi
  · intro r hr
    change r ∈ s.trace at hr
    rw [hs] at hr
    exact absurd hr List.not_mem_nil
  · intro ms w m h
    cases m with
    | call name command => exact h.call name command
    | poll i => exact h.poll i
    | clocks clock machine => exact h.of_unchanged rfl rfl rfl
    | files files slow => exact h.of_unchanged rfl rfl rfl
    | sweep cache => exact h.of_unchanged rfl rfl rfl

/-- Every call was made, and has a history. -/
theorem Recorded.of_calls (h : w.Recorded ms) {i : Nat} {c : Call} (hc : w.calls[i]? = some c) :
    ∃ name command, (Move.made ms)[i]? = some (name, command) ∧
      c.caller = ⟨i, name, command.isPatient⟩ ∧
      Call.History c.caller command (recordsOf i w.state.trace) c.phase := by
  obtain ⟨⟨name, command⟩, hmade⟩ : ∃ made, (Move.made ms)[i]? = some made :=
    ⟨_, List.getElem?_eq_getElem (h.length_eq ▸ (List.getElem?_eq_some_iff.1 hc).1)⟩
  obtain ⟨c', hc', hcaller, hhistory⟩ := h.history i name command hmade
  obtain rfl : c' = c := Option.some.inj (hc'.symm.trans hc)
  exact ⟨name, command, hmade, hcaller, hhistory⟩

/-- A call is numbered by its place. -/
theorem Recorded.call_eq (h : w.Recorded ms) {i : Nat} {c : Call} (hc : w.calls[i]? = some c) :
    c.caller.call = i := by
  obtain ⟨name, command, -, hcaller, -⟩ := h.of_calls hc
  rw [hcaller]

/-- A call that has returned has a history up to its result. -/
theorem Recorded.history_of_result? (h : w.Recorded ms) {i : Nat} {name : String} {command : Command}
    {result : Result} (hmade : (Move.made ms)[i]? = some (name, command))
    (hresult : w.result? i = some result) :
    Call.History ⟨i, name, command.isPatient⟩ command (recordsOf i w.state.trace) (.done result) := by
  obtain ⟨c, hc, hcaller, hhistory⟩ := h.history i name command hmade
  rw [result?, hc, Option.bind_some] at hresult
  rwa [hcaller, Call.phase_of_result? hresult] at hhistory

/-- Every record is that of a call that was made, which does at its origin what one stage does. -/
theorem Recorded.single_stage (h : w.Recorded ms) {r : Record} (hr : r ∈ w.state.trace) :
    ∃ name command, (Move.made ms)[r.origin.call]? = some (name, command) ∧
      Call.SingleStage ⟨r.origin.call, name, command.isPatient⟩ command r.origin
        (eventsOf r.origin w.state.trace) := by
  have hlt : r.origin.call < (Move.made ms).length := h.length_eq ▸ h.known r hr
  obtain ⟨⟨name, command⟩, hmade⟩ : ∃ x, (Move.made ms)[r.origin.call]? = some x :=
    ⟨_, List.getElem?_eq_getElem hlt⟩
  obtain ⟨c, hc, hcaller, hhistory⟩ := h.history _ name command hmade
  refine ⟨name, command, hmade, ?_⟩
  -- An origin names its call, so the history of that call holds all its events.
  rw [← eventsOf_recordsOf, ← hcaller]
  exact hhistory.at_origin r.origin

/-- What only a stage does, or is done in the operation of one, belongs to the course of a stage. -/
theorem Recorded.course (h : w.Recorded ms) {o : Origin} {e : Event}
    (hr : (⟨o, e⟩ : Record) ∈ w.state.trace)
    (honly : e.isReport = false ∧ e.isPlain = false ∨ ∃ g : Stage, o.operation = some g.operation) :
    ∃ name command g turn, (Move.made ms)[o.call]? = some (name, command) ∧ command.Runs g ∧
      o.operation = some g.operation ∧ g.Course (eventsOf o w.state.trace) turn := by
  obtain ⟨name, command, hmade, hsingle⟩ := h.single_stage hr
  obtain ⟨g, turn, hruns, ho, hcourse⟩ := hsingle.course ((mem_eventsOf_iff o _ e).2 hr) honly
  exact ⟨name, command, g, turn, hmade, hruns, congrArg Origin.operation ho, hcourse⟩

end Traffic

end RegistryAuth
