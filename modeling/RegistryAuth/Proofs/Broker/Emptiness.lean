import RegistryAuth.Proofs.Broker.Facade
import RegistryAuth.Proofs.Broker.Provenance

/-!
# Empty tokens

An answer of the node's endpoint or of a registry whose token is empty is an error, so such a token is
never kept, returned or exchanged.  The identity provider of workloads is not held to this: an empty token
that it grants is returned and exchanged as any other.  `EmptinessAccounted` says that this is the only way
for one.
-/

namespace RegistryAuth

open Text

/-! ## 1. Stages -/

/-- Whether at an origin a workload asked for a token and was granted an empty one with status 200. -/
def IsGrantedEmpty (trace : List Record) (o : Origin) : Prop :=
  ∃ q slot response fields, [⟨o, .sent q⟩, ⟨o, .settled slot (.ok response)⟩].Sublist trace ∧
    response.status = 200 ∧ Workload.answerRecord.read response.body = .ok fields ∧
    fields.text? "access_token" = some ""

theorem IsGrantedEmpty.mono {rs ts : List Record} {o : Origin} (h : IsGrantedEmpty rs o)
    (hsub : rs.Sublist ts) : IsGrantedEmpty ts o := by
  obtain ⟨q, slot, response, fields, hpair, hgrant⟩ := h
  exact ⟨q, slot, response, fields, hpair.trans hsub, hgrant⟩

namespace Stage

variable {g : Stage} {es : List Event} {turn : Turn} {token : AccessToken}

/-- Of the answers only that of a workload's identity provider can make an empty token. -/
theorem nonempty_of_conclude {slot : Http.Slot} {outcome : Except Http.Failure Http.Response}
    (hg : g.operation ≠ .workloadIdentity) (h : g.conclude slot outcome = .ok token) :
    token.text ≠ "" := by
  cases outcome with
  | error failure => simp at h
  | ok response =>
    cases g with
    | managed r selector =>
      rw [conclude_managed, Managed.token_eq] at h
      exact (TokenAnswer.of_token_eq_ok h).2.1
    | workload r client tenant => exact absurd rfl hg
    | exchange x token' tenant host =>
      rw [conclude_exchange, Registry.token_eq] at h
      exact (TokenAnswer.of_token_eq_ok h).2.1

/-- A token that is stored was made of an answer, so it is not empty. -/
theorem Course.nonempty_of_stored {cache : Nat} {key : CacheKey} {now : Instant}
    (h : g.Course es turn) (hmem : .stored cache key token now ∈ es) : token.text ≠ "" := by
  obtain ⟨r, selector, rfl, -, -, rfl⟩ := h.of_stored hmem
  have hfound : ∀ {served found}, (Stage.managed r selector).Found served found →
      .stored cache key token now ∉ found := by
    intro served found hf
    cases hf
    simp
  cases h with
  | served hf => simp [Operation.opening, Operation.closing, hfound hf] at hmem
  | missed hf ha =>
    -- Only a stage whose request was answered has come to an end with a token.
    cases ha with
    | settled hp hr => exact nonempty_of_conclude Operation.noConfusion hr

/-- What a stage ends with is found in its cache, is not empty, or was granted to a workload. -/
theorem Course.of_empty (h : g.Course es (.ended (.ok token))) (hempty : token.text = "") (c : Caller) :
    (∃ cache key now, .looked cache key now (some token) ∈ es) ∨
      g.operation = .workloadIdentity ∧ IsGrantedEmpty ((g.origin c).records es) (g.origin c) := by
  rcases h.of_token with ⟨found, hf, hsub⟩ | ⟨files, q, slot, response, hp, hsub, hconclude⟩
  · left
    cases hf with
    | managed => exact ⟨_, _, _, hsub List.mem_cons_self⟩
  · right
    have hg : g.operation = .workloadIdentity := by
      by_contra hg
      exact nonempty_of_conclude hg hconclude hempty
    cases g with
    | managed r selector => exact Operation.noConfusion hg
    | exchange x token' tenant host => exact Operation.noConfusion hg
    | workload r client tenant =>
      obtain ⟨hstatus, fields, hread, htext⟩ := Workload.of_token_eq_ok hconclude
      rw [hempty] at htext
      exact ⟨rfl, q, slot, response, fields, hsub.map _, hstatus, hread, htext⟩

end Stage

/-! ## 2. Calls -/

/-- Whether a call stands where one that returns no token can stand. -/
def Phase.isTokenless : Phase → Bool
  | .ready command => command.isPlain
  | .running .. | .done (.token (.ok _)) => false
  | _ => true

namespace Call

variable {c : Caller} {command : Command}

theorem isTokenless_endWork (ending : Ending) : (endWork ending).isTokenless = true := by
  cases ending <;> rfl

theorem isTokenless_acquire (s : State) (bucket : Nat) {waiting : Phase} {refused : Error → Phase}
    {granted : State → State × Phase} (hwaiting : waiting.isTokenless = true)
    (hrefused : ∀ e, (refused e).isTokenless = true)
    (hgranted : ∀ t, (granted t).2.isTokenless = true) :
    (acquire c s bucket waiting refused granted).2.isTokenless = true := by
  unfold acquire
  split
  · exact hrefused _
  · split
    · exact hwaiting
    · exact hgranted _

theorem isTokenless_start (s : State) (h : command.isPlain = true) :
    (start c s command).2.isTokenless = true := by
  cases command with
  | stage g => exact Bool.noConfusion h
  | exchangeByClaims x token host => exact Bool.noConfusion h
  | authorize a credential host => exact Bool.noConfusion h
  | permit bucket => exact isTokenless_acquire s bucket rfl (fun _ => rfl) fun _ => rfl
  | throttle bucket work =>
    refine isTokenless_acquire s bucket rfl (fun _ => rfl) fun t => ?_
    show (if work.suspends then Phase.working work.ending else endWork work.ending).isTokenless = true
    split
    · rfl
    · exact isTokenless_endWork _
  | cancel => rfl
  | refuse fault => rfl

/-- A poll leaves a call that returns no token one that returns none. -/
theorem isTokenless_poll (s : State) {call : Call} (h : call.phase.isTokenless = true) :
    (call.poll s).2.phase.isTokenless = true := by
  obtain ⟨c, phase⟩ := call
  cases phase with
  | ready command => exact isTokenless_start s h
  | running purpose g progress => exact Bool.noConfusion h
  | done result => exact h
  | working ending =>
    show (if s.isCancelled c.name then _ else (s, endWork ending)).2.isTokenless = true
    split
    · rfl
    · exact isTokenless_endWork ending

/-- A call gets its token from its only stage or from an exchange. -/
theorem History.stage_of_token {rs : List Record} {phase : Phase} {token : AccessToken}
    (h : History c command rs phase) (hphase : phase = .done (.token (.ok token)))
    (hplain : command.isPlain = false) :
    ∃ (g : Stage) (es : List Event), (command = .stage g ∨ g.operation = .registryExchange) ∧
      ((g.origin c).records es).Sublist rs ∧ g.Course es (.ended (.ok token)) := by
  cases h with
  | unpolled => simp at hphase
  | unclaimed ht => simp at hphase
  | mismatched hop hnone he => simp at hphase
  | retrieving hop hg h => simp at hphase
  | unretrieved hop hg h => simp at hphase
  | plain hc hp hr => simp [hc] at hplain
  | @alone g es turn h =>
    cases turn with
    | going p => simp [Call.alone] at hphase
    | ended result =>
      obtain rfl : result = .ok token := by simpa [Call.alone] using hphase
      exact ⟨g, es, .inl rfl, .refl _, h⟩
  | @byClaims x token' host tenant g es turn ht hg h =>
    cases turn with
    | going p => simp [Call.alone] at hphase
    | ended result =>
      obtain rfl : result = .ok token := by simpa [Call.alone] using hphase
      exact ⟨g, es, .inr (hg ▸ rfl), .refl _, h⟩
  | @retrieved a credential host op g x es es' token' turn hop hg h hx h' =>
    cases turn with
    | going p => simp [exchangePhase] at hphase
    | ended result =>
      cases result with
      | error e => simp [exchangePhase] at hphase
      | ok token'' =>
        obtain rfl : token'' = token := by simpa [exchangePhase] using hphase
        refine ⟨x, es', .inr (hx ▸ rfl), ?_, h'⟩
        exact (List.sublist_append_right _ _).trans (List.sublist_append_left _ _)

/-- A token whose text the body of an exchange carries is the one that the retrieval ended with. -/
theorem History.retrieval_of_body {a : Authorizer} {credential : Credential} {host : String}
    {rs : List Record} {phase : Phase} (h : History c (.authorize a credential host) rs phase)
    {q : Http.Request} {text : String} (hq : ⟨⟨c.call, some .registryExchange⟩, .sent q⟩ ∈ rs)
    (hbody : ("access_token", text) ∈ Form.decode (Utf8.encode q.body)) :
    ∃ (g : Stage) (es : List Event), g.operation = credential.retrieval ∧ ((g.origin c).records es).Sublist rs ∧
      g.Course es (.ended (.ok ⟨text⟩)) := by
  obtain ⟨g, es, token, es', turn, hg, hes, hes', rfl, hsent⟩ := h.of_exchange hq
  obtain ⟨files, hp⟩ := hes'.prepare_of_sent hsent
  have hfield : ("access_token", text) ∈
      (Form.decode (Utf8.encode q.body)).filter (·.1 = "access_token") :=
    List.mem_filter.2 ⟨hbody, rfl⟩
  rw [Registry.token_of_request (eq_ok_of_prepared hp), List.mem_singleton] at hfield
  obtain rfl : text = token.text := congrArg Prod.snd hfield
  refine ⟨g, es, operation_eq_retrieval hg, ?_, hes⟩
  have hleft : ((g.origin c).records es).Sublist
      ((c.within (operationOf credential)).records (operationOf credential).opening ++
        (g.origin c).records es) :=
    List.sublist_append_right _ _
  exact (hleft.trans (List.sublist_append_left _ _)).trans (List.sublist_append_left _ _)

end Call

/-! ## 3. Runs -/

namespace Traffic

/-- A call that uses no stage returns no token. -/
theorem isTokenless_run {s : State} (ms : List Move) {i : Nat} {made : String × Command} {c : Call}
    (hmade : (Move.made ms)[i]? = some made) (hplain : made.2.isPlain = true)
    (hc : ((ofState s).run ms).calls[i]? = some c) : c.phase.isTokenless = true := by
  have hall := (calls_induction (s := s)
    (P := fun _ _ made c => made.2.isPlain = true → Phase.isTokenless c.phase = true)
    (fun _ _ _ hplain => hplain) (fun _ _ _ _ _ _ h => h)
    (fun _ _ _ _ h hplain => Call.isTokenless_poll _ (h hplain)) ms).2
  obtain ⟨d, hd, hP⟩ := hall i made hmade
  obtain rfl : d = c := Option.some.inj (hd.symm.trans hc)
  exact hP hplain

variable {s : State} {ms : List Move} {w : Traffic}

theorem Recorded.nonempty_of_stored (h : w.Recorded ms) {o : Origin} {cache : Nat} {key : CacheKey}
    {token : AccessToken} {now : Instant}
    (hr : (⟨o, .stored cache key token now⟩ : Record) ∈ w.state.trace) : token.text ≠ "" := by
  obtain ⟨name, command, g, turn, -, -, -, hcourse⟩ := h.course hr (.inl ⟨rfl, rfl⟩)
  exact hcourse.nonempty_of_stored ((mem_eventsOf_iff o _ _).2 hr)

/-- What a cache serves was stored there, so it is not empty. -/
theorem nonempty_of_looked (htrace : s.trace = []) (hcaches : ∀ cache, ∃ ttl, s.tokens cache = .empty ttl)
    (ms : List Move) {o : Origin} {cache : Nat} {key : CacheKey} {now : Instant} {token : AccessToken}
    (hr : (⟨o, .looked cache key now (some token)⟩ : Record) ∈ ((ofState s).run ms).state.trace) :
    token.text ≠ "" := by
  obtain ⟨ttl, hcache⟩ := hcaches cache
  obtain ⟨before, after, hsplit⟩ := List.append_of_mem hr
  obtain ⟨x, hlast, rfl, -⟩ :=
    (accounted_run htrace hcache ms).served before after o key now token hsplit
  have hstored : ⟨x.origin, .stored cache key x.token x.instant⟩ ∈ ((ofState s).run ms).state.trace := by
    rw [hsplit]
    exact List.mem_append_left _ (mem_of_lastStored? hlast)
  exact (recorded_run htrace ms).nonempty_of_stored hstored

/-- A stage that ended with an empty token did not find it, so it was granted it. -/
theorem granted_of_empty (htrace : s.trace = []) (hcaches : ∀ cache, ∃ ttl, s.tokens cache = .empty ttl)
    (ms : List Move) {c : Caller} {g : Stage} {es : List Event} {token : AccessToken}
    (hcourse : g.Course es (.ended (.ok token))) (hempty : token.text = "")
    (hsub : ((g.origin c).records es).Sublist (recordsOf c.call ((ofState s).run ms).state.trace)) :
    g.operation = .workloadIdentity ∧
      IsGrantedEmpty ((ofState s).run ms).state.trace ⟨c.call, some .workloadIdentity⟩ := by
  have hsub' := hsub.trans (recordsOf_sublist c.call _)
  rcases hcourse.of_empty hempty c with ⟨cache, key, now, hlooked⟩ | ⟨hop, hgrant⟩
  · have hmem := hsub'.subset ((Origin.mem_records_iff (g.origin c) es _).2 hlooked)
    exact absurd hempty (nonempty_of_looked htrace hcaches ms hmem)
  · have horigin : g.origin c = ⟨c.call, some .workloadIdentity⟩ :=
      congrArg (fun op => Origin.mk c.call (some op)) hop
    exact ⟨hop, horigin ▸ hgrant.mono hsub'⟩

/-- A token is returned by a call that uses a stage. -/
theorem Recorded.made_of_token (h : ((ofState s).run ms).Recorded ms) {i : Nat} {token : AccessToken}
    (htoken : ((ofState s).run ms).token? i = some token) :
    ∃ name command, (Move.made ms)[i]? = some (name, command) ∧ command.isPlain = false := by
  obtain ⟨c, hc, hdone⟩ := Option.bind_eq_some_iff.1 (result?_of_token? htoken)
  obtain ⟨name, command, hmade, -, -⟩ := h.of_calls hc
  refine ⟨name, command, hmade, ?_⟩
  by_contra hplain
  have htokenless := isTokenless_run ms hmade (by simpa using hplain) hc
  rw [Call.phase_of_result? hdone] at htokenless
  exact Bool.noConfusion htokenless

end Traffic

/-- What is to be known of empty tokens after a run: none is kept, and one is returned, or sent to a
registry by an authorizer, only where a workload was granted it. -/
structure EmptinessAccounted (made : List (String × Command)) (w : Traffic) : Prop where
  kept : ∀ o cache key token now, ⟨o, .stored cache key token now⟩ ∈ w.state.trace → token.text ≠ ""
  returned : ∀ i token, w.token? i = some token → token.text = "" →
    (∃ name r client tenant, made[i]? = some (name, .stage (.workload r client tenant))) ∧
      IsGrantedEmpty w.state.trace ⟨i, some .workloadIdentity⟩
  exchanged : ∀ i name a credential host q, made[i]? = some (name, .authorize a credential host) →
    ⟨⟨i, some .registryExchange⟩, .sent q⟩ ∈ w.state.trace →
    ("access_token", "") ∈ Form.decode (Utf8.encode q.body) →
    credential.flow = .workload ∧ IsGrantedEmpty w.state.trace ⟨i, some .workloadIdentity⟩

namespace Traffic

/-- After every run from empty caches no empty token has been kept, and none has been returned or
exchanged but one that the identity provider granted to a workload. -/
theorem empty_token_only_from_provider {s : State} (htrace : s.trace = [])
    (hcaches : ∀ cache, ∃ ttl, s.tokens cache = .empty ttl) (ms : List Move) :
    EmptinessAccounted (Move.made ms) ((ofState s).run ms) := by
  have hrecorded := recorded_run htrace ms
  refine ⟨fun o cache key token now hr => hrecorded.nonempty_of_stored hr, ?_, ?_⟩
  · intro i token htoken hempty
    obtain ⟨name, command, hmade, hplain⟩ := hrecorded.made_of_token htoken
    have hhistory := hrecorded.history_of_result? hmade (result?_of_token? htoken)
    obtain ⟨g, es, hstage, hsub, hcourse⟩ := hhistory.stage_of_token rfl hplain
    obtain ⟨hop, hgrant⟩ := granted_of_empty htrace hcaches ms hcourse hempty hsub
    refine ⟨?_, hgrant⟩
    -- The stage is no exchange, so it is the only stage of the call.
    rcases hstage with rfl | hexchange
    · cases g with
      | workload r client tenant => exact ⟨name, r, client, tenant, hmade⟩
      | managed r selector => exact Operation.noConfusion hop
      | exchange x token tenant host => exact Operation.noConfusion hop
    · rw [hexchange] at hop
      exact Operation.noConfusion hop
  · intro i name a credential host q hmade hq hbody
    obtain ⟨c, hc, hcaller, hhistory⟩ := hrecorded.history i name _ hmade
    obtain rfl : c.caller.call = i := congrArg Caller.call hcaller
    obtain ⟨g, es, hop, hsub, hcourse⟩ := hhistory.retrieval_of_body
      ((mem_recordsOf_iff _ _ _).2 ⟨hq, rfl⟩) hbody
    obtain ⟨hworkload, hgrant⟩ := granted_of_empty htrace hcaches ms hcourse rfl hsub
    refine ⟨?_, hgrant⟩
    rw [hop] at hworkload
    cases credential with
    | managed selector tenant => exact Operation.noConfusion hworkload
    | workload tenant client => rfl

/-- A retriever for workloads. -/
def workload : WorkloadRetriever :=
  ⟨⟨"https://login/", "\x7btenant\x7d/token", "assertion", "https://api/"⟩, 0⟩

/-- A state where the identity provider grants empty tokens. -/
def grantingState : State :=
  let grant := Reply.ofOutcome none
    (.ok ⟨200, [], bytesOf "\x7b\"access_token\":\"\",\"token_type\":\"Bearer\"\x7d"⟩)
  { State.fresh 3 (.ofSeconds 1) [grant, grant, Sample.answer "refresh_token" "r"] with
    files := ⟨[("assertion".toList, .content (bytesOf "jwt"))]⟩ }

/-- A call for the token of a workload, and one of an authorizer for the same. -/
def grantedCalls : List Move :=
  [.call "first" (.stage (.workload workload ⟨"c1", by decide⟩ ⟨"t1", by decide⟩)), .poll 0,
    .call "second" (.authorize ⟨.workload workload, ⟨.default, 0⟩⟩
      (.workload ⟨"t1", by decide⟩ ⟨"c1", by decide⟩) "registry.io"), .poll 1]

/-- The empty token that the first of the calls returns was granted to its workload. -/
theorem emptiness_of_granted_calls :
    (∀ cache, ∃ ttl, grantingState.tokens cache = .empty ttl) ∧
    ((ofState grantingState).run grantedCalls).token? 0 = some ⟨""⟩ ∧
    EmptinessAccounted (Move.made grantedCalls) ((ofState grantingState).run grantedCalls) := by
  have hcaches : ∀ cache, ∃ ttl, grantingState.tokens cache = .empty ttl :=
    fun _ => ⟨.ofSeconds 1, rfl⟩
  exact ⟨hcaches, by decide +kernel, empty_token_only_from_provider rfl hcaches grantedCalls⟩

/-- So it is not so that no empty token is ever returned. -/
theorem empty_token_is_returned :
    ¬ ∀ (s : State) (ms : List Move) (i : Nat) (token : AccessToken), s.trace = [] →
      (∀ cache, ∃ ttl, s.tokens cache = .empty ttl) → ((ofState s).run ms).token? i = some token →
      token.text ≠ "" := by
  intro hall
  have htoken : ((ofState grantingState).run grantedCalls).token? 0 = some ⟨""⟩ := by decide +kernel
  exact hall grantingState grantedCalls 0 ⟨""⟩ rfl (fun _ => ⟨.ofSeconds 1, rfl⟩) htoken rfl

end Traffic

end RegistryAuth
