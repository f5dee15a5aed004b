import RegistryAuth.Broker.Diagnostics
import RegistryAuth.Proofs.Broker.Metrics
import RegistryAuth.Proofs.Broker.Twins

/-!
# What is not disclosed

Runs of the same moves on answers that differ in tokens let the same be seen, down to when the tokens in
the caches end; of the requests, only the exchanges of the tokens differ.  `Undisclosed` lists what two
such runs have in common, and `Traffic.tokens_undisclosed` says that they have it at every point.
-/

namespace RegistryAuth

/-! ## 1. Readings of a trace -/

/-- What a record lets be seen, and of which call and operation. -/
def Record.signal? (r : Record) : Option (Origin × Signal) :=
  r.event.signal?.map (r.origin, ·)

/-- The request that a record tells of, and by which call and operation it was sent. -/
def Record.request? (r : Record) : Option (Origin × Http.Request) :=
  match r.event with
  | .sent q => some (r.origin, q)
  | _ => none

theorem Record.Twin.signal?_eq {r r' : Record} (h : r.Twin r') : r'.signal? = r.signal? := by
  obtain ⟨o, e⟩ := r
  obtain ⟨o', e'⟩ := r'
  obtain ⟨horigin, hevent⟩ := h
  change o = o' at horigin
  subst horigin
  cases hevent <;> rfl

/-- A result whose token is blotted out. -/
def Result.veiled : Result → Result
  | .token result => .token (result.map fun _ => ⟨AccessToken.redacted⟩)
  | result => result

theorem Result.Twin.veiled_eq {x y : Result} (h : x.Twin y) : y.veiled = x.veiled := by
  cases h with
  | token h => cases h <;> rfl
  | plain a => rfl
  | worked began a => rfl

theorem Call.Twin.result?_eq {c c' : Call} (h : c.Twin c') :
    c'.result?.map Result.veiled = c.result?.map Result.veiled := by
  obtain ⟨caller, phase⟩ := c
  obtain ⟨caller', phase'⟩ := c'
  have hphase : phase.Twin phase' := h.phase
  cases hphase with
  | ready command => rfl
  | running purpose hg hp => rfl
  | working ending => rfl
  | done hresult => exact congrArg some hresult.veiled_eq

/-! ## 2. Texts for those who run the broker -/

theorem TokenCache.Twin.shown_eq {c d : TokenCache} (h : c.Twin d) : d.shown = c.shown := by
  unfold TokenCache.shown
  rw [h.ttl, h.size_eq]

/-- The text of an entry tells no more than when the entry ends. -/
theorem TokenCache.Twin.shown_entries {c d : TokenCache} (h : c.Twin d) (instant : Instant → String) :
    d.entries.map (fun x => (x.1, x.2.shown instant)) =
      c.entries.map (fun x => (x.1, x.2.shown instant)) := by
  have htimes : ∀ c : TokenCache, c.entries.map (fun x => (x.1, x.2.shown instant)) =
      c.times.map fun x => (x.1, CacheEntry.shown instant ⟨⟨AccessToken.redacted⟩, x.2⟩) := by
    intro c
    unfold TokenCache.times
    rw [List.map_map]
    rfl
  rw [htimes, htimes, h.times]

theorem Broker.shown_eq {s t : State} (h : s.Twin t) (b : Broker) (part : Part) :
    b.shown t part = b.shown s part := by
  have hmanaged : ∀ r : ManagedRetriever, r.shown t = r.shown s := by
    intro r
    unfold ManagedRetriever.shown
    rw [(h.tokens r.cache).shown_eq]
  have hretriever : ∀ r : Retriever, r.shown t = r.shown s := by
    intro r
    cases r with
    | managed r => exact congrArg (fun text => "ManagedIdentity(" ++ text ++ ")") (hmanaged r)
    | workload r => rfl
  cases part with
  | authorizer =>
    show b.authorizer.shown t = b.authorizer.shown s
    unfold Authorizer.shown
    rw [hretriever]
  | managed => exact hmanaged b.managed
  | cache => exact (h.tokens b.cache).shown_eq
  | _ => rfl

/-! ## 3. Requests -/

/-- Requests of two runs that differ at most in the token that an authorizer has exchanged, and, where the
caller named no tenant, in the tenant that the token tells. -/
inductive RequestAlike (ms : List Move) : Origin × Http.Request → Origin × Http.Request → Prop
  | same (x : Origin × Http.Request) : RequestAlike ms x x
  | exchanged {o : Origin} {q q' : Http.Request} {name : String} {a : Authorizer}
    {credential : Credential} {host : String} {service : List Char} {t t' : AccessToken}
    (hop : o.operation = some .registryExchange)
    (hmade : (Move.made ms)[o.call]? = some (name, .authorize a credential host))
    (hbody : q.body =
      (Registry.form service (Call.tenantOf credential <|> t.tenant.toOption) t).encode)
    (hother : q' = { q with
      body := (Registry.form service (Call.tenantOf credential <|> t'.tenant.toOption) t').encode }) :
    RequestAlike ms (o, q) (o, q')

/-- A command that is run twice makes the same request for an exchange, unless an authorizer exchanges
another token. -/
theorem Command.Runs.requests {command : Command} {g g' : Stage} {files files' : Files}
    {q q' : Http.Request} (h : command.Runs g) (h' : command.Runs g')
    (hop : g.operation = .registryExchange) (hop' : g'.operation = .registryExchange)
    (hp : g.prepare files = .ok (.ok q)) (hp' : g'.prepare files' = .ok (.ok q')) :
    q' = q ∨ ∃ a credential host service t t', command = .authorize a credential host ∧
      q.body = (Registry.form service (Call.tenantOf credential <|> t.tenant.toOption) t).encode ∧
      q' = { q with body :=
        (Registry.form service (Call.tenantOf credential <|> t'.tenant.toOption) t').encode } := by
  -- The preparation of an exchange reads no file, so one stage makes one request.
  have hsame : ∀ x token tenant host, g = .exchange x token tenant host → g' = g → q' = q := by
    rintro x token tenant host rfl rfl
    have hrequest := eq_ok_of_prepared hp
    rw [eq_ok_of_prepared hp'] at hrequest
    exact Except.ok.inj hrequest
  cases h with
  | stage g =>
    cases h' with
    | stage g =>
      left
      cases g with
      | managed r selector => cases hop
      | workload r client tenant => cases hop
      | exchange x token tenant host => exact hsame x token tenant host rfl rfl
  | byClaims ht =>
    cases h' with
    | byClaims ht' =>
      have htenant := Except.ok.inj (ht.symm.trans ht')
      left
      exact hsame _ _ _ _ rfl (by rw [htenant])
  | retrieval hg => exact absurd hop (Call.operation_of_retrieval? hg)
  | @exchange a credential host t =>
    cases h' with
    | retrieval hg => exact absurd hop' (Call.operation_of_retrieval? hg)
    | exchange t' =>
      right
      obtain ⟨service, hforms⟩ := Registry.request_with_form (eq_ok_of_prepared hp)
      have hself := hforms t (Call.tenantOf credential <|> t.tenant.toOption)
      have hother := hforms t' (Call.tenantOf credential <|> t'.tenant.toOption)
      have hq := (eq_ok_of_prepared hp).symm.trans hself
      have hq' := (eq_ok_of_prepared hp').symm.trans hother
      exact ⟨a, credential, host, service, t, t', rfl,
        congrArg Http.Request.body (Except.ok.inj hq), Except.ok.inj hq'⟩

namespace Traffic

variable {ms : List Move} {w w' : Traffic}

/-- A request was prepared by a stage that the command of its call runs. -/
theorem Recorded.prepared (h : w.Recorded ms) {o : Origin} {q : Http.Request}
    (hr : (⟨o, .sent q⟩ : Record) ∈ w.state.trace) :
    ∃ name command g files, (Move.made ms)[o.call]? = some (name, command) ∧ command.Runs g ∧
      o.operation = some g.operation ∧ g.prepare files = .ok (.ok q) := by
  obtain ⟨name, command, g, turn, hmade, hruns, hop, hcourse⟩ := h.course hr (.inl ⟨rfl, rfl⟩)
  obtain ⟨files, hp⟩ := hcourse.prepare_of_sent ((mem_eventsOf_iff o _ _).2 hr)
  exact ⟨name, command, g, files, hmade, hruns, hop, hp⟩

/-- Where twin runs have sent different requests, both exchange what an authorizer was given. -/
theorem Recorded.request_alike (h : w.Recorded ms) (h' : w'.Recorded ms) {o : Origin}
    {q q' : Http.Request} (hr : (⟨o, .sent q⟩ : Record) ∈ w.state.trace)
    (hr' : (⟨o, .sent q'⟩ : Record) ∈ w'.state.trace)
    (htwin : Event.Twin o.operation (.sent q) (.sent q')) : RequestAlike ms (o, q) (o, q') := by
  cases htwin with
  | same => exact .same _
  | exchanged q body hop =>
    obtain ⟨name, command, g, files, hmade, hruns, hg, hp⟩ := h.prepared hr
    obtain ⟨name', command', g', files', hmade', hruns', hg', hp'⟩ := h'.prepared hr'
    have hcommand : (name, command) = (name', command') := Option.some.inj (hmade.symm.trans hmade')
    cases hcommand
    have hexchange : g.operation = .registryExchange := Option.some.inj (hg.symm.trans hop)
    have hexchange' : g'.operation = .registryExchange := Option.some.inj (hg'.symm.trans hop)
    rcases hruns.requests hruns' hexchange hexchange' hp hp' with
      heq | ⟨a, credential, host, service, t, t', hauthorize, hbody, hother⟩
    · rw [heq]
      exact .same _
    · rw [hauthorize] at hmade
      exact .exchanged hop hmade hbody hother

/-! ## 4. Runs -/

/-- What runs of the same moves have in common that differ in the tokens they were granted. -/
structure Undisclosed (ms : List Move) (w w' : Traffic) : Prop where
  /-- The same operations began, looked up and counted the same, in the same order. -/
  signals : w'.state.trace.filterMap Record.signal? = w.state.trace.filterMap Record.signal?
  /-- The same calls have returned, the same of them with errors, and with the same errors. -/
  results : ∀ call, (w'.result? call).map Result.veiled = (w.result? call).map Result.veiled
  /-- The caches hold entries for the same keys, which end at the same instants. -/
  times : ∀ cache, (w'.state.tokens cache).times = (w.state.tokens cache).times
  /-- The entries have the same texts, however instants are written. -/
  entries : ∀ cache (instant : Instant → String),
    (w'.state.tokens cache).entries.map (fun x => (x.1, x.2.shown instant)) =
      (w.state.tokens cache).entries.map fun x => (x.1, x.2.shown instant)
  /-- The tokens that were returned have the same texts. -/
  tokens : ∀ call t t', w.token? call = some t → w'.token? call = some t' →
    t'.shown = t.shown ∧ t'.shownOnLines = t.shownOnLines
  /-- All parts of every broker have the same texts. -/
  diagnostics : ∀ (b : Broker) (part : Part), b.shown w'.state part = b.shown w.state part
  /-- The same requests were sent in the same order, but for the tokens that they exchange. -/
  requests : List.Forall₂ (RequestAlike ms) (w.state.trace.filterMap Record.request?)
    (w'.state.trace.filterMap Record.request?)

theorem Twin.result?_eq (h : w.Twin w') (call : Nat) :
    (w'.result? call).map Result.veiled = (w.result? call).map Result.veiled := by
  unfold result?
  cases hc : w.calls[call]? with
  | none =>
    have hc' : w'.calls[call]? = none := by
      rw [List.getElem?_eq_none_iff] at hc ⊢
      rw [h.length]
      exact hc
    rw [hc']
  | some c =>
    have hlt : call < w'.calls.length := h.length ▸ (List.getElem?_eq_some_iff.1 hc).1
    have hc' := List.getElem?_eq_getElem hlt
    rw [hc']
    exact (h.calls call c _ hc hc').result?_eq

theorem Twin.undisclosed (h : w.Twin w') (hrecorded : w.Recorded ms) (hrecorded' : w'.Recorded ms) :
    Undisclosed ms w w' where
  signals := by
    have hboth : List.Forall₂ Eq (w.state.trace.filterMap Record.signal?)
        (w'.state.trace.filterMap Record.signal?) := by
      refine List.rel_filterMap (fun r r' hr => ?_) h.state.trace
      rw [hr.signal?_eq]
      cases r.signal? with
      | none => exact .none
      | some x => exact .some rfl
    rw [List.forall₂_eq_eq_eq] at hboth
    exact hboth.symm
  results := h.result?_eq
  times cache := (h.state.tokens cache).times.symm
  entries cache instant := (h.state.tokens cache).shown_entries instant
  tokens _ _ _ _ _ := ⟨rfl, rfl⟩
  diagnostics b part := b.shown_eq h.state part
  requests := by
    -- The twins of the trace are taken with their places, which tell the calls that sent them.
    have hplaced : List.Forall₂ (fun r r' => r.Twin r' ∧ r ∈ w.state.trace ∧ r' ∈ w'.state.trace)
        w.state.trace w'.state.trace := by
      refine List.forall₂_iff_zip.2 ⟨h.state.trace.length_eq, fun hmem => ?_⟩
      obtain ⟨hr, hr'⟩ := List.of_mem_zip hmem
      exact ⟨List.forall₂_zip h.state.trace hmem, hr, hr'⟩
    refine List.rel_filterMap (fun r r' hr => ?_) hplaced
    obtain ⟨⟨horigin, hevent⟩, hmem, hmem'⟩ := hr
    obtain ⟨o, e⟩ := r
    obtain ⟨o', e'⟩ := r'
    change o = o' at horigin
    subst horigin
    cases hevent with
    | same e =>
      cases e with
      | sent q => exact .some (.same (o, q))
      | _ => exact .none
    | exchanged q body hop =>
      exact .some (hrecorded.request_alike hrecorded' hmem hmem' (.exchanged q body hop))
    | _ => exact .none

/-- Runs of the same moves, on replies that differ in the tokens of answers, have all in common that can be
seen, at every point, as long as the first run was granted the tokens in whose places others stand. -/
theorem tokens_undisclosed {s : State} (htrace : s.trace = []) {replies : List Reply}
    (hreplies : List.Forall₂ Reply.Retokened s.replies replies) (ms : List Move)
    (hgranted : GrantedWhereOther ((ofState s).run ms).state.trace
      ((ofState (s.withReplies replies)).run ms).state.trace) {ns : List Move} (hns : ns <+: ms) :
    Undisclosed ns ((ofState s).run ns) ((ofState (s.withReplies replies)).run ns) := by
  have hstart := Twin.of_state (State.Twin.of_replies htrace hreplies)
  -- What was recorded by a point is still recorded at the end.
  obtain ⟨more, rfl⟩ := hns
  rw [run_append, run_append] at hgranted
  have htwin := hstart.run hgranted ns (trace_grows_run _ more) (trace_grows_run _ more)
  exact htwin.undisclosed (recorded_run htrace ns) (recorded_run (s := s.withReplies replies) htrace ns)

/-- An authorizer's call, and then one that is served from the cache. -/
def servedCalls : List Move :=
  [.call "first" (.authorize Sample.authorizer (.managed Sample.selector none) "registry.io"), .poll 0,
    .call "second" (.stage (.managed Sample.retriever Sample.selector)), .poll 1]

/-- The replies of the sample with other tokens, the first of which tells a tenant. -/
def otherReplies : List Reply :=
  [Sample.answer "access_token" "h.eyJ0aWQiOiJiMiJ9.s", Sample.answer "refresh_token" "other"]

/-- The bodies of the requests that were sent. -/
def bodies (w : Traffic) : List String :=
  (w.state.trace.filterMap Record.request?).map fun x => String.ofList x.2.body

/-- The two runs return different tokens, and exchange them with and without a tenant, but the same is
seen of both. -/
theorem tokens_undisclosed_of_served_calls :
    ((ofState Sample.state).run servedCalls).bodies =
        ["", "grant_type=access_token&service=registry.io&access_token=t"] ∧
      ((ofState (Sample.state.withReplies otherReplies)).run servedCalls).bodies =
        ["", "grant_type=access_token&service=registry.io&tenant=b2&" ++
          "access_token=h.eyJ0aWQiOiJiMiJ9.s"] ∧
      Undisclosed servedCalls ((ofState Sample.state).run servedCalls)
        ((ofState (Sample.state.withReplies otherReplies)).run servedCalls) := by
  have hfirst : (Sample.answer "access_token" "t").Retokened
      (Sample.answer "access_token" "h.eyJ0aWQiOiJiMiJ9.s") :=
    .of_outcome none (.answer (by decide +kernel))
  have hsecond : (Sample.answer "refresh_token" "r").Retokened (Sample.answer "refresh_token" "other") :=
    .of_outcome none (.answer (by decide +kernel))
  have hgranted : GrantedWhereOther ((ofState Sample.state).run servedCalls).state.trace
      ((ofState (Sample.state.withReplies otherReplies)).run servedCalls).state.trace := by
    decide +kernel
  exact ⟨by decide +kernel, by decide +kernel,
    tokens_undisclosed rfl (.cons hfirst (.cons hsecond .nil)) servedCalls hgranted List.prefix_rfl⟩

end Traffic

end RegistryAuth
