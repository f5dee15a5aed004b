import RegistryAuth.Proofs.Broker.Waiters

/-!
# Readings of clocks

A record of a cache holds an instant.  For a look-up it is what the clock of the cache shows when the call is
polled, and for a store what it shows when the reply with the token has passed.  `Call.reads_poll` says so of
one poll and `Traffic.isRead_of_split` of a run, and `Traffic.clocks_run` how long the clocks of a run show
what they were set to.
-/

namespace RegistryAuth

/-! ## 1. Clocks of states -/

namespace State

/-- Whether two states have the same clocks, which the same caches read. -/
structure SameClocks (s t : State) : Prop where
  clock : t.clock = s.clock
  machine : t.machine = s.machine
  read : ∀ cache, (t.caches cache).clock = (s.caches cache).clock

namespace SameClocks

variable {s t u : State}

theorem refl (s : State) : SameClocks s s :=
  ⟨rfl, rfl, fun _ => rfl⟩

theorem trans (h : SameClocks s t) (h' : SameClocks t u) : SameClocks s u :=
  ⟨h'.clock.trans h.clock, h'.machine.trans h.machine, fun cache => (h'.read cache).trans (h.read cache)⟩

theorem now_eq (h : SameClocks s t) (cache : Nat) : t.now cache = s.now cache := by
  unfold now
  rw [h.read, h.clock, h.machine]

theorem passing (h : SameClocks s t) (o o' : Origin) (reply : Reply) :
    SameClocks (s.passing o reply) (t.passing o' reply) := by
  have hmoved : SameClocks { s with clock := s.clock.add (reply.advance.getD .zero) }
      { t with clock := t.clock.add (reply.advance.getD .zero) } :=
    ⟨by rw [h.clock], h.machine, h.read⟩
  unfold State.passing
  cases reply.cancels with
  | none => exact hmoved
  | some name => exact ⟨hmoved.clock, hmoved.machine, hmoved.read⟩

end SameClocks

variable (s : State) (o : Origin)

theorem sameClocks_signal (signals : List Signal) : SameClocks s (s.signal o signals) := by
  rw [signal_eq]
  exact ⟨rfl, rfl, fun _ => rfl⟩

theorem sameClocks_of_takePermit? {s t : State} {o : Origin} {bucket : Nat}
    (h : s.takePermit? o bucket = some t) : SameClocks s t := by
  obtain ⟨n, -, rfl⟩ := eq_of_takePermit? h
  exact ⟨rfl, rfl, fun _ => rfl⟩

theorem sameClocks_send (q : Http.Request) : SameClocks s (s.send o q).1 := by
  obtain ⟨replies, h⟩ := s.fst_send o q
  rw [h]
  exact ⟨rfl, rfl, fun _ => rfl⟩

theorem sameClocks_setTokens (cache : Nat) (tokens : TokenCache) :
    SameClocks s (s.setTokens cache tokens) := by
  refine ⟨rfl, rfl, fun i => ?_⟩
  unfold setTokens
  simp only
  split <;> rfl

theorem sameClocks_lookUp (cache : Nat) (key : CacheKey) : SameClocks s (s.lookUp o cache key).1 := by
  have hleft := s.sameClocks_setTokens cache ((s.tokens cache).evict (s.now cache) key)
  have hrecorded : SameClocks s ((s.setTokens cache ((s.tokens cache).evict (s.now cache) key)).record o
      (.looked cache key (s.now cache) ((s.tokens cache).served? (s.now cache) key))) :=
    ⟨hleft.clock, hleft.machine, hleft.read⟩
  exact hrecorded.trans (sameClocks_signal _ o _)

end State

/-! ## 2. Readings of polls -/

/-- Whether an event is one of a cache. -/
def Event.isCaching : Event → Bool
  | .looked .. | .stored .. => true
  | _ => false

/-- Whether the instant of an event was read in a poll that began in a state and may have taken in a reply. -/
def Event.IsReadIn (s : State) (reply? : Option Reply) (o : Origin) : Event → Prop
  | .looked cache _ now _ => now = s.now cache
  | .stored cache _ _ now => ∃ reply, reply? = some reply ∧ now = (s.passing o reply).now cache
  | _ => True

theorem Event.isReadIn_of_uncached {e : Event} (h : e.isCaching = false) (s : State) (reply? : Option Reply)
    (o : Origin) : e.IsReadIn s reply? o := by
  cases e with
  | looked cache key now served => exact Bool.noConfusion h
  | stored cache key token now => exact Bool.noConfusion h
  | _ => trivial

/-- Whether what was recorded from one state to the next was read so. -/
def State.Reads (s : State) (reply? : Option Reply) (a b : State) : Prop :=
  ∃ new, b.trace = a.trace ++ new ∧ ∀ r ∈ new, r.event.IsReadIn s reply? r.origin

namespace State.Reads

variable {s a b c : State} {reply? : Option Reply}

theorem of_trace_eq (h : b.trace = a.trace) : s.Reads reply? a b :=
  ⟨[], by rw [h, List.append_nil], fun _ hr => absurd hr List.not_mem_nil⟩

theorem trans (h : s.Reads reply? a b) (h' : s.Reads reply? b c) : s.Reads reply? a c := by
  obtain ⟨new, htrace, hread⟩ := h
  obtain ⟨more, htrace', hread'⟩ := h'
  refine ⟨new ++ more, by rw [htrace', htrace, List.append_assoc], fun r hr => ?_⟩
  rcases List.mem_append.1 hr with hr | hr
  · exact hread r hr
  · exact hread' r hr

theorem of_records {o : Origin} {es : List Event} (htrace : b.trace = a.trace ++ o.records es)
    (h : ∀ e ∈ es, e.IsReadIn s reply? o) : s.Reads reply? a b := by
  refine ⟨_, htrace, fun r hr => ?_⟩
  rw [Origin.origin_of_mem_records hr]
  exact h _ (Origin.mem_records.1 hr).2

/-- What uses no cache reads no clock. -/
theorem of_uncached {o : Origin} {es : List Event} (htrace : b.trace = a.trace ++ o.records es)
    (h : ∀ e ∈ es, e.isCaching = false) : s.Reads reply? a b :=
  of_records htrace fun e he => Event.isReadIn_of_uncached (h e he) s reply? o

end State.Reads

namespace State

variable (s t : State) (reply? : Option Reply) (o : Origin)

theorem reads_signal (signals : List Signal) : s.Reads reply? t (t.signal o signals) := by
  refine .of_uncached (t.trace_signal o signals) fun e he => ?_
  obtain ⟨x, -, rfl⟩ := List.mem_map.1 he
  rfl

theorem reads_of_takePermit? {u : State} {bucket : Nat} (h : t.takePermit? o bucket = some u) :
    s.Reads reply? t u :=
  .of_uncached (trace_of_takePermit? h) (by simp [Event.isCaching])

theorem reads_cancel (name : String) : s.Reads reply? t (t.cancel o name) :=
  .of_uncached (show (t.cancel o name).trace = t.trace ++ o.records [.cancelled name] from rfl)
    (by simp [Event.isCaching])

theorem reads_passing (reply : Reply) : s.Reads reply? t (t.passing o reply) := by
  refine .of_uncached (t.trace_passing o reply) fun e he => ?_
  unfold Reply.told at he
  cases hname : reply.cancels with
  | none => simp [hname] at he
  | some name =>
    obtain rfl : e = .cancelled name := by simpa [hname] using he
    rfl

variable {s t} in
theorem reads_lookUp (h : s.SameClocks t) (cache : Nat) (key : CacheKey) :
    s.Reads reply? t (t.lookUp o cache key).1 := by
  obtain ⟨found, -, htrace⟩ := t.trace_lookUp o cache key
  refine .of_records htrace fun e he => ?_
  simp only [List.mem_cons, List.not_mem_nil, or_false] at he
  rcases he with rfl | rfl | rfl
  · exact h.now_eq cache
  · trivial
  · trivial

variable {s o} in
/-- A response that comes for a request is the next to come. -/
theorem head?_of_send {q : Http.Request} {response : Http.Response}
    (h : (s.send o q).2.outcome = .ok response) : s.replies.head? = some (s.send o q).2 := by
  unfold send at h ⊢
  simp only at h ⊢
  split at h
  · rename_i hreach
    rw [if_pos hreach]
    split at h
    · cases h
    · rename_i reply replies hreplies
      change s.replies = reply :: replies at hreplies
      simp [hreplies]
  · cases h

end State

namespace Stage

variable (g : Stage) (c : Caller) {s t : State} {reply? : Option Reply}

theorem reads_finish (s t : State) (reply? : Option Reply) (result : Except Error AccessToken) :
    s.Reads reply? t (g.finish c t result).1 :=
  .of_uncached (g.trace_finish c t result) (by simp [Operation.closing, Event.isCaching])

variable {g} in
/-- A stage keeps its token when its reply has passed. -/
theorem reads_pollReply {reply : Reply} (h : ∀ r selector, g = .managed r selector → s.SameClocks t ∧
      ∀ token, g.conclude reply.slot reply.outcome = .ok token → reply? = some reply) :
    s.Reads reply? t (g.pollReply c t reply).1 := by
  unfold pollReply
  split
  · exact .of_trace_eq rfl
  · simp only
    have hpassed := s.reads_passing t reply? (g.origin c) reply
    split
    · have hsettled : s.Reads reply? (t.passing (g.origin c) reply)
          ((t.passing (g.origin c) reply).record (g.origin c) (.settled reply.slot reply.outcome)) :=
        .of_uncached (show _ = _ ++ (g.origin c).records [.settled reply.slot reply.outcome] from rfl)
          (by simp [Event.isCaching])
      refine hpassed.trans (hsettled.trans (.trans ?_ (g.reads_finish c s _ reply? _)))
      unfold keep
      split
      · rename_i r selector token hresult
        obtain ⟨hsame, hreply⟩ := h r selector rfl
        refine .of_records (show _ = _ ++ ((managed r selector).origin c).records
          [.stored r.cache selector.cacheKey token _] from rfl) fun e he => ?_
        obtain rfl := List.mem_singleton.1 he
        exact ⟨reply, hreply token hresult, (hsame.passing _ _ reply).now_eq r.cache⟩
      · exact .of_trace_eq rfl
    · exact hpassed

variable {g} in
theorem reads_pollPermit (h : ∀ r selector, g = .managed r selector →
      s.SameClocks t ∧ reply? = t.replies.head?) (request : Except Http.Fault Http.Request) :
    s.Reads reply? t (g.pollPermit c t request).1 := by
  unfold pollPermit
  split
  · exact g.reads_finish c s t reply? _
  · split
    · exact .of_trace_eq rfl
    · rename_i u hp
      have htaken := s.reads_of_takePermit? t reply? (g.origin c) hp
      have hsame := State.sameClocks_of_takePermit? hp
      have hreplies : u.replies = t.replies := by
        obtain ⟨n, -, rfl⟩ := State.eq_of_takePermit? hp
        rfl
      cases request with
      | error fault => exact htaken.trans (g.reads_finish c s u reply? _)
      | ok q =>
        have hsent : s.Reads reply? u (u.send (g.origin c) q).1 :=
          .of_uncached (u.trace_send (g.origin c) q) (by simp [Event.isCaching])
        refine htaken.trans (hsent.trans (reads_pollReply c fun r selector hg => ?_))
        obtain ⟨hclocks, hreply⟩ := h r selector hg
        refine ⟨(hclocks.trans hsame).trans (u.sameClocks_send _ q), fun token htoken => ?_⟩
        obtain ⟨response, hresponse⟩ := exists_response_of_conclude htoken
        rw [hreply, ← hreplies]
        exact State.head?_of_send hresponse

variable {g} in
theorem reads_enter (h : ∀ r selector, g = .managed r selector →
      s.SameClocks t ∧ reply? = t.replies.head?) : s.Reads reply? t (g.enter c t).1 := by
  unfold enter
  split
  · exact g.reads_finish c s t reply? _
  · exact reads_pollPermit c h _

variable {g} in
/-- A stage looks into its cache when it is polled first. -/
theorem reads_start (h : ∀ r selector, g = .managed r selector →
      s.SameClocks t ∧ reply? = t.replies.head?) : s.Reads reply? t (g.start c t).1 := by
  obtain ⟨u, hu⟩ : ∃ u, u = t.signal (g.origin c) [.began g.operation, .counted g.operation .attempt] :=
    ⟨_, rfl⟩
  have hbegun : s.Reads reply? t u := hu ▸ s.reads_signal t reply? (g.origin c) _
  have hlooked : s.Reads reply? u (g.lookUp c u).1 ∧ ∀ r selector, g = .managed r selector →
      s.SameClocks (g.lookUp c u).1 ∧ reply? = (g.lookUp c u).1.replies.head? := by
    cases g with
    | managed r selector =>
      obtain ⟨hsame, hreply⟩ := h r selector rfl
      have hclocks : s.SameClocks u := hu ▸ hsame.trans (t.sameClocks_signal _ _)
      refine ⟨State.reads_lookUp reply? _ hclocks _ _, fun _ _ _ => ⟨?_, ?_⟩⟩
      · exact hclocks.trans (u.sameClocks_lookUp _ _ _)
      · have hreplies : ((managed r selector).lookUp c u).1.replies = t.replies := by
          show (State.signal _ _ _).replies = _
          rw [State.signal_eq, hu, State.signal_eq]
          rfl
        rw [hreplies, hreply]
    | workload r client tenant => exact ⟨.of_trace_eq rfl, fun _ _ hg => Stage.noConfusion hg⟩
    | exchange x token tenant host => exact ⟨.of_trace_eq rfl, fun _ _ hg => Stage.noConfusion hg⟩
  obtain ⟨hlooked, hafter⟩ := hlooked
  unfold start
  simp only [← hu]
  cases hlook : g.lookUp c u with
  | mk v served =>
    rw [hlook] at hlooked hafter
    cases served with
    | some token => exact hbegun.trans (hlooked.trans (g.reads_finish c s v reply? _))
    | none =>
      simp only
      split
      · exact hbegun.trans hlooked
      · exact hbegun.trans (hlooked.trans (reads_enter c hafter))

/-- The reply that a poll of a stage takes in: the one that is under way for it, or the next to come. -/
def incoming? (s : State) : Progress → Option Reply
  | .flying reply => some reply
  | _ => s.replies.head?

theorem reads_resume (s : State) (p : Progress) : s.Reads (incoming? s p) s (g.resume c s p).1 := by
  cases p with
  | reading =>
    show s.Reads _ s (if s.slowFiles = true then _ else _ : State × Turn).1
    split
    · exact .of_trace_eq rfl
    · exact reads_enter c fun _ _ _ => ⟨.refl s, rfl⟩
  | waiting request => exact reads_pollPermit c (fun _ _ _ => ⟨.refl s, rfl⟩) request
  | flying reply =>
    show s.Reads _ s (if s.isCancelled c.name = true then _ else _ : State × Turn).1
    split
    · exact g.reads_finish c s s _ _
    · exact reads_pollReply c fun _ _ _ => ⟨.refl s, fun _ _ => rfl⟩
  | hung =>
    show s.Reads _ s (if s.isCancelled c.name = true then _ else _ : State × Turn).1
    split
    · exact g.reads_finish c s s _ _
    · exact .of_trace_eq rfl

end Stage

namespace Call

section Phases

variable (c : Caller) (s t : State) (reply? : Option Reply)

theorem reads_finish (op : Operation) (result : Except Error AccessToken) :
    s.Reads reply? t (finish c t op result).1 :=
  .of_uncached (trace_finish t op result) (by simp [Operation.closing, Event.isCaching])

theorem reads_last (purpose : Purpose) (g : Stage) (turn : Turn) :
    s.Reads reply? t (last c purpose g (t, turn)).1 := by
  cases turn with
  | going p => exact .of_trace_eq rfl
  | ended result =>
    cases purpose with
    | result => exact .of_trace_eq rfl
    | retrieval op x tenant host => exact reads_finish c s t reply? op result
    | exchange op => exact reads_finish c s t reply? op result

theorem reads_proceed (purpose : Purpose) (g : Stage) (turn : Turn) :
    s.Reads reply? t (proceed c purpose g (t, turn)).1 := by
  cases purpose with
  | result => exact reads_last c s t reply? .result g turn
  | exchange op => exact reads_last c s t reply? (.exchange op) g turn
  | retrieval op x tenant host =>
    cases turn with
    | going p => exact reads_last c s t reply? (.retrieval op x tenant host) g _
    | ended result =>
      cases result with
      | error e => exact reads_last c s t reply? (.retrieval op x tenant host) g _
      | ok token =>
        -- An exchange uses no cache, so it does not matter what the clocks show by then.
        have hstart : s.Reads reply? t ((exchangeStage x tenant host token).start c t).1 :=
          Stage.reads_start c fun _ _ hg => Stage.noConfusion hg
        exact hstart.trans (reads_last c s _ reply? (.exchange op) _ _)

theorem reads_acquire (bucket : Nat) (waiting : Phase) (refused : Error → Phase)
    (granted : State → State × Phase) (h : ∀ u, s.Reads reply? u (granted u).1) :
    s.Reads reply? t (acquire c t bucket waiting refused granted).1 := by
  unfold acquire
  split
  · exact .of_trace_eq rfl
  · split
    · exact .of_trace_eq rfl
    · rename_i u hp
      exact (s.reads_of_takePermit? t reply? c.plain hp).trans (h u)

theorem reads_start (command : Command) : s.Reads s.replies.head? s (start c s command).1 := by
  have hstage (g : Stage) : s.Reads s.replies.head? s (g.start c s).1 :=
    Stage.reads_start c fun _ _ _ => ⟨.refl s, rfl⟩
  cases command with
  | stage g => exact (hstage g).trans (reads_proceed c s _ _ .result g _)
  | exchangeByClaims x token host =>
    cases ht : token.tenant with
    | error fault =>
      simp only [start, ht]
      exact .of_trace_eq rfl
    | ok tenant =>
      simp only [start, ht]
      exact (hstage (.exchange x token (some tenant) host)).trans (reads_proceed c s _ _ .result _ _)
  | authorize a credential host =>
    show s.Reads _ s (authorize c s a credential host).1
    unfold authorize
    simp only
    have hbegun := s.reads_signal s s.replies.head? (c.within (operationOf credential))
      [.began (operationOf credential), .counted (operationOf credential) .attempt]
    have hsame := s.sameClocks_signal (c.within (operationOf credential))
      [.began (operationOf credential), .counted (operationOf credential) .attempt]
    split
    · exact hbegun.trans (reads_finish c s _ _ _ _)
    · rename_i g _
      refine hbegun.trans (.trans ?_ (reads_proceed c s _ _ _ g _))
      refine Stage.reads_start c fun _ _ _ => ⟨hsame, ?_⟩
      rw [State.signal_eq]
  | permit bucket => exact reads_acquire c s s _ bucket _ _ _ fun _ => .of_trace_eq rfl
  | throttle bucket work =>
    refine reads_acquire c s s _ bucket _ _ _ fun u => ?_
    show s.Reads _ u (if work.cancels = true then u.cancel c.plain c.name else u)
    split
    · exact s.reads_cancel u _ c.plain c.name
    · exact .of_trace_eq rfl
  | cancel => exact s.reads_cancel s _ c.plain c.name
  | refuse fault => exact .of_trace_eq rfl

end Phases

/-- The reply that a poll of a call takes in for its first stage. -/
def incoming? (s : State) (c : Call) : Option Reply :=
  match c.phase with
  | .running _ _ progress => Stage.incoming? s progress
  | _ => s.replies.head?

/-- In a poll a cache is looked into at what its clock shows, and a token is stored at what it shows when the
reply has passed. -/
theorem reads_poll (s : State) (c : Call) : s.Reads (c.incoming? s) s (c.poll s).1 := by
  obtain ⟨caller, phase⟩ := c
  cases phase with
  | ready command => exact reads_start caller s command
  | running purpose g progress =>
    exact (g.reads_resume caller s progress).trans (reads_proceed caller s _ _ purpose g _)
  | working ending =>
    unfold poll
    simp only
    split <;> exact .of_trace_eq rfl
  | done result => exact .of_trace_eq rfl

end Call

/-! ## 3. Readings of runs -/

/-- Whether a move sets the clocks. -/
def Move.isSetting : Move → Bool
  | .clocks .. => true
  | _ => false

namespace State

/-- Effects leave the machine's clock alone, and the caches with the clocks that they read. -/
theorem Effect.clocks_eq {c : Caller} {s t : State} (h : Effect c s t) :
    t.machine = s.machine ∧ ∀ cache, (t.caches cache).clock = (s.caches cache).clock := by
  cases h with
  | noted ho he => exact ⟨rfl, fun _ => rfl⟩
  | granted ho hc hp =>
    have hsame := sameClocks_of_takePermit? hp
    exact ⟨hsame.machine, hsame.read⟩
  | @dispatched u o bucket q ho hc hp =>
    have hsame := (sameClocks_of_takePermit? hp).trans (u.sameClocks_send o q)
    exact ⟨hsame.machine, hsame.read⟩
  | moved => exact ⟨rfl, fun _ => rfl⟩
  | cancelled ho => exact ⟨rfl, fun _ => rfl⟩
  | looked ho => exact ⟨rfl, (s.sameClocks_setTokens _ _).read⟩
  | stored ho => exact ⟨rfl, (s.sameClocks_setTokens _ _).read⟩

end State

namespace Traffic

/-- The machine's clock shows what it was set to last, and so does the hand-set clock until a poll, where a
reply may move it; a cache reads the same clock all along. -/
theorem clocks_run (w : Traffic) (clock machine : Instant) {ms : List Move}
    (h : ∀ m ∈ ms, m.isSetting = false) :
    (w.run (.clocks clock machine :: ms)).state.machine = machine ∧
      ((∀ i, .poll i ∉ ms) → (w.run (.clocks clock machine :: ms)).state.clock = clock) ∧
      ∀ cache, ((w.run (.clocks clock machine :: ms)).state.caches cache).clock =
        (w.state.caches cache).clock := by
  induction ms using List.reverseRecOn with
  | nil => exact ⟨rfl, fun _ => rfl, fun _ => rfl⟩
  | append_singleton ms m ih =>
    obtain ⟨hmachine, hclock, hread⟩ := ih fun m' hm' => h m' (List.mem_append_left _ hm')
    rw [← List.cons_append, run_append]
    generalize w.run (.clocks clock machine :: ms) = v at hmachine hclock hread ⊢
    have hunset := h m (List.mem_append_right _ (List.mem_singleton_self m))
    have hearlier : (∀ i, .poll i ∉ ms ++ [m]) → v.state.clock = clock :=
      fun hnone => hclock fun i hi => hnone i (List.mem_append_left _ hi)
    cases m with
    | poll i =>
      have hpolled : (v.run [.poll i]).state.machine = v.state.machine ∧
          ∀ cache, ((v.run [.poll i]).state.caches cache).clock = (v.state.caches cache).clock := by
        rcases v.effects_poll i with hsame | ⟨c, -, heffects⟩
        · exact ⟨congrArg State.machine hsame, fun cache => by rw [show (v.run [.poll i]).state = _ from hsame]⟩
        · refine heffects.keep (P := fun t => t.machine = v.state.machine ∧
            ∀ cache, (t.caches cache).clock = (v.state.caches cache).clock) (fun _ _ he ht => ?_)
            ⟨rfl, fun _ => rfl⟩
          obtain ⟨hmachine', hread'⟩ := he.clocks_eq
          exact ⟨hmachine'.trans ht.1, fun cache => (hread' cache).trans (ht.2 cache)⟩
      refine ⟨hpolled.1.trans hmachine, fun hnone => ?_, fun cache => (hpolled.2 cache).trans (hread cache)⟩
      exact absurd (List.mem_append_right ms (List.mem_singleton_self _)) (hnone i)
    | clocks clock' machine' => cases hunset
    | sweep cache =>
      exact ⟨hmachine, hearlier, fun cache' => ((v.state.sameClocks_setTokens cache _).read cache').trans
        (hread cache')⟩
    | call name command => exact ⟨hmachine, hearlier, hread⟩
    | files files slow => exact ⟨hmachine, hearlier, hread⟩

/-- Whether a record was made behind others in a run, in a poll of its call, with an instant that was read
then. -/
def IsRead (s : State) (ms : List Move) (trace : List Record) (r : Record) : Prop :=
  ∃ before after c, ms = before ++ .poll r.origin.call :: after ∧
    ((ofState s).run before).calls[r.origin.call]? = some c ∧
    ((ofState s).run before).state.trace <+: trace ∧
    trace ++ [r] <+: ((ofState s).run (before ++ [.poll r.origin.call])).state.trace ∧
    r.event.IsReadIn ((ofState s).run before).state (c.incoming? ((ofState s).run before).state) r.origin

variable {s : State} {ms : List Move}

theorem IsRead.append {trace : List Record} {r : Record} (h : IsRead s ms trace r) (m : Move) :
    IsRead s (ms ++ [m]) trace r := by
  obtain ⟨before, after, c, rfl, hrest⟩ := h
  exact ⟨before, after ++ [m], c, by simp, hrest⟩

/-- What a move records it records of the call that it polls. -/
theorem exists_read_step (w : Traffic) (m : Move) :
    ∃ new, (w.step m).state.trace = w.state.trace ++ new ∧ ∀ r ∈ new, ∃ i c, m = .poll i ∧
      w.calls[i]? = some c ∧ r.origin.call = c.caller.call ∧
      r.event.IsReadIn w.state (c.incoming? w.state) r.origin := by
  have hnothing (h : (w.step m).state.trace = w.state.trace) : (w.step m).state.trace = w.state.trace ++ [] := by
    rw [h, List.append_nil]
  cases m with
  | poll i =>
    cases hi : w.calls[i]? with
    | none =>
      refine ⟨[], hnothing ?_, fun r hr => absurd hr List.not_mem_nil⟩
      rw [step_poll_of_none hi]
    | some c =>
      obtain ⟨new, htrace, hread⟩ := c.reads_poll w.state
      rw [step_poll_of_some hi]
      exact ⟨new, htrace, fun r hr => ⟨i, c, rfl, hi, Call.own_of_poll htrace r hr, hread r hr⟩⟩
  | _ => exact ⟨[], hnothing rfl, fun r hr => absurd hr List.not_mem_nil⟩

/-- Every record of a run was read. -/
theorem isRead_of_split (htrace : s.trace = []) {before after : List Record} {r : Record}
    (hsplit : ((ofState s).run ms).state.trace = before ++ r :: after) : IsRead s ms before r := by
  induction ms using List.reverseRecOn generalizing after with
  | nil =>
    change s.trace = _ at hsplit
    rw [htrace] at hsplit
    simp at hsplit
  | append_singleton ms m ih =>
    obtain ⟨new, hnew, hread⟩ := ((ofState s).run ms).exists_read_step m
    have hrun : (ofState s).run (ms ++ [m]) = ((ofState s).run ms).step m := run_append _ _ _
    rw [hrun, hnew] at hsplit
    rcases split_append hsplit with ⟨gap, hbefore, hgap⟩ | ⟨more, hold⟩
    · obtain ⟨i, c, rfl, hc, hcall, hinstant⟩ := hread r (by simp [hgap])
      obtain rfl : r.origin.call = i := hcall.trans ((recorded_run htrace ms).call_eq hc)
      refine ⟨ms, [], c, rfl, hc, ?_, ?_, hinstant⟩
      · rw [hbefore]
        exact List.prefix_append _ _
      · rw [hrun, hnew, hbefore, hgap]
        exact ⟨after, by simp⟩
    · exact (ih hold).append m

end Traffic

end RegistryAuth
