import RegistryAuth.Proofs.Broker.Omissions
import RegistryAuth.Proofs.Broker.Permits

/-!
# Cancellation

A name that is cancelled stays so, and no call under it takes a permit or sends a request any more.  A call
that is not polled before fails, or is served from a cache.  `CancellationAccounted` puts together what
holds of cancelled calls after every run, and what holds of the others: a call that waited in vain might as
well not have been polled again, or not have been made at all.
-/

namespace RegistryAuth

/-! ## 1. What is cancelled spends nothing -/

namespace State

theorem cancelled_of_takePermit? {s t : State} {o : Origin} {bucket : Nat}
    (h : s.takePermit? o bucket = some t) : t.cancelled = s.cancelled := by
  obtain ⟨n, -, rfl⟩ := eq_of_takePermit? h
  rfl

theorem cancelled_send (s : State) (o : Origin) (q : Http.Request) :
    (s.send o q).1.cancelled = s.cancelled := by
  obtain ⟨replies, h⟩ := s.fst_send o q
  rw [h]
  rfl

/-- By the names of calls: a name is cancelled if it was so at first or if it was recorded to be, and no
call under it spends anything from then on. -/
structure Final (names : Nat → Option String) (first : List String) (s : State) : Prop where
  mem_cancelled_iff : ∀ name, name ∈ s.cancelled ↔
    name ∈ first ∨ ∃ o, ⟨o, .cancelled name⟩ ∈ s.trace
  recorded : s.trace.Pairwise fun r t => ∀ name, r.event = .cancelled name →
    t.event.isSpending = true → names t.origin.call ≠ some name
  given : ∀ r ∈ s.trace, r.event.isSpending = true → ∀ name ∈ first,
    names r.origin.call ≠ some name

namespace Final

variable {names : Nat → Option String} {first : List String} {s t : State}

theorem append {r : Record} (h : s.Final names first) (htrace : t.trace = s.trace ++ [r])
    (hcancelled : ∀ name, name ∈ t.cancelled ↔ name ∈ s.cancelled ∨ r.event = .cancelled name)
    (hspends : r.event.isSpending = true → ∀ name ∈ s.cancelled, names r.origin.call ≠ some name) :
    t.Final names first where
  mem_cancelled_iff name := by
    rw [hcancelled, h.mem_cancelled_iff, htrace, or_assoc]
    refine or_congr_right ⟨?_, ?_⟩
    · rintro (⟨o, ho⟩ | hr)
      · exact ⟨o, List.mem_append_left _ ho⟩
      · exact ⟨r.origin, List.mem_append_right _ (List.mem_singleton.2 (hr ▸ rfl))⟩
    · rintro ⟨o, ho⟩
      rcases List.mem_append.1 ho with ho | ho
      · exact .inl ⟨o, ho⟩
      · exact .inr (List.mem_singleton.1 ho ▸ rfl)
  recorded := by
    rw [htrace]
    refine List.pairwise_append.2 ⟨h.recorded, List.pairwise_singleton _ _, fun x hx y hy => ?_⟩
    obtain rfl := List.mem_singleton.1 hy
    intro name hname hy
    -- What was recorded to be cancelled is so when the new record is made.
    exact hspends hy name ((h.mem_cancelled_iff name).2 (.inr ⟨x.origin, hname ▸ hx⟩))
  given x hx hspending name hname := by
    rw [htrace] at hx
    rcases List.mem_append.1 hx with hx | hx
    · exact h.given x hx hspending name hname
    · obtain rfl := List.mem_singleton.1 hx
      exact hspends hspending name ((h.mem_cancelled_iff name).2 (.inl hname))

theorem append_of_cancelled {o : Origin} {e : Event} (h : s.Final names first)
    (htrace : t.trace = s.trace ++ [⟨o, e⟩]) (hcancelled : t.cancelled = s.cancelled)
    (he : ∀ name, e ≠ .cancelled name)
    (hspends : e.isSpending = true → ∀ name ∈ s.cancelled, names o.call ≠ some name) :
    t.Final names first :=
  h.append htrace (fun name => by simp [hcancelled, he name]) hspends

/-- What a poll does one after the other leaves what is cancelled without permits and requests. -/
theorem effect {c : Caller} (hname : names c.call = some c.name) (he : Effect c s t)
    (h : s.Final names first) : t.Final names first := by
  have hspends : ∀ {o : Origin}, o.call = c.call → s.isCancelled c.name = false →
      ∀ name ∈ s.cancelled, names o.call ≠ some name := by
    intro o ho hc name hmem heq
    rw [ho, hname] at heq
    obtain rfl := Option.some.inj heq
    simp [isCancelled, hmem] at hc
  cases he with
  | @noted o e ho he =>
    refine h.append_of_cancelled (o := o) (e := e) rfl rfl (fun name hname => ?_) fun hspending => ?_
    · rw [hname] at he
      exact Bool.noConfusion he
    · cases e <;> simp_all [Event.isNote, Event.isSpending]
  | granted ho hc hp =>
    exact h.append_of_cancelled (trace_of_takePermit? hp) (cancelled_of_takePermit? hp)
      (fun _ => Event.noConfusion) fun _ => hspends ho hc
  | dispatched ho hc hp =>
    -- A request is two records, that of its permit and its own.
    have hgranted := h.append_of_cancelled (trace_of_takePermit? hp) (cancelled_of_takePermit? hp)
      (fun _ => Event.noConfusion) fun _ => hspends ho hc
    refine hgranted.append_of_cancelled (trace_send _ _ _) (cancelled_send _ _ _)
      (fun _ => Event.noConfusion) fun _ => ?_
    rw [cancelled_of_takePermit? hp]
    exact hspends ho hc
  | moved => exact ⟨h.mem_cancelled_iff, h.recorded, h.given⟩
  | @cancelled o name ho =>
    refine h.append (r := ⟨o, .cancelled name⟩) rfl (fun name' => ?_) Bool.noConfusion
    show name' ∈ name :: s.cancelled ↔ _
    rw [List.mem_cons, or_comm, eq_comm, Event.cancelled.injEq]
  | looked ho => exact h.append_of_cancelled rfl rfl (fun _ => Event.noConfusion) Bool.noConfusion
  | stored ho => exact h.append_of_cancelled rfl rfl (fun _ => Event.noConfusion) Bool.noConfusion

end Final

end State

namespace Traffic

/-- After every run nothing was spent under a name since it was cancelled. -/
theorem final_run {s : State} (hs : s.trace = []) (ms : List Move) (names : Nat → Option String)
    (hnames : ∀ (i : Nat) made, (Move.made ms)[i]? = some made → names i = some made.1) :
    ((ofState s).run ms).state.Final names s.cancelled := by
  induction ms using List.reverseRecOn with
  | nil =>
    refine ⟨fun name => ?_, ?_, ?_⟩
    · show name ∈ s.cancelled ↔ name ∈ s.cancelled ∨ ∃ o, ⟨o, .cancelled name⟩ ∈ s.trace
      simp [hs]
    · show s.trace.Pairwise _
      rw [hs]
      exact .nil
    · intro r hr
      change r ∈ s.trace at hr
      simp [hs] at hr
  | append_singleton ms m ih =>
    have h := ih fun i made hi => by
      refine hnames i made ?_
      rw [made_append, List.getElem?_append_left (List.getElem?_eq_some_iff.1 hi).1]
      exact hi
    rw [run_append]
    cases m with
    | poll i =>
      show (((ofState s).run ms).step (.poll i)).state.Final names s.cancelled
      rcases effects_poll _ i with hsame | ⟨c, hi, heffects⟩
      · rwa [hsame]
      · -- The name under which a call was made is that of its caller.
        obtain ⟨name, command, hmade, hcaller, -⟩ := (recorded_run hs ms).of_calls hi
        have hname : names c.caller.call = some c.caller.name := by
          rw [hcaller]
          refine hnames i (name, command) ?_
          rw [made_append]
          exact (List.getElem?_append_left (List.getElem?_eq_some_iff.1 hmade).1).trans hmade
        exact heffects.keep (fun _ _ he h => h.effect hname he) h
    | _ => exact ⟨h.mem_cancelled_iff, h.recorded, h.given⟩

end Traffic

namespace State

theorem Effect.cancelled_subset {c : Caller} {s t : State} (h : Effect c s t) :
    s.cancelled ⊆ t.cancelled := by
  cases h with
  | granted ho hc hp => exact (cancelled_of_takePermit? hp).symm ▸ List.Subset.refl _
  | dispatched ho hc hp =>
    rw [cancelled_send, cancelled_of_takePermit? hp]
    exact List.Subset.refl _
  | cancelled ho => exact List.subset_cons_self _ _
  | _ => exact List.Subset.refl _

theorem Effects.isCancelled {c : Caller} {s t : State} (h : Effects c s t) {name : String}
    (hc : s.isCancelled name = true) : t.isCancelled name = true :=
  h.keep (P := fun t => t.isCancelled name = true)
    (fun _ _ he hs => List.contains_iff_mem.2 (he.cancelled_subset (List.contains_iff_mem.1 hs))) hc

end State

theorem Traffic.isCancelled_step {w : Traffic} {name : String}
    (h : w.state.isCancelled name = true) (m : Move) : (w.step m).state.isCancelled name = true := by
  cases m with
  | poll i =>
    rcases w.effects_poll i with hsame | ⟨c, -, heffects⟩
    · rwa [hsame]
    · exact heffects.isCancelled h
  | _ => exact h

/-! ## 2. Stages that were told to end -/

namespace Stage

variable {g : Stage} {es : List Event} {turn : Turn}

/-- A stage that ends with a cancellation had its permit. -/
theorem Asked.granted_of_cancelled (h : g.Asked es (.ended (.error .cancelled))) :
    [.permit g.bucket, .ended (.error .cancelled)].Sublist es := by
  cases h with
  | refused hp => exact absurd (isInput_of_prepare hp) Bool.noConfusion
  | @unmade _ fault _ hp he =>
    have hanswer : ((Workload.notMade fault).error none).isAnswer = true := rfl
    rw [he] at hanswer
    exact Bool.noConfusion hanswer
  | settled hp hr => exact absurd (isAnswer_of_conclude hr) Bool.noConfusion
  | abandoned hp ht =>
    refine .cons_cons _ (List.singleton_sublist.2 ?_)
    simp [Operation.closing]

theorem Course.granted_of_cancelled (h : g.Course es (.ended (.error .cancelled))) :
    [.permit g.bucket, .ended (.error .cancelled)].Sublist es := by
  cases h with
  | missed hf ha => exact ha.granted_of_cancelled.trans (List.sublist_append_right _ _)

/-! ## 3. Stages that begin cancelled -/

/-- Whether an entry of its cache serves a stage. -/
def IsLive (g : Stage) (s : State) (e : CacheEntry) : Prop :=
  ∃ r selector, g = .managed r selector ∧ (s.tokens r.cache).find? selector.cacheKey = some e ∧
    e.isValidAt (s.now r.cache) = true

theorem isLive_of_lookUp {c : Caller} {s t : State} {token : AccessToken}
    (h : g.lookUp c s = (t, some token)) : ∃ e, g.IsLive s e ∧ e.token = token := by
  cases g with
  | managed r selector =>
    have hserved : (s.tokens r.cache).served? (s.now r.cache) selector.cacheKey = some token :=
      congrArg Prod.snd h
    obtain ⟨e, he, htoken⟩ := Option.map_eq_some_iff.1 hserved
    obtain ⟨hfind, hvalid⟩ := Option.filter_eq_some_iff.1 he
    exact ⟨e, ⟨r, selector, rfl, hfind, hvalid⟩, htoken⟩
  | workload r client tenant => simp [lookUp] at h
  | exchange x token' tenant host => simp [lookUp] at h

theorem isLive_signal (s : State) (o : Origin) (signals : List Signal) (e : CacheEntry) :
    g.IsLive (s.signal o signals) e ↔ g.IsLive s e := by
  rw [State.signal_eq]
  exact Iff.rfl

theorem slowFiles_lookUp (g : Stage) (c : Caller) (s : State) :
    (g.lookUp c s).1.slowFiles = s.slowFiles := by
  cases g with
  | managed r selector =>
    show (State.signal _ _ _).slowFiles = _
    rw [State.signal_eq]
    rfl
  | workload r client tenant => rfl
  | exchange x token tenant host => rfl

variable (g) (c : Caller) {s : State} (hc : s.isCancelled c.name = true)
include hc

theorem enter_of_isCancelled : ∃ e, (g.enter c s).2 = .ended (.error e) := by
  unfold enter
  split
  · exact ⟨_, rfl⟩
  · unfold pollPermit
    rw [if_pos hc]
    exact ⟨_, rfl⟩

/-- Where a stage can stand after its first poll if its call was cancelled before. -/
theorem start_of_isCancelled :
    (g.readsFile = true ∧ s.slowFiles = true ∧ (g.start c s).2 = .going .reading) ∨
      (∃ e, (g.start c s).2 = .ended (.error e)) ∨
      ∃ e, g.IsLive s e ∧ (g.start c s).2 = .ended (.ok e.token) := by
  obtain ⟨s', hs'⟩ : ∃ s', s' = s.signal (g.origin c) [.began g.operation, .counted g.operation .attempt] :=
    ⟨_, rfl⟩
  have heffects : State.Effects c s (g.lookUp c s').1 :=
    hs' ▸ (State.effects_signal s rfl _).trans (g.effects_lookUp c _)
  have hslow : (g.lookUp c s').1.slowFiles = s.slowFiles := by
    rw [slowFiles_lookUp, hs', State.signal_eq]
  unfold start
  simp only [← hs']
  cases hlook : g.lookUp c s' with
  | mk t served =>
  rw [hlook] at heffects hslow
  cases served with
  | some token =>
    obtain ⟨e, hlive, rfl⟩ := isLive_of_lookUp hlook
    rw [hs', isLive_signal] at hlive
    exact .inr (.inr ⟨e, hlive, rfl⟩)
  | none =>
    simp only
    split
    · rename_i hreads
      rw [Bool.and_eq_true] at hreads
      exact .inl ⟨hreads.1, hslow ▸ hreads.2, rfl⟩
    · exact .inr (.inl (g.enter_of_isCancelled c (heffects.isCancelled hc)))

/-- An exchange does not wait for files and has no cache, so it fails at once. -/
theorem start_of_exchange (hg : g.operation = .registryExchange) :
    ∃ e, (g.start c s).2 = .ended (.error e) := by
  rcases g.start_of_isCancelled c hc with ⟨hreads, -, -⟩ | herror | ⟨e, ⟨r, selector, rfl, -, -⟩, -⟩
  · cases g with
    | workload r client tenant => exact Operation.noConfusion hg
    | _ => exact Bool.noConfusion hreads
  · exact herror
  · exact Operation.noConfusion hg

end Stage

/-! ## 4. Calls that begin cancelled -/

namespace Call

/-- Where a call can stand after its first poll if it was cancelled before: it waits for a file, or it
failed, or its cache served it. -/
inductive Barred (s : State) (command : Command) : Phase → Prop
  | reading {purpose : Purpose} {g : Stage} (hp : command.isPatient = true) (hs : s.slowFiles = true) :
    Barred s command (.running purpose g .reading)
  | failed (e : Error) : Barred s command (.done (.token (.error e)))
  | served {g : Stage} {e : CacheEntry} (hcommand : command = .stage g) (hlive : g.IsLive s e) :
    Barred s command (.done (.token (.ok e.token)))

variable (c : Caller) {s : State} {command : Command}

theorem isPatient_of_readsFile {g : Stage} (h : g.readsFile = true) :
    (Command.stage g).isPatient = true := by
  cases g with
  | workload r client tenant => rfl
  | _ => exact Bool.noConfusion h

theorem isPatient_of_retrieval? {a : Authorizer} {credential : Credential} {host : String} {g : Stage}
    (hg : retrieval? a.retriever credential = some g) (h : g.readsFile = true) :
    (Command.authorize a credential host).isPatient = true := by
  cases credential with
  | workload tenant client => rfl
  | managed selector tenant =>
    cases hr : a.retriever with
    | managed r =>
      rw [hr] at hg
      cases hg
      exact Bool.noConfusion h
    | workload r =>
      rw [hr] at hg
      simp [retrieval?] at hg

theorem snd_proceed_going (purpose : Purpose) (g : Stage) {turn : State × Turn} {p : Progress}
    (h : turn.2 = .going p) : (proceed c purpose g turn).2 = .running purpose g p := by
  obtain ⟨t, turn⟩ := turn
  obtain rfl : turn = .going p := h
  cases purpose <;> rfl

theorem snd_proceed_error (purpose : Purpose) (g : Stage) {turn : State × Turn} {e : Error}
    (h : turn.2 = .ended (.error e)) : ∃ e', (proceed c purpose g turn).2 = .done (.token (.error e')) := by
  obtain ⟨t, turn⟩ := turn
  obtain rfl : turn = .ended (.error e) := h
  obtain ⟨e', new, hproceed⟩ := proceed_error c t purpose g e
  exact ⟨e', congrArg Prod.snd hproceed⟩

/-- The exchange of a token that was served fails, since its call is cancelled. -/
theorem snd_proceed_retrieval (op : Operation) (x : Exchanger) (tenant : Option TenantId) (host : String)
    (g : Stage) {turn : State × Turn} {token : AccessToken} (hc : turn.1.isCancelled c.name = true)
    (h : turn.2 = .ended (.ok token)) :
    ∃ e, (proceed c (.retrieval op x tenant host) g turn).2 = .done (.token (.error e)) := by
  obtain ⟨t, turn⟩ := turn
  obtain rfl : turn = .ended (.ok token) := h
  obtain ⟨e, he⟩ := (exchangeStage x tenant host token).start_of_exchange c hc rfl
  show ∃ e', (last c (.exchange op) _ ((exchangeStage x tenant host token).start c t)).2 = _
  cases hstart : (exchangeStage x tenant host token).start c t with
  | mk t' turn' =>
  rw [hstart] at he
  obtain rfl : turn' = .ended (.error e) := he
  exact ⟨.operation op e, rfl⟩

theorem barred_start (hc : s.isCancelled c.name = true) (hplain : command.isPlain = false) :
    Barred s command (start c s command).2 := by
  cases command with
  | stage g =>
    show Barred s _ (proceed c .result g (g.start c s)).2
    rw [proceed_result]
    rcases g.start_of_isCancelled c hc with ⟨hreads, hslow, hturn⟩ | ⟨e, hturn⟩ | ⟨e, hlive, hturn⟩
    · rw [hturn]
      exact .reading (isPatient_of_readsFile hreads) hslow
    · rw [hturn]
      exact .failed e
    · rw [hturn]
      exact .served rfl hlive
  | exchangeByClaims x token host =>
    cases ht : token.tenant with
    | error fault =>
      simp only [start, ht]
      exact .failed _
    | ok tenant =>
      simp only [start, ht]
      obtain ⟨e, hturn⟩ := (Stage.exchange x token (some tenant) host).start_of_exchange c hc rfl
      obtain ⟨e', hphase⟩ := snd_proceed_error c .result _ hturn
      rw [hphase]
      exact .failed e'
  | authorize a credential host =>
    show Barred s _ (authorize c s a credential host).2
    unfold authorize
    simp only
    split
    · exact .failed _
    · rename_i g hg
      have hc' : (s.signal (c.within (operationOf credential)) [.began (operationOf credential),
          .counted (operationOf credential) .attempt]).isCancelled c.name = true := by
        rw [State.signal_eq]
        exact hc
      rcases g.start_of_isCancelled c hc' with ⟨hreads, hslow, hturn⟩ | ⟨e, hturn⟩ | ⟨e, -, hturn⟩
      · rw [snd_proceed_going c _ g hturn]
        refine .reading (isPatient_of_retrieval? hg hreads) ?_
        rwa [State.signal_eq] at hslow
      · obtain ⟨e', hphase⟩ := snd_proceed_error c
          (.retrieval (operationOf credential) a.exchanger (tenantOf credential) host) g hturn
        rw [hphase]
        exact .failed e'
      · obtain ⟨e', hphase⟩ := snd_proceed_retrieval c (operationOf credential) a.exchanger
          (tenantOf credential) host g ((g.effects_start c _).isCancelled hc') hturn
        rw [hphase]
        exact .failed e'
  | permit bucket => exact Bool.noConfusion hplain
  | throttle bucket work => exact Bool.noConfusion hplain
  | cancel => exact Bool.noConfusion hplain
  | refuse fault => exact Bool.noConfusion hplain

/-- A call that waits for its file goes on waiting while files are slow, and then fails. -/
theorem phase_poll_of_reading {c : Call} {purpose : Purpose} {g : Stage}
    (hphase : c.phase = .running purpose g .reading) (hc : s.isCancelled c.caller.name = true) :
    s.slowFiles = true ∧ (c.poll s).2.phase = .running purpose g .reading ∨
      ∃ e, (c.poll s).2.phase = .done (.token (.error e)) := by
  obtain ⟨c, phase⟩ := c
  obtain rfl : phase = .running purpose g .reading := hphase
  show _ ∧ (proceed c purpose g (if s.slowFiles then (s, .going .reading) else g.enter c s)).2 = _ ∨
    ∃ e, (proceed c purpose g (if s.slowFiles then (s, .going .reading) else g.enter c s)).2 = _
  split
  · rename_i hslow
    exact .inl ⟨hslow, snd_proceed_going c purpose g rfl⟩
  · obtain ⟨e, hturn⟩ := g.enter_of_isCancelled c hc
    exact .inr (snd_proceed_error c purpose g hturn)

end Call

namespace Traffic

/-- Where a call that was made under a cancelled name stands after more moves: it was not polled, or waits
for a file that was slow at each poll, or it failed, or its cache held a live token for it when it was
polled first. -/
inductive Barred (w : Traffic) (i : Nat) (command : Command) (after : List Move) : Phase → Prop
  | unpolled (h : .poll i ∉ after) : Barred w i command after (.ready command)
  | reading {purpose : Purpose} {g : Stage} (hp : command.isPatient = true)
    (hslow : ∀ before later, after = before ++ .poll i :: later →
      (w.run before).state.slowFiles = true) : Barred w i command after (.running purpose g .reading)
  | failed (e : Error) : Barred w i command after (.done (.token (.error e)))
  | served {g : Stage} {e : CacheEntry} {before later : List Move} (hcommand : command = .stage g)
    (hafter : after = before ++ .poll i :: later) (hfirst : .poll i ∉ before)
    (hlive : g.IsLive (w.run before).state e) : Barred w i command after (.done (.token (.ok e.token)))

variable {w : Traffic} {i : Nat} {command : Command} {after : List Move} {phase : Phase}

/-- Other moves than its polls leave a call where it stands. -/
theorem Barred.concat {m : Move} (h : Barred w i command after phase) (hm : m ≠ .poll i) :
    Barred w i command (after ++ [m]) phase := by
  cases h with
  | unpolled hnone => exact .unpolled (by simp [hnone, hm.symm])
  | reading hp hslow =>
    refine .reading hp fun before later heq => ?_
    rcases split_concat heq with ⟨-, hlast⟩ | ⟨more, hold⟩
    · exact absurd hlast.symm hm
    · exact hslow before more hold
  | failed e => exact .failed e
  | @served g e before later hcommand hafter hfirst hlive =>
    have hmore : after ++ [m] = before ++ .poll i :: (later ++ [m]) := by simp [hafter]
    exact .served hcommand hmore hfirst hlive

/-- A poll of the call in a state where it is cancelled. -/
theorem Barred.poll {c : Call} (h : Barred w i command after c.phase) (hplain : command.isPlain = false)
    (hc : (w.run after).state.isCancelled c.caller.name = true) :
    Barred w i command (after ++ [.poll i]) (c.poll (w.run after).state).2.phase := by
  obtain ⟨caller, phase⟩ := c
  change Barred w i command after phase at h
  cases h with
  | unpolled hnone =>
    have hbarred := Call.barred_start caller hc hplain
    change Barred w i command _ (Call.start caller (w.run after).state command).2
    generalize (Call.start caller (w.run after).state command).2 = phase at hbarred ⊢
    cases hbarred with
    | reading hp hs =>
      refine .reading hp fun before later heq => ?_
      rcases split_concat heq with ⟨rfl, -⟩ | ⟨more, hold⟩
      · exact hs
      · exact absurd (hold ▸ List.mem_append_right _ List.mem_cons_self) hnone
    | failed e => exact .failed e
    | served hcommand hlive => exact .served hcommand rfl hnone hlive
  | @reading purpose g hp hslow =>
    rcases Call.phase_poll_of_reading rfl hc with ⟨hslow', hphase⟩ | ⟨e, hphase⟩
    · rw [hphase]
      refine .reading hp fun before later heq => ?_
      rcases split_concat heq with ⟨rfl, -⟩ | ⟨more, hold⟩
      · exact hslow'
      · exact hslow before more hold
    · rw [hphase]
      exact .failed e
  | failed e => exact .failed e
  | @served g e before later hcommand hafter hfirst hlive =>
    have hmore : after ++ [.poll i] = before ++ .poll i :: (later ++ [.poll i]) := by simp [hafter]
    exact .served hcommand hmore hfirst hlive

/-- A call that was not polled before its name was cancelled is barred after all further moves. -/
theorem barred_run {c : Call} (hi : w.calls[i]? = some c) (hphase : c.phase = .ready command)
    (hplain : command.isPlain = false) (hc : w.state.isCancelled c.caller.name = true)
    (after : List Move) :
    ∃ d, (w.run after).calls[i]? = some d ∧ d.caller = c.caller ∧
      (w.run after).state.isCancelled c.caller.name = true ∧ Barred w i command after d.phase := by
  induction after using List.reverseRecOn with
  | nil => exact ⟨c, hi, rfl, hc, hphase ▸ .unpolled List.not_mem_nil⟩
  | append_singleton after m ih =>
    obtain ⟨d, hd, hcaller, hcancelled, hbarred⟩ := ih
    have hlt := (List.getElem?_eq_some_iff.1 hd).1
    have hrun : w.run (after ++ [m]) = (w.run after).step m := run_append w after [m]
    rw [hrun]
    have hstill := isCancelled_step hcancelled m
    cases hm : m.isPollOf i with
    | false =>
      have hne : m ≠ .poll i := by
        rintro rfl
        simp [Move.isPollOf] at hm
      exact ⟨d, (calls_step hm hlt).trans hd, hcaller, hstill, hbarred.concat hne⟩
    | true =>
      obtain rfl := Move.eq_poll_of_isPollOf hm
      rw [step_poll_of_some hd] at hstill ⊢
      refine ⟨_, List.getElem?_set_self hlt, hcaller, hstill, hbarred.poll hplain ?_⟩
      rw [hcaller]
      exact hcancelled

end Traffic

/-! ## 5. What is known of cancellations -/

open Traffic in
/-- What is to be known of cancellations after a run. -/
structure CancellationAccounted (s : State) (ms : List Move) : Prop where
  cancelled_iff : ∀ name, name ∈ ((ofState s).run ms).state.cancelled ↔
    name ∈ s.cancelled ∨ ∃ o, ⟨o, .cancelled name⟩ ∈ ((ofState s).run ms).state.trace
  /-- Behind the record of a cancellation no call under the name takes a permit or sends a request. -/
  recorded : ((ofState s).run ms).state.trace.Pairwise fun r t => ∀ name command,
    r.event = .cancelled name → (Move.made ms)[t.origin.call]? = some (name, command) →
      t.event.isSpending = false
  /-- Under a name that was cancelled at first no call does. -/
  given : ∀ r ∈ ((ofState s).run ms).state.trace, ∀ name ∈ s.cancelled, ∀ command,
    (Move.made ms)[r.origin.call]? = some (name, command) → r.event.isSpending = false
  /-- A call for a token that is polled only after its name was cancelled fails, unless its cache served
  it; it ends with its first poll, unless it waits for a file. -/
  barred : ∀ before after, ms = before ++ after → ∀ (i : Nat) name command,
    (Move.made before)[i]? = some (name, command) → command.isPlain = false → .poll i ∉ before →
    ((ofState s).run before).state.isCancelled name = true →
    ∃ c, ((ofState s).run ms).calls[i]? = some c ∧
      Barred ((ofState s).run before) i command after c.phase
  /-- A stage that was cancelled before it had a permit took none and sent nothing. -/
  withdrawn : ∀ i (g : Stage), ⟨⟨i, some g.operation⟩, .ended (.error .rateLimitCancelled)⟩ ∈
      ((ofState s).run ms).state.trace →
    (eventsOf ⟨i, some g.operation⟩ ((ofState s).run ms).state.trace).filter Event.isSpending = []
  /-- A stage that was cancelled later had its permit. -/
  abandoned : ∀ i (g : Stage), ⟨⟨i, some g.operation⟩, .ended (.error .cancelled)⟩ ∈
      ((ofState s).run ms).state.trace →
    ∃ bucket, [⟨⟨i, some g.operation⟩, .permit bucket⟩,
      ⟨⟨i, some g.operation⟩, .ended (.error .cancelled)⟩].Sublist ((ofState s).run ms).state.trace
  /-- A call that waits for a permit, and takes none, leaves the others what they are if it is never polled
  again. -/
  unaffected : ∀ before after, ms = before ++ after → ∀ i c,
    ((ofState s).run before).calls[i]? = some c → c.phase.Waits → ∀ new,
    ((ofState s).run ms).state.trace = ((ofState s).run before).state.trace ++ new →
    (∀ o bucket, o.call = i → ⟨o, .permit bucket⟩ ∉ new) →
    Alike i ((ofState s).run ms) (((ofState s).run before).run (after.filter (!·.isPollOf i)))
  /-- A call that took no permit, cancelled nothing and found no entry past its end leaves all else as if it
  had never been made, and the others with what they have returned. -/
  unmade : ∀ before name command after, ms = before ++ .call name command :: after → ∀ i,
    i = (Move.made before).length →
    (∀ r ∈ ((ofState s).run ms).state.trace, r.origin.call = i → r.event.isFelt = false) →
    (ofState s).run (before ++ after.filterMap (Move.past? i)) = ((ofState s).run ms).without i ∧
      ∀ j, j ≠ i → ((ofState s).run (before ++ after.filterMap (Move.past? i))).result? (numberPast i j) =
        ((ofState s).run ms).result? j

namespace Traffic

variable {s : State} {ms : List Move} {w : Traffic}

theorem Recorded.course_of_ended (h : w.Recorded ms) {i : Nat} {g : Stage}
    {result : Except Error AccessToken}
    (hr : ⟨⟨i, some g.operation⟩, .ended result⟩ ∈ w.state.trace) :
    ∃ g' : Stage, g'.Course (eventsOf ⟨i, some g.operation⟩ w.state.trace) (.ended result) := by
  obtain ⟨name, command, g', turn, -, -, -, hcourse⟩ := h.course hr (.inr ⟨g, rfl⟩)
  obtain rfl := hcourse.ended_mem_iff.1 ((mem_eventsOf_iff _ _ _).2 hr)
  exact ⟨g', hcourse⟩

/-- After every run cancellations have been final, calls that began under a cancelled name have failed, and a
call that waited for a permit in vain has left the others alone. -/
theorem cancellation_is_final {s : State} (htrace : s.trace = []) (ms : List Move) :
    CancellationAccounted s ms := by
  have hrecorded := recorded_run htrace ms
  have hfinal := final_run htrace ms (fun i => ((Move.made ms)[i]?).map (·.1))
    fun i made hi => by simp [hi]
  have hspent : ∀ {e : Event} {call : Nat} {name : String} {command : Command},
      (e.isSpending = true → ((Move.made ms)[call]?).map (·.1) ≠ some name) →
      (Move.made ms)[call]? = some (name, command) → e.isSpending = false := by
    intro e call name command hnot hmade
    by_contra hspending
    exact hnot (by simpa using hspending) (by simp [hmade])
  refine ⟨hfinal.mem_cancelled_iff, ?_, ?_, ?_, ?_, ?_, ?_, ?_⟩
  · exact hfinal.recorded.imp fun hrt name command hname hmade => hspent (hrt name hname) hmade
  · exact fun r hr name hname command hmade =>
      hspent (fun hspending => hfinal.given r hr hspending name hname) hmade
  · rintro before after rfl i name command hmade hplain hunpolled hcancelled
    have hcall := calls_of_unpolled (s := s) hmade hunpolled
    obtain ⟨c, hc, -, -, hbarred⟩ := barred_run hcall rfl hplain hcancelled after
    rw [run_append]
    exact ⟨c, hc, hbarred⟩
  · intro i g hended
    obtain ⟨g', hcourse⟩ := hrecorded.course_of_ended hended
    exact hcourse.spending_of_early rfl
  · intro i g hended
    obtain ⟨g', hcourse⟩ := hrecorded.course_of_ended hended
    exact ⟨g'.bucket, sublist_of_eventsOf _ _ hcourse.granted_of_cancelled⟩
  · rintro before after rfl i c hc hwaits new hnew hnone
    rw [run_append] at hnew ⊢
    exact alike_of_waits hc ((recorded_run htrace before).call_eq hc) hwaits after hnew hnone
  · rintro before name command after rfl i hi hunfelt
    have hwithout := run_without htrace before name command after hi hunfelt
    refine ⟨hwithout, fun j hj => ?_⟩
    rw [hwithout]
    exact result?_without hj

/-- Two permits are taken; an exchange waits for a third and is cancelled; then its name is used once more for
the token that the first call has left in the cache. -/
def cancelledCalls : List Move :=
  [.call "first" (.stage (.managed Sample.retriever Sample.selector)), .poll 0,
    .call "second" (.permit 0), .poll 1,
    .call "third" (.stage (.exchange ⟨.default, 0⟩ ⟨"t"⟩ none "registry.io")), .poll 2,
    .call "third" .cancel, .poll 3, .poll 2,
    .call "third" (.stage (.managed Sample.retriever Sample.selector)), .poll 4]

/-- The last of the calls is served, though its name was cancelled before, and the one that waited was not
felt by the others. -/
theorem cancellation_of_cancelled_calls :
    ((ofState Sample.state).run cancelledCalls).token? 2 = none ∧
    ((ofState Sample.state).run cancelledCalls).token? 4 = some ⟨"t"⟩ ∧
    (∀ r ∈ ((ofState Sample.state).run cancelledCalls).state.trace, r.origin.call = 2 →
      r.event.isFelt = false) ∧
    CancellationAccounted Sample.state cancelledCalls := by
  exact ⟨by decide +kernel, by decide +kernel, by decide +kernel,
    cancellation_is_final rfl cancelledCalls⟩

end Traffic

end RegistryAuth
