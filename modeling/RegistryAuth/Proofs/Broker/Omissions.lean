import RegistryAuth.Proofs.Broker.Waiters

/-!
# Calls that are left out

Others feel a call when it takes a permit, cancels calls or takes an entry past its end out of a cache.  A
call that has done nothing of the kind might as well never have been made: `Traffic.run_without` says what
a run comes to in which it was not, where the calls behind it have numbers that are one less.
-/

namespace RegistryAuth

/-! ## 1. What others feel -/

/-- Whether others feel what a call has done. -/
def Event.isFelt : Event → Bool
  -- An entry past its end would have been found so by others, and would serve them if the clock were set back.
  | .permit _ | .cancelled _ | .signal (.lookedUp _ .expired) => true
  | _ => false

/-- Whether others feel what led from one state to another, or it was only recorded and a fact holds. -/
def State.FeltOr (s t : State) (p : Prop) : Prop :=
  ∃ new, t.trace = s.trace ++ new ∧
    ((∃ r ∈ new, r.event.isFelt = true) ∨ t = { s with trace := s.trace ++ new } ∧ p)

namespace State.FeltOr

variable {s t u : State} {p q : Prop}

theorem of_recorded {new : List Record} (ht : t = { s with trace := s.trace ++ new }) (hp : p) :
    s.FeltOr t p :=
  ⟨new, congrArg State.trace ht, .inr ⟨ht, hp⟩⟩

theorem refl (s : State) (hp : p) : s.FeltOr s p :=
  of_recorded (show s = { s with trace := s.trace ++ [] } by simp) hp

theorem of_felt {r : Record} (h : s.trace ++ [r] <+: t.trace) (hr : r.event.isFelt = true) :
    s.FeltOr t p := by
  obtain ⟨more, hmore⟩ := h
  exact ⟨r :: more, by simp [← hmore], .inl ⟨r, List.mem_cons_self, hr⟩⟩

/-- Where nothing was felt at first, others feel only what comes next. -/
theorem bind (h : s.FeltOr t p) (hgrows : t.trace <+: u.trace) (hu : p → t.FeltOr u q) : s.FeltOr u q := by
  obtain ⟨new, htrace, ⟨r, hr, hfelt⟩ | ⟨ht, hp⟩⟩ := h
  · -- What was felt stays so, whatever comes next.
    obtain ⟨more, hmore⟩ := hgrows
    refine ⟨new ++ more, by rw [← hmore, htrace, List.append_assoc], .inl ⟨r, ?_, hfelt⟩⟩
    exact List.mem_append_left _ hr
  · obtain ⟨more, hmore, hafter⟩ := hu hp
    refine ⟨new ++ more, by rw [hmore, htrace, List.append_assoc], hafter.imp ?_ ?_⟩
    · rintro ⟨r, hr, hfelt⟩
      exact ⟨r, List.mem_append_right _ hr, hfelt⟩
    · rintro ⟨hu, hq⟩
      rw [ht] at hu
      exact ⟨by simpa using hu, hq⟩

theorem trans (h : s.FeltOr t p) (hu : t.FeltOr u q) : s.FeltOr u q :=
  h.bind (hu.elim fun new hnew => ⟨new, hnew.1.symm⟩) fun _ => hu

end State.FeltOr

/-! ## 2. Calls without a permit -/

/-- Whether a stage can wait so without a permit. -/
def Progress.isBare : Progress → Bool
  | .reading | .waiting _ => true
  | .flying _ | .hung => false

def Turn.isBare : Turn → Bool
  | .going p => p.isBare
  | .ended _ => true

/-- Whether a call can have come so far without a permit. -/
def Phase.isBare : Phase → Bool
  | .running _ _ p => p.isBare
  | .working _ => false
  | .ready _ | .done _ => true

namespace State

variable (s : State) (o : Origin)

theorem feltOr_signal (signals : List Signal) : s.FeltOr (s.signal o signals) True :=
  .of_recorded (s.signal_eq o signals) trivial

theorem setTokens_self (cache : Nat) : s.setTokens cache (s.tokens cache) = s := by
  have hcaches : (fun i => if i = cache then ⟨(s.caches i).clock, s.tokens cache⟩ else s.caches i) =
      s.caches := by
    funext i
    split
    · rename_i hi
      rw [hi]
      rfl
    · rfl
  unfold setTokens
  rw [hcaches]

theorem feltOr_lookUp (cache : Nat) (key : CacheKey) : s.FeltOr (s.lookUp o cache key).1 True := by
  -- An entry is taken out just when its look-up signals that it is past its end.
  by_cases hexpired : (s.tokens cache).lookup (s.now cache) key = .expired
  · have htrace : (s.lookUp o cache key).1.trace = _ := trace_signal _ o _
    refine ⟨_, htrace.trans (List.append_assoc ..), .inl ⟨⟨o, .signal (.lookedUp key .expired)⟩, ?_, rfl⟩⟩
    refine List.mem_append_right _ (Origin.mem_records.2 ⟨rfl, ?_⟩)
    simp [TokenCache.signals, hexpired]
  · have hkept : (s.tokens cache).evict (s.now cache) key = s.tokens cache := by
      unfold TokenCache.lookup at hexpired
      unfold TokenCache.evict
      split
      · rename_i e he
        by_cases hvalid : e.isValidAt (s.now cache) = true
        · rw [if_pos hvalid]
        · simp [he, hvalid] at hexpired
      · rfl
    have hlooked : (s.setTokens cache ((s.tokens cache).evict (s.now cache) key)).record o
        (.looked cache key (s.now cache) ((s.tokens cache).served? (s.now cache) key)) =
          s.record o (.looked cache key (s.now cache) ((s.tokens cache).served? (s.now cache) key)) := by
      rw [hkept, setTokens_self]
    show s.FeltOr (signal (record _ _ _) _ _) True
    rw [hlooked]
    exact (FeltOr.of_recorded rfl trivial).trans (feltOr_signal _ _ _)

end State

namespace Stage

variable (g : Stage) (c : Caller) (s : State)

theorem feltOr_finish (result : Except Error AccessToken) :
    s.FeltOr (g.finish c s result).1 ((g.finish c s result).2.isBare = true) :=
  .of_recorded (g.fst_finish c s result) rfl

theorem feltOr_pollPermit (request : Except Http.Fault Http.Request) :
    s.FeltOr (g.pollPermit c s request).1 ((g.pollPermit c s request).2.isBare = true) := by
  by_cases hc : s.isCancelled c.name = true
  · unfold pollPermit
    rw [if_pos hc]
    exact g.feltOr_finish c s _
  · cases hp : s.takePermit? (g.origin c) g.bucket with
    | none =>
      unfold pollPermit
      rw [if_neg hc, hp]
      exact .refl s rfl
    | some t =>
      have hprefix := g.prefix_pollPermit (by simpa using hc) hp request
      rw [State.trace_of_takePermit? hp] at hprefix
      exact .of_felt hprefix rfl

theorem feltOr_enter : s.FeltOr (g.enter c s).1 ((g.enter c s).2.isBare = true) := by
  unfold enter
  split
  · exact g.feltOr_finish c s _
  · exact g.feltOr_pollPermit c s _

theorem feltOr_lookUp : s.FeltOr (g.lookUp c s).1 True := by
  cases g with
  | managed r selector => exact s.feltOr_lookUp _ _ _
  | workload r client tenant => exact .refl s trivial
  | exchange x token tenant host => exact .refl s trivial

theorem feltOr_start : s.FeltOr (g.start c s).1 ((g.start c s).2.isBare = true) := by
  have hlooked := (s.feltOr_signal (g.origin c) [.began g.operation, .counted g.operation .attempt]).trans
    (g.feltOr_lookUp c _)
  unfold start
  simp only
  split
  · rename_i t token ht
    rw [ht] at hlooked
    exact hlooked.trans (g.feltOr_finish c t _)
  · rename_i t ht
    rw [ht] at hlooked
    split
    · exact hlooked.trans (.refl t rfl)
    · exact hlooked.trans (g.feltOr_enter c t)

theorem feltOr_resume {p : Progress} (hp : p.isBare = true) :
    s.FeltOr (g.resume c s p).1 ((g.resume c s p).2.isBare = true) := by
  cases p with
  | reading =>
    simp only [resume]
    split
    · exact .refl s rfl
    · exact g.feltOr_enter c s
  | waiting request => exact g.feltOr_pollPermit c s request
  | flying reply => exact Bool.noConfusion hp
  | hung => exact Bool.noConfusion hp

end Stage

namespace Call

section Phases

variable (c : Caller) (s : State)

theorem feltOr_finish (op : Operation) (result : Except Error AccessToken) :
    s.FeltOr (finish c s op result).1 ((finish c s op result).2.isBare = true) :=
  .of_recorded (fst_finish c s op result) rfl

theorem feltOr_last (purpose : Purpose) (g : Stage) {turn : Turn} (h : turn.isBare = true) :
    s.FeltOr (last c purpose g (s, turn)).1 ((last c purpose g (s, turn)).2.isBare = true) := by
  cases turn with
  | going p => exact .refl s h
  | ended result =>
    cases purpose with
    | result => exact .refl s rfl
    | retrieval op x tenant host => exact feltOr_finish c s op result
    | exchange op => exact feltOr_finish c s op result

theorem feltOr_proceed (purpose : Purpose) (g : Stage) {turn : Turn} (h : turn.isBare = true) :
    s.FeltOr (proceed c purpose g (s, turn)).1 ((proceed c purpose g (s, turn)).2.isBare = true) := by
  cases purpose with
  | result => exact feltOr_last c s .result g h
  | exchange op => exact feltOr_last c s (.exchange op) g h
  | retrieval op x tenant host =>
    cases turn with
    | going p => exact feltOr_last c s (.retrieval op x tenant host) g h
    | ended result =>
      cases result with
      | error e => exact feltOr_last c s (.retrieval op x tenant host) g h
      | ok token =>
        -- The token was served, so the exchange is the first to want a permit.
        exact ((exchangeStage x tenant host token).feltOr_start c s).bind
          (effects_last c _ _ _ _).trace_grows (feltOr_last c _ _ _)

/-- A call goes on after a stage as long as it goes on without a permit. -/
theorem feltOr_advance {t : State} (purpose : Purpose) (g : Stage) {turn : State × Turn}
    (h : t.FeltOr turn.1 (turn.2.isBare = true)) :
    t.FeltOr (proceed c purpose g turn).1 ((proceed c purpose g turn).2.isBare = true) :=
  h.bind (effects_proceed c purpose g turn.1 turn.2).trace_grows (feltOr_proceed c turn.1 purpose g)

theorem feltOr_authorize (a : Authorizer) (credential : Credential) (host : String) :
    s.FeltOr (authorize c s a credential host).1
      ((authorize c s a credential host).2.isBare = true) := by
  have hbegun := s.feltOr_signal (c.within (operationOf credential))
    [.began (operationOf credential), .counted (operationOf credential) .attempt]
  unfold authorize
  simp only
  split
  · exact hbegun.trans (feltOr_finish c _ _ _)
  · rename_i g _
    exact hbegun.trans (feltOr_advance c _ g (g.feltOr_start c _))

theorem feltOr_acquire (bucket : Nat) {waiting : Phase} {refused : Error → Phase}
    {granted : State → State × Phase} (hwaiting : waiting.isBare = true)
    (hrefused : ∀ e, (refused e).isBare = true) (hgranted : ∀ t, t.trace <+: (granted t).1.trace) :
    s.FeltOr (acquire c s bucket waiting refused granted).1
      ((acquire c s bucket waiting refused granted).2.isBare = true) := by
  unfold acquire
  split
  · exact .refl s (hrefused _)
  · split
    · exact .refl s hwaiting
    · rename_i t hp
      have hprefix := hgranted t
      rw [State.trace_of_takePermit? hp] at hprefix
      exact .of_felt hprefix rfl

theorem feltOr_start (command : Command) :
    s.FeltOr (start c s command).1 ((start c s command).2.isBare = true) := by
  cases command with
  | stage g => exact feltOr_advance c .result g (g.feltOr_start c s)
  | exchangeByClaims x token host =>
    cases ht : token.tenant with
    | error fault =>
      simp only [start, ht]
      exact .refl s rfl
    | ok tenant =>
      simp only [start, ht]
      exact feltOr_advance c .result _ (Stage.feltOr_start _ c s)
  | authorize a credential host => exact feltOr_authorize c s a credential host
  | permit bucket => exact feltOr_acquire c s bucket rfl (fun _ => rfl) fun _ => List.prefix_rfl
  | throttle bucket work =>
    exact feltOr_acquire c s bucket rfl (fun _ => rfl) fun t => prefix_beginWork c t work
  | cancel => exact .of_felt (List.prefix_rfl) rfl
  | refuse fault => exact .refl s rfl

end Phases

/-- A poll of a call that has no permit is felt by others, or it is recorded and leaves the call without one. -/
theorem feltOr_poll {c : Call} (s : State) (h : c.phase.isBare = true) :
    s.FeltOr (c.poll s).1 ((c.poll s).2.phase.isBare = true) := by
  obtain ⟨caller, phase⟩ := c
  cases phase with
  | ready command => exact feltOr_start caller s command
  | running purpose g p => exact feltOr_advance caller purpose g (g.feltOr_resume caller s h)
  | working ending => exact Bool.noConfusion h
  | done result => exact .refl s rfl

end Call

/-! ## 3. Runs without a call -/

/-- The number of a call where another one was not made. -/
def numberPast (i call : Nat) : Nat :=
  if call < i then call else call - 1

def Call.past (i : Nat) (c : Call) : Call :=
  { c with caller := { c.caller with call := numberPast i c.caller.call } }

/-- The trace where a call was not made. -/
def tracePast (i : Nat) (trace : List Record) : List Record :=
  (trace.filter (·.origin.call ≠ i)).map fun r => ⟨⟨numberPast i r.origin.call, r.origin.operation⟩, r.event⟩

/-- A move where a call was not made, and so is not polled. -/
def Move.past? (i : Nat) : Move → Option Move
  | .poll j => if j = i then none else some (.poll (numberPast i j))
  | m => some m

/-- Calls and what they share, without a call and what was recorded of it. -/
def Traffic.without (i : Nat) (w : Traffic) : Traffic where
  state := { w.state with trace := tracePast i w.state.trace }
  calls := (w.calls.eraseIdx i).map (Call.past i)

theorem numberPast_of_lt {i call : Nat} (h : call < i) : numberPast i call = call :=
  if_pos h

theorem tracePast_append (i : Nat) (trace new : List Record) :
    tracePast i (trace ++ new) = tracePast i trace ++ tracePast i new := by
  simp [tracePast]

theorem tracePast_of_forall {i : Nat} {trace : List Record} (h : ∀ r ∈ trace, r.origin.call = i) :
    tracePast i trace = [] := by
  have hnone : trace.filter (·.origin.call ≠ i) = [] :=
    List.filter_eq_nil_iff.2 fun r hr => by simp [h r hr]
  rw [tracePast, hnone, List.map_nil]

theorem tracePast_of_lt {i : Nat} {trace : List Record} (h : ∀ r ∈ trace, r.origin.call < i) :
    tracePast i trace = trace := by
  have hall : trace.filter (·.origin.call ≠ i) = trace :=
    List.filter_eq_self.2 fun r hr => by simp [Nat.ne_of_lt (h r hr)]
  rw [tracePast, hall]
  refine (List.map_congr_left fun r hr => ?_).trans (List.map_id _)
  rw [numberPast_of_lt (h r hr)]
  rfl

/-- The trace where another call was not made. -/
def Retelling.past (i : Nat) {call : Nat} (h : call ≠ i) : Retelling call where
  number := numberPast i call
  tell := tracePast i
  tell_concat trace op e := by
    rw [tracePast_append]
    simp [tracePast, h]

namespace Traffic

variable {i : Nat} {w : Traffic}

theorem getElem?_without {j : Nat} (hj : j ≠ i) :
    (w.without i).calls[numberPast i j]? = (w.calls[j]?).map (Call.past i) := by
  show ((w.calls.eraseIdx i).map (Call.past i))[numberPast i j]? = _
  rw [List.getElem?_map, List.getElem?_eraseIdx, numberPast]
  by_cases hlt : j < i
  · rw [if_pos hlt, if_pos hlt]
  · rw [if_neg hlt, if_neg (by omega), Nat.sub_add_cancel (by omega)]

/-- The other calls return the same. -/
theorem result?_without {j : Nat} (hj : j ≠ i) :
    (w.without i).result? (numberPast i j) = w.result? j := by
  unfold result?
  rw [getElem?_without hj]
  cases w.calls[j]? <;> rfl

theorem eraseIdx_set_past (calls : List Call) {j : Nat} (hj : j ≠ i) (d : Call) :
    ((calls.set j d).eraseIdx i).map (Call.past i) =
      ((calls.eraseIdx i).map (Call.past i)).set (numberPast i j) (d.past i) := by
  rw [numberPast]
  by_cases hlt : j < i
  · rw [if_pos hlt, List.eraseIdx_set_gt hlt, List.map_set]
  · rw [if_neg hlt, List.eraseIdx_set_lt (by omega), List.map_set]

/-- Before a call is made it may be left out. -/
theorem without_of_new {s : State} {calls : List Call} (c : Call)
    (hrecords : ∀ r ∈ s.trace, r.origin.call < calls.length)
    (hcalls : ∀ d ∈ calls, d.caller.call < calls.length) :
    (⟨s, calls ++ [c]⟩ : Traffic).without calls.length = ⟨s, calls⟩ := by
  have hold : calls.map (Call.past calls.length) = calls := by
    refine (List.map_congr_left fun d hd => ?_).trans (List.map_id _)
    rw [Call.past, numberPast_of_lt (hcalls d hd)]
    rfl
  show (⟨{ s with trace := tracePast _ s.trace }, _⟩ : Traffic) = _
  rw [tracePast_of_lt hrecords, List.eraseIdx_append_of_length_le (Nat.le_refl _), Nat.sub_self,
    List.eraseIdx_cons_zero, List.append_nil, hold]

/-- A poll of another call does the same where a call is left out. -/
theorem without_poll {j : Nat} (hj : j ≠ i) (hcall : ∀ c, w.calls[j]? = some c → c.caller.call = j) :
    (w.step (.poll j)).without i = (w.without i).step (.poll (numberPast i j)) := by
  have hpast := getElem?_without (w := w) hj
  cases hc : w.calls[j]? with
  | none =>
    rw [hc] at hpast
    rw [step_poll_of_none hc, step_poll_of_none hpast]
  | some c =>
    rw [hc] at hpast
    rw [step_poll_of_some hc, step_poll_of_some hpast]
    have hne : c.caller.call ≠ i := by
      rw [hcall c hc]
      exact hj
    have hpoll := c.poll_retold (.past i hne) w.state
    show (⟨{ (c.poll w.state).1 with trace := _ }, _⟩ : Traffic) = ⟨_, _⟩
    rw [eraseIdx_set_past w.calls hj]
    exact congrArg (fun after : State × Call => (⟨after.1, List.set _ _ after.2⟩ : Traffic)) hpoll.symm

/-- A poll of a call that others do not feel may be left out with the call. -/
theorem without_poll_self {c : Call} (hc : w.calls[i]? = some c) (hcall : c.caller.call = i)
    {new : List Record} (ht : (c.poll w.state).1 = { w.state with trace := w.state.trace ++ new }) :
    (w.step (.poll i)).without i = w.without i := by
  have hown : ∀ r ∈ new, r.origin.call = i := fun r hr => by
    rw [← hcall]
    exact c.own_of_poll (congrArg State.trace ht) r hr
  have hcalls : (w.calls.set i (c.poll w.state).2).eraseIdx i = w.calls.eraseIdx i :=
    List.eraseIdx_set_eq
  rw [step_poll_of_some hc, ht]
  show (⟨{ w.state with trace := tracePast i (w.state.trace ++ new) }, List.map _ (List.eraseIdx _ i)⟩ : Traffic) = _
  rw [hcalls, tracePast_append, tracePast_of_forall hown, List.append_nil]
  rfl

/-- Other moves than polls do the same where a call is left out. -/
theorem without_of_ne_poll {m : Move} (hm : ∀ j, m ≠ .poll j) (hi : i < w.calls.length) :
    (w.step m).without i = (w.without i).step m := by
  cases m with
  | poll j => exact absurd rfl (hm j)
  | call name command =>
    have hlength : ((w.calls.eraseIdx i).map (Call.past i)).length = numberPast i w.calls.length := by
      rw [List.length_map, List.length_eraseIdx_of_lt hi, numberPast, if_neg (by omega)]
    show (⟨_, ((w.calls ++ [Call.ofCommand w.calls.length name command]).eraseIdx i).map (Call.past i)⟩ :
      Traffic) = ⟨_, List.map _ _ ++ [Call.ofCommand (List.map _ _).length name command]⟩
    rw [List.eraseIdx_append_of_lt_length hi, List.map_append, hlength]
    rfl
  | clocks clock machine => rfl
  | files files slow => rfl
  | sweep cache => rfl

/-- A move does the same where a call is left out that has no permit, and others do not feel it. -/
theorem without_step {m : Move} {c : Call} (hc : w.calls[i]? = some c) (hbare : c.phase.isBare = true)
    (hnumbered : ∀ {j : Nat} {d : Call}, w.calls[j]? = some d → d.caller.call = j)
    (hunfelt : ∀ r ∈ (w.step m).state.trace, r.origin.call = i → r.event.isFelt = false) :
    (w.step m).without i = (w.without i).run (m.past? i).toList ∧
      ∃ d, (w.step m).calls[i]? = some d ∧ d.phase.isBare = true := by
  have hlt := (List.getElem?_eq_some_iff.1 hc).1
  cases hm : m.isPollOf i with
  | false =>
    refine ⟨?_, c, (calls_step hm hlt).trans hc, hbare⟩
    cases m with
    | poll j =>
      have hj : j ≠ i := of_decide_eq_false hm
      rw [Move.past?, if_neg hj]
      exact without_poll hj fun d => hnumbered
    | _ => exact without_of_ne_poll (fun _ => Move.noConfusion) hlt
  | true =>
    obtain rfl := Move.eq_poll_of_isPollOf hm
    rw [step_poll_of_some hc] at hunfelt
    obtain ⟨new, hnew, ⟨r, hr, hfelt⟩ | ⟨ht, hbare'⟩⟩ := Call.feltOr_poll w.state hbare
    · have hmem : r ∈ (c.poll w.state).1.trace := hnew ▸ List.mem_append_right _ hr
      have hcall : r.origin.call = i := (c.own_of_poll hnew r hr).trans (hnumbered hc)
      exact absurd (hunfelt r hmem hcall) (by simp [hfelt])
    · rw [Move.past?, if_pos rfl]
      refine ⟨without_poll_self hc (hnumbered hc) ht, (c.poll w.state).2, ?_, hbare'⟩
      rw [step_poll_of_some hc]
      exact List.getElem?_set_self hlt

/-- A run in which a call was not made comes to what is left, without the call, of a run in which others
did not feel it. -/
theorem run_without {s : State} (htrace : s.trace = []) (before : List Move) (name : String)
    (command : Command) (after : List Move) (hi : i = (Move.made before).length)
    (hunfelt : ∀ r ∈ ((ofState s).run (before ++ .call name command :: after)).state.trace,
      r.origin.call = i → r.event.isFelt = false) :
    (ofState s).run (before ++ after.filterMap (Move.past? i)) =
      ((ofState s).run (before ++ .call name command :: after)).without i := by
  suffices hall : (ofState s).run (before ++ after.filterMap (Move.past? i)) =
      ((ofState s).run (before ++ .call name command :: after)).without i ∧
      ∃ c, ((ofState s).run (before ++ .call name command :: after)).calls[i]? = some c ∧
        c.phase.isBare = true from hall.1
  -- What is carried along is that the call has no permit, without which it can neither send nor store.
  induction after using List.reverseRecOn with
  | nil =>
    have hrecorded := recorded_run htrace before
    obtain rfl : i = ((ofState s).run before).calls.length := hi.trans hrecorded.length_eq.symm
    have hmade : (ofState s).run (before ++ [.call name command]) =
        ⟨((ofState s).run before).state, ((ofState s).run before).calls ++
          [.ofCommand ((ofState s).run before).calls.length name command]⟩ := run_append _ _ _
    rw [hmade, List.filterMap_nil, List.append_nil]
    refine ⟨(without_of_new _ hrecorded.known fun d hd => ?_).symm, _, List.getElem?_concat_length, rfl⟩
    obtain ⟨j, hj⟩ := List.getElem?_of_mem hd
    rw [hrecorded.call_eq hj]
    exact (List.getElem?_eq_some_iff.1 hj).1
  | append_singleton after m ih =>
    have hmore : (ofState s).run (before ++ .call name command :: (after ++ [m])) =
        ((ofState s).run (before ++ .call name command :: after)).step m := by
      rw [← List.cons_append, ← List.append_assoc, run_append]
      rfl
    have hfewer : (ofState s).run (before ++ (after ++ [m]).filterMap (Move.past? i)) =
        ((ofState s).run (before ++ after.filterMap (Move.past? i))).run (m.past? i).toList := by
      rw [List.filterMap_append, ← List.append_assoc, run_append]
      cases hm : m.past? i <;> simp [hm]
    have hrecorded := recorded_run htrace (before ++ .call name command :: after)
    rw [hmore] at hunfelt ⊢
    have hgrows := (trace_grows_step ((ofState s).run (before ++ .call name command :: after)) m).subset
    obtain ⟨heq, c, hc, hbare⟩ := ih fun r hr => hunfelt r (hgrows hr)
    rw [hfewer, heq]
    have hstep := without_step hc hbare hrecorded.call_eq hunfelt
    exact ⟨hstep.1.symm, hstep.2⟩

end Traffic

end RegistryAuth
