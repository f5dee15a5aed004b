import RegistryAuth.Proofs.Broker.Steps

/-!
# Courses

What a stage has recorded and where it stands belong together: `Stage.Course` lists the courses that a
stage can take, and `Stage.course_start` and `Stage.course_resume` say that its polls follow one.
-/

namespace RegistryAuth

open Relation

/-! ## 1. Courses -/

/-- The events that an operation begins with. -/
def Operation.opening (op : Operation) : List Event :=
  [.signal (.began op), .signal (.counted op .attempt)]

/-- The events that an operation ends with. -/
def Operation.closing (op : Operation) (result : Except Error AccessToken) : List Event :=
  [.signal (.counted op (.ofResult result)), .ended result]

/-- What is recorded on the way of a reply. -/
def Reply.told (reply : Reply) : List Event :=
  (reply.cancels.map .cancelled).toList

namespace Stage

/-- What a stage can find in its cache, and what it records then. -/
inductive Found : Stage → Option AccessToken → List Event → Prop
  | managed {r : ManagedRetriever} {selector : Selector} {served : Option AccessToken} {now : Instant}
    {found : Lookup} (hhit : found = .hit ↔ served.isSome = true) :
    Found (.managed r selector) served
      [.looked r.cache selector.cacheKey now served, .signal (.lookedUp selector.cacheKey found),
        .signal (.countedLookup found)]
  | workload {r : WorkloadRetriever} {client : ClientId} {tenant : TenantId} :
    Found (.workload r client tenant) none []
  | exchange {x : Exchanger} {token : AccessToken} {tenant : Option TenantId} {host : String} :
    Found (.exchange x token tenant host) none []

/-- What a stage records when it keeps the token of its result. -/
def keeping (g : Stage) (now : Instant) (result : Except Error AccessToken) : List Event :=
  match g, result with
  | .managed r selector, .ok token => [.stored r.cache selector.cacheKey token now]
  | _, _ => []

/-- What a stage has recorded since its look-up served nothing, and where it stands. -/
inductive Asked (g : Stage) : List Event → Turn → Prop
  -- Before a permit is taken.
  | reading : Asked g [] (.going .reading)
  | refused {files : Files} {e : Error} (hp : g.prepare files = .error e) :
    Asked g (g.operation.closing (.error e)) (.ended (.error e))
  | waiting {files : Files} {request : Except Http.Fault Http.Request}
    (hp : g.prepare files = .ok request) : Asked g [] (.going (.waiting request))
  | withdrawn : Asked g (g.operation.closing (.error .rateLimitCancelled))
      (.ended (.error .rateLimitCancelled))
  -- On a permit.
  | unmade {files : Files} {fault : Http.Fault} {e : Error} (hp : g.prepare files = .ok (.error fault))
    (he : (Workload.notMade fault).error none = e) :
    Asked g (.permit g.bucket :: g.operation.closing (.error e)) (.ended (.error e))
  | flying {files : Files} {q : Http.Request} {reply : Reply} (hp : g.prepare files = .ok (.ok q)) :
    Asked g [.permit g.bucket, .sent q] (.going (.flying reply))
  | settled {files : Files} {q : Http.Request} {reply : Reply} {now : Instant}
    {result : Except Error AccessToken} (hp : g.prepare files = .ok (.ok q))
    (hr : g.conclude reply.slot reply.outcome = result) :
    Asked g ([.permit g.bucket, .sent q] ++ (reply.told ++ .settled reply.slot reply.outcome ::
      (g.keeping now result ++ g.operation.closing result))) (.ended result)
  | hung {files : Files} {q : Http.Request} {reply : Reply} (hp : g.prepare files = .ok (.ok q)) :
    Asked g ([.permit g.bucket, .sent q] ++ reply.told) (.going .hung)
  | abandoned {files : Files} {q : Http.Request} {told : List Event}
    (hp : g.prepare files = .ok (.ok q)) (ht : told = [] ∨ ∃ reply : Reply, told = reply.told) :
    Asked g ([.permit g.bucket, .sent q] ++ told ++ g.operation.closing (.error .cancelled))
      (.ended (.error .cancelled))

/-- What a stage has recorded since its beginning, and where it stands. -/
inductive Course (g : Stage) : List Event → Turn → Prop
  | served {found : List Event} {token : AccessToken} (hf : g.Found (some token) found) :
    Course g (g.operation.opening ++ found ++ g.operation.closing (.ok token)) (.ended (.ok token))
  | missed {found asked : List Event} {turn : Turn} (hf : g.Found none found)
    (ha : g.Asked asked turn) : Course g (g.operation.opening ++ found ++ asked) turn

end Stage

/-! ## 2. What the operations on states record -/

namespace State

variable (s : State) (o : Origin)

theorem trace_signal (signals : List Signal) :
    (s.signal o signals).trace = s.trace ++ o.records (signals.map .signal) := by
  -- The first signal moves the state on, so the state is generalized.
  induction signals generalizing s with
  | nil => exact (List.append_nil _).symm
  | cons x xs ih =>
    show ((s.record o (.signal x)).signal o xs).trace = _
    rw [ih]
    show (s.trace ++ [⟨o, .signal x⟩]) ++ _ = _
    rw [List.append_assoc]
    rfl

/-- Of a permit that is taken its bucket has one less, and nothing else is changed but the trace. -/
theorem eq_of_takePermit? {s t : State} {o : Origin} {bucket : Nat}
    (h : s.takePermit? o bucket = some t) :
    ∃ n, s.permits bucket = n + 1 ∧
      t = { s with permits := fun b => if b = bucket then n else s.permits b }.record o
        (.permit bucket) := by
  unfold takePermit? at h
  split at h
  · simp at h
  · rename_i n hn
    cases h
    exact ⟨n, hn, rfl⟩

theorem trace_of_takePermit? {s t : State} {o : Origin} {bucket : Nat}
    (h : s.takePermit? o bucket = some t) : t.trace = s.trace ++ o.records [.permit bucket] := by
  obtain ⟨n, -, rfl⟩ := eq_of_takePermit? h
  rfl

/-- Sending changes nothing but the trace and the replies that are still to come. -/
theorem fst_send (q : Http.Request) :
    ∃ replies, (s.send o q).1 = { s.record o (.sent q) with replies } := by
  unfold send
  simp only
  split
  · split
    · exact ⟨s.replies, rfl⟩
    · rename_i reply replies _
      exact ⟨replies, rfl⟩
  · exact ⟨s.replies, rfl⟩

theorem trace_send (q : Http.Request) : (s.send o q).1.trace = s.trace ++ o.records [.sent q] := by
  obtain ⟨replies, h⟩ := s.fst_send o q
  rw [h]
  rfl

theorem trace_passing (reply : Reply) :
    (s.passing o reply).trace = s.trace ++ o.records reply.told := by
  unfold passing Reply.told
  cases reply.cancels with
  | none => exact (List.append_nil _).symm
  | some name => rfl

theorem trace_lookUp (cache : Nat) (key : CacheKey) :
    ∃ found, (found = .hit ↔ (s.lookUp o cache key).2.isSome = true) ∧
      (s.lookUp o cache key).1.trace = s.trace ++ o.records
        [.looked cache key (s.now cache) (s.lookUp o cache key).2, .signal (.lookedUp key found),
          .signal (.countedLookup found)] := by
  refine ⟨_, (s.tokens cache).lookup_eq_hit_iff (s.now cache) key, ?_⟩
  refine (trace_signal _ o _).trans ?_
  show (s.trace ++ [_]) ++ _ = _
  rw [List.append_assoc]
  rfl

end State

namespace Stage

variable (g : Stage) (c : Caller) (s : State)

theorem trace_finish (result : Except Error AccessToken) :
    (g.finish c s result).1.trace = s.trace ++ (g.origin c).records (g.operation.closing result) := by
  show (s.signal (g.origin c) _).trace ++ [_] = _
  rw [State.trace_signal, List.append_assoc]
  rfl

theorem trace_keep (o : Origin) (result : Except Error AccessToken) :
    ∃ now, (g.keep s o result).trace = s.trace ++ o.records (g.keeping now result) := by
  cases g with
  | managed r selector =>
    cases result with
    | ok token => exact ⟨s.now r.cache, rfl⟩
    | error e => exact ⟨⟨0⟩, (List.append_nil _).symm⟩
  | workload r client tenant => exact ⟨⟨0⟩, (List.append_nil _).symm⟩
  | exchange x token tenant host => exact ⟨⟨0⟩, (List.append_nil _).symm⟩

theorem trace_settle (reply : Reply) :
    ∃ now, (g.settle c s reply).1.trace = s.trace ++ (g.origin c).records (reply.told ++
      .settled reply.slot reply.outcome :: (g.keeping now (g.conclude reply.slot reply.outcome) ++
        g.operation.closing (g.conclude reply.slot reply.outcome))) := by
  have hpass := s.trace_passing (g.origin c) reply
  obtain ⟨now, hkeep⟩ := g.trace_keep ((s.passing (g.origin c) reply).record (g.origin c)
    (.settled reply.slot reply.outcome)) (g.origin c) (g.conclude reply.slot reply.outcome)
  refine ⟨now, (g.trace_finish c _ _).trans ?_⟩
  rw [hkeep]
  show (((s.passing (g.origin c) reply).trace ++ [_]) ++ _) ++ _ = _
  rw [hpass]
  simp [Origin.records]

theorem found_lookUp : ∃ es, (g.lookUp c s).1.trace = s.trace ++ (g.origin c).records es ∧
    g.Found (g.lookUp c s).2 es := by
  cases g with
  | managed r selector =>
    obtain ⟨found, hhit, htrace⟩ :=
      s.trace_lookUp ((managed r selector).origin c) r.cache selector.cacheKey
    exact ⟨_, htrace, .managed hhit⟩
  | workload r client tenant => exact ⟨[], (List.append_nil _).symm, .workload⟩
  | exchange x token tenant host => exact ⟨[], (List.append_nil _).symm, .exchange⟩

/-! ## 3. Steps follow a course -/

theorem course_opened : ∃ es, (g.opened c s).1.trace = s.trace ++ (g.origin c).records es ∧
    g.Course es (g.opened c s).2 := by
  obtain ⟨found, htrace, hfound⟩ := g.found_lookUp c
    (s.signal (g.origin c) [.began g.operation, .counted g.operation .attempt])
  rw [State.trace_signal, List.append_assoc, ← Origin.records_append] at htrace
  unfold opened
  simp only
  split
  · rename_i t token h
    rw [h] at htrace hfound
    refine ⟨_, ?_, .served hfound⟩
    rw [trace_finish, htrace, List.append_assoc, ← Origin.records_append]
    rfl
  · rename_i t h
    rw [h] at htrace hfound
    refine ⟨_, ?_, .missed hfound .reading⟩
    rw [List.append_nil]
    exact htrace

variable {g c}

/-- A step records what goes on with what the stage has recorded. -/
theorem Step.asked {a b : State × Turn} (h : g.Step c a b) {es : List Event}
    (hes : g.Asked es a.2) :
    ∃ new, b.1.trace = a.1.trace ++ (g.origin c).records new ∧ g.Asked (es ++ new) b.2 := by
  -- Where a step starts from one turn only, what was recorded can have one form only.
  cases h with
  | refused h =>
    cases hes with
    | reading => exact ⟨_, g.trace_finish c _ _, .refused h⟩
  | prepared h =>
    cases hes with
    | reading => exact ⟨[], (List.append_nil _).symm, .waiting h⟩
  | withdrawn hc =>
    cases hes with
    | waiting hp => exact ⟨_, g.trace_finish c _ _, .withdrawn⟩
  | unmade hc htake =>
    cases hes with
    | waiting hp =>
      refine ⟨_, ?_, .unmade hp rfl⟩
      rw [trace_finish, State.trace_of_takePermit? htake, List.append_assoc]
      rfl
  | @sent s t q hc htake =>
    cases hes with
    | waiting hp =>
      refine ⟨[.permit g.bucket, .sent q], ?_, .flying hp⟩
      rw [State.trace_send, State.trace_of_takePermit? htake, List.append_assoc]
      rfl
  | later h =>
    cases hes with
    | flying hp => exact ⟨[], (List.append_nil _).symm, .flying hp⟩
  | settled h =>
    cases hes with
    | flying hp =>
      obtain ⟨now, htrace⟩ := g.trace_settle c _ _
      exact ⟨_, htrace, .settled hp rfl⟩
  | strayed h =>
    cases hes with
    | flying hp => exact ⟨_, State.trace_passing _ _ _, .hung hp⟩
  | abandoned hc =>
    cases hes with
    | flying hp => exact ⟨_, g.trace_finish c _ _, .abandoned hp (.inl rfl)⟩
  | givenUp hc =>
    cases hes with
    | hung hp => exact ⟨_, g.trace_finish c _ _, .abandoned hp (.inr ⟨_, rfl⟩)⟩

theorem Step.course {a b : State × Turn} (h : g.Step c a b) {es : List Event}
    (hes : g.Course es a.2) :
    ∃ new, b.1.trace = a.1.trace ++ (g.origin c).records new ∧ g.Course (es ++ new) b.2 := by
  -- A stage that was served has ended, and no step starts there.
  obtain ⟨s, turn⟩ := a
  cases hes with
  | served hf => cases h
  | missed hf ha =>
    obtain ⟨new, htrace, hasked⟩ := h.asked ha
    refine ⟨new, htrace, ?_⟩
    rw [List.append_assoc]
    exact .missed hf hasked

theorem course_of_steps {a b : State × Turn} (h : ReflTransGen (g.Step c) a b) {es : List Event}
    (hes : g.Course es a.2) :
    ∃ new, b.1.trace = a.1.trace ++ (g.origin c).records new ∧ g.Course (es ++ new) b.2 := by
  -- By induction on the steps, the last of which goes on with what the others recorded.
  induction h with
  | refl => exact ⟨[], by simp [Origin.records], by simpa using hes⟩
  | tail _ hstep ih =>
    obtain ⟨new, htrace, hcourse⟩ := ih
    obtain ⟨more, htrace', hcourse'⟩ := hstep.course hcourse
    refine ⟨new ++ more, ?_, by rwa [← List.append_assoc]⟩
    rw [htrace', htrace, List.append_assoc, ← Origin.records_append]

variable (g c)

theorem course_start : ∃ es, (g.start c s).1.trace = s.trace ++ (g.origin c).records es ∧
    g.Course es (g.start c s).2 := by
  obtain ⟨es, htrace, hes⟩ := g.course_opened c s
  obtain ⟨new, htrace', hcourse⟩ := course_of_steps (g.steps_start c s) hes
  refine ⟨es ++ new, ?_, hcourse⟩
  rw [htrace', htrace, List.append_assoc, ← Origin.records_append]

theorem course_resume {p : Progress} {es : List Event} (h : g.Course es (.going p)) :
    ∃ new, (g.resume c s p).1.trace = s.trace ++ (g.origin c).records new ∧
      g.Course (es ++ new) (g.resume c s p).2 :=
  course_of_steps (g.steps_resume c s p) h

/-! ## 4. What a course tells -/

variable {g} {es : List Event} {turn : Turn} {e : Event}

/-- What a stage records once its look-up has served nothing, by what it knows then. -/
inductive AskedEvent (g : Stage) (turn : Turn) : Event → Prop
  | signal (x : Signal) : AskedEvent g turn (.signal x)
  | ended {result : Except Error AccessToken} (ht : turn = .ended result) :
    AskedEvent g turn (.ended result)
  | permit : AskedEvent g turn (.permit g.bucket)
  | sent {files : Files} {q : Http.Request} (hp : g.prepare files = .ok (.ok q)) :
    AskedEvent g turn (.sent q)
  | cancelled (name : String) : AskedEvent g turn (.cancelled name)
  | settled (slot : Http.Slot) (outcome : Except Http.Failure Http.Response) :
    AskedEvent g turn (.settled slot outcome)
  | stored {r : ManagedRetriever} {selector : Selector} {token : AccessToken} {now : Instant}
    (hg : g = .managed r selector) (ht : turn = .ended (.ok token)) :
    AskedEvent g turn (.stored r.cache selector.cacheKey token now)

theorem askedEvent_of_opening (h : e ∈ g.operation.opening) : g.AskedEvent turn e := by
  simp only [Operation.opening, List.mem_cons, List.not_mem_nil, or_false] at h
  rcases h with rfl | rfl
  · exact .signal _
  · exact .signal _

theorem askedEvent_of_closing {result : Except Error AccessToken}
    (h : e ∈ g.operation.closing result) : g.AskedEvent (.ended result) e := by
  simp only [Operation.closing, List.mem_cons, List.not_mem_nil, or_false] at h
  rcases h with rfl | rfl
  · exact .signal _
  · exact .ended rfl

theorem askedEvent_of_told {reply : Reply} (h : e ∈ reply.told) : g.AskedEvent turn e := by
  obtain ⟨event, hevent, rfl⟩ : ∃ name, reply.cancels = some name ∧ .cancelled name = e := by
    simpa [Reply.told] using h
  exact .cancelled event

theorem askedEvent_of_keeping {now : Instant} {result : Except Error AccessToken}
    (h : e ∈ g.keeping now result) : g.AskedEvent (.ended result) e := by
  unfold keeping at h
  split at h
  · obtain rfl := List.mem_singleton.1 h
    exact .stored rfl rfl
  · exact absurd h List.not_mem_nil

theorem askedEvent_of_request {files : Files} {q : Http.Request}
    (hp : g.prepare files = .ok (.ok q)) (h : e ∈ [Event.permit g.bucket, .sent q]) :
    g.AskedEvent turn e := by
  simp only [List.mem_cons, List.not_mem_nil, or_false] at h
  rcases h with rfl | rfl
  · exact .permit
  · exact .sent hp

theorem Asked.event (h : g.Asked es turn) (he : e ∈ es) : g.AskedEvent turn e := by
  cases h with
  | reading => exact absurd he List.not_mem_nil
  | waiting hp => exact absurd he List.not_mem_nil
  | refused hp => exact askedEvent_of_closing he
  | withdrawn => exact askedEvent_of_closing he
  | unmade hp hunmade =>
    rcases List.mem_cons.1 he with rfl | he
    · exact .permit
    · exact askedEvent_of_closing he
  | flying hp => exact askedEvent_of_request hp he
  | settled hp hr =>
    rcases List.mem_append.1 he with he | he
    · exact askedEvent_of_request hp he
    · rcases List.mem_append.1 he with he | he
      · exact askedEvent_of_told he
      · rcases List.mem_cons.1 he with rfl | he
        · exact .settled _ _
        · rcases List.mem_append.1 he with he | he
          · exact askedEvent_of_keeping he
          · exact askedEvent_of_closing he
  | hung hp =>
    rcases List.mem_append.1 he with he | he
    · exact askedEvent_of_request hp he
    · exact askedEvent_of_told he
  | abandoned hp ht =>
    rcases List.mem_append.1 he with he | he
    · rcases List.mem_append.1 he with he | he
      · exact askedEvent_of_request hp he
      · rcases ht with rfl | ⟨reply, rfl⟩
        · exact absurd he List.not_mem_nil
        · exact askedEvent_of_told he
    · exact askedEvent_of_closing he

/-- Beside its look-up a stage records only what it does for its request. -/
theorem Course.event (h : g.Course es turn) (he : e ∈ es) :
    g.AskedEvent turn e ∨ ∃ cache key now served, e = .looked cache key now served := by
  have hfound : ∀ {served found}, g.Found served found → e ∈ found →
      g.AskedEvent turn e ∨ ∃ cache key now served, e = .looked cache key now served := by
    intro served found hf hmem
    cases hf with
    | managed =>
      simp only [List.mem_cons, List.not_mem_nil, or_false] at hmem
      rcases hmem with rfl | rfl | rfl
      · exact .inr ⟨_, _, _, _, rfl⟩
      · exact .inl (.signal _)
      · exact .inl (.signal _)
    | workload => exact absurd hmem List.not_mem_nil
    | exchange => exact absurd hmem List.not_mem_nil
  cases h with
  | served hf =>
    rcases List.mem_append.1 he with he | he
    · rcases List.mem_append.1 he with he | he
      · exact .inl (askedEvent_of_opening he)
      · exact hfound hf he
    · exact .inl (askedEvent_of_closing he)
  | missed hf ha =>
    rcases List.mem_append.1 he with he | he
    · rcases List.mem_append.1 he with he | he
      · exact .inl (askedEvent_of_opening he)
      · exact hfound hf he
    · exact .inl (ha.event he)

theorem Asked.ended_mem {result : Except Error AccessToken} (h : g.Asked es (.ended result)) :
    .ended result ∈ es := by
  cases h <;> simp [Operation.closing]

/-- A stage has recorded that it ended just when it has ended. -/
theorem Course.ended_mem_iff {result : Except Error AccessToken} (h : g.Course es turn) :
    .ended result ∈ es ↔ turn = .ended result := by
  -- A stage records its end once, with its result, so the record tells where it stands.
  constructor
  · intro he
    rcases h.event he with hasked | ⟨_, _, _, _, heq⟩
    · cases hasked with | ended ht => exact ht
    · exact Event.noConfusion heq
  · rintro rfl
    cases h with
    | served hf => simp [Operation.closing]
    | missed hf ha => exact List.mem_append_right _ ha.ended_mem

theorem Course.ended_mem_records {result : Except Error AccessToken}
    (h : g.Course es (.ended result)) (c : Caller) :
    ⟨g.origin c, .ended result⟩ ∈ (g.origin c).records es :=
  (Origin.mem_records_iff _ es _).2 (h.ended_mem_iff.2 rfl)

/-- A request that was sent is one that the stage prepared. -/
theorem Course.prepare_of_sent {q : Http.Request} (h : g.Course es turn) (hq : .sent q ∈ es) :
    ∃ files, g.prepare files = .ok (.ok q) := by
  rcases h.event hq with hasked | ⟨_, _, _, _, heq⟩
  · cases hasked with | sent hp => exact ⟨_, hp⟩
  · exact Event.noConfusion heq

/-- Only a stage of a managed identity stores anything: the token that it ends with. -/
theorem Course.of_stored {cache : Nat} {key : CacheKey} {token : AccessToken} {now : Instant}
    (h : g.Course es turn) (hmem : .stored cache key token now ∈ es) :
    ∃ r selector, g = .managed r selector ∧ r.cache = cache ∧ selector.cacheKey = key ∧
      turn = .ended (.ok token) := by
  rcases h.event hmem with hasked | ⟨_, _, _, _, heq⟩
  · cases hasked with | stored hg ht => exact ⟨_, _, hg, rfl, rfl, ht⟩
  · exact Event.noConfusion heq

/-- A token was found, or was made of a response to the request that the stage sent. -/
theorem Course.of_token {token : AccessToken} (h : g.Course es (.ended (.ok token))) :
    (∃ found, g.Found (some token) found ∧ found ⊆ es) ∨
      ∃ files q slot response, g.prepare files = .ok (.ok q) ∧
        [.sent q, .settled slot (.ok response)].Sublist es ∧
        g.conclude slot (.ok response) = .ok token := by
  cases h with
  | @served found _ hf =>
    refine .inl ⟨found, hf, fun e he => ?_⟩
    exact List.mem_append_left _ (List.mem_append_right _ he)
  | missed hf ha =>
    right
    -- Of all that a stage can end with, only an outcome makes a token; the other ends are errors.
    cases ha with
    | @settled files q reply now _ hp hr =>
      obtain ⟨response, hresponse⟩ := exists_response_of_conclude hr
      rw [hresponse] at hr ⊢
      refine ⟨files, q, reply.slot, response, hp, ?_, hr⟩
      refine List.Sublist.trans ?_ (List.sublist_append_right _ _)
      refine .cons _ (.cons_cons _ ?_)
      refine List.Sublist.trans ?_ (List.sublist_append_right reply.told _)
      exact .cons_cons _ (List.nil_sublist _)

end Stage

end RegistryAuth
