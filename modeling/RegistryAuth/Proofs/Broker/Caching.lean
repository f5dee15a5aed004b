import RegistryAuth.Proofs.Broker.Facade
import RegistryAuth.Proofs.Broker.Replays

/-!
# What a call leaves in the caches

A call that is under way alone leaves the caches as its own records tell: `CachingAccounted` says what they
are then, for every command and however far the call has come.  An entry that has come to its end is taken
out by the look-up, whatever comes of the request; a token that was answered is kept, whatever comes of its
exchange.
-/

namespace RegistryAuth

/-! ## 1. Stages of managed identities -/

namespace Stage

variable {g : Stage} {es : List Event} {turn : Turn}

/-- The uses of caches that a stage has recorded, and where it stands. -/
inductive Cached (g : Stage) : Turn → List Event → Prop
  | uncached {turn : Turn} (hg : ∀ r selector, g ≠ .managed r selector) : Cached g turn []
  | served {r : ManagedRetriever} {selector : Selector} {now : Instant} {token : AccessToken}
    (hg : g = .managed r selector) :
    Cached g (.ended (.ok token)) [.looked r.cache selector.cacheKey now (some token)]
  | missed {r : ManagedRetriever} {selector : Selector} {now : Instant} {turn : Turn}
    (hg : g = .managed r selector) (ht : ∀ token, turn ≠ .ended (.ok token)) :
    Cached g turn [.looked r.cache selector.cacheKey now none]
  | fetched {r : ManagedRetriever} {selector : Selector} {now stored : Instant} {token : AccessToken}
    (hg : g = .managed r selector) :
    Cached g (.ended (.ok token)) [.looked r.cache selector.cacheKey now none,
      .stored r.cache selector.cacheKey token stored]

@[simp] theorem caching_opening (op : Operation) : op.opening.filter Event.isCaching = [] := rfl

@[simp] theorem caching_closing (op : Operation) (result : Except Error AccessToken) :
    (op.closing result).filter Event.isCaching = [] := rfl

@[simp] theorem caching_told (reply : Reply) : reply.told.filter Event.isCaching = [] := by
  unfold Reply.told
  cases reply.cancels <;> rfl

@[simp] theorem caching_keeping (now : Instant) (result : Except Error AccessToken) :
    (g.keeping now result).filter Event.isCaching = g.keeping now result := by
  unfold keeping
  split <;> rfl

/-- Once it has been served nothing, a stage uses no cache, unless it ends with a token and keeps it. -/
theorem Asked.caching (h : g.Asked es turn) :
    es.filter Event.isCaching = [] ∧ (∀ token, turn ≠ .ended (.ok token)) ∨
      ∃ now result, es.filter Event.isCaching = g.keeping now result ∧ turn = .ended result := by
  cases h with
  | @settled files q reply now result hp hr =>
    exact .inr ⟨now, result, by simp [Event.isCaching], rfl⟩
  | reading => exact .inl ⟨rfl, by simp⟩
  | refused hp => exact .inl ⟨rfl, by simp⟩
  | waiting hp => exact .inl ⟨rfl, by simp⟩
  | withdrawn => exact .inl ⟨rfl, by simp⟩
  | unmade hp he => exact .inl ⟨rfl, by simp⟩
  | flying hp => exact .inl ⟨rfl, by simp⟩
  | hung hp => exact .inl ⟨by simp [Event.isCaching], by simp⟩
  | abandoned hp ht =>
    refine .inl ⟨?_, by simp⟩
    rcases ht with rfl | ⟨reply, rfl⟩
    · simp [Event.isCaching]
    · simp [Event.isCaching]

theorem Asked.caching_of_unmanaged (h : g.Asked es turn) (hg : ∀ r selector, g ≠ .managed r selector) :
    es.filter Event.isCaching = [] := by
  rcases h.caching with ⟨hnone, -⟩ | ⟨now, result, hkept, -⟩
  · exact hnone
  · rw [hkept]
    unfold keeping
    split
    · exact absurd rfl (hg _ _)
    · rfl

/-- A stage of a managed identity looks its key up once and stores the token that it ends with, unless it was
served; the other stages use no cache. -/
theorem Course.cached (h : g.Course es turn) : g.Cached turn (es.filter Event.isCaching) := by
  cases h with
  | served hf =>
    cases hf with
    | managed => exact .served rfl
  | missed hf ha =>
    rw [List.filter_append, List.filter_append, caching_opening, List.nil_append]
    cases hf with
    | managed =>
      rcases ha.caching with ⟨hnone, ht⟩ | ⟨now, result, hkept, rfl⟩
      · rw [hnone]
        exact .missed rfl ht
      · rw [hkept]
        cases result with
        | ok token => exact .fetched rfl
        | error e => exact .missed rfl (by simp)
    | workload =>
      rw [ha.caching_of_unmanaged (by simp)]
      exact .uncached (by simp)
    | exchange =>
      rw [ha.caching_of_unmanaged (by simp)]
      exact .uncached (by simp)

end Stage

/-! ## 2. What a call leaves -/

/-- What a stage of a managed identity has made of the caches that were there before it, by the events that it
has recorded; its own cache keeps tokens for a time. -/
structure ManagedCaching (r : ManagedRetriever) (selector : Selector) (ttl : Duration) (es : List Event)
    (s t : Nat → TokenCache) : Prop where
  elsewhere : ∀ cache, cache ≠ r.cache → t cache = s cache
  others : ∀ key, key ≠ selector.cacheKey → (t r.cache).find? key = (s r.cache).find? key
  /-- Before it looks its key up it leaves its cache alone. -/
  unasked : (∀ now served, .looked r.cache selector.cacheKey now served ∉ es) → t r.cache = s r.cache
  /-- It is served what is live. -/
  served : ∀ now found, .looked r.cache selector.cacheKey now found ∈ es →
    found = (s r.cache).served? now selector.cacheKey
  hit : ∀ now token, .looked r.cache selector.cacheKey now (some token) ∈ es → t r.cache = s r.cache
  /-- A token that it was answered is there from the instant on at which it was stored. -/
  fetched : ∀ now token, .looked r.cache selector.cacheKey now none ∈ es → .ended (.ok token) ∈ es →
    ∃ slot response stored, .settled slot (.ok response) ∈ es ∧
      Managed.token response (slot.getD .empty) = .ok token ∧
      .stored r.cache selector.cacheKey token stored ∈ es ∧
      (t r.cache).find? selector.cacheKey =
        some ⟨token, ⟨min (stored.nanos + max ttl.nanos 0) Instant.greatest.nanos⟩⟩
  /-- As long as it has no token, and when it ends without one, there is none. -/
  unfetched : ∀ now, .looked r.cache selector.cacheKey now none ∈ es →
    (∀ token, .ended (.ok token) ∉ es) → (t r.cache).find? selector.cacheKey = none

namespace Stage

variable {r : ManagedRetriever} {selector : Selector} {ttl : Duration} {es : List Event} {turn : Turn}
  {s t : Nat → TokenCache}

theorem looked_mem_iff_filter {cache : Nat} {key : CacheKey} {now : Instant} {found : Option AccessToken} :
    .looked cache key now found ∈ es ↔ .looked cache key now found ∈ es.filter Event.isCaching :=
  (List.mem_filter.trans (and_iff_left rfl)).symm

/-- A stage that was served has left the caches as they were. -/
theorem managedCaching_of_served {now : Instant} {token : AccessToken}
    (huses : es.filter Event.isCaching = [.looked r.cache selector.cacheKey now (some token)])
    (hserved : some token = (s r.cache).served? now selector.cacheKey) :
    ManagedCaching r selector ttl es s s := by
  have hlooked : ∀ {now' found}, .looked r.cache selector.cacheKey now' found ∈ es →
      now' = now ∧ found = some token := by
    intro now' found he
    rw [looked_mem_iff_filter, huses] at he
    simpa using he
  refine ⟨fun _ _ => rfl, fun _ _ => rfl, fun _ => rfl, ?_, fun _ _ _ => rfl, ?_, ?_⟩
  · intro now' found he
    obtain ⟨rfl, rfl⟩ := hlooked he
    exact hserved
  · intro now' token' he
    exact absurd (hlooked he).2.symm (Option.some_ne_none token)
  · intro now' he
    exact absurd (hlooked he).2.symm (Option.some_ne_none token)

/-- A stage that was served nothing has changed its own cache only, under its own key, to what holds the token
that it ended with or none. -/
theorem managedCaching_of_unserved {now : Instant} {uses : List Event} {c : TokenCache}
    (huses : es.filter Event.isCaching = .looked r.cache selector.cacheKey now none :: uses)
    (hrest : ∀ now' found, .looked r.cache selector.cacheKey now' found ∉ uses)
    (hserved : none = (s r.cache).served? now selector.cacheKey)
    (hothers : ∀ key, key ≠ selector.cacheKey → c.find? key = (s r.cache).find? key)
    (hfetched : ∀ token, .ended (.ok token) ∈ es → ∃ slot response stored,
      .settled slot (.ok response) ∈ es ∧ Managed.token response (slot.getD .empty) = .ok token ∧
      .stored r.cache selector.cacheKey token stored ∈ es ∧
      c.find? selector.cacheKey = some ⟨token, TokenCache.endOf ttl stored⟩)
    (hunfetched : (∀ token, .ended (.ok token) ∉ es) → c.find? selector.cacheKey = none) :
    ManagedCaching r selector ttl es s (Function.update s r.cache c) := by
  have hlooked : ∀ {now' found}, .looked r.cache selector.cacheKey now' found ∈ es ↔
      now' = now ∧ found = none := by
    intro now' found
    rw [looked_mem_iff_filter, huses]
    simp [hrest]
  refine ⟨fun _ hne => Function.update_of_ne hne .., ?_, ?_, ?_, ?_, ?_, ?_⟩
  · intro key hkey
    rw [Function.update_self]
    exact hothers key hkey
  · intro hnone
    exact absurd (hlooked.2 ⟨rfl, rfl⟩) (hnone now none)
  · intro now' found he
    obtain ⟨rfl, rfl⟩ := hlooked.1 he
    exact hserved
  · intro now' token he
    exact absurd (hlooked.1 he).2 (Option.some_ne_none token)
  · intro now' token he hended
    rw [Function.update_self]
    exact hfetched token hended
  · intro now' he hnone
    rw [Function.update_self]
    exact hunfetched hnone

/-- A stage that was served nothing and has no token has taken the entry of its key out. -/
theorem managedCaching_of_missed {now : Instant} (h : (Stage.managed r selector).Course es turn)
    (ht : ∀ token, turn ≠ .ended (.ok token))
    (huses : es.filter Event.isCaching = [.looked r.cache selector.cacheKey now none])
    (hserved : none = (s r.cache).served? now selector.cacheKey) :
    ManagedCaching r selector ttl es s
      (Function.update s r.cache ((s r.cache).evict now selector.cacheKey)) := by
  refine managedCaching_of_unserved huses (fun _ _ => List.not_mem_nil) hserved ?_ ?_ ?_
  · intro key hkey
    rw [TokenCache.find?_evict, if_neg hkey]
  · intro token hended
    exact absurd (h.ended_mem_iff.1 hended) (ht token)
  · intro hnone
    exact TokenCache.find?_evict_of_unserved hserved.symm

/-- A stage that was answered a token has put it in the place of the entry of its key. -/
theorem managedCaching_of_fetched {now stored : Instant} {token : AccessToken}
    (h : (Stage.managed r selector).Course es (.ended (.ok token)))
    (huses : es.filter Event.isCaching = [.looked r.cache selector.cacheKey now none,
      .stored r.cache selector.cacheKey token stored])
    (hserved : none = (s r.cache).served? now selector.cacheKey)
    (httl : (s r.cache).ttl = ttl.clamped) :
    ManagedCaching r selector ttl es s (Function.update s r.cache
      (((s r.cache).evict now selector.cacheKey).insert stored selector.cacheKey token)) := by
  refine managedCaching_of_unserved huses (by simp) hserved ?_ ?_ ?_
  · intro key hkey
    rw [TokenCache.find?_insert, if_neg hkey, TokenCache.find?_evict, if_neg hkey]
  · intro token' hended
    obtain rfl : token = token' := by simpa using h.ended_mem_iff.1 hended
    have hstored : .stored r.cache selector.cacheKey token stored ∈ es.filter Event.isCaching := by
      rw [huses]
      exact List.mem_cons_of_mem _ List.mem_cons_self
    -- The token was not found, so it is that of an answer.
    rcases h.of_managed with ⟨now', hfound⟩ | ⟨q, slot, response, -, hsub, hanswer⟩
    · rw [looked_mem_iff_filter, huses] at hfound
      simp at hfound
    · refine ⟨slot, response, stored, hsub.subset (by simp), hanswer, (List.mem_filter.1 hstored).1, ?_⟩
      rw [TokenCache.find?_insert, if_pos rfl, TokenCache.ttl_evict, httl]
      rfl
  · intro hnone
    exact absurd (h.ended_mem_iff.2 rfl) (hnone token)

theorem managedCaching_nil : ManagedCaching r selector ttl [] s s :=
  ⟨fun _ _ => rfl, fun _ _ => rfl, fun _ => rfl, fun _ _ he => absurd he List.not_mem_nil, fun _ _ _ => rfl,
    fun _ _ he => absurd he List.not_mem_nil, fun _ he => absurd he List.not_mem_nil⟩

theorem Course.looked_mem (h : (Stage.managed r selector).Course es turn) :
    ∃ now found, .looked r.cache selector.cacheKey now found ∈ es := by
  cases h with
  | served hf =>
    cases hf with
    | managed => exact ⟨_, _, List.mem_append_left _ (List.mem_append_right _ List.mem_cons_self)⟩
  | missed hf ha =>
    cases hf with
    | managed => exact ⟨_, _, List.mem_append_left _ (List.mem_append_right _ List.mem_cons_self)⟩

/-- The uses of caches that a stage of a managed identity has recorded make up what it leaves. -/
theorem Course.managedCaching (h : (Stage.managed r selector).Course es turn)
    (hreplay : Replay s (es.filter Event.isCaching) t) (httl : (s r.cache).ttl = ttl.clamped) :
    ManagedCaching r selector ttl es s t := by
  have hcached := h.cached
  generalize huses : es.filter Event.isCaching = uses at hreplay hcached
  cases hcached with
  | uncached hg => exact absurd rfl (hg r selector)
  | served hg =>
    obtain ⟨rfl, rfl⟩ := Stage.managed.inj hg
    obtain ⟨hserved, rfl⟩ := hreplay
    rw [TokenCache.evict_of_served hserved.symm, Function.update_eq_self]
    exact managedCaching_of_served huses hserved
  | missed hg ht =>
    obtain ⟨rfl, rfl⟩ := Stage.managed.inj hg
    obtain ⟨hserved, rfl⟩ := hreplay
    exact managedCaching_of_missed h ht huses hserved
  | fetched hg =>
    obtain ⟨rfl, rfl⟩ := Stage.managed.inj hg
    obtain ⟨hserved, rfl⟩ := hreplay
    rw [Function.update_self, Function.update_idem]
    exact managedCaching_of_fetched h huses hserved httl

end Stage

/-- The retriever and the selector of a command that gets a token of a managed identity; a command whose
credential is of the other flow gets none. -/
def Command.managed? : Command → Option (ManagedRetriever × Selector)
  | .stage (.managed r selector) => some (r, selector)
  | .authorize ⟨.managed r, _⟩ (.managed selector _) _ => some (r, selector)
  | _ => none

theorem Command.managed?_of_runs {command : Command} {r : ManagedRetriever} {selector : Selector}
    (h : command.Runs (.managed r selector)) : command.managed? = some (r, selector) := by
  generalize hg : Stage.managed r selector = g at h
  cases h with
  | stage g =>
    subst hg
    rfl
  | byClaims ht => exact Stage.noConfusion hg
  | exchange token => exact Stage.noConfusion hg
  | @retrieval a credential host g hr =>
    subst hg
    obtain ⟨retriever, exchanger⟩ := a
    cases retriever <;> cases credential <;> simp [Call.retrieval?, managed?] at hr ⊢
    exact hr

theorem Command.runs_of_managed? {command : Command} {r : ManagedRetriever} {selector : Selector}
    (h : command.managed? = some (r, selector)) : command.Runs (.managed r selector) := by
  unfold managed? at h
  split at h
  · cases h
    exact .stage _
  · cases h
    exact .retrieval rfl
  · simp at h

namespace Call

variable {c : Caller} {command : Command} {rs : List Record} {phase : Phase}

/-- When a call has ended so has its stage of a managed identity. -/
theorem History.ended_of_managed (h : History c command rs phase) {x : Result} (hphase : phase = .done x)
    {r : ManagedRetriever} {selector : Selector} (hruns : command.Runs (.managed r selector)) :
    ∃ result, ⟨(Stage.managed r selector).origin c, .ended result⟩ ∈ rs := by
  cases h with
  | unpolled => simp at hphase
  | unclaimed ht => cases hruns
  | byClaims ht hg h => cases hruns
  | @alone g es turn h =>
    cases hruns
    cases turn with
    | going p => simp [Call.alone] at hphase
    | ended result => exact ⟨result, h.ended_mem_records c⟩
  | mismatched hop hnone he =>
    have hsome := hruns.eq_retrieval Operation.noConfusion
    exact absurd (hnone.symm.trans hsome) (Option.some_ne_none _).symm
  | retrieving hop hg h => simp at hphase
  | @unretrieved a credential host op g es e hop hg h =>
    obtain rfl := Option.some.inj (hg.symm.trans (hruns.eq_retrieval Operation.noConfusion))
    exact ⟨.error e, List.mem_append_left _ (List.mem_append_right _ (h.ended_mem_records c))⟩
  | @retrieved a credential host op g x es es' token turn hop hg h hx h' =>
    obtain rfl := Option.some.inj (hg.symm.trans (hruns.eq_retrieval Operation.noConfusion))
    have hended := List.mem_append_right ((c.within op).records op.opening) (h.ended_mem_records c)
    exact ⟨.ok token, List.mem_append_left _ (List.mem_append_left _ hended)⟩
  | plain hc hp hr => simp [hruns.isPlain] at hc

end Call

/-- Whether moves poll no call for a token but one, and sweep no cache. -/
structure Alone (made : List (String × Command)) (i : Nat) (ms : List Move) : Prop where
  polls : ∀ j name command, .poll j ∈ ms → j ≠ i → made[j]? = some (name, command) →
    command.isPlain = true
  sweeps : ∀ cache, .sweep cache ∉ ms

open Traffic in
/-- What is to be known of the caches after a call that was first polled when other moves had been made. -/
structure CachingAccounted (s : State) (before during : List Move) (i : Nat) (command : Command) :
    Prop where
  /-- A call that gets no token of a managed identity leaves all caches alone. -/
  unmanaged : command.managed? = none →
    ((ofState s).run (before ++ during)).state.tokens = ((ofState s).run before).state.tokens
  managed : ∀ r selector, command.managed? = some (r, selector) →
    ∀ ttl, (s.tokens r.cache).ttl = ttl.clamped →
      ManagedCaching r selector ttl
        (eventsOf ⟨i, some .managedIdentity⟩ ((ofState s).run (before ++ during)).state.trace)
        ((ofState s).run before).state.tokens ((ofState s).run (before ++ during)).state.tokens
  /-- A call that has returned has looked its key up and was told a token or an error. -/
  returned : ∀ r selector, command.managed? = some (r, selector) →
    ∀ x, ((ofState s).run (before ++ during)).result? i = some x →
      ∃ now found result,
        .looked r.cache selector.cacheKey now found ∈
          eventsOf ⟨i, some .managedIdentity⟩ ((ofState s).run (before ++ during)).state.trace ∧
        .ended result ∈
          eventsOf ⟨i, some .managedIdentity⟩ ((ofState s).run (before ++ during)).state.trace
  /-- The instants in the records are what the clocks of the caches showed when they were made. -/
  read : ∀ earlier r later,
    ((ofState s).run (before ++ during)).state.trace = earlier ++ r :: later →
      IsRead s (before ++ during) earlier r

namespace Traffic

variable {s : State} {before during : List Move} {i : Nat} {name : String} {command : Command}

/-- A cache is used by a call for a token of a managed identity, in its stage. -/
theorem Recorded.of_caching {ms : List Move} {w : Traffic} (h : w.Recorded ms) {r : Record}
    (hr : r ∈ w.state.trace) (hcaching : r.event.isCaching = true) :
    ∃ name command retriever selector, (Move.made ms)[r.origin.call]? = some (name, command) ∧
      command.Runs (.managed retriever selector) ∧ r.origin.operation = some .managedIdentity := by
  have honly : r.event.isReport = false ∧ r.event.isPlain = false := by
    cases he : r.event <;> simp [he, Event.isCaching] at hcaching <;> exact ⟨rfl, rfl⟩
  obtain ⟨name, command, g, turn, hmade, hruns, hop, hcourse⟩ := h.course hr (.inl honly)
  have hused : r.event ∈ (eventsOf r.origin w.state.trace).filter Event.isCaching :=
    List.mem_filter.2 ⟨(mem_eventsOf_iff _ _ _).2 hr, hcaching⟩
  -- The use of a cache tells what kind of stage it was.
  obtain ⟨retriever, selector, rfl⟩ : ∃ retriever selector, g = .managed retriever selector := by
    have hcached := hcourse.cached
    generalize (eventsOf r.origin w.state.trace).filter Event.isCaching = uses at hused hcached
    cases hcached with
    | uncached hg => exact absurd hused List.not_mem_nil
    | served hg => exact ⟨_, _, hg⟩
    | missed hg ht => exact ⟨_, _, hg⟩
    | fetched hg => exact ⟨_, _, hg⟩
  exact ⟨name, command, retriever, selector, hmade, hruns, hop⟩

/-- What is done in the stage of a call for a token of a managed identity is a course of that stage. -/
theorem Recorded.course_of_managed {ms : List Move} {w : Traffic} (h : w.Recorded ms)
    (hmade : (Move.made ms)[i]? = some (name, command)) {r : ManagedRetriever} {selector : Selector}
    (hruns : command.Runs (.managed r selector)) {e : Event}
    (he : e ∈ eventsOf ⟨i, some .managedIdentity⟩ w.state.trace) :
    ∃ turn, (Stage.managed r selector).Course (eventsOf ⟨i, some .managedIdentity⟩ w.state.trace) turn := by
  obtain ⟨name', command', g, turn, hmade', hruns', hop, hcourse⟩ :=
    h.course ((mem_eventsOf_iff _ _ _).1 he) (.inr ⟨.managed r selector, rfl⟩)
  obtain ⟨-, rfl⟩ := Prod.mk.inj (Option.some.inj (hmade.symm.trans hmade'))
  obtain rfl : Stage.managed r selector = g :=
    hruns.eq_of_operation hruns' (Option.some.inj hop) Operation.noConfusion
  exact ⟨turn, hcourse⟩

/-- A call uses no cache before its first poll. -/
theorem call_ne_of_unpolled (htrace : s.trace = []) {ms : List Move} (hunpolled : .poll i ∉ ms)
    {r : Record} (hr : r ∈ ((ofState s).run ms).state.trace) (hcaching : r.event.isCaching = true) :
    r.origin.call ≠ i := by
  rintro rfl
  have hrecorded := recorded_run htrace ms
  obtain ⟨name, command, retriever, selector, hmade, hruns, -⟩ := hrecorded.of_caching hr hcaching
  obtain ⟨name', command', hmade', -, hhistory⟩ :=
    hrecorded.of_calls (calls_of_unpolled hmade hunpolled)
  have hown := (mem_recordsOf_iff r.origin.call _ r).2 ⟨hr, rfl⟩
  obtain ⟨-, rfl⟩ := Prod.mk.inj (Option.some.inj (hmade.symm.trans hmade'))
  rw [hhistory.eq_nil_of_ready rfl hruns.isPlain] at hown
  exact absurd hown List.not_mem_nil

/-- Where a call is alone, only it uses caches, in the stage of a managed identity. -/
theorem origin_of_alone (htrace : s.trace = []) (halone : Alone (Move.made (before ++ during)) i during)
    {r : Record} (hr : r ∈ ((ofState s).run (before ++ during)).state.trace)
    (hpolled : .poll r.origin.call ∈ during) (hcaching : r.event.isCaching = true) :
    r.origin = ⟨i, some .managedIdentity⟩ := by
  obtain ⟨name, command, retriever, selector, hmade, hruns, hop⟩ :=
    (recorded_run htrace (before ++ during)).of_caching hr hcaching
  obtain ⟨⟨call, operation⟩, event⟩ := r
  obtain rfl : operation = some .managedIdentity := hop
  by_cases hcall : call = i
  · rw [hcall]
  · -- The other calls that are polled are plain, and a plain call runs no stage.
    have hplain := halone.polls call name command hpolled hcall hmade
    exact absurd hplain (by simp [hruns.isPlain])

/-- After a call that was alone the caches are what its own uses of them make of those before it. -/
theorem replay_of_alone (htrace : s.trace = []) (hfirst : .poll i ∉ before)
    (halone : Alone (Move.made (before ++ during)) i during) :
    Replay ((ofState s).run before).state.tokens
      ((eventsOf ⟨i, some .managedIdentity⟩ ((ofState s).run (before ++ during)).state.trace).filter
        Event.isCaching)
      ((ofState s).run (before ++ during)).state.tokens := by
  obtain ⟨new, hnew, hpolled, hreplay⟩ := replayed_run htrace before during halone.sweeps
  -- Before its first poll the call had used no cache, and since then no other call has.
  have hbefore : (eventsOf ⟨i, some .managedIdentity⟩ ((ofState s).run before).state.trace).filter
      Event.isCaching = [] := by
    refine List.filter_eq_nil_iff.2 fun e he hcaching => ?_
    exact call_ne_of_unpolled htrace hfirst ((mem_eventsOf_iff _ _ _).1 he) hcaching rfl
  have hsince : (eventsOf ⟨i, some .managedIdentity⟩ new).filter Event.isCaching =
      (new.map (·.event)).filter Event.isCaching := by
    rw [eventsOf, List.filter_map, List.filter_map, List.filter_filter]
    refine congrArg _ (List.filter_congr fun r hr => ?_)
    rw [Bool.and_eq_left_iff_imp]
    intro hcaching
    have hmem : r ∈ ((ofState s).run (before ++ during)).state.trace :=
      hnew ▸ List.mem_append_right _ hr
    exact decide_eq_true (origin_of_alone htrace halone hmem (hpolled r hr) hcaching)
  rw [hnew, eventsOf_append, List.filter_append, hbefore, hsince]
  exact hreplay.filter

/-- A call that was under way alone, however far it has come, has changed no entry of a cache but the one of
its key, and that one as its stage went. -/
theorem call_changes_only_its_entry {s : State} (htrace : s.trace = []) {before during : List Move} {i : Nat}
    {name : String} {command : Command}
    (hmade : (Move.made (before ++ during))[i]? = some (name, command)) (hfirst : .poll i ∉ before)
    (halone : Alone (Move.made (before ++ during)) i during) :
    CachingAccounted s before during i command := by
  have hrecorded := recorded_run htrace (before ++ during)
  have hreplay := replay_of_alone htrace hfirst halone
  refine ⟨fun hnone => ?_, fun r selector hsome ttl httl => ?_, fun r selector hsome x hx => ?_,
    fun _ _ _ hsplit => isRead_of_split htrace hsplit⟩
  · have hunused : (eventsOf ⟨i, some .managedIdentity⟩
        ((ofState s).run (before ++ during)).state.trace).filter Event.isCaching = [] := by
      refine List.filter_eq_nil_iff.2 fun e he hcaching => ?_
      obtain ⟨name', command', r, selector, hmade', hruns, -⟩ :=
        hrecorded.of_caching ((mem_eventsOf_iff _ _ _).1 he) hcaching
      obtain ⟨-, rfl⟩ := Prod.mk.inj (Option.some.inj (hmade.symm.trans hmade'))
      exact absurd (hnone.symm.trans (Command.managed?_of_runs hruns)) (Option.some_ne_none _).symm
    rw [hunused] at hreplay
    exact hreplay
  · rw [← ttl_run s r.cache before] at httl
    generalize hes : eventsOf ⟨i, some .managedIdentity⟩ _ = es at hreplay ⊢
    cases es with
    | nil =>
      rw [show _ = _ from hreplay]
      exact Stage.managedCaching_nil
    | cons e es =>
      obtain ⟨turn, hcourse⟩ := hrecorded.course_of_managed hmade (Command.runs_of_managed? hsome)
        (hes ▸ List.mem_cons_self)
      rw [hes] at hcourse
      exact hcourse.managedCaching hreplay httl
  · have hruns := Command.runs_of_managed? hsome
    obtain ⟨result, hmem⟩ := (hrecorded.history_of_result? hmade hx).ended_of_managed rfl hruns
    have hended := (mem_eventsOf_iff _ _ _).2 ((recordsOf_sublist i _).subset hmem)
    obtain ⟨turn, hcourse⟩ := hrecorded.course_of_managed hmade hruns hended
    obtain ⟨now, found, hlooked⟩ := hcourse.looked_mem
    exact ⟨now, found, result, hlooked, hended⟩

/-- A state with two permits, where a retriever is answered twice. -/
def retrievingState : State :=
  .fresh 2 (.ofSeconds 1) [Sample.answer "access_token" "t", Sample.answer "access_token" "u"]

/-- A call leaves a token in the cache, which then comes to its end. -/
def expiredCalls : List Move :=
  [.call "first" (.stage (.managed Sample.retriever Sample.selector)), .poll 0,
    .clocks ⟨2000000000⟩ ⟨0⟩]

/-- An authorizer gets another token, and is cancelled while its exchange waits for a third permit. -/
def unexchangedCalls : List Move :=
  [.call "second" (.authorize Sample.authorizer (.managed Sample.selector none) "registry.io"), .poll 1,
    .call "second" .cancel, .poll 2, .poll 1]

/-- The authorizer fails, and the token that it got has taken the place of the other. -/
theorem caching_of_unexchanged_calls :
    let w := (ofState retrievingState).run (expiredCalls ++ unexchangedCalls)
    (w.result? 1).isSome = true ∧ w.token? 1 = none ∧
    (w.state.tokens 0).find? Sample.selector.cacheKey = some ⟨⟨"u"⟩, ⟨3000000000⟩⟩ ∧
    CachingAccounted retrievingState expiredCalls unexchangedCalls 1
      (.authorize Sample.authorizer (.managed Sample.selector none) "registry.io") := by
  refine ⟨by decide +kernel, by decide +kernel, by decide +kernel, ?_⟩
  refine call_changes_only_its_entry rfl rfl (by simp [expiredCalls]) ⟨?_, ?_⟩
  · intro j name command hpoll hne hmade
    obtain rfl | rfl | rfl : j = 1 ∨ j = 2 ∨ j = 1 := by
      simpa [unexchangedCalls] using hpoll
    · exact absurd rfl hne
    · cases hmade
      rfl
    · exact absurd rfl hne
  · simp [unexchangedCalls]

end Traffic

end RegistryAuth
