import RegistryAuth.Proofs.Broker.Failures
import RegistryAuth.Proofs.Broker.Readings
import RegistryAuth.Proofs.Cache.History

/-!
# Where tokens come from

A managed identity's token is the answer to the call's own request or was the last to be stored under
the selector's key, by a call that succeeded, and had not come to its end when it was looked up, both
by the clock of the cache at the time.  This holds after every run: a cache is accounted for by the
stores of the trace, which every effect of a call keeps.
-/

namespace RegistryAuth

/-! ## 1. Stores of a trace -/

/-- A token that was stored, by whom and when. -/
structure Stored where
  origin : Origin
  token : AccessToken
  instant : Instant

/-- What a record says was stored under a key. -/
def Record.stored? (cache : Nat) (key : CacheKey) (r : Record) : Option Stored :=
  match r.event with
  | .stored cache' key' token now =>
    if cache' = cache ∧ key' = key then some ⟨r.origin, token, now⟩ else none
  | _ => none

/-- The last to be stored under a key of a cache. -/
def lastStored? (cache : Nat) (key : CacheKey) (trace : List Record) : Option Stored :=
  (trace.filterMap (Record.stored? cache key)).getLast?

/-- Whether a token is the last to be stored under a key, and is served at an instant for it. -/
def IsServed (cache : Nat) (ttl : Duration) (trace : List Record) (key : CacheKey) (now : Instant)
    (token : AccessToken) : Prop :=
  ∃ x, lastStored? cache key trace = some x ∧ x.token = token ∧
    now.nanos < (TokenCache.endOf ttl x.instant).nanos

section Stores

variable {cache : Nat} {key : CacheKey} {trace : List Record} {r : Record}

theorem lastStored?_concat_of_none (h : r.stored? cache key = none) :
    lastStored? cache key (trace ++ [r]) = lastStored? cache key trace := by
  simp [lastStored?, h]

theorem lastStored?_concat_of_some {x : Stored} (h : r.stored? cache key = some x) :
    lastStored? cache key (trace ++ [r]) = some x := by
  simp [lastStored?, h]

theorem stored?_eq_some_iff {x : Stored} :
    r.stored? cache key = some x ↔ r = ⟨x.origin, .stored cache key x.token x.instant⟩ := by
  obtain ⟨o, e⟩ := r
  unfold Record.stored?
  constructor
  · intro h
    split at h
    -- Only a store of this key into this cache counts.
    · rename_i cache' key' token now he
      by_cases hk : cache' = cache ∧ key' = key
      · obtain ⟨rfl, rfl⟩ := hk
        rw [if_pos ⟨rfl, rfl⟩] at h
        cases h
        change e = _ at he
        rw [he]
      · rw [if_neg hk] at h
        simp at h
    · simp at h
  · intro h
    cases h
    simp

/-- Behind the last store under a key nothing was stored under it. -/
theorem split_of_lastStored? {x : Stored} (h : lastStored? cache key trace = some x) :
    ∃ earlier between, trace = earlier ++ ⟨x.origin, .stored cache key x.token x.instant⟩ :: between ∧
      ∀ r ∈ between, r.stored? cache key = none := by
  induction trace using List.reverseRecOn with
  | nil => simp [lastStored?] at h
  | append_singleton trace r ih =>
    cases hr : r.stored? cache key with
    | none =>
      rw [lastStored?_concat_of_none hr] at h
      obtain ⟨earlier, between, rfl, hbetween⟩ := ih h
      refine ⟨earlier, between ++ [r], by simp, fun r' hr' => ?_⟩
      rcases List.mem_append.1 hr' with hr' | hr'
      · exact hbetween r' hr'
      · rw [List.mem_singleton.1 hr', hr]
    | some y =>
      rw [lastStored?_concat_of_some hr] at h
      obtain rfl := Option.some.inj h
      rw [stored?_eq_some_iff.1 hr]
      exact ⟨trace, [], rfl, fun _ hr' => absurd hr' List.not_mem_nil⟩

theorem mem_of_lastStored? {x : Stored} (h : lastStored? cache key trace = some x) :
    ⟨x.origin, .stored cache key x.token x.instant⟩ ∈ trace := by
  obtain ⟨earlier, between, rfl, -⟩ := split_of_lastStored? h
  exact List.mem_append_right _ List.mem_cons_self

end Stores

/-! ## 2. Caches are accounted for -/

/-- Every look-up of a cache served the last token that had been stored under its key. -/
def ServesLast (cache : Nat) (ttl : Duration) (trace : List Record) : Prop :=
  ∀ before after o key now token,
    trace = before ++ ⟨o, .looked cache key now (some token)⟩ :: after →
      IsServed cache ttl before key now token

theorem ServesLast.concat {cache : Nat} {ttl : Duration} {trace : List Record} {r : Record}
    (h : ServesLast cache ttl trace)
    (hr : ∀ o key now token, r = ⟨o, .looked cache key now (some token)⟩ →
      IsServed cache ttl trace key now token) : ServesLast cache ttl (trace ++ [r]) := by
  intro before after o key now token heq
  rcases split_concat heq with ⟨rfl, hlast⟩ | ⟨more, hold⟩
  · exact hr o key now token hlast.symm
  · exact h before more o key now token hold

theorem Event.isCaching_of_isNote {e : Event} (h : e.isNote = true) : e.isCaching = false := by
  cases e with
  | looked cache key now served => exact Bool.noConfusion h
  | stored cache key token now => exact Bool.noConfusion h
  | _ => rfl

namespace State

/-- What a cache holds and has served comes from the stores of the trace. -/
structure Accounted (cache : Nat) (ttl : Duration) (s : State) : Prop where
  ttl_eq : (s.tokens cache).ttl = ttl.clamped
  held : ∀ key e, (s.tokens cache).find? key = some e →
    ∃ x, lastStored? cache key s.trace = some x ∧ e = ⟨x.token, TokenCache.endOf ttl x.instant⟩
  served : ServesLast cache ttl s.trace

theorem caches_of_takePermit? {s t : State} {o : Origin} {bucket : Nat}
    (h : s.takePermit? o bucket = some t) : t.caches = s.caches := by
  obtain ⟨n, -, rfl⟩ := eq_of_takePermit? h
  rfl

theorem caches_send (s : State) (o : Origin) (q : Http.Request) :
    (s.send o q).1.caches = s.caches := by
  obtain ⟨replies, h⟩ := s.fst_send o q
  rw [h]
  rfl

theorem tokens_of_caches {s t : State} (h : t.caches = s.caches) (cache : Nat) :
    t.tokens cache = s.tokens cache := by
  unfold State.tokens
  rw [h]

theorem tokens_setTokens (s : State) (cache other : Nat) (tokens : TokenCache) :
    (s.setTokens other tokens).tokens cache = if cache = other then tokens else s.tokens cache := by
  unfold State.tokens setTokens
  simp only
  split <;> rfl

namespace Accounted

variable {cache : Nat} {ttl : Duration} {s t : State}

/-- Nothing new is to be accounted for where nothing is stored. -/
theorem append {r : Record} (h : s.Accounted cache ttl) (htrace : t.trace = s.trace ++ [r])
    (httl : (t.tokens cache).ttl = (s.tokens cache).ttl)
    (hfind : ∀ key e, (t.tokens cache).find? key = some e → (s.tokens cache).find? key = some e)
    (hstored : ∀ key, r.stored? cache key = none)
    (hlooked : ∀ o key now token, r = ⟨o, .looked cache key now (some token)⟩ →
      IsServed cache ttl s.trace key now token) : t.Accounted cache ttl where
  ttl_eq := httl.trans h.ttl_eq
  held key e he := by
    rw [htrace, lastStored?_concat_of_none (hstored key)]
    exact h.held key e (hfind key e he)
  served := by
    rw [htrace]
    exact h.served.concat hlooked

theorem append_of_caches {o : Origin} {e : Event} (h : s.Accounted cache ttl)
    (hcaches : t.caches = s.caches) (htrace : t.trace = s.trace ++ [⟨o, e⟩])
    (he : e.isCaching = false) : t.Accounted cache ttl := by
  have htokens := tokens_of_caches hcaches cache
  refine h.append htrace (congrArg TokenCache.ttl htokens) ?_ ?_ ?_
  · intro key entry hfind
    rwa [htokens] at hfind
  · intro key
    cases e with
    | stored cache' key' token now => simp [Event.isCaching] at he
    | _ => rfl
  · intro o' key now token heq
    cases heq
    simp [Event.isCaching] at he

theorem of_kept (h : s.Accounted cache ttl) (htrace : t.trace = s.trace)
    (httl : (t.tokens cache).ttl = (s.tokens cache).ttl)
    (hfind : ∀ key e, (t.tokens cache).find? key = some e → (s.tokens cache).find? key = some e) :
    t.Accounted cache ttl where
  ttl_eq := httl.trans h.ttl_eq
  held key e he := by
    rw [htrace]
    exact h.held key e (hfind key e he)
  served := by
    rw [htrace]
    exact h.served

theorem looked (h : s.Accounted cache ttl) (o : Origin) (other : Nat) (key : CacheKey) :
    ((s.setTokens other ((s.tokens other).evict (s.now other) key)).record o
      (.looked other key (s.now other) ((s.tokens other).served? (s.now other) key))).Accounted
      cache ttl := by
  refine h.append rfl ?_ ?_ (fun _ => rfl) ?_
  · show ((s.setTokens other _).tokens cache).ttl = _
    rw [tokens_setTokens]
    split
    · rename_i hc
      rw [hc, TokenCache.ttl_evict]
    · rfl
  · intro key' e hfind
    change ((s.setTokens other _).tokens cache).find? key' = some e at hfind
    rw [tokens_setTokens] at hfind
    split at hfind
    · rename_i hc
      rw [hc]
      exact TokenCache.find?_of_evict hfind
    · exact hfind
  · intro o' key' now token heq
    simp only [Record.mk.injEq, Event.looked.injEq] at heq
    obtain ⟨-, rfl, rfl, rfl, hserved⟩ := heq
    -- What is served is held and has not come to its end.
    obtain ⟨e, he, rfl⟩ := Option.map_eq_some_iff.1 hserved
    obtain ⟨hfind, hvalid⟩ := Option.filter_eq_some_iff.1 he
    obtain ⟨x, hx, rfl⟩ := h.held key e hfind
    exact ⟨x, hx, rfl, of_decide_eq_true hvalid⟩

theorem stored (h : s.Accounted cache ttl) (o : Origin) (other : Nat) (key : CacheKey)
    (token : AccessToken) : (s.store o other key token).Accounted cache ttl := by
  by_cases hc : cache = other
  · subst hc
    have htokens : (s.store o cache key token).tokens cache =
        (s.tokens cache).insert (s.now cache) key token := by
      show (s.setTokens cache _).tokens cache = _
      rw [tokens_setTokens, if_pos rfl]
    have htrace : (s.store o cache key token).trace =
        s.trace ++ [⟨o, .stored cache key token (s.now cache)⟩] := rfl
    refine ⟨?_, fun key' e he => ?_, ?_⟩
    · rw [htokens]
      exact h.ttl_eq
    · rw [htokens, TokenCache.find?_insert] at he
      rw [htrace]
      -- The new entry is that of the last store; under other keys nothing is new.
      by_cases hk : key' = key
      · subst hk
        rw [if_pos rfl, h.ttl_eq] at he
        refine ⟨⟨o, token, s.now cache⟩, ?_, (Option.some.inj he).symm⟩
        exact lastStored?_concat_of_some (stored?_eq_some_iff.2 rfl)
      · rw [if_neg hk] at he
        have hnone : (⟨o, .stored cache key token (s.now cache)⟩ : Record).stored? cache key' = none :=
          if_neg fun hand => hk hand.2.symm
        rw [lastStored?_concat_of_none hnone]
        exact h.held key' e he
    · rw [htrace]
      refine h.served.concat fun o' key' now token' heq => ?_
      simp at heq
  · have htokens : (s.store o other key token).tokens cache = s.tokens cache := by
      show (s.setTokens other _).tokens cache = _
      rw [tokens_setTokens, if_neg hc]
    refine h.append rfl (congrArg TokenCache.ttl htokens) ?_ ?_ ?_
    · intro key' e hfind
      rwa [htokens] at hfind
    · exact fun key' => if_neg fun hand => hc hand.1.symm
    · intro o' key' now token' heq
      simp at heq

/-- What a poll does one after the other keeps a cache accounted for. -/
theorem effect {c : Caller} (he : Effect c s t) (h : s.Accounted cache ttl) :
    t.Accounted cache ttl := by
  cases he with
  | @noted o e ho he =>
    exact h.append_of_caches (o := o) (e := e) rfl rfl (Event.isCaching_of_isNote he)
  | granted ho hc hp =>
    exact h.append_of_caches (caches_of_takePermit? hp) (trace_of_takePermit? hp) rfl
  | dispatched ho hc hp =>
    -- A request is two records, that of its permit and its own.
    have hgranted := h.append_of_caches (caches_of_takePermit? hp) (trace_of_takePermit? hp) rfl
    exact hgranted.append_of_caches (caches_send _ _ _) (trace_send _ _ _) rfl
  | moved => exact h.of_kept rfl rfl fun _ _ hfind => hfind
  | @cancelled o name ho => exact h.append_of_caches (o := o) (e := .cancelled name) rfl rfl rfl
  | looked ho => exact h.looked _ _ _
  | stored ho => exact h.stored _ _ _ _

theorem sweep (h : s.Accounted cache ttl) (other : Nat) : (s.sweep other).1.Accounted cache ttl := by
  have htokens : (s.sweep other).1.tokens cache =
      if cache = other then ((s.tokens other).sweep (s.now other)).2 else s.tokens cache :=
    s.tokens_setTokens cache other _
  refine h.of_kept rfl ?_ fun key e hfind => ?_
  · rw [htokens]
    split
    · rename_i hc
      rw [hc]
      rfl
    · rfl
  · rw [htokens] at hfind
    split at hfind
    · rename_i hc
      rw [TokenCache.find?_sweep] at hfind
      rw [hc]
      exact (Option.filter_eq_some_iff.1 hfind).1
    · exact hfind

end Accounted

end State

namespace Traffic

/-- After every run a cache that was empty at first is accounted for by the stores of the run. -/
theorem accounted_run {s : State} {cache : Nat} {ttl : Duration} (hs : s.trace = [])
    (hcache : s.tokens cache = .empty ttl) (ms : List Move) :
    ((ofState s).run ms).state.Accounted cache ttl := by
  -- At first the cache and the trace are empty, so nothing is to be accounted for.
  refine run_keep ?_ (fun _ _ _ he h => h.effect he)
    (fun _ _ _ h => h.of_kept rfl rfl fun _ _ hfind => hfind)
    (fun _ _ _ h => h.of_kept rfl rfl fun _ _ hfind => hfind) (fun _ cache' h => h.sweep cache') ms
  refine ⟨?_, fun key e he => ?_, fun before after o key now token heq => ?_⟩
  · rw [hcache]
    rfl
  · rw [hcache] at he
    simp at he
  · rw [hs] at heq
    simp at heq

end Traffic

/-! ## 3. What a stage ends with -/

namespace Stage

/-- What a stage of a managed identity ends with was found in its cache or answers its request. -/
theorem Course.of_managed {es : List Event} {r : ManagedRetriever} {selector : Selector} {token : AccessToken}
    (h : (Stage.managed r selector).Course es (.ended (.ok token))) :
    (∃ now, .looked r.cache selector.cacheKey now (some token) ∈ es) ∨
      ∃ q slot response, Managed.request r.settings selector = .ok q ∧
        [.sent q, .settled slot (.ok response)].Sublist es ∧
        Managed.token response (slot.getD .empty) = .ok token := by
  rcases h.of_token with ⟨found, hf, hsub⟩ | ⟨files, q, slot, response, hp, hsub, hc⟩
  · cases hf with
    | @managed _ _ _ now found => exact .inl ⟨now, hsub List.mem_cons_self⟩
  · exact .inr ⟨q, slot, response, eq_ok_of_prepared hp, hsub, hc⟩

end Stage

/-! ## 4. Provenance -/

/-- Whether selectors are of one kind and have the same text, case apart. -/
def Selector.Alike (s t : Selector) : Prop :=
  s.parameter = t.parameter ∧ Text.lowercase s.value = Text.lowercase t.value

/-- The tokens of two selectors are kept under one key just when the selectors are alike. -/
theorem Selector.cacheKey_eq_iff (s t : Selector) : s.cacheKey = t.cacheKey ↔ s.Alike t := by
  cases s <;> cases t <;> simp [cacheKey, Alike, parameter, value]

/-- At an origin the token of an identity was asked for, and an answer of status 200 holds it. -/
def IsAnswered (trace : List Record) (o : Origin) (r : ManagedRetriever) (selector : Selector)
    (token : AccessToken) : Prop :=
  ∃ q slot response fields, Managed.request r.settings selector = .ok q ∧
    [⟨o, .sent q⟩, ⟨o, .settled slot (.ok response)⟩].Sublist trace ∧ response.status = 200 ∧
    Managed.answerRecord.read response.body = .ok fields ∧
    fields.text? "access_token" = some token.text

namespace Traffic

/-- A token was found in a cache, where it was the last to be stored under the key of the selector, by
a call that succeeded and whose selector is alike, and its time had not run out.  Both instants are what
the clock of the cache showed, when it was looked up and when it was stored. -/
def IsFound (s : State) (ms : List Move) (o : Origin) (r : ManagedRetriever) (selector : Selector)
    (token : AccessToken) : Prop :=
  ∃ before now after earlier x between name command r' selector',
    ((ofState s).run ms).state.trace =
      before ++ ⟨o, .looked r.cache selector.cacheKey now (some token)⟩ :: after ∧
    IsRead s ms before ⟨o, .looked r.cache selector.cacheKey now (some token)⟩ ∧
    lastStored? r.cache selector.cacheKey before = some x ∧ x.token = token ∧
    before = earlier ++ ⟨x.origin, .stored r.cache selector.cacheKey token x.instant⟩ :: between ∧
    (∀ t ∈ between, t.stored? r.cache selector.cacheKey = none) ∧
    IsRead s ms earlier ⟨x.origin, .stored r.cache selector.cacheKey token x.instant⟩ ∧
    now.nanos < min (x.instant.nanos + max r.settings.ttl.nanos 0) Instant.greatest.nanos ∧
    (Move.made ms)[x.origin.call]? = some (name, command) ∧ command.Runs (.managed r' selector') ∧
    r'.cache = r.cache ∧ selector'.Alike selector ∧
    x.origin.operation = some .managedIdentity ∧
    ⟨x.origin, .ended (.ok token)⟩ ∈ ((ofState s).run ms).state.trace

variable {s : State} {ms : List Move}

/-- What is stored was stored by a stage that ended with it. -/
theorem Recorded.of_stored {w : Traffic} (h : w.Recorded ms) {o : Origin} {cache : Nat}
    {key : CacheKey} {token : AccessToken} {now : Instant}
    (hr : (⟨o, .stored cache key token now⟩ : Record) ∈ w.state.trace) :
    ∃ name command r selector, (Move.made ms)[o.call]? = some (name, command) ∧
      command.Runs (.managed r selector) ∧ r.cache = cache ∧ selector.cacheKey = key ∧
      o.operation = some .managedIdentity ∧ ⟨o, .ended (.ok token)⟩ ∈ w.state.trace := by
  obtain ⟨name, command, g, turn, hmade, hruns, hop, hcourse⟩ := h.course hr (.inl ⟨rfl, rfl⟩)
  obtain ⟨r, selector, rfl, hcache, hkey, rfl⟩ := hcourse.of_stored ((mem_eventsOf_iff o _ _).2 hr)
  have hended := (mem_eventsOf_iff o _ _).1 (hcourse.ended_mem_iff.2 rfl)
  exact ⟨name, command, r, selector, hmade, hruns, hcache, hkey, hop, hended⟩

/-- The token that the operation of a retriever ended with was answered to it or found by it. -/
theorem ended_from_answer_or_store {r : ManagedRetriever} (htrace : s.trace = [])
    (hcache : s.tokens r.cache = .empty r.settings.ttl) (ms : List Move) {i : Nat} {name : String}
    {command : Command} {selector : Selector} {token : AccessToken}
    (hmade : (Move.made ms)[i]? = some (name, command)) (hruns : command.Runs (.managed r selector))
    (hended : ⟨⟨i, some .managedIdentity⟩, .ended (.ok token)⟩ ∈ ((ofState s).run ms).state.trace) :
    IsAnswered ((ofState s).run ms).state.trace ⟨i, some .managedIdentity⟩ r selector token ∨
      IsFound s ms ⟨i, some .managedIdentity⟩ r selector token := by
  -- The history tells what the stage did, and the account where a found token had come from.
  have hrecorded := recorded_run htrace ms
  have haccounted := accounted_run htrace hcache ms
  obtain ⟨name', command', g, turn, hmade', hruns', hop, hcourse⟩ :=
    hrecorded.course hended (.inr ⟨.managed r selector, rfl⟩)
  obtain ⟨rfl, rfl⟩ : name = name' ∧ command = command' := by
    have heq := Option.some.inj (hmade.symm.trans hmade')
    exact ⟨congrArg Prod.fst heq, congrArg Prod.snd heq⟩
  obtain rfl : Stage.managed r selector = g :=
    hruns.eq_of_operation hruns' (Option.some.inj hop) Operation.noConfusion
  obtain rfl := hcourse.ended_mem_iff.1 ((mem_eventsOf_iff _ _ _).2 hended)
  rcases hcourse.of_managed with ⟨now, hlooked⟩ | ⟨q, slot, response, hq, hsub, htoken⟩
  · right
    obtain ⟨before, after, hsplit⟩ := List.append_of_mem ((mem_eventsOf_iff _ _ _).1 hlooked)
    obtain ⟨x, hlast, rfl, hlt⟩ := haccounted.served before after _ _ now token hsplit
    -- The store that the account names is a record, so a stage made it and succeeded.
    obtain ⟨earlier, between, hearlier, hbetween⟩ := split_of_lastStored? hlast
    have hstored : ((ofState s).run ms).state.trace = earlier ++
        ⟨x.origin, .stored r.cache selector.cacheKey x.token x.instant⟩ ::
          (between ++ ⟨⟨i, some .managedIdentity⟩,
            .looked r.cache selector.cacheKey now (some x.token)⟩ :: after) := by
      rw [hsplit, hearlier, List.append_assoc, List.cons_append]
    obtain ⟨name'', command'', r', selector', hmade'', hruns'', hc, hkey, hop'', hended''⟩ :=
      hrecorded.of_stored (hstored ▸ List.mem_append_right _ List.mem_cons_self)
    exact ⟨before, now, after, earlier, x, between, name'', command'', r', selector', hsplit,
      isRead_of_split htrace hsplit, hlast, rfl, hearlier, hbetween, isRead_of_split htrace hstored, hlt,
      hmade'', hruns'', hc, (selector'.cacheKey_eq_iff selector).1 hkey, hop'', hended''⟩
  · left
    rw [Managed.token_eq] at htoken
    obtain ⟨hstatus, -, fields, hread, htext⟩ := TokenAnswer.of_token_eq_ok htoken
    exact ⟨q, slot, response, fields, hq, sublist_of_eventsOf _ _ hsub, hstatus, hread, htext⟩

/-- What a call for a token of an identity returns is the answer to its own request, or the last token to
be stored by a successful call for the identity, which had not come to its end. -/
theorem token_from_answer_or_store {r : ManagedRetriever} (htrace : s.trace = [])
    (hcache : s.tokens r.cache = .empty r.settings.ttl) (ms : List Move) {i : Nat} {name : String}
    {selector : Selector} {token : AccessToken}
    (hmade : (Move.made ms)[i]? = some (name, .stage (.managed r selector)))
    (htoken : ((ofState s).run ms).token? i = some token) :
    IsAnswered ((ofState s).run ms).state.trace ⟨i, some .managedIdentity⟩ r selector token ∨
      IsFound s ms ⟨i, some .managedIdentity⟩ r selector token := by
  refine ended_from_answer_or_store htrace hcache ms hmade (.stage _) ?_
  have hhistory := (recorded_run htrace ms).history_of_result? hmade (result?_of_token? htoken)
  exact (recordsOf_sublist i _).subset (hhistory.ended_of_stage rfl)

/-- Two calls of a retriever for one identity, the second half a second after the first. -/
def repeatedCalls : List Move :=
  [.call "first" (.stage (.managed Sample.retriever Sample.capitalSelector)), .poll 0,
    .call "second" (.stage (.managed Sample.retriever Sample.selector)),
    .clocks ⟨500000000⟩ ⟨0⟩, .poll 1]

/-- The second of the calls returns the token of the first. -/
theorem token_of_repeated_call :
    ((ofState Sample.state).run repeatedCalls).token? 1 = some ⟨"t"⟩ ∧
    (IsAnswered ((ofState Sample.state).run repeatedCalls).state.trace ⟨1, some .managedIdentity⟩
        Sample.retriever Sample.selector ⟨"t"⟩ ∨
      IsFound Sample.state repeatedCalls ⟨1, some .managedIdentity⟩ Sample.retriever Sample.selector
        ⟨"t"⟩) := by
  have htoken : ((ofState Sample.state).run repeatedCalls).token? 1 = some ⟨"t"⟩ := by
    decide +kernel
  exact ⟨htoken, token_from_answer_or_store rfl rfl repeatedCalls rfl htoken⟩

end Traffic

end RegistryAuth
