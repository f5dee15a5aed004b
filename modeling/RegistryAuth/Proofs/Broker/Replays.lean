import Mathlib.Logic.Function.Basic
import RegistryAuth.Proofs.Broker.Provenance

/-!
# Replaying records

Every use of a cache is a record, so the caches after a run are those before it with the new records
replayed: `Traffic.replayed_run`.  A sweep is no use that a call makes, and is not recorded.
-/

namespace RegistryAuth

/-! ## 1. Replaying events -/

/-- Whether events take caches to others: look-ups serve what is live and take out what is not, and stores
put tokens in. -/
def Replay : (Nat → TokenCache) → List Event → (Nat → TokenCache) → Prop
  | s, [], t => t = s
  | s, .looked cache key now served :: es, t =>
    served = (s cache).served? now key ∧
      Replay (Function.update s cache ((s cache).evict now key)) es t
  | s, .stored cache key token now :: es, t =>
    Replay (Function.update s cache ((s cache).insert now key token)) es t
  | s, _ :: es, t => Replay s es t

theorem TokenCache.ttl_update {s : Nat → TokenCache} {cache : Nat} {tokens : TokenCache}
    (h : tokens.ttl = (s cache).ttl) (other : Nat) :
    (Function.update s cache tokens other).ttl = (s other).ttl := by
  rw [Function.update_apply]
  split
  · rename_i hc
    rw [h, hc]
  · rfl

/-- A key that is served keeps its entry, and the others keep theirs. -/
theorem TokenCache.evict_of_served {c : TokenCache} {now : Instant} {key : CacheKey} {token : AccessToken}
    (h : c.served? now key = some token) : c.evict now key = c := by
  unfold evict
  split
  · rename_i e he
    split
    · rfl
    · rename_i hv
      simp [served?, he, Option.filter, hv] at h
  · rfl

theorem TokenCache.find?_evict_of_unserved {c : TokenCache} {now : Instant} {key : CacheKey}
    (h : c.served? now key = none) : (c.evict now key).find? key = none := by
  rw [c.find?_evict now key key, if_pos rfl]
  exact Option.map_eq_none_iff.1 h

namespace Replay

variable {s t u : Nat → TokenCache} {es es' : List Event}

theorem append (h : Replay s es t) (h' : Replay t es' u) : Replay s (es ++ es') u := by
  induction es generalizing s with
  | nil => exact h ▸ h'
  | cons e es ih =>
    cases e with
    | looked cache key now served => exact ⟨h.1, ih h.2⟩
    | _ => exact ih h

/-- Only the uses of caches count. -/
theorem filter (h : Replay s es t) : Replay s (es.filter Event.isCaching) t := by
  induction es generalizing s with
  | nil => exact h
  | cons e es ih =>
    cases e with
    | looked cache key now served => exact ⟨h.1, ih h.2⟩
    | _ => exact ih h

theorem ttl_eq (h : Replay s es t) (cache : Nat) : (t cache).ttl = (s cache).ttl := by
  induction es generalizing s with
  | nil => rw [show t = s from h]
  | cons e es ih =>
    cases e with
    | looked other key now served =>
      exact (ih h.2).trans (TokenCache.ttl_update ((s other).ttl_evict now key) cache)
    | stored other key token now =>
      have hinsert : ((s other).insert now key token).ttl = (s other).ttl := rfl
      exact (ih h).trans (TokenCache.ttl_update hinsert cache)
    | _ => exact ih h

end Replay

/-! ## 2. Records are replayed -/

namespace State

theorem tokens_setTokens_eq_update (s : State) (cache : Nat) (tokens : TokenCache) :
    (s.setTokens cache tokens).tokens = Function.update s.tokens cache tokens := by
  funext other
  rw [tokens_setTokens, Function.update_apply]

/-- What has been recorded between two states is of certain calls, and tells what became of the caches. -/
def Replayed (calls : Nat → Prop) (s t : State) : Prop :=
  ∃ new, t.trace = s.trace ++ new ∧ (∀ r ∈ new, calls r.origin.call) ∧
    Replay s.tokens (new.map (·.event)) t.tokens

namespace Replayed

variable {calls : Nat → Prop} {s t u : State}

theorem refl (calls : Nat → Prop) (s : State) : Replayed calls s s :=
  ⟨[], (List.append_nil _).symm, fun _ hr => absurd hr List.not_mem_nil, rfl⟩

theorem trans (h : Replayed calls s t) (h' : Replayed calls t u) : Replayed calls s u := by
  obtain ⟨new, htrace, hown, hreplay⟩ := h
  obtain ⟨more, htrace', hown', hreplay'⟩ := h'
  refine ⟨new ++ more, by rw [htrace', htrace, List.append_assoc], fun r hr => ?_, ?_⟩
  · exact (List.mem_append.1 hr).elim (hown r) (hown' r)
  · rw [List.map_append]
    exact hreplay.append hreplay'

theorem mono {calls' : Nat → Prop} (h : Replayed calls s t) (hsub : ∀ i, calls i → calls' i) :
    Replayed calls' s t := by
  obtain ⟨new, htrace, hown, hreplay⟩ := h
  exact ⟨new, htrace, fun r hr => hsub _ (hown r hr), hreplay⟩

/-- Events at one origin of a call. -/
theorem of_records {o : Origin} (es : List Event) (ho : calls o.call)
    (htrace : t.trace = s.trace ++ o.records es) (h : Replay s.tokens es t.tokens) :
    Replayed calls s t := by
  refine ⟨o.records es, htrace, fun r hr => ?_, ?_⟩
  · rwa [Origin.origin_of_mem_records hr]
  · have hevents : (o.records es).map (·.event) = es := by
      rw [Origin.records, List.map_map]
      exact List.map_id es
    rwa [hevents]

end Replayed

variable {c : Caller} {s t : State}

theorem replay_of_caches {es : List Event} (hes : ∀ e ∈ es, e.isCaching = false)
    (hcaches : t.caches = s.caches) : Replay s.tokens es t.tokens := by
  have htokens : t.tokens = s.tokens := funext fun cache => tokens_of_caches hcaches cache
  induction es with
  | nil => exact htokens
  | cons e es ih =>
    have hrest := ih fun e he => hes e (List.mem_cons_of_mem _ he)
    have hnone := hes e List.mem_cons_self
    cases e with
    | looked cache key now served => exact Bool.noConfusion hnone
    | stored cache key token now => exact Bool.noConfusion hnone
    | _ => exact hrest

/-- An effect records all that it does to the caches. -/
theorem Effect.replayed (h : Effect c s t) : Replayed (· = c.call) s t := by
  cases h with
  | @noted o e ho he =>
    refine .of_records [e] ho rfl (replay_of_caches (fun e' he' => ?_) rfl)
    rw [List.mem_singleton.1 he']
    exact Event.isCaching_of_isNote he
  | @granted _ o bucket ho hc hp =>
    refine .of_records _ ho (trace_of_takePermit? hp) (replay_of_caches ?_ (caches_of_takePermit? hp))
    simp [Event.isCaching]
  | @dispatched t o bucket q ho hc hp =>
    have htrace : (t.send o q).1.trace = s.trace ++ o.records [.permit bucket, .sent q] := by
      rw [trace_send, trace_of_takePermit? hp, List.append_assoc]
      rfl
    refine .of_records _ ho htrace (replay_of_caches ?_ ?_)
    · simp [Event.isCaching]
    · rw [caches_send, caches_of_takePermit? hp]
  | moved => exact ⟨[], (List.append_nil _).symm, fun _ hr => absurd hr List.not_mem_nil, rfl⟩
  | @cancelled o name ho =>
    exact .of_records [.cancelled name] ho rfl (replay_of_caches (by simp [Event.isCaching]) rfl)
  | @looked o cache key ho =>
    refine .of_records [_] ho rfl ⟨rfl, ?_⟩
    exact s.tokens_setTokens_eq_update cache _
  | @stored o cache key token ho =>
    refine .of_records [.stored cache key token (s.now cache)] ho rfl ?_
    exact s.tokens_setTokens_eq_update cache _

theorem Effects.replayed (h : Effects c s t) : Replayed (· = c.call) s t :=
  h.keep (P := Replayed _ s) (fun _ _ he h => h.trans he.replayed) (.refl _ s)

end State

namespace Traffic

open State (Replayed)

/-- While no cache is swept, the caches become what the records of the calls that are polled tell. -/
theorem replayed_run {s : State} (htrace : s.trace = []) (before during : List Move)
    (hsweep : ∀ cache, .sweep cache ∉ during) :
    Replayed (fun j => .poll j ∈ during) ((ofState s).run before).state
      ((ofState s).run (before ++ during)).state := by
  induction during using List.reverseRecOn with
  | nil =>
    rw [List.append_nil]
    exact .refl _ _
  | append_singleton during m ih =>
    have hrest := (ih fun cache hmem => hsweep cache (List.mem_append_left _ hmem)).mono
      fun j hj => List.mem_append_left [m] hj
    have hrun : (ofState s).run (before ++ (during ++ [m])) =
        ((ofState s).run (before ++ during)).step m := by
      rw [← List.append_assoc]
      exact run_append _ _ [m]
    rw [hrun]
    cases m with
    | call name command => exact hrest
    | clocks clock machine => exact hrest
    | files files slow => exact hrest
    | sweep cache => exact absurd (List.mem_append_right _ (List.mem_singleton_self _)) (hsweep cache)
    | poll j =>
      rcases effects_poll _ j with hsame | ⟨c, hj, heffects⟩
      · rwa [hsame]
      · refine hrest.trans (heffects.replayed.mono fun i hi => ?_)
        obtain rfl : i = j := hi.trans ((recorded_run htrace (before ++ during)).call_eq hj)
        exact List.mem_append_right _ (List.mem_singleton_self _)

/-- No cache ever changes the time that it keeps tokens for. -/
theorem ttl_run (s : State) (cache : Nat) (ms : List Move) :
    (((ofState s).run ms).state.tokens cache).ttl = (s.tokens cache).ttl := by
  refine run_keep (P := fun t => (t.tokens cache).ttl = (s.tokens cache).ttl) rfl ?_
    (fun _ _ _ h => h) (fun _ _ _ h => h) ?_ ms
  · intro c t u he h
    obtain ⟨new, -, -, hreplay⟩ := he.replayed
    exact (hreplay.ttl_eq cache).trans h
  · intro t other h
    have hswept : ((t.tokens other).sweep (t.now other)).2.ttl = (t.tokens other).ttl := rfl
    show ((t.setTokens other ((t.tokens other).sweep (t.now other)).2).tokens cache).ttl = _
    rw [State.tokens_setTokens_eq_update, TokenCache.ttl_update hswept]
    exact h

end Traffic

end RegistryAuth
