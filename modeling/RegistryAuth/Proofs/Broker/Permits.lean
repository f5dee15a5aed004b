import RegistryAuth.Proofs.Broker.Failures
import RegistryAuth.Proofs.Broker.Histories

/-!
# Permits

Parts that are made from each other draw from one bucket.  After every run no more permits have been
taken from it than it held, each request stands right behind a permit of its own stage, and a stage that
asks for nothing takes none.
-/

namespace RegistryAuth

/-! ## 1. The account of a bucket -/

/-- Whether an event takes a permit from a bucket. -/
def Event.takes (bucket : Nat) : Event → Bool
  | .permit b => b = bucket
  | _ => false

/-- How many permits were taken from a bucket. -/
def taken (bucket : Nat) (trace : List Record) : Nat :=
  trace.countP (·.event.takes bucket)

theorem taken_concat (bucket : Nat) (trace : List Record) (o : Origin) (e : Event) :
    taken bucket (trace ++ [⟨o, e⟩]) = taken bucket trace + if e.takes bucket then 1 else 0 := by
  unfold taken
  rw [List.countP_append, List.countP_singleton]

/-- Every request stands right behind a permit of its origin. -/
def SentOnPermit (trace : List Record) : Prop :=
  ∀ before after o q, trace = before ++ ⟨o, .sent q⟩ :: after →
    ∃ earlier bucket, before = earlier ++ [⟨o, .permit bucket⟩]

theorem SentOnPermit.concat {trace : List Record} {r : Record} (h : SentOnPermit trace)
    (hr : ∀ o q, r = ⟨o, .sent q⟩ → ∃ earlier bucket, trace = earlier ++ [⟨o, .permit bucket⟩]) :
    SentOnPermit (trace ++ [r]) := by
  intro before after o q heq
  rcases split_concat heq with ⟨rfl, hlast⟩ | ⟨more, hold⟩
  · exact hr o q hlast.symm
  · exact h before more o q hold

namespace State

/-- What was taken from a bucket and what is left in it make what it held, and requests have permits. -/
structure Balanced (bucket burst : Nat) (s : State) : Prop where
  balance : taken bucket s.trace + s.permits bucket = burst
  sent : SentOnPermit s.trace

namespace Balanced

variable {bucket burst : Nat} {s t : State}

theorem append {o : Origin} {e : Event} (h : s.Balanced bucket burst)
    (htrace : t.trace = s.trace ++ [⟨o, e⟩]) (hpermits : t.permits = s.permits)
    (htakes : e.takes bucket = false) (hsent : ∀ q, e ≠ .sent q) : t.Balanced bucket burst where
  balance := by
    rw [htrace, hpermits, taken_concat, htakes]
    exact h.balance
  sent := by
    rw [htrace]
    refine h.sent.concat fun o' q heq => ?_
    exact absurd (congrArg Record.event heq) (hsent q)

theorem of_kept (h : s.Balanced bucket burst) (htrace : t.trace = s.trace)
    (hpermits : t.permits = s.permits) : t.Balanced bucket burst where
  balance := by
    rw [htrace, hpermits]
    exact h.balance
  sent := by
    rw [htrace]
    exact h.sent

theorem granted {o : Origin} {b : Nat} (h : s.Balanced bucket burst)
    (hp : s.takePermit? o b = some t) : t.Balanced bucket burst := by
  obtain ⟨n, hn, rfl⟩ := eq_of_takePermit? hp
  constructor
  · have hbalance := h.balance
    show taken bucket (s.trace ++ [_]) + (if bucket = b then n else s.permits bucket) = burst
    rw [taken_concat]
    -- What a bucket loses its account gains; other buckets are not touched.
    by_cases hb : bucket = b
    · subst hb
      have htakes : (Event.permit bucket).takes bucket = true := decide_eq_true rfl
      rw [if_pos rfl, if_pos htakes]
      omega
    · have htakes : (Event.permit b).takes bucket = false := decide_eq_false (Ne.symm hb)
      rw [if_neg hb, htakes]
      exact hbalance
  · exact h.sent.concat fun o' q heq => by simp at heq

theorem dispatched {o : Origin} {b : Nat} {q : Http.Request} (h : s.Balanced bucket burst)
    (hp : s.takePermit? o b = some t) : (t.send o q).1.Balanced bucket burst := by
  have hgranted := h.granted hp
  have hpermits : (t.send o q).1.permits = t.permits := by
    obtain ⟨replies, hsend⟩ := t.fst_send o q
    rw [hsend]
    rfl
  constructor
  · rw [trace_send, hpermits]
    show taken bucket (t.trace ++ [_]) + _ = _
    rw [taken_concat]
    exact hgranted.balance
  · rw [trace_send]
    refine hgranted.sent.concat fun o' q' heq => ?_
    cases heq
    -- The permit is the last record when the request is made.
    exact ⟨s.trace, b, trace_of_takePermit? hp⟩

/-- What a poll does one after the other keeps the account. -/
theorem effect {c : Caller} (he : Effect c s t) (h : s.Balanced bucket burst) :
    t.Balanced bucket burst := by
  cases he with
  | @noted o e ho he =>
    have hevent : e.takes bucket = false ∧ ∀ q, e ≠ .sent q := by
      cases e <;> simp_all [Event.isNote, Event.takes]
    exact h.append (o := o) (e := e) rfl rfl hevent.1 hevent.2
  | granted ho hc hp => exact h.granted hp
  | dispatched ho hc hp => exact h.dispatched hp
  | moved => exact h.of_kept rfl rfl
  | @cancelled o name ho =>
    exact h.append (o := o) (e := .cancelled name) rfl rfl rfl fun q => Event.noConfusion
  | looked ho => exact h.append rfl rfl rfl fun q => Event.noConfusion
  | stored ho => exact h.append rfl rfl rfl fun q => Event.noConfusion

end Balanced

end State

theorem Traffic.balanced_run {s : State} (hs : s.trace = []) (bucket : Nat) (ms : List Move) :
    ((ofState s).run ms).state.Balanced bucket (s.permits bucket) := by
  refine run_keep ?_ (fun _ _ _ he h => h.effect he) (fun _ _ _ h => h.of_kept rfl rfl)
    (fun _ _ _ h => h.of_kept rfl rfl) (fun _ _ h => h.of_kept rfl rfl) ms
  constructor
  · rw [hs]
    exact Nat.zero_add _
  · intro before after o q heq
    rw [hs] at heq
    simp at heq

/-! ## 2. What a stage spends -/

/-- Whether an event spends something: a permit or a request. -/
def Event.isSpending : Event → Bool
  | .permit _ | .sent _ => true
  | _ => false

/-- What may have been spent on one thing: nothing, a permit, or a permit on a request. -/
inductive SpentOnce (bucket : Nat) : List Event → Prop
  | nothing : SpentOnce bucket []
  | permit : SpentOnce bucket [.permit bucket]
  | request (q : Http.Request) : SpentOnce bucket [.permit bucket, .sent q]

theorem SpentOnce.bucket_eq {bucket b : Nat} {es : List Event} (h : SpentOnce bucket es)
    (hmem : .permit b ∈ es) : b = bucket := by
  cases h with
  | nothing => exact absurd hmem List.not_mem_nil
  | permit => simpa using hmem
  | request q => simpa using hmem

namespace Stage

variable {g : Stage} {es : List Event} {turn : Turn}

@[simp] theorem spending_opening (op : Operation) : op.opening.filter Event.isSpending = [] := rfl

@[simp] theorem spending_closing (op : Operation) (result : Except Error AccessToken) :
    (op.closing result).filter Event.isSpending = [] := rfl

@[simp] theorem spending_told (reply : Reply) : reply.told.filter Event.isSpending = [] := by
  unfold Reply.told
  cases reply.cancels <;> rfl

@[simp] theorem spending_keeping (now : Instant) (result : Except Error AccessToken) :
    (g.keeping now result).filter Event.isSpending = [] := by
  unfold keeping
  split <;> rfl

theorem Found.spending {served : Option AccessToken} (h : g.Found served es) :
    es.filter Event.isSpending = [] := by
  cases h <;> rfl

theorem Asked.spent (h : g.Asked es turn) : SpentOnce g.bucket (es.filter Event.isSpending) := by
  -- Whatever follows the request spends nothing more.
  have hrequest : ∀ (q : Http.Request) (after : List Event), after.filter Event.isSpending = [] →
      SpentOnce g.bucket (([Event.permit g.bucket, .sent q] ++ after).filter Event.isSpending) := by
    intro q after hafter
    rw [List.filter_append, hafter]
    exact .request q
  cases h with
  | reading => exact .nothing
  | refused hp => exact .nothing
  | waiting hp => exact .nothing
  | withdrawn => exact .nothing
  | unmade hp he => exact .permit
  | flying hp => exact .request _
  | settled hp hr => exact hrequest _ _ (by simp [Event.isSpending])
  | hung hp => exact hrequest _ _ (by simp)
  | abandoned hp ht =>
    rw [List.append_assoc]
    rcases ht with rfl | ⟨reply, rfl⟩
    · exact hrequest _ _ (by simp)
    · exact hrequest _ _ (by simp)

/-- A stage takes one permit at most, and sends one request at most, on the permit. -/
theorem Course.spent (h : g.Course es turn) : SpentOnce g.bucket (es.filter Event.isSpending) := by
  cases h with
  | served hf =>
    rw [List.filter_append, List.filter_append, hf.spending]
    exact .nothing
  | missed hf ha =>
    rw [List.filter_append, List.filter_append, hf.spending]
    exact ha.spent

/-- A stage that its cache served spends nothing. -/
theorem Course.spending_of_served {cache : Nat} {key : CacheKey} {now : Instant} {token : AccessToken}
    (h : g.Course es turn) (hserved : .looked cache key now (some token) ∈ es) :
    es.filter Event.isSpending = [] := by
  cases h with
  | served hf =>
    rw [List.filter_append, List.filter_append, hf.spending]
    rfl
  | @missed found asked _ hf ha =>
    -- The look-up of a stage that missed served nothing, and it looks nothing else up.
    have hfound : .looked cache key now (some token) ∉ found := by
      cases hf <;> simp
    have hasked : .looked cache key now (some token) ∉ asked := fun he => nomatch ha.event he
    simp [Operation.opening, hfound, hasked] at hserved

/-- A stage that ended early spent nothing. -/
theorem Asked.spending_of_early {e : Error} (h : g.Asked es (.ended (.error e)))
    (he : e.isEarly = true) : es.filter Event.isSpending = [] := by
  cases h with
  | refused hp => rfl
  | withdrawn => rfl
  | unmade hp hunmade =>
    subst hunmade
    exact Bool.noConfusion he
  | settled hp hr =>
    -- What is made of an outcome is no early error.
    have hanswer := Error.isEarly_of_isAnswer (isAnswer_of_conclude hr)
    rw [hanswer] at he
    exact Bool.noConfusion he
  | abandoned hp ht => exact Bool.noConfusion he

theorem Course.spending_of_early {e : Error} (h : g.Course es (.ended (.error e)))
    (he : e.isEarly = true) : es.filter Event.isSpending = [] := by
  cases h with
  | missed hf ha =>
    rw [List.filter_append, List.filter_append, hf.spending]
    exact ha.spending_of_early he

end Stage

/-! ## 3. Runs over one bucket -/

/-- The bucket of a retriever. -/
def Retriever.bucket : Retriever → Nat
  | .managed r => r.bucket
  | .workload r => r.bucket

/-- Whether the parts that a command uses draw from a bucket. -/
def Command.DrawsFrom (bucket : Nat) : Command → Prop
  | .stage g => g.bucket = bucket
  | .exchangeByClaims x .. => x.bucket = bucket
  | .authorize a .. => a.retriever.bucket = bucket ∧ a.exchanger.bucket = bucket
  | .permit b | .throttle b _ => b = bucket
  | .cancel | .refuse _ => True

/-- What is to be known of the permits of calls that draw from a bucket. -/
structure PermitsAccounted (bucket burst : Nat) (made : List (String × Command)) (trace : List Record) :
    Prop where
  taken_le : taken bucket trace ≤ burst
  /-- A request stands right behind a permit that was taken for the same operation of the same call. -/
  sent_on_permit : ∀ before after o q, trace = before ++ ⟨o, .sent q⟩ :: after →
    ∃ earlier, before = earlier ++ [⟨o, .permit bucket⟩]
  spent_once : ∀ o, o.operation ≠ none →
    SpentOnce bucket ((eventsOf o trace).filter Event.isSpending)
  served : ∀ o cache key now token, ⟨o, .looked cache key now (some token)⟩ ∈ trace →
    ∀ b, ⟨o, .permit b⟩ ∉ trace
  mismatched : ∀ i name a credential host, made[i]? = some (name, .authorize a credential host) →
    a.retriever.flow ≠ credential.flow → ∀ o b, o.call = i → ⟨o, .permit b⟩ ∉ trace
  early : ∀ o e, ⟨o, .ended (.error e)⟩ ∈ trace → e.isEarly = true → ∀ b, ⟨o, .permit b⟩ ∉ trace

theorem Command.DrawsFrom.bucket_eq {bucket : Nat} {command : Command} {g : Stage}
    (h : command.DrawsFrom bucket) (hg : command.Runs g) : g.bucket = bucket := by
  cases hg with
  | stage g => exact h
  | byClaims ht => exact h
  | exchange token => exact h.2
  | @retrieval a credential host g hg =>
    obtain ⟨retriever, exchanger⟩ := a
    cases retriever <;> cases credential <;> simp only [Call.retrieval?, reduceCtorEq] at hg
    · cases hg
      exact h.1
    · cases hg
      exact h.1

namespace Traffic

variable {ms : List Move} {w : Traffic}

/-- In one operation a call takes one permit at most, and sends one request at most, on the permit. -/
theorem Recorded.spent (h : w.Recorded ms) {bucket : Nat}
    (hdraws : ∀ made ∈ Move.made ms, made.2.DrawsFrom bucket) (o : Origin) (ho : o.operation ≠ none) :
    SpentOnce bucket ((eventsOf o w.state.trace).filter Event.isSpending) := by
  rcases List.eq_nil_or_concat (eventsOf o w.state.trace) with hnone | ⟨es, e, hsome⟩
  · rw [hnone]
    exact .nothing
  · have he : e ∈ eventsOf o w.state.trace := by simp [hsome]
    obtain ⟨name, command, hmade, hsingle⟩ := h.single_stage ((mem_eventsOf_iff o _ e).1 he)
    rcases hsingle with hreports | ⟨g, turn, hruns, -, hcourse⟩
    -- Within an operation a call that has no stage there only reports.
    · have hfilter : (eventsOf o w.state.trace).filter Event.isSpending = [] := by
        refine List.filter_eq_nil_iff.2 fun e' he' => ?_
        rcases hreports e' he' with ⟨hreport, -⟩ | ⟨-, hplain⟩
        · cases e' <;> simp_all [Event.isReport, Event.isSpending]
        · exact absurd (congrArg Origin.operation hplain) ho
      rw [hfilter]
      exact .nothing
    · rw [← (hdraws _ (List.mem_of_getElem? hmade)).bucket_eq hruns]
      exact hcourse.spent

theorem not_mem_of_spending {o : Origin} {trace : List Record}
    (h : (eventsOf o trace).filter Event.isSpending = []) (bucket : Nat) :
    ⟨o, .permit bucket⟩ ∉ trace := by
  intro hmem
  have hfilter : .permit bucket ∈ (eventsOf o trace).filter Event.isSpending :=
    List.mem_filter.2 ⟨(mem_eventsOf_iff o trace _).2 hmem, rfl⟩
  rw [h] at hfilter
  exact List.not_mem_nil hfilter

theorem Recorded.sent_on_permit (h : w.Recorded ms) {bucket : Nat}
    (hdraws : ∀ made ∈ Move.made ms, made.2.DrawsFrom bucket) (hsent : SentOnPermit w.state.trace)
    {before after : List Record} {o : Origin} {q : Http.Request}
    (heq : w.state.trace = before ++ ⟨o, .sent q⟩ :: after) :
    ∃ earlier, before = earlier ++ [⟨o, .permit bucket⟩] := by
  obtain ⟨earlier, b, rfl⟩ := hsent before after o q heq
  have hq : (⟨o, .sent q⟩ : Record) ∈ w.state.trace := by simp [heq]
  -- The stage took the permit from its own bucket, which is the one that all draw from.
  obtain ⟨name, command, g, turn, hmade, hruns, hop, hcourse⟩ := h.course hq (.inl ⟨rfl, rfl⟩)
  have ho : o.operation ≠ none := by simp [hop]
  have hb : .permit b ∈ (eventsOf o w.state.trace).filter Event.isSpending := by
    refine List.mem_filter.2 ⟨(mem_eventsOf_iff o _ _).2 ?_, rfl⟩
    simp [heq]
  rw [(h.spent hdraws o ho).bucket_eq hb]
  exact ⟨earlier, rfl⟩

/-- Over one bucket no more permits are taken than it held, each request stands right behind a permit of
its own stage, and no permit is taken for a stage that its cache served, for an authorizer that does not
serve the flow, or for a stage that ended early. -/
theorem requests_follow_permits {s : State} (htrace : s.trace = []) {bucket : Nat} (ms : List Move)
    (hdraws : ∀ made ∈ Move.made ms, made.2.DrawsFrom bucket) :
    PermitsAccounted bucket (s.permits bucket) (Move.made ms) ((ofState s).run ms).state.trace := by
  have hrecorded := recorded_run htrace ms
  have hbalanced := balanced_run htrace bucket ms
  refine ⟨?_, ?_, ?_, ?_, ?_, ?_⟩
  · have hbalance := hbalanced.balance
    omega
  · intro before after o q heq
    exact hrecorded.sent_on_permit hdraws hbalanced.sent heq
  · exact hrecorded.spent hdraws
  · intro o cache key now token hlooked
    obtain ⟨name, command, g, turn, -, -, -, hcourse⟩ := hrecorded.course hlooked (.inl ⟨rfl, rfl⟩)
    exact not_mem_of_spending (hcourse.spending_of_served ((mem_eventsOf_iff o _ _).2 hlooked))
  · intro i name a credential host hmade hflow o b ho hmem
    obtain ⟨c, -, -, hhistory⟩ := hrecorded.history i name _ hmade
    have hreport := hhistory.of_mismatch hflow _ ((mem_recordsOf_iff i _ _).2 ⟨hmem, ho⟩)
    exact Bool.noConfusion hreport.2
  · intro o e hended he b
    obtain ⟨name, command, hmade, hsingle⟩ := hrecorded.single_stage hended
    rcases hsingle with hreports | ⟨g, turn, hruns, -, hcourse⟩
    · -- What ends with a result is an operation, and an authorizer's own takes no permit.
      intro hpermit
      rcases hreports _ ((mem_eventsOf_iff o _ _).2 hended) with ⟨-, credential, ho⟩ | ⟨hplain, -⟩
      · rcases hreports _ ((mem_eventsOf_iff o _ _).2 hpermit) with ⟨hreport, -⟩ | ⟨-, hplain⟩
        · exact Bool.noConfusion hreport
        · rw [ho] at hplain
          exact absurd (congrArg Origin.operation hplain) (Option.some_ne_none _)
      · exact Bool.noConfusion hplain
    · obtain rfl := hcourse.ended_mem_iff.1 ((mem_eventsOf_iff o _ _).2 hended)
      exact not_mem_of_spending (hcourse.spending_of_early he) b

/-- A call of an authorizer, and one of its retriever that finds no permit left and is cancelled. -/
def crowdedCalls : List Move :=
  [.call "first" (.authorize Sample.authorizer (.managed Sample.selector none) "registry.io"),
    .call "second" (.stage (.managed Sample.retriever (.resource ⟨"b2", by decide⟩))),
    .call "second" .cancel, .poll 0, .poll 1, .poll 2, .poll 1]

/-- The two permits are accounted for, both of which the first of the calls takes. -/
theorem permits_of_crowded_calls :
    (∀ made ∈ Move.made crowdedCalls, made.2.DrawsFrom 0) ∧
    taken 0 ((ofState Sample.state).run crowdedCalls).state.trace = 2 ∧
    PermitsAccounted 0 2 (Move.made crowdedCalls)
      ((ofState Sample.state).run crowdedCalls).state.trace := by
  have hdraws : ∀ made ∈ Move.made crowdedCalls, made.2.DrawsFrom 0 := by
    simp [Move.made, crowdedCalls, Move.made?, Command.DrawsFrom, Sample.authorizer,
      Retriever.bucket, Sample.retriever, Stage.bucket]
  have haccounted := requests_follow_permits (s := Sample.state) rfl crowdedCalls hdraws
  exact ⟨hdraws, by decide +kernel, haccounted⟩

end Traffic

end RegistryAuth
