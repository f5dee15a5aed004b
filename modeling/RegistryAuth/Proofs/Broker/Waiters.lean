import RegistryAuth.Proofs.Broker.Frames
import RegistryAuth.Proofs.Broker.Histories
import RegistryAuth.Broker.Progress

/-!
# Waiting for a permit

A call that waits for a permit changes nothing by it.  A run in which such a call is never polled again
goes on alike for all other calls, as long as the call would not have been granted its permit:
`Traffic.alike_of_waits`.
-/

namespace RegistryAuth

/-! ## 1. Traces grow -/

theorem State.Effect.trace_grows {c : Caller} {s t : State} (h : State.Effect c s t) :
    s.trace <+: t.trace := by
  cases h with
  | noted ho he => exact List.prefix_append _ _
  | granted ho hc hp =>
    rw [trace_of_takePermit? hp]
    exact List.prefix_append _ _
  | dispatched ho hc hp =>
    rw [trace_send, trace_of_takePermit? hp, List.append_assoc]
    exact List.prefix_append _ _
  | moved => exact List.prefix_rfl
  | cancelled ho => exact List.prefix_append _ _
  | looked ho => exact List.prefix_append _ _
  | stored ho => exact List.prefix_append _ _

/-- What a call's polls record is the call's own. -/
theorem State.Effect.own {c : Caller} {s t : State} (h : State.Effect c s t) :
    t.trace.filter (·.origin.call ≠ c.call) = s.trace.filter (·.origin.call ≠ c.call) := by
  have hconcat : ∀ {trace : List Record} {o : Origin} (es : List Event), o.call = c.call →
      (trace ++ o.records es).filter (·.origin.call ≠ c.call) =
        trace.filter (·.origin.call ≠ c.call) := by
    intro trace o es ho
    have hnone : (o.records es).filter (·.origin.call ≠ c.call) = [] := by
      refine List.filter_eq_nil_iff.2 fun r hr => ?_
      rw [Origin.origin_of_mem_records hr, ho]
      simp
    rw [List.filter_append, hnone, List.append_nil]
  cases h with
  | @noted o e ho he => exact hconcat [e] ho
  | granted ho hc hp =>
    rw [trace_of_takePermit? hp]
    exact hconcat _ ho
  | dispatched ho hc hp =>
    rw [trace_send, trace_of_takePermit? hp, hconcat _ ho, hconcat _ ho]
  | moved => rfl
  | @cancelled o name ho => exact hconcat [.cancelled name] ho
  | @looked o cache key ho => exact hconcat [_] ho
  | @stored o cache key token ho => exact hconcat [_] ho

theorem State.Effects.trace_grows {c : Caller} {s t : State} (h : State.Effects c s t) :
    s.trace <+: t.trace :=
  h.keep (P := fun t => s.trace <+: t.trace) (fun _ _ he h => h.trans he.trace_grows) List.prefix_rfl

theorem State.Effects.own {c : Caller} {s t : State} (h : State.Effects c s t) :
    t.trace.filter (·.origin.call ≠ c.call) = s.trace.filter (·.origin.call ≠ c.call) :=
  h.keep (P := fun t => t.trace.filter (·.origin.call ≠ c.call) =
    s.trace.filter (·.origin.call ≠ c.call)) (fun _ _ he h => he.own.trans h) rfl

/-- What a poll of a call records is recorded of the call. -/
theorem Call.own_of_poll {s : State} {c : Call} {new : List Record}
    (h : (c.poll s).1.trace = s.trace ++ new) : ∀ r ∈ new, r.origin.call = c.caller.call := by
  have hown := (c.poll_effects s).own
  rw [h, List.filter_append, List.append_right_eq_self, List.filter_eq_nil_iff] at hown
  intro r hr
  simpa using hown r hr

namespace Traffic

theorem trace_grows_step (w : Traffic) (m : Move) : w.state.trace <+: (w.step m).state.trace := by
  cases m with
  | poll i =>
    rcases w.effects_poll i with hsame | ⟨c, -, heffects⟩
    · exact hsame ▸ List.prefix_rfl
    · exact heffects.trace_grows
  | _ => exact List.prefix_rfl

theorem trace_grows_run (w : Traffic) (ms : List Move) : w.state.trace <+: (w.run ms).state.trace :=
  run_induction (P := fun _ v => w.state.trace <+: v.state.trace) List.prefix_rfl
    (fun _ v m h => h.trans (v.trace_grows_step m)) ms

end Traffic

/-! ## 2. Calls that wait -/

/-- Whether a call waits for a permit. -/
inductive Phase.Waits : Phase → Prop
  | permit {bucket : Nat} : Waits (.ready (.permit bucket))
  | throttle {bucket : Nat} {work : Work} : Waits (.ready (.throttle bucket work))
  | stage {purpose : Purpose} {g : Stage} {request : Except Http.Fault Http.Request} :
    Waits (.running purpose g (.waiting request))

/-- What a poll of a call that waits comes to: nothing, or the end of the call, or a permit. -/
inductive Call.Waited (c : Call) (s : State) : State × Call → Prop
  | unchanged : Waited c s (s, c)
  | withdrawn {after : State × Call} {new : List Record} {x : Result}
    (hs : after.1 = { s with trace := s.trace ++ new }) (hx : after.2 = ⟨c.caller, .done x⟩) :
    Waited c s after
  | granted {after : State × Call} {o : Origin} {bucket : Nat} (ho : o.call = c.caller.call)
    (hp : s.trace ++ [⟨o, .permit bucket⟩] <+: after.1.trace) : Waited c s after

theorem State.signal_eq (s : State) (o : Origin) (signals : List Signal) :
    s.signal o signals = { s with trace := s.trace ++ o.records (signals.map .signal) } := by
  induction signals generalizing s with
  | nil => simp [signal, Origin.records]
  | cons x xs ih =>
    show (s.record o (.signal x)).signal o xs = _
    rw [ih]
    simp [record, Origin.records]

theorem Stage.fst_finish (g : Stage) (c : Caller) (s : State) (result : Except Error AccessToken) :
    (g.finish c s result).1 =
      { s with trace := s.trace ++ (g.origin c).records (g.operation.closing result) } := by
  simp [finish, State.signal_eq, State.record, Origin.records, Operation.closing]

theorem Call.fst_finish (c : Caller) (s : State) (op : Operation) (result : Except Error AccessToken) :
    (finish c s op result).1 = { s with
      trace := s.trace ++ (c.within op).records (op.closing (result.mapError (.operation op))) } := by
  simp [finish, State.signal_eq, State.record, Origin.records, Operation.closing,
    Outcome.ofResult_mapError]

/-- A stage that finds a permit has it recorded, whatever its request comes to. -/
theorem Stage.prefix_pollPermit {g : Stage} {c : Caller} {s t : State}
    (hc : s.isCancelled c.name = false) (hp : s.takePermit? (g.origin c) g.bucket = some t)
    (request : Except Http.Fault Http.Request) :
    t.trace <+: (g.pollPermit c s request).1.trace := by
  unfold pollPermit
  rw [if_neg (by simp [hc]), hp]
  cases request with
  | error fault => exact (g.effects_finish c t _).trace_grows
  | ok q =>
    have hsent : t.trace <+: (t.send (g.origin c) q).1.trace := by
      rw [State.trace_send]
      exact List.prefix_append _ _
    exact hsent.trans (g.effects_of_steps c (g.steps_pollReply c _ _)).trace_grows

namespace Call

variable (c : Caller) (s : State)

/-- What fails a stage ends its call. -/
theorem proceed_error (purpose : Purpose) (g : Stage) (e : Error) :
    ∃ e' new, proceed c purpose g (s, .ended (.error e)) =
      ({ s with trace := s.trace ++ new }, .done (.token (.error e'))) := by
  cases purpose with
  | result => exact ⟨e, [], by simp [proceed, last]⟩
  | retrieval op x tenant host =>
    exact ⟨_, _, Prod.ext (fst_finish c s op (.error e)) rfl⟩
  | exchange op => exact ⟨_, _, Prod.ext (fst_finish c s op (.error e)) rfl⟩

theorem proceed_finish (purpose : Purpose) (g : Stage) (e : Error) :
    ∃ e' new, proceed c purpose g (g.finish c s (.error e)) =
      ({ s with trace := s.trace ++ new }, .done (.token (.error e'))) := by
  obtain ⟨e', new, h⟩ := proceed_error c (g.finish c s (.error e)).1 purpose g e
  refine ⟨e', (g.origin c).records (g.operation.closing (.error e)) ++ new, ?_⟩
  refine h.trans ?_
  rw [g.fst_finish, List.append_assoc]

theorem waited_acquire {call : Call} (bucket : Nat) (waiting : Phase) (refused : Error → Phase)
    (granted : State → State × Phase) (hwaiting : call = ⟨c, waiting⟩)
    (hrefused : ∀ e, ∃ x, refused e = .done x)
    (hgranted : ∀ t, t.trace <+: (granted t).1.trace) :
    call.Waited s ((acquire c s bucket waiting refused granted).1,
      ⟨c, (acquire c s bucket waiting refused granted).2⟩) := by
  subst hwaiting
  unfold acquire
  by_cases hc : s.isCancelled c.name = true
  · rw [if_pos hc]
    obtain ⟨x, hx⟩ := hrefused .rateLimitCancelled
    have hs : s = { s with trace := s.trace ++ [] } := by simp
    exact .withdrawn hs (congrArg (Call.mk c) hx)
  · rw [if_neg hc]
    cases hp : s.takePermit? c.plain bucket with
    | none => exact .unchanged
    | some t =>
      have htrace : t.trace = s.trace ++ [⟨c.plain, .permit bucket⟩] := State.trace_of_takePermit? hp
      exact .granted rfl (htrace ▸ hgranted t)

theorem prefix_beginWork (work : Work) : s.trace <+: (beginWork c work s).1.trace := by
  show s.trace <+: (if work.cancels then s.cancel c.plain c.name else s).trace
  split
  · exact List.prefix_append _ _
  · exact List.prefix_rfl

/-- A poll of a call that waits changes nothing, ends the call, or takes a permit. -/
theorem waited_poll {call : Call} (h : call.phase.Waits) : call.Waited s (call.poll s) := by
  obtain ⟨c, phase⟩ := call
  cases h with
  | @permit bucket =>
    exact waited_acquire c s bucket _ _ _ rfl (fun _ => ⟨_, rfl⟩) fun _ => List.prefix_rfl
  | @throttle bucket work =>
    exact waited_acquire c s bucket _ _ _ rfl (fun _ => ⟨_, rfl⟩) fun t => prefix_beginWork c t work
  | @stage purpose g request =>
    by_cases hc : s.isCancelled c.name = true
    · -- The stage is withdrawn, and its call with it.
      have hpoll : g.resume c s (.waiting request) = g.finish c s (.error .rateLimitCancelled) := by
        show g.pollPermit c s request = _
        unfold Stage.pollPermit
        rw [if_pos hc]
      obtain ⟨e, new, hproceed⟩ := proceed_finish c s purpose g .rateLimitCancelled
      have hafter : Call.poll s ⟨c, .running purpose g (.waiting request)⟩ =
          ({ s with trace := s.trace ++ new }, ⟨c, .done (.token (.error e))⟩) := by
        simp only [poll, hpoll, hproceed]
      exact .withdrawn (congrArg Prod.fst hafter) (congrArg Prod.snd hafter)
    · have hnot : s.isCancelled c.name = false := by simpa using hc
      cases hp : s.takePermit? (g.origin c) g.bucket with
      | none =>
        have hstuck : Call.isStuck s ⟨c, .running purpose g (.waiting request)⟩ = true := by
          have hnone := (s.takePermit?_eq_none_iff _).1 hp
          simp [isStuck, Stage.isStuck, hnot, hnone]
        rw [Call.poll_of_isStuck s _ hstuck]
        exact .unchanged
      | some t =>
        have htrace : t.trace = s.trace ++ [⟨g.origin c, .permit g.bucket⟩] :=
          State.trace_of_takePermit? hp
        have hprefix := (Stage.prefix_pollPermit hnot hp request).trans
          (effects_proceed c purpose g _ (g.pollPermit c s request).2).trace_grows
        exact .granted rfl (htrace ▸ hprefix)

end Call

/-! ## 3. Runs without the polls of a call -/

/-- Whether a move polls a call. -/
def Move.isPollOf (i : Nat) : Move → Bool
  | .poll j => j = i
  | _ => false

theorem Move.eq_poll_of_isPollOf {i : Nat} {m : Move} (h : m.isPollOf i = true) : m = .poll i := by
  cases m <;> simp_all [isPollOf]

/-- Whether two runs have come to the same but for one call and for what was recorded of it. -/
structure Traffic.Alike (i : Nat) (w v : Traffic) : Prop where
  length_eq : v.calls.length = w.calls.length
  /-- The other calls stand at the same, so they have returned the same. -/
  calls : ∀ j, j ≠ i → v.calls[j]? = w.calls[j]?
  records : v.state.trace.filter (·.origin.call ≠ i) = w.state.trace.filter (·.origin.call ≠ i)
  state : v.state = { w.state with trace := v.state.trace }

namespace Traffic

variable {i : Nat} {w v : Traffic}

theorem Alike.refl (i : Nat) (w : Traffic) : Alike i w w :=
  ⟨rfl, fun _ _ => rfl, rfl, rfl⟩

/-- The states of alike runs are one state with different traces before it. -/
theorem Alike.exists_retold (h : Alike i w v) (call : Nat) :
    ∃ s : State, w.state = s.retold (.behind w.state.trace call) ∧
      v.state = s.retold (.behind v.state.trace call) := by
  refine ⟨{ w.state with trace := [] }, by simp [State.retold, Retelling.behind], ?_⟩
  rw [h.state]
  simp [State.retold, Retelling.behind]

/-- A poll of another call does the same in alike runs. -/
theorem Alike.poll (h : Alike i w v) {j : Nat} (hj : j ≠ i) :
    Alike i (w.step (.poll j)) (v.step (.poll j)) := by
  have hcall := h.calls j hj
  cases hw : w.calls[j]? with
  | none =>
    rw [hw] at hcall
    rw [step_poll_of_none hw, step_poll_of_none hcall]
    exact h
  | some c =>
    rw [hw] at hcall
    rw [step_poll_of_some hw, step_poll_of_some hcall]
    obtain ⟨s, hws, hvs⟩ := h.exists_retold c.caller.call
    have hpoll (rs : List Record) : c.poll (s.retold (.behind rs c.caller.call)) =
        ((c.poll s).1.retold (.behind rs c.caller.call), (c.poll s).2) :=
      c.poll_retold (.behind rs _) s
    rw [hws, hvs, hpoll, hpoll]
    refine ⟨by simp [h.length_eq], fun k hk => ?_, ?_, rfl⟩
    · by_cases hjk : j = k
      · subst hjk
        show (v.calls.set j _)[j]? = (w.calls.set j _)[j]?
        rw [List.getElem?_set_self (List.getElem?_eq_some_iff.1 hcall).1,
          List.getElem?_set_self (List.getElem?_eq_some_iff.1 hw).1]
      · show (v.calls.set j _)[k]? = (w.calls.set j _)[k]?
        rw [List.getElem?_set_ne hjk, List.getElem?_set_ne hjk]
        exact h.calls k hk
    · show (v.state.trace ++ (c.poll s).1.trace).filter _ = (w.state.trace ++ (c.poll s).1.trace).filter _
      rw [List.filter_append, List.filter_append, h.records]

/-- Other moves than polls of the call keep runs alike. -/
theorem Alike.step (h : Alike i w v) {m : Move} (hm : m.isPollOf i = false) :
    Alike i (w.step m) (v.step m) := by
  have hstate := h.state
  cases m with
  | poll j => exact h.poll (of_decide_eq_false hm)
  | call name command =>
    refine ⟨by simp [Traffic.step, h.length_eq], fun j hj => ?_, h.records, h.state⟩
    show (v.calls ++ [.ofCommand v.calls.length name command])[j]? =
      (w.calls ++ [.ofCommand w.calls.length name command])[j]?
    rw [List.getElem?_append, List.getElem?_append, h.length_eq, h.calls j hj]
  | clocks clock machine =>
    refine ⟨h.length_eq, h.calls, h.records, ?_⟩
    show ({ v.state with clock, machine } : State) = _
    rw [hstate]
    rfl
  | files files slow =>
    refine ⟨h.length_eq, h.calls, h.records, ?_⟩
    show ({ v.state with files, slowFiles := slow } : State) = _
    rw [hstate]
    rfl
  | sweep cache =>
    refine ⟨h.length_eq, h.calls, h.records, ?_⟩
    show (v.state.sweep cache).1 = _
    rw [hstate]
    rfl

/-- A move that changes nothing but a call and its own records may be left out. -/
theorem Alike.erase {d : Call} {t : State} {new : List Record} (h : Alike i w v)
    (ht : t = { w.state with trace := w.state.trace ++ new }) (hnew : ∀ r ∈ new, r.origin.call = i) :
    Alike i ⟨t, w.calls.set i d⟩ v := by
  subst ht
  have hnone : new.filter (·.origin.call ≠ i) = [] :=
    List.filter_eq_nil_iff.2 fun r hr => by simp [hnew r hr]
  refine ⟨by simp [h.length_eq], fun j hj => ?_, ?_, h.state⟩
  · show v.calls[j]? = (w.calls.set i d)[j]?
    rw [List.getElem?_set_ne (Ne.symm hj)]
    exact h.calls j hj
  · show _ = (w.state.trace ++ new).filter _
    rw [List.filter_append, hnone, List.append_nil]
    exact h.records

/-- Where a call that waited and took no permit stands: it still waits, or it has ended. -/
def Stays (i : Nat) (w : Traffic) : Prop :=
  ∃ c, w.calls[i]? = some c ∧ c.caller.call = i ∧ (c.phase.Waits ∨ ∃ x, c.phase = .done x)

theorem Stays.of_calls (h : Stays i w) (hcalls : v.calls[i]? = w.calls[i]?) : Stays i v := by
  obtain ⟨c, hc, hstays⟩ := h
  exact ⟨c, hcalls.trans hc, hstays⟩

/-- Other moves than its polls leave a call where it is. -/
theorem calls_step {m : Move} (hm : m.isPollOf i = false) (hi : i < w.calls.length) :
    (w.step m).calls[i]? = w.calls[i]? := by
  cases m with
  | call name command => exact List.getElem?_append_left hi
  | poll j =>
    cases hj : w.calls[j]? with
    | none => rw [step_poll_of_none hj]
    | some c =>
      rw [step_poll_of_some hj]
      exact List.getElem?_set_ne (of_decide_eq_false hm)
  | _ => rfl

/-- A poll of the call may be left out, unless it takes a permit. -/
theorem Alike.erase_poll (h : Alike i w v) (hstays : Stays i w)
    (hnone : ∀ o bucket, o.call = i → ¬ w.state.trace ++ [⟨o, .permit bucket⟩] <+:
      (w.step (.poll i)).state.trace) :
    Alike i (w.step (.poll i)) v ∧ Stays i (w.step (.poll i)) := by
  obtain ⟨c, hc, hcall, hphase⟩ := hstays
  have hlt := (List.getElem?_eq_some_iff.1 hc).1
  have hunchanged : c.poll w.state = (w.state, c) →
      Alike i (w.step (.poll i)) v ∧ Stays i (w.step (.poll i)) := by
    intro hpoll
    have hstate : w.state = { w.state with trace := w.state.trace ++ [] } := by simp
    rw [step_poll_of_some hc, hpoll]
    exact ⟨h.erase hstate (by simp), c, List.getElem?_set_self hlt, hcall, hphase⟩
  rcases hphase with hwaits | ⟨x, hdone⟩
  · rw [step_poll_of_some hc] at hnone
    have hown (new : List Record) (hnew : (c.poll w.state).1.trace = w.state.trace ++ new) :
        ∀ r ∈ new, r.origin.call = c.caller.call := c.own_of_poll hnew
    cases hafter : c.poll w.state with
    | mk t d =>
    have hwaited := Call.waited_poll w.state hwaits
    rw [hafter] at hwaited hnone hown
    cases hwaited with
    | unchanged => exact hunchanged hafter
    | granted ho hp => exact absurd hp (hnone _ _ (ho.trans hcall))
    | @withdrawn _ new x hs hx =>
      change t = _ at hs
      change d = _ at hx
      have hnew : ∀ r ∈ new, r.origin.call = i := by
        intro r hr
        rw [← hcall]
        exact hown new (congrArg State.trace hs) r hr
      rw [step_poll_of_some hc, hafter]
      refine ⟨h.erase hs hnew, d, List.getElem?_set_self hlt, ?_, .inr ⟨x, ?_⟩⟩
      · rw [hx]
        exact hcall
      · rw [hx]
  · refine hunchanged ?_
    obtain ⟨caller, phase⟩ := c
    obtain rfl : phase = .done x := hdone
    rfl

/-- A call that waits for a permit, and takes none, leaves the others what they are without its polls. -/
theorem alike_of_waits {c : Call} (hc : w.calls[i]? = some c) (hcall : c.caller.call = i)
    (hwaits : c.phase.Waits) (after : List Move) {new : List Record}
    (hnew : (w.run after).state.trace = w.state.trace ++ new)
    (hnone : ∀ o bucket, o.call = i → ⟨o, .permit bucket⟩ ∉ new) :
    Alike i (w.run after) (w.run (after.filter (!·.isPollOf i))) := by
  suffices hall : Alike i (w.run after) (w.run (after.filter (!·.isPollOf i))) ∧
      Stays i (w.run after) from hall.1
  induction after using List.reverseRecOn generalizing new with
  | nil => exact ⟨.refl i w, c, hc, hcall, .inl hwaits⟩
  | append_singleton after m ih =>
    obtain ⟨old, hold⟩ := w.trace_grows_run after
    have hstep : (w.run (after ++ [m])) = (w.run after).step m := run_append w after [m]
    rw [hstep] at hnew ⊢
    obtain ⟨more, hmore⟩ := (w.run after).trace_grows_step m
    -- What the last move adds is a part of what is new.
    obtain rfl : new = old ++ more := by
      rw [hnew, ← hold, List.append_assoc] at hmore
      exact (List.append_cancel_left hmore).symm
    obtain ⟨halike, hstays⟩ := ih hold.symm fun o bucket ho hmem =>
      hnone o bucket ho (List.mem_append_left _ hmem)
    cases hm : m.isPollOf i with
    | true =>
      obtain rfl := Move.eq_poll_of_isPollOf hm
      have hfilter : (after ++ [Move.poll i]).filter (!·.isPollOf i) = after.filter (!·.isPollOf i) := by
        simp [Move.isPollOf]
      rw [hfilter]
      refine halike.erase_poll hstays fun o bucket ho hprefix => ?_
      rw [← hmore] at hprefix
      have hpermit := (List.prefix_append_right_inj _).1 hprefix
      exact hnone o bucket ho (List.mem_append_right _ (hpermit.subset List.mem_cons_self))
    | false =>
      have hfilter : (after ++ [m]).filter (!·.isPollOf i) = after.filter (!·.isPollOf i) ++ [m] := by
        simp [hm]
      rw [hfilter, run_append]
      have hlt : i < (w.run after).calls.length := by
        obtain ⟨d, hd, -⟩ := hstays
        exact (List.getElem?_eq_some_iff.1 hd).1
      exact ⟨halike.step hm, hstays.of_calls (calls_step hm hlt)⟩

end Traffic

end RegistryAuth
