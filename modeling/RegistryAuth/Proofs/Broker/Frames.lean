import RegistryAuth.Broker.Call

/-!
# What polls do not read

A poll adds to the trace but does not read it, nor the number of its call: where a trace is told otherwise,
and the call has another number in it, the poll does the same.  That is `Call.poll_retold`; the lemmas
before it say so of each operation that a poll is made of.
-/

namespace RegistryAuth

/-! ## 1. Retellings -/

/-- Another way to tell traces, in which a call may have another number; a record of the call that comes
last is one record and comes last in it too. -/
structure Retelling (call : Nat) where
  number : Nat
  tell : List Record → List Record
  tell_concat : ∀ trace op e, tell (trace ++ [⟨⟨call, op⟩, e⟩]) = tell trace ++ [⟨⟨number, op⟩, e⟩]

namespace Retelling

/-- The same trace with more before it. -/
def behind (rs : List Record) (call : Nat) : Retelling call where
  number := call
  tell := (rs ++ ·)
  tell_concat _ _ _ := (List.append_assoc ..).symm

variable {call : Nat} (R : Retelling call)

def origin (o : Origin) : Origin :=
  ⟨R.number, o.operation⟩

def caller (c : Caller) : Caller :=
  { c with call := R.number }

@[simp] theorem plain_caller (c : Caller) : (R.caller c).plain = R.origin c.plain := rfl

@[simp] theorem within_caller (c : Caller) (op : Operation) :
    (R.caller c).within op = R.origin (c.within op) := rfl

@[simp] theorem origin_caller (g : Stage) (c : Caller) :
    g.origin (R.caller c) = R.origin (g.origin c) := rfl

end Retelling

/-- A state whose trace is told otherwise. -/
def State.retold {call : Nat} (R : Retelling call) (s : State) : State :=
  { s with trace := R.tell s.trace }

/-- A call in a trace that is told otherwise. -/
def Call.retold (c : Call) (R : Retelling c.caller.call) : Call :=
  { c with caller := R.caller c.caller }

/-! ## 2. States -/

/-- A function goes into both branches of a condition. -/
theorem ite_eq_apply_ite {α β : Type} {p : Prop} [Decidable p] {f : α → β} {x y : α} {x' y' : β}
    (hx : x' = f x) (hy : y' = f y) : (if p then x' else y') = f (if p then x else y) := by
  rw [hx, hy, apply_ite f]

namespace State

variable {call : Nat} (R : Retelling call) (s : State) {o : Origin} (ho : o.call = call)

@[simp] theorem isCancelled_retold (name : String) :
    (s.retold R).isCancelled name = s.isCancelled name := rfl

@[simp] theorem slowFiles_retold : (s.retold R).slowFiles = s.slowFiles := rfl

@[simp] theorem files_retold : (s.retold R).files = s.files := rfl

include ho

theorem record_retold (e : Event) :
    (s.retold R).record (R.origin o) e = (s.record o e).retold R := by
  subst ho
  exact congrArg (fun trace => { s with trace }) (R.tell_concat s.trace o.operation e).symm

theorem signal_retold (signals : List Signal) :
    (s.retold R).signal (R.origin o) signals = (s.signal o signals).retold R := by
  induction signals generalizing s with
  | nil => rfl
  | cons x xs ih =>
    show ((s.retold R).record (R.origin o) (.signal x)).signal (R.origin o) xs = _
    rw [s.record_retold R ho, ih]
    rfl

theorem cancel_retold (name : String) :
    (s.retold R).cancel (R.origin o) name = (s.cancel o name).retold R :=
  record_retold R { s with cancelled := name :: s.cancelled } ho (.cancelled name)

theorem takePermit?_retold (bucket : Nat) :
    (s.retold R).takePermit? (R.origin o) bucket = (s.takePermit? o bucket).map (retold R) := by
  have hpermits : (s.retold R).permits bucket = s.permits bucket := rfl
  unfold takePermit?
  rw [hpermits]
  cases s.permits bucket with
  | zero => rfl
  | succ n =>
    have hrecord := record_retold R
      { s with permits := fun b => if b = bucket then n else s.permits b } ho (.permit bucket)
    exact congrArg some hrecord

theorem store_retold (cache : Nat) (key : CacheKey) (token : AccessToken) :
    (s.retold R).store (R.origin o) cache key token = (s.store o cache key token).retold R :=
  record_retold R (s.setTokens cache ((s.tokens cache).insert (s.now cache) key token)) ho
    (.stored cache key token (s.now cache))

theorem lookUp_retold (cache : Nat) (key : CacheKey) :
    (s.retold R).lookUp (R.origin o) cache key = (s.lookUp o cache key).map (retold R) id := by
  have hrecord := record_retold R (s.setTokens cache ((s.tokens cache).evict (s.now cache) key)) ho
    (.looked cache key (s.now cache) ((s.tokens cache).served? (s.now cache) key))
  have hsignal := signal_retold R ((s.setTokens cache ((s.tokens cache).evict (s.now cache) key)).record
    o (.looked cache key (s.now cache) ((s.tokens cache).served? (s.now cache) key))) ho
    ((s.tokens cache).signals (s.now cache) key)
  rw [← hrecord] at hsignal
  exact congrArg (·, (s.tokens cache).served? (s.now cache) key) hsignal

theorem send_retold (q : Http.Request) :
    (s.retold R).send (R.origin o) q = (s.send o q).map (retold R) id := by
  obtain ⟨clock, machine, files, slowFiles, cancelled, permits, caches, webOnly, replies, trace⟩ := s
  unfold send
  rw [record_retold R _ ho]
  cases replies with
  | nil => exact ite_eq_apply_ite rfl rfl
  | cons reply replies => exact ite_eq_apply_ite rfl rfl

theorem passing_retold (reply : Reply) :
    (s.retold R).passing (R.origin o) reply = (s.passing o reply).retold R := by
  unfold passing
  cases reply.cancels with
  | none => rfl
  | some name =>
    exact cancel_retold R { s with clock := s.clock.add (reply.advance.getD .zero) } ho name

end State

/-! ## 3. Stages -/

namespace Stage

variable (g : Stage) (c : Caller) (R : Retelling c.call) (s : State)

theorem keep_retold (result : Except Error AccessToken) :
    g.keep (s.retold R) (R.origin (g.origin c)) result = (g.keep s (g.origin c) result).retold R := by
  unfold keep
  split
  · exact s.store_retold R rfl _ _ _
  · rfl

theorem finish_retold (result : Except Error AccessToken) :
    g.finish (R.caller c) (s.retold R) result = (g.finish c s result).map (State.retold R) id := by
  unfold finish
  rw [R.origin_caller, s.signal_retold R rfl, State.record_retold R _ rfl]
  rfl

theorem pollReply_retold (reply : Reply) :
    g.pollReply (R.caller c) (s.retold R) reply =
      (g.pollReply c s reply).map (State.retold R) id := by
  unfold pollReply
  split
  · rfl
  · simp only [R.origin_caller]
    rw [s.passing_retold R rfl]
    show (if reply.coming.reaches c.patient then _ else _ : State × Turn) = _
    split
    · rw [State.record_retold R _ rfl, keep_retold, finish_retold]
    · rfl

theorem pollPermit_retold (request : Except Http.Fault Http.Request) :
    g.pollPermit (R.caller c) (s.retold R) request =
      (g.pollPermit c s request).map (State.retold R) id := by
  unfold pollPermit
  show (if s.isCancelled c.name then _ else _ : State × Turn) = _
  split
  · exact g.finish_retold c R s _
  · rw [R.origin_caller, s.takePermit?_retold R rfl]
    cases s.takePermit? (g.origin c) g.bucket with
    | none => rfl
    | some t =>
      cases request with
      | error fault => exact g.finish_retold c R t _
      | ok q =>
        simp only [Option.map_some]
        rw [t.send_retold R (o := g.origin c) rfl]
        exact g.pollReply_retold c R _ _

theorem enter_retold :
    g.enter (R.caller c) (s.retold R) = (g.enter c s).map (State.retold R) id := by
  unfold enter
  rw [State.files_retold]
  split
  · exact g.finish_retold c R s _
  · exact g.pollPermit_retold c R s _

theorem lookUp_retold :
    g.lookUp (R.caller c) (s.retold R) = (g.lookUp c s).map (State.retold R) id := by
  cases g with
  | managed r selector => exact s.lookUp_retold R (o := (managed r selector).origin c) rfl _ _
  | workload r client tenant => rfl
  | exchange x token tenant host => rfl

theorem start_retold :
    g.start (R.caller c) (s.retold R) = (g.start c s).map (State.retold R) id := by
  unfold start
  simp only [R.origin_caller]
  rw [s.signal_retold R rfl, lookUp_retold]
  obtain ⟨t, token⟩ := g.lookUp c (s.signal (g.origin c) [.began g.operation, .counted g.operation .attempt])
  cases token with
  | some token => exact g.finish_retold c R t _
  | none =>
    simp only [Prod.map_apply, id_eq, State.slowFiles_retold]
    exact ite_eq_apply_ite rfl (g.enter_retold c R t)

theorem resume_retold (p : Progress) :
    g.resume (R.caller c) (s.retold R) p = (g.resume c s p).map (State.retold R) id := by
  cases p with
  | reading => exact ite_eq_apply_ite rfl (g.enter_retold c R s)
  | waiting request => exact g.pollPermit_retold c R s request
  | flying reply => exact ite_eq_apply_ite (g.finish_retold c R s _) (g.pollReply_retold c R s reply)
  | hung => exact ite_eq_apply_ite (g.finish_retold c R s _) rfl

end Stage

/-! ## 4. Calls -/

namespace Call

section Phases

variable (c : Caller) (R : Retelling c.call) (s : State)

theorem finish_retold (op : Operation) (result : Except Error AccessToken) :
    finish (R.caller c) (s.retold R) op result = (finish c s op result).map (State.retold R) id := by
  unfold finish
  simp only [R.within_caller]
  rw [s.signal_retold R rfl, State.record_retold R _ rfl]
  rfl

theorem last_retold (purpose : Purpose) (g : Stage) (turn : State × Turn) :
    last (R.caller c) purpose g (turn.map (State.retold R) id) =
      (last c purpose g turn).map (State.retold R) id := by
  obtain ⟨t, turn⟩ := turn
  cases turn with
  | going p => rfl
  | ended result =>
    cases purpose with
    | result => rfl
    | retrieval op x tenant host => exact finish_retold c R t op result
    | exchange op => exact finish_retold c R t op result

theorem proceed_retold (purpose : Purpose) (g : Stage) (turn : State × Turn) :
    proceed (R.caller c) purpose g (turn.map (State.retold R) id) =
      (proceed c purpose g turn).map (State.retold R) id := by
  obtain ⟨t, turn⟩ := turn
  cases purpose with
  | result => exact last_retold c R .result g (t, turn)
  | exchange op => exact last_retold c R (.exchange op) g (t, turn)
  | retrieval op x tenant host =>
    cases turn with
    | going p => rfl
    | ended result =>
      cases result with
      | error e => exact last_retold c R (.retrieval op x tenant host) g (t, .ended (.error e))
      | ok token =>
        show last (R.caller c) (.exchange op) _
          ((exchangeStage x tenant host token).start (R.caller c) (t.retold R)) = _
        rw [Stage.start_retold, last_retold]
        rfl

theorem authorize_retold (a : Authorizer) (credential : Credential) (host : String) :
    authorize (R.caller c) (s.retold R) a credential host =
      (authorize c s a credential host).map (State.retold R) id := by
  unfold authorize
  simp only [R.within_caller]
  rw [s.signal_retold R rfl]
  split
  · exact finish_retold c R _ _ _
  · rw [Stage.start_retold, proceed_retold]

theorem acquire_retold (bucket : Nat) (waiting : Phase) (refused : Error → Phase)
    (granted granted' : State → State × Phase)
    (h : ∀ t, granted' (t.retold R) = (granted t).map (State.retold R) id) :
    acquire (R.caller c) (s.retold R) bucket waiting refused granted' =
      (acquire c s bucket waiting refused granted).map (State.retold R) id := by
  unfold acquire
  show (if s.isCancelled c.name then _ else _ : State × Phase) = _
  split
  · rfl
  · rw [R.plain_caller, s.takePermit?_retold R rfl]
    cases s.takePermit? c.plain bucket with
    | none => rfl
    | some t => exact h t

theorem beginWork_retold (work : Work) :
    beginWork (R.caller c) work (s.retold R) = (beginWork c work s).map (State.retold R) id := by
  unfold beginWork
  simp only
  split
  · rw [R.plain_caller]
    exact congrArg (·, _) (s.cancel_retold R rfl c.name)
  · rfl

theorem start_retold (command : Command) :
    start (R.caller c) (s.retold R) command = (start c s command).map (State.retold R) id := by
  cases command with
  | stage g =>
    simp only [start]
    rw [Stage.start_retold, proceed_retold]
  | exchangeByClaims x token host =>
    cases ht : token.tenant with
    | error fault =>
      simp only [start, ht]
      rfl
    | ok tenant =>
      simp only [start, ht]
      rw [Stage.start_retold, proceed_retold]
  | authorize a credential host => exact authorize_retold c R s a credential host
  | permit bucket =>
    exact acquire_retold c R s bucket (.ready (.permit bucket)) (fun e => .done (.plain (.error e)))
      (fun s => (s, .done (.plain (.ok ())))) _ fun _ => rfl
  | throttle bucket work =>
    exact acquire_retold c R s bucket (.ready (.throttle bucket work))
      (fun e => .done (.worked false (.error e))) (beginWork c work) _
      fun t => beginWork_retold c R t work
  | cancel => exact congrArg (·, _) (s.cancel_retold R (o := c.plain) rfl c.name)
  | refuse fault => rfl

end Phases

/-- Where its trace is told otherwise a call is polled to the same, told otherwise. -/
theorem poll_retold (c : Call) (R : Retelling c.caller.call) (s : State) :
    (c.retold R).poll (s.retold R) =
      ((c.poll s).1.retold R, ⟨R.caller c.caller, (c.poll s).2.phase⟩) := by
  obtain ⟨caller, phase⟩ := c
  cases phase with
  | ready command =>
    simp only [retold, poll, start_retold]
    rfl
  | running purpose g progress =>
    simp only [retold, poll, Stage.resume_retold, proceed_retold]
    rfl
  | working ending =>
    by_cases hc : s.isCancelled caller.name = true
    · simp [retold, poll, Retelling.caller, hc]
    · simp [retold, poll, Retelling.caller, hc]
  | done result => rfl

end Call

end RegistryAuth
