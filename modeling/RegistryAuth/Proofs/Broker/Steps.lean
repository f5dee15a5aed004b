import Mathlib.Logic.Relation
import RegistryAuth.Proofs.Broker.Traffic

/-!
# Steps of a poll

A poll of a stage takes it through several steps, each of which `Stage.Step` lists with all that it
does.  What the steps of any call do to the shared state is made of the few effects of `State.Effect`;
so a fact about states that every effect keeps is kept by every poll, which is `Call.poll_effects`, and
by every run, which is `Traffic.run_keep`.
-/

namespace RegistryAuth

open Relation

/-! ## 1. Stages -/

namespace Stage

/-- A stage that has looked into its cache. -/
def opened (g : Stage) (c : Caller) (s : State) : State × Turn :=
  let s := s.signal (g.origin c) [.began g.operation, .counted g.operation .attempt]
  match g.lookUp c s with
  | (s, some token) => g.finish c s (.ok token)
  | (s, none) => (s, .going .reading)

/-- A stage whose reply has come. -/
def settle (g : Stage) (c : Caller) (s : State) (reply : Reply) : State × Turn :=
  let o := g.origin c
  let result := g.conclude reply.slot reply.outcome
  let s := (s.passing o reply).record o (.settled reply.slot reply.outcome)
  g.finish c (g.keep s o result) result

/-- The steps of a stage that has looked into its cache; one that waits for nothing else still has to
make its request. -/
inductive Step (g : Stage) (c : Caller) : State × Turn → State × Turn → Prop
  | refused {s : State} {e : Error} (h : g.prepare s.files = .error e) :
    Step g c (s, .going .reading) (g.finish c s (.error e))
  | prepared {s : State} {request : Except Http.Fault Http.Request}
    (h : g.prepare s.files = .ok request) :
    Step g c (s, .going .reading) (s, .going (.waiting request))
  | withdrawn {s : State} {request : Except Http.Fault Http.Request}
    (hc : s.isCancelled c.name = true) :
    Step g c (s, .going (.waiting request)) (g.finish c s (.error .rateLimitCancelled))
  | unmade {s t : State} {fault : Http.Fault} (hc : s.isCancelled c.name = false)
    (hp : s.takePermit? (g.origin c) g.bucket = some t) :
    Step g c (s, .going (.waiting (.error fault)))
      (g.finish c t (.error ((Workload.notMade fault).error none)))
  | sent {s t : State} {q : Http.Request} (hc : s.isCancelled c.name = false)
    (hp : s.takePermit? (g.origin c) g.bucket = some t) :
    Step g c (s, .going (.waiting (.ok q)))
      ((t.send (g.origin c) q).1, .going (.flying (t.send (g.origin c) q).2))
  | later {s : State} {reply : Reply} {n : Nat} (h : reply.yields = n + 1) :
    Step g c (s, .going (.flying reply)) (s, .going (.flying (reply.later n)))
  | settled {s : State} {reply : Reply} (h : reply.coming.reaches c.patient = true) :
    Step g c (s, .going (.flying reply)) (g.settle c s reply)
  | strayed {s : State} {reply : Reply} (h : reply.coming.reaches c.patient = false) :
    Step g c (s, .going (.flying reply)) (s.passing (g.origin c) reply, .going .hung)
  | abandoned {s : State} {reply : Reply} (hc : s.isCancelled c.name = true) :
    Step g c (s, .going (.flying reply)) (g.finish c s (.error .cancelled))
  | givenUp {s : State} (hc : s.isCancelled c.name = true) :
    Step g c (s, .going .hung) (g.finish c s (.error .cancelled))

variable (g : Stage) (c : Caller) (s : State)

theorem steps_pollReply (reply : Reply) :
    ReflTransGen (g.Step c) (s, .going (.flying reply)) (g.pollReply c s reply) := by
  unfold pollReply
  split
  · rename_i n h
    exact .single (.later h)
  · show ReflTransGen (g.Step c) _ (if reply.coming.reaches c.patient = true then _ else _)
    by_cases h : reply.coming.reaches c.patient = true
    · rw [if_pos h]
      exact .single (.settled h)
    · rw [if_neg h]
      exact .single (.strayed (by simpa using h))

theorem steps_pollPermit (request : Except Http.Fault Http.Request) :
    ReflTransGen (g.Step c) (s, .going (.waiting request)) (g.pollPermit c s request) := by
  unfold pollPermit
  by_cases hc : s.isCancelled c.name = true
  · rw [if_pos hc]
    exact .single (.withdrawn hc)
  · have hn : s.isCancelled c.name = false := by simpa using hc
    rw [if_neg hc]
    split
    -- With no permit left the stage stays where it is, which takes no step.
    · exact .refl
    · rename_i t hp
      cases request with
      | error fault => exact .single (.unmade hn hp)
      | ok q => exact (ReflTransGen.single (.sent hn hp)).trans (g.steps_pollReply c _ _)

theorem steps_enter : ReflTransGen (g.Step c) (s, .going .reading) (g.enter c s) := by
  unfold enter
  split
  · rename_i e h
    exact .single (.refused h)
  · rename_i request h
    exact (ReflTransGen.single (.prepared h)).trans (g.steps_pollPermit c s request)

theorem steps_start : ReflTransGen (g.Step c) (g.opened c s) (g.start c s) := by
  -- The look-up is named first, since both sides branch on it.
  obtain ⟨⟨t, token⟩, h⟩ : ∃ r, g.lookUp c
      (s.signal (g.origin c) [.began g.operation, .counted g.operation .attempt]) = r := ⟨_, rfl⟩
  cases token with
  | none =>
    simp only [opened, start, h]
    split
    · exact .refl
    · exact g.steps_enter c t
  | some token =>
    simp only [opened, start, h]
    exact .refl

/-- A further poll takes a stage through its steps. -/
theorem steps_resume (p : Progress) : ReflTransGen (g.Step c) (s, .going p) (g.resume c s p) := by
  cases p with
  | reading =>
    -- A file whose content is not there yet keeps the stage where it is.
    show ReflTransGen (g.Step c) _ (if s.slowFiles = true then _ else _)
    split
    · exact .refl
    · exact g.steps_enter c s
  | waiting request => exact g.steps_pollPermit c s request
  | flying reply =>
    -- Cancellation is looked at before the reply, so a reply that is there is lost.
    show ReflTransGen (g.Step c) _ (if s.isCancelled c.name = true then _ else _)
    split
    · rename_i hc
      exact .single (.abandoned hc)
    · exact g.steps_pollReply c s reply
  | hung =>
    show ReflTransGen (g.Step c) _ (if s.isCancelled c.name = true then _ else _)
    split
    · rename_i hc
      exact .single (.givenUp hc)
    · exact .refl

end Stage

/-! ## 2. Effects -/

/-- Whether an event says nothing of permits, requests, caches and cancellations. -/
def Event.isNote : Event → Bool
  | .signal _ | .settled .. | .ended _ => true
  | _ => false

namespace State

/-- What the steps of a call's polls do to the state, one thing at a time. -/
inductive Effect (c : Caller) : State → State → Prop
  | noted {s : State} {o : Origin} {e : Event} (ho : o.call = c.call) (he : e.isNote = true) :
    Effect c s (s.record o e)
  | granted {s t : State} {o : Origin} {bucket : Nat} (ho : o.call = c.call)
    (hc : s.isCancelled c.name = false) (hp : s.takePermit? o bucket = some t) : Effect c s t
  | dispatched {s t : State} {o : Origin} {bucket : Nat} {q : Http.Request} (ho : o.call = c.call)
    (hc : s.isCancelled c.name = false) (hp : s.takePermit? o bucket = some t) :
    Effect c s (t.send o q).1
  | moved {s : State} {clock : Instant} : Effect c s { s with clock }
  | cancelled {s : State} {o : Origin} {name : String} (ho : o.call = c.call) :
    Effect c s (s.cancel o name)
  | looked {s : State} {o : Origin} {cache : Nat} {key : CacheKey} (ho : o.call = c.call) :
    Effect c s ((s.setTokens cache ((s.tokens cache).evict (s.now cache) key)).record o
      (.looked cache key (s.now cache) ((s.tokens cache).served? (s.now cache) key)))
  | stored {s : State} {o : Origin} {cache : Nat} {key : CacheKey} {token : AccessToken}
    (ho : o.call = c.call) : Effect c s (s.store o cache key token)

/-- What one poll of a call, or several, may do to the state. -/
abbrev Effects (c : Caller) : State → State → Prop :=
  ReflTransGen (Effect c)

/-- A fact that every effect keeps is kept by effects. -/
theorem Effects.keep {P : State → Prop} {c : Caller} {s t : State} (h : Effects c s t)
    (hstep : ∀ s t, Effect c s t → P s → P t) (hs : P s) : P t := by
  induction h with
  | refl => exact hs
  | tail _ he ih => exact hstep _ _ he ih

variable {c : Caller} (s : State) {o : Origin} (ho : o.call = c.call)
include ho

theorem effects_signal (signals : List Signal) : Effects c s (s.signal o signals) := by
  induction signals generalizing s with
  | nil => exact .refl
  | cons x xs ih => exact (ReflTransGen.single (.noted ho rfl)).trans (ih (s.record o (.signal x)))

theorem effects_lookUp (cache : Nat) (key : CacheKey) : Effects c s (s.lookUp o cache key).1 :=
  (ReflTransGen.single (.looked ho)).trans (effects_signal _ ho _)

theorem effects_passing (reply : Reply) : Effects c s (s.passing o reply) := by
  unfold passing
  split
  · exact (ReflTransGen.single .moved).trans (.single (.cancelled ho))
  · exact .single .moved

end State

namespace Stage

open State (Effects)

variable (g : Stage) (c : Caller) (s : State)

theorem effects_finish (result : Except Error AccessToken) :
    Effects c s (g.finish c s result).1 :=
  (State.effects_signal s rfl _).trans (.single (.noted rfl rfl))

theorem effects_keep (result : Except Error AccessToken) :
    Effects c s (g.keep s (g.origin c) result) := by
  unfold keep
  split
  · exact .single (.stored rfl)
  · exact .refl

theorem effects_settle (reply : Reply) : Effects c s (g.settle c s reply).1 := by
  refine (State.effects_passing s (o := g.origin c) rfl reply).trans ?_
  -- What happens on the way comes first, then the outcome, the store and the end.
  have hnoted : Effects c (s.passing (g.origin c) reply)
      ((s.passing (g.origin c) reply).record (g.origin c) (.settled reply.slot reply.outcome)) :=
    .single (.noted rfl rfl)
  exact hnoted.trans ((g.effects_keep c _ _).trans (g.effects_finish c _ _))

theorem effects_lookUp : Effects c s (g.lookUp c s).1 := by
  unfold lookUp
  split
  · exact s.effects_lookUp rfl _ _
  · exact .refl

theorem effects_opened : Effects c s (g.opened c s).1 := by
  refine (State.effects_signal s (o := g.origin c) rfl
    [.began g.operation, .counted g.operation .attempt]).trans ?_
  unfold opened
  simp only
  have h := g.effects_lookUp c (s.signal (g.origin c) [.began g.operation, .counted g.operation .attempt])
  split
  · rename_i t token ht
    rw [ht] at h
    exact h.trans (g.effects_finish c t _)
  · rename_i t ht
    rw [ht] at h
    exact h

theorem Step.effects {g : Stage} {c : Caller} {a b : State × Turn} (h : g.Step c a b) :
    Effects c a.1 b.1 := by
  cases h with
  | refused h => exact g.effects_finish c _ _
  | prepared h => exact .refl
  | withdrawn hc => exact g.effects_finish c _ _
  | unmade hc hp => exact (ReflTransGen.single (.granted rfl hc hp)).trans (g.effects_finish c _ _)
  | sent hc hp => exact .single (.dispatched rfl hc hp)
  | later h => exact .refl
  | settled h => exact g.effects_settle c _ _
  | strayed h => exact State.effects_passing _ rfl _
  | abandoned hc => exact g.effects_finish c _ _
  | givenUp hc => exact g.effects_finish c _ _

theorem effects_of_steps {a b : State × Turn} (h : ReflTransGen (g.Step c) a b) :
    Effects c a.1 b.1 := by
  induction h with
  | refl => exact .refl
  | tail _ hstep ih => exact ih.trans hstep.effects

theorem effects_start : Effects c s (g.start c s).1 :=
  (g.effects_opened c s).trans (g.effects_of_steps c (g.steps_start c s))

theorem effects_resume (p : Progress) : Effects c s (g.resume c s p).1 :=
  g.effects_of_steps c (g.steps_resume c s p)

end Stage

namespace Call

open State (Effects)

section Phases

variable (c : Caller) (s : State)

theorem effects_finish (op : Operation) (result : Except Error AccessToken) :
    Effects c s (finish c s op result).1 :=
  (State.effects_signal s rfl _).trans (.single (.noted rfl rfl))

theorem effects_last (purpose : Purpose) (g : Stage) (t : State) (turn : Turn) :
    Effects c t (last c purpose g (t, turn)).1 := by
  cases turn with
  | going p => exact .refl
  | ended result =>
    cases purpose with
    | result => exact .refl
    | retrieval op x tenant host => exact effects_finish c t op result
    | exchange op => exact effects_finish c t op result

theorem effects_proceed (purpose : Purpose) (g : Stage) (t : State) (turn : Turn) :
    Effects c t (proceed c purpose g (t, turn)).1 := by
  cases purpose with
  | result => exact effects_last c _ g t turn
  | exchange op => exact effects_last c _ g t turn
  | retrieval op x tenant host =>
    cases turn with
    | going p => exact effects_last c _ g t _
    | ended result =>
      cases result with
      | error e => exact effects_last c _ g t _
      | ok token =>
        -- The exchange starts in the poll that ended the retrieval.
        exact ((exchangeStage x tenant host token).effects_start c t).trans
          (effects_last c _ _ _ _)

theorem effects_authorize (a : Authorizer) (credential : Credential) (host : String) :
    Effects c s (authorize c s a credential host).1 := by
  unfold authorize
  simp only
  split
  · exact (State.effects_signal s rfl _).trans (effects_finish c _ _ _)
  · rename_i g _
    exact (State.effects_signal s rfl _).trans
      ((g.effects_start c _).trans (effects_proceed c _ g _ _))

theorem effects_acquire (bucket : Nat) (waiting : Phase) (refused : Error → Phase)
    (granted : State → State × Phase) (h : ∀ t, Effects c t (granted t).1) :
    Effects c s (acquire c s bucket waiting refused granted).1 := by
  unfold acquire
  by_cases hc : s.isCancelled c.name = true
  · rw [if_pos hc]
  · rw [if_neg hc]
    split
    · exact .refl
    · rename_i t hp
      exact (ReflTransGen.single (.granted rfl (by simpa using hc) hp)).trans (h t)

theorem effects_start (command : Command) : Effects c s (start c s command).1 := by
  cases command with
  | stage g => exact (g.effects_start c s).trans (effects_proceed c .result g _ _)
  | exchangeByClaims x token host =>
    cases ht : token.tenant with
    | error fault =>
      simp only [start, ht]
      exact .refl
    | ok tenant =>
      simp only [start, ht]
      exact ((Stage.exchange x token (some tenant) host).effects_start c s).trans
        (effects_proceed c .result _ _ _)
  | authorize a credential host => exact effects_authorize c s a credential host
  | permit bucket => exact effects_acquire c s bucket _ _ _ fun t => .refl
  | throttle bucket work =>
    refine effects_acquire c s bucket _ _ _ fun t => ?_
    show Effects c t (if work.cancels = true then t.cancel c.plain c.name else t)
    split
    · exact .single (.cancelled rfl)
    · exact .refl
  | cancel => exact .single (.cancelled rfl)
  | refuse fault => exact .refl

end Phases

/-- All that a poll does to the state is done by effects of the call. -/
theorem poll_effects (s : State) (c : Call) : Effects c.caller s (c.poll s).1 := by
  obtain ⟨caller, phase⟩ := c
  cases phase with
  | ready command => exact effects_start caller s command
  | running purpose g progress =>
    exact (g.effects_resume caller s progress).trans (effects_proceed caller purpose g _ _)
  | working ending =>
    unfold poll
    simp only
    split <;> exact .refl
  | done result => exact .refl

end Call

/-! ## 3. Runs -/

/-- A poll of a call that was made is done by its effects. -/
theorem Traffic.effects_poll (w : Traffic) (i : Nat) :
    (w.step (.poll i)).state = w.state ∨
      ∃ c, w.calls[i]? = some c ∧ State.Effects c.caller w.state (w.step (.poll i)).state := by
  cases hi : w.calls[i]? with
  | none => exact .inl (congrArg Traffic.state (step_poll_of_none hi))
  | some c =>
    rw [step_poll_of_some hi]
    exact .inr ⟨c, rfl, c.poll_effects w.state⟩

/-- A fact about states that effects keep, and what happens between polls, holds after every run. -/
theorem Traffic.run_keep {P : State → Prop} {s : State} (hs : P s)
    (heffect : ∀ c s t, State.Effect c s t → P s → P t)
    (hclocks : ∀ s clock machine, P s → P { s with clock, machine })
    (hfiles : ∀ s files slowFiles, P s → P { s with files, slowFiles })
    (hsweep : ∀ s cache, P s → P (s.sweep cache).1) (ms : List Move) :
    P ((ofState s).run ms).state := by
  refine run_induction (P := fun _ w => P w.state) hs ?_ ms
  -- Only a poll has effects; each of the other moves has a hypothesis of its own or leaves the state.
  intro ms w m h
  cases m with
  | call name command => exact h
  | clocks clock machine => exact hclocks _ _ _ h
  | files files slow => exact hfiles _ _ _ h
  | sweep cache => exact hsweep _ _ h
  | poll i =>
    rcases w.effects_poll i with hsame | ⟨c, -, heffects⟩
    · rwa [hsame]
    · exact heffects.keep (heffect c.caller) h

end RegistryAuth
