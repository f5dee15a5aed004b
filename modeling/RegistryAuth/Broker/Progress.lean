import RegistryAuth.Broker.Rounds

/-!
# Progress

A poll of a call that is not stuck brings it closer to its end, and a poll of one that is stuck changes
nothing.  So calls that run together come to a point where all of them are stuck, within the number of
rounds that `Rounds.bound` names; that is `Rounds.isStuck_of_mem_complete`.
-/

namespace RegistryAuth

/-! ## Ranks -/

/-- How far a reply is, in polls. -/
def Reply.rank (r : Reply) : Nat :=
  r.yields + 2

/-- The polls that replies which have not been sent for can take up. -/
def State.rank (s : State) : Nat :=
  (s.replies.map Reply.rank).foldr (· + ·) 0

/-- How far a stage is from its end, replies to come apart. -/
def Progress.rank : Progress → Nat
  | .reading => 3
  | .waiting _ => 2
  | .flying reply => reply.rank
  | .hung => 1

/-- How far a stage is from its end after a poll. -/
def Turn.rank : Turn → Nat
  | .going progress => progress.rank
  | .ended _ => 0

def Purpose.rank : Purpose → Nat
  | .retrieval .. => 4
  | .result | .exchange _ => 0

/-- How far a call is from its end, replies to come apart. -/
def Phase.rank : Phase → Nat
  | .ready _ => 8
  | .running purpose _ progress => progress.rank + purpose.rank
  | .working _ => 1
  | .done _ => 0

/-! ## What leaves the replies alone -/

namespace State

variable (s : State) (o : Origin)

@[simp] theorem rank_record (e : Event) : (s.record o e).rank = s.rank := rfl

@[simp] theorem rank_signal (signals : List Signal) : (s.signal o signals).rank = s.rank := by
  induction signals generalizing s with
  | nil => rfl
  | cons x xs ih => exact ih (s.record o (.signal x))

@[simp] theorem rank_cancel (name : String) : (s.cancel o name).rank = s.rank := rfl

@[simp] theorem rank_store (cache : Nat) (key : CacheKey) (token : AccessToken) :
    (s.store o cache key token).rank = s.rank := rfl

@[simp] theorem rank_lookUp (cache : Nat) (key : CacheKey) :
    (s.lookUp o cache key).1.rank = s.rank := by
  simp only [lookUp, rank_signal, rank_record]
  rfl

@[simp] theorem rank_passing (r : Reply) : (s.passing o r).rank = s.rank := by
  unfold passing
  split <;> rfl

theorem rank_of_takePermit? {s t : State} {o : Origin} {bucket : Nat}
    (h : s.takePermit? o bucket = some t) : t.rank = s.rank := by
  unfold takePermit? at h
  split at h
  · simp at h
  · cases h
    rfl

theorem takePermit?_eq_none_iff {bucket : Nat} :
    s.takePermit? o bucket = none ↔ s.permits bucket = 0 := by
  unfold takePermit?
  split <;> simp_all

/-- A request that is sent trades a reply of the state for one under way. -/
theorem rank_send (q : Http.Request) :
    (s.send o q).1.rank + (s.send o q).2.rank ≤ s.rank + 2 := by
  unfold send
  simp only
  split
  · split
    · exact Nat.le_refl _
    · rename_i reply replies h
      have hs : s.rank = reply.rank + (replies.map Reply.rank).foldr (· + ·) 0 := by
        have hr : s.replies = reply :: replies := h
        simp [State.rank, hr]
      have ht : ({ s.record o (.sent q) with replies } : State).rank
          = (replies.map Reply.rank).foldr (· + ·) 0 := rfl
      show ({ s.record o (.sent q) with replies } : State).rank + reply.rank ≤ s.rank + 2
      omega
  · exact Nat.le_refl _

end State

/-! ## Stages -/

namespace Stage

variable (g : Stage) (c : Caller) (s : State)

@[simp] theorem rank_keep (o : Origin) (result : Except Error AccessToken) :
    (g.keep s o result).rank = s.rank := by
  unfold keep
  split <;> simp

@[simp] theorem rank_lookUp : (g.lookUp c s).1.rank = s.rank := by
  unfold lookUp
  split <;> simp

@[simp] theorem rank_finish (result : Except Error AccessToken) :
    (g.finish c s result).1.rank = s.rank := by
  simp [finish]

@[simp] theorem turn_finish (result : Except Error AccessToken) :
    (g.finish c s result).2 = .ended result := rfl

theorem rank_pollReply (reply : Reply) : (g.pollReply c s reply).1.rank = s.rank := by
  unfold pollReply
  split
  · rfl
  · simp only
    split <;> simp

theorem turn_pollReply (reply : Reply) : (g.pollReply c s reply).2.rank < reply.rank := by
  unfold pollReply
  split
  · rename_i n h
    simp only [Turn.rank, Progress.rank, Reply.rank, Reply.later, h]
    omega
  · simp only
    split
    · simp only [turn_finish, Turn.rank, Reply.rank]
      omega
    · simp only [Turn.rank, Progress.rank, Reply.rank]
      omega

/-- A stage that finds a permit, or is cancelled, comes closer to its end; else it stays where it is. -/
theorem rank_pollPermit (request : Except Http.Fault Http.Request) :
    (g.pollPermit c s request).1.rank + (g.pollPermit c s request).2.rank ≤ s.rank + 1 ∨
      g.pollPermit c s request = (s, .going (.waiting request)) ∧ s.isCancelled c.name = false ∧
        s.permits g.bucket = 0 := by
  unfold pollPermit
  split
  · left
    simp [Turn.rank]
  · rename_i hc
    split
    · rename_i h
      exact .inr ⟨rfl, by simpa using hc, (s.takePermit?_eq_none_iff _).1 h⟩
    · rename_i t h
      left
      have ht := State.rank_of_takePermit? h
      split
      · simp only [rank_finish, turn_finish, Turn.rank]
        omega
      · rename_i q
        have h₁ := t.rank_send (g.origin c) q
        have h₂ := g.rank_pollReply c (t.send (g.origin c) q).1 (t.send (g.origin c) q).2
        have h₃ := g.turn_pollReply c (t.send (g.origin c) q).1 (t.send (g.origin c) q).2
        simp only
        omega

theorem rank_pollPermit_le (request : Except Http.Fault Http.Request) :
    (g.pollPermit c s request).1.rank + (g.pollPermit c s request).2.rank ≤ s.rank + 2 := by
  rcases g.rank_pollPermit c s request with h | ⟨h, _⟩
  · omega
  · rw [h]
    exact Nat.le_refl _

theorem rank_enter : (g.enter c s).1.rank + (g.enter c s).2.rank ≤ s.rank + 2 := by
  unfold enter
  split
  · simp only [rank_finish, turn_finish, Turn.rank]
    omega
  · rename_i request _
    exact g.rank_pollPermit_le c s request

theorem rank_start : (g.start c s).1.rank + (g.start c s).2.rank ≤ s.rank + 3 := by
  unfold start
  simp only
  split
  · rename_i t token h
    have := congrArg (·.1.rank) h
    simp only [rank_lookUp, State.rank_signal] at this
    simp only [rank_finish, turn_finish, Turn.rank]
    omega
  · rename_i t h
    have := congrArg (·.1.rank) h
    simp only [rank_lookUp, State.rank_signal] at this
    split
    · simp only [Turn.rank, Progress.rank]
      omega
    · have := g.rank_enter c t
      omega

/-- A poll of a stage that is not stuck brings it closer to its end. -/
theorem rank_resume (p : Progress) (h : g.isStuck c s p = false) :
    (g.resume c s p).1.rank + (g.resume c s p).2.rank < s.rank + p.rank := by
  unfold resume
  cases p with
  | reading =>
    have := g.rank_enter c s
    have hr : s.slowFiles = false := h
    simp only [hr, Progress.rank, Bool.false_eq_true, if_false]
    omega
  | waiting request =>
    rcases g.rank_pollPermit c s request with hp | ⟨_, hc, hb⟩
    · simp only [Progress.rank]
      omega
    · simp [isStuck, hc, hb] at h
  | flying reply =>
    simp only [Progress.rank]
    split
    · simp only [rank_finish, turn_finish, Turn.rank, Reply.rank]
      omega
    · have h₁ := g.rank_pollReply c s reply
      have h₂ := g.turn_pollReply c s reply
      omega
  | hung =>
    simp only [isStuck, Bool.not_eq_false'] at h
    simp [h, Turn.rank, Progress.rank]

/-- A poll of a stage that is stuck changes nothing. -/
theorem resume_of_isStuck (p : Progress) (h : g.isStuck c s p = true) :
    g.resume c s p = (s, .going p) := by
  cases p with
  | reading =>
    have hr : s.slowFiles = true := h
    simp [resume, hr]
  | waiting request =>
    simp only [isStuck, Bool.and_eq_true, Bool.not_eq_true', beq_iff_eq] at h
    simp [resume, pollPermit, h.1, (s.takePermit?_eq_none_iff _).2 h.2]
  | flying reply => simp [isStuck] at h
  | hung =>
    simp only [isStuck, Bool.not_eq_true'] at h
    simp [resume, h]

end Stage

/-! ## Calls -/

namespace Call

section Phases

variable (c : Caller)

theorem rank_finish (s : State) (op : Operation) (result : Except Error AccessToken) :
    (finish c s op result).1.rank + (finish c s op result).2.rank = s.rank := by
  simp [finish, Phase.rank]

theorem rank_last (purpose : Purpose) (g : Stage) (r : State × Turn) :
    (last c purpose g r).1.rank + (last c purpose g r).2.rank ≤
      r.1.rank + r.2.rank + purpose.rank := by
  obtain ⟨s, turn⟩ := r
  cases turn with
  | going progress =>
    simp only [last, Phase.rank, Turn.rank]
    omega
  | ended result =>
    cases purpose with
    | result =>
      simp only [last, Phase.rank, Turn.rank]
      omega
    | retrieval op x tenant host =>
      have := rank_finish c s op result
      simp only [last, Turn.rank]
      omega
    | exchange op =>
      have := rank_finish c s op result
      simp only [last, Turn.rank]
      omega

theorem rank_proceed (purpose : Purpose) (g : Stage) (r : State × Turn) :
    (proceed c purpose g r).1.rank + (proceed c purpose g r).2.rank ≤
      r.1.rank + r.2.rank + purpose.rank := by
  unfold proceed
  split
  · rename_i op x tenant host s token
    have h₁ := rank_last c (.exchange op) (exchangeStage x tenant host token)
      ((exchangeStage x tenant host token).start c s)
    have h₂ := (exchangeStage x tenant host token).rank_start c s
    simp only [Purpose.rank, Turn.rank] at h₁ h₂ ⊢
    omega
  · exact rank_last c purpose g r

theorem rank_alone (g : Stage) (s : State) :
    (proceed c .result g (g.start c s)).1.rank + (proceed c .result g (g.start c s)).2.rank ≤
      s.rank + 3 :=
  Nat.le_trans (rank_proceed c .result g (g.start c s)) (g.rank_start c s)

theorem rank_authorize (s : State) (a : Authorizer) (credential : Credential) (host : String) :
    (authorize c s a credential host).1.rank + (authorize c s a credential host).2.rank ≤
      s.rank + 7 := by
  unfold authorize
  simp only
  split
  · rw [rank_finish]
    simp
  · rename_i g _
    refine Nat.le_trans (rank_proceed c _ _ _) ?_
    refine Nat.le_trans (Nat.add_le_add_right (g.rank_start c _) _) ?_
    simp [Purpose.rank]

theorem rank_endWork (ending : Ending) : (endWork ending).rank ≤ 1 := by
  cases ending <;> simp [endWork, Phase.rank]

theorem rank_beginWork (work : Work) (s : State) :
    (beginWork c work s).1.rank + (beginWork c work s).2.rank ≤ s.rank + 1 := by
  have hs : (if work.cancels then s.cancel c.plain c.name else s).rank = s.rank := by
    split <;> simp
  have hp : (if work.suspends then Phase.working work.ending else endWork work.ending).rank ≤ 1 := by
    split
    · exact Nat.le_refl _
    · exact rank_endWork work.ending
  exact Nat.add_le_add (Nat.le_of_eq hs) hp

/-- A call that is not stuck when it is to begin comes closer to its end. -/
theorem rank_start (s : State) (command : Command)
    (h : (⟨c, .ready command⟩ : Call).isStuck s = false) :
    (start c s command).1.rank + (start c s command).2.rank < s.rank + 8 := by
  cases command with
  | stage g => exact Nat.lt_of_le_of_lt (rank_alone c g s) (by omega)
  | exchangeByClaims x token host =>
    cases ht : token.tenant with
    | error fault =>
      simp only [start, ht, Phase.rank]
      omega
    | ok tenant =>
      simp only [start, ht]
      exact Nat.lt_of_le_of_lt (rank_alone c _ s) (by omega)
  | authorize a credential host =>
    have := rank_authorize c s a credential host
    simp only [start]
    omega
  | permit bucket =>
    simp only [start, acquire]
    split
    · simp only [Phase.rank]
      omega
    · rename_i hc
      split
      · rename_i hp
        simp [isStuck, hc, (s.takePermit?_eq_none_iff _).1 hp] at h
      · rename_i t hp
        have := State.rank_of_takePermit? hp
        simp only [Phase.rank]
        omega
  | throttle bucket work =>
    simp only [start, acquire]
    split
    · simp only [Phase.rank]
      omega
    · rename_i hc
      split
      · rename_i hp
        simp [isStuck, hc, (s.takePermit?_eq_none_iff _).1 hp] at h
      · rename_i t hp
        have h₁ := State.rank_of_takePermit? hp
        have h₂ := rank_beginWork c work t
        omega
  | cancel => simp [start, Phase.rank]
  | refuse fault => simp [start, Phase.rank]

end Phases

variable (s : State) (c : Call)

/-- A poll of a call that is not stuck brings it closer to its end. -/
theorem rank_poll (h : c.isStuck s = false) :
    (c.poll s).1.rank + (c.poll s).2.phase.rank < s.rank + c.phase.rank := by
  obtain ⟨caller, phase⟩ := c
  cases phase with
  | ready command => exact rank_start caller s command h
  | running purpose g progress =>
    have h₁ := g.rank_resume caller s progress h
    have h₂ := rank_proceed caller purpose g (g.resume caller s progress)
    have hr : (Phase.running purpose g progress).rank = progress.rank + purpose.rank := rfl
    simp only [poll, hr]
    omega
  | working ending =>
    simp only [poll]
    split
    · simp [Phase.rank]
    · rename_i hc
      cases ending with
      | never => simp [isStuck, hc] at h
      | success => simp [endWork, Phase.rank]
      | failure => simp [endWork, Phase.rank]
  | done result => simp [isStuck] at h

/-- A poll of a call that is stuck changes nothing. -/
theorem poll_of_isStuck (h : c.isStuck s = true) : c.poll s = (s, c) := by
  obtain ⟨caller, phase⟩ := c
  cases phase with
  | ready command =>
    cases command with
    | permit bucket =>
      simp only [isStuck, Bool.and_eq_true, Bool.not_eq_true', beq_iff_eq] at h
      simp [poll, start, acquire, h.1, (s.takePermit?_eq_none_iff _).2 h.2]
    | throttle bucket work =>
      simp only [isStuck, Bool.and_eq_true, Bool.not_eq_true', beq_iff_eq] at h
      simp [poll, start, acquire, h.1, (s.takePermit?_eq_none_iff _).2 h.2]
    | _ => simp [isStuck] at h
  | running purpose g progress =>
    have := g.resume_of_isStuck caller s progress h
    simp only [poll, this]
    cases purpose <;> rfl
  | working ending =>
    cases ending with
    | never =>
      simp only [isStuck, Bool.not_eq_true'] at h
      simp [poll, h, endWork]
    | success => simp [isStuck] at h
    | failure => simp [isStuck] at h
  | done result => rfl

end Call

/-! ## Rounds -/

namespace Rounds

/-- How far calls are from a point where all are stuck. -/
def rank (s : State) (cs : List Call) : Nat :=
  s.rank + (cs.map (·.phase.rank)).foldr (· + ·) 0

theorem rank_cons (s : State) (c : Call) (cs : List Call) :
    rank s (c :: cs) = rank s cs + c.phase.rank := by
  simp only [rank, List.map_cons, List.foldr_cons]
  omega

theorem rank_change (s t : State) (cs : List Call) : rank t cs + s.rank = rank s cs + t.rank := by
  simp only [rank]
  omega

/-- A round changes nothing, or brings the calls closer to a point where all are stuck. -/
theorem rank_round (s : State) (cs : List Call) :
    round s cs = (s, cs) ∧ cs.all (·.isStuck s) ∨
      rank (round s cs).1 (round s cs).2 < rank s cs := by
  induction cs generalizing s with
  | nil => exact .inl ⟨rfl, rfl⟩
  | cons c cs ih =>
    simp only [round, rank_cons]
    cases hc : c.isStuck s with
    | true =>
      rw [c.poll_of_isStuck s hc]
      rcases ih s with ⟨h, hs⟩ | h
      · exact .inl ⟨by rw [h], by simp [hc, hs]⟩
      · exact .inr (Nat.add_lt_add_right h _)
    | false =>
      right
      have hp := c.rank_poll s hc
      have hr := rank_change s (c.poll s).1 cs
      rcases ih (c.poll s).1 with ⟨h, _⟩ | h
      · simp only [h]
        omega
      · omega

theorem isStuck_run (n : Nat) (s : State) (cs : List Call) (h : rank s cs ≤ n) :
    (run n s cs).2.all (·.isStuck (run n s cs).1) := by
  induction n generalizing s cs with
  | zero =>
    rcases rank_round s cs with ⟨_, hs⟩ | hr
    · exact hs
    · omega
  | succ n ih =>
    simp only [run]
    split
    · rename_i hs
      exact hs
    · rename_i hs
      rcases rank_round s cs with ⟨_, h'⟩ | hr
      · exact absurd h' hs
      · exact ih _ _ (by omega)

theorem foldl_add (xs : List Nat) (n : Nat) : xs.foldl (· + ·) n = n + xs.foldr (· + ·) 0 := by
  induction xs generalizing n with
  | nil => rfl
  | cons x xs ih =>
    simp only [List.foldl_cons, List.foldr_cons, ih]
    omega

theorem callRank_le (c : Call) : c.phase.rank ≤ callBound c := by
  unfold callBound
  split
  · rename_i purpose _ reply h
    rw [h]
    cases purpose <;> simp only [Phase.rank, Progress.rank, Purpose.rank, Reply.rank, replyBound] <;>
      omega
  · rename_i h
    cases hp : c.phase with
    | ready _ => simp [Phase.rank]
    | working _ => simp [Phase.rank]
    | done _ => simp [Phase.rank]
    | running purpose g progress =>
      cases progress with
      | flying reply => exact absurd hp (h _ _ _)
      | reading => cases purpose <;> simp [Phase.rank, Progress.rank, Purpose.rank]
      | waiting _ => cases purpose <;> simp [Phase.rank, Progress.rank, Purpose.rank]
      | hung => cases purpose <;> simp [Phase.rank, Progress.rank, Purpose.rank]

theorem rank_le_bound (s : State) (cs : List Call) : rank s cs ≤ bound s cs := by
  simp only [bound, foldl_add, List.foldr_append, rank, State.rank]
  induction s.replies with
  | nil =>
    simp only [List.map_nil, List.foldr_nil, Nat.zero_add]
    induction cs with
    | nil => exact Nat.le_refl _
    | cons c cs ih =>
      have := callRank_le c
      simp only [List.map_cons, List.foldr_cons]
      omega
  | cons r rs ih =>
    simp only [List.map_cons, List.foldr_cons, Reply.rank, replyBound] at ih ⊢
    omega

/-- Calls that run together all come to where they are stuck. -/
theorem isStuck_of_mem_complete {s : State} {cs : List Call} {c : Call}
    (h : c ∈ (complete s cs).2) : c.isStuck (complete s cs).1 = true :=
  List.all_eq_true.1 (isStuck_run _ s cs (rank_le_bound s cs)) c h

end Rounds

end RegistryAuth
