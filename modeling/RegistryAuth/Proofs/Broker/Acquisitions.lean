import RegistryAuth.Proofs.Broker.Construction
import RegistryAuth.Proofs.Broker.Waiters
import RegistryAuth.Proofs.Identity.Assertions

/-!
# Tokens of workloads are got anew

What comes of a call for the token of a workload depends on the settings, on whose token it is, on what the
assertion file holds when it is read and on what is answered, and on nothing that happened before or happens
beside it: `acquisition_depends_on_file_and_answer`.
-/

namespace RegistryAuth

open Text (Bytes)

/-! ## 1. What is spent -/

namespace State

/-- What is recorded at an origin between one state and another, and how much of it is spent. -/
def Spends (o : Origin) (es : List Event) (s t : State) : Prop :=
  ∃ new, t.trace = s.trace ++ o.records new ∧ new.filter Event.isSpending = es

variable {o : Origin} {es es' : List Event} {s t u : State}

theorem Spends.refl (o : Origin) (s : State) : Spends o [] s s :=
  ⟨[], (List.append_nil _).symm, rfl⟩

theorem Spends.trans (h : Spends o es s t) (h' : Spends o es' t u) : Spends o (es ++ es') s u := by
  obtain ⟨new, htrace, rfl⟩ := h
  obtain ⟨more, htrace', rfl⟩ := h'
  refine ⟨new ++ more, ?_, List.filter_append ..⟩
  rw [htrace', htrace, Origin.records_append, List.append_assoc]

theorem exists_takePermit? {bucket : Nat} (h : 0 < s.permits bucket) (o : Origin) :
    ∃ t, s.takePermit? o bucket = some t := by
  obtain ⟨n, hn⟩ := Nat.exists_eq_succ_of_ne_zero (Nat.ne_of_gt h)
  rw [takePermit?, hn]
  exact ⟨_, rfl⟩

/-- The reply to a request is the next one that there is. -/
theorem snd_send (s : State) (o : Origin) (q : Http.Request) :
    (s.send o q).2 = if s.canReach q.uri then s.replies.head?.getD (.failed exhausted)
      else .failed .builder := by
  -- The record of the request comes first; it is none of what the reply depends on.
  have hsame : (s.record o (.sent q)).canReach q.uri = s.canReach q.uri := rfl
  have hreplies : (s.record o (.sent q)).replies = s.replies := rfl
  by_cases hreach : s.canReach q.uri = true
  · rw [if_pos hreach]
    cases hnext : s.replies <;> simp [send, hsame, hreach, hreplies, hnext]
  · rw [if_neg hreach]
    simp [send, hsame, hreach]

/-- Taking a permit leaves the replies as they are. -/
theorem snd_send_of_takePermit? {o o' : Origin} {bucket : Nat} (h : s.takePermit? o bucket = some t)
    (q : Http.Request) : (t.send o' q).2 = (s.send o' q).2 := by
  obtain ⟨n, -, rfl⟩ := eq_of_takePermit? h
  rw [snd_send, snd_send]
  rfl

end State

namespace Stage

open State (Spends)

section Permits

variable {g : Stage} {c : Caller} {s t : State} (hcancelled : s.isCancelled c.name = false)
  (ht : s.takePermit? (g.origin c) g.bucket = some t)
include hcancelled ht

theorem pollPermit_unmade (fault : Http.Fault) : g.pollPermit c s (.error fault) =
    g.finish c t (.error ((Workload.notMade fault).error none)) := by
  simp only [pollPermit, hcancelled, ht, Bool.false_eq_true, if_false]

theorem pollPermit_sent (q : Http.Request) : g.pollPermit c s (.ok q) =
    g.pollReply c (t.send (g.origin c) q).1 (t.send (g.origin c) q).2 := by
  simp only [pollPermit, hcancelled, ht, Bool.false_eq_true, if_false]

end Permits

variable (g : Stage) (c : Caller) (s : State)

theorem spends_finish (result : Except Error AccessToken) :
    Spends (g.origin c) [] s (g.finish c s result).1 :=
  ⟨_, g.trace_finish c s result, spending_closing g.operation result⟩

theorem spends_settle (reply : Reply) : Spends (g.origin c) [] s (g.settle c s reply).1 := by
  obtain ⟨now, htrace⟩ := g.trace_settle c s reply
  exact ⟨_, htrace, by simp [Event.isSpending]⟩

theorem spends_begun : Spends (g.origin c) [] s (g.begun c s) :=
  ⟨_, State.trace_signal s (g.origin c) _, rfl⟩

end Stage

/-- The permits and the requests that a call has spent. -/
def spentOf (call : Nat) (trace : List Record) : List Event :=
  ((recordsOf call trace).map (·.event)).filter Event.isSpending

theorem spentOf_of_spends {o : Origin} {es : List Event} {s t : State} (h : s.Spends o es t) :
    spentOf o.call t.trace = spentOf o.call s.trace ++ es := by
  obtain ⟨new, htrace, rfl⟩ := h
  have hown : recordsOf o.call (o.records new) = o.records new :=
    recordsOf_of_forall _ _ fun r hr => congrArg Origin.call (Origin.origin_of_mem_records hr)
  have hevents : (o.records new).map (·.event) = new := by
    rw [Origin.records, List.map_map]
    exact List.map_id new
  rw [spentOf, htrace, recordsOf_append, hown, List.map_append, hevents, List.filter_append, spentOf]

/-- The request that an event sends. -/
def Event.request? : Event → Option Http.Request
  | .sent q => some q
  | _ => none

/-- The requests that were sent on behalf of a call. -/
def requestsOf (call : Nat) (trace : List Record) : List Http.Request :=
  (recordsOf call trace).filterMap (·.event.request?)

theorem requestsOf_eq (call : Nat) (trace : List Record) :
    requestsOf call trace = (spentOf call trace).filterMap Event.request? := by
  rw [requestsOf, spentOf, List.filterMap_filter, List.filterMap_map]
  refine List.filterMap_congr fun r _ => ?_
  cases h : r.event <;> simp [h, Event.isSpending, Event.request?]

namespace Traffic

variable {w : Traffic} {ms : List Move} {i : Nat}

/-- Other moves than the polls of a call record nothing of it. -/
theorem Recorded.recordsOf_step (h : w.Recorded ms) {m : Move} (hm : m.isPollOf i = false) :
    recordsOf i (w.step m).state.trace = recordsOf i w.state.trace := by
  cases m with
  | poll j =>
    rcases w.effects_poll j with hsame | ⟨c, hc, heffects⟩
    · rw [hsame]
    · have hne : c.caller.call ≠ i := by
        rw [h.call_eq hc]
        exact of_decide_eq_false hm
      have hothers (trace : List Record) :
          recordsOf i trace = recordsOf i (trace.filter (·.origin.call ≠ c.caller.call)) := by
        rw [recordsOf, recordsOf, List.filter_filter]
        refine List.filter_congr fun r _ => ?_
        by_cases hr : r.origin.call = i
        · simp [hr, hne.symm]
        · simp [hr]
      rw [hothers, heffects.own, ← hothers]
  | _ => rfl

end Traffic

/-! ## 2. What decides -/

/-- All that decides what comes of a call for the token of a workload. -/
structure Acquisition where
  settings : WorkloadSettings
  client : ClientId
  tenant : TenantId
  /-- What the assertion file holds when it is read. -/
  content : Except FileFault Bytes
  /-- What comes back for the request, if there is one. -/
  answer : Reply

namespace Acquisition

variable (a : Acquisition)

def stage (bucket : Nat) : Stage :=
  .workload ⟨a.settings, bucket⟩ a.client a.tenant

def prepared : Except Error (Except Http.Fault Http.Request) :=
  (Workload.grant a.settings a.client a.tenant a.content).map (·.request)

/-- What the answer comes to. -/
def concluded : Except Error AccessToken :=
  (a.stage 0).conclude a.answer.slot a.answer.outcome

/-- Where the stage stands after a poll of the answer that so many polls still find nothing of. -/
def answered : Nat → Turn
  | n + 1 => .going (.flying (a.answer.later n))
  | 0 => if a.answer.coming.reaches true then .ended a.concluded else .going .hung

/-- Where the stage stands when it has been polled so many times since it read its assertion. -/
def turn (polls : Nat) : Turn :=
  match a.prepared with
  | .error e => .ended (.error e)
  | .ok (.error fault) => .ended (.error ((Workload.notMade fault).error none))
  | .ok (.ok _) => a.answered (a.answer.yields - polls)

/-- What is spent, with a bucket to take permits from. -/
def spending (bucket : Nat) : List Event :=
  match a.prepared with
  | .error _ => []
  | .ok (.error _) => [.permit bucket]
  | .ok (.ok q) => [.permit bucket, .sent q]

/-- The requests that are made, of which there is one at most. -/
def requests : List Http.Request :=
  match a.prepared with
  | .ok (.ok q) => [q]
  | _ => []

variable {a}

theorem turn_of_error {e : Error} (h : a.prepared = .error e) (polls : Nat) :
    a.turn polls = .ended (.error e) := by
  simp only [turn, h]

theorem turn_of_unmade {fault : Http.Fault} (h : a.prepared = .ok (.error fault)) (polls : Nat) :
    a.turn polls = .ended (.error ((Workload.notMade fault).error none)) := by
  simp only [turn, h]

theorem turn_of_request {q : Http.Request} (h : a.prepared = .ok (.ok q)) (polls : Nat) :
    a.turn polls = a.answered (a.answer.yields - polls) := by
  simp only [turn, h]

theorem spending_of_error {e : Error} (h : a.prepared = .error e) (bucket : Nat) :
    a.spending bucket = [] := by
  simp only [spending, h]

theorem spending_of_unmade {fault : Http.Fault} (h : a.prepared = .ok (.error fault)) (bucket : Nat) :
    a.spending bucket = [.permit bucket] := by
  simp only [spending, h]

theorem spending_of_request {q : Http.Request} (h : a.prepared = .ok (.ok q)) (bucket : Nat) :
    a.spending bucket = [.permit bucket, .sent q] := by
  simp only [spending, h]

theorem filterMap_spending (bucket : Nat) : (a.spending bucket).filterMap Event.request? = a.requests := by
  unfold spending requests
  rcases a.prepared with e | fault | q <;> rfl

theorem conclude_stage (bucket : Nat) :
    (a.stage bucket).conclude a.answer.slot a.answer.outcome = a.concluded := by
  unfold concluded
  cases a.answer.outcome <;> rfl

theorem prepare_stage {files : Files} (h : files.read a.settings.assertionFile = a.content) (bucket : Nat) :
    (a.stage bucket).prepare files = a.prepared := by
  rw [prepared, ← h]
  rfl

/-- Only what can be read is made a request of. -/
theorem presents_of_prepared {request : Except Http.Fault Http.Request} (h : a.prepared = .ok request) :
    ∃ text, Workload.Presents a.content text := by
  rcases Workload.presents_or_unreadable a.content with hpresents | ⟨f, cause, hunreadable⟩
  · exact hpresents
  · rw [prepared, Workload.grant_of_unreadable hunreadable] at h
    cases h

/-! ## 3. Polls -/

open State (Spends)

variable {c : Caller} {s : State} {bucket : Nat}

theorem pollReply_later (hpatient : c.patient = true) (bucket n : Nat) :
    ((a.stage bucket).pollReply c s (a.answer.later n)).2 = a.answered n ∧
      Spends ((a.stage bucket).origin c) [] s ((a.stage bucket).pollReply c s (a.answer.later n)).1 := by
  cases n with
  | succ n => exact ⟨rfl, .refl _ _⟩
  | zero =>
    have hpoll : (a.stage bucket).pollReply c s (a.answer.later 0) =
        if a.answer.coming.reaches c.patient then (a.stage bucket).settle c s (a.answer.later 0)
        else (s.passing ((a.stage bucket).origin c) (a.answer.later 0), .going .hung) := rfl
    rw [hpoll, hpatient, answered]
    by_cases hreaches : a.answer.coming.reaches true = true
    · rw [if_pos hreaches, if_pos hreaches]
      refine ⟨?_, (a.stage bucket).spends_settle c s _⟩
      rw [← conclude_stage bucket]
      rfl
    · rw [if_neg hreaches, if_neg hreaches]
      exact ⟨rfl, _, State.trace_passing _ _ _, Stage.spending_told _⟩

/-- What a call that can present its assertion needs of a state: it is not cancelled, there is a permit, and
its request will be answered. -/
structure Served (a : Acquisition) (c : Caller) (bucket : Nat) (s : State) : Prop where
  uncancelled : s.isCancelled c.name = false
  permit : 0 < s.permits bucket
  answered : ∀ q, a.prepared = .ok (.ok q) → (s.send ((a.stage bucket).origin c) q).2 = a.answer

/-- The poll in which the assertion is read. -/
theorem enter_stage (hpatient : c.patient = true)
    (hcontent : s.files.read a.settings.assertionFile = a.content)
    (hserved : (∃ text, Workload.Presents a.content text) → a.Served c bucket s) :
    ((a.stage bucket).enter c s).2 = a.turn 0 ∧
      Spends ((a.stage bucket).origin c) (a.spending bucket) s ((a.stage bucket).enter c s).1 := by
  have hprepare := prepare_stage hcontent bucket
  cases hprepared : a.prepared with
  | error e =>
    have henter : (a.stage bucket).enter c s = (a.stage bucket).finish c s (.error e) := by
      simp only [Stage.enter, hprepare, hprepared]
    rw [henter, turn_of_error hprepared, spending_of_error hprepared]
    exact ⟨rfl, (a.stage bucket).spends_finish c s _⟩
  | ok request =>
    obtain ⟨hcancelled, hpermit, hanswered⟩ := hserved (presents_of_prepared hprepared)
    obtain ⟨t, ht⟩ := State.exists_takePermit? hpermit ((a.stage bucket).origin c)
    have htaken : Spends ((a.stage bucket).origin c) [.permit bucket] s t :=
      ⟨_, State.trace_of_takePermit? ht, rfl⟩
    have henter : (a.stage bucket).enter c s = (a.stage bucket).pollPermit c s request := by
      simp only [Stage.enter, hprepare, hprepared]
    rw [henter]
    cases request with
    | error fault =>
      rw [Stage.pollPermit_unmade hcancelled ht, turn_of_unmade hprepared, spending_of_unmade hprepared]
      exact ⟨rfl, htaken.trans ((a.stage bucket).spends_finish c t _)⟩
    | ok q =>
      have hreply : (t.send ((a.stage bucket).origin c) q).2 = a.answer.later a.answer.yields :=
        (State.snd_send_of_takePermit? ht q).trans (hanswered q hprepared)
      have hsent : Spends ((a.stage bucket).origin c) [.sent q] t
          (t.send ((a.stage bucket).origin c) q).1 := ⟨_, State.trace_send _ _ _, rfl⟩
      obtain ⟨hturn, hspends⟩ := pollReply_later (a := a)
        (s := (t.send ((a.stage bucket).origin c) q).1) hpatient bucket a.answer.yields
      rw [Stage.pollPermit_sent hcancelled ht, hreply, turn_of_request hprepared,
        spending_of_request hprepared]
      exact ⟨hturn, (htaken.trans hsent).trans hspends⟩

theorem exists_request_of_going {polls : Nat} {p : Progress} (h : a.turn polls = .going p) :
    ∃ q, a.prepared = .ok (.ok q) := by
  cases hprepared : a.prepared with
  | error e => cases (turn_of_error hprepared polls).symm.trans h
  | ok request =>
    cases request with
    | error fault => cases (turn_of_unmade hprepared polls).symm.trans h
    | ok q => exact ⟨q, rfl⟩

theorem turn_succ_of_ended {polls : Nat} {result : Except Error AccessToken}
    (h : a.turn polls = .ended result) : a.turn (polls + 1) = .ended result := by
  cases hprepared : a.prepared with
  | error e => rw [← h, turn_of_error hprepared, turn_of_error hprepared]
  | ok request =>
    cases request with
    | error fault => rw [← h, turn_of_unmade hprepared, turn_of_unmade hprepared]
    | ok q =>
      rw [turn_of_request hprepared] at h
      rw [turn_of_request hprepared]
      -- The answer has come, so no poll is left that finds nothing.
      cases hleft : a.answer.yields - polls with
      | succ n =>
        rw [hleft] at h
        cases h
      | zero =>
        have hnone : a.answer.yields - (polls + 1) = 0 := by omega
        rw [hnone, ← h, hleft]

theorem resume_stage {polls : Nat} {p : Progress} (h : a.turn polls = .going p)
    (hpatient : c.patient = true) (hcancelled : s.isCancelled c.name = false) (bucket : Nat) :
    ((a.stage bucket).resume c s p).2 = a.turn (polls + 1) ∧
      Spends ((a.stage bucket).origin c) [] s ((a.stage bucket).resume c s p).1 := by
  obtain ⟨q, hq⟩ := exists_request_of_going h
  rw [turn_of_request hq] at h
  rw [turn_of_request hq]
  cases hleft : a.answer.yields - polls with
  | succ n =>
    rw [hleft] at h
    cases h
    have hnext : a.answer.yields - (polls + 1) = n := by omega
    have hresume : (a.stage bucket).resume c s (.flying (a.answer.later n)) =
        (a.stage bucket).pollReply c s (a.answer.later n) := by
      simp only [Stage.resume, hcancelled, Bool.false_eq_true, if_false]
    rw [hnext, hresume]
    exact pollReply_later hpatient bucket n
  | zero =>
    have hnext : a.answer.yields - (polls + 1) = 0 := by omega
    rw [hleft] at h
    rw [hnext, h]
    have hhung : p = .hung := by
      rw [answered] at h
      split at h
      · cases h
      · exact (Turn.going.inj h).symm
    subst hhung
    have hresume : (a.stage bucket).resume c s .hung = (s, .going .hung) := by
      simp only [Stage.resume, hcancelled, Bool.false_eq_true, if_false]
    rw [hresume]
    exact ⟨rfl, .refl _ _⟩

/-- A call that has not read its assertion. -/
def Unread (a : Acquisition) (bucket : Nat) (phase : Phase) : Prop :=
  phase = .ready (.stage (a.stage bucket)) ∨ phase = .running .result (a.stage bucket) .reading

variable {phase : Phase}

theorem start_stage : (a.stage bucket).start c s =
    if s.slowFiles then ((a.stage bucket).begun c s, .going .reading)
    else (a.stage bucket).enter c ((a.stage bucket).begun c s) :=
  Stage.start_of_unserved (g := a.stage bucket) (t := (a.stage bucket).begun c s) rfl

theorem poll_running (c : Caller) (g : Stage) (p : Progress) (s : State) :
    (⟨c, .running .result g p⟩ : Call).poll s =
      ((g.resume c s p).1, ⟨c, Call.alone g (g.resume c s p).2⟩) := by
  simp only [Call.poll, Call.proceed_result]

theorem poll_ready (c : Caller) (g : Stage) (s : State) :
    (⟨c, .ready (.stage g)⟩ : Call).poll s = ((g.start c s).1, ⟨c, Call.alone g (g.start c s).2⟩) := by
  simp only [Call.poll, Call.start, Call.proceed_result]

/-- While no content of a file is there, the call goes on waiting for it. -/
theorem poll_unread_of_slow (h : a.Unread bucket phase) (hslow : s.slowFiles = true) :
    a.Unread bucket ((⟨c, phase⟩ : Call).poll s).2.phase := by
  rcases h with rfl | rfl
  · rw [poll_ready, start_stage, if_pos hslow]
    exact .inr rfl
  · have hresume : (a.stage bucket).resume c s .reading = (s, .going .reading) := by
      simp only [Stage.resume, hslow, if_true]
    rw [poll_running, hresume]
    exact .inr rfl

theorem Served.begun (h : a.Served c bucket s) : a.Served c bucket ((a.stage bucket).begun c s) where
  uncancelled := h.uncancelled
  permit := h.permit
  answered q hq := by
    rw [← h.answered q hq, State.snd_send, State.snd_send]
    rfl

theorem poll_unread (h : a.Unread bucket phase) (hpatient : c.patient = true) (hquick : s.slowFiles = false)
    (hcontent : s.files.read a.settings.assertionFile = a.content)
    (hserved : (∃ text, Workload.Presents a.content text) → a.Served c bucket s) :
    ((⟨c, phase⟩ : Call).poll s).2 = ⟨c, Call.alone (a.stage bucket) (a.turn 0)⟩ ∧
      Spends ((a.stage bucket).origin c) (a.spending bucket) s ((⟨c, phase⟩ : Call).poll s).1 := by
  have hslow : ¬ s.slowFiles = true := by simp [hquick]
  rcases h with rfl | rfl
  · rw [poll_ready, start_stage, if_neg hslow]
    obtain ⟨hturn, hspends⟩ := enter_stage (s := (a.stage bucket).begun c s) hpatient hcontent
      fun hpresents => (hserved hpresents).begun
    rw [hturn]
    exact ⟨rfl, ((a.stage bucket).spends_begun c s).trans hspends⟩
  · have hresume : (a.stage bucket).resume c s .reading = (a.stage bucket).enter c s := by
      simp only [Stage.resume, hquick, Bool.false_eq_true, if_false]
    obtain ⟨hturn, hspends⟩ := enter_stage hpatient hcontent hserved
    rw [poll_running, hresume, hturn]
    exact ⟨rfl, hspends⟩

/-- A poll after the one in which the assertion was read. -/
theorem poll_read (hpatient : c.patient = true)
    (huncancelled : (∃ text, Workload.Presents a.content text) → s.isCancelled c.name = false)
    (bucket polls : Nat) :
    ((⟨c, Call.alone (a.stage bucket) (a.turn polls)⟩ : Call).poll s).2 =
        ⟨c, Call.alone (a.stage bucket) (a.turn (polls + 1))⟩ ∧
      Spends ((a.stage bucket).origin c) [] s
        ((⟨c, Call.alone (a.stage bucket) (a.turn polls)⟩ : Call).poll s).1 := by
  cases hturn : a.turn polls with
  | ended result =>
    rw [turn_succ_of_ended hturn]
    exact ⟨rfl, .refl _ _⟩
  | going p =>
    obtain ⟨q, hq⟩ := exists_request_of_going hturn
    obtain ⟨hnext, hspends⟩ := resume_stage hturn hpatient
      (huncancelled (presents_of_prepared hq)) bucket
    rw [Call.alone, poll_running, hnext]
    exact ⟨rfl, hspends⟩

end Acquisition

/-! ## 4. Runs -/

/-- A run and a call in it: the moves before the poll in which the call reads its assertion, and those
after it. -/
structure Episode where
  state : State
  before : List Move
  call : Nat
  name : String
  /-- The bucket that the call takes its permit from. -/
  bucket : Nat
  after : List Move

/-- What a call returns whose only stage stands somewhere. -/
def Turn.result? : Turn → Option Result
  | .going _ => none
  | .ended result => some (.token result)

theorem Turn.exists_of_result? {turn : Turn} {result : Result} (h : turn.result? = some result) :
    ∃ r, turn = .ended r ∧ .token r = result := by
  cases turn with
  | going p => cases h
  | ended r => exact ⟨r, rfl, Option.some.inj h⟩

namespace Episode

variable (x : Episode)

def caller : Caller :=
  ⟨x.call, x.name, true⟩

def opening : Traffic :=
  (Traffic.ofState x.state).run x.before

def closing : Traffic :=
  x.opening.run (.poll x.call :: x.after)

/-- How often the call is polled again. -/
def polls : Nat :=
  x.after.countP (Move.isPollOf x.call)

def result? : Option Result :=
  x.closing.result? x.call

def requests : List Http.Request :=
  requestsOf x.call x.closing.state.trace

def spent : List Event :=
  spentOf x.call x.closing.state.trace

/-- The call of an episode is one for the token of a workload, with all that decides what comes of it. -/
structure Acquires (x : Episode) (a : Acquisition) : Prop where
  fresh : x.state.trace = []
  made : (Move.made x.before)[x.call]? = some (x.name, .stage (a.stage x.bucket))
  /-- In earlier polls of the call, if there were any, no content of a file was there. -/
  unread : ∀ ms ns, x.before = ms ++ .poll x.call :: ns →
    ((Traffic.ofState x.state).run ms).state.slowFiles = true
  quick : x.opening.state.slowFiles = false
  content : x.opening.state.files.read a.settings.assertionFile = a.content
  -- Only a call that has something to present needs a permit and a name that is not cancelled.
  served : (∃ text, Workload.Presents a.content text) → a.Served x.caller x.bucket x.opening.state
  uncancelled : (∃ text, Workload.Presents a.content text) →
    ∀ ms ns, x.after = ms ++ .poll x.call :: ns →
      (x.opening.run (.poll x.call :: ms)).state.isCancelled x.name = false

variable {x} {a : Acquisition}

theorem opening_call (h : x.Acquires a) :
    ∃ phase, x.opening.calls[x.call]? = some ⟨x.caller, phase⟩ ∧ a.Unread x.bucket phase := by
  have hmore {ms before after : List Move} {m n : Move} (h : ms = before ++ m :: after) :
      ms ++ [n] = before ++ m :: (after ++ [n]) := by
    rw [h, List.append_assoc, List.cons_append]
  -- By induction on the moves before, with what is known of the earlier polls behind the arrow: each
  -- move adds to the run that these were polls of.
  obtain ⟨⟨caller, phase⟩, hc, hP⟩ : ∃ c, x.opening.calls[x.call]? = some c ∧
      ((∀ ms ns, x.before = ms ++ .poll x.call :: ns →
        ((Traffic.ofState x.state).run ms).state.slowFiles = true) →
        c.caller = x.caller ∧ a.Unread x.bucket c.phase) := by
    have hall := (Traffic.calls_induction (s := x.state)
      (P := fun ms i made c => made = (x.name, .stage (a.stage x.bucket)) →
        (∀ before after, ms = before ++ .poll i :: after →
          ((Traffic.ofState x.state).run before).state.slowFiles = true) →
        c.caller = ⟨i, x.name, true⟩ ∧ a.Unread x.bucket c.phase) ?_ ?_ ?_ x.before).2
    · obtain ⟨c, hc, hP⟩ := hall x.call _ h.made
      exact ⟨c, hc, hP rfl⟩
    · rintro ms i made rfl -
      exact ⟨rfl, .inl rfl⟩
    · intro ms m i made c hm ih hmade hslow
      exact ih hmade fun before after hms => hslow before (after ++ [m]) (hmore hms)
    · intro ms i made c ih hmade hslow
      obtain ⟨hcaller, hunread⟩ := ih hmade
        fun before after hms => hslow before (after ++ [.poll i]) (hmore hms)
      exact ⟨hcaller, Acquisition.poll_unread_of_slow hunread (hslow ms [] rfl)⟩
  obtain ⟨rfl, hunread⟩ := hP h.unread
  exact ⟨phase, hc, hunread⟩

/-- Until it reads its assertion a call has spent nothing. -/
theorem spentOf_opening (h : x.Acquires a) : spentOf x.call x.opening.state.trace = [] := by
  obtain ⟨phase, hc, hunread⟩ := opening_call h
  obtain ⟨c, hc', -, hhistory⟩ := (Traffic.recorded_run h.fresh x.before).history _ _ _ h.made
  obtain rfl := Option.some.inj (hc.symm.trans hc')
  change Call.History _ _ (recordsOf x.call x.opening.state.trace) phase at hhistory
  unfold spentOf
  generalize recordsOf x.call x.opening.state.trace = rs at hhistory
  rcases hunread with rfl | rfl
  · rw [hhistory.eq_nil_of_ready rfl rfl]
    rfl
  · generalize hphase : Phase.running .result (a.stage x.bucket) .reading = phase at hhistory
    cases hhistory with
    | @alone g es turn hcourse =>
      cases turn with
      | ended result => cases hphase
      | going p =>
        cases hphase
        cases hcourse with
        | missed hf ha =>
          cases ha with
          | reading =>
            -- A stage that waits for its file has found no token and asked for nothing.
            rw [Origin.records, List.map_map]
            refine (congrArg (List.filter Event.isSpending) (List.map_id _)).trans ?_
            rw [Stage.Course.filter_isSpending hf]
            rfl
    | plain hc => cases hc
    | _ => cases hphase

theorem recorded (h : x.Acquires a) (ns : List Move) :
    (x.opening.run (.poll x.call :: ns)).Recorded (x.before ++ .poll x.call :: ns) := by
  rw [opening, ← Traffic.run_append]
  exact Traffic.recorded_run h.fresh _

/-- Where the call stands after the poll in which it reads its assertion and further moves, and what it has
spent. -/
theorem call_after (h : x.Acquires a) (ns : List Move)
    (huncancelled : (∃ text, Workload.Presents a.content text) →
      ∀ ms ms', ns = ms ++ .poll x.call :: ms' →
        (x.opening.run (.poll x.call :: ms)).state.isCancelled x.name = false) :
    (x.opening.run (.poll x.call :: ns)).calls[x.call]? =
        some ⟨x.caller, Call.alone (a.stage x.bucket) (a.turn (ns.countP (Move.isPollOf x.call)))⟩ ∧
      spentOf x.call (x.opening.run (.poll x.call :: ns)).state.trace = a.spending x.bucket := by
  -- By induction on the moves; only the polls of the call lead it on, and they spend nothing more.
  induction ns using List.reverseRecOn with
  | nil =>
    obtain ⟨phase, hc, hunread⟩ := opening_call h
    obtain ⟨hcall, hspends⟩ :=
      Acquisition.poll_unread hunread (c := x.caller) rfl h.quick h.content h.served
    have hrun : x.opening.run [.poll x.call] = x.opening.step (.poll x.call) := rfl
    rw [hrun, Traffic.step_poll_of_some hc, hcall]
    refine ⟨List.getElem?_set_self (List.getElem?_eq_some_iff.1 hc).1, ?_⟩
    have hspent := spentOf_of_spends hspends
    rwa [show ((a.stage x.bucket).origin x.caller).call = x.call from rfl, spentOf_opening h,
      List.nil_append] at hspent
  | append_singleton ns m ih =>
    have hearlier (hpresents : ∃ text, Workload.Presents a.content text) (ms ms' : List Move)
        (hns : ns = ms ++ .poll x.call :: ms') :
        (x.opening.run (.poll x.call :: ms)).state.isCancelled x.name = false := by
      refine huncancelled hpresents ms (ms' ++ [m]) ?_
      rw [hns, List.append_assoc, List.cons_append]
    obtain ⟨hc, hspent⟩ := ih hearlier
    have hrun : x.opening.run (.poll x.call :: (ns ++ [m])) =
        (x.opening.run (.poll x.call :: ns)).step m := Traffic.run_append _ (.poll x.call :: ns) [m]
    have hlt := (List.getElem?_eq_some_iff.1 hc).1
    rw [hrun, List.countP_append, List.countP_singleton]
    cases hm : m.isPollOf x.call with
    | false =>
      rw [if_neg Bool.false_ne_true, Nat.add_zero, Traffic.calls_step hm hlt, spentOf,
        (recorded h ns).recordsOf_step hm]
      exact ⟨hc, hspent⟩
    | true =>
      obtain rfl := Move.eq_poll_of_isPollOf hm
      obtain ⟨hcall, hspends⟩ := Acquisition.poll_read (a := a) (c := x.caller)
        (s := (x.opening.run (.poll x.call :: ns)).state) rfl
        (fun hpresents => huncancelled hpresents ns [] rfl) x.bucket (ns.countP (Move.isPollOf x.call))
      rw [if_pos rfl, Traffic.step_poll_of_some hc, hcall]
      refine ⟨List.getElem?_set_self hlt, ?_⟩
      have hmore := spentOf_of_spends hspends
      rwa [show ((a.stage x.bucket).origin x.caller).call = x.call from rfl, hspent,
        List.append_nil] at hmore

theorem result?_eq (h : x.Acquires a) : x.result? = (a.turn x.polls).result? := by
  have hc := (call_after h x.after h.uncancelled).1
  rw [result?, Traffic.result?, closing, hc, Option.bind_some, polls]
  cases a.turn (x.after.countP (Move.isPollOf x.call)) <;> rfl

theorem spent_eq (h : x.Acquires a) : x.spent = a.spending x.bucket :=
  (call_after h x.after h.uncancelled).2

theorem requests_eq (h : x.Acquires a) : x.requests = a.requests := by
  rw [requests, requestsOf_eq, ← Acquisition.filterMap_spending x.bucket, ← spent_eq h, spent]

end Episode

/-! ## 5. What comes of a call -/

namespace Acquisition

variable {a : Acquisition} {text : List Char}

theorem prepared_of_unreadable {f : FileFault} {cause : String} (h : Workload.Unreadable a.content f cause) :
    a.prepared = .error (.credential a.settings.assertionFile f cause) := by
  rw [prepared, Workload.grant_of_unreadable h]
  rfl

theorem prepared_of_presents (h : Workload.Presents a.content text) :
    a.prepared = ((a.settings.tokenEndpoint a.tenant).mapError .config).map fun url =>
      (Workload.Grant.mk url a.client (String.ofList text) a.settings.scope).request := by
  rw [prepared, Workload.grant_of_presents h]
  cases a.settings.tokenEndpoint a.tenant <;> rfl

/-- Answers that have come have come to the same. -/
theorem eq_of_ended {polls polls' : Nat} {result result' : Except Error AccessToken}
    (h : a.turn polls = .ended result) (h' : a.turn polls' = .ended result') : result = result' := by
  -- Whichever was polled less often stays where it has ended.
  have hstays {k : Nat} {result : Except Error AccessToken} (n : Nat) (hk : a.turn k = .ended result) :
      a.turn (k + n) = .ended result := by
    induction n with
    | zero => exact hk
    | succ n ih => exact turn_succ_of_ended ih
  have hturn := hstays polls' h
  rw [Nat.add_comm, hstays polls h'] at hturn
  exact (Turn.ended.inj hturn).symm

/-- What comes of a call for the token of a workload. -/
structure Accounted (a : Acquisition) (x : Episode) : Prop where
  /-- A file of which nothing can be presented fails the call before anything else is looked at. -/
  unreadable : ∀ f cause, Workload.Unreadable a.content f cause →
    x.result? = some (.token (.error (.credential a.settings.assertionFile f cause))) ∧ x.spent = []
  unaddressed : ∀ text fault, Workload.Presents a.content text →
    a.settings.tokenEndpoint a.tenant = .error fault →
    x.result? = some (.token (.error (.config fault))) ∧ x.spent = []
  unmade : ∀ text url fault, Workload.Presents a.content text →
    a.settings.tokenEndpoint a.tenant = .ok url → Http.Uri.ofUrl url = .error fault →
    x.result? = some (.token (.error ((Workload.notMade fault).error none))) ∧ x.requests = []
  /-- One request presents what the file held when it was read, for the scope of the audience. -/
  sent : ∀ text url uri, Workload.Presents a.content text →
    a.settings.tokenEndpoint a.tenant = .ok url → Http.Uri.ofUrl url = .ok uri →
    ∃ q base n, x.requests = [q] ∧ q.uri = uri ∧
      a.settings.audience.toList = base ++ List.replicate n '/' ∧ base.getLast? ≠ some '/' ∧
      Form.decode (Text.Utf8.encode q.body) =
        [("grant_type", "client_credentials"), ("scope", String.ofList base ++ "/.default"),
          ("client_id", a.client.text), ("client_assertion_type", assertionType),
          ("client_assertion", String.ofList text)]
  answered : ∀ q, x.requests = [q] → a.answer.coming.reaches true = true → a.answer.yields ≤ x.polls →
    x.result? = some (.token a.concluded)

theorem accounted {x : Episode} (h : x.Acquires a) : a.Accounted x where
  unreadable f cause hcontent := by
    have hprepared := prepared_of_unreadable hcontent
    rw [Episode.result?_eq h, Episode.spent_eq h, turn_of_error hprepared, spending_of_error hprepared]
    exact ⟨rfl, rfl⟩
  unaddressed text fault hcontent hendpoint := by
    have hprepared : a.prepared = .error (.config fault) := by
      rw [prepared_of_presents hcontent, hendpoint]
      rfl
    rw [Episode.result?_eq h, Episode.spent_eq h, turn_of_error hprepared, spending_of_error hprepared]
    exact ⟨rfl, rfl⟩
  unmade text url fault hcontent hendpoint huri := by
    have hrequest : (Workload.Grant.mk url a.client (String.ofList text) a.settings.scope).request =
        .error fault := bind_eq_error_iff.2 (.inl huri)
    have hprepared : a.prepared = .ok (.error fault) := by
      rw [prepared_of_presents hcontent, hendpoint, ← hrequest]
      rfl
    rw [Episode.result?_eq h, Episode.requests_eq h, turn_of_unmade hprepared]
    refine ⟨rfl, ?_⟩
    simp only [requests, hprepared]
  sent text url uri hcontent hendpoint huri := by
    have hrequest : ∃ q, (Workload.Grant.mk url a.client (String.ofList text) a.settings.scope).request =
        .ok q := by
      rw [Workload.Grant.request, huri]
      exact ⟨_, rfl⟩
    obtain ⟨q, hq⟩ := hrequest
    have hprepared : a.prepared = .ok (.ok q) := by
      rw [prepared_of_presents hcontent, hendpoint, ← hq]
      rfl
    obtain ⟨base, n, haudience, hbase, hscope⟩ := a.settings.exists_scope
    obtain ⟨hquri, -, hform⟩ := Workload.Grant.decode_request hq
    refine ⟨q, base, n, ?_, Except.ok.inj (hquri.symm.trans huri), haudience, hbase, ?_⟩
    · rw [Episode.requests_eq h]
      simp only [requests, hprepared]
    · rw [hform, Workload.Grant.form, hscope]
  answered q hsent hreaches hpolls := by
    rw [Episode.requests_eq h, requests] at hsent
    split at hsent
    · rename_i q' hprepared
      have hnone : a.answer.yields - x.polls = 0 := by omega
      rw [Episode.result?_eq h, turn_of_request hprepared, hnone, Acquisition.answered, if_pos hreaches]
      rfl
    · cases hsent

/-- Calls for the token of the same workload, in whatever runs, that found the same in the assertion file and
were answered alike have sent the same requests and returned the same, as far as they have come. -/
theorem acquisition_depends_on_file_and_answer {x x' : Episode} (h : x.Acquires a) (h' : x'.Acquires a) :
    a.Accounted x ∧ x.requests = x'.requests ∧
      (∀ result result', x.result? = some result → x'.result? = some result' → result = result') ∧
      (x.polls = x'.polls → x.result? = x'.result?) := by
  refine ⟨accounted h, (Episode.requests_eq h).trans (Episode.requests_eq h').symm, ?_, fun hpolls => ?_⟩
  · intro result result' hresult hresult'
    rw [Episode.result?_eq h] at hresult
    rw [Episode.result?_eq h'] at hresult'
    obtain ⟨r, hr, rfl⟩ := Turn.exists_of_result? hresult
    obtain ⟨r', hr', rfl⟩ := Turn.exists_of_result? hresult'
    rw [eq_of_ended hr hr']
  · rw [Episode.result?_eq h, Episode.result?_eq h', hpolls]

/-- A workload whose assertion has been renewed. -/
def renewed : Acquisition where
  settings := { WorkloadSettings.forAudience "https://api//" with assertionFile := "assertion" }
  client := ⟨"workload", by decide⟩
  tenant := ⟨"cluster", by decide⟩
  content := .ok (Text.bytesOf " new\n")
  answer := .ofOutcome none
    (.ok ⟨200, [], Text.bytesOf "\x7b\"access_token\":\"w\",\"token_type\":\"b\"\x7d"⟩)

def assertionFiles (content : String) : Files :=
  ⟨[("assertion".toList, .content (Text.bytesOf content))]⟩

/-- An earlier call has found a blank file, and another name has been cancelled. -/
def eventful : Episode where
  state := .fresh 1 (.ofSeconds 1) [renewed.answer]
  before := [.files (assertionFiles " ") false, .call "first" (.stage (renewed.stage 0)), .poll 0,
    .call "other" .cancel, .poll 1, .files (assertionFiles " new\n") false,
    .call "second" (.stage (renewed.stage 0))]
  call := 2
  name := "second"
  bucket := 0
  after := []

/-- The call is polled once before its file is there, and once after it has ended. -/
def waiting : Episode where
  state := .fresh 1 (.ofSeconds 1) [renewed.answer]
  before := [.call "only" (.stage (renewed.stage 7)), .files (assertionFiles " new\n") true, .poll 0,
    .files (assertionFiles " new\n") false]
  call := 0
  name := "only"
  bucket := 7
  after := [.poll 0]

instance : DecidableEq Reply := fun r t =>
  decidable_of_iff (r.yields = t.yields ∧ r.advance = t.advance ∧ r.cancels = t.cancels ∧
    r.coming = t.coming ∧ r.slot = t.slot ∧ r.outcome = t.outcome) (by cases r; cases t; simp)

theorem Served.of_head? {c : Caller} {bucket : Nat} {s : State} (hcancelled : s.isCancelled c.name = false)
    (hpermit : 0 < s.permits bucket) (hweb : s.webOnly = false) (hnext : s.replies.head? = some a.answer) :
    a.Served c bucket s where
  uncancelled := hcancelled
  permit := hpermit
  answered q _ := by
    rw [State.snd_send, State.canReach, hweb, hnext]
    rfl

theorem acquires_eventful : eventful.Acquires renewed where
  fresh := rfl
  made := rfl
  unread ms ns h := by
    have hany := congrArg (·.any (Move.isPollOf 2)) h
    simp [eventful, Move.isPollOf] at hany
  quick := by decide +kernel
  content := by decide +kernel
  served _ := .of_head? (by decide +kernel) (by decide +kernel) (by decide +kernel) (by decide +kernel)
  uncancelled _ ms ns h := by simp [eventful] at h

theorem acquires_waiting : waiting.Acquires renewed where
  fresh := rfl
  made := rfl
  unread ms ns h := by
    rcases ms with _ | ⟨m, _ | ⟨m', _ | ⟨m'', ms⟩⟩⟩
    · cases h
    · cases h
    · cases h
      rfl
    · have hrest := congrArg (List.any · (Move.isPollOf 0)) (congrArg (List.drop 3) h)
      simp [waiting, Move.isPollOf] at hrest
  quick := by decide +kernel
  content := by decide +kernel
  served _ := .of_head? (by decide +kernel) (by decide +kernel) (by decide +kernel) (by decide +kernel)
  uncancelled _ ms ns h := by
    cases ms with
    | nil => decide +kernel
    | cons m ms => simp [waiting] at h

theorem acquisition_of_renewed :
    eventful.Acquires renewed ∧ waiting.Acquires renewed ∧ renewed.Accounted eventful ∧
      eventful.requests = waiting.requests ∧
      ∀ result result', eventful.result? = some result → waiting.result? = some result' →
        result = result' := by
  obtain ⟨haccounted, hrequests, hresults, -⟩ :=
    acquisition_depends_on_file_and_answer acquires_eventful acquires_waiting
  exact ⟨acquires_eventful, acquires_waiting, haccounted, hrequests, hresults⟩

end Acquisition

end RegistryAuth
