import RegistryAuth.Proofs.Broker.Desk
import RegistryAuth.Proofs.Broker.Permanence

/-!
# Slots of metadata

What an error tells of metadata is what was recorded for the request of its own stage, and nothing where
nothing was.  Every run goes with a lawful use of slots, and in all of them each stage finds its slot empty
when it sends and takes out what its own handle put in.
-/

namespace RegistryAuth

/-! ## 1. What errors carry -/

/-- Whether the metadata that an error carries are those of a slot and of a response with a status: an
error of the metadata endpoint or of the registry takes its status from the response itself. -/
def Error.Carries (slot : Http.Slot) (answered : Option Nat) : Error → Prop
  | .metadata status _ hint | .exchange status _ hint =>
    answered = some status ∧ hint = Http.retryAfter? slot
  | .auth _ status => status = Http.status? slot
  | .transient (.endpoint _ _ status hint) =>
    status = Http.status? slot ∧ hint = Http.retryAfter? slot
  | .transient (.responseParse op _ status) =>
    status = if op = .workloadIdentity then Http.status? slot else answered
  | .operation _ source => source.Carries slot answered
  | .config _ | .claim _ | .transport _ | .credential .. | .rateLimitCancelled | .cancelled => True

section Carried

variable {slot : Http.Slot} {answered : Option Nat} {e : Error}

/-- Where nothing was recorded, an error of the input carries nothing. -/
theorem Error.carries_of_isInput (h : e.isInput = true) : e.Carries slot answered := by
  cases e with
  | config fault => trivial
  | credential path fault cause => trivial
  | _ => exact Bool.noConfusion h

theorem Http.Failure.carries (op : Operation) (slot : Slot) (failure : Failure) :
    (failure.error op slot).Carries slot answered := by
  cases failure with
  | timeout => exact ⟨rfl, rfl⟩
  | other detail => exact ⟨rfl, rfl⟩
  | _ => trivial

theorem AnswerError.carries {op : Operation} {response : Http.Response}
    (h : AnswerError op slot response e) : e.Carries slot (some response.status) := by
  cases h with
  | metadata => exact ⟨rfl, rfl⟩
  | exchange => exact ⟨rfl, rfl⟩
  | auth reason => exact rfl
  | unread cause => exact rfl
  | unexpected detail => exact ⟨rfl, rfl⟩

/-- The errors that a stage makes of an outcome carry what came with it. -/
theorem Stage.carries_of_conclude {g : Stage} {outcome : Except Http.Failure Http.Response}
    (h : g.conclude slot outcome = .error e) :
    e.Carries slot (outcome.toOption.map (·.status)) := by
  cases outcome with
  | error failure =>
    rw [conclude_error] at h
    cases h
    exact failure.carries _ _
  | ok response => exact (answerError_of_conclude h).carries

end Carried

/-! ## 2. The request of a stage and its outcome -/

/-- The metadata and the outcome that were recorded for a request. -/
def Event.settled? : Event → Option (Http.Slot × Except Http.Failure Http.Response)
  | .settled slot outcome => some (slot, outcome)
  | _ => none

/-- The metadata that were recorded for the request of an origin. -/
def slotAt (o : Origin) (trace : List Record) : Http.Slot :=
  ((eventsOf o trace).findSome? Event.settled?).bind (·.1)

/-- The status of the response to the request of an origin. -/
def statusAt (o : Origin) (trace : List Record) : Option Nat :=
  ((eventsOf o trace).findSome? Event.settled?).bind fun x => x.2.toOption.map (·.status)

namespace Stage

variable {g : Stage} {es : List Event} {turn : Turn}

@[simp] theorem dispatch_told (reply : Reply) : reply.told.filter Event.isDispatch = [] := by
  unfold Reply.told
  cases reply.cancels <;> rfl

@[simp] theorem dispatch_keeping (now : Instant) (result : Except Error AccessToken) :
    (g.keeping now result).filter Event.isDispatch = [] := by
  unfold keeping
  split <;> rfl

@[simp] theorem dispatch_closing (op : Operation) (result : Except Error AccessToken) :
    (op.closing result).filter Event.isDispatch = [] := rfl

theorem Found.dispatch {served : Option AccessToken} (h : g.Found served es) :
    es.filter Event.isDispatch = [] := by
  cases h <;> rfl

theorem dispatch_request (q : Http.Request) (after : List Event) :
    ([Event.permit g.bucket, Event.sent q] ++ after).filter Event.isDispatch =
      Event.sent q :: after.filter Event.isDispatch := rfl

theorem dispatch_settled (q : Http.Request) (reply : Reply) (now : Instant)
    (result : Except Error AccessToken) :
    ([Event.permit g.bucket, Event.sent q] ++ (reply.told ++ Event.settled reply.slot reply.outcome ::
      (g.keeping now result ++ g.operation.closing result))).filter Event.isDispatch =
      [Event.sent q, Event.settled reply.slot reply.outcome] := by
  rw [dispatch_request, List.filter_append, dispatch_told, List.filter_cons_of_pos rfl,
    List.filter_append, dispatch_keeping, dispatch_closing]
  rfl

theorem dispatch_abandoned (q : Http.Request) {told : List Event}
    (ht : told = [] ∨ ∃ reply : Reply, told = reply.told) (result : Except Error AccessToken) :
    ([Event.permit g.bucket, Event.sent q] ++ told ++ g.operation.closing result).filter Event.isDispatch =
      [Event.sent q] := by
  rw [List.append_assoc, dispatch_request, List.filter_append, dispatch_closing]
  rcases ht with rfl | ⟨reply, rfl⟩
  · rfl
  · rw [dispatch_told]
    rfl

theorem Asked.dispatched (h : g.Asked es turn) : DispatchedOnce (es.filter Event.isDispatch) := by
  cases h with
  | reading => exact .unsent
  | refused hp => exact .unsent
  | waiting hp => exact .unsent
  | withdrawn => exact .unsent
  | unmade hp he => exact .unsent
  | flying hp => exact .unsettled _
  | settled hp hr =>
    rw [dispatch_settled]
    exact .settled _ _ _
  | hung hp =>
    rw [dispatch_request, dispatch_told]
    exact .unsettled _
  | abandoned hp ht =>
    rw [dispatch_abandoned _ ht]
    exact .unsettled _

/-- A stage has one request at most, which is settled once at most, behind its dispatch. -/
theorem Course.dispatched (h : g.Course es turn) : DispatchedOnce (es.filter Event.isDispatch) := by
  cases h with
  | served hf =>
    rw [List.filter_append, List.filter_append, hf.dispatch]
    exact .unsent
  | missed hf ha =>
    rw [List.filter_append, List.filter_append, hf.dispatch]
    exact ha.dispatched

/-- What was recorded for a request can be read off its dispatch and its outcome. -/
theorem findSome?_dispatch (es : List Event) :
    es.findSome? Event.settled? = (es.filter Event.isDispatch).findSome? Event.settled? := by
  induction es with
  | nil => rfl
  | cons e es ih =>
    cases e with
    | sent q => exact ih
    | settled slot outcome => rfl
    | _ => exact ih

/-- An error of a stage carries what was recorded for its request. -/
theorem Asked.carries {e : Error} (h : g.Asked es (.ended (.error e)))
    {found : Option (Http.Slot × Except Http.Failure Http.Response)}
    (hfound : (es.filter Event.isDispatch).findSome? Event.settled? = found) :
    e.Carries (found.bind (·.1)) (found.bind fun x => x.2.toOption.map (·.status)) := by
  cases h with
  | refused hp => exact Error.carries_of_isInput (isInput_of_prepare hp)
  | withdrawn => trivial
  | unmade hp he =>
    -- No request was made, so nothing was recorded.
    subst he hfound
    exact ⟨rfl, rfl⟩
  | settled hp hr =>
    rw [dispatch_settled] at hfound
    subst hfound
    exact carries_of_conclude hr
  | abandoned hp ht => trivial

theorem Course.carries {e : Error} (h : g.Course es (.ended (.error e)))
    {found : Option (Http.Slot × Except Http.Failure Http.Response)}
    (hfound : es.findSome? Event.settled? = found) :
    e.Carries (found.bind (·.1)) (found.bind fun x => x.2.toOption.map (·.status)) := by
  rw [findSome?_dispatch] at hfound
  cases h with
  | missed hf ha =>
    rw [List.filter_append, List.filter_append, hf.dispatch] at hfound
    exact ha.carries hfound

end Stage

/-! ## 3. Runs -/

namespace Traffic

variable {ms : List Move} {w : Traffic}

theorem Recorded.dispatched (h : w.Recorded ms) (o : Origin) :
    DispatchedOnce ((eventsOf o w.state.trace).filter Event.isDispatch) := by
  cases hevents : (eventsOf o w.state.trace).filter Event.isDispatch with
  | nil => exact .unsent
  | cons e es =>
    obtain ⟨he, hdispatch⟩ := List.mem_filter.1 (hevents ▸ List.mem_cons_self)
    -- Only stages send requests.
    have honly : e.isReport = false ∧ e.isPlain = false := by
      cases e with
      | sent q => exact ⟨rfl, rfl⟩
      | settled slot outcome => exact ⟨rfl, rfl⟩
      | _ => exact Bool.noConfusion hdispatch
    obtain ⟨name, command, g, turn, -, -, -, hcourse⟩ := h.course ((mem_eventsOf_iff _ _ _).1 he) (.inl honly)
    rw [← hevents]
    exact hcourse.dispatched

theorem Recorded.carries (h : w.Recorded ms) {i : Nat} {g : Stage} {e : Error}
    (hended : ⟨⟨i, some g.operation⟩, .ended (.error e)⟩ ∈ w.state.trace) :
    e.Carries (slotAt ⟨i, some g.operation⟩ w.state.trace)
      (statusAt ⟨i, some g.operation⟩ w.state.trace) := by
  obtain ⟨name, command, g', turn, -, -, -, hcourse⟩ := h.course hended (.inr ⟨g, rfl⟩)
  have hturn := hcourse.ended_mem_iff.1 ((mem_eventsOf_iff _ _ _).2 hended)
  rw [hturn] at hcourse
  exact hcourse.carries rfl

/-- Metadata that say when to try again. -/
def hint (status seconds : Nat) : Http.Metadata :=
  ⟨some status, some (.delay (.ofSeconds seconds))⟩

end Traffic

end RegistryAuth
