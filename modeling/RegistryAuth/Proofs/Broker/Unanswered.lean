import RegistryAuth.Proofs.Broker.Refusals

/-!
# Requests without an answer

A client that gets no answer says why.  Every operation makes the same error of that, up to the operation
that the error names: no status that was recorded with the request turns it into a refusal of the identity
provider.  Two runs are compared in `Traffic.unanswered_requests_fail_alike`.
-/

namespace RegistryAuth

/-! ## 1. Errors and the operations that they name -/

/-- The error with another operation in the place of the one it names. -/
def Error.relabelled (op : Operation) : Error → Error
  | .transient (.endpoint _ detail status retryAfter) => .transient (.endpoint op detail status retryAfter)
  | .transient (.responseParse _ cause status) => .transient (.responseParse op cause status)
  | e => e

def Error.isRefusal : Error → Bool
  | .auth .. => true
  | _ => false

namespace Http.Failure

variable (f : Failure) (op : Operation) (slot : Slot)

theorem relabelled_error (op' : Operation) : (f.error op slot).relabelled op' = f.error op' slot := by
  cases f <;> rfl

theorem isRefusal_error : (f.error op slot).isRefusal = false := by
  cases f <;> rfl

end Http.Failure

/-! ## 2. Runs -/

namespace Traffic

/-- In a run the request that a call made for an operation has got no answer. -/
structure Unanswered (s : State) (ms : List Move) (i : Nat) (command : Command) (op : Operation)
    (slot : Http.Slot) (f : Http.Failure) : Prop where
  fresh : s.trace = []
  made : ∃ name, (Move.made ms)[i]? = some (name, command)
  settled : ⟨⟨i, some op⟩, .settled slot (.error f)⟩ ∈ ((ofState s).run ms).state.trace

section Runs

variable {s s' : State} {ms ms' : List Move} {i i' : Nat} {command command' : Command}
  {op op' : Operation} {slot : Http.Slot} {f : Http.Failure}

/-- Its stage has failed with the error of that failure, and the call with it. -/
theorem Unanswered.result (h : Unanswered s ms i command op slot f) :
    ((ofState s).run ms).result? i = some (.token (.error (command.returned (f.error op slot)))) := by
  have hrecorded := recorded_run h.fresh ms
  obtain ⟨-, -, g, turn, -, -, hg, hcourse⟩ := hrecorded.course h.settled (.inl ⟨rfl, rfl⟩)
  obtain rfl : op = g.operation := Option.some.inj hg
  have hturn := hcourse.of_settled ((mem_eventsOf_iff _ _ _).2 h.settled)
  rw [Stage.conclude_error] at hturn
  have hended := (mem_eventsOf_iff _ _ _).1 (hcourse.ended_mem_iff.2 hturn)
  obtain ⟨name, hmade⟩ := h.made
  obtain ⟨c, hc, hcaller, hhistory⟩ := hrecorded.history i name command hmade
  have hphase : c.phase = .done (.token (.error (command.returned (f.error g.operation slot)))) := by
    apply hhistory.done_of_failed (g := g)
    rw [hcaller]
    exact (mem_recordsOf_iff i _ _).2 ⟨hended, rfl⟩
  rw [result?, hc, Option.bind_some, Call.result?, hphase]

/-- Two requests, of whatever operations and in whatever runs, that got no answer for the same reason and
with the same metadata have failed with the same error, up to the operation that it names.  In particular
none of them counts as refused. -/
theorem unanswered_requests_fail_alike (h : Unanswered s ms i command op slot f)
    (h' : Unanswered s' ms' i' command' op' slot f) :
    ∃ e e', ((ofState s).run ms).result? i = some (.token (.error (command.returned e))) ∧
      ((ofState s').run ms').result? i' = some (.token (.error (command'.returned e'))) ∧
      e.relabelled op' = e' ∧ e'.relabelled op = e ∧ e.isRefusal = false ∧ e'.isRefusal = false :=
  ⟨f.error op slot, f.error op' slot, h.result, h'.result, f.relabelled_error op slot op',
    f.relabelled_error op' slot op, f.isRefusal_error op slot, f.isRefusal_error op' slot⟩

end Runs

/-- The only request of a state times out after a response with the status of a refusal has begun. -/
def slowState : State :=
  .fresh 1 (.ofSeconds 1) [.ofOutcome (some (hint 401 7)) (.error .timeout)]

theorem unanswered_after_refusal :
    Unanswered slowState workloadCalls 0
      (.stage (.workload workloadRetriever ⟨"app", by decide⟩ ⟨"directory", by decide⟩)) .workloadIdentity
      (some (hint 401 7)) .timeout ∧
    ∃ e e', ((ofState slowState).run workloadCalls).result? 0 = some (.token (.error e)) ∧
      ((ofState slowState).run singleCall).result? 0 =
        some (.token (.error (.operation .acquireWithManagedIdentity e'))) ∧
      e.relabelled .managedIdentity = e' ∧ e'.relabelled .workloadIdentity = e ∧
      e.isRefusal = false ∧ e'.isRefusal = false := by
  have hworkload : (eventsOf ⟨0, some .workloadIdentity⟩
      ((ofState slowState).run workloadCalls).state.trace).findSome? Event.settled? =
        some (some (hint 401 7), .error .timeout) := by
    decide +kernel
  have hmanaged : (eventsOf ⟨0, some .managedIdentity⟩
      ((ofState slowState).run singleCall).state.trace).findSome? Event.settled? =
        some (some (hint 401 7), .error .timeout) := by
    decide +kernel
  have h := Unanswered.mk (s := slowState) rfl ⟨_, rfl⟩ (mem_of_findSome?_settled? hworkload)
  have h' := Unanswered.mk (s := slowState) rfl ⟨_, rfl⟩ (mem_of_findSome?_settled? hmanaged)
  exact ⟨h, unanswered_requests_fail_alike h h'⟩

end Traffic

end RegistryAuth
