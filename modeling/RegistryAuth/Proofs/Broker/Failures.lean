import RegistryAuth.Broker.Stage
import RegistryAuth.Proofs.Http.Answers

/-!
# Failures of stages

What a stage fails with tells how far it came.  `Error.isEarly` are the errors of a stage that asked for
nothing, and `Error.isAnswer` those that it makes of the outcome of its request; none is both, and none
names an operation.
-/

namespace RegistryAuth

/-! ## 1. Errors by their stem -/

namespace Error

/-- Whether an error is one of a stage that found out about its input, or was told to end, before it had a
permit. -/
def isEarly : Error → Bool
  | .config (.invalidEndpoint ..) | .config (.invalidRegistryHost _) | .credential ..
  | .rateLimitCancelled => true
  | _ => false

/-- Whether an error is one that a stage makes of the outcome of its request. -/
def isAnswer : Error → Bool
  | .config (.clientBuild _) | .config (.request _) | .transient _ | .transport _ | .metadata ..
  | .exchange .. | .auth .. => true
  | _ => false

/-- Whether an error is one of settings, names or files, as a stage finds them before it asks. -/
def isInput : Error → Bool
  | .config _ | .credential .. => true
  | _ => false

/-- Whether an error is that of an operation of an authorizer. -/
def isOperation : Error → Bool
  | .operation .. => true
  | _ => false

theorem isEarly_of_isAnswer {e : Error} (h : e.isAnswer = true) : e.isEarly = false := by
  cases e with
  | config fault => cases fault <;> simp_all [isAnswer, isEarly]
  | _ => simp_all [isAnswer, isEarly]

theorem isOperation_of_isAnswer {e : Error} (h : e.isAnswer = true) : e.isOperation = false := by
  cases e <;> simp_all [isAnswer, isOperation]

theorem isOperation_of_isInput {e : Error} (h : e.isInput = true) : e.isOperation = false := by
  cases e <;> simp_all [isInput, isOperation]

end Error

/-! ## 2. Errors of outcomes -/

theorem Http.Failure.isAnswer_error (op : Operation) (slot : Slot) (f : Failure) :
    (f.error op slot).isAnswer = true := by
  cases f <;> rfl

/-- What an operation makes of a response that grants it no token, by the metadata that were recorded. -/
inductive AnswerError (op : Operation) (slot : Http.Slot) (response : Http.Response) : Error → Prop
  | metadata : AnswerError op slot response
    (.metadata response.status response.bodyText (Http.retryAfter? slot))
  | exchange : AnswerError op slot response
    (.exchange response.status response.bodyText (Http.retryAfter? slot))
  | auth (reason : String) : AnswerError op slot response (.auth reason (Http.status? slot))
  /-- The identity provider's status is the recorded one, that of the others the response's own. -/
  | unread (cause : Json.ReadError) : AnswerError op slot response (.transient (.responseParse op cause
    (if op = .workloadIdentity then Http.status? slot else some response.status)))
  | unexpected (detail : String) : AnswerError op slot response (Http.unexpected op slot detail)

section Answers

variable {slot : Http.Slot} {response : Http.Response} {e : Error}

theorem AnswerError.isAnswer {op : Operation} (h : AnswerError op slot response e) :
    e.isAnswer = true := by
  cases h <;> rfl

-- An empty slot is read as metadata that say nothing.

theorem retryAfter_getD (slot : Http.Slot) :
    (slot.getD .empty).retryAfter = Http.retryAfter? slot := by
  cases slot <;> rfl

theorem unexpected_getD (op : Operation) (slot : Http.Slot) (detail : String) :
    Http.unexpected op (some (slot.getD .empty)) detail = Http.unexpected op slot detail := by
  cases slot <;> rfl

theorem TokenAnswer.answerError {x : TokenAnswer} (hop : x.operation ≠ .workloadIdentity)
    (hrefusal : AnswerError x.operation slot response
      (x.refusal response.status response.bodyText (Http.retryAfter? slot)))
    (h : x.token response (slot.getD .empty) = .error e) :
    AnswerError x.operation slot response e := by
  rcases of_token_eq_error h with ⟨-, he⟩ | ⟨cause, -, he⟩ | he
  · rw [he, retryAfter_getD]
    exact hrefusal
  · have hunread : AnswerError x.operation slot response _ := .unread cause
    rw [if_neg hop] at hunread
    rw [he]
    exact hunread
  · rw [he, unexpected_getD]
    exact .unexpected _

theorem Workload.answerError (slot : Http.Slot) (response : Http.Response) (refusal : Refusal) :
    AnswerError .workloadIdentity slot response (refusal.error slot) := by
  unfold Refusal.error
  cases refusal with
  | stated error description =>
    cases description with
    | none => exact .auth _
    | some text => exact .auth _
  | unreadable cause body =>
    simp only
    split
    · exact .auth _
    · exact .unread cause
  | unusable detail =>
    simp only
    split
    · exact .auth _
    · exact .unexpected detail

end Answers

theorem eq_ok_of_prepared {α ε δ φ : Type} {x : Except ε α} {f : ε → δ} {a : α}
    (h : (x.map (Except.ok : α → Except φ α)).mapError f = .ok (.ok a)) : x = .ok a := by
  cases x with
  | error e => simp [Except.map] at h
  | ok b => simpa [Except.map] using h

namespace Stage

variable {g : Stage} {e : Error}

/-- What a stage can fail with by a response. -/
theorem answerError_of_conclude {slot : Http.Slot} {response : Http.Response}
    (h : g.conclude slot (.ok response) = .error e) : AnswerError g.operation slot response e := by
  cases g with
  | managed r selector =>
    rw [conclude_managed, Managed.token_eq] at h
    exact Managed.tokenAnswer.answerError Operation.noConfusion .metadata h
  | workload r client tenant =>
    change Workload.token (.ok response) slot = .error e at h
    rw [Workload.token_ok] at h
    obtain ⟨refusal, -, rfl⟩ := mapError_eq_error_iff.1 h
    exact Workload.answerError slot response refusal
  | exchange x token tenant host =>
    rw [conclude_exchange, Registry.token_eq] at h
    exact Registry.tokenAnswer.answerError Operation.noConfusion .exchange h

theorem isAnswer_of_conclude {slot : Http.Slot} {outcome : Except Http.Failure Http.Response}
    (h : g.conclude slot outcome = .error e) : e.isAnswer = true := by
  cases outcome with
  | error failure =>
    rw [conclude_error] at h
    cases h
    exact failure.isAnswer_error _ _
  | ok response => exact (answerError_of_conclude h).isAnswer

/-! ## 3. Errors of preparations -/

theorem isInput_of_assertion {path : String} {content : Except FileFault Text.Bytes}
    (h : Workload.assertion path content = .error e) : e.isInput = true := by
  unfold Workload.assertion at h
  split at h
  · cases h
    rfl
  · split at h
    · cases h
      rfl
    · simp only at h
      split at h
      · cases h
        rfl
      · simp at h

theorem isInput_of_prepare {files : Files} (h : g.prepare files = .error e) : e.isInput = true := by
  cases g with
  | managed r selector =>
    obtain ⟨fault, -, rfl⟩ := mapError_eq_error_iff.1 h
    rfl
  | exchange x token tenant host =>
    obtain ⟨fault, -, rfl⟩ := mapError_eq_error_iff.1 h
    rfl
  | workload r client tenant =>
    -- A grant fails by its assertion or by its endpoint.
    have hgrant : Workload.grant r.settings client tenant
        (files.read r.settings.assertionFile) = .error e := map_eq_error_iff.1 h
    unfold Workload.grant at hgrant
    split at hgrant
    · rename_i e' hassertion
      cases hgrant
      exact isInput_of_assertion hassertion
    · split at hgrant
      · cases hgrant
        rfl
      · simp at hgrant

end Stage

end RegistryAuth
