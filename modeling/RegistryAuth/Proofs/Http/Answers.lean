import RegistryAuth.Identity.Managed
import RegistryAuth.Identity.Workload
import RegistryAuth.Proofs.Json.Record
import RegistryAuth.Proofs.Results
import RegistryAuth.Registry.Exchange

/-!
# Tokens in answers

The node's endpoint and a registry answer alike: the token is a field of a JSON object that comes with
status 200.  `TokenAnswer` holds what is particular to each of them, and what is to be known of both is
said once.  The identity provider of workloads answers in a way of its own.
-/

namespace RegistryAuth

/-- What is particular to the answers of an endpoint that gives out tokens. -/
structure TokenAnswer where
  operation : Operation
  record : Json.Record
  field : String
  -- Makes the error of an answer of another status.
  refusal : Nat → String → Option Http.RetryHint → Error
  -- Tells that the field is empty.
  emptiness : String

namespace TokenAnswer

/-- The token of an answer. -/
def token (x : TokenAnswer) (response : Http.Response) (metadata : Http.Metadata) :
    Except Error AccessToken :=
  if !response.isOk then .error (x.refusal response.status response.bodyText metadata.retryAfter)
  else
    match x.record.read response.body with
    | .error e => .error (.transient (.responseParse x.operation e (some response.status)))
    | .ok fields =>
      match fields.text? x.field with
      | some "" | none => .error (Http.unexpected x.operation (some metadata) x.emptiness)
      | some t => .ok ⟨t⟩

variable {x : TokenAnswer} {response : Http.Response} {metadata : Http.Metadata}

/-- A token that is read stands in its field, in an answer of status 200, and is not empty. -/
theorem of_token_eq_ok {t : AccessToken} (h : x.token response metadata = .ok t) :
    response.status = 200 ∧ t.text ≠ "" ∧ ∃ fields, x.record.read response.body = .ok fields ∧
      fields.text? x.field = some t.text := by
  unfold token at h
  split at h
  · simp at h
  · rename_i hok
    refine ⟨by simpa [Http.Response.isOk] using hok, ?_⟩
    split at h
    · simp at h
    · rename_i fields hread
      split at h
      · simp at h
      · simp at h
      · rename_i text hnonempty htext
        cases h
        exact ⟨hnonempty, fields, hread, htext⟩

/-- Such a token is read. -/
theorem token_eq_ok {fields : Json.Fields} {text : String} (hok : response.isOk = true)
    (hread : x.record.read response.body = .ok fields) (htext : fields.text? x.field = some text)
    (hnonempty : text ≠ "") : x.token response metadata = .ok ⟨text⟩ := by
  unfold token
  rw [hok, hread]
  simp [htext]

/-- Of another status nothing is read. -/
theorem token_of_status_ne (h : response.status ≠ 200) : x.token response metadata =
    .error (x.refusal response.status response.bodyText metadata.retryAfter) := by
  have hnot : response.isOk = false := beq_eq_false_iff_ne.2 h
  unfold token
  rw [hnot]
  rfl

/-- The errors of answers: of another status, of a body that is not understood, of an empty field. -/
theorem of_token_eq_error {e : Error} (h : x.token response metadata = .error e) :
    (response.isOk = false ∧ e = x.refusal response.status response.bodyText metadata.retryAfter) ∨
      (∃ cause, x.record.read response.body = .error cause ∧
        e = .transient (.responseParse x.operation cause (some response.status))) ∨
      e = Http.unexpected x.operation (some metadata) x.emptiness := by
  unfold token at h
  split at h
  · rename_i hok
    cases h
    exact .inl ⟨by simpa using hok, rfl⟩
  · right
    split at h
    · rename_i cause hread
      cases h
      exact .inl ⟨cause, hread, rfl⟩
    · right
      split at h
      · cases h
        rfl
      · cases h
        rfl
      · simp at h

end TokenAnswer

/-- What is particular to the answers of the node's endpoint. -/
def Managed.tokenAnswer : TokenAnswer where
  operation := .managedIdentity
  record := answerRecord
  field := "access_token"
  refusal status body hint := .metadata status body hint
  emptiness := "response carried an empty access_token"

theorem Managed.token_eq : Managed.token = Managed.tokenAnswer.token := rfl

/-- What is particular to the answers of a registry. -/
def Registry.tokenAnswer : TokenAnswer where
  operation := .registryExchange
  record := answerRecord
  field := "refresh_token"
  refusal status body hint := .exchange status body hint
  emptiness := "response carried an empty refresh_token"

theorem Registry.token_eq : Registry.token = Registry.tokenAnswer.token := rfl

/-- What the client has read is the token, and what it has not is a refusal. -/
theorem Workload.token_ok (response : Http.Response) (slot : Http.Slot) :
    token (.ok response) slot = (readAnswer response).mapError (Refusal.error slot) := by
  rw [token, granted]
  cases readAnswer response <;> rfl

/-- A token that is granted to a workload stands in its field, in an answer of status 200; unlike the
tokens of the others it may be empty. -/
theorem Workload.of_token_eq_ok {response : Http.Response} {slot : Http.Slot} {t : AccessToken}
    (h : token (.ok response) slot = .ok t) :
    response.status = 200 ∧ ∃ fields, answerRecord.read response.body = .ok fields ∧
      fields.text? "access_token" = some t.text := by
  have hanswer : readAnswer response = .ok t := by rwa [token_ok, mapError_eq_ok_iff] at h
  unfold readAnswer at hanswer
  split at hanswer
  · simp at hanswer
  · rename_i hok
    refine ⟨by simpa [Http.Response.isOk] using hok, ?_⟩
    simp only at hanswer
    split at hanswer
    · simp at hanswer
    · split at hanswer
      · simp at hanswer
      · split at hanswer
        · rename_i fields hfields
          cases hanswer
          -- A token has to be there, so what stands for one that is missing is never taken.
          have hrequired : answerRecord.field? "access_token" = some ⟨"access_token", .text⟩ := rfl
          obtain ⟨text, htext⟩ := Json.Record.text?_of_read rfl hrequired rfl hfields
          have hfield : fields.text? "access_token" = some text := by
            rw [Json.Fields.text?, htext]
            rfl
          refine ⟨fields, hfields, ?_⟩
          rw [hfield]
          rfl
        · simp at hanswer

end RegistryAuth
