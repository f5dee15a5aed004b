import RegistryAuth.Proofs.Broker.Facade
import RegistryAuth.Proofs.Broker.Grants
import RegistryAuth.Proofs.Text.Lossy

/-!
# Answers of another status

What the node's endpoint or a registry answers with another status than 200 is surfaced as it is: the status,
the hint that was recorded with the response, and the body as a text that shows its bytes.  The stage fails
with it, and so does its call: `Traffic.other_status_fails_with_answer`.
-/

namespace RegistryAuth

open Text.Utf8 (Shows shows_decodeLossy)

/-! ## 1. What a stage makes of such an answer -/

/-- The error in which an operation surfaces a response of another status, by the metadata that were recorded
with it. -/
inductive Surfaced (slot : Http.Slot) (r : Http.Response) : Operation → Error → Prop
  | metadata {body : String} (h : Shows r.body body.toList) :
    Surfaced slot r .managedIdentity (.metadata r.status body (Http.retryAfter? slot))
  | exchange {body : String} (h : Shows r.body body.toList) :
    Surfaced slot r .registryExchange (.exchange r.status body (Http.retryAfter? slot))

theorem Http.Response.shows_bodyText (r : Http.Response) : Shows r.body r.bodyText.toList := by
  unfold bodyText
  rw [String.toList_ofList]
  exact shows_decodeLossy r.body

theorem Stage.conclude_of_status_ne {g : Stage} (hg : g.operation ≠ .workloadIdentity) {r : Http.Response}
    (h : r.status ≠ 200) (slot : Http.Slot) :
    ∃ e, g.conclude slot (.ok r) = .error e ∧ Surfaced slot r g.operation e := by
  have hshows := r.shows_bodyText
  cases g with
  | managed retriever selector =>
    have htoken : Managed.token r (slot.getD .empty) = _ := Managed.tokenAnswer.token_of_status_ne h
    rw [retryAfter_getD] at htoken
    exact ⟨_, htoken, .metadata hshows⟩
  | workload retriever client tenant => exact absurd rfl hg
  | exchange x token tenant host =>
    have htoken : Registry.token r (slot.getD .empty) = _ := Registry.tokenAnswer.token_of_status_ne h
    rw [retryAfter_getD] at htoken
    exact ⟨_, htoken, .exchange hshows⟩

/-! ## 2. What its call makes of that -/

/-- The error that a command returns for one of a stage: an authorizer names it after its operation. -/
def Command.returned (e : Error) : Command → Error
  | .authorize _ credential _ => .operation (Call.operationOf credential) e
  | _ => e

namespace Call

/-- A call one of whose stages has failed has returned that failure. -/
theorem History.done_of_failed {c : Caller} {command : Command} {rs : List Record} {phase : Phase}
    (h : History c command rs phase) {g : Stage} {e : Error}
    (hended : ⟨g.origin c, .ended (.error e)⟩ ∈ rs) :
    phase = .done (.token (.error (command.returned e))) := by
  have hwithin {credential : Credential} {es : List Event} : ⟨g.origin c, .ended (.error e)⟩ ∉
      (c.within (operationOf credential)).records es :=
    fun hmem => within_operationOf_ne c credential g (Origin.mem_records.1 hmem).1.symm
  -- A stage that has recorded the failure stands where it has failed.
  have hturn {g' : Stage} {es : List Event} {turn : Turn} (hcourse : g'.Course es turn)
      (hmem : ⟨g.origin c, .ended (.error e)⟩ ∈ (g'.origin c).records es) : turn = .ended (.error e) :=
    hcourse.ended_mem_iff.1 (Origin.mem_records.1 hmem).2
  cases h with
  | unpolled => exact absurd hended List.not_mem_nil
  | unclaimed ht => exact absurd hended List.not_mem_nil
  | alone hcourse =>
    rw [hturn hcourse hended]
    rfl
  | byClaims ht hg hcourse =>
    rw [hturn hcourse hended]
    rfl
  | mismatched hop hnone he =>
    subst hop
    exact absurd hended hwithin
  | retrieving hop hg hcourse =>
    subst hop
    have hmem := (List.mem_append.1 hended).resolve_left hwithin
    cases hturn hcourse hmem
  | unretrieved hop hg hcourse =>
    subst hop
    have hmem := ((List.mem_append.1 hended).resolve_right hwithin)
    have hmem := (List.mem_append.1 hmem).resolve_left hwithin
    cases hturn hcourse hmem
    rfl
  | retrieved hop hg hcourse hx hcourse' =>
    subst hop
    have hmem := (List.mem_append.1 hended).resolve_right hwithin
    rcases List.mem_append.1 hmem with hmem | hmem
    · -- The retrieval has ended with a token.
      have hmem := (List.mem_append.1 hmem).resolve_left hwithin
      cases hturn hcourse hmem
    · rw [hturn hcourse' hmem]
      rfl
  | plain hc hp hr =>
    have horigin := congrArg Origin.operation (hr _ hended).1
    cases horigin

end Call

namespace Traffic

/-- After every run a stage whose request was answered with another status than 200, be it that of a success
or a redirection, has failed with the status, the hint and the body of that answer, and its call with it. -/
theorem other_status_fails_with_answer {s : State} (htrace : s.trace = []) (ms : List Move) {i : Nat}
    {name : String} {command : Command} {op : Operation} (hmade : (Move.made ms)[i]? = some (name, command))
    (hop : op = .managedIdentity ∨ op = .registryExchange) {slot : Http.Slot} {r : Http.Response}
    (hsettled : ⟨⟨i, some op⟩, .settled slot (.ok r)⟩ ∈ ((ofState s).run ms).state.trace)
    (hstatus : r.status ≠ 200) :
    ∃ e, Surfaced slot r op e ∧ ⟨⟨i, some op⟩, .ended (.error e)⟩ ∈ ((ofState s).run ms).state.trace ∧
      ((ofState s).run ms).result? i = some (.token (.error (command.returned e))) := by
  have hrecorded := recorded_run htrace ms
  obtain ⟨-, -, g, turn, -, -, hg, hcourse⟩ := hrecorded.course hsettled (.inl ⟨rfl, rfl⟩)
  obtain rfl : op = g.operation := Option.some.inj hg
  have hother : g.operation ≠ .workloadIdentity := by
    rcases hop with hop | hop <;> rw [hop] <;> exact Operation.noConfusion
  obtain ⟨e, hconclude, hsurfaced⟩ := Stage.conclude_of_status_ne hother hstatus slot
  have hturn := hcourse.of_settled ((mem_eventsOf_iff _ _ _).2 hsettled)
  rw [hconclude] at hturn
  have hended : ⟨⟨i, some g.operation⟩, .ended (.error e)⟩ ∈ ((ofState s).run ms).state.trace :=
    (mem_eventsOf_iff _ _ _).1 (hcourse.ended_mem_iff.2 hturn)
  refine ⟨e, hsurfaced, hended, ?_⟩
  obtain ⟨c, hc, hcaller, hhistory⟩ := hrecorded.history i name command hmade
  have hphase : c.phase = .done (.token (.error (command.returned e))) := by
    apply hhistory.done_of_failed (g := g)
    rw [hcaller]
    exact (mem_recordsOf_iff i _ _).2 ⟨hended, rfl⟩
  rw [result?, hc, Option.bind_some, Call.result?, hphase]

/-- An answer of a status of success, with the first two bytes of a character of three in its body. -/
def garbledAnswer : Http.Response :=
  ⟨202, [], [0x61, 0xE2, 0x82, 0x62]⟩

def garbledState : State :=
  .fresh 1 (.ofSeconds 1) [.ofOutcome (some (hint 202 7)) (.ok garbledAnswer)]

theorem refusal_of_garbled_answer :
    ⟨⟨0, some .managedIdentity⟩, .settled (some (hint 202 7)) (.ok garbledAnswer)⟩ ∈
      ((ofState garbledState).run singleCall).state.trace ∧
    ((ofState garbledState).run singleCall).result? 0 =
      some (.token (.error (.operation .acquireWithManagedIdentity
        (.metadata 202 "a\uFFFDb" (some (.delay (.ofSeconds 7))))))) := by
  have hfirst : (eventsOf ⟨0, some .managedIdentity⟩
      ((ofState garbledState).run singleCall).state.trace).findSome? Event.settled? =
        some (some (hint 202 7), .ok garbledAnswer) := by
    decide +kernel
  have hsettled := mem_of_findSome?_settled? hfirst
  obtain ⟨e, hsurfaced, -, hresult⟩ := other_status_fails_with_answer (s := garbledState) rfl singleCall rfl
    (.inl rfl) hsettled (by decide)
  refine ⟨hsettled, hresult.trans ?_⟩
  cases hsurfaced with
  | @metadata body h =>
    have hbody : body = "a\uFFFDb" := String.toList_injective (h.eq_decodeLossy.trans (by decide +kernel))
    rw [hbody]
    rfl

end Traffic

end RegistryAuth
