import RegistryAuth.Proofs.Broker.Slots
import RegistryAuth.Proofs.Http.Answers

/-!
# The answers of an identity provider

A complete answer grants a token or is told as a refusal, as an answer that is none, or as one that cannot
be read.  Which of them it is depends on the status, the content type and the body: `GrantAccounted`.
-/

namespace RegistryAuth

open Text

/-! ## 1. Content types -/

/-- Whether a response names no type of content, or one in visible ASCII that begins with that of JSON in
any case. -/
def Http.Response.IsJsonTyped (r : Response) : Prop :=
  ∀ value, r.header? "content-type" = some value → ∃ start rest,
    visibleText? value = some (start ++ rest) ∧ start.map lowerAscii = "application/json".toList

namespace Workload

theorem isJsonContent_iff {value : Bytes} : isJsonContent value = true ↔ ∃ start rest,
    Http.visibleText? value = some (start ++ rest) ∧ start.map lowerAscii = "application/json".toList := by
  unfold isJsonContent
  cases hvisible : Http.visibleText? value with
  | none => simp
  | some cs =>
    simp only [List.isPrefixOf_iff_prefix, Option.some.injEq]
    constructor
    · rintro ⟨tail, htail⟩
      obtain ⟨start, rest, rfl, hstart, -⟩ := List.map_eq_append_iff.1 htail.symm
      exact ⟨start, rest, rfl, hstart⟩
    · rintro ⟨start, rest, rfl, hstart⟩
      rw [List.map_append, hstart]
      exact List.prefix_append _ _

theorem filter_contentType_eq_none_iff {r : Http.Response} :
    (r.header? "content-type").filter (!isJsonContent ·) = none ↔ r.IsJsonTyped := by
  rw [Option.filter_eq_none_iff]
  unfold Http.Response.IsJsonTyped
  simp only [← isJsonContent_iff, Bool.not_eq_true', Bool.not_eq_false]

/-! ## 2. Answers -/

section Answers

variable {r : Http.Response}

theorem readAnswer_of_status_ne (h : r.status ≠ 200) : readAnswer r = .error (readRefusal r.body) := by
  have hok : (!r.isOk) = true := by simpa [Http.Response.isOk] using h
  rw [readAnswer, if_pos hok]

/-- An answer of another type, or without a body, grants nothing, for a reason told in words. -/
theorem readAnswer_of_unusable (hok : r.status = 200) (h : ¬ r.IsJsonTyped ∨ r.body = []) :
    ∃ detail, readAnswer r = .error (.unusable detail) := by
  have hok : ¬ (!r.isOk) = true := by simpa [Http.Response.isOk] using hok
  rw [readAnswer, if_neg hok]
  cases htype : (r.header? "content-type").filter (!isJsonContent ·) with
  | some value => exact ⟨_, rfl⟩
  | none =>
    have hempty : r.body = [] := h.resolve_left fun hnot => hnot (filter_contentType_eq_none_iff.1 htype)
    rw [hempty]
    exact ⟨_, rfl⟩

theorem readAnswer_of_usable (hok : r.status = 200) (htype : r.IsJsonTyped) (hbody : r.body ≠ []) :
    readAnswer r =
      ((answerRecord.read r.body).map fun fields => ⟨(fields.text? "access_token").getD ""⟩).mapError
        (.unreadable · r.body) := by
  have hok : ¬ (!r.isOk) = true := by simpa [Http.Response.isOk] using hok
  have hempty : ¬ r.body.isEmpty = true := by simpa using hbody
  rw [readAnswer, if_neg hok, filter_contentType_eq_none_iff.2 htype]
  simp only [if_neg hempty]
  cases answerRecord.read r.body <;> rfl

theorem readRefusal_of_ne_nil (h : r.body ≠ []) {fields : Json.Fields}
    (hread : refusalRecord.read r.body = .ok fields) :
    ∃ error description, readRefusal r.body = .stated error description := by
  have hempty : ¬ r.body.isEmpty = true := by simpa using h
  rw [readRefusal, if_neg hempty, hread]
  exact ⟨_, _, rfl⟩

theorem readRefusal_of_error (h : r.body ≠ []) {cause : Json.ReadError}
    (hread : refusalRecord.read r.body = .error cause) : readRefusal r.body = .unreadable cause r.body := by
  have hempty : ¬ r.body.isEmpty = true := by simpa using h
  rw [readRefusal, if_neg hempty, hread]

theorem ne_nil_of_refusal {fields : Json.Fields} (h : refusalRecord.read r.body = .ok fields) :
    r.body ≠ [] := by
  intro hempty
  rw [hempty] at h
  cases h

end Answers

/-! ## 3. Errors -/

section Errors

variable {status : Nat} {hint : Option Http.RetryHint}

theorem rejected_iff : ((Http.status? (some ⟨some status, hint⟩)).map
    fun n => 400 ≤ n && n < 500).getD false = true ↔ 400 ≤ status ∧ status < 500 := by
  simp [Http.status?]

theorem error_of_stated (error : String) (description : Option String) :
    ∃ reason, (Refusal.stated error description).error (some ⟨some status, hint⟩) =
      .auth reason (some status) := by
  cases description with
  | none => exact ⟨_, rfl⟩
  | some text => exact ⟨_, rfl⟩

/-- A refusal of a status from 400 to 499 is final, whatever its body. -/
theorem error_of_rejected (h : 400 ≤ status ∧ status < 500) (refusal : Refusal) :
    ∃ reason, refusal.error (some ⟨some status, hint⟩) = .auth reason (some status) := by
  cases refusal with
  | stated error description => exact error_of_stated error description
  | unreadable cause body =>
    unfold Refusal.error
    simp only [if_pos (rejected_iff.2 h)]
    exact ⟨_, rfl⟩
  | unusable detail =>
    unfold Refusal.error
    simp only [if_pos (rejected_iff.2 h)]
    exact ⟨_, rfl⟩

theorem error_of_unreadable (h : ¬ (400 ≤ status ∧ status < 500)) (cause : Json.ReadError) (body : Bytes) :
    (Refusal.unreadable cause body).error (some ⟨some status, hint⟩) =
      .transient (.responseParse .workloadIdentity cause (some status)) := by
  unfold Refusal.error
  simp only [if_neg (mt rejected_iff.1 h)]
  rfl

theorem error_of_unusable (h : ¬ (400 ≤ status ∧ status < 500)) (detail : String) :
    (Refusal.unusable detail).error (some ⟨some status, hint⟩) =
      .transient (.endpoint .workloadIdentity detail (some status) hint) := by
  unfold Refusal.error
  simp only [if_neg (mt rejected_iff.1 h)]
  rfl

end Errors

end Workload

/-! ## 4. What answers mean -/

/-- What a complete answer means, by the hint that came with it. -/
structure GrantAccounted (r : Http.Response) (hint : Option Http.RetryHint)
    (result : Except Error AccessToken) : Prop where
  granted : r.status = 200 → ((∃ token, result = .ok token) ↔
    r.IsJsonTyped ∧ r.body ≠ [] ∧ ∃ fields, Workload.answerRecord.read r.body = .ok fields)
  /-- A token is that of the answer, whose status is 200. -/
  token : ∀ token, result = .ok token → r.status = 200 ∧
    ∃ fields, Workload.answerRecord.read r.body = .ok fields ∧
      fields.text? "access_token" = some token.text
  unusable : r.status = 200 → ¬ r.IsJsonTyped ∨ r.body = [] →
    ∃ detail, result = .error (.transient (.endpoint .workloadIdentity detail (some 200) hint))
  unread : r.status = 200 → r.IsJsonTyped → r.body ≠ [] →
    ∀ cause, Workload.answerRecord.read r.body = .error cause →
      result = .error (.transient (.responseParse .workloadIdentity cause (some 200)))
  rejected : 400 ≤ r.status ∧ r.status < 500 → ∃ reason, result = .error (.auth reason (some r.status))
  -- Of any other status:
  stated : r.status ≠ 200 → ¬ (400 ≤ r.status ∧ r.status < 500) →
    ∀ fields, Workload.refusalRecord.read r.body = .ok fields →
      ∃ reason, result = .error (.auth reason (some r.status))
  empty : r.status ≠ 200 → ¬ (400 ≤ r.status ∧ r.status < 500) → r.body = [] →
    ∃ detail, result = .error (.transient (.endpoint .workloadIdentity detail (some r.status) hint))
  unstated : r.status ≠ 200 → ¬ (400 ≤ r.status ∧ r.status < 500) → r.body ≠ [] →
    ∀ cause, Workload.refusalRecord.read r.body = .error cause →
      result = .error (.transient (.responseParse .workloadIdentity cause (some r.status)))
  kinds : ∀ e, result = .error e → (∃ reason, e = .auth reason (some r.status)) ∨
    (∃ detail, e = .transient (.endpoint .workloadIdentity detail (some r.status) hint)) ∨
    ∃ cause, e = .transient (.responseParse .workloadIdentity cause (some r.status))

namespace Workload

variable {r : Http.Response} {hint : Option Http.RetryHint}

theorem error_kinds (status : Nat) (hint : Option Http.RetryHint) (refusal : Refusal) :
    (∃ reason, refusal.error (some ⟨some status, hint⟩) = .auth reason (some status)) ∨
      (∃ detail, refusal.error (some ⟨some status, hint⟩) =
        .transient (.endpoint .workloadIdentity detail (some status) hint)) ∨
      ∃ cause, refusal.error (some ⟨some status, hint⟩) =
        .transient (.responseParse .workloadIdentity cause (some status)) := by
  by_cases h : 400 ≤ status ∧ status < 500
  · exact .inl (error_of_rejected h refusal)
  · cases refusal with
    | stated error description => exact .inl (error_of_stated error description)
    | unreadable cause body => exact .inr (.inr ⟨cause, error_of_unreadable h cause body⟩)
    | unusable detail => exact .inr (.inl ⟨detail, error_of_unusable h detail⟩)

theorem token_of_readAnswer {slot : Http.Slot} {refusal : Refusal} (h : readAnswer r = .error refusal) :
    token (.ok r) slot = .error (refusal.error slot) := by
  rw [token_ok, h]
  rfl

theorem token_of_unusable (hok : r.status = 200) (h : ¬ r.IsJsonTyped ∨ r.body = []) :
    ∃ detail, token (.ok r) (some ⟨some r.status, hint⟩) =
      .error (.transient (.endpoint .workloadIdentity detail (some 200) hint)) := by
  obtain ⟨detail, hdetail⟩ := readAnswer_of_unusable hok h
  rw [token_of_readAnswer hdetail, error_of_unusable (by omega), hok]
  exact ⟨detail, rfl⟩

/-- One clause for each kind of answer. -/
theorem grantAccounted (r : Http.Response) (hint : Option Http.RetryHint) :
    GrantAccounted r hint (token (.ok r) (some ⟨some r.status, hint⟩)) where
  granted hok := by
    constructor
    · rintro ⟨t, ht⟩
      obtain ⟨-, fields, hread, -⟩ := of_token_eq_ok ht
      have husable : ¬ (¬ r.IsJsonTyped ∨ r.body = []) := by
        intro h
        obtain ⟨detail, hdetail⟩ := token_of_unusable hok h
        cases ht.symm.trans hdetail
      rw [not_or, not_not] at husable
      exact ⟨husable.1, husable.2, fields, hread⟩
    · rintro ⟨htype, hbody, fields, hread⟩
      rw [token_ok, readAnswer_of_usable hok htype hbody, hread]
      exact ⟨_, rfl⟩
  token _ ht := of_token_eq_ok ht
  unusable hok h := token_of_unusable hok h
  unread hok htype hbody cause hread := by
    have hanswer : readAnswer r = .error (.unreadable cause r.body) := by
      rw [readAnswer_of_usable hok htype hbody, hread]
      rfl
    rw [token_of_readAnswer hanswer, error_of_unreadable (by omega), hok]
  rejected h := by
    rw [token_of_readAnswer (readAnswer_of_status_ne (by omega))]
    exact (error_of_rejected h _).imp fun _ => congrArg Except.error
  stated hne _ fields hread := by
    obtain ⟨error, description, hstated⟩ := readRefusal_of_ne_nil (ne_nil_of_refusal hread) hread
    rw [token_of_readAnswer (readAnswer_of_status_ne hne), hstated]
    exact (error_of_stated error description).imp fun _ => congrArg Except.error
  empty hne hother hbody := by
    have hunusable : ∃ detail, readRefusal r.body = .unusable detail := by
      rw [hbody]
      exact ⟨_, rfl⟩
    obtain ⟨detail, hdetail⟩ := hunusable
    rw [token_of_readAnswer (readAnswer_of_status_ne hne), hdetail, error_of_unusable hother]
    exact ⟨detail, rfl⟩
  unstated hne hother hbody cause hread := by
    rw [token_of_readAnswer (readAnswer_of_status_ne hne), readRefusal_of_error hbody hread,
      error_of_unreadable hother]
  kinds e he := by
    rw [token_ok] at he
    obtain ⟨refusal, -, rfl⟩ := mapError_eq_error_iff.1 he
    exact error_kinds r.status hint refusal

def invisibleAnswer : Http.Response :=
  ⟨200, [("content-type", bytesOf "application/json;é")],
    bytesOf "\x7b\"access_token\":\"x\",\"token_type\":\"b\"\x7d"⟩

/-- It is not enough that the bytes of a content type begin with that of JSON: of a value that goes on with
others than visible ASCII nothing is granted. -/
theorem invisible_content_type_is_refused :
    ¬ ∀ (r : Http.Response) (hint : Option Http.RetryHint), r.status = 200 →
      ((∃ t, token (.ok r) (some ⟨some r.status, hint⟩) = .ok t) ↔
        (∀ value, r.header? "content-type" = some value → ∃ start rest, value = start ++ rest ∧
          (start.map fun b => lowerAscii (Char.ofNat b.toNat)) = "application/json".toList) ∧
        r.body ≠ [] ∧ ∃ fields, answerRecord.read r.body = .ok fields) := by
  intro hall
  have hrefused : (token (.ok invisibleAnswer) (some ⟨some 200, none⟩)).isOk = false := by decide +kernel
  have hread : (answerRecord.read invisibleAnswer.body).isOk = true := by decide +kernel
  have hbegins : ∀ value, invisibleAnswer.header? "content-type" = some value → ∃ start rest,
      value = start ++ rest ∧
        (start.map fun b => lowerAscii (Char.ofNat b.toNat)) = "application/json".toList := by
    rintro value hvalue
    cases hvalue
    exact ⟨bytesOf "application/json", bytesOf ";é", by decide +kernel, by decide +kernel⟩
  have hbody : invisibleAnswer.body ≠ [] := by decide +kernel
  obtain ⟨t, ht⟩ := (hall invisibleAnswer none rfl).2 ⟨hbegins, hbody, isOk_iff.1 hread⟩
  have hgranted : (token (.ok invisibleAnswer) (some ⟨some 200, none⟩)).isOk = true := isOk_iff.2 ⟨t, ht⟩
  rw [hrefused] at hgranted
  cases hgranted

end Workload

/-! ## 5. Runs -/

namespace Stage

variable {g : Stage} {es : List Event} {turn : Turn} {slot : Http.Slot}
  {outcome : Except Http.Failure Http.Response}

theorem Asked.of_settled (h : g.Asked es turn) (hs : .settled slot outcome ∈ es) :
    turn = .ended (g.conclude slot outcome) := by
  -- Of what a stage records only requests and their outcomes count.
  have hmem : .settled slot outcome ∈ es.filter Event.isDispatch := List.mem_filter.2 ⟨hs, rfl⟩
  cases h with
  | reading => cases hs
  | refused hp => simp at hmem
  | waiting hp => cases hs
  | withdrawn => simp at hmem
  | unmade hp hunmade => simp [Event.isDispatch] at hmem
  | flying hp => simp [Event.isDispatch] at hmem
  | @settled files q reply now result hp hr =>
    rw [dispatch_settled] at hmem
    obtain ⟨rfl, rfl⟩ : slot = reply.slot ∧ outcome = reply.outcome := by simpa using hmem
    rw [hr]
  | hung hp =>
    rw [dispatch_request, dispatch_told] at hmem
    simp at hmem
  | abandoned hp ht =>
    rw [List.append_assoc, dispatch_request, List.filter_append] at hmem
    rcases ht with rfl | ⟨reply, rfl⟩
    · simp at hmem
    · simp at hmem

/-- A stage whose request was settled has ended with what the outcome means. -/
theorem Course.of_settled (h : g.Course es turn) (hs : .settled slot outcome ∈ es) :
    turn = .ended (g.conclude slot outcome) := by
  have hopening : .settled slot outcome ∉ g.operation.opening := by simp [Operation.opening]
  have hfound {served : Option AccessToken} {found : List Event} (hf : g.Found served found) :
      .settled slot outcome ∉ found := by
    intro hmem
    have hdispatch : .settled slot outcome ∈ found.filter Event.isDispatch := List.mem_filter.2 ⟨hmem, rfl⟩
    rw [hf.dispatch] at hdispatch
    cases hdispatch
  cases h with
  | served hf => simp [hopening, hfound hf, Operation.closing] at hs
  | missed hf ha => exact ha.of_settled (by simpa [hopening, hfound hf] using hs)

end Stage

theorem Call.History.of_settled {c : Caller} {g : Stage} {rs : List Record} {phase : Phase}
    (h : History c (.stage g) rs phase) {slot : Http.Slot} {outcome : Except Http.Failure Http.Response}
    (hs : ⟨g.origin c, .settled slot outcome⟩ ∈ rs) :
    phase = .done (.token (g.conclude slot outcome)) := by
  cases h with
  | unpolled => cases hs
  | alone hcourse =>
    rw [hcourse.of_settled (Origin.mem_records.1 hs).2]
    rfl
  | plain hc hp hr => simp [Command.isPlain] at hc

theorem mem_of_findSome?_settled? {o : Origin} {trace : List Record} {slot : Http.Slot}
    {outcome : Except Http.Failure Http.Response}
    (h : (eventsOf o trace).findSome? Event.settled? = some (slot, outcome)) :
    ⟨o, .settled slot outcome⟩ ∈ trace := by
  obtain ⟨e, he, hsettled⟩ := List.exists_of_findSome?_eq_some h
  cases e with
  | settled slot' outcome' =>
    cases hsettled
    exact (mem_eventsOf_iff _ _ _).1 he
  | _ => cases hsettled

namespace Traffic

/-- After every run a call for the token of a workload that has got a complete answer of a server has
returned what the answer means. -/
theorem workload_returns_what_answer_means {s : State} (htrace : s.trace = []) (ms : List Move) {i : Nat}
    {name : String} {r : WorkloadRetriever} {client : ClientId} {tenant : TenantId}
    (hmade : (Move.made ms)[i]? = some (name, .stage (.workload r client tenant))) {a : Answer} {now : Instant}
    (hsettled : ⟨⟨i, some .workloadIdentity⟩, .settled (some (a.metadata now)) (.ok a.received)⟩ ∈
      ((ofState s).run ms).state.trace) :
    ∃ result, ((ofState s).run ms).result? i = some (.token result) ∧
      GrantAccounted a.received (Http.RetryHint.ofResponse? now a.received) result := by
  obtain ⟨c, hc, hcaller, hhistory⟩ := (recorded_run htrace ms).history i name _ hmade
  have hsettled : ⟨(Stage.workload r client tenant).origin c.caller,
      .settled (some (a.metadata now)) (.ok a.received)⟩ ∈ recordsOf i ((ofState s).run ms).state.trace := by
    rw [hcaller]
    exact (mem_recordsOf_iff i _ _).2 ⟨hsettled, rfl⟩
  have hphase : c.phase = .done (.token (Workload.token (.ok a.received) (some (a.metadata now)))) :=
    hhistory.of_settled hsettled
  refine ⟨Workload.token (.ok a.received) (some (a.metadata now)), ?_, Workload.grantAccounted _ _⟩
  rw [result?, hc, Option.bind_some, Call.result?, hphase]

def unwellAnswer : Answer :=
  ⟨⟨503, [("retry-after", bytesOf "7")], []⟩, none⟩

def workloadRetriever : WorkloadRetriever :=
  ⟨.forAudience "https://api/", 0⟩

def workloadCalls : List Move :=
  [.files ⟨[(workloadRetriever.settings.assertionFile.toList, .content (bytesOf "assertion"))]⟩ false,
    .call "call" (.stage (.workload workloadRetriever ⟨"app", by decide⟩ ⟨"directory", by decide⟩)), .poll 0]

def workloadState : State :=
  .fresh 1 (.ofSeconds 1) [unwellAnswer.reply ⟨0⟩]

/-- An empty answer of a provider that is not well, with the time that it asks for. -/
theorem unwell_answer_is_returned_with_its_hint :
    ⟨⟨0, some .workloadIdentity⟩,
        .settled (some (unwellAnswer.metadata ⟨0⟩)) (.ok unwellAnswer.received)⟩ ∈
      ((ofState workloadState).run workloadCalls).state.trace ∧
    Http.RetryHint.ofResponse? ⟨0⟩ unwellAnswer.received = some (.delay (.ofSeconds 7)) ∧
    ∃ result, ((ofState workloadState).run workloadCalls).result? 0 = some (.token result) ∧
      GrantAccounted unwellAnswer.received (Http.RetryHint.ofResponse? ⟨0⟩ unwellAnswer.received) result := by
  have hfirst : (eventsOf ⟨0, some .workloadIdentity⟩
      ((ofState workloadState).run workloadCalls).state.trace).findSome? Event.settled? =
        some (some (unwellAnswer.metadata ⟨0⟩), .ok unwellAnswer.received) := by
    decide +kernel
  have hsettled := mem_of_findSome?_settled? hfirst
  exact ⟨hsettled, by decide +kernel,
    workload_returns_what_answer_means (s := workloadState) rfl workloadCalls rfl hsettled⟩

end Traffic

end RegistryAuth
