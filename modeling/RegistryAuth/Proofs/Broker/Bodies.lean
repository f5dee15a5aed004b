import RegistryAuth.Proofs.Broker.Steps
import RegistryAuth.Proofs.Http.Answers
import RegistryAuth.Proofs.Json.Printing

/-!
# Bodies of answers

A token is read of an answer when the body begins with a document that holds it under the name that is
asked for, and only then.  What comes after the document is not looked at: it may be anything.  Any other
body is a failure that may pass, and nothing is kept of it.  So the token is read of every object that is
written in the compact form, whatever else is in the object.
-/

namespace RegistryAuth

open Text (Bytes bytesOf)

/-! ## 1. Answers with a token -/

namespace TokenAnswer

variable {x : TokenAnswer} {response : Http.Response} {metadata : Http.Metadata}

/-- Whether an answer is read as a record that has the token only, whose other members nobody keeps. -/
structure IsPlain (x : TokenAnswer) : Prop where
  fields : x.record.fields = [⟨x.field, .text⟩]
  others : x.record.keepsOthers = false
  positional : x.record.positional = true

/-- The token of such an answer stands in a document that the body begins with. -/
theorem IsPlain.token_eq_ok_iff (hx : x.IsPlain) (hstatus : response.status = 200) (t : AccessToken) :
    x.token response metadata = .ok t ↔ t.text ≠ "" ∧ Json.Offers x.field t.text response.body := by
  rw [← Json.Record.read_text_iff hx.fields hx.others hx.positional]
  constructor
  · intro h
    obtain ⟨-, hnonempty, hread⟩ := of_token_eq_ok h
    exact ⟨hnonempty, hread⟩
  · rintro ⟨hnonempty, fields, hread, htext⟩
    have hok : response.isOk = true := beq_iff_eq.2 hstatus
    exact token_eq_ok hok hread htext hnonempty

/-- An answer of status 200 whose token is not read fails in a way that may pass. -/
theorem transient_of_status (hstatus : response.status = 200) {e : Error}
    (h : x.token response metadata = .error e) : ∃ cause, e = .transient cause := by
  rcases of_token_eq_error h with ⟨hok, -⟩ | ⟨cause, -, rfl⟩ | rfl
  · simp [Http.Response.isOk, hstatus] at hok
  · exact ⟨_, rfl⟩
  · exact ⟨_, rfl⟩

end TokenAnswer

/-! ## 2. Stages -/

namespace Stage

/-- The name under which a stage looks for its token. -/
def tokenField : Stage → String
  | .managed .. | .workload .. => "access_token"
  | .exchange .. => "refresh_token"

/-- The node and registries answer alike, each with a name of its own. -/
theorem exists_tokenAnswer {g : Stage} (hg : g.readsFile = false) (slot : Http.Slot)
    (response : Http.Response) :
    ∃ x : TokenAnswer, x.IsPlain ∧ x.field = g.tokenField ∧
      g.conclude slot (.ok response) = x.token response (slot.getD .empty) := by
  cases g with
  | managed r selector => exact ⟨Managed.tokenAnswer, ⟨rfl, rfl, rfl⟩, rfl, rfl⟩
  | exchange x token tenant host => exact ⟨Registry.tokenAnswer, ⟨rfl, rfl, rfl⟩, rfl, rfl⟩
  | workload r client tenant => exact Bool.noConfusion hg

/-- The caches are as they were when a stage ends with an error. -/
theorem tokens_settle_of_error {g : Stage} {c : Caller} {s : State} {reply : Reply} {e : Error}
    (h : g.conclude reply.slot reply.outcome = .error e) (cache : Nat) :
    (g.settle c s reply).1.tokens cache = s.tokens cache := by
  have hkeep (t : State) (o : Origin) : g.keep t o (.error e) = t := by cases g <;> rfl
  have hpassing : (s.passing (g.origin c) reply).tokens cache = s.tokens cache := by
    unfold State.passing
    cases reply.cancels <;> rfl
  unfold settle
  rw [h]
  simp only [hkeep]
  exact hpassing

/-- What becomes of an answer of status 200, whatever its body is.  A token is read of it just when the body
begins with a document that holds the token under its name, and the token is not empty.  With any other
body the stage fails in a way that may pass, and the caches are as they were. -/
theorem body_is_read_iff_it_offers_token (g : Stage) (response : Http.Response) (slot : Http.Slot)
    (hg : g.readsFile = false) (hstatus : response.status = 200) :
    (∀ t : AccessToken, g.conclude slot (.ok response) = .ok t ↔
      t.text ≠ "" ∧ Json.Offers g.tokenField t.text response.body) ∧
    ((∀ text, text ≠ "" → ¬ Json.Offers g.tokenField text response.body) →
      ∃ cause, g.conclude slot (.ok response) = .error (.transient cause) ∧
        ∀ (c : Caller) (s : State) (reply : Reply), reply.slot = slot → reply.outcome = .ok response →
          ∀ cache, (g.settle c s reply).1.tokens cache = s.tokens cache) := by
  obtain ⟨x, hx, hfield, hconclude⟩ := exists_tokenAnswer hg slot response
  have hiff (t : AccessToken) : g.conclude slot (.ok response) = .ok t ↔
      t.text ≠ "" ∧ Json.Offers g.tokenField t.text response.body := by
    rw [hconclude, ← hfield]
    exact hx.token_eq_ok_iff hstatus t
  refine ⟨hiff, fun hnone => ?_⟩
  cases h : g.conclude slot (.ok response) with
  | ok t =>
    obtain ⟨hnonempty, hoffers⟩ := (hiff t).1 h
    exact absurd hoffers (hnone t.text hnonempty)
  | error e =>
    obtain ⟨cause, rfl⟩ := TokenAnswer.transient_of_status hstatus (hconclude.symm.trans h)
    refine ⟨cause, rfl, fun c s reply hslot houtcome cache => ?_⟩
    exact tokens_settle_of_error (by rw [hslot, houtcome, h]) cache

end Stage

/-! ## 3. Text after a document -/

namespace Json

theorem IsMembers.getLast? {first : Bool} {ms : List (String × Bytes)} {body : Bytes}
    (h : IsMembers first ms body) : body.getLast? = some (byte '\x7d') := by
  induction h with
  | close _ => simp
  | next _ _ _ ih => simp [ih]

/-- Nothing but white space comes between the brace of an object and the end of a body that ends with it. -/
theorem IsObject.getLast?_append {ms : List (String × Bytes)} {doc gap : Bytes} (h : IsObject ms doc)
    (hgap : IsGap gap) :
    ∃ b, (doc ++ gap).getLast? = some b ∧ (b = byte '\x7d' ∨ isGap b = true) := by
  cases h with
  | @members body h =>
    have hdoc : (byte '\x7b' :: body).getLast? = some (byte '\x7d') := by
      rw [List.getLast?_cons, h.getLast?]
      rfl
    rw [List.getLast?_append, hdoc]
    cases hlast : gap.getLast? with
    | none => exact ⟨byte '\x7d', rfl, .inl rfl⟩
    | some b => exact ⟨b, rfl, .inr (hgap b (List.mem_of_getLast? hlast))⟩

end Json

/-- An answer whose document is followed by a letter. -/
def trailedAnswer : Http.Response :=
  ⟨200, [], bytesOf "\x7b\"access_token\":\"t\"\x7dx"⟩

theorem token_trailedAnswer : Managed.token trailedAnswer .empty = .ok ⟨"t"⟩ :=
  eq_ok_of_toOption (by decide +kernel)

/-- The token of the answer stands in the document before the letter. -/
theorem bodies_of_trailedAnswer :
    trailedAnswer.status = 200 ∧ Json.Offers "access_token" "t" trailedAnswer.body := by
  have haccounted := Stage.body_is_read_iff_it_offers_token (.managed Sample.retriever Sample.selector)
    trailedAnswer none rfl rfl
  have htoken : (Stage.managed Sample.retriever Sample.selector).conclude none (.ok trailedAnswer) =
      .ok ⟨"t"⟩ := by
    rw [Stage.conclude_managed]
    exact token_trailedAnswer
  exact ⟨rfl, ((haccounted.1 ⟨"t"⟩).1 htoken).2⟩

/-- So it is not so that a token is read only of a body that is an object with white space around it. -/
theorem trailed_answer_is_read :
    ¬ ∀ (response : Http.Response) (metadata : Http.Metadata) (t : AccessToken), response.status = 200 →
      Managed.token response metadata = .ok t →
      ∃ gap doc gap' ms v, response.body = gap ++ (doc ++ gap') ∧ Json.IsGap gap ∧ Json.IsGap gap' ∧
        Json.IsObject ms doc ∧ ms.filter (·.1 = "access_token") = [("access_token", v)] ∧
        Json.IsText t.text v := by
  intro hall
  obtain ⟨gap, doc, gap', ms, v, hbody, -, hgap', hdoc, -⟩ :=
    hall trailedAnswer .empty ⟨"t"⟩ rfl token_trailedAnswer
  obtain ⟨b, hb, hend⟩ := hdoc.getLast?_append hgap'
  have hlast : trailedAnswer.body.getLast? = some (Json.byte 'x') := by decide +kernel
  rw [hbody, List.getLast?_append, hb] at hlast
  obtain rfl : b = Json.byte 'x' := Option.some.inj hlast
  revert hend
  decide

/-! ## 4. Objects in the compact form -/

/-- The answer with an object that has a text among its members. -/
def compactAnswer (headers : List (String × Bytes)) (before : List (String × Json)) (name t : String)
    (after : List (String × Json)) : Http.Response :=
  ⟨200, headers, bytesOf (Json.object (before ++ (name, .string t) :: after)).text⟩

theorem offers_compactAnswer {before after : List (String × Json)} {name t : String}
    (hothers : ∀ m ∈ before ++ after, m.1 ≠ name ∧ m.2.IsFinite) (headers : List (String × Bytes)) :
    Json.Offers name t (compactAnswer headers before name t after).body := by
  have hbody : (compactAnswer headers before name t after).body =
      Text.Utf8.encode (Json.print (.object (before ++ (name, .string t) :: after))) := by
    show bytesOf (Json.text _) = _
    unfold bytesOf Json.text
    rw [String.toList_ofList]
  refine ⟨[], _, [], ?_, .nil, Json.carries_print hothers⟩
  rw [hbody, List.nil_append, List.append_nil]

namespace Stage

/-- A token is read of every object that has it under the name that is asked for, wherever the member stands
among others of any depth, and whatever characters the token and the names have. -/
theorem regular_bodies_understood (g : Stage) (hg : g.readsFile = false) (slot : Http.Slot)
    (headers : List (String × Bytes)) (before after : List (String × Json)) (t : String) (ht : t ≠ "")
    (hothers : ∀ m ∈ before ++ after, m.1 ≠ g.tokenField ∧ m.2.IsFinite) :
    g.conclude slot (.ok (compactAnswer headers before g.tokenField t after)) = .ok ⟨t⟩ := by
  obtain ⟨x, hx, hfield, hconclude⟩ :=
    exists_tokenAnswer hg slot (compactAnswer headers before g.tokenField t after)
  rw [hconclude]
  apply (hx.token_eq_ok_iff rfl ⟨t⟩).2
  rw [hfield]
  exact ⟨ht, offers_compactAnswer hothers headers⟩

/-- A token between a member that holds the same name deeper down and one that has no name. -/
theorem regular_body_of_nested :
    (Stage.managed Sample.retriever Sample.selector).conclude none
      (.ok (compactAnswer []
        [("имя\n", .array [.object [("access_token", .null)], .number (.whole (-3))])]
        "access_token" "é\"\\😀" [("", .string "\"")])) = .ok ⟨"é\"\\😀"⟩ := by
  apply regular_bodies_understood (.managed Sample.retriever Sample.selector) rfl
  · decide
  · intro m hm
    simp only [List.cons_append, List.nil_append, List.mem_cons, List.not_mem_nil, or_false] at hm
    rcases hm with rfl | rfl
    · refine ⟨by decide, .array fun v hv => ?_⟩
      simp only [List.mem_cons, List.not_mem_nil, or_false] at hv
      rcases hv with rfl | rfl
      · exact .object fun m hm => List.mem_singleton.1 hm ▸ .null
      · exact .whole (-3)
    · exact ⟨by decide, .string _⟩

end Stage

end RegistryAuth
