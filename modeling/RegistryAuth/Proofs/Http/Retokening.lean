import RegistryAuth.Proofs.Http.Answers

/-!
# Answers with other tokens

The fields of an answer that hold tokens may hold other texts.  Where an operation was granted a token by
an answer, it is granted one by the answer with the other texts too, as long as none of them is empty: of
a token nothing is looked at but whether it is there.
-/

namespace RegistryAuth

/-- The names of the fields that hold tokens. -/
def tokenFields : List String :=
  ["access_token", "refresh_token"]

/-- The records that answers with tokens are read as. -/
def answerRecords : List Json.Record :=
  [Managed.answerRecord, Workload.answerRecord, Registry.answerRecord]

/-! ## 1. Fields -/

namespace Json

/-- Fields with their tokens blotted out. -/
def Fields.veiled (fields : Fields) : Fields :=
  fields.map fun (name, content) =>
    (name, if name ∈ tokenFields then content.map fun _ => AccessToken.redacted else content)

/-- Whether fields become others when the texts of tokens become others that are not empty. -/
structure Fields.Retokened (fields fields' : Fields) : Prop where
  veiled_eq : fields'.veiled = fields.veiled
  filled : ∀ name ∈ tokenFields, fields'.text? name = some "" → fields.text? name = some ""

instance (fields fields' : Fields) : Decidable (fields.Retokened fields') :=
  decidable_of_iff (fields'.veiled = fields.veiled ∧
    ∀ name ∈ tokenFields, fields'.text? name = some "" → fields.text? name = some "")
    ⟨fun ⟨h, h'⟩ => ⟨h, h'⟩, fun ⟨h, h'⟩ => ⟨h, h'⟩⟩

theorem Fields.text?_veiled (fields : Fields) {name : String} (hname : name ∈ tokenFields) :
    fields.veiled.text? name = (fields.text? name).map fun _ => AccessToken.redacted := by
  have hlookup : fields.veiled.lookup name =
      (fields.lookup name).map (·.map fun _ => AccessToken.redacted) := by
    unfold veiled
    induction fields with
    | nil => rfl
    | cons field rest ih =>
      obtain ⟨n, content⟩ := field
      rw [List.map_cons, List.lookup_cons, List.lookup_cons, ih]
      cases hn : name == n with
      | true =>
        obtain rfl := eq_of_beq hn
        rw [if_pos hname]
        rfl
      | false => rfl
  unfold text?
  rw [hlookup]
  cases fields.lookup name <;> rfl

theorem Fields.Retokened.isSome_text? {fields fields' : Fields} (h : fields.Retokened fields')
    {name : String} (hname : name ∈ tokenFields) :
    (fields'.text? name).isSome = (fields.text? name).isSome := by
  have hveiled := congrArg (fun fields => (fields.text? name).isSome) h.veiled_eq
  simp only [Fields.text?_veiled _ hname, Option.isSome_map] at hveiled
  exact hveiled

/-- Whether a body that is read as a record becomes another one that is read so with other tokens. -/
def Record.retokens (record : Record) (body body' : Text.Bytes) : Bool :=
  match record.read body, record.read body' with
  | .ok fields, .ok fields' => fields.Retokened fields'
  | .ok _, .error _ => false
  | .error _, _ => true

theorem Record.of_retokens {record : Record} {body body' : Text.Bytes} {fields : Fields}
    (h : record.retokens body body' = true) (hread : record.read body = .ok fields) :
    ∃ fields', record.read body' = .ok fields' ∧ fields.Retokened fields' := by
  unfold retokens at h
  rw [hread] at h
  cases hread' : record.read body' with
  | error e =>
    rw [hread'] at h
    cases h
  | ok fields' =>
    rw [hread'] at h
    exact ⟨fields', rfl, of_decide_eq_true h⟩

end Json

/-! ## 2. Responses -/

/-- Whether a response becomes another when the texts of its tokens become others that are not empty. -/
structure Http.Response.Retokened (r r' : Http.Response) : Prop where
  status : r'.status = r.status
  headers : r'.headers = r.headers
  body : ∀ record ∈ answerRecords, record.retokens r.body r'.body = true

instance (r r' : Http.Response) : Decidable (r.Retokened r') :=
  decidable_of_iff (r'.status = r.status ∧ r'.headers = r.headers ∧
    ∀ record ∈ answerRecords, record.retokens r.body r'.body = true)
    ⟨fun ⟨h, h', h''⟩ => ⟨h, h', h''⟩, fun ⟨h, h', h''⟩ => ⟨h, h', h''⟩⟩

variable {r r' : Http.Response}

theorem Http.Response.Retokened.isOk_eq (h : r.Retokened r') : r'.isOk = r.isOk := by
  unfold Http.Response.isOk
  rw [h.status]

/-- An answer of the node's endpoint or of a registry grants a token whatever its text is. -/
theorem TokenAnswer.token_of_retokened {x : TokenAnswer} {metadata : Http.Metadata} {t : AccessToken}
    (hrecord : x.record ∈ answerRecords) (hfield : x.field ∈ tokenFields) (h : r.Retokened r')
    (ht : x.token r metadata = .ok t) : ∃ t', x.token r' metadata = .ok t' := by
  obtain ⟨hstatus, hnonempty, fields, hread, htext⟩ := of_token_eq_ok ht
  obtain ⟨fields', hread', hfields⟩ := Json.Record.of_retokens (h.body _ hrecord) hread
  have hok : r'.isOk = true := by
    rw [h.isOk_eq]
    exact beq_iff_eq.2 hstatus
  have hsome : (fields'.text? x.field).isSome = true := by
    rw [hfields.isSome_text? hfield, htext]
    rfl
  obtain ⟨text', htext'⟩ := Option.isSome_iff_exists.1 hsome
  -- An empty text would have been empty before, where a token was granted.
  have hnonempty' : text' ≠ "" := by
    intro hempty
    rw [hempty] at htext'
    have hbefore := hfields.filled _ hfield htext'
    rw [htext] at hbefore
    exact hnonempty (Option.some.inj hbefore)
  exact ⟨⟨text'⟩, token_eq_ok hok hread' htext' hnonempty'⟩

theorem Workload.readAnswer_of_retokened {t : AccessToken} (h : r.Retokened r')
    (ht : readAnswer r = .ok t) : ∃ t', readAnswer r' = .ok t' := by
  have hheader : r'.header? "content-type" = r.header? "content-type" := by
    unfold Http.Response.header?
    rw [h.headers]
  unfold readAnswer at ht ⊢
  rw [h.isOk_eq, hheader]
  split at ht
  · cases ht
  · rename_i hok
    rw [if_neg hok]
    simp only at ht ⊢
    split at ht
    · cases ht
    · split at ht
      · cases ht
      · split at ht
        · rename_i fields hread
          have hmem : answerRecord ∈ answerRecords := by simp [answerRecords]
          obtain ⟨fields', hread', -⟩ := Json.Record.of_retokens (h.body _ hmem) hread
          -- A record is read from no empty body.
          have hbody : ¬ r'.body.isEmpty = true := by
            intro hempty
            rw [List.isEmpty_iff.1 hempty] at hread'
            cases hread'
          simp only [if_neg hbody, hread']
          exact ⟨_, rfl⟩
        · cases ht

/-! ## 3. Operations -/

/-- Whether an operation is granted a token by a response, for which metadata were recorded. -/
def Operation.isGranted (slot : Http.Slot) (response : Http.Response) : Operation → Bool
  | .managedIdentity => (Managed.token response (slot.getD .empty)).isOk
  | .workloadIdentity => (Workload.token (.ok response) slot).isOk
  | .registryExchange => (Registry.token response (slot.getD .empty)).isOk
  | .acquireWithManagedIdentity | .acquireWithWorkloadIdentity => false

/-- An operation is granted a token whatever its text is. -/
theorem Operation.isGranted_of_retokened {op : Operation} {slot : Http.Slot} (h : r.Retokened r')
    (hgranted : op.isGranted slot r = true) : op.isGranted slot r' = true := by
  have hmem : ∀ record ∈ [Managed.answerRecord, Registry.answerRecord], record ∈ answerRecords := by
    simp [answerRecords]
  cases op with
  | managedIdentity =>
    obtain ⟨t, ht⟩ := isOk_iff.1 hgranted
    rw [Managed.token_eq] at ht
    exact isOk_iff.2 (TokenAnswer.token_of_retokened (hmem _ (by simp [Managed.tokenAnswer]))
      (by decide) h ht)
  | registryExchange =>
    obtain ⟨t, ht⟩ := isOk_iff.1 hgranted
    rw [Registry.token_eq] at ht
    exact isOk_iff.2 (TokenAnswer.token_of_retokened (hmem _ (by simp [Registry.tokenAnswer]))
      (by decide) h ht)
  | workloadIdentity =>
    obtain ⟨t, ht⟩ := isOk_iff.1 hgranted
    rw [Workload.token_ok, mapError_eq_ok_iff] at ht
    obtain ⟨t', hread⟩ := Workload.readAnswer_of_retokened h ht
    refine isOk_iff.2 ⟨t', ?_⟩
    rw [Workload.token_ok, hread]
    rfl
  | acquireWithManagedIdentity => cases hgranted
  | acquireWithWorkloadIdentity => cases hgranted

end RegistryAuth
