import RegistryAuth.Http.Failure
import RegistryAuth.Settings
import RegistryAuth.Url.Form

/-!
# Tokens of workloads

A workload presents an assertion, which its cluster keeps in a file, to the identity provider and is
granted a token for the control plane (RFC 6749, section 4.4, with the assertion of RFC 7523).
-/

namespace RegistryAuth.Workload

open Text (Bytes)

def assertion (path : String) (content : Except FileFault Bytes) : Except Error String :=
  match content with
  | .error f => .error (.credential path f "")
  | .ok bytes =>
    match Text.Utf8.decode? bytes with
    | none => .error (.credential path .invalidData "stream did not contain valid UTF-8")
    | some cs =>
      let text := Text.trimWhile Text.isBlank cs
      if text.isEmpty then .error (.credential path .invalidData "assertion file is empty")
      else .ok (String.ofList text)

/-- What is presented to the identity provider. -/
structure Grant where
  endpoint : Url
  client : ClientId
  assertion : String
  scope : String

namespace Grant

def form (g : Grant) : Form :=
  [("grant_type", "client_credentials"), ("scope", g.scope), ("client_id", g.client.text),
    ("client_assertion_type", assertionType), ("client_assertion", g.assertion)]

def request (g : Grant) : Except Http.Fault Http.Request := do
  let uri ← Http.Uri.ofUrl g.endpoint
  return ⟨.post, uri, [Http.acceptJson, Http.formContent], g.form.encode⟩

end Grant

/-- The grant of a workload, from the content of its assertion file. -/
def grant (s : WorkloadSettings) (client : ClientId) (tenant : TenantId)
    (content : Except FileFault Bytes) : Except Error Grant :=
  match assertion s.assertionFile content with
  | .error e => .error e
  | .ok text =>
    match s.tokenEndpoint tenant with
    | .error f => .error (.config f)
    | .ok url => .ok ⟨url, client, text, s.scope⟩

/-! ## Answers -/

def answerRecord : Json.Record where
  name := "StandardTokenResponse"
  fields := [⟨"access_token", .text⟩, ⟨"token_type", .text⟩, ⟨"expires_in", .optionalCount⟩,
    ⟨"refresh_token", .optionalText⟩, ⟨"scope", .optionalText⟩]
  positional := false
  keepsOthers := true

def refusalRecord : Json.Record where
  name := "StandardErrorResponse"
  fields := [⟨"error", .text⟩, ⟨"error_description", .optionalText⟩, ⟨"error_uri", .optionalText⟩]
  positional := true
  keepsOthers := false

/-- What an answer that grants nothing says. -/
inductive Refusal where
  /-- The provider says why. -/
  | stated (error : String) (description : Option String)
  /-- The answer cannot be read. -/
  | unreadable (cause : Json.ReadError) (body : Bytes)
  /-- The answer is none, for a reason told in words. -/
  | unusable (detail : String)

def jsonContent : List Char :=
  "application/json".toList

/-- Whether a header value begins with the content type, in any case. -/
def isJsonContent (value : Bytes) : Bool :=
  match Http.visibleText? value with
  | some cs => jsonContent.isPrefixOf (cs.map Text.lowerAscii)
  | none => false

/-- A header value between quotes, bytes that are not visible in hexadecimal. -/
def shownHeader (value : Bytes) : String :=
  String.ofList ('"' :: (value.flatMap shownByte ++ ['"']))
where
  /-- What stands for a byte. -/
  shownByte (b : UInt8) : List Char :=
    if b = 0x22 then ['\\', '"']
    else if b = 0x09 ∨ (0x20 ≤ b ∧ b < 0x7F) then [Char.ofNat b.toNat]
    else '\\' :: 'x' :: Text.hexText b.toNat

def readRefusal (body : Bytes) : Refusal :=
  if body.isEmpty then .unusable "server returned empty error response"
  else
    match refusalRecord.read body with
    | .ok fields =>
      .stated ((fields.text? "error").getD "") (fields.text? "error_description")
    | .error e => .unreadable e body

/-- Reads an answer: the token that it grants. -/
def readAnswer (r : Http.Response) : Except Refusal AccessToken :=
  if !r.isOk then .error (readRefusal r.body)
  else
    -- An answer that names no content type is taken for the right one.
    let unexpected := (r.header? "content-type").filter (!isJsonContent ·)
    match unexpected with
    | some value =>
      .error (.unusable ("unexpected response Content-Type: " ++ shownHeader value ++
        ", should be `" ++ String.ofList jsonContent ++ "`"))
    | none =>
      if r.body.isEmpty then .error (.unusable "server returned empty response body")
      else
        match answerRecord.read r.body with
        | .ok fields => .ok ⟨(fields.text? "access_token").getD ""⟩
        | .error e => .error (.unreadable e r.body)

/-- The error of a refusal, by the status that was recorded: the provider's word is final below 500. -/
def Refusal.error (slot : Http.Slot) (refusal : Refusal) : Error :=
  let op := Operation.workloadIdentity
  let status := Http.status? slot
  let rejected := (status.map fun n => 400 ≤ n && n < 500).getD false
  match refusal with
  | .stated error (some description) => .auth (error ++ ": " ++ description) status
  | .stated error none => .auth error status
  | .unreadable cause body =>
    -- A refusal whose reason cannot be read is told as it stands.
    if rejected then .auth (String.ofList (Text.Utf8.decodeLossy body)) status
    else .transient (.responseParse op cause status)
  | .unusable detail =>
    if rejected then .auth detail status else Http.unexpected op slot detail

def notMade (fault : Http.Fault) : Refusal :=
  .unusable ("failed to prepare request: " ++ fault.message)

/-! ## Outcomes -/

/-- Why the client of the identity provider has got no token. -/
inductive ClientError where
  /-- There is no answer. -/
  | unanswered (failure : Http.Failure)
  | refused (refusal : Refusal)

/-- What the client makes of the outcome of its request. -/
def granted : Except Http.Failure Http.Response → Except ClientError AccessToken
  | .error failure => .error (.unanswered failure)
  | .ok r => (readAnswer r).mapError .refused

/-- The error for one of the client: the status that was recorded is looked at for refusals only. -/
def ClientError.error (slot : Http.Slot) : ClientError → Error
  | .unanswered failure => failure.error .workloadIdentity slot.take.1
  | .refused refusal => refusal.error slot.take.1

def token (outcome : Except Http.Failure Http.Response) (slot : Http.Slot) : Except Error AccessToken :=
  (granted outcome).mapError (ClientError.error slot)

end RegistryAuth.Workload
