import RegistryAuth.Http.Failure
import RegistryAuth.Settings
import RegistryAuth.Url.Form

/-!
# The exchange at a registry

A registry takes a token of the control plane, in a form, and answers with a refresh token of its own.
The host of a registry is given as bare text, white space and slashes at its ends apart.
-/

namespace RegistryAuth.Registry

def exchangePath : String := "/oauth2/exchange"

/-- The characters that end a host, or what stands before it. -/
def isDelimiter (c : Char) : Bool :=
  c == '/' || c == '?' || c == '#' || c == '@'

/-- A host without white space around it and slashes after it. -/
def trimmedHost (host : String) : List Char :=
  Text.trimEndWhile (· == '/') (Text.trimWhile Text.isBlank host.toList)

def exchangeUrl (s : ExchangeSettings) (host : String) : Except ConfigFault Url :=
  let name := trimmedHost host
  if name.isEmpty || name.any isDelimiter then .error (.invalidRegistryHost host)
  else endpointUrl (s.scheme ++ "://" ++ String.ofList name ++ exchangePath)

def form (service : List Char) (tenant : Option TenantId) (token : AccessToken) : Form :=
  [("grant_type", "access_token"), ("service", String.ofList service)] ++
    (tenant.map fun t => ("tenant", t.text)).toList ++ [("access_token", token.text)]

def request (s : ExchangeSettings) (token : AccessToken) (tenant : Option TenantId) (host : String) :
    Except ConfigFault Http.Request := do
  let url ← exchangeUrl s host
  match url.host? with
  | none => .error (.invalidRegistryHost host)
  | some service => do
    let uri ← (Http.Uri.ofUrl url).mapError .request
    return ⟨.post, uri, [Http.acceptJson, Http.formContent], (form service.text tenant token).encode⟩

def answerRecord : Json.Record where
  name := "ExchangeResponse"
  fields := [⟨"refresh_token", .text⟩]
  positional := true
  keepsOthers := false

def token (response : Http.Response) (metadata : Http.Metadata) : Except Error AccessToken :=
  let op := Operation.registryExchange
  if !response.isOk then .error (.exchange response.status response.bodyText metadata.retryAfter)
  else
    match answerRecord.read response.body with
    | .error e => .error (.transient (.responseParse op e (some response.status)))
    | .ok fields =>
      match fields.text? "refresh_token" with
      | some "" | none =>
        .error (Http.unexpected op (some metadata) "response carried an empty refresh_token")
      | some t => .ok ⟨t⟩

end RegistryAuth.Registry
