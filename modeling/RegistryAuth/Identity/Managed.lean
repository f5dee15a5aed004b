import RegistryAuth.Http.Failure
import RegistryAuth.Settings
import RegistryAuth.Url.Form

/-!
# Tokens of managed identities

The metadata endpoint of the node is asked with a `GET` for a token of the selected identity.
-/

namespace RegistryAuth.Managed

def query (s : ManagedSettings) (selector : Selector) : Form :=
  [(selector.parameter, selector.value), ("resource", s.audience), ("api-version", metadataVersion)]

def request (s : ManagedSettings) (selector : Selector) : Except ConfigFault Http.Request := do
  let url ← endpointUrl s.endpoint
  let uri ← (Http.Uri.ofUrl (url.addQuery (query s selector))).mapError .request
  return ⟨.get, uri, [Http.acceptJson, ("metadata", "true")], []⟩

def answerRecord : Json.Record where
  name := "MetadataTokenResponse"
  fields := [⟨"access_token", .text⟩]
  positional := true
  keepsOthers := false

def token (response : Http.Response) (metadata : Http.Metadata) : Except Error AccessToken :=
  let op := Operation.managedIdentity
  if !response.isOk then .error (.metadata response.status response.bodyText metadata.retryAfter)
  else
    match answerRecord.read response.body with
    | .error e => .error (.transient (.responseParse op e (some response.status)))
    | .ok fields =>
      match fields.text? "access_token" with
      | some "" | none =>
        .error (Http.unexpected op (some metadata) "response carried an empty access_token")
      | some t => .ok ⟨t⟩

end RegistryAuth.Managed
