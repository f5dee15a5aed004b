import RegistryAuth.Files
import RegistryAuth.Http.Message
import RegistryAuth.Identity.Credential
import RegistryAuth.Observation
import RegistryAuth.Token.Claims

/-!
# Errors

Every failure of the broker is an `Error`: the causes that lie with the caller, which no repetition
mends, and those that may pass.  A failure of the facade holds the failure of the stage that it stems
from.
-/

namespace RegistryAuth

/-- What is wrong with the settings or the input of a call. -/
inductive ConfigFault where
  /-- The client could not be built, for a reason of its own. -/
  | clientBuild (cause : String)
  | request (fault : Http.Fault)
  | invalidEndpoint (endpoint : String) (cause : Url.Fault)
  | invalidRegistryHost (host : String)
  | invalidIdentifier (fault : Identifier.Fault)
  | missingSelector
  | conflictingSelectors
  | flowMismatch (configured requested : Flow)

/-- What may pass when a call is repeated. -/
inductive TransientFault where
  | endpoint (operation : Operation) (detail : String) (status : Option Nat)
      (retryAfter : Option Http.RetryHint)
  | responseParse (operation : Operation) (cause : Json.ReadError) (status : Option Nat)

/-- What went wrong on the way. -/
inductive TransportFault where
  | network (cause : String)
  | io (cause : String)

/-- Why a call failed. -/
inductive Error where
  | config (fault : ConfigFault)
  | claim (fault : Claims.Fault)
  | transient (fault : TransientFault)
  | transport (fault : TransportFault)
  /-- The metadata endpoint answered with a status that is no success. -/
  | metadata (status : Nat) (body : String) (retryAfter : Option Http.RetryHint)
  /-- The registry answered with a status that is no success. -/
  | exchange (status : Nat) (body : String) (retryAfter : Option Http.RetryHint)
  /-- The assertion could not be read from its file. -/
  | credential (path : String) (fault : FileFault) (cause : String)
  /-- The identity provider refused the assertion. -/
  | auth (reason : String) (status : Option Nat)
  | rateLimitCancelled
  | cancelled
  /-- An operation of the facade failed with the source. -/
  | operation (operation : Operation) (source : Error)

def ConfigFault.ofSelector : Selector.Fault → ConfigFault
  | .missing => .missingSelector
  | .conflicting => .conflictingSelectors
  | .invalid f => .invalidIdentifier f

/-! ## Messages -/

def ConfigFault.message : ConfigFault → String
  | .clientBuild _ => "HTTP client could not be constructed."
  | .request f => f.message
  | .invalidEndpoint endpoint _ => "Endpoint `" ++ endpoint ++ "` is invalid."
  | .invalidRegistryHost host => "Registry host `" ++ host ++ "` has no hostname."
  | .invalidIdentifier f => f.message
  | .missingSelector => "Either a client identifier or a resource identifier is required."
  | .conflictingSelectors => "Only one of client identifier and resource identifier may be supplied."
  | .flowMismatch configured requested =>
    "Authorizer was built for " ++ configured.text ++ " and cannot serve " ++ requested.text ++ "."

def TransientFault.message : TransientFault → String
  | .endpoint op detail .. =>
    op.text ++ " endpoint returned an unexpected response: " ++ detail ++ "."
  | .responseParse op .. => op.text ++ " endpoint returned malformed JSON."

def TransportFault.message : TransportFault → String
  | .network _ => "Network error occurred while calling an upstream endpoint."
  | .io _ => "I/O error occurred while calling an upstream endpoint."

namespace Error

def message : Error → String
  | .config f => f.message
  | .claim f => f.message
  | .transient f => f.message
  | .transport f => f.message
  | .metadata status body _ => s!"Metadata endpoint returned status {status}: " ++ body
  | .exchange status body _ => s!"Registry exchange returned status {status}: " ++ body
  | .credential path .. => "Failed to read the federated assertion from " ++ path ++ "."
  | .auth reason _ => "Identity provider rejected the assertion exchange: " ++ reason ++ "."
  | .rateLimitCancelled => "Cancelled while waiting for a rate-limit permit."
  | .cancelled => "Cancelled while the upstream call was in flight."
  | .operation op source => op.text ++ " failed: " ++ source.message

/-- The messages of the causes that lie behind an error, the nearest first. -/
def causes : Error → List String
  | .config (.clientBuild cause) => [cause]
  | .config (.invalidEndpoint _ cause) => [cause.message]
  | .transient (.responseParse _ cause _) =>
    let inner := cause.fault.message
    [if cause.path.isEmpty then inner else Json.pathText cause.path ++ ": " ++ inner, inner]
  | .transport (.network cause) | .transport (.io cause) => [cause]
  | .credential _ _ cause => [cause]
  | .operation _ source => source.message :: source.causes
  | _ => []

/-! ## Causes and kinds -/

/-- The error within all layers of operations. -/
def root : Error → Error
  | .operation _ source => source.root
  | e => e

/-- Whether repeating the call with the same input cannot succeed. -/
def isPermanent (e : Error) : Bool :=
  match e.root with
  | .config _ | .claim _ => true
  | _ => false

end Error

end RegistryAuth
