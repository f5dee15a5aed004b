import RegistryAuth.Error
import RegistryAuth.Url.Parser

/-!
# Settings

Where tokens are asked for, for which audience, and how long and how often.
-/

namespace RegistryAuth

def audienceVariable : String := "ARM_RESOURCE"

/-- The audience of the control plane when nothing else is set. -/
def defaultAudience : String := "https://management.azure.com/"

/-- The audience that a value of the environment sets; a blank one sets nothing. -/
def resolveAudience (value : Option String) : String :=
  ((value.map Text.trim).filter (!·.isEmpty)).getD defaultAudience

def assertionType : String := "urn:ietf:params:oauth:client-assertion-type:jwt-bearer"

def metadataVersion : String := "2018-02-01"

/-- The longest time that one request may take, in seconds. -/
def requestTimeout : Nat := 30

/-- The URL of a configured or derived endpoint. -/
def endpointUrl (endpoint : String) : Except ConfigFault Url :=
  (Url.parse endpoint).mapError (.invalidEndpoint endpoint)

/-- Settings for identities of the node. -/
structure ManagedSettings where
  endpoint : String
  audience : String
  ttl : Duration
  deriving DecidableEq, Repr

def ManagedSettings.forAudience (audience : String) : ManagedSettings :=
  ⟨"http://169.254.169.254/metadata/identity/oauth2/token", audience, .ofSeconds 600⟩

/-- Settings for workloads. -/
structure WorkloadSettings where
  authority : String
  /-- The path below the authority, with a place for the tenant. -/
  tokenPath : String
  assertionFile : String
  audience : String
  deriving DecidableEq, Repr

namespace WorkloadSettings

def forAudience (audience : String) : WorkloadSettings where
  authority := "https://login.microsoftonline.com/"
  tokenPath := "\x7btenant\x7d/oauth2/v2.0/token"
  assertionFile := "/var/run/secrets/azure/tokens/azure-identity-token"
  audience

/-- What a token path holds in the place of the tenant. -/
def tenantPlace : List Char := "\x7btenant\x7d".toList

def scope (s : WorkloadSettings) : String :=
  Text.trimEndChar '/' s.audience ++ "/.default"

def endpointText (s : WorkloadSettings) (tenant : TenantId) : String :=
  let path := Text.replaceAll tenantPlace tenant.text.toList s.tokenPath.toList
  let authority := if s.authority.toList.getLast? = some '/' then s.authority else s.authority ++ "/"
  authority ++ String.ofList (path.dropWhile (· == '/'))

def tokenEndpoint (s : WorkloadSettings) (tenant : TenantId) : Except ConfigFault Url :=
  endpointUrl (s.endpointText tenant)

end WorkloadSettings

/-- Settings for the exchange at a registry. -/
structure ExchangeSettings where
  scheme : String
  deriving DecidableEq, Repr

def ExchangeSettings.default : ExchangeSettings := ⟨"https"⟩

/-- How many requests may be made. -/
structure Limits where
  perSecond : Nat
  /-- How many may be made at once. -/
  burst : Nat
  perSecond_pos : 0 < perSecond
  burst_pos : 0 < burst

namespace Limits

/-- The limits of two numbers, zero being taken for one. -/
def ofNumbers (perSecond burst : Nat) : Limits :=
  ⟨max perSecond 1, max burst 1, by omega, by omega⟩

/-- The limits when nothing else is set. -/
def default : Limits := ofNumbers 1 5

end Limits

end RegistryAuth
