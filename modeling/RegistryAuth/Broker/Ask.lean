import RegistryAuth.Broker.Call

/-!
# Asking a broker

A call is asked for with bare text in the place of identifiers.  The identifiers are looked at when the
call starts, one after the other, and the first that is wrong is what the call ends with.
-/

namespace RegistryAuth

/-- The parts that calls are made of. -/
structure Broker where
  /-- The bucket of plain permits. -/
  bucket : Nat
  managed : ManagedRetriever
  workload : WorkloadRetriever
  exchanger : Exchanger
  authorizer : Authorizer

/-- The cache of the authorizer, or the one beside it if the authorizer has none. -/
def Broker.cache (b : Broker) : Nat :=
  match b.authorizer.retriever with
  | .managed r => r.cache
  | .workload _ => b.managed.cache

/-- A credential in bare text. -/
inductive CredentialText where
  | managed (client resource tenant : Option String)
  | workload (client tenant : String)

/-- What is asked for. -/
inductive Ask where
  | managed (client resource : Option String)
  | workload (client tenant : String)
  | exchange (token : AccessToken) (tenant host : String)
  | exchangeByClaims (token : AccessToken) (host : String)
  | acquireManaged (client resource tenant : Option String) (host : String)
  | acquireWorkload (client tenant host : String)
  | acquire (credential : CredentialText) (host : String)
  | permit
  | throttle (work : Work)
  | cancel

namespace Ask

def identifier (kind : Identifier.Kind) (s : String) : Except ConfigFault (Identifier kind) :=
  (Identifier.ofText kind s).mapError .invalidIdentifier

def selector (client resource : Option String) : Except ConfigFault Selector :=
  (Selector.ofParts client resource).mapError .ofSelector

/-- The tenant that a text names, if there is one. -/
def tenant? (s : Option String) : Except ConfigFault (Option TenantId) :=
  match s with
  | some s => (identifier .tenant s).map some
  | none => .ok none

def credential : CredentialText → Except ConfigFault Credential
  | .managed client resource tenant => do
    let selector ← selector client resource
    let tenant ← tenant? tenant
    return .managed selector tenant
  | .workload client tenant => do
    let tenant ← identifier .tenant tenant
    let client ← identifier .client client
    return .workload tenant client

def command? (b : Broker) : Ask → Except ConfigFault Command
  | .managed client resource => do
    let selector ← selector client resource
    return .stage (.managed b.managed selector)
  | .workload client tenant => do
    let client ← identifier .client client
    let tenant ← identifier .tenant tenant
    return .stage (.workload b.workload client tenant)
  | .exchange token tenant host => do
    let tenant ← identifier .tenant tenant
    return .stage (.exchange b.exchanger token (some tenant) host)
  | .exchangeByClaims token host => return .exchangeByClaims b.exchanger token host
  | .acquireManaged client resource tenant host => do
    let tenant ← tenant? tenant
    let selector ← selector client resource
    return .authorize b.authorizer (.managed selector tenant) host
  | .acquireWorkload client tenant host => do
    let client ← identifier .client client
    let tenant ← identifier .tenant tenant
    return .authorize b.authorizer (.workload tenant client) host
  | .acquire texts host => do
    let credential ← credential texts
    return .authorize b.authorizer credential host
  | .permit => return .permit b.bucket
  | .throttle work => return .throttle b.bucket work
  | .cancel => return .cancel

/-- The command of what is asked for, be it wrong. -/
def command (b : Broker) (a : Ask) : Command :=
  match a.command? b with
  | .ok command => command
  | .error fault => .refuse fault

def call (b : Broker) (id : Nat) (name : String) (a : Ask) : Call :=
  .ofCommand id name (a.command b)

end Ask

end RegistryAuth
