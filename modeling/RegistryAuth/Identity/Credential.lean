import RegistryAuth.Identity.Selector

/-!
# Credentials

A caller is known either by an identity of the node or by an application that its cluster vouches
for.  An authorizer serves one of these two flows.
-/

namespace RegistryAuth

/-- How a token for the control plane is had. -/
inductive Flow where
  | managed
  | workload
  deriving DecidableEq, Repr

def Flow.text : Flow → String
  | .managed => "managed identity"
  | .workload => "workload identity"

/-- What a caller wants to have exchanged. -/
inductive Credential where
  /-- An identity of the node; without a tenant, the token tells it. -/
  | managed (selector : Selector) (tenant : Option TenantId)
  | workload (tenant : TenantId) (client : ClientId)
  deriving DecidableEq

def Credential.flow : Credential → Flow
  | .managed .. => .managed
  | .workload .. => .workload

end RegistryAuth
