import RegistryAuth.Identity.Selector

/-!
# Observation

What the broker lets be seen while it works: the beginning of an operation, counts of attempts and
their outcomes, and look-ups in the token cache.  No signal holds a token.
-/

namespace RegistryAuth

/-- The operations that are observed. -/
inductive Operation where
  | managedIdentity
  | workloadIdentity
  | registryExchange
  | acquireWithManagedIdentity
  | acquireWithWorkloadIdentity
  deriving DecidableEq, Repr

namespace Operation

def text : Operation → String
  | .managedIdentity => "managed_identity"
  | .workloadIdentity => "workload_identity"
  | .registryExchange => "registry_exchange"
  | .acquireWithManagedIdentity => "acquire_with_managed_identity"
  | .acquireWithWorkloadIdentity => "acquire_with_workload_identity"

def all : List Operation :=
  [.managedIdentity, .workloadIdentity, .registryExchange, .acquireWithManagedIdentity,
    .acquireWithWorkloadIdentity]

def ofText? (s : String) : Option Operation :=
  all.find? (·.text = s)

def stage : Operation → String
  | .managedIdentity | .workloadIdentity => "acquire_token"
  | .registryExchange => "exchange"
  | .acquireWithManagedIdentity | .acquireWithWorkloadIdentity => "acquire"

end Operation

/-- What is counted of an operation. -/
inductive Outcome where
  | attempt
  | success
  | failure
  deriving DecidableEq, Repr

def Outcome.text : Outcome → String
  | .attempt => "attempt"
  | .success => "success"
  | .failure => "failure"

/-- What a look-up in a cache found. -/
inductive Lookup where
  | hit
  | miss
  | expired
  deriving DecidableEq, Repr

def Lookup.text : Lookup → String
  | .hit => "hit"
  | .miss => "miss"
  | .expired => "expired"

/-- What is seen. -/
inductive Signal where
  | began (operation : Operation)
  | counted (operation : Operation) (outcome : Outcome)
  | lookedUp (key : CacheKey) (found : Lookup)
  | countedLookup (found : Lookup)
  deriving DecidableEq, Repr

end RegistryAuth
