import RegistryAuth.Settings

/-!
# The parts of a broker

A retriever gets tokens for the control plane in one flow, an exchanger turns them into refresh tokens of
a registry, and an authorizer has one of each.  Parts name the bucket that they take permits from, and
parts made from each other share it; so copies of a part are equal to it.
-/

namespace RegistryAuth

/-- Gets tokens for identities of the node and keeps them in a cache. -/
structure ManagedRetriever where
  settings : ManagedSettings
  bucket : Nat
  cache : Nat

/-- Gets tokens for workloads. -/
structure WorkloadRetriever where
  settings : WorkloadSettings
  bucket : Nat

/-- Exchanges tokens at registries. -/
structure Exchanger where
  settings : ExchangeSettings
  bucket : Nat

/-- Gets tokens in one flow. -/
inductive Retriever where
  | managed (r : ManagedRetriever)
  | workload (r : WorkloadRetriever)

def Retriever.flow : Retriever → Flow
  | .managed _ => .managed
  | .workload _ => .workload

/-- Gets tokens and has them exchanged. -/
structure Authorizer where
  retriever : Retriever
  exchanger : Exchanger

end RegistryAuth
