import RegistryAuth.Text.Lowercase
import RegistryAuth.Token.Identifier

/-!
# Selecting an identity

An identity of the node is selected by a client or by a resource, never by both.  Tokens are kept
under the kind of selector and its text in small letters, so that the two kinds never meet.
-/

namespace RegistryAuth

/-- What selects an identity. -/
inductive Selector where
  | client (id : ClientId)
  | resource (id : ResourceId)
  deriving DecidableEq

/-- What a token is kept under. -/
inductive CacheKey where
  | client (text : String)
  | resource (text : String)
  deriving DecidableEq, Repr

def CacheKey.text : CacheKey → String
  | .client s => "client_id:" ++ s
  | .resource s => "mi_res_id:" ++ s

namespace Selector

/-- Why two optional texts select nothing. -/
inductive Fault where
  | missing
  | conflicting
  | invalid (fault : Identifier.Fault)
  deriving DecidableEq, Repr

/-- The selector that two optional texts make; an empty one counts as absent. -/
def ofParts (client resource : Option String) : Except Fault Selector :=
  match client.filter (!·.isEmpty), resource.filter (!·.isEmpty) with
  | some c, none => ((Identifier.ofText .client c).map Selector.client).mapError Fault.invalid
  | none, some r => ((Identifier.ofText .resource r).map Selector.resource).mapError Fault.invalid
  | none, none => .error .missing
  | some _, some _ => .error .conflicting

/-- The name of the parameter that carries the selector in a query. -/
def parameter : Selector → String
  | .client _ => "client_id"
  | .resource _ => "mi_res_id"

def value : Selector → String
  | .client id => id.text
  | .resource id => id.text

def cacheKey : Selector → CacheKey
  | .client id => .client (Text.lowercase id.text)
  | .resource id => .resource (Text.lowercase id.text)

end Selector

end RegistryAuth
