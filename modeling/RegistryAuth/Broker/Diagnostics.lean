import RegistryAuth.Broker.Ask

/-!
# Diagnostics

How the parts of a broker are shown to those who run it.  Settings are shown in full; of a cache its
lifetime and size are, and no token ever is.
-/

namespace RegistryAuth

/-- A structure with named fields; more fields may be left out. -/
def shownStructure (name : String) (fields : List (String × String)) (more : Bool) : String :=
  let written := fields.map (fun (field, text) => field ++ ": " ++ text) ++ if more then [".."] else []
  name ++ " \x7b " ++ ", ".intercalate written ++ " \x7d"

def Duration.shown (d : Duration) : String :=
  shownStructure "SignedDuration"
    [("seconds", toString d.wholeSeconds), ("nanoseconds", toString d.subsecond)] false

/-- An entry, with its end as `instant` writes it. -/
def CacheEntry.shown (instant : Instant → String) (e : CacheEntry) : String :=
  shownStructure "CacheEntry" [("token", e.token.shown), ("not_after", instant e.notAfter)] false

def TokenCache.shown (c : TokenCache) : String :=
  shownStructure "TokenCache" [("ttl", c.ttl.shown), ("len", toString c.size)] false

def ManagedSettings.shown (s : ManagedSettings) : String :=
  shownStructure "ManagedIdentityConfig"
    [("endpoint", Text.quote s.endpoint), ("audience", Text.quote s.audience),
      ("cache_ttl", s.ttl.shown)] false

def WorkloadSettings.shown (s : WorkloadSettings) : String :=
  shownStructure "WorkloadIdentityConfig"
    [("authority", Text.quote s.authority), ("token_path", Text.quote s.tokenPath),
      ("assertion_file", Text.quote s.assertionFile), ("audience", Text.quote s.audience)] false

def ExchangeSettings.shown (s : ExchangeSettings) : String :=
  shownStructure "ExchangeConfig" [("scheme", Text.quote s.scheme)] false

def ManagedRetriever.shown (r : ManagedRetriever) (s : State) : String :=
  shownStructure "ManagedIdentityRetriever"
    [("config", r.settings.shown), ("cache", (s.tokens r.cache).shown)] true

def WorkloadRetriever.shown (r : WorkloadRetriever) : String :=
  shownStructure "WorkloadIdentityRetriever" [("config", r.settings.shown)] true

def Retriever.shown (s : State) : Retriever → String
  | .managed r => "ManagedIdentity(" ++ r.shown s ++ ")"
  | .workload r => "WorkloadIdentity(" ++ r.shown ++ ")"

def Exchanger.shown (x : Exchanger) : String :=
  shownStructure "RegistryExchanger" [("config", x.settings.shown)] true

def Authorizer.shown (a : Authorizer) (s : State) : String :=
  shownStructure "Authorizer"
    [("retriever", a.retriever.shown s), ("exchanger", a.exchanger.shown)] false

def transportShown : String :=
  shownStructure "RateLimitedTransport" [] true

/-- The parts that are shown. -/
inductive Part where
  | authorizer
  | managed
  | workload
  | exchanger
  | transport
  | cache
  deriving DecidableEq, Repr

def Broker.shown (b : Broker) (s : State) : Part → String
  | .authorizer => b.authorizer.shown s
  | .managed => b.managed.shown s
  | .workload => b.workload.shown
  | .exchanger => b.exchanger.shown
  | .transport => transportShown
  | .cache => (s.tokens b.cache).shown

end RegistryAuth
