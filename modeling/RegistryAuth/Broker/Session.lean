import RegistryAuth.Broker.Diagnostics
import RegistryAuth.Broker.Rounds

/-!
# Sessions

A session sets a broker up and takes steps with it: calls, one at a time or several together, moves of
the clock, changes of files, and looks at a cache.  A call that cannot go on by itself is dropped; what it
has done stays.
-/

namespace RegistryAuth

/-- What an authorizer shares with the parts beside it. -/
inductive Assembly where
  /-- It has the very parts. -/
  | shared
  /-- It has a cache of its own, but the same bucket. -/
  | ownCache
  /-- It has a cache and a bucket of its own. -/
  | ownBucket
  deriving DecidableEq, Repr

/-- How a session is set up. -/
structure Setup where
  managed : ManagedSettings
  workload : WorkloadSettings
  exchange : ExchangeSettings
  flow : Flow
  assembly : Assembly
  limits : Limits
  clock : Instant
  machine : Instant
  files : Files
  webOnly : Bool
  replies : List Reply

namespace Setup

/-- The number of the bucket and the cache of the parts that stand by themselves. -/
def main : Nat := 0

def own : Nat := 1

def authorizerBucket (p : Setup) : Nat :=
  match p.assembly with
  | .shared | .ownCache => main
  | .ownBucket => own

def authorizerCache (p : Setup) : Nat :=
  match p.assembly with
  | .shared => main
  | .ownCache | .ownBucket => own

def authorizer (p : Setup) : Authorizer where
  retriever :=
    match p.flow with
    | .managed => .managed ⟨p.managed, p.authorizerBucket, p.authorizerCache⟩
    | .workload => .workload ⟨p.workload, p.authorizerBucket⟩
  exchanger := ⟨p.exchange, p.authorizerBucket⟩

def broker (p : Setup) : Broker where
  bucket := main
  managed := ⟨p.managed, main, main⟩
  workload := ⟨p.workload, main⟩
  exchanger := ⟨p.exchange, main⟩
  authorizer := p.authorizer

/-- The state before anything has happened. -/
def state (p : Setup) : State where
  clock := p.clock
  machine := p.machine
  files := p.files
  slowFiles := false
  cancelled := []
  permits := fun _ => p.limits.burst
  caches := fun i => ⟨if i = main then .manual else .machine, .empty p.managed.ttl⟩
  webOnly := p.webOnly
  replies := p.replies
  trace := []

end Setup

/-- A step of a session. -/
inductive Step where
  | call (name : String) (ask : Ask)
  | together (calls : List (String × Ask))
  | advance (d : Duration)
  | putFile (path : String) (entry : FileEntry)
  | removeFile (path : String)
  | cacheSize
  | cacheSweep
  | cacheGet (client resource : Option String)
  | cacheInsert (client resource : Option String) (token : AccessToken)
  | settings
  | diagnostics (part : Part)

/-- What a step leads to. -/
inductive Report where
  /-- The result of a call, if it did not have to be dropped. -/
  | call (result : Option Result)
  /-- The results of calls, if none had to be dropped. -/
  | calls (results : Option (List Result))
  | nothing
  | clock (now : Instant)
  | size (n : Nat)
  | swept (n : Nat)
  | found (token : Option AccessToken)
  | refused (fault : ConfigFault)
  | settings (broker : Broker) (cache : TokenCache)
  | text (s : String)

/-- A session: the broker, what its calls share, and the number of the next call. -/
structure Session where
  broker : Broker
  state : State
  next : Nat

namespace Session

def ofSetup (p : Setup) : Session :=
  ⟨p.broker, p.state, 0⟩

/-- The calls that are asked for, numbered from the next number. -/
def calls (x : Session) (asks : List (String × Ask)) : List Call :=
  asks.zipIdx.map fun ((name, ask), i) => ask.call x.broker (x.next + i) name

/-- Runs calls together: the results of those that ended. -/
def runCalls (x : Session) (asks : List (String × Ask)) : Session × List (Option Result) :=
  let (state, cs) := Rounds.complete x.state (x.calls asks)
  ({ x with state, next := x.next + asks.length }, cs.map Call.result?)

/-- Who uses a cache beside all calls. -/
def visitor (x : Session) : Origin :=
  ⟨x.next, none⟩

def withKey (x : Session) (client resource : Option String)
    (use : CacheKey → Session × Report) : Session × Report :=
  match Ask.selector client resource with
  | .error fault => (x, .refused fault)
  | .ok selector => use selector.cacheKey

def step (x : Session) : Step → Session × Report
  | .call name ask =>
    let (x, results) := x.runCalls [(name, ask)]
    (x, .call results.head?.join)
  | .together asks =>
    let (x, results) := x.runCalls asks
    (x, .calls (results.mapM id))
  | .advance d =>
    let clock := x.state.clock.add d
    ({ x with state := { x.state with clock } }, .clock clock)
  | .putFile path entry =>
    ({ x with state := { x.state with files := x.state.files.put path entry } }, .nothing)
  | .removeFile path =>
    ({ x with state := { x.state with files := x.state.files.remove path } }, .nothing)
  | .cacheSize => (x, .size (x.state.tokens x.broker.cache).size)
  | .cacheSweep =>
    let (state, n) := x.state.sweep x.broker.cache
    ({ x with state }, .swept n)
  | .cacheGet client resource =>
    x.withKey client resource fun key =>
      let (state, token) := x.state.lookUp x.visitor x.broker.cache key
      ({ x with state, next := x.next + 1 }, .found token)
  | .cacheInsert client resource token =>
    x.withKey client resource fun key =>
      let state := x.state.store x.visitor x.broker.cache key token
      ({ x with state, next := x.next + 1 }, .nothing)
  | .settings => (x, .settings x.broker (x.state.tokens x.broker.cache))
  | .diagnostics part => (x, .text (x.broker.shown x.state part))

/-- Takes steps: what each leads to, and what happens meanwhile. -/
def run (x : Session) : List Step → Session × List (Report × List Event)
  | [] => (x, [])
  | p :: ps =>
    let before := x.state.trace.length
    let (x, report) := x.step p
    let events := (x.state.trace.drop before).map (·.event)
    let (x, reports) := x.run ps
    (x, (report, events) :: reports)

end Session

end RegistryAuth
