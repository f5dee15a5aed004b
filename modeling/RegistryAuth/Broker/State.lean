import RegistryAuth.Broker.Reply
import RegistryAuth.Cache
import RegistryAuth.Files

/-!
# What calls share

Retrievers, exchangers and authorizers hold settings; all that changes while calls run is in one state:
the permits that are left in each bucket, the token caches and their clock, the names whose calls are
cancelled, the files, the replies to come, and the record of everything that has happened, oldest
first.  A record names the call and the operation on whose behalf the thing happened.
-/

namespace RegistryAuth

/-- The clock that a cache reads. -/
inductive Clock where
  /-- A clock that is set by hand. -/
  | manual
  /-- The clock of the machine, which stands still as long as calls are followed. -/
  | machine
  deriving DecidableEq, Repr

/-- A cache with the clock that it reads. -/
structure ClockedCache where
  clock : Clock
  cache : TokenCache

/-! ## Records -/

/-- On whose behalf something happens; nothing beside the call is named outside its operations. -/
structure Origin where
  call : Nat
  operation : Option Operation
  deriving DecidableEq, Repr

/-- Who makes a call. -/
structure Caller where
  /-- The number of the call. -/
  call : Nat
  /-- The name that the call can be cancelled by. -/
  name : String
  /-- Whether time passes while the call waits. -/
  patient : Bool
  deriving DecidableEq, Repr

/-- The origin of what a caller does outside all operations. -/
def Caller.plain (c : Caller) : Origin :=
  ⟨c.call, none⟩

def Caller.within (c : Caller) (op : Operation) : Origin :=
  ⟨c.call, some op⟩

/-- What happens. -/
inductive Event where
  | signal (signal : Signal)
  /-- A permit was taken from a bucket. -/
  | permit (bucket : Nat)
  | sent (request : Http.Request)
  /-- A request got its outcome, with these metadata. -/
  | settled (slot : Http.Slot) (outcome : Except Http.Failure Http.Response)
  /-- A key was looked up in a cache at an instant. -/
  | looked (cache : Nat) (key : CacheKey) (now : Instant) (served : Option AccessToken)
  /-- A token was put into a cache at an instant. -/
  | stored (cache : Nat) (key : CacheKey) (token : AccessToken) (now : Instant)
  /-- The calls of a name were cancelled. -/
  | cancelled (name : String)
  /-- The operation of the record ended with a result. -/
  | ended (result : Except Error AccessToken)

/-- Something that happened. -/
structure Record where
  origin : Origin
  event : Event

/-! ## The state -/

/-- What calls share. -/
structure State where
  /-- The hand-set clock. -/
  clock : Instant
  /-- The clock of the machine. -/
  machine : Instant
  files : Files
  /-- Whether the content of a file is there only at a later poll. -/
  slowFiles : Bool
  cancelled : List String
  permits : Nat → Nat
  caches : Nat → ClockedCache
  /-- Whether the client speaks to no scheme but those of HTTP. -/
  webOnly : Bool
  replies : List Reply
  trace : List Record

namespace State

def isCancelled (s : State) (name : String) : Bool :=
  s.cancelled.contains name

def record (s : State) (o : Origin) (e : Event) : State :=
  { s with trace := s.trace ++ [⟨o, e⟩] }

def signal (s : State) (o : Origin) (signals : List Signal) : State :=
  signals.foldl (fun s x => s.record o (.signal x)) s

def cancel (s : State) (o : Origin) (name : String) : State :=
  { s with cancelled := name :: s.cancelled }.record o (.cancelled name)

/-- Takes a permit from a bucket, if one is left. -/
def takePermit? (s : State) (o : Origin) (bucket : Nat) : Option State :=
  match s.permits bucket with
  | 0 => none
  | n + 1 =>
    some ({ s with permits := fun b => if b = bucket then n else s.permits b }.record o (.permit bucket))

/-! ### Caches -/

def now (s : State) (cache : Nat) : Instant :=
  match (s.caches cache).clock with
  | .manual => s.clock
  | .machine => s.machine

def tokens (s : State) (cache : Nat) : TokenCache :=
  (s.caches cache).cache

def setTokens (s : State) (cache : Nat) (tokens : TokenCache) : State :=
  { s with caches := fun i => if i = cache then ⟨(s.caches i).clock, tokens⟩ else s.caches i }

def lookUp (s : State) (o : Origin) (cache : Nat) (key : CacheKey) : State × Option AccessToken :=
  let now := s.now cache
  let tokens := s.tokens cache
  let (token, left) := tokens.get now key
  let s := (s.setTokens cache left).record o (.looked cache key now token)
  (s.signal o (tokens.signals now key), token)

def store (s : State) (o : Origin) (cache : Nat) (key : CacheKey) (token : AccessToken) : State :=
  let now := s.now cache
  (s.setTokens cache ((s.tokens cache).insert now key token)).record o (.stored cache key token now)

/-- Takes all entries past their end out of a cache: their number. -/
def sweep (s : State) (cache : Nat) : State × Nat :=
  let (dropped, left) := (s.tokens cache).sweep (s.now cache)
  (s.setTokens cache left, dropped)

/-! ### Requests -/

def webSchemes : List (List Char) :=
  ["http".toList, "https".toList]

def canReach (s : State) (uri : Http.Uri) : Bool :=
  !s.webOnly || (uri.scheme.any webSchemes.contains)

/-- What is reported when no reply is left. -/
def exhausted : Http.Failure :=
  .other "script exhausted"

/-- Sends a request: the reply that comes for it. -/
def send (s : State) (o : Origin) (request : Http.Request) : State × Reply :=
  let s := s.record o (.sent request)
  if s.canReach request.uri then
    match s.replies with
    | [] => (s, .failed exhausted)
    | reply :: replies => ({ s with replies }, reply)
  else (s, .failed .builder)

def passing (s : State) (o : Origin) (r : Reply) : State :=
  let s := { s with clock := s.clock.add (r.advance.getD .zero) }
  match r.cancels with
  | some name => s.cancel o name
  | none => s

end State

end RegistryAuth
