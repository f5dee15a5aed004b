import RegistryAuth.Broker.Parts
import RegistryAuth.Broker.State
import RegistryAuth.Identity.Managed
import RegistryAuth.Identity.Workload
import RegistryAuth.Registry.Exchange

/-!
# Stages

A stage makes at most one request: it gets a token for the control plane or exchanges one.  It takes a
permit before it sends anything, and whether its call is cancelled is looked at before each wait is
taken up again.  A stage is polled; each poll is one step that nothing else comes between.
-/

namespace RegistryAuth

/-- What is to be got with one request. -/
inductive Stage where
  | managed (r : ManagedRetriever) (selector : Selector)
  | workload (r : WorkloadRetriever) (client : ClientId) (tenant : TenantId)
  | exchange (x : Exchanger) (token : AccessToken) (tenant : Option TenantId) (host : String)

/-- How far a stage has come when it waits. -/
inductive Progress where
  /-- It waits for a file. -/
  | reading
  /-- It waits for a permit to send a request, if that could be made. -/
  | waiting (request : Except Http.Fault Http.Request)
  /-- Its request is under way. -/
  | flying (reply : Reply)
  /-- No reply will come, or none without time. -/
  | hung

/-- What a poll of a stage leads to. -/
inductive Turn where
  | going (progress : Progress)
  | ended (result : Except Error AccessToken)

def Outcome.ofResult {α : Type} : Except Error α → Outcome
  | .ok _ => .success
  | .error _ => .failure

namespace Stage

def operation : Stage → Operation
  | .managed .. => .managedIdentity
  | .workload .. => .workloadIdentity
  | .exchange .. => .registryExchange

def bucket : Stage → Nat
  | .managed r _ => r.bucket
  | .workload r .. => r.bucket
  | .exchange x .. => x.bucket

def readsFile : Stage → Bool
  | .workload .. => true
  | _ => false

/-- The request of a stage.  A workload's assertion and endpoint are looked at first of all, but a request
that they cannot be put into is found out only when it is to be sent. -/
def prepare (files : Files) : Stage → Except Error (Except Http.Fault Http.Request)
  | .managed r selector => ((Managed.request r.settings selector).map .ok).mapError .config
  | .workload r client tenant =>
    (Workload.grant r.settings client tenant (files.read r.settings.assertionFile)).map (·.request)
  | .exchange x token tenant host =>
    ((Registry.request x.settings token tenant host).map .ok).mapError .config

def conclude (slot : Http.Slot) (outcome : Except Http.Failure Http.Response) (g : Stage) :
    Except Error AccessToken :=
  match g with
  | .managed .. => do
    let (response, metadata) ← Http.delivered g.operation slot outcome
    Managed.token response metadata
  -- The identity provider's client reads the response itself.
  | .workload .. => Workload.token outcome slot
  | .exchange .. => do
    let (response, metadata) ← Http.delivered g.operation slot outcome
    Registry.token response metadata

@[simp] theorem conclude_error (g : Stage) (slot : Http.Slot) (failure : Http.Failure) :
    g.conclude slot (.error failure) = .error (failure.error g.operation slot) := by
  cases g <;> rfl

/-- Nothing but a response makes a token. -/
theorem exists_response_of_conclude {g : Stage} {slot : Http.Slot}
    {outcome : Except Http.Failure Http.Response} {token : AccessToken}
    (h : g.conclude slot outcome = .ok token) : ∃ response, outcome = .ok response := by
  cases outcome with
  | error failure => simp at h
  | ok response => exact ⟨response, rfl⟩

theorem conclude_managed (r : ManagedRetriever) (selector : Selector) (slot : Http.Slot)
    (response : Http.Response) : (managed r selector).conclude slot (.ok response) =
      Managed.token response (slot.getD .empty) := rfl

theorem conclude_exchange (x : Exchanger) (token : AccessToken) (tenant : Option TenantId) (host : String)
    (slot : Http.Slot) (response : Http.Response) : (exchange x token tenant host).conclude slot
      (.ok response) = Registry.token response (slot.getD .empty) := rfl

def keep (g : Stage) (s : State) (o : Origin) (result : Except Error AccessToken) : State :=
  match g, result with
  | .managed r selector, .ok token => s.store o r.cache selector.cacheKey token
  | _, _ => s

section Polls

variable (g : Stage) (c : Caller)

def origin : Origin :=
  c.within g.operation

def finish (s : State) (result : Except Error AccessToken) : State × Turn :=
  ((s.signal (g.origin c) [.counted g.operation (.ofResult result)]).record (g.origin c)
    (.ended result), .ended result)

def pollReply (s : State) (reply : Reply) : State × Turn :=
  match reply.yields with
  | n + 1 => (s, .going (.flying (reply.later n)))
  | 0 =>
    let o := g.origin c
    -- The flight of a reply may move the clock, so it comes before the token is kept.
    let s := s.passing o reply
    if reply.coming.reaches c.patient then
      let result := g.conclude reply.slot reply.outcome
      let s := s.record o (.settled reply.slot reply.outcome)
      g.finish c (g.keep s o result) result
    else (s, .going .hung)

/-- Looks for a permit, and sends the request with it. -/
def pollPermit (s : State) (request : Except Http.Fault Http.Request) : State × Turn :=
  if s.isCancelled c.name then g.finish c s (.error .rateLimitCancelled)
  else
    match s.takePermit? (g.origin c) g.bucket with
    | none => (s, .going (.waiting request))
    | some s =>
      -- The permit is spent even when the request turns out to be none.
      match request with
      | .error fault => g.finish c s (.error ((Workload.notMade fault).error none))
      | .ok request =>
        let (s, reply) := s.send (g.origin c) request
        g.pollReply c s reply

def enter (s : State) : State × Turn :=
  match g.prepare s.files with
  | .error e => g.finish c s (.error e)
  | .ok request => g.pollPermit c s request

def lookUp (s : State) : State × Option AccessToken :=
  match g with
  | .managed r selector => s.lookUp (g.origin c) r.cache selector.cacheKey
  | _ => (s, none)

/-- The first poll of a stage. -/
def start (s : State) : State × Turn :=
  let s := s.signal (g.origin c) [.began g.operation, .counted g.operation .attempt]
  match g.lookUp c s with
  | (s, some token) => g.finish c s (.ok token)
  | (s, none) => if g.readsFile && s.slowFiles then (s, .going .reading) else g.enter c s

def resume (s : State) : Progress → State × Turn
  -- Nothing is told to a stage while it waits for a file.
  | .reading => if s.slowFiles then (s, .going .reading) else g.enter c s
  | .waiting request => g.pollPermit c s request
  | .flying reply =>
    -- What is told now ends the stage, though its reply may have come.
    if s.isCancelled c.name then g.finish c s (.error .cancelled) else g.pollReply c s reply
  | .hung =>
    if s.isCancelled c.name then g.finish c s (.error .cancelled) else (s, .going .hung)

def isStuck (s : State) : Progress → Bool
  | .reading => s.slowFiles
  | .waiting _ => !s.isCancelled c.name && s.permits g.bucket == 0
  | .flying _ => false
  | .hung => !s.isCancelled c.name

end Polls

end Stage

end RegistryAuth
