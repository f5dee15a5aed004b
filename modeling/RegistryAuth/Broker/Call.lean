import RegistryAuth.Broker.Stage

/-!
# Calls

A call is one stage, or the two stages of an authorizer in turn, or a plain use of a bucket.  It runs
under a name that it can be cancelled by.  Each poll takes it as far as it comes without waiting; what
it ends with stays.
-/

namespace RegistryAuth

/-- How work under a permit ends. -/
inductive Ending where
  | success
  | failure
  | never
  deriving DecidableEq, Repr

/-- Work that is done under a permit. -/
structure Work where
  /-- Whether it begins by cancelling its own call. -/
  cancels : Bool
  /-- Whether it waits for one poll. -/
  suspends : Bool
  ending : Ending
  deriving DecidableEq, Repr

/-- What a call is to do. -/
inductive Command where
  | stage (g : Stage)
  /-- Exchanges a token for the tenant that it tells itself. -/
  | exchangeByClaims (x : Exchanger) (token : AccessToken) (host : String)
  | authorize (a : Authorizer) (credential : Credential) (host : String)
  | permit (bucket : Nat)
  | throttle (bucket : Nat) (work : Work)
  | cancel
  /-- The input of the call is wrong. -/
  | refuse (fault : ConfigFault)

/-- Whether time passes while a command waits: reading a file takes time, so it does where one is read. -/
def Command.isPatient : Command → Bool
  | .stage (.workload ..) | .authorize _ (.workload ..) _ => true
  | _ => false

/-- What a call ends with. -/
inductive Result where
  | token (result : Except Error AccessToken)
  | plain (result : Except Error Unit)
  /-- Work ended, or was not even begun. -/
  | worked (began : Bool) (result : Except Error Unit)

/-- What the token of a stage is for. -/
inductive Purpose where
  | result
  /-- It is to be exchanged, for a tenant if one is named. -/
  | retrieval (operation : Operation) (x : Exchanger) (tenant : Option TenantId) (host : String)
  /-- It is the result of an authorizer. -/
  | exchange (operation : Operation)

/-- How far a call has come. -/
inductive Phase where
  | ready (command : Command)
  | running (purpose : Purpose) (g : Stage) (progress : Progress)
  | working (ending : Ending)
  | done (result : Result)

/-- A call. -/
structure Call where
  caller : Caller
  phase : Phase

namespace Call

def ofCommand (id : Nat) (name : String) (command : Command) : Call :=
  ⟨⟨id, name, command.isPatient⟩, .ready command⟩

def result? (c : Call) : Option Result :=
  match c.phase with
  | .done result => some result
  | _ => none

section Polls

variable (c : Caller)

/-! ## Authorizers -/

def operationOf : Credential → Operation
  | .managed .. => .acquireWithManagedIdentity
  | .workload .. => .acquireWithWorkloadIdentity

def tenantOf : Credential → Option TenantId
  | .managed _ tenant => tenant
  | .workload tenant _ => some tenant

/-- The stage that gets a token for a credential, if the retriever serves its flow. -/
def retrieval? : Retriever → Credential → Option Stage
  | .managed r, .managed selector _ => some (.managed r selector)
  | .workload r, .workload tenant client => some (.workload r client tenant)
  | _, _ => none

def finish (s : State) (op : Operation) (result : Except Error AccessToken) : State × Phase :=
  let outcome := result.mapError (.operation op)
  ((s.signal (c.within op) [.counted op (.ofResult result)]).record (c.within op) (.ended outcome),
    .done (.token outcome))

/-- Goes on after a poll of the last stage of a purpose. -/
def last (purpose : Purpose) (g : Stage) : State × Turn → State × Phase
  | (s, .going progress) => (s, .running purpose g progress)
  | (s, .ended result) =>
    match purpose with
    | .result => (s, .done (.token result))
    | .retrieval op .. | .exchange op => finish c s op result

def exchangeStage (x : Exchanger) (tenant : Option TenantId) (host : String) (token : AccessToken) :
    Stage :=
  .exchange x token (tenant <|> token.tenant.toOption) host

/-- Goes on after a poll of a stage: a token that was retrieved is exchanged. -/
def proceed (purpose : Purpose) (g : Stage) (turn : State × Turn) : State × Phase :=
  match purpose, turn with
  | .retrieval op x tenant host, (s, .ended (.ok token)) =>
    -- The exchange begins in the poll in which the retrieval ended.
    let g := exchangeStage x tenant host token
    last c (.exchange op) g (g.start c s)
  | purpose, turn => last c purpose g turn

def authorize (s : State) (a : Authorizer) (credential : Credential) (host : String) :
    State × Phase :=
  let op := operationOf credential
  let s := s.signal (c.within op) [.began op, .counted op .attempt]
  match retrieval? a.retriever credential with
  -- The operation has begun by then and is counted as a failure.
  | none => finish c s op (.error (.config (.flowMismatch a.retriever.flow credential.flow)))
  | some g =>
    proceed c (.retrieval op a.exchanger (tenantOf credential) host) g (g.start c s)

/-! ## Permits -/

/-- Takes a permit, or goes on waiting for one. -/
def acquire (s : State) (bucket : Nat) (waiting : Phase) (refused : Error → Phase)
    (granted : State → State × Phase) : State × Phase :=
  if s.isCancelled c.name then (s, refused .rateLimitCancelled)
  else
    match s.takePermit? c.plain bucket with
    | none => (s, waiting)
    | some s => granted s

def endWork : Ending → Phase
  | .success => .done (.worked true (.ok ()))
  | .failure => .done (.worked true (.error (.config .missingSelector)))
  | .never => .working .never

/-- The first poll of work. -/
def beginWork (work : Work) (s : State) : State × Phase :=
  let s := if work.cancels then s.cancel c.plain c.name else s
  (s, if work.suspends then .working work.ending else endWork work.ending)

/-! ## Polls -/

/-- The first poll of a call, which is repeated as long as it waits for a plain permit. -/
def start (s : State) : Command → State × Phase
  | .stage g => proceed c .result g (g.start c s)
  | .exchangeByClaims x token host =>
    match token.tenant with
    | .error fault => (s, .done (.token (.error (.claim fault))))
    | .ok tenant =>
      let g := Stage.exchange x token (some tenant) host
      proceed c .result g (g.start c s)
  | .authorize a credential host => authorize c s a credential host
  | .permit bucket =>
    acquire c s bucket (.ready (.permit bucket)) (fun e => .done (.plain (.error e)))
      fun s => (s, .done (.plain (.ok ())))
  | .throttle bucket work =>
    acquire c s bucket (.ready (.throttle bucket work))
      (fun e => .done (.worked false (.error e))) (beginWork c work)
  | .cancel => (s.cancel c.plain c.name, .done (.plain (.ok ())))
  | .refuse fault => (s, .done (.token (.error (.config fault))))

end Polls

def poll (s : State) (c : Call) : State × Call :=
  let (s, phase) :=
    match c.phase with
    | .ready command => start c.caller s command
    | .running purpose g progress =>
      proceed c.caller purpose g (g.resume c.caller s progress)
    | .working ending =>
      if s.isCancelled c.caller.name then (s, .done (.worked true (.error .cancelled)))
      else (s, endWork ending)
    | .done result => (s, .done result)
  (s, { c with phase })

def isStuck (s : State) (c : Call) : Bool :=
  match c.phase with
  | .ready (.permit bucket) | .ready (.throttle bucket _) =>
    !s.isCancelled c.caller.name && s.permits bucket == 0
  | .ready _ => false
  | .running _ g progress => g.isStuck c.caller s progress
  | .working .never => !s.isCancelled c.caller.name
  | .working _ => false
  | .done _ => true

end Call

end RegistryAuth
