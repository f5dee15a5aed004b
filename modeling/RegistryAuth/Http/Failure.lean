import RegistryAuth.Error

/-!
# Failed requests

A client may fail to get any answer.  What it reports becomes the same error in every flow, with the
metadata that were recorded by then.
-/

namespace RegistryAuth.Http

/-- Why a client got no answer. -/
inductive Failure where
  /-- The client or the request could not be built. -/
  | builder
  | timeout
  | network
  | request (fault : Fault)
  | io (detail : String)
  | other (detail : String)
  deriving DecidableEq, Repr

def status? (slot : Slot) : Option Nat :=
  slot.bind (·.status)

def retryAfter? (slot : Slot) : Option RetryHint :=
  slot.bind (·.retryAfter)

def unexpected (op : Operation) (slot : Slot) (detail : String) : Error :=
  .transient (.endpoint op detail (status? slot) (retryAfter? slot))

def Failure.error (op : Operation) (slot : Slot) : Failure → Error
  | .builder => .config (.clientBuild "")
  | .timeout => unexpected op slot "request timed out"
  | .network => .transport (.network "")
  | .request f => .config (.request f)
  | .io detail => .transport (.io detail)
  | .other detail => unexpected op slot ("HTTP client error: " ++ detail)

/-- The outcome of a request as its sender has it: a response with its metadata, or an error. -/
def delivered (op : Operation) (slot : Slot) (outcome : Except Failure Response) :
    Except Error (Response × Metadata) :=
  match outcome with
  | .error failure => .error (failure.error op slot.take.1)
  | .ok response => .ok (response, slot.take.1.getD .empty)

end RegistryAuth.Http
