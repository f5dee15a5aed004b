import RegistryAuth.Http.Failure

/-!
# Replies

What comes back for a request that was sent: after some polls, perhaps only with time and perhaps never,
a response or the report of a failure, with the metadata that were recorded by then.  While it is under
way the clock may be moved and a call be cancelled.
-/

namespace RegistryAuth

open Text (Bytes)

/-- When a reply comes for which enough polls have been made. -/
inductive Coming where
  | atOnce
  /-- It comes to those for whom time passes. -/
  | withTime
  | never
  deriving DecidableEq, Repr

/-- Whether the reply comes, for one for whom time passes or does not. -/
def Coming.reaches (patient : Bool) : Coming → Bool
  | .atOnce => true
  | .withTime => patient
  | .never => false

/-- What comes back for a request. -/
structure Reply where
  /-- The number of polls that find nothing yet. -/
  yields : Nat
  /-- How far the clock is moved on the way. -/
  advance : Option Duration
  /-- Whose calls are cancelled on the way. -/
  cancels : Option String
  coming : Coming
  slot : Http.Slot
  outcome : Except Http.Failure Http.Response

namespace Reply

def ofOutcome (slot : Http.Slot) (outcome : Except Http.Failure Http.Response) : Reply :=
  ⟨0, none, none, .atOnce, slot, outcome⟩

/-- The reply to a request that fails without leaving. -/
def failed (failure : Http.Failure) : Reply :=
  ofOutcome none (.error failure)

/-- What becomes of a reply when one more poll has found nothing. -/
def later (r : Reply) (yields : Nat) : Reply :=
  { r with yields }

end Reply

/-! ## Answers of a server -/

/-- How a server may leave a request. -/
inductive Break where
  /-- The connection is closed without an answer. -/
  | closed
  /-- No answer comes in time. -/
  | silent
  /-- The body does not come in time. -/
  | stalled
  /-- The connection is closed within the body. -/
  | truncated
  deriving DecidableEq, Repr

/-- What a server sends. -/
structure Answer where
  response : Http.Response
  broken : Option Break
  deriving DecidableEq, Repr

namespace Answer

/-- A header value without the blanks and tabs around it. -/
def trimHeader (value : Bytes) : Bytes :=
  Text.trimWhile (fun b => b == 0x20 || b == 0x09) value

/-- Whether a status comes without a body. -/
def isBodiless (status : Nat) : Bool :=
  status == 204 || status == 304

def received (a : Answer) : Http.Response where
  status := a.response.status
  headers := a.response.headers.map fun (name, value) => (name, trimHeader value)
  body := if isBodiless a.response.status then [] else a.response.body

/-- The metadata of the response that a client reads at an instant. -/
def metadata (a : Answer) (now : Instant) : Http.Metadata :=
  ⟨some a.response.status, Http.RetryHint.ofResponse? now a.received⟩

/-- What the client reports at an instant; metadata are recorded when the headers are there. -/
def reply (a : Answer) (now : Instant) : Reply :=
  match a.broken with
  | none => .ofOutcome (some (a.metadata now)) (.ok a.received)
  | some .closed => .failed .network
  | some .silent => .failed .timeout
  | some .stalled => .ofOutcome (some (a.metadata now)) (.error .timeout)
  | some .truncated => .ofOutcome (some (a.metadata now)) (.error .network)

end Answer

end RegistryAuth
