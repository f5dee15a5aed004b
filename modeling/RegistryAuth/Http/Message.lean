import RegistryAuth.Http.Uri
import RegistryAuth.Text.Blank
import RegistryAuth.Time.MailDate

/-!
# Requests and responses

A response may say when a failed request is worth another try: its first `Retry-After` header holds a
number of seconds or a date to come.  The status and that hint are the metadata of a response.
-/

namespace RegistryAuth

open Text (Bytes)

namespace Http

/-- What a request does. -/
inductive Method where
  | get
  | post
  deriving DecidableEq, Repr

def Method.text : Method → String
  | .get => "GET"
  | .post => "POST"

/-- A request; the names of its headers are in small letters. -/
structure Request where
  method : Method
  uri : Uri
  headers : List (String × String)
  body : List Char
  deriving DecidableEq, Repr

def acceptJson : String × String :=
  ("accept", "application/json")

def formContent : String × String :=
  ("content-type", "application/x-www-form-urlencoded")

/-- A response; the names of its headers are in small letters. -/
structure Response where
  status : Nat
  headers : List (String × Bytes)
  body : Bytes
  deriving DecidableEq, Repr

namespace Response

/-- The first value of a header. -/
def header? (r : Response) (name : String) : Option Bytes :=
  (r.headers.find? (·.1 = name)).map (·.2)

def bodyText (r : Response) : String :=
  String.ofList (Text.Utf8.decodeLossy r.body)

def isOk (r : Response) : Bool :=
  r.status == 200

end Response

/-- The text of a header value that holds nothing but visible ASCII, blanks and tabs. -/
def visibleText? (bs : Bytes) : Option (List Char) :=
  if bs.all fun b => b == 0x09 || (0x20 ≤ b && b < 0x7F) then some (bs.map fun b => Char.ofNat b.toNat)
  else none

/-- When to try again. -/
inductive RetryHint where
  | delay (d : Duration)
  | date (t : Instant)
  deriving DecidableEq, Repr

namespace RetryHint

/-- The greatest number of seconds that is read. -/
def maxSeconds : Nat := 0xFFFFFFFFFFFFFFFF

/-- The greatest delay in seconds; a longer one is cut to it. -/
def maxDelay : Nat := 0x7FFFFFFFFFFFFFFF

/-- The number of seconds that digits write, after an optional plus sign. -/
def seconds? (cs : List Char) : Option Nat :=
  let ds :=
    match cs with
    | '+' :: rest => rest
    | _ => cs
  if ds ≠ [] ∧ ds.all Text.isDigit then
    let n := ds.foldl (fun n c => n * 10 + (c.toNat - 0x30)) 0
    if n ≤ maxSeconds then some n else none
  else none

/-- The hint of a header value at an instant; a date that has passed is none. -/
def ofText? (now : Instant) (cs : List Char) : Option RetryHint :=
  match seconds? cs with
  | some n => some (.delay (.ofSeconds (min n maxDelay)))
  | none =>
    match MailDate.parse? cs with
    | some t => if now.before t then some (.date t) else none
    | none => none

def ofResponse? (now : Instant) (r : Response) : Option RetryHint := do
  let value ← r.header? "retry-after"
  let text ← visibleText? value
  ofText? now (Text.trimWhile Text.isBlank text)

end RetryHint

/-- What is kept of a response beside its content. -/
structure Metadata where
  status : Option Nat
  retryAfter : Option RetryHint
  deriving DecidableEq, Repr

/-- The metadata when nothing was recorded. -/
def Metadata.empty : Metadata :=
  ⟨none, none⟩

/-- A place for the metadata of one response. -/
abbrev Slot := Option Metadata

namespace Slot

/-- Puts metadata in the place of what is there. -/
def store (_ : Slot) (metadata : Metadata) : Slot :=
  some metadata

/-- Takes out what is there, and leaves nothing. -/
def take (slot : Slot) : Option Metadata × Slot :=
  (slot, none)

end Slot

end Http

end RegistryAuth
