import RegistryAuth.Broker.Call

/-!
# Rounds

Calls that run together are polled in rounds, each call once a round and in the order in which they are
listed, until none of them can go on by itself.
-/

namespace RegistryAuth.Rounds

/-- Polls every call once. -/
def round (s : State) : List Call → State × List Call
  | [] => (s, [])
  | c :: cs =>
    let (s, c) := c.poll s
    let (s, cs) := round s cs
    (s, c :: cs)

/-- Polls calls for some rounds at most. -/
def run : Nat → State → List Call → State × List Call
  | 0, s, cs => (s, cs)
  | n + 1, s, cs =>
    if cs.all (·.isStuck s) then (s, cs)
    else
      let (s, cs) := round s cs
      run n s cs

/-- The number of polls that a reply that has not been sent for can take up. -/
def replyBound (r : Reply) : Nat :=
  r.yields + 2

/-- The number of polls that a call can take up, those for replies to come apart. -/
def callBound (c : Call) : Nat :=
  match c.phase with
  | .running _ _ (.flying reply) => replyBound reply + 8
  | _ => 8

/-- A number of rounds after which no call can go on by itself. -/
def bound (s : State) (cs : List Call) : Nat :=
  (s.replies.map replyBound ++ cs.map callBound).foldl (· + ·) 0

/-- Polls calls until none of them can go on by itself. -/
def complete (s : State) (cs : List Call) : State × List Call :=
  run (bound s cs) s cs

end RegistryAuth.Rounds
