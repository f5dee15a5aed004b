/-!
# Time

Durations and instants to the nanosecond.  An instant is counted from the beginning of 1970; the
years that can be written with four digits, of either sign, bound what a token's claims and a cache
may name.
-/

namespace RegistryAuth

/-- A span of time in nanoseconds, of either sign. -/
structure Duration where
  nanos : Int
  deriving DecidableEq, Repr

namespace Duration

def perSecond : Int := 1000000000

def ofParts (seconds nanos : Int) : Duration :=
  ⟨seconds * perSecond + nanos⟩

def ofSeconds (seconds : Int) : Duration :=
  ofParts seconds 0

def zero : Duration := ⟨0⟩

/-- The greatest span: the seconds of a signed 64-bit word and all the nanoseconds that fit. -/
def greatest : Duration := ofParts 0x7FFFFFFFFFFFFFFF 999999999

/-- The least span. -/
def least : Duration := ofParts (-0x8000000000000000) (-999999999)

/-- The whole seconds, rounded toward zero. -/
def wholeSeconds (d : Duration) : Int :=
  d.nanos.tdiv perSecond

/-- The nanoseconds beside the whole seconds, of the same sign. -/
def subsecond (d : Duration) : Int :=
  d.nanos.tmod perSecond

/-- The span without its sign taken below zero. -/
def clamped (d : Duration) : Duration :=
  ⟨max d.nanos 0⟩

end Duration

/-- A point in time, in nanoseconds since the beginning of 1970. -/
structure Instant where
  nanos : Int
  deriving DecidableEq, Repr

namespace Instant

def ofSeconds (seconds : Int) : Instant :=
  ⟨seconds * Duration.perSecond⟩

/-- The first second that can be named: the beginning of year -9999. -/
def leastSecond : Int := -377705116800

/-- The last second that can be named: the end of year 9999. -/
def greatestSecond : Int := 253402300799

/-- The last instant that can be named. -/
def greatest : Instant :=
  ⟨greatestSecond * Duration.perSecond + 999999999⟩

/-- The second in which an instant lies. -/
def second (t : Instant) : Int :=
  t.nanos.fdiv Duration.perSecond

def subsecond (t : Instant) : Int :=
  t.nanos.fmod Duration.perSecond

def add (t : Instant) (d : Duration) : Instant :=
  ⟨t.nanos + d.nanos⟩

/-- The instant that a span leads to, but no later than the last one. -/
def addCapped (t : Instant) (d : Duration) : Instant :=
  ⟨min (t.nanos + d.nanos) greatest.nanos⟩

/-- Whether an instant is before another. -/
def before (t u : Instant) : Bool :=
  t.nanos < u.nanos

def ofSecond? (seconds : Int) : Option Instant :=
  if leastSecond ≤ seconds ∧ seconds ≤ greatestSecond then some (ofSeconds seconds) else none

end Instant

end RegistryAuth
