/-!
# Binary floating point of 64 bits

A finite number is a mantissa times a power of two.  `nearest` rounds a quotient of natural numbers
to the nearest number of the format, a tie to the even mantissa; products, quotients and the reading
of decimals are all this one rounding of an exact value.
-/

namespace RegistryAuth

/-- A number of the 64-bit format. -/
inductive Binary64 where
  /-- The mantissa times two to the exponent, with a sign. -/
  | finite (negative : Bool) (mantissa : Nat) (exponent : Int)
  | infinite (negative : Bool)
  | notANumber
  deriving DecidableEq, Repr

namespace Binary64

/-- The least exponent of two. -/
def minExponent : Int := -1074

/-- The greatest exponent of two with a full mantissa. -/
def maxExponent : Int := 971

/-- The quotient rounded to the nearest whole number, a tie to the even one. -/
def roundHalfEven (num den : Nat) : Nat :=
  let q := num / den
  let r := num % den
  if 2 * r < den then q
  else if den < 2 * r then q + 1
  else if q % 2 = 0 then q else q + 1

/-- The quotient `num / den` scaled by two to the power `-e`, as numerator and denominator. -/
def scaled (num den : Nat) (e : Int) : Nat × Nat :=
  if 0 ≤ e then (num, den * Nat.pow 2 e.toNat) else (num * Nat.pow 2 (-e).toNat, den)

/-- The exponent at which the quotient has a mantissa of 53 bits, or the least exponent. -/
def exponentOf (num den : Nat) : Int :=
  let e : Int := (Nat.log2 num : Int) - (Nat.log2 den : Int) - 53
  let s := scaled num den e
  max minExponent (if 0x20000000000000 ≤ s.1 / s.2 then e + 1 else e)

/-- The number of the format nearest to `num / den`. -/
def nearest (negative : Bool) (num den : Nat) : Binary64 :=
  if num = 0 then .finite negative 0 minExponent
  else
    let e := exponentOf num den
    let s := scaled num den e
    let m := roundHalfEven s.1 s.2
    let (m, e) := if m = 0x20000000000000 then (0x10000000000000, e + 1) else (m, e)
    if maxExponent < e then .infinite negative else .finite negative m e

def ofNat (n : Nat) : Binary64 :=
  nearest false n 1

def isFinite : Binary64 → Bool
  | .finite .. => true
  | _ => false

def isZero : Binary64 → Bool
  | .finite _ m _ => m == 0
  | _ => false

def neg : Binary64 → Binary64
  | .finite s m e => .finite (!s) m e
  | .infinite s => .infinite (!s)
  | .notANumber => .notANumber

/-- The product of two finite numbers, rounded. -/
def mul : Binary64 → Binary64 → Binary64
  | .finite s m e, .finite s' m' e' =>
    let r := scaled (m * m') 1 (-(e + e'))
    nearest (s != s') r.1 r.2
  | .finite s .., .infinite s' => .infinite (s != s')
  | .infinite s, .finite s' .. => .infinite (s != s')
  | .infinite s, .infinite s' => .infinite (s != s')
  | _, _ => .notANumber

/-- The quotient of a finite number by a finite number that is not zero, rounded. -/
def div : Binary64 → Binary64 → Binary64
  | .finite s m e, .finite s' m' e' =>
    if m' = 0 then .notANumber
    else
      let r := scaled m m' (e' - e)
      nearest (s != s') r.1 r.2
  | _, _ => .notANumber

/-- The greatest whole number that is not above a finite number. -/
def floor? : Binary64 → Option Int
  | .finite negative m e =>
    let s := scaled m 1 (-e)
    let n : Int := if negative then -(s.1 : Int) else s.1
    some (n.fdiv s.2)
  | _ => none

end Binary64

end RegistryAuth
