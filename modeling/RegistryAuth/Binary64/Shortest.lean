import RegistryAuth.Binary64.Decimal

/-!
# The shortest decimal

A number of the format is written with the fewest digits that read back as it.  The decimals that
read back are those of an interval around the number, its ends included when the mantissa is even.
For one digit, two digits, and so on, the two decimals of that many digits next to the number are
tried; the first length that has one in the interval wins, and of two the nearer.
-/

namespace RegistryAuth.Binary64

/-- A decimal: its digits as a number, and a power of ten. -/
structure Decimal where
  digits : Nat
  exponent : Int
  deriving DecidableEq, Repr

/-- The interval of the reals that are rounded to a mantissa at an exponent, as numerators over one
denominator: the number itself, its lower end and its upper end. -/
structure Interval where
  value : Nat
  low : Nat
  high : Nat
  den : Nat
  closed : Bool

/-- The interval of a positive number.  Below a power of two the neighbour is nearer by half. -/
def interval (m : Nat) (e : Int) : Interval :=
  let narrow := m = 0x10000000000000 ∧ minExponent < e
  let s := scaled 1 4 (-e)
  ⟨4 * m * s.1, (if narrow then 4 * m - 1 else 4 * m - 2) * s.1, (4 * m + 2) * s.1, s.2, m % 2 = 0⟩

/-- Whether `n` times ten to the power `k` lies in the interval. -/
def Interval.holds (i : Interval) (n : Nat) (k : Int) : Bool :=
  let x := if 0 ≤ k then n * Nat.pow 10 k.toNat * i.den else n * i.den
  let unit := if 0 ≤ k then 1 else Nat.pow 10 (-k).toNat
  if i.closed then i.low * unit ≤ x && x ≤ i.high * unit
  else i.low * unit < x && x < i.high * unit

def leadingPower (num den : Nat) : Int :=
  if den ≤ num then (digitCount (num / den) : Int) - 1
  else -(digitCount ((den - 1) / num) : Int)

/-- The decimal with `count` digits that is nearest to the number among those of the interval. -/
def atLength? (i : Interval) (count : Nat) : Option Decimal :=
  let k := leadingPower i.value i.den - ((count : Int) - 1)
  let num := if 0 ≤ k then i.value else i.value * Nat.pow 10 (-k).toNat
  let den := if 0 ≤ k then i.den * Nat.pow 10 k.toNat else i.den
  let below := num / den
  let r := num % den
  let nearer := roundHalfEven num den
  let other := if nearer = below then below + 1 else below
  if i.holds nearer k then some ⟨nearer, k⟩
  else if r ≠ 0 ∧ i.holds other k then some ⟨other, k⟩
  else none

def Decimal.strip (d : Decimal) : Decimal :=
  go 18 d
where
  go : Nat → Decimal → Decimal
    | 0, d => d
    | n + 1, d => if d.digits ≠ 0 ∧ d.digits % 10 = 0 then go n ⟨d.digits / 10, d.exponent + 1⟩ else d

def shortest (m : Nat) (e : Int) : Decimal :=
  let i := interval m e
  match (List.range 17).findSome? fun n => atLength? i (n + 1) with
  | some d => d.strip
  | none => ⟨0, 0⟩

/-- How a decimal is laid out. -/
structure Layout where
  /-- The least exponent of the leading digit at which the point is written in place. -/
  leastPlain : Int
  /-- The greatest such exponent. -/
  greatestPlain : Int
  /-- The least number of digits of a written exponent. -/
  exponentDigits : Nat

/-- The digits of a number, with zeros in front up to a width. -/
def paddedDigits (width n : Nat) : List Char :=
  let ds := Nat.toDigits 10 n
  List.replicate (width - ds.length) '0' ++ ds

/-- Writes a decimal.  A number in plain form always has a point with a digit on either side. -/
def Layout.write (l : Layout) (d : Decimal) : List Char :=
  let ds := Nat.toDigits 10 d.digits
  let top : Int := ds.length + d.exponent - 1
  if l.leastPlain ≤ top ∧ top ≤ l.greatestPlain then
    if 0 ≤ d.exponent then ds ++ List.replicate d.exponent.toNat '0' ++ ['.', '0']
    else if 0 ≤ top then ds.take (top.toNat + 1) ++ '.' :: ds.drop (top.toNat + 1)
    else '0' :: '.' :: (List.replicate (-top - 1).toNat '0' ++ ds)
  else
    let mantissa :=
      match ds with
      | [d] => [d]
      | d :: rest => d :: '.' :: rest
      | [] => []
    let sign := if 0 ≤ top then '+' else '-'
    mantissa ++ 'e' :: sign :: paddedDigits l.exponentDigits top.natAbs

def Layout.print (l : Layout) : Binary64 → List Char
  | .finite negative m e =>
    let body := if m = 0 then ['0', '.', '0'] else l.write (shortest m e)
    if negative then '-' :: body else body
  | .infinite negative => if negative then "-inf".toList else "inf".toList
  | .notANumber => "NaN".toList

end RegistryAuth.Binary64
