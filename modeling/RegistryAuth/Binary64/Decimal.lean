import RegistryAuth.Binary64.Basic
import RegistryAuth.Text.Ascii

/-!
# Reading decimals

A decimal is an optional sign, digits with an optional point among them, and an optional exponent of
ten.  The words `inf`, `infinity` and `nan` are read in any case.  The value is the number of the
format nearest to the decimal.
-/

namespace RegistryAuth.Binary64

def digitsValue (ds : List Char) : Nat :=
  ds.foldl (fun n c => n * 10 + (c.toNat - 0x30)) 0

/-- The number of decimal digits of a natural number; zero has none. -/
def digitCount (n : Nat) : Nat :=
  if n = 0 then 0 else (Nat.toDigits 10 n).length

/-- The number of the format nearest to `n` times ten to the power `e`.  Beyond the bounds that are
asked for first every such number is infinite, or zero. -/
def ofDecimal (negative : Bool) (n : Nat) (e : Int) : Binary64 :=
  let magnitude : Int := digitCount n + e
  if n = 0 ∨ magnitude < -330 then .finite negative 0 minExponent
  else if 310 < magnitude then .infinite negative
  else if 0 ≤ e then nearest negative (n * Nat.pow 10 e.toNat) 1
  else nearest negative n (Nat.pow 10 (-e).toNat)

/-- A sign, and what follows it. -/
def readSign : List Char → Bool × List Char
  | '-' :: rest => (true, rest)
  | '+' :: rest => (false, rest)
  | cs => (false, cs)

/-- The exponent of ten that ends a decimal: nothing, or `e` and a whole number. -/
def readExponent? : List Char → Option Int
  | [] => some 0
  | c :: rest =>
    if c = 'e' ∨ c = 'E' then
      let (negative, ds) := readSign rest
      if ds ≠ [] ∧ ds.all Text.isDigit then
        some (if negative then -(digitsValue ds : Int) else digitsValue ds)
      else none
    else none

/-- The value of a decimal without its sign. -/
def readUnsigned? (negative : Bool) (cs : List Char) : Option Binary64 :=
  let whole := cs.takeWhile Text.isDigit
  let rest := cs.dropWhile Text.isDigit
  let (fraction, rest) :=
    match rest with
    | '.' :: rest => (rest.takeWhile Text.isDigit, rest.dropWhile Text.isDigit)
    | _ => ([], rest)
  if whole = [] ∧ fraction = [] then none
  else
    (readExponent? rest).map fun e =>
      ofDecimal negative (digitsValue (whole ++ fraction)) (e - fraction.length)

def readWord? (negative : Bool) (cs : List Char) : Option Binary64 :=
  let word := String.ofList (cs.map Char.toLower)
  if word = "inf" ∨ word = "infinity" then some (.infinite negative)
  else if word = "nan" then some .notANumber
  else none

/-- The number that a text writes, when it writes one. -/
def parse? (cs : List Char) : Option Binary64 :=
  let (negative, rest) := readSign cs
  match readUnsigned? negative rest with
  | some x => some x
  | none => readWord? negative rest

end RegistryAuth.Binary64
