import RegistryAuth.Text.Ascii
import RegistryAuth.Text.CodeTable

/-!
# Addresses of version 4

A host whose last label is a number is an address, whose numbers may be decimal, octal or hexadecimal;
the last of them fills all the bytes that the others leave.  It is written as four decimal bytes.
-/

namespace RegistryAuth.Url.Ipv4

/-- The number that digits of a base write, if they are digits of it. -/
def number? (base : Nat) (cs : List Char) : Option Nat :=
  cs.foldl
    (fun n c => do
      let n ← n
      let d ← Text.hexValue? c
      if d < base then some (n * base + d) else none)
    (some 0)

/-- The number of a label: `0x` begins a hexadecimal one and `0` an octal one. -/
def labelNumber? : List Char → Option Nat
  | [] => none
  | '0' :: 'x' :: rest | '0' :: 'X' :: rest => number? 16 rest
  | '0' :: c :: rest => number? 8 (c :: rest)
  | cs => number? 10 cs

/-- The labels of a host, without an empty one at the end. -/
def labels (cs : List Char) : List (List Char) :=
  let parts := Text.splitAt '.' cs
  if parts.getLast? = some [] then parts.dropLast else parts

/-- Whether the last label of a host is a number. -/
def endsInNumber (cs : List Char) : Bool :=
  match (labels cs).getLast? with
  | some label => (!label.isEmpty && label.all Text.isDigit) || (labelNumber? label).isSome
  | none => false

/-- The address that numbers stand for: all but the last are single bytes. -/
def assemble? (numbers : List Nat) : Option Nat :=
  match numbers.reverse with
  | [] => none
  | last :: high =>
    -- The last number has the bytes that are left to it.
    if 4 < numbers.length ∨ high.any (255 < ·) ∨ Nat.pow 256 (4 - high.length) ≤ last then none
    else some (high.reverse.foldl (fun n b => n * 256 + b) 0 * Nat.pow 256 (4 - high.length) + last)

def parse? (cs : List Char) : Option Nat := do
  let numbers ← (labels cs).mapM labelNumber?
  assemble? numbers

def text (n : Nat) : List Char :=
  ['.'].intercalate ([n / 0x1000000, n / 0x10000 % 256, n / 256 % 256, n % 256].map (Nat.toDigits 10))

end RegistryAuth.Url.Ipv4
