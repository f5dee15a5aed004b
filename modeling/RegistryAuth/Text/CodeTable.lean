/-!
# Tables of code points

A property of characters is a sorted list of disjoint ranges of code points, each with a small
number.  Tables are written as text, in hexadecimal: `41-5A` is a range, `B5` a single code point,
and `300-314:230` a range that carries the number 230.  A range without a number carries 1, and a
code point outside every range has the number 0.
-/

namespace RegistryAuth.Text

def hexValue? (c : Char) : Option Nat :=
  let n := c.toNat
  if 0x30 ≤ n ∧ n ≤ 0x39 then some (n - 0x30)
  else if 0x41 ≤ n ∧ n ≤ 0x46 then some (n - 0x37)
  else if 0x61 ≤ n ∧ n ≤ 0x66 then some (n - 0x57)
  else none

/-- The number that the leading hexadecimal digits write, and what follows them. -/
def readHex (cs : List Char) : Nat × List Char :=
  go 0 cs
where
  go (acc : Nat) : List Char → Nat × List Char
    | [] => (acc, [])
    | c :: rest =>
      match hexValue? c with
      | some d => go (acc * 16 + d) rest
      | none => (acc, c :: rest)

/-- Splits text at every occurrence of a character. -/
def splitAt (sep : Char) (cs : List Char) : List (List Char) :=
  go [] [] cs
where
  go (parts : List (List Char)) (part : List Char) : List Char → List (List Char)
    | [] => (part.reverse :: parts).reverse
    | c :: rest => if c = sep then go (part.reverse :: parts) [] rest else go parts (c :: part) rest

def words (text : String) : List (List Char) :=
  (splitAt ' ' (text.toList.map fun c => if c = '\n' then ' ' else c)).filter (· ≠ [])

/-- A range of code points with the number it carries. -/
structure CodeRange where
  lo : Nat
  hi : Nat
  value : Nat
  deriving Inhabited

namespace CodeRange

def ofText (cs : List Char) : CodeRange :=
  let (lo, rest) := readHex cs
  let (hi, rest) :=
    match rest with
    | '-' :: rest => readHex rest
    | _ => (lo, rest)
  match rest with
  | ':' :: rest => ⟨lo, hi, rest.foldl (fun n c => n * 10 + (c.toNat - 0x30)) 0⟩
  | _ => ⟨lo, hi, 1⟩

end CodeRange

/-- A property of code points, as ranges in increasing order. -/
structure CodeTable where
  rows : Array CodeRange

namespace CodeTable

/-- Reads a table from its text: ranges between blanks and line ends. -/
def ofText (text : String) : CodeTable :=
  ⟨(words text).toArray.map CodeRange.ofText⟩

/-- Halves the window `[lo, lo + width)` until one row is left that may hold `n`. -/
def search (rows : Array CodeRange) (n : Nat) (lo width : Nat) : Nat :=
  if width ≤ 1 then
    match rows[lo]? with
    | some row => if row.lo ≤ n ∧ n ≤ row.hi then row.value else 0
    | none => 0
  else
    let half := width / 2
    match rows[lo + half]? with
    | some row => if row.lo ≤ n then search rows n (lo + half) (width - half) else search rows n lo half
    | none => 0
termination_by width
decreasing_by all_goals omega

/-- The number of a code point, 0 outside every range. -/
def value (t : CodeTable) (n : Nat) : Nat :=
  search t.rows n 0 t.rows.size

def contains (t : CodeTable) (c : Char) : Bool :=
  t.value c.toNat ≠ 0

end CodeTable

end RegistryAuth.Text
