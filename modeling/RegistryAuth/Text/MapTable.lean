import RegistryAuth.Text.CodeTable

/-!
# Tables of character mappings

A mapping of characters is a sorted list of rows.  In the written form `41-5A>61` sends the range
onto the range that begins at 61, `100-12E/101` does so for every second code point, `3D2-3D4=3C5`
sends all of the range to one code point, and `DF>73,73` sends a single code point to a text.
-/

namespace RegistryAuth.Text

/-- How a row finds the image of a code point. -/
inductive MapKind where
  /-- By the same distance for the whole range. -/
  | shift
  /-- By the same distance for every second code point of the range. -/
  | alternate
  /-- By one fixed text. -/
  | constant
  deriving DecidableEq, Inhabited

/-- A range of code points that are mapped alike. -/
structure MapRow where
  lo : Nat
  hi : Nat
  kind : MapKind
  image : List Nat
  deriving Inhabited

namespace MapRow

def ofText (cs : List Char) : MapRow :=
  let (lo, rest) := readHex cs
  let (hi, rest) :=
    match rest with
    | '-' :: rest => readHex rest
    | _ => (lo, rest)
  let kind : MapKind :=
    match rest with
    | '/' :: _ => .alternate
    | '=' :: _ => .constant
    | _ => .shift
  ⟨lo, hi, kind, (splitAt ',' (rest.drop 1)).map fun part => (readHex part).1⟩

/-- The image of a code point, when the row maps it. -/
def image? (row : MapRow) (n : Nat) : Option (List Nat) :=
  if n < row.lo ∨ row.hi < n then none
  else
    match row.kind, row.image with
    | .constant, image => some image
    | .alternate, [m] => if (n - row.lo) % 2 = 0 then some [m + (n - row.lo)] else none
    | _, [m] => some [m + (n - row.lo)]
    | _, image => some image

end MapRow

/-- A mapping of characters to texts, as rows in increasing order. -/
structure MapTable where
  rows : Array MapRow

namespace MapTable

/-- Reads a table from its text: rows separated by single blanks. -/
def ofText (text : String) : MapTable :=
  ⟨(words text).toArray.map MapRow.ofText⟩

/-- Halves the window `[lo, lo + width)` until one row is left that may map `n`. -/
def search (rows : Array MapRow) (n : Nat) (lo width : Nat) : Option (List Nat) :=
  if width ≤ 1 then
    match rows[lo]? with
    | some row => row.image? n
    | none => none
  else
    let half := width / 2
    match rows[lo + half]? with
    | some row => if row.lo ≤ n then search rows n (lo + half) (width - half) else search rows n lo half
    | none => none
termination_by width
decreasing_by all_goals omega

/-- The text that the table sends a character to, when it maps it. -/
def lookup (t : MapTable) (c : Char) : Option (List Char) :=
  (search t.rows c.toNat 0 t.rows.size).map (·.map Char.ofNat)

end MapTable

end RegistryAuth.Text
