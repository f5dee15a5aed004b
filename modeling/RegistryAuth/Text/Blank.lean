/-!
# White space

White space is the Unicode property of that name, 25 code points in all.  Trimming removes leading
and trailing characters of a class and nothing between them.
-/

namespace RegistryAuth.Text

/-- Whether a character has the Unicode property White_Space. -/
def isBlank (c : Char) : Bool :=
  let n := c.toNat
  (0x9 ≤ n && n ≤ 0xD) || n == 0x20 || n == 0x85 || n == 0xA0 || n == 0x1680 ||
    (0x2000 ≤ n && n ≤ 0x200A) || n == 0x2028 || n == 0x2029 || n == 0x202F || n == 0x205F ||
    n == 0x3000

/-- The list without its trailing members of a class. -/
def trimEndWhile {α : Type} (p : α → Bool) (xs : List α) : List α :=
  (xs.reverse.dropWhile p).reverse

/-- The list without its leading and trailing members of a class. -/
def trimWhile {α : Type} (p : α → Bool) (xs : List α) : List α :=
  trimEndWhile p (xs.dropWhile p)

/-- The text without surrounding white space. -/
def trim (s : String) : String :=
  String.ofList (trimWhile isBlank s.toList)

/-- The text without trailing occurrences of one character. -/
def trimEndChar (c : Char) (s : String) : String :=
  String.ofList (trimEndWhile (· == c) s.toList)

/-- The text with every occurrence of a nonempty `pattern` replaced, read from the left. -/
def replaceAll (pattern value : List Char) (cs : List Char) : List Char :=
  go 0 [] cs
where
  /-- `skip` counts the characters of the occurrence just replaced that are still ahead. -/
  go (skip : Nat) (acc : List Char) : List Char → List Char
    | [] => acc.reverse
    | c :: rest =>
      match skip with
      | n + 1 => go n acc rest
      | 0 =>
        if pattern ≠ [] ∧ pattern.isPrefixOf (c :: rest) then
          go (pattern.length - 1) (value.reverse ++ acc) rest
        else go 0 (c :: acc) rest

end RegistryAuth.Text
