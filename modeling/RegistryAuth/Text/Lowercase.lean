import RegistryAuth.Text.CaseTable

/-!
# Lower case

Every character has one lower-case form, a text, but for the Greek capital sigma: at the end of a
word it becomes the final sigma.  A word ends where the next character that is not case-ignorable is
not cased, and it has begun when the last such character before is cased.
-/

namespace RegistryAuth.Text

/-- Whether the first character that is not case-ignorable is cased. -/
def startsCased (cs : List Char) : Bool :=
  match cs.dropWhile caseIgnorableTable.contains with
  | c :: _ => casedTable.contains c
  | [] => false

/-- The lower-case form of a character, out of context. -/
def lowerChar (c : Char) : List Char :=
  if c.toNat < 0x80 then
    if 'A' ≤ c ∧ c ≤ 'Z' then [Char.ofNat (c.toNat + 32)] else [c]
  else (lowerTable.lookup c).getD [c]

/-- The lower-case form of a character between the characters before it, nearest first, and those
after it. -/
def lowerBetween (before : List Char) (c : Char) (after : List Char) : List Char :=
  if c = 'Σ' then
    if startsCased before && !startsCased after then ['ς'] else ['σ']
  else lowerChar c

def lowercase (s : String) : String :=
  String.ofList (go [] [] s.toList)
where
  go (before acc : List Char) : List Char → List Char
    | [] => acc.reverse
    | c :: after => go (c :: before) ((lowerBetween before c after).reverse ++ acc) after

end RegistryAuth.Text
