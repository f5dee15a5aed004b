import RegistryAuth.Idna.NormalTable

/-!
# Canonical composition

A text in normal form C: every character is taken apart into its canonical parts, marks that follow a
character are put in the order of their combining classes, and then each mark is joined to the
character before it where a composed character exists and no mark in between blocks it.
-/

namespace RegistryAuth.Idna

/-- The canonical combining class. -/
def combiningClass (c : Char) : Nat :=
  combiningClassTable.value c.toNat

/-! ## Hangul -/

/-- The first of the syllables, and the first leading, vowel and trailing letter; no trailing letter
counts as one. -/
def syllableBase : Nat := 0xAC00

/-- The first leading letter. -/
def leadBase : Nat := 0x1100

/-- The first vowel. -/
def vowelBase : Nat := 0x1161

/-- The code point before the first trailing letter. -/
def tailBase : Nat := 0x11A7

/-- The number of syllables. -/
def syllableCount : Nat := 19 * 21 * 28

/-- The letters of a syllable. -/
def hangulParts? (c : Char) : Option (List Char) :=
  let n := c.toNat - syllableBase
  if syllableBase ≤ c.toNat ∧ n < syllableCount then
    let lead := Char.ofNat (leadBase + n / (21 * 28))
    let vowel := Char.ofNat (vowelBase + n % (21 * 28) / 28)
    let tail := n % 28
    some (if tail = 0 then [lead, vowel] else [lead, vowel, Char.ofNat (tailBase + tail)])
  else none

/-- The syllable of a leading letter and a vowel, or of an open syllable and a trailing letter. -/
def joinHangul? (a b : Char) : Option Char :=
  let lead := a.toNat - leadBase
  let vowel := b.toNat - vowelBase
  let open_ := a.toNat - syllableBase
  let tail := b.toNat - tailBase
  if leadBase ≤ a.toNat ∧ lead < 19 ∧ vowelBase ≤ b.toNat ∧ vowel < 21 then
    some (Char.ofNat (syllableBase + (lead * 21 + vowel) * 28))
  else if syllableBase ≤ a.toNat ∧ open_ < syllableCount ∧ open_ % 28 = 0 ∧
      tailBase < b.toNat ∧ tail < 28 then
    some (Char.ofNat (a.toNat + tail))
  else none

/-! ## Taking apart -/

/-- The parts of a character; only the first of a pair may have parts of its own, and never more than
`depth` times over. -/
def partsWithin (depth : Nat) (c : Char) : List Char :=
  match depth with
  | 0 => [c]
  | depth + 1 =>
    match pairTable.lookup c with
    | some (a :: rest) => partsWithin depth a ++ rest
    | _ => [c]

def parts (c : Char) : List Char :=
  if c.toNat < 0xC0 then [c] else (hangulParts? c).getD (partsWithin 4 c)

/-- Puts each run of marks in the order of their classes; marks of one class keep theirs. -/
def orderMarks (cs : List Char) : List Char :=
  go [] cs
where
  sorted (run : List Char) : List Char :=
    run.reverse.mergeSort fun a b => combiningClass a ≤ combiningClass b
  go (run : List Char) : List Char → List Char
    | [] => sorted run
    | c :: rest => if combiningClass c = 0 then sorted run ++ c :: go [] rest else go (c :: run) rest

/-- The canonical parts of a text, in canonical order. -/
def decompose (cs : List Char) : List Char :=
  orderMarks (cs.flatMap parts)

/-! ## Joining -/

def join? (a b : Char) : Option Char :=
  if b.toNat < 0x80 then none
  else
    (joinHangul? a b).or
      ((pairTable.rows.find? fun row => row.image == [a.toNat, b.toNat]).map fun row =>
        Char.ofNat row.lo)

/-- A text that is being joined. -/
structure Joining where
  /-- What is finished, last character first. -/
  done : List Char
  /-- The character that marks may be joined to. -/
  starter : Option Char
  /-- The marks after it that were not joined, the last first. -/
  marks : List Char

namespace Joining

def finish (j : Joining) : List Char :=
  match j.starter with
  | some s => j.marks ++ s :: j.done
  | none => j.done

def push (j : Joining) (c : Char) : Joining :=
  let k := combiningClass c
  match j.starter with
  | none => if k = 0 then ⟨j.done, some c, []⟩ else ⟨c :: j.done, none, []⟩
  | some s =>
    let blocked :=
      match j.marks with
      | [] => false
      | m :: _ => k ≤ combiningClass m
    match if blocked then none else join? s c with
    | some x => ⟨j.done, some x, j.marks⟩
    | none => if k = 0 then ⟨j.finish, some c, []⟩ else ⟨j.done, some s, c :: j.marks⟩

end Joining

def compose (cs : List Char) : List Char :=
  if cs.all (·.toNat < 0x300) then cs
  else ((decompose cs).foldl Joining.push ⟨[], none, []⟩).finish.reverse

end RegistryAuth.Idna
