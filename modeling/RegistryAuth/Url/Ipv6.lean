import RegistryAuth.Text.Quoted
import RegistryAuth.Url.Ipv4

/-!
# Addresses of version 6

Eight groups of up to four hexadecimal digits, separated by colons.  Two colons in a row stand for
groups of zeros, and the last two groups may be written as four decimal bytes.  The written form puts
two colons for the longest run of zeros.
-/

namespace RegistryAuth.Url.Ipv6

/-- The byte that decimal digits write, without leading zeros. -/
def byte? (cs : List Char) : Option Nat :=
  match cs with
  | [] => none
  | c :: rest =>
    if c = '0' ∧ rest ≠ [] then none
    else do
      let n ← Ipv4.number? 10 cs
      if 255 < n then none else some n

/-- The two groups that four decimal bytes stand for. -/
def dotted? (cs : List Char) : Option (Nat × Nat) :=
  match (Text.splitAt '.' cs).mapM byte? with
  | some [a, b, c, d] => some (a * 256 + b, c * 256 + d)
  | _ => none

def isHexDigit (c : Char) : Bool :=
  (Text.hexValue? c).isSome

/-- The groups of an address while it is read: the last one first, and how many there were up to the
group that two colons stand for. -/
structure Groups where
  read : List Nat
  gap : Option Nat

def readGroups? (g : Groups) (cs : List Char) : Option Groups :=
  match cs with
  | [] => some g
  | c :: rest =>
    if g.read.length = 8 then none
    else if c = ':' then
      if g.gap.isSome then none else readGroups? ⟨0 :: g.read, some (g.read.length + 1)⟩ rest
    else
      -- What seemed to be hexadecimal is read once more as decimal when a point follows it.
      let digits := ((c :: rest).take 4).takeWhile isHexDigit
      let n := (Ipv4.number? 16 digits).getD 0
      match _h : (c :: rest).drop digits.length with
      | [] => some ⟨n :: g.read, g.gap⟩
      | ':' :: after => if after = [] then none else readGroups? ⟨n :: g.read, g.gap⟩ after
      | '.' :: _ =>
        if digits = [] ∨ 6 < g.read.length then none
        else (dotted? (c :: rest)).map fun p => ⟨p.2 :: p.1 :: g.read, g.gap⟩
      | _ => none
termination_by cs.length
decreasing_by
  · simp
  · have := congrArg List.length _h
    simp only [List.length_drop, List.length_cons] at this ⊢
    omega

def parse? (cs : List Char) : Option (List Nat) :=
  let start : Option Groups :=
    match cs with
    | ':' :: ':' :: rest => readGroups? ⟨[0], some 1⟩ rest
    | ':' :: _ => none
    | _ => readGroups? ⟨[], none⟩ cs
  match start with
  | none => none
  | some g =>
    let groups := g.read.reverse
    match g.gap with
    | none => if groups.length = 8 then some groups else none
    | some k => some (groups.take k ++ List.replicate (8 - groups.length) 0 ++ groups.drop k)

def leadingZeros (groups : List Nat) : Nat :=
  (groups.takeWhile (· = 0)).length

/-- The place and length of the first of the longest runs of zeros. -/
def longestZeros (groups : List Nat) : Nat × Nat :=
  (List.range groups.length).foldl
    (fun best i => if best.2 < leadingZeros (groups.drop i) then (i, leadingZeros (groups.drop i)) else best)
    (0, 0)

def joined (groups : List Nat) : List Char :=
  [':'].intercalate (groups.map Text.hexText)

def text (groups : List Nat) : List Char :=
  let (start, length) := longestZeros groups
  if length < 2 then joined groups
  else joined (groups.take start) ++ [':', ':'] ++ joined (groups.drop (start + length))

end RegistryAuth.Url.Ipv6
