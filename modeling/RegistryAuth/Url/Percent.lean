import RegistryAuth.Text.CodeTable
import RegistryAuth.Text.Utf8

/-!
# Percent-encoding

A byte is written as `%` and two hexadecimal digits.  Each part of an address has its own set of
characters that have to be written so; characters beyond ASCII are in all of them.
-/

namespace RegistryAuth.Url

open Text (Bytes)

def hexDigit (d : Nat) : Char :=
  if d < 10 then Char.ofNat (0x30 + d) else Char.ofNat (0x37 + d)

def percentByte (b : UInt8) : List Char :=
  ['%', hexDigit (b.toNat / 16), hexDigit (b.toNat % 16)]

def percentEncode (set : Char → Bool) (cs : List Char) : List Char :=
  cs.flatMap fun c => if set c then (String.utf8EncodeChar c).flatMap percentByte else [c]

def hexByte? (b : UInt8) : Option Nat :=
  Text.hexValue? (Char.ofNat b.toNat)

/-- The bytes with every percent-encoded byte decoded. -/
def percentDecode (bs : Bytes) : Bytes :=
  go [] bs
where
  go (acc : Bytes) : Bytes → Bytes
    | 0x25 :: h :: l :: rest =>
      match hexByte? h, hexByte? l with
      | some x, some y => go ((x * 16 + y).toUInt8 :: acc) rest
      -- A sign that begins no code stands for itself, and another may follow at once.
      | _, _ => go (0x25 :: acc) (h :: l :: rest)
    | b :: rest => go (b :: acc) rest
    | [] => acc.reverse

/-- Controls and every character beyond ASCII. -/
def inControlSet (c : Char) : Bool :=
  c.toNat < 0x20 || 0x7F ≤ c.toNat

def inFragmentSet (c : Char) : Bool :=
  inControlSet c || c == ' ' || c == '"' || c == '<' || c == '>' || c == '\x60'

def inPathSet (c : Char) : Bool :=
  inFragmentSet c || c == '#' || c == '?' || c == '\x7b' || c == '\x7d'

def inUserSet (c : Char) : Bool :=
  inPathSet c || c == '/' || c == ':' || c == ';' || c == '=' || c == '@' || c == '[' || c == '\\' ||
    c == ']' || c == '^' || c == '|'

/-- The characters that a query may not hold; in a special address it may hold no apostrophe either. -/
def inQuerySet (special : Bool) (c : Char) : Bool :=
  inControlSet c || c == ' ' || c == '"' || c == '#' || c == '<' || c == '>' ||
    (special && c == '\'')

end RegistryAuth.Url
