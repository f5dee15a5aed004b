import RegistryAuth.Text.Utf8

/-!
# Base64url without padding

Three bytes are four symbols of six bits each; one or two bytes at the end are two or three symbols,
whose unused bits are zero.  Decoding takes no padding, and of several faults it reports the first,
but for a symbol outside the alphabet that stands alone at the end.
-/

namespace RegistryAuth.Text.Base64Url

def padding : UInt8 := 0x3D

def symbol (v : Nat) : UInt8 :=
  if v < 26 then (0x41 + v).toUInt8
  else if v < 52 then (0x61 + (v - 26)).toUInt8
  else if v < 62 then (0x30 + (v - 52)).toUInt8
  else if v = 62 then 0x2D
  else 0x5F

def value? (b : UInt8) : Option Nat :=
  if 0x41 ≤ b ∧ b ≤ 0x5A then some (b.toNat - 0x41)
  else if 0x61 ≤ b ∧ b ≤ 0x7A then some (b.toNat - 0x61 + 26)
  else if 0x30 ≤ b ∧ b ≤ 0x39 then some (b.toNat - 0x30 + 52)
  else if b = 0x2D then some 62
  else if b = 0x5F then some 63
  else none

def encode : Bytes → Bytes
  | [] => []
  | [a] => [symbol (a.toNat / 4), symbol (a.toNat % 4 * 16)]
  | [a, b] =>
    [symbol (a.toNat / 4), symbol (a.toNat % 4 * 16 + b.toNat / 16), symbol (b.toNat % 16 * 4)]
  | a :: b :: c :: rest =>
    symbol (a.toNat / 4) :: symbol (a.toNat % 4 * 16 + b.toNat / 16) ::
      symbol (b.toNat % 16 * 4 + c.toNat / 64) :: symbol (c.toNat % 64) :: encode rest

/-- Why symbols encode nothing. -/
inductive Fault where
  | invalidSymbol (b : UInt8) (offset : Nat)
  | invalidLastSymbol (b : UInt8) (offset : Nat)
  | invalidLength (length : Nat)
  | invalidPadding
  deriving DecidableEq, Repr

def Fault.message : Fault → String
  | .invalidSymbol b offset => s!"Invalid symbol {b.toNat}, offset {offset}."
  | .invalidLastSymbol b offset => s!"Invalid last symbol {b.toNat}, offset {offset}."
  | .invalidLength length => s!"Invalid input length: {length}"
  | .invalidPadding => "Invalid padding"

def valueAt (offset : Nat) (b : UInt8) : Except Fault Nat :=
  match value? b with
  | some v => .ok v
  | none => .error (.invalidSymbol b offset)

/-- The byte that joins the low bits of one value and the high bits of the next. -/
def joined (v w shift : Nat) : UInt8 :=
  (v * Nat.pow 2 shift + w / Nat.pow 2 (6 - shift)).toUInt8

def groupBytes (a b c d : Nat) : Bytes :=
  [joined a b 2, joined b c 4, joined c d 6]

/-- The values of the last group, from its place `i` on, up to padding.  Padding may neither begin
before the third place nor be followed by a symbol. -/
def lastValues (offset i : Nat) (padded : Option Nat) : Bytes → Except Fault (List Nat)
  | [] => .ok []
  | b :: rest =>
    if b = padding then
      if i < 2 then .error (.invalidSymbol b (offset + i))
      else lastValues offset (i + 1) (padded.or (some i)) rest
    else
      match padded with
      | some p => .error (.invalidSymbol padding (offset + p))
      | none => do
        let v ← valueAt (offset + i) b
        let vs ← lastValues offset (i + 1) none rest
        return v :: vs

/-- The bytes of the last group, which begins at an offset and has at most four symbols. -/
def lastGroup (offset : Nat) (bs : Bytes) : Except Fault Bytes :=
  match lastValues offset 0 none bs with
  | .error f => .error f
  | .ok vs =>
    match vs with
    | a :: b :: rest =>
      if vs.length ≠ bs.length then .error .invalidPadding
      else
        match rest with
        | [] =>
          if b % 16 = 0 then .ok [joined a b 2]
          else .error (.invalidLastSymbol (symbol b) (offset + 1))
        | [c] =>
          if c % 4 = 0 then .ok [joined a b 2, joined b c 4]
          else .error (.invalidLastSymbol (symbol c) (offset + 2))
        | c :: d :: _ => .ok (groupBytes a b c d)
    | vs => if bs = [] then .ok [] else .error (.invalidLength (offset + vs.length))

def groups (offset : Nat) : Bytes → Except Fault Bytes
  | a :: b :: c :: d :: e :: rest => do
    let a ← valueAt offset a
    let b ← valueAt (offset + 1) b
    let c ← valueAt (offset + 2) c
    let d ← valueAt (offset + 3) d
    let bytes ← groups (offset + 4) (e :: rest)
    return groupBytes a b c d ++ bytes
  | last => lastGroup offset last

/-- A symbol outside the alphabet that makes up the last group by itself. -/
def danglingSymbol? (bs : Bytes) : Option Fault :=
  match bs.getLast? with
  | some b =>
    if bs.length % 4 = 1 ∧ b ≠ padding ∧ value? b = none then
      some (.invalidSymbol b (bs.length - 1))
    else none
  | none => none

def decode (bs : Bytes) : Except Fault Bytes :=
  match danglingSymbol? bs with
  | some f => .error f
  | none => groups 0 bs

end RegistryAuth.Text.Base64Url
