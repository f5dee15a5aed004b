/-!
# UTF-8

`encode` writes characters as bytes.  `pieces` reads bytes: it cuts them into the well-formed
sequences, each one character, and the ill-formed ones, each as long as it could still have become a
character.  Strict decoding wants every piece well formed; lossy decoding puts U+FFFD for each
ill-formed piece.  The bytes of the pieces, put together, are the bytes that were cut.
-/

namespace RegistryAuth.Text

abbrev Bytes := List UInt8

namespace Utf8

def encode (cs : List Char) : Bytes :=
  cs.flatMap String.utf8EncodeChar

/-- A stretch of bytes: one character, or bytes that write none. -/
inductive Piece where
  | char (c : Char)
  | illFormed (bs : Bytes)

namespace Piece

/-- The character a piece stands for; U+FFFD where there is none. -/
def shown : Piece → Char
  | .char c => c
  | .illFormed _ => '\uFFFD'

def char? : Piece → Option Char
  | .char c => some c
  | .illFormed _ => none

def bytes : Piece → Bytes
  | .char c => String.utf8EncodeChar c
  | .illFormed bs => bs

end Piece

/-- What a leading byte promises: how many bytes follow it, and the range of the first of them. -/
structure Lead where
  follow : Nat
  lo : Nat
  hi : Nat

/-- The promise of a byte from 80 on, where it can begin a character. -/
def lead? (b : Nat) : Option Lead :=
  if b < 0xC2 then none
  else if b < 0xE0 then some ⟨1, 0x80, 0xBF⟩
  else if b = 0xE0 then some ⟨2, 0xA0, 0xBF⟩
  else if b = 0xED then some ⟨2, 0x80, 0x9F⟩
  else if b < 0xF0 then some ⟨2, 0x80, 0xBF⟩
  else if b = 0xF0 then some ⟨3, 0x90, 0xBF⟩
  else if b < 0xF4 then some ⟨3, 0x80, 0xBF⟩
  else if b = 0xF4 then some ⟨3, 0x80, 0x8F⟩
  else none

/-- Whether a byte continues a character. -/
def isTail (b : UInt8) : Bool :=
  0x80 ≤ b.toNat && b.toNat ≤ 0xBF

def char₂ (b₀ b₁ : UInt8) : Char :=
  Char.ofNat ((b₀.toNat - 0xC0) * 64 + (b₁.toNat - 0x80))

def char₃ (b₀ b₁ b₂ : UInt8) : Char :=
  Char.ofNat (((b₀.toNat - 0xE0) * 64 + (b₁.toNat - 0x80)) * 64 + (b₂.toNat - 0x80))

def char₄ (b₀ b₁ b₂ b₃ : UInt8) : Char :=
  Char.ofNat ((((b₀.toNat - 0xF0) * 64 + (b₁.toNat - 0x80)) * 64 + (b₂.toNat - 0x80)) * 64 +
    (b₃.toNat - 0x80))

/-- Cuts bytes into pieces, from the left. -/
def pieces (bs : Bytes) : List Piece :=
  go [] bs
where
  go (acc : List Piece) : Bytes → List Piece
    | [] => acc.reverse
    | b₀ :: r₀ =>
      if b₀.toNat < 0x80 then go (.char (Char.ofNat b₀.toNat) :: acc) r₀
      else
        match lead? b₀.toNat with
        | none => go (.illFormed [b₀] :: acc) r₀
        | some l =>
          match r₀ with
          | [] => (.illFormed [b₀] :: acc).reverse
          | b₁ :: r₁ =>
            if l.lo ≤ b₁.toNat ∧ b₁.toNat ≤ l.hi then
              if l.follow = 1 then go (.char (char₂ b₀ b₁) :: acc) r₁
              else
                match r₁ with
                | [] => (.illFormed [b₀, b₁] :: acc).reverse
                | b₂ :: r₂ =>
                  if isTail b₂ then
                    if l.follow = 2 then go (.char (char₃ b₀ b₁ b₂) :: acc) r₂
                    else
                      match r₂ with
                      | [] => (.illFormed [b₀, b₁, b₂] :: acc).reverse
                      | b₃ :: r₃ =>
                        if isTail b₃ then go (.char (char₄ b₀ b₁ b₂ b₃) :: acc) r₃
                        else go (.illFormed [b₀, b₁, b₂] :: acc) (b₃ :: r₃)
                  else go (.illFormed [b₀, b₁] :: acc) (b₂ :: r₂)
            else go (.illFormed [b₀] :: acc) (b₁ :: r₁)

/-- The text that bytes write, when all of them are well formed. -/
def decode? (bs : Bytes) : Option (List Char) :=
  (pieces bs).mapM Piece.char?

/-- The text of bytes, with U+FFFD for each ill-formed piece. -/
def decodeLossy (bs : Bytes) : List Char :=
  (pieces bs).map Piece.shown

end Utf8

def bytesOf (s : String) : Bytes :=
  Utf8.encode s.toList

end RegistryAuth.Text
