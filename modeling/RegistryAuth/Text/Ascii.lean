/-!
# ASCII letters and digits
-/

namespace RegistryAuth.Text

def isDigit (c : Char) : Bool :=
  0x30 ≤ c.toNat && c.toNat ≤ 0x39

def isCapital (c : Char) : Bool :=
  0x41 ≤ c.toNat && c.toNat ≤ 0x5A

def isLetter (c : Char) : Bool :=
  isCapital c || (0x61 ≤ c.toNat && c.toNat ≤ 0x7A)

/-- The small letter of an ASCII capital; every other character is kept. -/
def lowerAscii (c : Char) : Char :=
  if isCapital c then Char.ofNat (c.toNat + 32) else c

def isAscii (c : Char) : Bool :=
  c.toNat < 0x80

end RegistryAuth.Text
