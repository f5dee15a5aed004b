import RegistryAuth.Text.PrintTable

/-!
# Quoted text

Diagnostics show text between double quotes.  The quote, the backslash and four controls have short
escapes; a character that cannot be shown on its own is written by its code point in hexadecimal.
-/

namespace RegistryAuth.Text

def hexDigit (d : Nat) : Char :=
  if d < 10 then Char.ofNat (0x30 + d) else Char.ofNat (0x57 + d)

/-- A number in small hexadecimal, without leading zeros. -/
def hexText (n : Nat) : List Char :=
  go [] n
where
  go (acc : List Char) (n : Nat) : List Char :=
    if n < 16 then hexDigit n :: acc else go (hexDigit (n % 16) :: acc) (n / 16)
  termination_by n

/-- Whether a character stands for itself in quoted text. -/
def isShown (c : Char) : Bool :=
  if c.toNat < 0x7F then 0x20 ≤ c.toNat
  else !graphemeExtendTable.contains c && !unprintableTable.contains c

def escapeChar (c : Char) : List Char :=
  if c = '\x00' then ['\\', '0']
  else if c = '\t' then ['\\', 't']
  else if c = '\r' then ['\\', 'r']
  else if c = '\n' then ['\\', 'n']
  else if c = '\\' then ['\\', '\\']
  else if c = '"' then ['\\', '"']
  else if isShown c then [c]
  else ['\\', 'u', '\x7b'] ++ hexText c.toNat ++ ['\x7d']

/-- The text between double quotes, escaped. -/
def quote (s : String) : String :=
  String.ofList ('"' :: (s.toList.flatMap escapeChar ++ ['"']))

end RegistryAuth.Text
