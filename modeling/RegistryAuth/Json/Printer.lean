import RegistryAuth.Json.Basic

/-!
# Printing values

The compact form has no white space.  A string is written as it is but for the quote, the backslash
and the controls; five controls have short escapes and the others four hexadecimal digits.
-/

namespace RegistryAuth.Json

def escapeChar (c : Char) : List Char :=
  if c = '"' then ['\\', '"']
  else if c = '\\' then ['\\', '\\']
  else if c = '\x08' then ['\\', 'b']
  else if c = '\x0c' then ['\\', 'f']
  else if c = '\n' then ['\\', 'n']
  else if c = '\r' then ['\\', 'r']
  else if c = '\t' then ['\\', 't']
  else if c.toNat < 0x20 then
    ['\\', 'u', '0', '0', Text.hexDigit (c.toNat / 16), Text.hexDigit (c.toNat % 16)]
  else [c]

def printString (s : String) : List Char :=
  '"' :: (s.toList.flatMap escapeChar ++ ['"'])

mutual

def print : Json → List Char
  | .null => "null".toList
  | .bool true => "true".toList
  | .bool false => "false".toList
  | .number n => n.text
  | .string s => printString s
  | .array items => '[' :: (printItems items ++ [']'])
  | .object members => '\x7b' :: (printMembers members ++ ['\x7d'])

/-- The items of an array, with commas between them. -/
def printItems : List Json → List Char
  | [] => []
  | [v] => print v
  | v :: rest => print v ++ ',' :: printItems rest

/-- The members of an object, with commas between them. -/
def printMembers : List (String × Json) → List Char
  | [] => []
  | [(name, v)] => printString name ++ ':' :: print v
  | (name, v) :: rest => printString name ++ ':' :: print v ++ ',' :: printMembers rest

end

/-- The compact form of a value, as a string. -/
def text (v : Json) : String :=
  String.ofList (print v)

end RegistryAuth.Json
