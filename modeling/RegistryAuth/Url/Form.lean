import RegistryAuth.Url.Basic

/-!
# Forms

A form is a list of named texts, written as `name=value` with `&` in between.  Letters, digits and
`*-._` stand for themselves, a plus sign for a blank, and every other byte is percent-encoded.  What
is read back from a written form are the same pairs.
-/

namespace RegistryAuth

open Text (Bytes)

abbrev Form := List (String × String)

namespace Form

def isPlain (c : Char) : Bool :=
  Text.isLetter c || Text.isDigit c || c == '*' || c == '-' || c == '.' || c == '_'

def encodeChar (c : Char) : List Char :=
  if c = ' ' then ['+']
  else if isPlain c then [c]
  else (String.utf8EncodeChar c).flatMap Url.percentByte

def encodeText (s : String) : List Char :=
  s.toList.flatMap encodeChar

def encodePair (pair : String × String) : List Char :=
  encodeText pair.1 ++ '=' :: encodeText pair.2

def encode (form : Form) : List Char :=
  ['&'].intercalate (form.map encodePair)

def decodeText (bs : Bytes) : String :=
  String.ofList (Text.Utf8.decodeLossy
    (Url.percentDecode (bs.map fun b => if b = 0x2B then 0x20 else b)))

/-- The bytes cut at every occurrence of one. -/
def splitBytes (sep : UInt8) (bs : Bytes) : List Bytes :=
  go [] [] bs
where
  go (parts : List Bytes) (part : Bytes) : Bytes → List Bytes
    | [] => (part.reverse :: parts).reverse
    | b :: rest => if b = sep then go (part.reverse :: parts) [] rest else go parts (b :: part) rest

/-- The pair that bytes write; without an equals sign the value is empty. -/
def decodePair (bs : Bytes) : String × String :=
  (decodeText (bs.takeWhile (· != 0x3D)), decodeText ((bs.dropWhile (· != 0x3D)).drop 1))

def decode (bs : Bytes) : Form :=
  ((splitBytes 0x26 bs).filter (· ≠ [])).map decodePair

end Form

def Url.addQuery (u : Url) (form : Form) : Url :=
  let query := u.query.getD []
  { u with query := some (if query = [] then Form.encode form else query ++ '&' :: Form.encode form) }

end RegistryAuth
