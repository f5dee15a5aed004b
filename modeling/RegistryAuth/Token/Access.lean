import RegistryAuth.Json.Printer
import RegistryAuth.Json.Record

/-!
# Access tokens

A token is a text that nobody looks into without need and that no diagnostics show.
-/

namespace RegistryAuth

open Text (Bytes)

/-- A bearer token. -/
structure AccessToken where
  text : String
  deriving DecidableEq

namespace AccessToken

def redacted : String := "<redacted>"

def shown (_ : AccessToken) : String :=
  "AccessToken(" ++ Text.quote redacted ++ ")"

def shownOnLines (_ : AccessToken) : String :=
  "AccessToken(\n    " ++ Text.quote redacted ++ ",\n)"

def print (t : AccessToken) : String :=
  (Json.string t.text).text

def parse (bs : Bytes) : Except Json.Fault AccessToken :=
  (Json.parseString bs).map (⟨·⟩)

end AccessToken

end RegistryAuth
