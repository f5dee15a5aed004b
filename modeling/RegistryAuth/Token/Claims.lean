import RegistryAuth.Binary64.Decimal
import RegistryAuth.Json.Parser
import RegistryAuth.Text.Base64Url
import RegistryAuth.Time.Basic
import RegistryAuth.Token.Access
import RegistryAuth.Token.Identifier

/-!
# Claims

A token may be a compact JWT: three parts with points in between, the middle one a JSON object in
base64url.  Its members are the claims of the token.  Two of them have a meaning here, the tenant and
the expiry; signatures are not looked at.
-/

namespace RegistryAuth

open Text (Bytes)

namespace Claims

/-- Why a claim cannot be had. -/
inductive Fault where
  | missing (claim : String)
  | malformed (claim reason : String)
  deriving DecidableEq, Repr

def Fault.message : Fault → String
  | .missing claim => "Token is missing the `" ++ claim ++ "` claim."
  | .malformed claim reason => "Token claim `" ++ claim ++ "` is malformed: " ++ reason ++ "."

/-- What stands for the claim when there is no payload. -/
def payloadName : String := "payload"

/-- The claims that name the tenant; the first one that is there counts. -/
def tenantNames : List String := ["tid", "tenant"]

def expiryName : String := "exp"

end Claims

/-- The claims of a token, sorted by name. -/
structure Claims where
  members : List (String × Json)

namespace Claims

/-! ## Reading a token -/

def middlePart? (token : List Char) : Option (List Char) :=
  match Text.splitAt '.' token with
  | [_, payload, _] => some payload
  | _ => none

/-- The bytes of a payload; padding at its end does not count. -/
def payloadBytes (payload : List Char) : Except Text.Base64Url.Fault Bytes :=
  Text.Base64Url.decode (Text.Utf8.encode (Text.trimEndWhile (· == '=') payload))

def decode (token : AccessToken) : Except Fault Claims :=
  match middlePart? token.text.toList with
  | none => .error (.malformed payloadName "token is not a compact JWT")
  | some payload =>
    match payloadBytes payload with
    | .error f => .error (.malformed payloadName f.message)
    | .ok bytes =>
      match Json.parseObject bytes with
      | .error e => .error (.malformed payloadName e.fault.message)
      | .ok members => .ok ⟨members⟩

def get? (claims : Claims) (name : String) : Option Json :=
  Json.find? name claims.members

/-! ## The tenant -/

/-- The first of the claims named that is there. -/
def firstOf? (claims : Claims) : List String → Option (String × Json)
  | [] => none
  | name :: rest =>
    match claims.get? name with
    | some v => some (name, v)
    | none => firstOf? claims rest

def tenant (claims : Claims) : Except Fault TenantId :=
  match claims.firstOf? tenantNames with
  | none => .error (.missing "tid")
  | some (name, .string s) => (Identifier.ofText .tenant s).mapError (.malformed name ·.message)
  | some (name, _) => .error (.malformed name "expected a string")

/-! ## The expiry -/

/-- The greatest and the least number of seconds that is asked about. -/
def clampSeconds (n : Int) : Int :=
  max (-0x8000000000000000) (min n 0x7FFFFFFFFFFFFFFF)

def instantOf (seconds : Int) : Except Fault Instant :=
  match Instant.ofSecond? seconds with
  | some t => .ok t
  | none => .error (.malformed expiryName "timestamp out of range")

/-- The instant of a number of seconds that may have a fraction, which is dropped. -/
def instantOfReal (x : Binary64) : Except Fault Instant :=
  match x.floor? with
  | some n => instantOf (clampSeconds n)
  | none => .error (.malformed expiryName "timestamp is not finite")

def typeName : Json → String
  | .null => "null"
  | .bool _ => "bool"
  | .number _ => "number"
  | .string _ => "string"
  | .array _ => "array"
  | .object _ => "object"

/-- When the token expires: a number, or the text of one. -/
def expiry (claims : Claims) : Except Fault Instant :=
  match claims.get? expiryName with
  | none => .error (.missing expiryName)
  | some (.number (.whole n)) =>
    if n < 0x8000000000000000 then instantOf n else instantOfReal (Binary64.ofNat n.toNat)
  | some (.number (.real x)) => instantOfReal x
  | some (.string s) =>
    match Binary64.parse? (Text.trimWhile Text.isBlank s.toList) with
    | some x => instantOfReal x
    | none => .error (.malformed expiryName ("`" ++ s ++ "` is not numeric"))
  | some v => .error (.malformed expiryName ("unexpected JSON type " ++ typeName v))

end Claims

namespace AccessToken

def tenant (token : AccessToken) : Except Claims.Fault TenantId :=
  match Claims.decode token with
  | .ok claims => claims.tenant
  | .error f => .error f

def expiry (token : AccessToken) : Except Claims.Fault Instant :=
  match Claims.decode token with
  | .ok claims => claims.expiry
  | .error f => .error f

/-- The part of an unsigned token that comes first. -/
def unsignedHeader : Bytes :=
  Text.bytesOf "\x7b\"alg\":\"none\",\"typ\":\"JWT\"\x7d"

def placeholderSignature : List Char :=
  "c2lnbmF0dXJl".toList

def base64Text (bs : Bytes) : List Char :=
  (Text.Base64Url.encode bs).map fun b => Char.ofNat b.toNat

def unsigned (payload : Json) : AccessToken :=
  ⟨String.ofList (['.'].intercalate
    [base64Text unsignedHeader, base64Text (Text.Utf8.encode payload.print), placeholderSignature])⟩

end AccessToken

end RegistryAuth
