import RegistryAuth.Url.Form

/-!
# Where a request goes

The address of a request is made from an `Url` and meets stricter rules: it names an authority that
can be told apart, and is not too long.  The fragment is left out.
-/

namespace RegistryAuth.Http

/-- Why a part of a request cannot be used. -/
inductive Fault where
  | invalidCharacter
  | invalidAuthority
  | invalidFormat
  | uriTooLong
  | schemeTooLong
  | invalidHeaderName
  | invalidHeaderValue
  | invalidMethod
  deriving DecidableEq, Repr

def Fault.message : Fault → String
  | .invalidCharacter => "invalid uri character"
  | .invalidAuthority => "invalid authority"
  | .invalidFormat => "invalid format"
  | .uriTooLong => "uri too long"
  | .schemeTooLong => "scheme too long"
  | .invalidHeaderName => "invalid HTTP header name"
  | .invalidHeaderValue => "failed to parse header value"
  | .invalidMethod => "invalid HTTP method"

/-- The address of a request. -/
structure Uri where
  scheme : Option (List Char)
  authority : List Char
  path : List Char
  query : Option (List Char)
  deriving DecidableEq, Repr

namespace Uri

/-- The length of the longest address. -/
def maxLength : Nat := 65534

/-- The length of the longest scheme. -/
def maxScheme : Nat := 64

/-- The number of colons that a host in brackets may hold. -/
def maxColons : Nat := 8

def isAuthorityChar (c : Char) : Bool :=
  Text.isLetter c || Text.isDigit c || "!$&'()*+,-.:;=@[]_~".toList.contains c

/-- What has been seen of an authority. -/
structure Seen where
  colons : Nat
  opened : Bool
  closed : Bool
  percent : Bool

/-- Looks at one more character of an authority.  What stands before an `@` or within brackets does not
count. -/
def Seen.push (s : Seen) (c : Char) : Except Fault Seen :=
  if c = ':' then
    if maxColons ≤ s.colons then .error .invalidAuthority else .ok { s with colons := s.colons + 1 }
  else if c = '[' then
    if s.percent ∨ s.opened then .error .invalidAuthority else .ok { s with opened := true }
  else if c = ']' then
    if !s.opened ∨ s.closed then .error .invalidAuthority
    -- Colons and escapes within the brackets are those of an address of version 6.
    else .ok ⟨0, s.opened, true, false⟩
  else if c = '@' then .ok { s with colons := 0, percent := false }
  else if c = '%' then .ok { s with percent := true }
  else if isAuthorityChar c then .ok s
  else .error .invalidCharacter

/-- Checks that an authority has at most one port, closed brackets, and a plain host. -/
def checkAuthority (cs : List Char) : Except Fault Unit := do
  let seen ← cs.foldlM Seen.push ⟨0, false, false, false⟩
  if seen.opened ≠ seen.closed ∨ 1 < seen.colons ∨ cs.getLast? = some '@' ∨ seen.percent then
    .error .invalidAuthority
  else .ok ()

/-- The address of requests to an `Url`.  One without an authority is taken for an authority as a
whole. -/
def ofUrl (u : Url) : Except Fault Uri :=
  if maxLength < u.chars.length then .error .uriTooLong
  else
    match u.authority with
    | some a => do
      if maxScheme < u.scheme.length then .error .schemeTooLong
      else
        checkAuthority a.text
        if a.text = [] then .error .invalidFormat
        else
          let path := u.path.text
          .ok ⟨some u.scheme, a.text, if path = [] then ['/'] else path, u.query⟩
    | none => do
      let (authority, rest) := (u.chars.takeWhile (!endsAuthority ·), u.chars.dropWhile (!endsAuthority ·))
      checkAuthority authority
      if rest = [] then .ok ⟨none, authority, [], none⟩ else .error .invalidFormat
where
  /-- Whether a character ends an authority. -/
  endsAuthority (c : Char) : Bool :=
    c == '/' || c == '?' || c == '#'

def text (uri : Uri) : String :=
  let scheme :=
    match uri.scheme with
    | some s => s ++ "://".toList
    | none => []
  let query :=
    match uri.query with
    | some q => '?' :: q
    | none => []
  String.ofList (scheme ++ uri.authority ++ uri.path ++ query)

end Uri

end RegistryAuth.Http
