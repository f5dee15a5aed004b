import RegistryAuth.Url.Ipv6
import RegistryAuth.Url.Percent

/-!
# Addresses

An address in its parts.  The parts are held in their written form: percent-encoded, the scheme and
the host in small letters, a default port left out.  `Url.text` puts them together.
-/

namespace RegistryAuth

namespace Url

/-- Why a text is no address. -/
inductive Fault where
  | noScheme
  | emptyHost
  | invalidDomain
  | invalidDomainCharacter
  | invalidPort
  | invalidIpv4
  | invalidIpv6
  deriving DecidableEq, Repr

def Fault.message : Fault → String
  | .noScheme => "relative URL without a base"
  | .emptyHost => "empty host"
  | .invalidDomain => "invalid international domain name"
  | .invalidDomainCharacter => "invalid domain character"
  | .invalidPort => "invalid port number"
  | .invalidIpv4 => "invalid IPv4 address"
  | .invalidIpv6 => "invalid IPv6 address"

/-- The host of an address; without one, its name is empty. -/
inductive Host where
  | domain (name : List Char)
  | ipv4 (address : Nat)
  | ipv6 (groups : List Nat)
  deriving DecidableEq, Repr

def Host.text : Host → List Char
  | .domain name => name
  | .ipv4 address => Ipv4.text address
  | .ipv6 groups => '[' :: (Ipv6.text groups ++ [']'])

/-- Who and where: what stands between `//` and the path. -/
structure Authority where
  username : List Char
  /-- A password is not empty. -/
  password : Option (List Char)
  host : Host
  port : Option Nat
  deriving DecidableEq, Repr

def Authority.text (a : Authority) : List Char :=
  let password :=
    match a.password with
    | some p => ':' :: p
    | none => []
  let user := a.username ++ password
  let port :=
    match a.port with
    | some p => ':' :: Nat.toDigits 10 p
    | none => []
  user ++ (if user = [] then [] else ['@']) ++ a.host.text ++ port

/-- A path: a text that is not looked into, or segments. -/
inductive Path where
  | opaqueText (cs : List Char)
  | segments (parts : List (List Char))
  deriving DecidableEq, Repr

/-- The written form of a path; every segment follows a slash. -/
def Path.text : Path → List Char
  | .opaqueText cs => cs
  | .segments parts => parts.flatMap ('/' :: ·)

/-- How the parts of an address are read, which hangs on its scheme. -/
inductive SchemeKind where
  | file
  /-- A scheme whose addresses have a host. -/
  | special
  | other
  deriving DecidableEq, Repr

def schemeKind (scheme : List Char) : SchemeKind :=
  if scheme = "file".toList then .file
  else if ["http", "https", "ws", "wss", "ftp"].contains (String.ofList scheme) then .special
  else .other

/-- Whether addresses of a kind may be written with backslashes for slashes. -/
def SchemeKind.isSpecial (kind : SchemeKind) : Bool :=
  kind != .other

/-- The port that a scheme has without saying so. -/
def defaultPort? (scheme : List Char) : Option Nat :=
  if scheme = "http".toList ∨ scheme = "ws".toList then some 80
  else if scheme = "https".toList ∨ scheme = "wss".toList then some 443
  else if scheme = "ftp".toList then some 21
  else none

end Url

open Url in
/-- An address. -/
structure Url where
  scheme : List Char
  authority : Option Authority
  path : Path
  query : Option (List Char)
  fragment : Option (List Char)
  deriving DecidableEq, Repr

namespace Url

/-- The host of an address, if it has one. -/
def host? (u : Url) : Option Host :=
  match u.authority with
  | some a => if a.host = .domain [] then none else some a.host
  | none => none

/-- What stands before the path.  Where there is no authority, a path that begins with two slashes
would be taken for one, and is set off by a segment of its own. -/
def front (u : Url) : List Char :=
  u.scheme ++ ':' ::
    (match u.authority with
    | some a => '/' :: '/' :: a.text
    | none => if "//".toList.isPrefixOf u.path.text then ['/', '.'] else [])

/-- The query and the fragment, each after its mark. -/
def back (u : Url) : List Char :=
  (match u.query with
    | some q => '?' :: q
    | none => []) ++
  (match u.fragment with
    | some f => '#' :: f
    | none => [])

def chars (u : Url) : List Char :=
  u.front ++ u.path.text ++ u.back

/-- The written form of an address, as a string. -/
def text (u : Url) : String :=
  String.ofList u.chars

end Url

end RegistryAuth
