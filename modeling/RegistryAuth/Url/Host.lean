import RegistryAuth.Idna.Domain
import RegistryAuth.Url.Basic

/-!
# Reading hosts

A host in brackets is an address of version 6.  In a special address any other host is a domain name,
percent-encoded or not, unless it ends in a number and thus is an address of version 4; elsewhere a
host is kept as it is.
-/

namespace RegistryAuth.Url.Host

def ofBrackets (cs : List Char) : Except Fault Host :=
  if cs.getLast? = some ']' then
    match Ipv6.parse? (cs.drop 1).dropLast with
    | some groups => .ok (.ipv6 groups)
    | none => .error .invalidIpv6
  else .error .invalidIpv6

def ofDomain (name : List Char) : Except Fault Host :=
  if name = [] then .error .emptyHost
  else if Ipv4.endsInNumber name then
    match Ipv4.parse? name with
    | some address => .ok (.ipv4 address)
    | none => .error .invalidIpv4
  else .ok (.domain name)

def parse (cs : List Char) : Except Fault Host :=
  if cs.head? = some '[' then ofBrackets cs
  else
    match Idna.toAscii? (percentDecode (Text.Utf8.encode cs)) with
    | some name => ofDomain name
    | none => .error .invalidDomain

/-- Whether a character may not stand in a host that is kept as it is. -/
def isForbidden (c : Char) : Bool :=
  c == '\x00' || "\t\n\r #/:<>?@[\\]^|".toList.contains c

/-- The host of any other address. -/
def parseOpaque (cs : List Char) : Except Fault Host :=
  if cs.head? = some '[' then ofBrackets cs
  else if cs.any isForbidden then .error .invalidDomainCharacter
  else .ok (.domain (percentEncode inControlSet cs))

end RegistryAuth.Url.Host
