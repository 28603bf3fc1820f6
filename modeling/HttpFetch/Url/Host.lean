import HttpFetch.Text.Percent
import HttpFetch.Url.Domain
import HttpFetch.Url.Ipv6
/-!
# Hosts

The host of a web address is a domain name in ASCII form or an address. `Host.read` takes the text
between the user information and the port: brackets mark an IPv6 address, and any other text is
percent-decoded, brought into ASCII form, and taken for an IPv4 address if its last label is a
number.
-/

namespace HttpFetch

/-- Why a text is no URL. -/
inductive UrlFault where
  /-- a web address needs a host -/
  | emptyHost
  /-- the host is no domain name -/
  | domainName
  /-- the port is no number of 16 bits -/
  | port
  | ipv4Address
  | ipv6Address
  /-- a character that the host of any other kind of URL may not hold -/
  | hostCharacter
  /-- a text without a scheme, and nothing to resolve it against -/
  | noBase
  deriving Repr, DecidableEq

/-- The wording of a fault. -/
def UrlFault.message : UrlFault → String
  | .emptyHost => "empty host"
  | .domainName => "invalid international domain name"
  | .port => "invalid port number"
  | .ipv4Address => "invalid IPv4 address"
  | .ipv6Address => "invalid IPv6 address"
  | .hostCharacter => "invalid domain character"
  | .noBase => "relative URL without a base"

/-- The host of a web address. -/
inductive Host where
  /-- a domain name in ASCII form -/
  | domain (name : String)
  | ipv4 (address : Ipv4)
  | ipv6 (address : Ipv6)
  deriving DecidableEq

namespace Host

instance : Inhabited Host := ⟨.domain ""⟩

/-- The host as text, without brackets. -/
def text : Host → String
  | .domain name => name
  | .ipv4 address => address.text
  | .ipv6 address => address.text

/-- The host as it stands in a URL: IPv6 addresses are in brackets. -/
def bracketed : Host → String
  | .ipv6 address => "[" ++ address.text ++ "]"
  | host => host.text

/-- The text inside a pair of brackets around the whole of `cs`. -/
def unbracket? : List Char → Option (List Char)
  | '[' :: rest => if rest.getLast? = some ']' then some rest.dropLast else none
  | _ => none

/-- A host that starts with a bracket. -/
def readBracketed (cs : List Char) : Except UrlFault Host :=
  match (unbracket? cs).bind Ipv6.read? with
  | some address => .ok (.ipv6 address)
  | none => .error .ipv6Address

/-- A host that is no bracketed address. -/
def readName (cs : List Char) : Except UrlFault Host :=
  match (Utf8.decode? (Percent.decode (Utf8.encodeChars cs))).bind
      (fun name => Domain.toAscii? name.toList) with
  | none => .error .domainName
  | some [] => .error .emptyHost
  | some name =>
    if Ipv4.endsInNumber name then
      match Ipv4.readHost? name with
      | some address => .ok (.ipv4 address)
      | none => .error .ipv4Address
    else .ok (.domain (String.ofList name))

/-- The host that a text denotes. -/
def read (cs : List Char) : Except UrlFault Host :=
  if cs.head? = some '[' then readBracketed cs else readName cs

/-- Characters that the host of a URL of an unknown scheme may not hold. -/
def isForbiddenOpaque (c : Char) : Bool :=
  "\x00\t\n\r #/:<>?@[\\]^|".toList.contains c

/-- The fault in the host of a URL of an unknown scheme, if there is one. -/
def opaqueFault? (cs : List Char) : Option UrlFault :=
  if cs.head? = some '[' then
    match readBracketed cs with
    | .ok _ => none
    | .error fault => some fault
  else if cs.any isForbiddenOpaque then some .hostCharacter
  else none

end Host
end HttpFetch
