import HttpFetch.Text.Ascii
import HttpFetch.Text.Quoted
import HttpFetch.Text.Utf8
import HttpFetch.Tls.ServerName
/-!
# Certificates

A certificate is made out to a name and signed by a root. It is accepted if the root is trusted and
the name is that of the server, in this order.
-/

namespace HttpFetch

/-- The certificate of a server. -/
structure Certificate where
  /-- to whom it is made out: an address or a DNS name, whose first label may be `*` -/
  subject : String
  /-- the root that has signed it, in DER form -/
  issuer : Bytes
  /-- how many certificates of the chain are presented with it -/
  companions : Nat := 0
  deriving DecidableEq

namespace Certificate

/-- The address a certificate is made out to, if it is one. -/
def address? (subject : String) : Option ServerName :=
  match Ipv4.readDotted? subject.toList with
  | some address => some (.ipv4 address)
  | none => (Ipv6.read? subject.toList).map .ipv6

/-- Whether a DNS name is the one a certificate is made out to. A first label `*` stands for any one
label, if at least two labels follow. -/
def coversName (subject name : List Char) : Bool :=
  let name := if name.getLast? = some '.' then name.dropLast else name
  match subject with
  | '*' :: '.' :: rest =>
    match Text.cutAt? '.' name with
    | some (label, after) =>
      !label.isEmpty && rest.contains '.' &&
        Ascii.sameName (String.ofList rest) (String.ofList after)
    | none => false
  | subject => Ascii.sameName (String.ofList subject) (String.ofList name)

/-- Whether a certificate is made out to a server. -/
def covers (c : Certificate) (name : ServerName) : Bool :=
  match address? c.subject, name with
  | some address, name => address == name
  | none, .dns name => coversName c.subject.toList name.toList
  | none, _ => false

/-- Groups after the first one of an IPv6 address as refusals show them: each run of zero groups
becomes a second colon before the next group, or nothing at the end. `skipped` tells whether the group
before was zero. -/
def shownGroups (skipped : Bool) : List UInt16 → String
  | [] => ""
  | g :: rest =>
    if g = 0 then shownGroups true rest
    else (if skipped then "::" else ":") ++ Ascii.hexText g.toNat ++ shownGroups false rest

/-- An address as refusals show it. -/
def shownAddress : ServerName → String
  | .ipv6 ⟨first :: rest, _⟩ => Ascii.hexText first.toNat ++ shownGroups false rest
  | name => name.text

/-- The subject as refusals name it. A DNS name stands between its quotation marks as it is. -/
def shownSubject (c : Certificate) : String :=
  match address? c.subject with
  | some address => "IpAddress(" ++ shownAddress address ++ ")"
  | none => "DnsName(\"" ++ c.subject ++ "\")"

/-- Why a certificate is not accepted, if it is not. -/
def refusal? (c : Certificate) (trusted : List Bytes) (name : ServerName) : Option String :=
  if !trusted.contains c.issuer then some "invalid peer certificate: UnknownIssuer"
  else if !c.covers name then
    some ("invalid peer certificate: certificate not valid for name " ++ Text.quoted name.text ++
      "; certificate is only valid for " ++ c.shownSubject)
  else none

end Certificate
end HttpFetch
