import HttpFetch.Url.Ipv6
/-!
# Server names

The name under which a server is asked for in a TLS handshake, and against which its certificate is
checked: a DNS name or an address.
-/

namespace HttpFetch

/-- The name of a server. -/
inductive ServerName where
  | dns (name : String)
  | ipv4 (address : Ipv4)
  | ipv6 (address : Ipv6)
  deriving DecidableEq

namespace ServerName

/-- The name as text. -/
def text : ServerName → String
  | .dns name => name
  | .ipv4 address => address.text
  | .ipv6 address => address.text

/-- Whether a character may stand in a DNS name, apart from the dots. -/
def isLabelChar (c : Char) : Bool :=
  Ascii.isLetter c || Ascii.isDigit c || c == '-' || c == '_'

/-- Whether a text is a label: up to 63 characters, no hyphen at either end. -/
def isLabel (cs : List Char) : Bool :=
  !cs.isEmpty && cs.length ≤ 63 && cs.all isLabelChar &&
    cs.head? != some '-' && cs.getLast? != some '-'

/-- The labels of a name, without the empty one that a dot at the end leaves. -/
def labels (cs : List Char) : List (List Char) :=
  let labels := Text.splitOn (· == '.') cs
  if labels.getLast? = some [] then labels.dropLast else labels

/-- Whether a text is a DNS name: labels apart by dots, the last of which is no number. -/
def isDns (cs : List Char) : Bool :=
  let labels := labels cs
  cs.length ≤ 253 && !labels.isEmpty && labels.all isLabel &&
    !(labels.getLast?.any (·.all Ascii.isDigit))

/-- The name that a text denotes. -/
def read? (text : String) : Option ServerName :=
  let cs := text.toList
  if isDns cs then some (.dns text)
  else match Ipv4.readDotted? cs with
    | some address => some (.ipv4 address)
    | none => (Ipv6.read? cs).map .ipv6

end ServerName
end HttpFetch
