import HttpFetch.Text.Base64
import HttpFetch.Text.Percent
import HttpFetch.Text.Blank
import HttpFetch.Text.Record
import HttpFetch.Url.Basic
/-!
# Credentials

A user name and a password for Basic authentication. They come as a pair `user:password` or, escaped,
from the user information of an address.
-/

namespace HttpFetch

/-- A user name and a password. -/
structure Credentials where
  username : String
  password : String
  deriving DecidableEq

namespace Credentials

/-- Reads `user:password`. The first colon separates; without one the password is empty. -/
def ofPair (pair : String) : Credentials :=
  match Text.cutAt? ':' pair.toList with
  | some (username, password) => ⟨String.ofList username, String.ofList password⟩
  | none => ⟨pair, ""⟩

/-- A text with its escapes read back, or as it is if they do not denote text. -/
def unescape (text : String) : String :=
  (Utf8.decode? (Percent.decode (Utf8.encode text))).getD text

/-- The credentials in the user information of an address that names a user. -/
def ofUrl? (url : Url) : Option Credentials :=
  url.username.map fun name => ⟨unescape name, unescape (url.password.getD "")⟩

/-- Credentials without a user name are never sent. -/
def isEmpty (c : Credentials) : Bool := c.username.isEmpty

/-- The pair as it is encoded. -/
def pair (c : Credentials) : String := c.username ++ ":" ++ c.password

/-- The value of an authorization field. -/
def basic (c : Credentials) : String := "Basic " ++ Base64.encode (Utf8.encode c.pair)

/-- The diagnostic text, which does not tell the password. -/
def shown (c : Credentials) : String :=
  Record.closed "Credentials"
    [("username", Text.quoted c.username), ("password", Text.quoted "<redacted>")]

end Credentials
end HttpFetch
