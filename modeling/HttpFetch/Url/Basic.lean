import HttpFetch.Url.Host
/-!
# Web addresses

A `Url` is an absolute `http` or `https` address in its parts, each part already in the form in which
it is sent. `text` is the form that is stored and shown: without user information, without
fragment, and without the port that the scheme implies anyway.
-/

namespace HttpFetch

/-- The schemes that can be fetched. -/
inductive Scheme where
  | http
  | https
  deriving Repr, DecidableEq, Inhabited

namespace Scheme

/-- The port used where the address names none. -/
def defaultPort : Scheme → UInt16
  | .http => 80
  | .https => 443

/-- The name of the scheme. -/
def name : Scheme → String
  | .http => "http"
  | .https => "https"

/-- The scheme of a name in small letters. -/
def ofName? : String → Option Scheme
  | "http" => some .http
  | "https" => some .https
  | _ => none

end Scheme

/-- An absolute web address. -/
structure Url where
  scheme : Scheme
  /-- the user name as written; empty if there is none -/
  userName : String
  /-- the password as written -/
  secret : Option String
  host : Host
  /-- the port if it is not the scheme's own -/
  explicitPort : Option UInt16
  /-- the segments of the path, each of which follows a slash -/
  segments : List String
  query : Option String
  fragment : Option String
  deriving DecidableEq

namespace Url

/-- The port to connect to. -/
def port (url : Url) : UInt16 := url.explicitPort.getD url.scheme.defaultPort

/-- The path: a slash before each segment. -/
def path (url : Url) : String := String.join (url.segments.map ("/" ++ ·))

/-- The user name as written, if there is one. -/
def username (url : Url) : Option String :=
  if url.userName.isEmpty then none else some url.userName

/-- The password as written, if there is one. -/
def password (url : Url) : Option String := url.secret

/-- The host as a `Host` header names it. -/
def hostHeader (url : Url) : String := url.host.bracketed

/-- Host and port, as a CONNECT request names its target. -/
def authority (url : Url) : String := url.hostHeader ++ ":" ++ toString url.port.toNat

/-- Scheme, host and port. -/
def origin (url : Url) : String := url.scheme.name ++ "://" ++ url.authority

/-- A query with its question mark. -/
def queryText : Option String → String
  | none => ""
  | some query => "?" ++ query

/-- The address as it is stored and shown. -/
def text (url : Url) : String :=
  let port := if url.port = url.scheme.defaultPort then "" else ":" ++ toString url.port.toNat
  url.scheme.name ++ "://" ++ url.hostHeader ++ port ++ url.path ++ queryText url.query

end Url
end HttpFetch
