import HttpFetch.Url.Basic
import HttpFetch.Url.Path
/-!
# URL references

`resolve` reads a text as a URL, absolute or relative to a base, the way browsers do: blanks and
controls around it and tabs and line ends inside it are dropped, backslashes count as slashes, and a
web address may have any number of slashes after its scheme. Since only web addresses can be
fetched, a URL of any other scheme is checked and then reported as `foreign`.
-/

namespace HttpFetch.Reference

/-- What a well-formed reference names. -/
inductive Target where
  | web (url : Url)
  /-- a URL of a scheme that cannot be fetched -/
  | foreign
  deriving DecidableEq

/-! ## Cutting a text into parts -/

/-- The text that counts: without controls and spaces at its ends and without tabs and line ends. -/
def clean (cs : List Char) : List Char :=
  (Text.stripChars (·.toNat ≤ 0x20) cs).filter fun c => c != '\t' && c != '\n' && c != '\r'

/-- Whether a character may stand in a scheme after its first letter. -/
def isSchemeChar (c : Char) : Bool :=
  Ascii.isLetter c || Ascii.isDigit c || c == '+' || c == '-' || c == '.'

/-- The scheme in small letters and what follows its colon. -/
def splitScheme? (cs : List Char) : Option (String × List Char) :=
  if cs.head?.any Ascii.isLetter then
    match cs.dropWhile isSchemeChar with
    | ':' :: rest => some (String.ofList ((cs.takeWhile isSchemeChar).map Ascii.lower), rest)
    | _ => none
  else none

/-- The text before the first character that satisfies `stop` and the text from it on. -/
def cut (stop : Char → Bool) (cs : List Char) : List Char × List Char :=
  (cs.takeWhile (!stop ·), cs.dropWhile (!stop ·))

/-- Characters that end the authority of a web address. -/
def endsAuthority (c : Char) : Bool := c == '/' || c == '\\' || c == '?' || c == '#'

/-- The text before the last `@` and the text after it. -/
def cutAtLastAt (cs : List Char) : Option (List Char) × List Char :=
  let after := (cs.reverse.takeWhile (· ≠ '@')).reverse
  if after.length < cs.length then (some (cs.take (cs.length - after.length - 1)), after)
  else (none, cs)

/-- The text before the colon of the port and what follows that colon; colons in brackets belong to
the host. -/
def cutAtPort (inBrackets : Bool) : List Char → List Char × Option (List Char)
  | [] => ([], none)
  | c :: rest =>
    if c = ':' ∧ ¬inBrackets then ([], some rest)
    else
      let inside := if c = '[' then true else if c = ']' then false else inBrackets
      let (host, port) := cutAtPort inside rest
      (c :: host, port)

/-! ## Parts -/

/-- The port that digits denote; without digits there is none. -/
def readPort (cs : List Char) : Except UrlFault (Option UInt16) :=
  if cs.isEmpty then .ok none
  else if cs.all Ascii.isDigit then
    match Ascii.valueInBase? 10 cs with
    | some n => if n ≤ 65535 then .ok (some n.toUInt16) else .error .port
    | none => .error .port
  else .error .port

/-- User name and password, escaped where they have to be; an empty password counts as none. -/
def readUserInfo (cs : List Char) : String × Option String :=
  let encode (part : List Char) := String.ofList (Percent.encode Percent.inUserInfo part)
  match Text.cutAt? ':' cs with
  | none => (encode cs, none)
  | some (name, password) =>
    (encode name, if password.isEmpty then none else some (encode password))

/-- User information, host and port of a web address. -/
structure Authority where
  userName : String
  secret : Option String
  host : Host
  port : Option UInt16

/-- Reads an authority; a web address needs a host. -/
def readAuthority (cs : List Char) : Except UrlFault Authority := do
  let (userInfo, rest) := cutAtLastAt cs
  let (hostText, portText) := cutAtPort false rest
  if hostText.isEmpty then throw .emptyHost
  let host ← Host.read hostText
  let port ← readPort (portText.getD [])
  let (userName, secret) := readUserInfo (userInfo.getD [])
  return { userName, secret, host, port }

/-- The fragment after the mark that `cs` starts with, if it does. -/
def readFragment (cs : List Char) : Option String :=
  match cs with
  | '#' :: rest => some (String.ofList (Percent.encode Percent.inFragment rest))
  | _ => none

/-- Query and fragment from the mark on that starts one of them. -/
def readTail (cs : List Char) : Option String × Option String :=
  match cs with
  | '?' :: rest =>
    let (query, rest) := cut (· == '#') rest
    (some (String.ofList (Percent.encode Percent.inQuery query)), readFragment rest)
  | cs => (none, readFragment cs)

/-- Whether a character ends the path. -/
def endsPath (c : Char) : Bool := c == '?' || c == '#'

/-- `url` with the path, query and fragment that `cs` gives, its path read onto `segments`. -/
def withPath (url : Url) (segments : List String) (cs : List Char) : Url :=
  let (path, rest) := cut endsPath cs
  let (query, fragment) := readTail rest
  { url with
    segments := (Path.extend (segments.map String.toList) (Path.pieces path)).map String.ofList
    query, fragment }

/-! ## Web addresses -/

/-- A web address from its authority on. -/
def readWeb (scheme : Scheme) (cs : List Char) : Except UrlFault Url := do
  let (authority, rest) := cut endsAuthority cs
  let a ← readAuthority authority
  let explicitPort := a.port.filter (· ≠ scheme.defaultPort)
  let rest := match rest with
    | '/' :: rest => rest
    | '\\' :: rest => rest
    | rest => rest
  return withPath
    { scheme, userName := a.userName, secret := a.secret, host := a.host, explicitPort
      segments := [], query := none, fragment := none } [] rest

/-- The text after the slashes that start an authority without a scheme. Two plain slashes are exactly
that mark; if one of the first two is a backslash, all slashes that follow belong to it. -/
def afterSlashes (cs : List Char) : List Char :=
  match cs with
  | '/' :: '/' :: rest => rest
  | cs => cs.dropWhile Path.isSlash

/-- A reference without a scheme, resolved against a web address. -/
def readRelative (base : Url) (cs : List Char) : Except UrlFault Url :=
  match cs with
  | [] => .ok { base with fragment := none }
  | c :: rest =>
    if c = '?' then
      let (query, fragment) := readTail cs
      .ok { base with query, fragment }
    else if c = '#' then .ok { base with fragment := readFragment cs }
    else if Path.isSlash c then
      if rest.head?.any Path.isSlash then readWeb base.scheme (afterSlashes cs)
      else .ok (withPath base [] rest)
    else .ok (withPath base base.segments.dropLast cs)

/-! ## Other schemes -/

/-- Schemes whose URLs have the form of a web address. -/
def isWebLike (scheme : String) : Bool :=
  scheme == "ws" || scheme == "wss" || scheme == "ftp"

/-- The fault in a URL of an unknown scheme from its authority on, if there is one. -/
def opaqueFault? (cs : List Char) : Option UrlFault :=
  let (authority, rest) := cut (fun c => c == '/' || c == '?' || c == '#') cs
  let (userInfo, hostAndPort) := cutAtLastAt authority
  let (host, port) := cutAtPort false hostAndPort
  let named : Bool := userInfo.any fun info => !(info.isEmpty || info == [':'])
  match Host.opaqueFault? host with
  | some fault => some fault
  | none =>
    if host.isEmpty && (port.isSome || named || (userInfo == some [] && !rest.isEmpty)) then
      some .emptyHost
    else
      match readPort ((port.getD []).takeWhile (· ≠ '\\')) with
      | .ok _ => none
      | .error fault => some fault

/-- The fault in a file URL, if there is one: only its host can be wrong. -/
def fileFault? (cs : List Char) : Option UrlFault :=
  match cs with
  | a :: b :: rest =>
    if Path.isSlash a ∧ Path.isSlash b then
      let host := (cut endsAuthority rest).1
      if host.isEmpty ∨ Path.isDrive host then none
      else match Host.read host with
        | .ok _ => none
        | .error fault => some fault
    else none
  | _ => none

/-- The fault in a URL of a scheme that cannot be fetched, from its colon on, if there is one. -/
def foreignFault? (scheme : String) (cs : List Char) : Option UrlFault :=
  if isWebLike scheme then
    match readAuthority (cut endsAuthority (cs.dropWhile Path.isSlash)).1 with
    | .ok _ => none
    | .error fault => some fault
  else if scheme = "file" then fileFault? cs
  else match cs with
    | '/' :: '/' :: rest => opaqueFault? rest
    | _ => none

/-! ## References -/

/-- A web address from its colon on. One with the scheme of the base and fewer than two slashes is
relative to it. -/
def readAfterScheme (base : Option Url) (scheme : Scheme) (cs : List Char) :
    Except UrlFault Url :=
  match base with
  | some base =>
    if (cs.takeWhile Path.isSlash).length < 2 ∧ base.scheme = scheme then readRelative base cs
    else readWeb scheme (cs.dropWhile Path.isSlash)
  | none => readWeb scheme (cs.dropWhile Path.isSlash)

/-- What a text names, read against a base if there is one. -/
def resolve (base : Option Url) (cs : List Char) : Except UrlFault Target :=
  let cs := clean cs
  match splitScheme? cs with
  | some (name, rest) =>
    match Scheme.ofName? name with
    | some scheme => (readAfterScheme base scheme rest).map .web
    | none =>
      match foreignFault? name rest with
      | some fault => .error fault
      | none => .ok .foreign
  | none =>
    match base with
    | some base => (readRelative base cs).map .web
    | none => .error .noBase

end HttpFetch.Reference
