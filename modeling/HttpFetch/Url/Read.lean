import HttpFetch.Url.Reference
/-!
# Reading web addresses

`Url.read` takes what a caller typed: the scheme may be missing, and a text that names no host is
refused before the first segment of its path could be taken for one. `Url.join` resolves the
location of a redirect. Both give only addresses that can be dialled.
-/

namespace HttpFetch

/-- Why a well-formed text is refused. -/
inductive UrlRefusal where
  | emptyUrl
  | missingHost
  | unsupportedScheme
  deriving Repr, DecidableEq

/-- The wording of a refusal. -/
def UrlRefusal.message : UrlRefusal → String
  | .emptyUrl => "empty URL"
  | .missingHost => "missing host"
  | .unsupportedScheme => "unsupported scheme"

/-- Why a text gives no web address. -/
inductive UrlError where
  /-- the text may be a URL, but none that can be fetched -/
  | refused (text : String) (reason : UrlRefusal)
  /-- the text is no URL -/
  | faulty (text : String) (fault : UrlFault)
  deriving Repr, DecidableEq

/-- The wording of an error. -/
def UrlError.message : UrlError → String
  | .refused text reason => "malformed URL '" ++ text ++ "': " ++ reason.message
  | .faulty text fault => "malformed URL '" ++ text ++ "': " ++ fault.message

namespace Url

/-- The text before the first `://` and the text after it. -/
def cutAtMark? : List Char → Option (List Char × List Char)
  | ':' :: '/' :: '/' :: rest => some ([], rest)
  | c :: rest => (cutAtMark? rest).map fun (before, after) => (c :: before, after)
  | [] => none

/-- Whether a character ends scheme and authority alike. -/
def endsAddress (c : Char) : Bool := c == '/' || c == '?' || c == '#'

/-- What follows `scheme://`, if the text starts with an explicit scheme. A `://` inside a path or
query is no mark of a scheme. -/
def afterScheme? (cs : List Char) : Option (List Char) :=
  match cutAtMark? cs with
  | some (before, after) => if before.any endsAddress then none else some after
  | none => none

/-- A resolved reference as a web address; `text` is what it was read from. -/
def ofTarget (text : String) : Except UrlFault Reference.Target → Except UrlError Url
  | .ok (.web url) => .ok url
  | .ok .foreign => .error (.refused text .unsupportedScheme)
  | .error fault => .error (.faulty text fault)

/-- Reads an absolute address; without a scheme it is an `http` one. -/
def read (text : String) : Except UrlError Url :=
  let cs := Text.trimChars text.toList
  if cs.isEmpty then .error (.refused text .emptyUrl)
  else match afterScheme? cs with
    | some rest =>
      if (rest.takeWhile (!endsAddress ·)).isEmpty then .error (.refused text .missingHost)
      else ofTarget text (Reference.resolve none cs)
    | none => ofTarget text (Reference.resolve none ("http://".toList ++ cs))

/-- Resolves the location of a redirect against the address that answered with it. -/
def join (base : Url) (location : String) : Except UrlError Url :=
  let trimmed := Text.trim location
  ofTarget trimmed (Reference.resolve (some base) trimmed.toList)

end Url
end HttpFetch
