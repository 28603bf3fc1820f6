import HttpFetch.Request.Template
import HttpFetch.Route
/-!
# Requests on the wire

A request is a head of lines, an empty line and a body. `Template.request` writes one for a server
or a forwarding proxy, `connectRequest` the one that asks a proxy for a tunnel.
-/

namespace HttpFetch

/-- The protocol version that requests name. -/
def protocolVersion : String := "HTTP/1.0"

/-- Lines as they travel, each with its end. -/
def wireLines (lines : List String) : Bytes :=
  lines.flatMap fun line => Utf8.encode line ++ [13, 10]

/-- A head of lines, the empty line that ends it, and a body. -/
def wireMessage (lines : List String) (body : Bytes) : Bytes :=
  wireLines (lines ++ [""]) ++ body

/-- A field of a head. -/
def fieldLine (name value : String) : String := name ++ ": " ++ value

/-- The field that shows credentials, if there are any worth sending. -/
def authLine (name : String) (auth : Option Credentials) : List String :=
  match Template.active auth with
  | some credentials => [fieldLine name credentials.basic]
  | none => []

namespace Template

/-- What is asked of the server: path, the query of the address, then the arguments. -/
def target (template : Template) (url : Url) : String :=
  let path := url.path ++ Url.queryText url.query
  match template.queryString with
  | some query => path ++ (if url.query.isSome then "&" else "?") ++ query
  | none => path

/-- The first line. A forwarding proxy has to be told the server too. -/
def requestLine (template : Template) (url : Url) (via : Via) : String :=
  let server := if via = .forward then url.origin else ""
  template.method ++ " " ++ server ++ template.target url ++ " " ++ protocolVersion

/-- The value of the `Host` field: the caller's own if the template has one. -/
def hostValue (template : Template) (url : Url) (via : Via) : String :=
  (template.headers.find? "host").getD (if via = .forward then url.authority else url.hostHeader)

/-- Whether a header field is written apart from the caller's others. -/
def isReserved (name : String) : Bool :=
  Ascii.sameName name "host" || Ascii.sameName name "content-length"

/-- The header fields of the caller's own that are sent as they are. -/
def ownFields (template : Template) : List (String × String) :=
  template.headers.entries.filter fun (name, _) => !isReserved name

/-- The head of a request, line by line. -/
def head (template : Template) (url : Url) (via : Via) : List String :=
  [template.requestLine url via, fieldLine "Host" (template.hostValue url via),
    fieldLine "Content-Length" (toString template.body.length)] ++
  template.ownFields.map (fun (name, value) => fieldLine name value) ++
  authLine "Authorization" template.httpAuth ++
  (if via = .forward then authLine "Proxy-Authorization" template.proxyAuth else [])

/-- The request for an address as it is sent on a way. -/
def request (template : Template) (url : Url) (via : Via) : Bytes :=
  wireMessage (template.head url via) template.body

end Template

/-- The request that asks a proxy for a tunnel to the server of an address. -/
def connectRequest (url : Url) (proxyAuth : Option Credentials) : Bytes :=
  wireMessage
    (("CONNECT " ++ url.authority ++ " " ++ protocolVersion) ::
      authLine "Proxy-Authorization" proxyAuth) []

end HttpFetch
