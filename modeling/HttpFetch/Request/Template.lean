import HttpFetch.Fields
import HttpFetch.Request.Credentials
/-!
# Request templates

What the caller wants to be asked, apart from the address. A template is written anew for every
connection, since redirects change the address and the route.
-/

namespace HttpFetch

/-- A request but for its address. -/
structure Template where
  method : String := "GET"
  /-- the arguments added to the query -/
  arguments : Fields := .empty
  /-- header fields of the caller's own -/
  headers : Fields := .empty
  body : Bytes := []
  /-- who asks, for the server that answers -/
  httpAuth : Option Credentials := none
  /-- who asks, for the proxy on the way -/
  proxyAuth : Option Credentials := none
  deriving DecidableEq

namespace Template

/-- Credentials that are worth sending. -/
def active (auth : Option Credentials) : Option Credentials := auth.filter (!·.isEmpty)

/-- Whether a character separates the values of an argument. -/
def separatesValues (c : Char) : Bool := c == ',' || c == ' '

/-- The values that an argument stands for, each a token of its text. -/
def argumentValues (value : String) : List String :=
  (Text.tokens separatesValues value.toList).map String.ofList

/-- All arguments as pairs `name=value`, one for every value. -/
def queryPairs (template : Template) : List String :=
  template.arguments.entries.flatMap fun (name, value) =>
    (argumentValues value).map fun token => name ++ "=" ++ token

/-- The query that the arguments make, if they make one. -/
def queryString (template : Template) : Option String :=
  if template.queryPairs.isEmpty then none else some ("&".intercalate template.queryPairs)

/-- The diagnostic text. -/
def shown (template : Template) : String :=
  Record.closed "RequestSpec"
    [("method", Text.quoted template.method),
      ("arguments", Record.table template.arguments.entries),
      ("headers", Record.table template.headers.entries),
      ("body", Record.list (template.body.map fun b => Record.nat b.toNat)),
      ("http_auth", Record.optional Credentials.shown template.httpAuth),
      ("proxy_auth", Record.optional Credentials.shown template.proxyAuth)]

end Template
end HttpFetch
