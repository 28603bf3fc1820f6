import HttpFetch.Request.Template
import HttpFetch.Settings.Basic
/-!
# Diagnostic texts of a transfer

How a transfer that has not been started shows what it is going to do.
-/

namespace HttpFetch

/-- A host as an alternative. -/
def Host.shown : Host → String
  | .domain name => Record.tagged "Domain" (Text.quoted name)
  | .ipv4 address => Record.tagged "Ipv4" address.text
  | .ipv6 address => Record.tagged "Ipv6" address.text

/-- A scheme as an alternative. -/
def Scheme.shown : Scheme → String
  | .http => "Http"
  | .https => "Https"

namespace Url

/-- The parts of an address. -/
def shownParts (url : Url) : String :=
  Record.closed "Url"
    [("scheme", Text.quoted url.scheme.name), ("cannot_be_a_base", Record.bool false),
      ("username", Text.quoted url.userName),
      ("password", Record.optional Text.quoted url.secret),
      ("host", Record.optional Host.shown (some url.host)),
      ("port", Record.optional (fun port => Record.nat port.toNat) url.explicitPort),
      ("path", Text.quoted url.path), ("query", Record.optional Text.quoted url.query),
      ("fragment", Record.optional Text.quoted url.fragment)]

/-- An address with what follows from its parts. -/
def shown (url : Url) : String :=
  Record.closed "Url"
    [("inner", url.shownParts), ("scheme", url.scheme.shown), ("host", Text.quoted url.host.text),
      ("port", Record.nat url.port.toNat),
      ("username", Record.optional Text.quoted url.username),
      ("password", Record.optional Text.quoted url.password)]

end Url

/-- The proxies in use. -/
def Proxies.shown (proxies : Proxies) : String :=
  Record.closed "ProxySettings"
    [("http", Record.optional Url.shown proxies.http),
      ("https", Record.optional Url.shown proxies.https)]

/-- What is set for a transfer. -/
def Settings.shown (settings : Settings) : String :=
  Record.closed "EngineConfig"
    [("connect_timeout", Record.optional Settings.timeText settings.connectTimeout),
      ("read_timeout", Record.optional Settings.timeText settings.readTimeout),
      ("max_redirects", Record.nat settings.maxRedirects),
      ("read_buffer_size", Record.nat settings.readBufferSize),
      ("proxy", settings.proxies.shown), ("tls", settings.trust.shown)]

/-- A transfer before its start: settings, template, and whether a callback waits for its end. -/
def shownEngine (settings : Settings) (template : Template) (callback : Bool) : String :=
  Record.opened "Engine"
    [("config", settings.shown), ("request", template.shown), ("callback", Record.bool callback)]

end HttpFetch
