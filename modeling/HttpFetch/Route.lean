import HttpFetch.Settings.Proxies
/-!
# Routes

How an address is reached: in the clear or under TLS, and straight or through a proxy. A proxy
forwards requests for `http` addresses and opens tunnels to `https` ones.
-/

namespace HttpFetch

/-- How bytes travel to the server. -/
inductive Transport where
  | plain
  | tls
  deriving Repr, DecidableEq, Inhabited

/-- What a proxy does for a request. -/
inductive Via where
  /-- no proxy: the server is dialled itself -/
  | direct
  /-- the proxy takes the request and forwards it -/
  | forward
  /-- the proxy opens a tunnel to the server -/
  | tunnel
  deriving Repr, DecidableEq, Inhabited

/-- The way to an address. -/
structure Route where
  transport : Transport
  via : Via
  /-- whom to dial: the server or the proxy -/
  peer : Url

/-- The transport that a scheme asks for. -/
def Scheme.transport : Scheme → Transport
  | .http => .plain
  | .https => .tls

/-- What a proxy does for addresses of a scheme. -/
def Scheme.proxied : Scheme → Via
  | .http => .forward
  | .https => .tunnel

/-- The name of a transport in diagnostic texts. -/
def Transport.shown : Transport → String
  | .plain => "Plain"
  | .tls => "Tls"

/-- The name of a way in diagnostic texts. -/
def Via.shown : Via → String
  | .direct => "None"
  | .forward => "HttpProxy"
  | .tunnel => "HttpsProxy"

/-- The way to an address: through the proxy for its scheme if there is one. -/
def Route.select (url : Url) (proxies : Proxies) : Route :=
  match proxies.forScheme url.scheme with
  | some proxy => ⟨url.scheme.transport, url.scheme.proxied, proxy⟩
  | none => ⟨url.scheme.transport, .direct, url⟩

end HttpFetch
