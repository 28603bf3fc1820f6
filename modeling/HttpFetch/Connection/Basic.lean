import HttpFetch.Connection.Dial
import HttpFetch.Connection.Tunnel
import HttpFetch.Settings.Basic
/-!
# Connections

Opening a connection takes up to three steps: dial the server or the proxy, have the proxy open a
tunnel, agree on keys with the server. `connect` takes them and keeps account of what left this side
on the way, and whether anyone could read it.
-/

namespace HttpFetch

/-- An open connection to the server of an address. -/
structure Connection where
  transport : Transport
  via : Via
  /-- host and port that were dialled -/
  peer : String
  /-- what is still to come, and what the server takes -/
  channel : Channel

namespace Connection

/-- The diagnostic text. -/
def shown (c : Connection) : String :=
  Record.opened "Connection"
    [("kind", c.transport.shown), ("proxy", c.via.shown), ("peer", Text.quoted c.peer)]

/-- What sending bytes on a connection leaves in its trace. -/
def event (c : Connection) (bytes : Bytes) : Event :=
  match c.transport with
  | .plain => .plain bytes
  | .tls => .sealed bytes

end Connection

/-- What opening a connection comes to. -/
structure Connected where
  outcome : Except TransferError Connection
  /-- what happened on the connection, if there was one -/
  trace : Option Trace
  /-- whether the transfer has been cancelled by then -/
  cancelled : Bool

/-- Makes a channel to the server out of one to the peer that was dialled, for which a tunnel stands
where one is needed. -/
def secureTransport (settings : Settings) (url : Url) (route : Route) (peer : Peer) (trace : Trace)
    (cancelled : Bool) : Connected :=
  match route.transport with
  | .plain =>
    ⟨.ok ⟨.plain, route.via, route.peer.authority, peer.plain⟩, some trace, cancelled⟩
  | .tls =>
    if cancelled then ⟨.error .cancelled, some trace, cancelled⟩
    else
      let (outcome, seen) := Handshake.run settings.trust url.host.text (peer.greeting url.host.text)
      let cancelled := seen.greeted && peer.cancels
      match outcome with
      | .ok () =>
        ⟨.ok ⟨.tls, route.via, route.peer.authority, peer.secure⟩, some (trace ++ seen), cancelled⟩
      | .error (.tlsHandshake host fault) =>
        ⟨.error ((TransferError.tlsHandshake host fault).orCancelled cancelled),
          some (trace ++ seen), cancelled⟩
      | .error e => ⟨.error e, some (trace ++ seen), cancelled⟩

/-- Goes on from the peer that was dialled: through a tunnel if the route asks for one. -/
def throughTunnel (settings : Settings) (url : Url) (proxyAuth : Option Credentials) (route : Route)
    (peer : Peer) (cancelled : Bool) : Connected :=
  match route.via with
  | .tunnel =>
    if cancelled then ⟨.error .cancelled, some [], cancelled⟩
    else
      let opened := openTunnel url route.peer proxyAuth peer.plain cancelled
      let trace := [Event.plain opened.sent]
      match opened.outcome with
      | .error e => ⟨.error e, some trace, opened.stream.cancelled⟩
      | .ok () =>
        let greeting host :=
          (peer.greeting host).after (ServerName.isDns host.toList) opened.stream.waiting
        secureTransport settings url route { peer with greeting } trace opened.stream.cancelled
  | _ => secureTransport settings url route peer [] cancelled

/-- Opens a connection to the server of an address. -/
def connect (settings : Settings) (reach : Reach) (url : Url) (proxyAuth : Option Credentials)
    (cancelled : Bool) : Connected :=
  if cancelled then ⟨.error .cancelled, none, cancelled⟩
  else
    let route := Route.select url settings.proxies
    let dialled := dial reach route.peer cancelled
    match dialled.outcome with
    | .error e => ⟨.error e, none, dialled.cancelled⟩
    | .ok peer => throughTunnel settings url proxyAuth route peer dialled.cancelled

end HttpFetch
