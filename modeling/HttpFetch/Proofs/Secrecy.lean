import HttpFetch.Proofs.Requests
import HttpFetch.Proofs.Tunnels
/-!
# Requests to secure servers

On a connection for an `https` address three things can happen, and only in this order: a proxy is
asked for a tunnel, a handshake is made, and the request is sent under TLS. Opening the connection
comes to the first two (`opens_throughTunnel`): the handshake is begun only where no tunnel is needed
or one stands, and the connection is open only once the handshake has succeeded. So the request is
never sent in the clear, whatever the proxy replies and whenever the transfer is cancelled, as
`fetch_https` says.
-/

namespace HttpFetch

/-! ## Handshakes -/

/-- The bytes that something sends, if it sends any. -/
def Event.bytes? : Event → Option Bytes
  | .plain bytes => some bytes
  | .sealed bytes => some bytes
  | _ => none

/-- A handshake as it shows in a trace: it begins with the hello, unless it is not begun at all, and
sends nothing of a request. -/
structure Trace.IsHandshake (trace : Trace) : Prop where
  hello : trace = [] ∨ trace.head? = some .hello
  quiet : ∀ event ∈ trace, event.bytes? = none

theorem Trace.isHandshake_nil : Trace.IsHandshake [] := ⟨.inl rfl, by simp⟩

namespace Handshake

theorem quiet_inspected (trust : Trust) (c : Certificate) :
    ∀ event ∈ inspected trust c, event.bytes? = none := by
  intro event mem
  rw [inspected] at mem
  split at mem
  · cases mem
  · obtain ⟨depth, -, rfl⟩ := List.mem_map.1 mem
    rfl
  · rw [List.mem_singleton.1 mem]
    rfl

/-- An answer that is taken has nothing after the success of the handshake. -/
theorem answer_quiet (trust : Trust) (host : String) (name : ServerName) (greeting : Greeting) :
    (∀ event ∈ (answer trust host name greeting).2, event.bytes? = none) ∧
      ((answer trust host name greeting).1 = .ok () →
        (answer trust host name greeting).2.getLast? = some .secured) := by
  cases greeting with
  | closes | breaks | garbage | alert => exact ⟨by simp [answer], fun ok => by cases ok⟩
  | certificate c =>
    have quiet := quiet_inspected trust c
    rw [answer]
    split_ifs
    · exact ⟨quiet, fun ok => by cases ok⟩
    rcases c.refusal? trust.roots name with _ | refusal
    · refine ⟨fun event mem => ?_, fun _ => List.getLast?_concat⟩
      rcases List.mem_append.1 mem with mem | mem
      · exact quiet event mem
      · rw [List.mem_singleton.1 mem]
        rfl
    · exact ⟨quiet, fun ok => by cases ok⟩

/-- **A handshake** sends nothing of a request, and one that succeeds ends by saying so. -/
theorem isHandshake_run (trust : Trust) (host : String) (greeting : Greeting) :
    (run trust host greeting).2.IsHandshake ∧
      ((run trust host greeting).1 = .ok () →
        (run trust host greeting).2.getLast? = some .secured) := by
  rw [run]
  rcases trust.check with fault | _
  · exact ⟨Trace.isHandshake_nil, fun ok => by cases ok⟩
  simp only
  rcases serverName host with e | name
  · exact ⟨Trace.isHandshake_nil, fun ok => by cases ok⟩
  obtain ⟨quiet, secured⟩ := answer_quiet trust host name greeting
  refine ⟨⟨.inr rfl, fun event mem => ?_⟩, fun ok => ?_⟩
  · rcases List.mem_cons.1 mem with rfl | mem
    · rfl
    · exact quiet event mem
  · rw [List.getLast?_cons, secured ok, Option.getD_some]

end Handshake

/-! ## Opening a connection -/

/-- Whether a peer opens a tunnel: the second word of the first line that it sends in the clear is
`200`. -/
def Peer.OpensTunnel (peer : Peer) : Prop :=
  (Text.tokens Text.isBlank
    (Tunnel.statusLine (Stream.waitingIn peer.plain.inbound)).toList)[1]? = some "200".toList

theorem Peer.opensTunnel_iff (peer : Peer) : peer.OpensTunnel ↔
    Tunnel.isOpen (Tunnel.statusLine (Stream.waitingIn peer.plain.inbound)) = true := by
  rw [OpensTunnel, Tunnel.isOpen, beq_iff_eq]

/-- What comes before a request to a secure server once its peer has been dialled: a proxy is `asked`
for a tunnel by the bytes `connect` if there is a proxy, and then follows the handshake, to which it
need not come. -/
structure Securing (proxied : Prop) (cancelled : Bool) (peer : Peer) (connect : Bytes)
    (asked handshake : Trace) : Prop where
  /-- without a proxy nothing is sent before the handshake -/
  direct : ¬ proxied → asked = []
  /-- a transfer that has been cancelled asks no proxy -/
  idle : proxied → cancelled = true → asked = [] ∧ handshake = []
  /-- to a proxy nothing else is sent, and all of it unless the proxy does not take it -/
  proxy : proxied → cancelled = false → asked = [.plain (peer.plain.outlet.write connect).sent]
  /-- the handshake is begun only in a tunnel that stands -/
  tunnel : proxied → handshake ≠ [] → asked = [.plain connect] ∧ peer.OpensTunnel
  isHandshake : handshake.IsHandshake

/-- What opening a connection to a secure server comes to. -/
structure Connected.Opens (connected : Connected) (route : Route) (cancelled : Bool) (peer : Peer)
    (connect : Bytes) (asked handshake : Trace) : Prop where
  trace : connected.trace = some (asked ++ handshake)
  securing : Securing (route.via = .tunnel) cancelled peer connect asked handshake
  /-- a connection is open under TLS, after a handshake that has succeeded -/
  opened : ∀ connection, connected.outcome = .ok connection →
    handshake.getLast? = some .secured ∧ connection.transport = .tls ∧
      connection.via = route.via ∧ connection.channel = peer.secure
  /-- without a tunnel where one is needed there is no connection -/
  refused : route.via = .tunnel → ¬ peer.OpensTunnel → ∃ e, connected.outcome = .error e ∧
    e.IsTunnelError route.peer (Tunnel.statusLine (Stream.waitingIn peer.plain.inbound))

/-- Everything that securing a transport can come to. -/
inductive Secures (settings : Settings) (url : Url) (route : Route) (peer : Peer) (before : Trace) :
    Connected → Prop where
  | plain (cancelled : Bool) : route.transport = .plain →
    Secures settings url route peer before
      ⟨.ok ⟨.plain, route.via, route.peer.authority, peer.plain⟩, some before, cancelled⟩
  /-- the transfer is cancelled before the handshake -/
  | cancelled : route.transport = .tls →
    Secures settings url route peer before ⟨.error .cancelled, some before, true⟩
  | failed {handshake : Trace} (e e' : TransferError) (cancelled : Bool) :
    route.transport = .tls →
    Handshake.run settings.trust url.host.text (peer.greeting url.host.text) =
      (.error e, handshake) →
    Secures settings url route peer before ⟨.error e', some (before ++ handshake), cancelled⟩
  | secured {handshake : Trace} (cancelled : Bool) : route.transport = .tls →
    Handshake.run settings.trust url.host.text (peer.greeting url.host.text) =
      (.ok (), handshake) →
    Secures settings url route peer before
      ⟨.ok ⟨.tls, route.via, route.peer.authority, peer.secure⟩, some (before ++ handshake),
        cancelled⟩

/-- A peer as it answers in a tunnel, where `early` bytes have come before the hello. -/
def Peer.inTunnel (peer : Peer) (early : Bytes) : Peer :=
  { peer with
    greeting := fun host => (peer.greeting host).after (ServerName.isDns host.toList) early }

section Opening

variable (settings : Settings) (url : Url) {route : Route}

theorem secures_secureTransport (peer : Peer) (before : Trace) (cancelled : Bool) :
    Secures settings url route peer before
      (secureTransport settings url route peer before cancelled) := by
  rw [secureTransport]
  cases transport : route.transport with
  | plain => exact .plain cancelled transport
  | tls =>
    simp only
    split_ifs with gone
    · rw [gone]
      exact .cancelled transport
    rcases run : Handshake.run settings.trust url.host.text (peer.greeting url.host.text) with
      ⟨e | _, handshake⟩
    · cases e <;> exact .failed _ _ _ transport run
    · exact .secured _ transport run

/-- A handshake with a peer, for which a tunnel stands where one is needed. -/
theorem shakes_secureTransport (tls : route.transport = .tls) (peer : Peer) (before : Trace)
    (cancelled : Bool) :
    let connected := secureTransport settings url route peer before cancelled
    ∃ handshake : Trace, connected.trace = some (before ++ handshake) ∧ handshake.IsHandshake ∧
      ∀ connection, connected.outcome = .ok connection →
        handshake.getLast? = some .secured ∧ connection.transport = .tls ∧
          connection.via = route.via ∧ connection.channel = peer.secure := by
  intro connected
  have secures : Secures settings url route peer before connected :=
    secures_secureTransport settings url peer before cancelled
  obtain ⟨isHandshake, ends⟩ := Handshake.isHandshake_run settings.trust url.host.text
    (peer.greeting url.host.text)
  generalize connected = connected at secures ⊢
  cases secures with
  | plain _ plain => cases tls.symm.trans plain
  | cancelled => exact ⟨[], by rw [List.append_nil], Trace.isHandshake_nil, nofun⟩
  | failed _ _ _ _ run =>
    rw [run] at isHandshake
    exact ⟨_, rfl, isHandshake, nofun⟩
  | secured _ _ run =>
    rw [run] at isHandshake ends
    refine ⟨_, rfl, isHandshake, ?_⟩
    rintro connection ⟨⟩
    exact ⟨ends rfl, rfl, rfl, rfl⟩

/-- **Opening a connection to a secure server** comes to a request for a tunnel and a handshake. -/
theorem opens_throughTunnel (tls : route.transport = .tls) (auth : Option Credentials) (peer : Peer)
    (cancelled : Bool) :
    ∃ asked handshake, (throughTunnel settings url auth route peer cancelled).Opens route cancelled
      peer (connectRequest url auth) asked handshake := by
  rw [throughTunnel]
  split
  · rename_i tunnel
    have proxied : ¬ route.via ≠ .tunnel := not_not_intro tunnel
    split_ifs with gone
    · refine ⟨[], [], rfl, ⟨fun _ => rfl, fun _ _ => ⟨rfl, rfl⟩, fun _ going => ?_,
        fun _ started => ?_, Trace.isHandshake_nil⟩, nofun, fun _ _ => ⟨_, rfl, .inl rfl⟩⟩
      · exact absurd gone (Bool.not_eq_true _ ▸ going)
      · exact absurd rfl started
    rw [Bool.not_eq_true] at gone
    have asks := asksTunnel_openTunnel url route.peer auth peer.plain
    rw [gone]
    generalize openTunnel url route.peer auth peer.plain false = opened at asks
    cases asks with
    | refused rest fails =>
      refine ⟨[_], [], rfl, ⟨fun direct => absurd direct proxied, fun _ => nofun, fun _ _ => rfl,
        fun _ started => ?_, Trace.isHandshake_nil⟩, nofun, fun _ _ => ⟨_, rfl, fails⟩⟩
      exact absurd rfl started
    | opened rest sent isOpen =>
      have opens : peer.OpensTunnel := peer.opensTunnel_iff.2 isOpen
      obtain ⟨handshake, trace, isHandshake, connects⟩ := shakes_secureTransport settings url tls
        (peer.inTunnel rest.waiting)
        [.plain (peer.plain.outlet.write (connectRequest url auth)).sent] rest.cancelled
      refine ⟨_, handshake, trace, ⟨fun direct => absurd direct proxied, fun _ => nofun,
        fun _ _ => rfl, fun _ _ => ⟨?_, opens⟩, isHandshake⟩, connects,
        fun _ closed => absurd opens closed⟩
      rw [sent]
  · rename_i straight
    obtain ⟨handshake, trace, isHandshake, connects⟩ :=
      shakes_secureTransport settings url tls peer [] cancelled
    exact ⟨[], handshake, trace, ⟨fun _ => rfl, fun tunnel => absurd tunnel straight,
      fun tunnel => absurd tunnel straight, fun tunnel => absurd tunnel straight, isHandshake⟩,
      connects, fun tunnel => absurd tunnel straight⟩

end Opening

/-! ## One hop -/

namespace Transfer

/-- The bytes by which a hop asks a proxy for a tunnel. -/
def tunnelRequest (settings : Settings) (template : Template) (url : Url) : Bytes :=
  connectRequest url (Template.active (templateFor settings template url).proxyAuth)

/-- Dials the server of an address or the proxy on the way to it. -/
def dialling (settings : Settings) (reach : Reach) (url : Url) : Dialled :=
  dial reach (Route.select url settings.proxies).peer false

section Hop

variable (settings : Settings) (template : Template) {network : Network} {reach : Reach} {url : Url}

/-- Nothing is opened where nobody is reached. -/
theorem opening_of_error {e : TransferError}
    (lost : (dialling settings reach url).outcome = .error e) :
    opening settings template reach url =
      ⟨.error e, none, (dialling settings reach url).cancelled⟩ := by
  rw [dialling] at lost ⊢
  simp only [opening, connect, Bool.false_eq_true, if_false, lost]

/-- Whoever is reached is the peer of the connection. -/
theorem opening_of_ok {peer : Peer} (reached : (dialling settings reach url).outcome = .ok peer) :
    opening settings template reach url = throughTunnel settings url
      (Template.active (templateFor settings template url).proxyAuth)
      (Route.select url settings.proxies) peer (dialling settings reach url).cancelled := by
  rw [dialling] at reached ⊢
  simp only [opening, connect, Bool.false_eq_true, if_false, reached]

/-- Opening a connection to a secure server that is reached comes to a request for a tunnel and a
handshake. -/
theorem opens_opening (https : url.scheme = .https) {peer : Peer}
    (reached : (dialling settings reach url).outcome = .ok peer) :
    ∃ asked handshake, (opening settings template reach url).Opens
      (Route.select url settings.proxies) (dialling settings reach url).cancelled peer
      (tunnelRequest settings template url) asked handshake := by
  have tls : (Route.select url settings.proxies).transport = .tls := by
    rw [Route.transport_select, https]
    rfl
  rw [opening_of_ok settings template reached]
  exact opens_throughTunnel settings url tls
    (Template.active (templateFor settings template url).proxyAuth) peer _

variable {settings template}

/-- The trace of a hop to a secure server: a request for a tunnel, a handshake, and the request of
the hop. -/
theorem secrecy_of_trace? {t : Transfer} {trace : Trace} (read : Url.read t.sink.url = .ok url)
    (https : url.scheme = .https) (traced : t.trace? settings template network = some trace) :
    let route := Route.select url settings.proxies
    let dialled := dialling settings (network t.redirects.followed) url
    ∃ peer asked handshake sent, dialled.outcome = .ok peer ∧ trace = asked ++ handshake ++ sent ∧
      Securing (route.via = .tunnel) dialled.cancelled peer (tunnelRequest settings template url)
        asked handshake ∧
      (sent = [] ∨ handshake.getLast? = some .secured ∧ sent = [.sealed (peer.secure.outlet.write
        ((templateFor settings template url).request url route.via)).sent]) ∧
      (route.via = .tunnel → ¬ peer.OpensTunnel → sent = [] ∧
        ∃ e, (t.hop settings template network).1 = .error e ∧ e.IsTunnelError route.peer
          (Tunnel.statusLine (Stream.waitingIn peer.plain.inbound))) := by
  intro route dialled
  have hears := hears_hear settings template (network t.redirects.followed) t.sink t.cancelled
  rw [trace?] at traced
  rw [← Transfer.heard] at hears
  rw [hop_eq]
  generalize t.heard settings template network = heard at hears traced ⊢
  have lost {e : TransferError} (lost : dialled.outcome = .error e) :=
    opening_of_error settings template lost
  have opens {peer : Peer} (reached : dialled.outcome = .ok peer) :=
    opens_opening settings template https reached
  cases hears with
  | cancelled | malformed => cases traced
  | unopened going found outcome =>
    obtain rfl := Except.ok.inj (read.symm.trans found)
    rw [Heard.trace?] at traced
    rcases reached : dialled.outcome with e | peer
    · rw [lost reached] at traced
      cases traced
    obtain ⟨asked, handshake, opens⟩ := opens reached
    refine ⟨peer, asked, handshake, [], rfl, ?_, opens.securing, .inl rfl,
      fun tunnel closed => ⟨rfl, ?_⟩⟩
    · rw [List.append_nil]
      exact Option.some.inj (traced.symm.trans opens.trace)
    · obtain ⟨_, refused, fails⟩ := opens.refused tunnel closed
      obtain rfl := Except.error.inj (outcome.symm.trans refused)
      exact ⟨_, rfl, fails⟩
  | @opened _ connection _ going found outcome same =>
    obtain rfl := Except.ok.inj (read.symm.trans found)
    rcases reached : dialled.outcome with e | peer
    · rw [lost reached] at outcome
      cases outcome
    obtain ⟨asked, handshake, opens⟩ := opens reached
    obtain ⟨secured, transport, via, channel⟩ := opens.opened connection outcome
    have refused (tunnel : route.via = .tunnel) (closed : ¬ peer.OpensTunnel) : False := by
      obtain ⟨_, refused, -⟩ := opens.refused tunnel closed
      cases outcome.symm.trans refused
    have sends : connection.sends ((templateFor settings template url).request url connection.via) =
        .sealed (peer.secure.outlet.write
          ((templateFor settings template url).request url route.via)).sent := by
      rw [Connection.sends, Connection.event, transport, channel, via]
    rw [same, Connection.trace?_listen, opens.trace, Option.getD_some, sends,
      Option.some.injEq] at traced
    split_ifs at traced with stopped
    · exact ⟨peer, asked, handshake, [], rfl, by rw [List.append_nil, traced], opens.securing,
        .inl rfl, fun tunnel closed => (refused tunnel closed).elim⟩
    · exact ⟨peer, asked, handshake, _, rfl, traced.symm, opens.securing, .inr ⟨secured, rfl⟩,
        fun tunnel closed => (refused tunnel closed).elim⟩

end Hop
end Transfer

/-! ## All hops -/

/-- The way to a secure server. -/
theorem Route.select_https {url : Url} (https : url.scheme = .https) (proxies : Proxies) :
    (proxies.https = none ∧ select url proxies = ⟨.tls, .direct, url⟩) ∨
    ∃ proxy, proxies.https = some proxy ∧ select url proxies = ⟨.tls, .tunnel, proxy⟩ := by
  rw [select, https, Proxies.forScheme]
  rcases proxies.https with _ | proxy
  · exact .inl ⟨rfl, rfl⟩
  · exact .inr ⟨proxy, rfl, rfl⟩

/-- **A request to a secure server is sent under TLS or not at all**, and only after the handshake
with it has succeeded. Before that nothing is sent, but for the request that asks the proxy for a
tunnel if there is a proxy. Unless the proxy opens it, the hop ends there with an error that says so
or tells why there was no reply. -/
theorem fetch_https (settings : Settings) (template : Template) (network : Network) (sink : Sink)
    (disk : Disk) (cancelled : Bool) :
    let hops := (Transfer.start settings sink disk cancelled).hops settings template network
    (fetch settings template network sink disk cancelled).traces =
      hops.filterMap (·.trace? settings template network) ∧
    ∀ t ∈ hops, ∀ url trace, Url.read t.sink.url = .ok url → url.scheme = .https →
      t.trace? settings template network = some trace →
      let dialled := dial (network t.redirects.followed) (settings.proxies.https.getD url) false
      ∃ peer asked handshake sent, dialled.outcome = .ok peer ∧ trace = asked ++ handshake ++ sent ∧
        Securing (settings.proxies.https ≠ none) dialled.cancelled peer
          (Transfer.tunnelRequest settings template url) asked handshake ∧
        (sent = [] ∨ handshake.getLast? = some .secured ∧
          sent = [.sealed (peer.secure.outlet.write ((Transfer.templateFor settings template
            url).request url (Route.select url settings.proxies).via)).sent]) ∧
        ∀ proxy, settings.proxies.https = some proxy → ¬ peer.OpensTunnel →
          handshake = [] ∧ sent = [] ∧
          ∃ e, (t.hop settings template network).1 = .error e ∧ e.IsTunnelError proxy
            (Tunnel.statusLine (Stream.waitingIn peer.plain.inbound)) := by
  refine ⟨fetch_traces settings template network sink disk cancelled, ?_⟩
  intro t _ url trace read https traced
  obtain ⟨peer, asked, handshake, sent, reached, parts, securing, secret, refused⟩ :=
    Transfer.secrecy_of_trace? read https traced
  rw [Transfer.dialling] at reached securing
  rcases Route.select_https https settings.proxies with ⟨none, route⟩ | ⟨proxy, proxied, route⟩ <;>
    rw [route] at reached securing refused
  · rw [none]
    refine ⟨peer, asked, handshake, sent, reached, parts, ?_, secret, nofun⟩
    exact ⟨fun _ => securing.direct nofun, fun proxied => absurd rfl proxied,
      fun proxied => absurd rfl proxied, fun proxied => absurd rfl proxied, securing.isHandshake⟩
  · have begun (started : handshake ≠ []) : peer.OpensTunnel := (securing.tunnel rfl started).2
    rw [proxied]
    refine ⟨peer, asked, handshake, sent, reached, parts, ?_, secret, ?_⟩
    · exact ⟨fun direct => absurd (Option.some_ne_none proxy) direct, fun _ => securing.idle rfl,
        fun _ => securing.proxy rfl, fun _ => securing.tunnel rfl, securing.isHandshake⟩
    · rintro _ ⟨⟩ closed
      exact ⟨Classical.byContradiction fun started => closed (begun started), refused rfl closed⟩

/-- A root that says nothing about itself. -/
def plainRoot : Bytes :=
  [0x30, 21, 0x30, 13, 2, 1, 1, 0x30, 0, 0x30, 0, 0x30, 0, 0x30, 0, 0x30, 0, 0x30, 0, 3, 2, 0, 0]

/-- A proxy that opens every tunnel, and a server behind it with a certificate of that root, which
answers every request with one text. -/
def tunnelling (text : String) : Reach := fun _ _ =>
  .ok [⟨"::2", false, .ok {
    plain := { inbound := [⟨false, .ok (Utf8.encode "V 200 O\n\n")⟩] }
    greeting := fun _ => .certificate ⟨"::1", plainRoot, 0⟩
    secure := { inbound := [⟨false, .ok (Utf8.encode text)⟩] } }⟩]

/-- A request that is sent through a tunnel, after the handshake in it has succeeded. -/
theorem fetch_https_tunnelled :
    let proxy : Url := ⟨.http, "", none, .domain "p", none, [""], none, none⟩
    let settings : Settings :=
      { proxies := { https := some proxy }, trust := { extraRoots := [plainRoot] } }
    let network : Network := fun _ => tunnelling "V 200 O\n\n"
    let start := Transfer.start settings (.inMemory "https://[::1]/a") {} false
    let connect := wireMessage ["CONNECT [::1]:443 HTTP/1.0"] []
    let request := wireMessage ["GET /a HTTP/1.0", "Host: [::1]", "Content-Length: 0"] []
    let trace : Trace := [.plain connect, .hello, .secured, .sealed request]
    start.trace? settings {} network = some trace ∧
    ∃ cancelled peer asked handshake sent, trace = asked ++ handshake ++ sent ∧
      Securing (settings.proxies.https ≠ none) cancelled peer connect asked handshake ∧
      handshake.getLast? = some .secured := by
  intro proxy settings network start connect request trace
  have traced : start.trace? settings {} network = some trace := by decide +kernel
  obtain ⟨url, read, found⟩ := exists_ok_of_any (x := Url.read start.sink.url)
    (p := fun url => url.scheme == .https && Transfer.tunnelRequest settings {} url == connect)
    (by decide +kernel)
  rw [Bool.and_eq_true, beq_iff_eq, beq_iff_eq] at found
  obtain ⟨peer, asked, handshake, sent, -, parts, securing, secret, -⟩ :=
    (fetch_https settings {} network (.inMemory "https://[::1]/a") {} false).2 start
      (Transfer.self_mem_hops start) url trace read found.1 traced
  rw [found.2] at securing
  refine ⟨traced, _, peer, asked, handshake, sent, parts, securing, ?_⟩
  rcases secret with unsent | ⟨secured, -⟩
  · have mem : Event.sealed request ∈ asked ++ handshake := by
      rw [unsent, List.append_nil] at parts
      rw [← parts]
      simp [trace]
    rcases List.mem_append.1 mem with mem | mem
    · have going : (dial (network 0) proxy false).cancelled = false := by decide +kernel
      rw [securing.proxy nofun going] at mem
      cases List.mem_singleton.1 mem
    · cases securing.isHandshake.quiet _ mem
  · exact secured

end HttpFetch
