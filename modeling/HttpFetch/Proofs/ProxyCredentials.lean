import HttpFetch.Proofs.RedirectBound
import HttpFetch.Proofs.Secrecy
import HttpFetch.Proofs.UserInfo
/-!
# Proxy credentials stay with the proxy

Two transfers are compared that differ in nothing but the credentials for proxies, be they those of
the template or those in the addresses of the proxies. What the peers say may differ as well, since
they may look at the credentials; what they take, and how they answer a handshake, may not.

Where no tunnel is asked for, a connection is opened alike for both (`Transfer.muted_opening`). Where
one is, what is sent once the proxy has been asked does not depend on what it was asked with
(`throughTunnel_taken`). And in every message to a proxy the credentials are a line of their own, so
that the messages are the same without it, as `fetch_proxyCredentials` says.
-/

namespace HttpFetch

/-! ## Peers that say nothing -/

/-- What a peer takes. -/
def Channel.muted (channel : Channel) : Channel := { outlet := channel.outlet }

/-- A peer but for what it says, in the clear and under TLS: what it takes, and how it answers the
hello of a handshake. -/
def Peer.muted (peer : Peer) : Peer :=
  { peer with plain := peer.plain.muted, secure := peer.secure.muted }

def Attempt.muted (attempt : Attempt) : Attempt :=
  { attempt with outcome := attempt.outcome.map Peer.muted }

/-- What can be reached, but for what it says. -/
def Reach.muted (reach : Reach) : Reach := fun host port =>
  (reach host port).map (·.map Attempt.muted)

def Dialled.muted (dialled : Dialled) : Dialled :=
  { dialled with outcome := dialled.outcome.map Peer.muted }

def Connection.muted (connection : Connection) : Connection :=
  { connection with channel := connection.channel.muted }

def Connected.muted (connected : Connected) : Connected :=
  { connected with outcome := connected.outcome.map Connection.muted }

theorem Dialled.muted_tryFrom (target : String) (last : Fault) (cancelled : Bool)
    (attempts : List Attempt) :
    (tryFrom target last cancelled attempts).muted =
      tryFrom target last cancelled (attempts.map Attempt.muted) := by
  induction attempts generalizing last cancelled with
  | nil => rfl
  | cons attempt rest ih =>
    rw [List.map_cons, tryFrom, tryFrom]
    by_cases gone : cancelled = true
    · rw [if_pos gone, if_pos gone]
      rfl
    rw [if_neg gone, if_neg gone]
    rcases outcome : attempt.outcome with fault | peer
    · simp only [Attempt.muted, outcome, Except.map]
      rw [← ih]
      rfl
    · simp only [Attempt.muted, outcome, Except.map]
      rfl

/-- Whether dialling succeeds does not depend on what anyone says. -/
theorem muted_dial (reach : Reach) (peer : Url) (cancelled : Bool) :
    (dial reach peer cancelled).muted = dial reach.muted peer cancelled := by
  rw [dial, dial, Reach.muted]
  rcases reach peer.host.text peer.port with fault | attempts
  · rfl
  · exact Dialled.muted_tryFrom _ _ _ attempts

/-! ## Opening a connection -/

namespace Route

/-- A way but for what the text of the address to dial leaves out. -/
def bare (route : Route) : Route := { route with peer := route.peer.bare }

/-- What depends on no more than that. -/
theorem congr_bare {α : Type} (f : Route → α) (only : ∀ route : Route, f route.bare = f route)
    {route route' : Route} (same : route.bare = route'.bare) : f route = f route' := by
  rw [← only route, same, only]

end Route

/-- Proxies but for what the texts of their addresses leave out. -/
def Proxies.bare (proxies : Proxies) : Proxies :=
  ⟨proxies.http.map Url.bare, proxies.https.map Url.bare⟩

theorem Route.bare_select {proxies proxies' : Proxies} (same : proxies.bare = proxies'.bare)
    (url : Url) : (select url proxies).bare = (select url proxies').bare := by
  have each : (proxies.forScheme url.scheme).map Url.bare =
      (proxies'.forScheme url.scheme).map Url.bare := by
    cases url.scheme with
    | http => exact congrArg Proxies.http same
    | https => exact congrArg Proxies.https same
  rw [select, select]
  generalize proxies.forScheme url.scheme = own at each ⊢
  generalize proxies'.forScheme url.scheme = other at each ⊢
  rcases own with _ | proxy <;> rcases other with _ | proxy'
  · rfl
  · cases each
  · cases each
  · simp only [bare, Option.some.inj each]

/-- Two that dial peers which are the same but for what they say reach both or neither. -/
theorem Dialled.cases_muted {dialled dialled' : Dialled} (same : dialled.muted = dialled'.muted) :
    dialled.cancelled = dialled'.cancelled ∧
    ((∃ e, dialled.outcome = .error e ∧ dialled'.outcome = .error e) ∨
      ∃ peer peer', dialled.outcome = .ok peer ∧ dialled'.outcome = .ok peer' ∧
        peer.muted = peer'.muted) := by
  obtain ⟨outcome, tried, cancelled⟩ := dialled
  obtain ⟨outcome', tried', cancelled'⟩ := dialled'
  obtain ⟨outcomes, -, cancels⟩ := Dialled.mk.inj same
  refine ⟨cancels, ?_⟩
  rcases outcome with e | peer <;> rcases outcome' with e' | peer'
  · obtain rfl := Except.error.inj outcomes
    exact .inl ⟨e, rfl, rfl⟩
  · cases outcomes
  · cases outcomes
  · exact .inr ⟨peer, peer', rfl, rfl, Except.ok.inj outcomes⟩

section Opening

variable {settings : Settings} {url : Url} {route : Route}

/-- Nor does whether a handshake succeeds. -/
theorem muted_secureTransport (peer : Peer) (trace : Trace) (cancelled : Bool) :
    (secureTransport settings url route peer trace cancelled).muted =
      secureTransport settings url route peer.muted trace cancelled := by
  rw [secureTransport, secureTransport]
  cases route.transport with
  | plain => rfl
  | tls =>
    simp only [Peer.muted]
    split_ifs
    · rfl
    rcases Handshake.run settings.trust url.host.text (peer.greeting url.host.text) with
      ⟨e | _, seen⟩
    · cases e <;> rfl
    · rfl

/-- Without a tunnel only the transport is secured. -/
theorem throughTunnel_straight (straight : route.via ≠ .tunnel) (auth : Option Credentials)
    (peer : Peer) (cancelled : Bool) :
    throughTunnel settings url auth route peer cancelled =
      secureTransport settings url route peer [] cancelled := by
  rw [throughTunnel]
  split
  · rename_i tunnel
    exact absurd tunnel straight
  · rfl

theorem via_secureTransport {peer : Peer} {trace : Trace} {cancelled : Bool}
    {connection : Connection}
    (opened : (secureTransport settings url route peer trace cancelled).outcome = .ok connection) :
    connection.via = route.via := by
  have secures : Secures settings url route peer trace _ :=
    secures_secureTransport settings url peer trace cancelled
  generalize secureTransport settings url route peer trace cancelled = connected at secures opened
  cases secures <;> cases opened <;> rfl

theorem via_throughTunnel {auth : Option Credentials} {peer : Peer} {cancelled : Bool}
    {connection : Connection}
    (opened : (throughTunnel settings url auth route peer cancelled).outcome = .ok connection) :
    connection.via = route.via := by
  rw [throughTunnel] at opened
  split at opened
  · split_ifs at opened
    simp only at opened
    rcases outcome : (openTunnel url route.peer auth peer.plain cancelled).outcome with e | _ <;>
      rw [outcome] at opened
    · cases opened
    · exact via_secureTransport opened
  · exact via_secureTransport opened

/-- What opening a connection comes to, with something before it on the same connection. -/
def Connected.after (before : Trace) (connected : Connected) : Connected :=
  { connected with trace := connected.trace.map (before ++ ·) }

theorem after_secureTransport (peer : Peer) (before trace : Trace) (cancelled : Bool) :
    secureTransport settings url route peer (before ++ trace) cancelled =
      (secureTransport settings url route peer trace cancelled).after before := by
  rw [secureTransport, secureTransport]
  cases route.transport with
  | plain => rfl
  | tls =>
    simp only
    split_ifs
    · rfl
    rcases Handshake.run settings.trust url.host.text (peer.greeting url.host.text) with
      ⟨e | _, seen⟩
    · cases e <;> simp only [Connected.after, Option.map_some, List.append_assoc]
    · simp only [Connected.after, Option.map_some, List.append_assoc]

/-- What opening a connection through a proxy comes to once the proxy has been asked for a tunnel. -/
def onceAsked (settings : Settings) (url : Url) (route : Route) (peer : Peer) : Connected :=
  match Tunnel.readReply ⟨peer.plain.inbound, false⟩ with
  | (.error fault, rest) =>
    ⟨.error ((TransferError.connection route.peer.authority fault).orCancelled rest.cancelled),
      some [], rest.cancelled⟩
  | (.ok reply, rest) =>
    let line := Tunnel.statusLine reply
    if Tunnel.isOpen line then
      secureTransport settings url route (peer.inTunnel rest.waiting) [] rest.cancelled
    else ⟨.error (.proxyTunnel route.peer.authority line), some [], rest.cancelled⟩

theorem trace_onceAsked (settings : Settings) (url : Url) {route : Route}
    (tls : route.transport = .tls) (peer : Peer) :
    ∃ trace, (onceAsked settings url route peer).trace = some trace := by
  rw [onceAsked]
  rcases Tunnel.readReply ⟨peer.plain.inbound, false⟩ with ⟨fault | reply, rest⟩
  · exact ⟨[], rfl⟩
  · simp only
    split_ifs
    · obtain ⟨handshake, trace, -⟩ := shakes_secureTransport settings url tls
        (peer.inTunnel rest.waiting) [] rest.cancelled
      exact ⟨_, trace⟩
    · exact ⟨[], rfl⟩

/-- **What happens once a proxy has been asked for a tunnel** does not depend on what it was asked
with, if it has taken the request. -/
theorem throughTunnel_taken (tunnel : route.via = .tunnel) {auth : Option Credentials} {peer : Peer}
    (taken : (peer.plain.outlet.write (connectRequest url auth)).outcome = .ok ()) :
    throughTunnel settings url auth route peer false =
      (onceAsked settings url route peer).after [.plain (connectRequest url auth)] := by
  obtain ⟨sent, going⟩ := Outlet.write_ok taken
  rw [throughTunnel, tunnel, onceAsked]
  simp only [Bool.false_eq_true, if_false, openTunnel, taken, sent, going, Bool.or_self]
  rcases Tunnel.readReply ⟨peer.plain.inbound, false⟩ with ⟨fault | reply, rest⟩
  · rfl
  · simp only
    split_ifs
    · exact after_secureTransport _ [.plain (connectRequest url auth)] [] _
    · rfl

/-- All that happens on a connection, with a request that is sent once it is open. -/
def Connected.sends (connected : Connected) (request : Bytes) : Option Trace :=
  match connected.outcome with
  | .error _ => connected.trace
  | .ok connection =>
    let trace := connected.trace.getD []
    some (if connected.cancelled then trace else trace ++ [connection.sends request])

/-- What the peer says has no part in it. -/
theorem Connected.sends_muted (connected : Connected) (request : Bytes) :
    connected.muted.sends request = connected.sends request := by
  rw [sends, sends, muted]
  rcases connected.outcome with e | connection <;> rfl

theorem Connected.sends_after {connected : Connected} {trace : Trace}
    (traced : connected.trace = some trace) (before : Trace) (request : Bytes) :
    (connected.after before).sends request = (connected.sends request).map (before ++ ·) := by
  rw [sends, sends, after, traced]
  rcases connected.outcome with e | connection
  · rfl
  · simp only [Option.map_some, Option.getD_some]
    split_ifs <;> simp

end Opening

/-! ## One hop -/

namespace Trace

theorem plainBytes_append (trace later : Trace) :
    plainBytes (trace ++ later) = plainBytes trace ++ plainBytes later := List.flatMap_append

theorem sealedBytes_append (trace later : Trace) :
    sealedBytes (trace ++ later) = sealedBytes trace ++ sealedBytes later := List.flatMap_append

theorem bytes_of_quiet {trace : Trace} (quiet : ∀ event ∈ trace, event.bytes? = none) :
    plainBytes trace = [] ∧ sealedBytes trace = [] := by
  rw [plainBytes, sealedBytes, List.flatMap_eq_nil_iff, List.flatMap_eq_nil_iff]
  refine ⟨fun event mem => ?_, fun event mem => ?_⟩ <;>
    · have silent := quiet event mem
      cases event with
      | plain | sealed => cases silent
      | hello | inspected | secured => rfl

end Trace

namespace Transfer

section Hop

variable {settings : Settings} {template : Template} {network : Network} {reach reach' : Reach}
  {url : Url}

theorem via_opening {connection : Connection}
    (opened : (opening settings template reach url).outcome = .ok connection) :
    connection.via = (Route.select url settings.proxies).via := by
  rcases reached : (dialling settings reach url).outcome with e | peer
  · rw [opening_of_error settings template reached] at opened
    cases opened
  · rw [opening_of_ok settings template reached] at opened
    exact via_throughTunnel opened

/-- What happens on the connection of a hop is that it is opened and the request is sent. -/
theorem trace?_eq_sends (settings : Settings) (template : Template) (network : Network)
    {t : Transfer} (going : t.cancelled = false) (read : Url.read t.sink.url = .ok url) :
    t.trace? settings template network =
      (opening settings template (network t.redirects.followed) url).sends
        ((templateFor settings template url).request url
          (Route.select url settings.proxies).via) := by
  rcases outcome : (opening settings template (network t.redirects.followed) url).outcome with
    e | connection
  · rw [trace?, heard, hear, going, read, Connected.sends]
    simp only [Bool.false_eq_true, if_false, outcome, Heard.trace?]
  · rw [trace?_opened going read outcome, Connection.trace?_listen, Connected.sends, outcome,
      via_opening outcome]

section Pair

variable {proxies : Proxies} (same : settings.proxies.bare = proxies.bare)

include same

/-- Whom a transfer dials does not depend on credentials for proxies. -/
theorem dialling_bare (reach : Reach) (url : Url) :
    dialling settings reach url = dialling { settings with proxies } reach url :=
  Route.congr_bare (fun route => dial reach route.peer false) (fun _ => rfl)
    (Route.bare_select same url)

variable (alike : Reach.muted reach = Reach.muted reach')

include alike

theorem muted_dialling (url : Url) :
    (dialling settings reach url).muted =
      (dialling { settings with proxies } reach' url).muted := by
  rw [dialling_bare same, dialling, dialling, muted_dial, muted_dial, alike]

/-- **A connection without a tunnel** is opened alike, whatever the credentials for proxies. -/
theorem muted_opening (straight : (Route.select url settings.proxies).via ≠ .tunnel)
    (auth : Option Credentials) :
    (opening settings template reach url).muted =
      (opening { settings with proxies } { template with proxyAuth := auth } reach' url).muted := by
  have routes := Route.bare_select same url
  have straight' : (Route.select url proxies).via ≠ .tunnel := by
    rwa [← Route.congr_bare Route.via (fun _ => rfl) routes]
  obtain ⟨cancelled, ⟨e, lost, lost'⟩ | ⟨peer, peer', reached, reached', peers⟩⟩ :=
    Dialled.cases_muted (muted_dialling same alike url)
  · rw [opening_of_error _ _ lost, opening_of_error _ _ lost', cancelled]
  · rw [opening_of_ok _ _ reached, opening_of_ok _ _ reached', throughTunnel_straight straight,
      throughTunnel_straight straight', muted_secureTransport, muted_secureTransport, peers,
      cancelled]
    exact Route.congr_bare (secureTransport settings url · peer'.muted [] _) (fun _ => rfl) routes

end Pair

/-! ### Messages -/

/-- Only a request that is forwarded shows credentials for a proxy. -/
theorem request_straight {proxies : Proxies} {auth : Option Credentials} {via : Via}
    (straight : via ≠ .forward) :
    (templateFor settings template url).request url via =
      (templateFor { settings with proxies } { template with proxyAuth := auth } url).request url
        via := by
  rw [request_eq, request_eq, Template.back, Template.back, if_neg straight, if_neg straight]
  rfl

/-- There they are a line of their own. -/
theorem request_forward :
    (templateFor settings template url).request url .forward =
      wireMessage (template.front url .forward ++
        authLine "Authorization" (httpAuth template url) ++
        authLine "Proxy-Authorization" (proxyAuth template settings.proxies url))
        template.body := by
  rw [request_eq, Template.back, if_pos rfl]
  rfl

/-- And so they are in a request for a tunnel, which has nothing else of the address than host and
port. -/
theorem tunnelRequest_eq : tunnelRequest settings template url =
    wireMessage (("CONNECT " ++ url.authority ++ " " ++ protocolVersion) ::
      authLine "Proxy-Authorization" (proxyAuth template settings.proxies url)) [] := by
  have again (auth : Option Credentials) : Template.active (Template.active auth) =
      Template.active auth := by
    simp [Template.active, Option.filter_filter]
  rw [tunnelRequest, connectRequest, authLine, authLine, again]
  rfl

/-! ### Traces -/

/-- After cancellation nothing is sent. -/
theorem trace?_cancelled {t : Transfer} (cancelled : t.cancelled = true) :
    t.trace? settings template network = none := by
  rw [trace?, heard, hear, cancelled]
  rfl

theorem trace?_of_error {t : Transfer} {e : TransferError} (going : t.cancelled = false)
    (read : Url.read t.sink.url = .ok url)
    (lost : (dialling settings (network t.redirects.followed) url).outcome = .error e) :
    t.trace? settings template network = none := by
  rw [trace?_eq_sends settings template network going read, opening_of_error _ _ lost,
    Connected.sends]

/-- To a proxy that forwards requests nothing else is sent. -/
theorem trace?_forward {t : Transfer} {peer : Peer} (going : t.cancelled = false)
    (read : Url.read t.sink.url = .ok url) (plain : url.scheme = .http)
    (forward : (Route.select url settings.proxies).via = .forward)
    (reached : (dialling settings (network t.redirects.followed) url).outcome = .ok peer) :
    t.trace? settings template network =
      some (if (dialling settings (network t.redirects.followed) url).cancelled then []
        else [.plain (peer.plain.outlet.write
          ((templateFor settings template url).request url .forward)).sent]) := by
  have straight : (Route.select url settings.proxies).via ≠ .tunnel := by rw [forward]; decide
  have transport : (Route.select url settings.proxies).transport = .plain := by
    rw [Route.transport_select, plain]
    rfl
  rw [trace?_eq_sends settings template network going read, opening_of_ok _ _ reached,
    throughTunnel_straight straight, secureTransport, transport, forward, Connected.sends]
  rfl

/-- To a proxy that is asked for a tunnel nothing else is sent in the clear, and under TLS the request
is sent in it. -/
theorem trace?_tunnel (template : Template) {t : Transfer} {peer : Peer}
    (going : t.cancelled = false) (read : Url.read t.sink.url = .ok url) (https : url.scheme = .https)
    (tunnel : (Route.select url settings.proxies).via = .tunnel)
    (reached : (dialling settings (network t.redirects.followed) url).outcome = .ok peer) :
    if (dialling settings (network t.redirects.followed) url).cancelled then
      t.trace? settings template network = some []
    else
      let request := (templateFor settings template url).request url .tunnel
      let asked := peer.plain.outlet.write (tunnelRequest settings template url)
      ∃ rest, t.trace? settings template network = some (.plain asked.sent :: rest) ∧
        Trace.plainBytes rest = [] ∧
        (Trace.sealedBytes rest = [] ∨
          Trace.sealedBytes rest = (peer.secure.outlet.write request).sent) ∧
        (asked.outcome = .ok () → some rest =
          (onceAsked settings url (Route.select url settings.proxies) peer).sends request) := by
  obtain ⟨_, _, opens⟩ := opens_opening settings template https reached
  have sends := trace?_eq_sends settings template network going read
  obtain ⟨trace, traced⟩ : ∃ trace, t.trace? settings template network = some trace := by
    rw [sends, Connected.sends, opens.trace]
    split <;> exact ⟨_, rfl⟩
  obtain ⟨_, asked, handshake, sent, found, parts, securing, secret, -⟩ :=
    secrecy_of_trace? read https traced
  obtain rfl := Except.ok.inj (reached.symm.trans found)
  split_ifs with stopped
  · obtain ⟨rfl, rfl⟩ := securing.idle tunnel stopped
    rcases secret with rfl | ⟨secured, -⟩
    · rw [traced, parts]
      rfl
    · cases secured
  rw [Bool.not_eq_true] at stopped
  obtain rfl := securing.proxy tunnel stopped
  obtain ⟨plain, secure⟩ := Trace.bytes_of_quiet securing.isHandshake.quiet
  refine ⟨handshake ++ sent, by rw [traced, parts]; rfl, ?_, ?_, fun taken => ?_⟩
  · rw [Trace.plainBytes_append, plain]
    rcases secret with rfl | ⟨-, rfl⟩ <;> rfl
  · rw [Trace.sealedBytes_append, secure]
    rcases secret with rfl | ⟨-, rfl⟩
    · exact .inl rfl
    · rw [tunnel]
      exact .inr (List.append_nil _)
  · have tls : (Route.select url settings.proxies).transport = .tls := by
      rw [Route.transport_select, https]
      rfl
    obtain ⟨later, once⟩ := trace_onceAsked settings url tls peer
    rw [opening_of_ok _ _ reached, stopped, throughTunnel_taken tunnel taken,
      Connected.sends_after once, traced, parts] at sends
    obtain ⟨rest, asks, whole⟩ := Option.map_eq_some_iff.1 sends.symm
    rw [tunnel] at asks
    have same : rest = handshake ++ sent := (List.cons.inj whole).2
    rw [asks, same]

end Hop
end Transfer

/-! ## Two hops -/

/-- What two transfers send to one proxy: nothing, or each a message of its own, of which the proxy
takes as much from one as from the other, and then what `later` relates. -/
inductive ToProxy (message message' : Bytes) (later : Outlet → Trace → Trace → Prop) :
    Option Trace → Option Trace → Prop where
  /-- the proxy is not reached -/
  | unreached : ToProxy message message' later none none
  /-- the transfers are cancelled before anything is sent -/
  | idle : ToProxy message message' later (some []) (some [])
  | sent (outlet : Outlet) {rest rest' : Trace} : later outlet rest rest' →
    ToProxy message message' later (some (.plain (outlet.write message).sent :: rest))
      (some (.plain (outlet.write message').sent :: rest'))

/-- What two transfers send after each has asked one proxy for a tunnel, which takes as much from one
as from the other. `same` tells whether the proxy replies to both alike. -/
structure SentInTunnel (same : Prop) (asks asks' : Bytes) (outlet : Outlet) (rest rest' : Trace) :
    Prop where
  /-- nothing else is sent in the clear -/
  plain : Trace.plainBytes rest = [] ∧ Trace.plainBytes rest' = []
  /-- the bytes under TLS are the same, where there are any of both transfers -/
  sealed : Trace.sealedBytes rest = [] ∨ Trace.sealedBytes rest' = [] ∨
    Trace.sealedBytes rest = Trace.sealedBytes rest'
  /-- and if the proxy takes all that it is asked and replies alike, nothing at all differs -/
  whole : same → (outlet.write asks).outcome = .ok () → (outlet.write asks').outcome = .ok () →
    rest = rest'

namespace Transfer

section Pair

variable {settings : Settings} {proxies : Proxies} {network network' : Network} {url : Url}
  {t t' : Transfer} (template : Template) (auth : Option Credentials)

/-- Two hops to one address, of transfers that differ in the credentials for proxies, to peers that
differ in what they say. -/
structure Paired (settings : Settings) (proxies : Proxies) (network network' : Network) (url : Url)
    (t t' : Transfer) : Prop where
  same : settings.proxies.bare = proxies.bare
  read : Url.read t.sink.url = .ok url
  text : t'.sink.url = t.sink.url
  cancelled : t'.cancelled = t.cancelled
  alike : Reach.muted (network t.redirects.followed) = Reach.muted (network' t'.redirects.followed)

namespace Paired

theorem read' (paired : Paired settings proxies network network' url t t') :
    Url.read t'.sink.url = .ok url := by
  rw [paired.text, paired.read]

/-- The ways that two hops go are the same. -/
theorem via_eq (paired : Paired settings proxies network network' url t t') :
    (Route.select url proxies).via = (Route.select url settings.proxies).via :=
  (Route.congr_bare Route.via (fun _ => rfl) (Route.bare_select paired.same url)).symm

/-- **Without a proxy** the same is sent. -/
theorem direct (paired : Paired settings proxies network network' url t t')
    (direct : settings.proxies.forScheme url.scheme = none) :
    t.trace? settings template network = t'.trace? { settings with proxies }
      { template with proxyAuth := auth } network' := by
  by_cases gone : t.cancelled = true
  · rw [trace?_cancelled gone, trace?_cancelled (paired.cancelled.trans gone)]
  rw [Bool.not_eq_true] at gone
  have via : (Route.select url settings.proxies).via = .direct := by rw [Route.select, direct]
  have via' := paired.via_eq.trans via
  rw [trace?_eq_sends _ _ _ gone paired.read,
    trace?_eq_sends _ _ _ (paired.cancelled.trans gone) paired.read', ← Connected.sends_muted,
    muted_opening paired.same paired.alike (by rw [via]; decide) auth, Connected.sends_muted, via,
    via', request_straight (by decide)]

/-- **A proxy that forwards requests** is sent the same but for its credentials. -/
theorem forward (paired : Paired settings proxies network network' url t t')
    (plain : url.scheme = .http)
    (forward : (Route.select url settings.proxies).via = .forward) :
    let own := template.front url .forward ++ authLine "Authorization" (httpAuth template url)
    let shown := proxyAuth template settings.proxies url
    let shown' := proxyAuth { template with proxyAuth := auth } proxies url
    ToProxy (wireMessage (own ++ authLine "Proxy-Authorization" shown) template.body)
      (wireMessage (own ++ authLine "Proxy-Authorization" shown') template.body)
      (fun _ rest rest' => rest = [] ∧ rest' = []) (t.trace? settings template network)
      (t'.trace? { settings with proxies } { template with proxyAuth := auth } network') := by
  intro own shown shown'
  by_cases gone : t.cancelled = true
  · rw [trace?_cancelled gone, trace?_cancelled (paired.cancelled.trans gone)]
    exact .unreached
  rw [Bool.not_eq_true] at gone
  have gone' := paired.cancelled.trans gone
  obtain ⟨cancelled, ⟨e, lost, lost'⟩ | ⟨peer, peer', reached, reached', peers⟩⟩ :=
    Dialled.cases_muted (muted_dialling paired.same paired.alike url)
  · rw [trace?_of_error gone paired.read lost, trace?_of_error gone' paired.read' lost']
    exact .unreached
  have outlet : peer'.plain.outlet = peer.plain.outlet :=
    (congrArg (fun peer => peer.plain.outlet) peers).symm
  rw [trace?_forward gone paired.read plain forward reached,
    trace?_forward gone' paired.read' plain (paired.via_eq.trans forward) reached', ← cancelled,
    request_forward, request_forward, outlet]
  split_ifs
  · exact .idle
  · exact .sent _ ⟨rfl, rfl⟩

/-- **A proxy that is asked for a tunnel** is sent the same but for its credentials, and so is the
server behind it, if anything is. -/
theorem tunnel (paired : Paired settings proxies network network' url t t')
    (https : url.scheme = .https)
    (tunnel : (Route.select url settings.proxies).via = .tunnel) :
    let line := "CONNECT " ++ url.authority ++ " " ++ protocolVersion
    let shown := proxyAuth template settings.proxies url
    let shown' := proxyAuth { template with proxyAuth := auth } proxies url
    let asks := wireMessage (line :: authLine "Proxy-Authorization" shown) []
    let asks' := wireMessage (line :: authLine "Proxy-Authorization" shown') []
    ToProxy asks asks'
      (SentInTunnel (network t.redirects.followed = network' t'.redirects.followed) asks asks')
      (t.trace? settings template network)
      (t'.trace? { settings with proxies } { template with proxyAuth := auth } network') := by
  intro line shown shown' asks asks'
  by_cases gone : t.cancelled = true
  · rw [trace?_cancelled gone, trace?_cancelled (paired.cancelled.trans gone)]
    exact .unreached
  rw [Bool.not_eq_true] at gone
  have gone' := paired.cancelled.trans gone
  obtain ⟨cancelled, ⟨e, lost, lost'⟩ | ⟨peer, peer', reached, reached', peers⟩⟩ :=
    Dialled.cases_muted (muted_dialling paired.same paired.alike url)
  · rw [trace?_of_error gone paired.read lost, trace?_of_error gone' paired.read' lost']
    exact .unreached
  have outlet : peer'.plain.outlet = peer.plain.outlet :=
    (congrArg (fun peer => peer.plain.outlet) peers).symm
  have inside : peer'.secure.outlet = peer.secure.outlet :=
    (congrArg (fun peer => peer.secure.outlet) peers).symm
  have own := trace?_tunnel template gone paired.read https tunnel reached
  have other := trace?_tunnel { template with proxyAuth := auth } gone' paired.read' https
    (paired.via_eq.trans tunnel) reached'
  rw [← cancelled] at other
  split_ifs at own other with stopped
  · rw [own, other]
    exact .idle
  obtain ⟨rest, traced, plain, secret, once⟩ := own
  obtain ⟨rest', traced', plain', secret', once'⟩ := other
  rw [tunnelRequest_eq] at traced once
  rw [tunnelRequest_eq, outlet] at traced' once'
  rw [inside, ← request_straight (by decide)] at secret'
  rw [← request_straight (by decide)] at once'
  rw [traced, traced']
  refine .sent peer.plain.outlet ⟨⟨plain, plain'⟩, ?_, fun replies taken taken' => ?_⟩
  · rcases secret with none | full
    · exact .inl none
    rcases secret' with none' | full'
    · exact .inr (.inl none')
    · exact .inr (.inr (full.trans full'.symm))
  · rw [← replies, ← dialling_bare paired.same] at reached'
    obtain rfl := Except.ok.inj (reached.symm.trans reached')
    have once := (once taken).trans (congrArg (Connected.sends · _) (Route.congr_bare
      (onceAsked settings url · peer) (fun _ => rfl) (Route.bare_select paired.same url)))
    exact Option.some.inj (once.trans (once' taken').symm)

end Paired
end Pair
end Transfer

/-! ## All hops -/

theorem Route.via_http {url : Url} (plain : url.scheme = .http) {proxies : Proxies}
    (proxied : proxies.http ≠ none) : (select url proxies).via = .forward := by
  obtain ⟨proxy, proxied⟩ := Option.ne_none_iff_exists'.1 proxied
  rw [select, plain, Proxies.forScheme, proxied]
  rfl

theorem Route.via_https {url : Url} (https : url.scheme = .https) {proxies : Proxies}
    (proxied : proxies.https ≠ none) : (select url proxies).via = .tunnel := by
  obtain ⟨proxy, proxied⟩ := Option.ne_none_iff_exists'.1 proxied
  rw [select, https, Proxies.forScheme, proxied]
  rfl

/-- **Credentials for proxies are shown to proxies alone.** Two transfers that differ in nothing else
send the same on a hop without a proxy; a proxy that forwards requests is sent the same but for the
line of the credentials; and so is one that is asked for a tunnel, while what is sent in the tunnel
does not depend on them. What a proxy is asked there tells nothing of the request but the host and
the port that it is for. -/
theorem fetch_proxyCredentials (settings : Settings) (template : Template) (proxies : Proxies)
    (same : settings.proxies.bare = proxies.bare) (auth : Option Credentials)
    (network network' : Network) (sink : Sink) (disk : Disk) (cancelled : Bool) :
    let settings' : Settings := { settings with proxies }
    let template' : Template := { template with proxyAuth := auth }
    let hops := (Transfer.start settings sink disk cancelled).hops settings template network
    let hops' := (Transfer.start settings' sink disk cancelled).hops settings' template' network'
    ((fetch settings template network sink disk cancelled).traces =
        hops.filterMap (·.trace? settings template network) ∧
      (fetch settings' template' network' sink disk cancelled).traces =
        hops'.filterMap (·.trace? settings' template' network')) ∧
    (∀ (i : Nat) (t t' : Transfer) (url : Url), hops[i]? = some t → hops'[i]? = some t' →
      Url.read t.sink.url = .ok url → t'.sink.url = t.sink.url → t'.cancelled = t.cancelled →
      Reach.muted (network i) = Reach.muted (network' i) →
      let shown := authLine "Proxy-Authorization" (Transfer.proxyAuth template settings.proxies url)
      let shown' := authLine "Proxy-Authorization" (Transfer.proxyAuth template' proxies url)
      let trace := t.trace? settings template network
      let trace' := t'.trace? settings' template' network'
      (settings.proxies.forScheme url.scheme = none → trace = trace') ∧
      (url.scheme = .http → settings.proxies.http ≠ none →
        let own := template.front url .forward ++
          authLine "Authorization" (Transfer.httpAuth template url)
        ToProxy (wireMessage (own ++ shown) template.body)
          (wireMessage (own ++ shown') template.body)
          (fun _ rest rest' => rest = [] ∧ rest' = []) trace trace') ∧
      (url.scheme = .https → settings.proxies.https ≠ none →
        let line := "CONNECT " ++ url.authority ++ " " ++ protocolVersion
        let asks := wireMessage (line :: shown) []
        let asks' := wireMessage (line :: shown') []
        ToProxy asks asks' (SentInTunnel (network i = network' i) asks asks') trace trace')) ∧
    ∀ (url : Url) (other : Template), other.proxyAuth = template.proxyAuth →
      Transfer.tunnelRequest settings other url = Transfer.tunnelRequest settings template url ∧
      ∀ reach, Transfer.opening settings other reach url =
        Transfer.opening settings template reach url := by
  intro settings' template' hops hops'
  refine ⟨⟨fetch_traces _ _ _ _ _ _, fetch_traces _ _ _ _ _ _⟩, ?_, ?_⟩
  · intro i t t' url place place' read text gone alike shown shown' trace trace'
    have count : t.redirects.followed = i := by
      simpa [Transfer.start] using
        congrArg Redirects.followed (Transfer.redirects_of_getElem? place)
    have count' : t'.redirects.followed = i := by
      simpa [Transfer.start] using
        congrArg Redirects.followed (Transfer.redirects_of_getElem? place')
    have paired : Transfer.Paired settings proxies network network' url t t' :=
      ⟨same, read, text, gone, by rw [count, count', alike]⟩
    refine ⟨paired.direct template auth, fun plain proxied => ?_, fun https proxied => ?_⟩
    · exact paired.forward template auth plain (Route.via_http plain proxied)
    · have tunnel := paired.tunnel template auth https (Route.via_https https proxied)
      rwa [count, count'] at tunnel
  · intro url other shows
    have auths : Transfer.proxyAuth other settings.proxies url =
        Transfer.proxyAuth template settings.proxies url := by
      rw [Transfer.proxyAuth, Transfer.proxyAuth, shows]
    refine ⟨?_, fun reach => ?_⟩
    · rw [Transfer.tunnelRequest_eq, Transfer.tunnelRequest_eq, auths]
    · simp only [Transfer.opening, Transfer.templateFor, auths]

/-- A redirect from a tunnel to a server in the clear, both through proxies: the second proxy is shown
the credentials of the template in one case and those in its address in the other. -/
theorem fetch_proxyCredentials_redirected :
    let proxy (user : String) : Option Url :=
      some ⟨.http, user, none, .domain "p", none, [""], none, none⟩
    let settings : Settings :=
      { proxies := ⟨proxy "", proxy ""⟩, trust := { extraRoots := [plainRoot] } }
    let settings' : Settings := { settings with proxies := ⟨proxy "v", proxy "w"⟩ }
    let template : Template := { proxyAuth := some ⟨"u", "p"⟩ }
    let network : Network := fun hop =>
      if hop = 0 then tunnelling "V 302 F\nLocation: http://[::2]/b\n\n"
      else answering "V 200 O\n\n"
    let start := Transfer.start settings (.inMemory "https://[::1]/a") {} false
    let own := ["GET http://[::2]:80/b HTTP/1.0", "Host: [::2]:80", "Content-Length: 0"]
    ∃ t t', (start.hops settings template network)[1]? = some t ∧
      (start.hops settings' {} network)[1]? = some t' ∧
      ToProxy (wireMessage (own ++ ["Proxy-Authorization: Basic dTpw"]) [])
        (wireMessage (own ++ ["Proxy-Authorization: Basic djo="]) [])
        (fun _ rest rest' => rest = [] ∧ rest' = []) (t.trace? settings template network)
        (t'.trace? settings' {} network) := by
  intro proxy settings settings' template network start own
  let url : Url := ⟨.http, "", none, .ipv6 ⟨[0, 0, 0, 0, 0, 0, 0, 2], rfl⟩, none, ["b"], none, none⟩
  have read : Url.read "http://[::2]/b" = .ok url := by decide +kernel
  have reaches (settings : Settings) (template : Template)
      (check : (start.next? settings template network).any (fun t =>
        decide (t.sink.url = "http://[::2]/b" ∧ t.cancelled = false) &&
          (t.next? settings template network).isNone) = true) :
      ∃ t, (start.hops settings template network)[1]? = some t ∧ t.sink.url = "http://[::2]/b" ∧
        t.cancelled = false := by
    obtain ⟨t, next, check⟩ := (Option.any_eq_true _ _).1 check
    rw [Bool.and_eq_true, decide_eq_true_eq, Option.isNone_iff_eq_none] at check
    exact ⟨t, by rw [Transfer.hops_next? next check.2]; rfl, check.1⟩
  obtain ⟨t, place, text, going⟩ := reaches settings template (by decide +kernel)
  obtain ⟨t', place', text', going'⟩ := reaches settings' {} (by decide +kernel)
  have pair := (fetch_proxyCredentials settings template settings'.proxies rfl none network network
    (.inMemory "https://[::1]/a") {} false).2.1 1 t t' url place place' (by rw [text, read])
    (text'.trans text.symm) (going'.trans going.symm) rfl
  have messages := pair.2.1 rfl nofun
  have line : authLine "Proxy-Authorization" (Transfer.proxyAuth template settings.proxies url) =
      ["Proxy-Authorization: Basic dTpw"] := by
    decide +kernel
  have line' : authLine "Proxy-Authorization" (Transfer.proxyAuth {} settings'.proxies url) =
      ["Proxy-Authorization: Basic djo="] := by
    decide +kernel
  have front : template.front url .forward ++
      authLine "Authorization" (Transfer.httpAuth template url) = own := by
    decide +kernel
  rw [line, front] at messages
  rw [← line']
  exact ⟨t, t', place, place', messages⟩

end HttpFetch
