import HttpFetch.Proofs.RedirectBound
import HttpFetch.Proofs.Requests
import HttpFetch.Proofs.SameHeads
/-!
# User information stays on the first hop

Two transfers are compared, to addresses that differ only in user information, over networks whose
peers answer alike. A connection is opened alike for both (`Transfer.opening_alike`), and the
requests of a hop differ in the line of the credentials at most (`Transfer.request_bare`). A
redirect leads both to one text (`Transfer.bare_of_redirects`), so from the second hop on they are
told apart by nothing (`Transfer.hops_alike`), as `fetch_userInfo` says.
-/

namespace HttpFetch

/-! ## Networks that answer alike -/

/-- Two outcomes that are both good and alike, or the same fault. -/
inductive EndsAlike {ε α : Type} (alike : α → α → Prop) : Except ε α → Except ε α → Prop
  | ok {a a' : α} : alike a a' → EndsAlike alike (.ok a) (.ok a')
  | error (e : ε) : EndsAlike alike (.error e) (.error e)

/-- Two peers that take the same and send alike responses. -/
structure Channel.Alike (channel channel' : Channel) : Prop where
  outlet : channel.outlet = channel'.outlet
  inbound : AlikeResponses (Stream.waitingIn channel.inbound) (Stream.waitingIn channel'.inbound)

/-- Two peers that are the same but for their responses, which are alike and which they send in the
clear or under TLS. -/
def Peer.Alike : Transport → Peer → Peer → Prop
  | .plain, peer, peer' => peer.plain.Alike peer'.plain
  | .tls, peer, peer' =>
    peer.plain = peer'.plain ∧ peer.greeting = peer'.greeting ∧ peer.cancels = peer'.cancels ∧
      peer.secure.Alike peer'.secure

/-- Two attempts that end alike. -/
structure Attempt.Alike (transport : Transport) (attempt attempt' : Attempt) : Prop where
  address : attempt.address = attempt'.address
  cancels : attempt.cancels = attempt'.cancels
  outcome : EndsAlike (Peer.Alike transport) attempt.outcome attempt'.outcome

/-- From every host and port alike attempts are made. -/
def Reach.Alike (transport : Transport) (reach reach' : Reach) : Prop :=
  ∀ host port,
    EndsAlike (List.Forall₂ (Attempt.Alike transport)) (reach host port) (reach' host port)

theorem Channel.alike_refl (channel : Channel) : channel.Alike channel := ⟨rfl, .same _⟩

theorem Peer.alike_refl (transport : Transport) (peer : Peer) : peer.Alike transport peer := by
  cases transport with
  | plain => exact peer.plain.alike_refl
  | tls => exact ⟨rfl, rfl, rfl, peer.secure.alike_refl⟩

theorem EndsAlike.refl {ε α : Type} {alike : α → α → Prop} (same : ∀ a, alike a a)
    (outcome : Except ε α) : EndsAlike alike outcome outcome := by
  cases outcome with
  | ok a => exact .ok (same a)
  | error e => exact .error e

theorem Reach.alike_refl (transport : Transport) (reach : Reach) : reach.Alike transport reach :=
  fun host port => EndsAlike.refl (fun _ => List.forall₂_same.2 fun attempt _ =>
    ⟨rfl, rfl, EndsAlike.refl (Peer.alike_refl transport) attempt.outcome⟩) (reach host port)

/-! ## Opening a connection -/

structure Dialled.Alike (transport : Transport) (dialled dialled' : Dialled) : Prop where
  outcome : EndsAlike (Peer.Alike transport) dialled.outcome dialled'.outcome
  cancelled : dialled.cancelled = dialled'.cancelled

/-- Two connections over which the same is sent, and alike responses come. -/
structure Connection.Alike (connection connection' : Connection) : Prop where
  transport : connection.transport = connection'.transport
  via : connection.via = connection'.via
  channel : connection.channel.Alike connection'.channel

structure Connected.Alike (connected connected' : Connected) : Prop where
  outcome : EndsAlike Connection.Alike connected.outcome connected'.outcome
  trace : connected.trace = connected'.trace
  cancelled : connected.cancelled = connected'.cancelled

structure Route.Alike (route route' : Route) : Prop where
  transport : route.transport = route'.transport
  via : route.via = route'.via
  peer : route.peer.bare = route'.peer.bare

section Opening

variable {url url' : Url} {settings : Settings} {template : Template}

theorem Route.alike_select (same : url.bare = url'.bare) (proxies : Proxies) :
    (select url proxies).Alike (select url' proxies) := by
  have scheme : url.scheme = url'.scheme :=
    Url.congr_bare Url.scheme (fun _ => rfl) same
  rw [select, select, scheme]
  cases proxies.forScheme url'.scheme with
  | some proxy => exact ⟨rfl, rfl, rfl⟩
  | none => exact ⟨rfl, rfl, same⟩

theorem Dialled.alike_tryFrom {transport : Transport} (target : String) (last : Fault)
    (cancelled : Bool) {attempts attempts' : List Attempt}
    (alike : List.Forall₂ (Attempt.Alike transport) attempts attempts') :
    (tryFrom target last cancelled attempts).Alike transport
      (tryFrom target last cancelled attempts') := by
  induction alike generalizing last cancelled with
  | nil => exact ⟨.error _, rfl⟩
  | @cons attempt attempt' rest rest' head tail ih =>
    rw [tryFrom, tryFrom]
    by_cases gone : cancelled = true
    · rw [if_pos gone, if_pos gone]
      exact ⟨.error _, rfl⟩
    rw [if_neg gone, if_neg gone]
    have outcome := head.outcome
    generalize attempt.outcome = own at outcome
    generalize attempt'.outcome = other at outcome
    cases outcome with
    | ok peers => exact ⟨.ok peers, head.cancels⟩
    | error fault =>
      rw [← head.cancels]
      exact ⟨(ih fault attempt.cancels).outcome, (ih fault attempt.cancels).cancelled⟩

theorem dial_alike {transport : Transport} {reach reach' : Reach} {peer peer' : Url}
    (alike : Reach.Alike transport reach reach') (same : peer.bare = peer'.bare)
    (cancelled : Bool) :
    (dial reach peer cancelled).Alike transport (dial reach' peer' cancelled) := by
  have authority : peer.authority = peer'.authority :=
    Url.congr_bare Url.authority (fun _ => rfl) same
  have host : peer.host = peer'.host :=
    Url.congr_bare Url.host (fun _ => rfl) same
  have port : peer.port = peer'.port :=
    Url.congr_bare Url.port (fun _ => rfl) same
  have attempts := alike peer'.host.text peer'.port
  rw [dial, dial, authority, host, port]
  generalize reach peer'.host.text peer'.port = own at attempts
  generalize reach' peer'.host.text peer'.port = other at attempts
  cases attempts with
  | ok attempts => exact Dialled.alike_tryFrom _ _ _ attempts
  | error fault => exact ⟨.error _, rfl⟩

/-- What a proxy is asked for does not depend on user information. -/
theorem openTunnel_bare {proxy proxy' : Url} (same : url.bare = url'.bare)
    (proxies : proxy.bare = proxy'.bare) (proxyAuth : Option Credentials) (channel : Channel)
    (cancelled : Bool) :
    openTunnel url proxy proxyAuth channel cancelled =
      openTunnel url' proxy' proxyAuth channel cancelled := by
  have target : url.authority = url'.authority :=
    Url.congr_bare Url.authority (fun _ => rfl) same
  have authority : proxy.authority = proxy'.authority :=
    Url.congr_bare Url.authority (fun _ => rfl) proxies
  rw [openTunnel, openTunnel, connectRequest, connectRequest, target, authority]

theorem secureTransport_alike {route route' : Route} (same : url.bare = url'.bare)
    (routes : route.Alike route') {peer peer' : Peer} (alike : peer.Alike route.transport peer')
    (trace : Trace) (cancelled : Bool) :
    (secureTransport settings url route peer trace cancelled).Alike
      (secureTransport settings url' route' peer' trace cancelled) := by
  have host : url.host = url'.host := Url.congr_bare Url.host (fun _ => rfl) same
  rw [secureTransport, secureTransport, ← routes.transport, host]
  cases transport : route.transport with
  | plain =>
    rw [transport] at alike
    exact ⟨.ok ⟨rfl, routes.via, alike⟩, rfl, rfl⟩
  | tls =>
    rw [transport] at alike
    obtain ⟨-, greeting, cancels, secure⟩ := alike
    simp only [greeting, cancels]
    split_ifs
    · exact ⟨.error _, rfl, rfl⟩
    rcases Handshake.run settings.trust url'.host.text (peer'.greeting url'.host.text) with
      ⟨e | _, seen⟩
    · cases e <;> exact ⟨.error _, rfl, rfl⟩
    · exact ⟨.ok ⟨rfl, routes.via, secure⟩, rfl, rfl⟩

theorem throughTunnel_alike {proxies : Proxies} (same : url.bare = url'.bare)
    (proxyAuth : Option Credentials) {peer peer' : Peer}
    (alike : peer.Alike url.scheme.transport peer') (cancelled : Bool) :
    (throughTunnel settings url proxyAuth (Route.select url proxies) peer cancelled).Alike
      (throughTunnel settings url' proxyAuth (Route.select url' proxies) peer' cancelled) := by
  have routes := Route.alike_select same proxies
  have tls := Route.tls_of_tunnel url proxies
  rw [← Route.transport_select url proxies] at alike
  generalize Route.select url proxies = route at *
  generalize Route.select url' proxies = route' at *
  rw [throughTunnel, throughTunnel, ← routes.via]
  cases via : route.via with
  | tunnel =>
    have transport := tls via
    obtain ⟨plain, greeting, cancels, secure⟩ := transport ▸ alike
    simp only
    split_ifs
    · exact ⟨.error _, rfl, rfl⟩
    rw [plain, openTunnel_bare same routes.peer]
    rcases (openTunnel url' route'.peer proxyAuth peer'.plain cancelled).outcome with e | _
    · exact ⟨.error _, rfl, rfl⟩
    · refine secureTransport_alike same routes ?_ _ _
      rw [transport, greeting]
      exact ⟨rfl, rfl, cancels, secure⟩
  | direct => exact secureTransport_alike same routes alike _ _
  | forward => exact secureTransport_alike same routes alike _ _

/-- **Opening a connection** does not depend on user information. -/
theorem Transfer.opening_alike (settings : Settings) (template : Template) {reach reach' : Reach}
    (same : url.bare = url'.bare)
    (alike : Reach.Alike url.scheme.transport reach reach') :
    (opening settings template reach url).Alike (opening settings template reach' url') := by
  have scheme : url.scheme = url'.scheme := Url.congr_bare Url.scheme (fun _ => rfl) same
  have auth : (templateFor settings template url).proxyAuth =
      (templateFor settings template url').proxyAuth := by
    rw [templateFor, templateFor, proxyAuth, proxyAuth, scheme]
  have routes := Route.alike_select same settings.proxies
  have dialled := dial_alike alike routes.peer false
  rw [opening, opening, connect, connect, auth]
  simp only [Bool.false_eq_true, if_false]
  obtain ⟨outcome, cancelled⟩ := dialled
  rw [cancelled]
  generalize (dial reach (Route.select url settings.proxies).peer false).outcome = own at outcome ⊢
  generalize (dial reach' (Route.select url' settings.proxies).peer false).outcome = other
    at outcome ⊢
  cases outcome with
  | error e => exact ⟨.error _, rfl, rfl⟩
  | ok peers => exact throughTunnel_alike same _ peers _

end Opening

/-! ## One hop -/

/-- The sink as it is when nothing more is heard. -/
def Heard.sink? : Heard → Option Sink
  | .noConnection .. => none
  | .noHead _ sink _ _ => some sink
  | .head _ reader _ _ => some reader.sink

namespace Transfer

section Hop

variable {settings : Settings} {template : Template} {network network' : Network}

/-- A hop that leads on has a connection, over which a head with a location has come. -/
theorem location_of_redirect {t after : Transfer} {next : Url}
    (h : t.hop settings template network = (.ok (some next), after)) :
    ∃ url connection, Url.read t.sink.url = .ok url ∧
      (opening settings template (network t.redirects.followed) url).outcome = .ok connection ∧
      ∃ cancels reader later location,
        (Reader.start settings.readBufferSize t.sink.reset).readHead
          ⟨connection.channel.inbound, cancels⟩ = (.ok (), reader, later) ∧
        Redirects.location? reader.sink = some location ∧ url.join location = .ok next := by
  obtain ⟨url, reader, stream, trace, heard, judged, -⟩ := heard_of_redirect h
  have judges := t.redirects.judges_judge reader.sink url
  rw [judged] at judges
  have hears := hears_hear settings template (network t.redirects.followed) t.sink t.cancelled
  rw [← Transfer.heard, heard] at hears
  cases judges with
  | @redirect location _ _ _ _ found joined =>
  cases hears with
  | @opened url' connection _ going read outcome same =>
  obtain ⟨rfl, cancels, head⟩ := connection.readHead_of_listen same.symm
  exact ⟨url, connection, read, outcome, cancels, reader, stream, location, head, found, joined⟩

/-- So the address that it leads to is a proper one. -/
theorem proper_of_redirect {t after : Transfer} {next : Url}
    (h : t.hop settings template network = (.ok (some next), after)) : next.Proper := by
  obtain ⟨url, _, read, _, _, _, _, _, _, _, joined⟩ := location_of_redirect h
  exact Url.proper_of_join (Url.proper_of_read read) joined

/-- **Where a hop leads to** does not depend on user information. -/
theorem bare_of_redirects {t t' after after' : Transfer} {url url' next next' : Url}
    (redirects : t.redirects = t'.redirects)
    (read : Url.read t.sink.url = .ok url) (read' : Url.read t'.sink.url = .ok url')
    (same : url.bare = url'.bare)
    (alike : Reach.Alike url.scheme.transport (network t.redirects.followed)
      (network' t.redirects.followed))
    (h : t.hop settings template network = (.ok (some next), after))
    (h' : t'.hop settings template network' = (.ok (some next'), after')) :
    next.bare = next'.bare := by
  obtain ⟨_, connection, found, outcome, cancels, reader, later, location, head, named, joined⟩ :=
    location_of_redirect h
  obtain ⟨_, connection', found', outcome', cancels', reader', later', location', head', named',
    joined'⟩ := location_of_redirect h'
  rw [← redirects] at outcome'
  obtain rfl := Except.ok.inj (read.symm.trans found)
  obtain rfl := Except.ok.inj (read'.symm.trans found')
  have connections := (opening_alike settings template same alike).outcome
  rw [outcome, outcome'] at connections
  cases connections with
  | ok connections =>
  have responses : AlikeResponses (Stream.waiting ⟨connection.channel.inbound, cancels⟩)
      (Stream.waiting ⟨connection'.channel.inbound, cancels'⟩) := connections.channel.inbound
  exact (Reader.leadsAlike_of_readHead rfl rfl responses head head' named named').bare same joined
    joined'

/-- Before its request a hop does not show the user information of its address. -/
theorem trace?_alike (settings : Settings) (template : Template) {t t' : Transfer}
    {url url' : Url} (cancelled : t.cancelled = t'.cancelled)
    (redirects : t.redirects = t'.redirects)
    (read : Url.read t.sink.url = .ok url) (read' : Url.read t'.sink.url = .ok url')
    (same : url.bare = url'.bare)
    (alike : Reach.Alike url.scheme.transport (network t.redirects.followed)
      (network' t.redirects.followed)) :
    t.trace? settings template network = t'.trace? settings template network' ∨
    ∃ (before : Trace) (connection : Connection),
      t.trace? settings template network = some (before ++ [connection.sends
        ((templateFor settings template url).request url connection.via)]) ∧
      t'.trace? settings template network' = some (before ++ [connection.sends
        ((templateFor settings template url').request url' connection.via)]) := by
  by_cases gone : t.cancelled = true
  · have gone' := gone
    rw [cancelled] at gone'
    rw [trace?, trace?, heard, heard, hear, hear, if_pos gone, if_pos gone']
    exact .inl rfl
  rw [Bool.not_eq_true] at gone
  have gone' := gone
  rw [cancelled] at gone'
  obtain ⟨outcome, trace, stopped⟩ :=
    opening_alike settings template same alike
  nth_rewrite 2 [redirects] at outcome trace stopped
  rcases opened : (opening settings template (network t.redirects.followed) url).outcome with
    e | connection <;>
    rcases opened' : (opening settings template (network' t'.redirects.followed) url').outcome with
      e' | connection' <;>
    rw [opened, opened'] at outcome <;> cases outcome
  · left
    rw [trace?, trace?, heard, heard, hear, hear, gone, gone', read, read']
    simp only [Bool.false_eq_true, if_false, opened, opened', trace, Heard.trace?]
  · rename_i connections
    have sends : connection'.sends = connection.sends := by
      funext bytes
      rw [Connection.sends, Connection.sends, Connection.event, Connection.event,
        connections.transport, connections.channel.outlet]
    rw [trace?_opened gone read opened, trace?_opened gone' read' opened',
      Connection.trace?_listen, Connection.trace?_listen, trace, stopped, sends, ← connections.via]
    split_ifs
    · exact .inl rfl
    · exact .inr ⟨_, connection, rfl, rfl⟩

/-- The request of a hop shows the user information of its address in the line of the credentials
alone. -/
theorem request_bare (settings : Settings) (template : Template) {url url' : Url}
    (same : url.bare = url'.bare) (via : Via) :
    ∃ front back,
      (templateFor settings template url).request url via = wireMessage
        (front ++ authLine "Authorization" (httpAuth template url) ++ back) template.body ∧
      (templateFor settings template url').request url' via = wireMessage
        (front ++ authLine "Authorization" (httpAuth template url') ++ back) template.body := by
  have front : template.front url via = template.front url' via :=
    Url.congr_bare (template.front · via) (fun _ => rfl) same
  have back : (templateFor settings template url).back via =
      (templateFor settings template url').back via :=
    Url.congr_bare (fun url => (templateFor settings template url).back via) (fun _ => rfl) same
  exact ⟨_, _, request_eq settings template url via, by rw [request_eq, front, back]⟩

/-- If the template has credentials, that line does not show it either. -/
theorem httpAuth_active (active : Template.active template.httpAuth ≠ none) (url url' : Url) :
    httpAuth template url = httpAuth template url' := by
  obtain ⟨credentials, active⟩ := Option.ne_none_iff_exists'.1 active
  rw [httpAuth, httpAuth, active, Option.some_or, Option.some_or]

/-- From one text nothing differs. -/
theorem trace?_congr {t t' : Transfer} (cancelled : t.cancelled = t'.cancelled)
    (redirects : t.redirects = t'.redirects) (text : t.sink.url = t'.sink.url)
    (alike : ∀ url, Url.read t.sink.url = .ok url → Reach.Alike url.scheme.transport
      (network t.redirects.followed) (network' t.redirects.followed)) :
    t.trace? settings template network = t'.trace? settings template network' := by
  rcases read : Url.read t.sink.url with e | url
  · have read' := read
    rw [text] at read'
    rw [trace?, trace?, heard, heard, hear, hear, read, read', cancelled]
  · have read' := read
    rw [text] at read'
    rcases trace?_alike settings template cancelled redirects read read' rfl (alike url read) with
      same | ⟨before, connection, own, other⟩
    · exact same
    · rw [own, other]

end Hop

/-! ## All hops -/

section Run

variable {settings : Settings} {template : Template} {network network' : Network}

/-- A hop that leads on is not the only one. -/
theorem one_lt_length_hops (t : Transfer) :
    1 < (t.hops settings template network).length ↔
      ∃ next after, t.hop settings template network = (.ok (some next), after) := by
  refine ⟨fun more => Classical.byContradiction fun last => ?_, ?_⟩
  · rw [hops_last fun next after same => last ⟨next, after, same⟩] at more
    exact absurd more (by simp)
  · rintro ⟨next, after, hop⟩
    have mem : after.goOn next ∈ (after.goOn next).hops settings template network :=
      self_mem_hops _
    have later := List.length_pos_of_mem mem
    rw [hops_redirect hop, List.length_cons]
    omega

/-- Of two transfers with as many hops both lead on or neither. -/
theorem redirects_iff {t t' : Transfer}
    (together : (t.hops settings template network).map (·.cancelled) =
      (t'.hops settings template network').map (·.cancelled)) :
    (∃ next after, t.hop settings template network = (.ok (some next), after)) ↔
      ∃ next after, t'.hop settings template network' = (.ok (some next), after) := by
  have length : (t.hops settings template network).length =
      (t'.hops settings template network').length := by
    simpa using congrArg List.length together
  rw [← one_lt_length_hops, ← one_lt_length_hops, length]

/-- If both lead on, they lead to one text. -/
theorem goOn_alike {t t' after after' : Transfer} {url url' next next' : Url}
    (redirects : t.redirects = t'.redirects)
    (read : Url.read t.sink.url = .ok url) (read' : Url.read t'.sink.url = .ok url')
    (same : url.bare = url'.bare)
    (alike : Reach.Alike url.scheme.transport (network t.redirects.followed)
      (network' t.redirects.followed))
    (h : t.hop settings template network = (.ok (some next), after))
    (h' : t'.hop settings template network' = (.ok (some next'), after')) :
    (after.goOn next).sink.url = (after'.goOn next').sink.url ∧
      (after.goOn next).redirects = (after'.goOn next').redirects := by
  have bare := bare_of_redirects redirects read read' same alike h h'
  refine ⟨Url.congr_bare Url.text (fun _ => rfl) bare, ?_⟩
  rw [goOn, goOn, (hop_redirect h).2, (hop_redirect h').2, redirects]

/-- Transfers to one text send the same on all their hops, as long as they follow the same ones. -/
theorem hops_alike {t t' : Transfer} (text : t.sink.url = t'.sink.url)
    (redirects : t.redirects = t'.redirects)
    (alike : ∀ s ∈ t.hops settings template network, ∀ url, Url.read s.sink.url = .ok url →
      Reach.Alike url.scheme.transport (network s.redirects.followed)
        (network' s.redirects.followed))
    (together : (t.hops settings template network).map (·.cancelled) =
      (t'.hops settings template network').map (·.cancelled)) :
    (t.hops settings template network).map
        (fun s => (s.sink.url, s.trace? settings template network)) =
      (t'.hops settings template network').map
        (fun s => (s.sink.url, s.trace? settings template network')) := by
  induction t using hop_induction settings template network generalizing t' with
  | last t last =>
    have last' : t'.IsLast settings template network' := fun next' after' hop' =>
      have ⟨next, after, hop⟩ := (redirects_iff together).2 ⟨next', after', hop'⟩
      last next after hop
    rw [hops_last last] at together ⊢
    rw [hops_last last'] at together ⊢
    have cancelled : t.cancelled = t'.cancelled := by simpa using together
    rw [List.map_singleton, List.map_singleton, text,
      trace?_congr cancelled redirects text (alike t (self_mem_hops t))]
  | redirect t after next hop ih =>
    obtain ⟨next', after', hop'⟩ := (redirects_iff together).1 ⟨next, after, hop⟩
    obtain ⟨url, _, read, _⟩ := location_of_redirect hop
    have read' := read
    rw [text] at read'
    have here := alike t (self_mem_hops t)
    obtain ⟨text', redirects'⟩ := goOn_alike redirects read read' rfl (here url read) hop hop'
    rw [hops_redirect hop] at alike together ⊢
    rw [hops_redirect hop'] at together ⊢
    rw [List.map_cons, List.map_cons, List.cons.injEq] at together
    rw [List.map_cons, List.map_cons, text, trace?_congr together.1 redirects text here,
      ih text' redirects' (fun s mem => alike s (List.mem_cons_of_mem t mem)) together.2]

theorem hops_eq_cons (t : Transfer) :
    t.hops settings template network = t :: (t.hops settings template network).tail := by
  rcases hop : t.hop settings template network with ⟨e | _ | next, after⟩
  · rw [hops_last fun _ _ same => by rw [hop] at same; cases same]
    rfl
  · rw [hops_last fun _ _ same => by rw [hop] at same; cases same]
    rfl
  · rw [hops_redirect hop]
    rfl

/-- After the first hop nothing depends on user information. -/
theorem tail_alike {t t' : Transfer} {url url' : Url}
    (redirects : t.redirects = t'.redirects)
    (read : Url.read t.sink.url = .ok url) (read' : Url.read t'.sink.url = .ok url')
    (same : url.bare = url'.bare)
    (alike : ∀ s ∈ t.hops settings template network, ∀ url, Url.read s.sink.url = .ok url →
      Reach.Alike url.scheme.transport (network s.redirects.followed)
        (network' s.redirects.followed))
    (together : (t.hops settings template network).map (·.cancelled) =
      (t'.hops settings template network').map (·.cancelled)) :
    (t.hops settings template network).tail.map
        (fun s => (s.sink.url, s.trace? settings template network)) =
      (t'.hops settings template network').tail.map
        (fun s => (s.sink.url, s.trace? settings template network')) := by
  by_cases leads : ∃ next after, t.hop settings template network = (.ok (some next), after)
  · obtain ⟨next', after', hop'⟩ := (redirects_iff together).1 leads
    obtain ⟨next, after, hop⟩ := leads
    obtain ⟨text, redirects'⟩ := goOn_alike redirects read read' same
      (alike t (self_mem_hops t) url read) hop hop'
    rw [hops_redirect hop] at alike together ⊢
    rw [hops_redirect hop'] at together ⊢
    rw [List.map_cons, List.map_cons, List.cons.injEq] at together
    exact hops_alike text redirects' (fun s mem => alike s (List.mem_cons_of_mem t mem)) together.2
  · have leads' := leads
    rw [redirects_iff together] at leads'
    rw [hops_last fun next after hop => leads ⟨next, after, hop⟩,
      hops_last fun next after hop => leads' ⟨next, after, hop⟩]
    rfl

/-- After the first hop the sink holds the text of an address. -/
theorem text_of_mem_tail {t s : Transfer} (mem : s ∈ (t.hops settings template network).tail) :
    ∃ next : Url, next.Proper ∧ s.sink.url = next.text := by
  induction t using hop_induction settings template network with
  | last t last =>
    rw [hops_last last] at mem
    cases mem
  | redirect t after next hop ih =>
    rw [hops_redirect hop, List.tail_cons, hops_eq_cons] at mem
    rcases List.mem_cons.1 mem with rfl | mem
    · exact ⟨next, proper_of_redirect hop, rfl⟩
    · exact ih mem

/-- What is heard over a connection has no part in the address. -/
theorem url_of_listens {url : Url} {sink left : Sink} {heard : Heard}
    (h : Listens settings url sink heard) (mem : left ∈ heard.sink?) : left.url = sink.url := by
  cases h with
  | cancelled | unsent =>
    cases mem
    rfl
  | @incomplete inbound _ _ _ _ read | @head inbound _ _ _ read =>
    cases mem
    have kept := Reader.url_readHead (r := Reader.start settings.readBufferSize sink) rfl inbound
    rw [read] at kept
    exact kept

theorem url_of_heard {t : Transfer} {left : Sink}
    (mem : left ∈ (t.heard settings template network).sink?) : left.url = t.sink.url := by
  have connected : (t.heard settings template network).isConnected = true := by
    rcases heard : t.heard settings template network <;> rw [heard] at mem
    · cases mem
    · rfl
    · rfl
  obtain ⟨_, listens⟩ := listens_of_isConnected connected
  have kept : left.url = t.sink.reset.url := url_of_listens listens mem
  exact kept

/-- A hop leaves the address as it is. -/
theorem url_hop (t : Transfer) : (t.hop settings template network).2.sink.url = t.sink.url := by
  rcases hop : t.hop settings template network with ⟨outcome, after⟩
  cases hopped_of_hop hop with
  | noConnection => rfl
  | noHead heard | abort heard | redirect heard => exact url_of_heard (by rw [heard]; rfl)
  | @accept _ reader stream _ heard =>
    have head : reader.sink.url = t.sink.url := url_of_heard (by rw [heard]; rfl)
    have body := congrArg Sink.url (reader.heading_readBody stream t.disk)
    exact body.trans head

/-- In the end the sink holds the address of the last hop. -/
theorem url_run (t : Transfer) :
    ((t.hops settings template network).map (·.sink.url)).getLast? =
      some (t.run settings template network).2.sink.url := by
  induction t using hop_induction settings template network with
  | last t last => rw [hops_last last, run_last last, url_hop]; rfl
  | redirect t after next hop ih =>
    rw [hops_redirect hop, run_redirect hop, List.map_cons, List.getLast?_cons, ih]
    rfl

end Run

end Transfer

theorem fetch_url (settings : Settings) (template : Template) (network : Network) (sink : Sink)
    (disk : Disk) (cancelled : Bool) :
    (((Transfer.start settings sink disk cancelled).hops settings template network).map
      (·.sink.url)).getLast? =
        some (fetch settings template network sink disk cancelled).completion.sink.url := by
  rw [Transfer.url_run]
  have closed := congrArg Sink.url (Sink.heading_complete
    ((Transfer.start settings sink disk cancelled).run settings template network).2.sink
    ((Transfer.start settings sink disk cancelled).run settings template network).2.disk)
  exact congrArg some closed.symm

/-- After a redirect that is the address of a later hop. -/
theorem fetch_url_tail (settings : Settings) (template : Template) (network : Network)
    (sink : Sink) (disk : Disk) (cancelled : Bool)
    (redirected :
      ((Transfer.start settings sink disk cancelled).hops settings template network).tail ≠ []) :
    (((Transfer.start settings sink disk cancelled).hops settings template network).tail.map
      (·.sink.url)).getLast? =
        some (fetch settings template network sink disk cancelled).completion.sink.url := by
  have last := fetch_url settings template network sink disk cancelled
  rw [Transfer.hops_eq_cons] at last
  generalize ((Transfer.start settings sink disk cancelled).hops settings template network).tail =
    later at redirected last ⊢
  cases later with
  | nil => exact absurd rfl redirected
  | cons t rest => exact last

/-- **User information goes no further than the first hop.** Take two transfers with the same
settings and the same template, to addresses that differ only in user information, of which the
peers send responses that differ only in where absolute locations have user information, and which
follow the same hops and are cancelled, if at all, before the same one. Then what is sent on all
hops after the first is the same. What is sent on the first hop is the same but for the line of the
credentials, and is the same altogether if the template has credentials. From the first redirect on
the sinks have the same address, which has no user information. -/
theorem fetch_userInfo {settings : Settings} {template : Template} {network network' : Network}
    {sink sink' : Sink} {disk disk' : Disk} {cancelled : Bool} {first first' : Url}
    (read : Url.read sink.url = .ok first) (read' : Url.read sink'.url = .ok first')
    (same : first.bare = first'.bare)
    (alike : ∀ t ∈ (Transfer.start settings sink disk cancelled).hops settings template network,
      ∀ url, Url.read t.sink.url = .ok url → Reach.Alike url.scheme.transport
        (network t.redirects.followed) (network' t.redirects.followed))
    (together :
      ((Transfer.start settings sink disk cancelled).hops settings template network).map
        (·.cancelled) =
      ((Transfer.start settings sink' disk' cancelled).hops settings template network').map
        (·.cancelled)) :
    let start := Transfer.start settings sink disk cancelled
    let start' := Transfer.start settings sink' disk' cancelled
    let whole := fetch settings template network sink disk cancelled
    let whole' := fetch settings template network' sink' disk' cancelled
    let later := (start.hops settings template network).tail
    let later' := (start'.hops settings template network').tail
    (∃ traces, whole.traces = (start.trace? settings template network).toList ++ traces ∧
      whole'.traces = (start'.trace? settings template network').toList ++ traces) ∧
    (start.trace? settings template network = start'.trace? settings template network' ∨
      ∃ before connection front back,
        start.trace? settings template network = some (before ++ [Connection.sends connection
          (wireMessage (front ++ authLine "Authorization" (Transfer.httpAuth template first) ++
            back) template.body)]) ∧
        start'.trace? settings template network' = some (before ++ [Connection.sends connection
          (wireMessage (front ++ authLine "Authorization" (Transfer.httpAuth template first') ++
            back) template.body)])) ∧
    (Template.active template.httpAuth ≠ none →
      start.trace? settings template network = start'.trace? settings template network') ∧
    (later.map (·.sink.url) = later'.map (·.sink.url) ∧
      ∀ t ∈ later, Url.NamesNoUser t.sink.url ∧
        ∀ url, Url.read t.sink.url = .ok url → url.username = none ∧ url.password = none) ∧
    (later ≠ [] → whole.completion.sink.url = whole'.completion.sink.url ∧
      Url.NamesNoUser whole.completion.sink.url) := by
  intro start start' whole whole' later later'
  have hops : start.hops settings template network = start :: later := Transfer.hops_eq_cons start
  have hops' : start'.hops settings template network' = start' :: later' :=
    Transfer.hops_eq_cons start'
  have tails : later.map (fun t => (t.sink.url, t.trace? settings template network)) =
      later'.map fun t => (t.sink.url, t.trace? settings template network') :=
    Transfer.tail_alike rfl read read' same alike together
  have urls : later.map (·.sink.url) = later'.map (·.sink.url) := by
    simpa [Function.comp_def] using congrArg (List.map Prod.fst) tails
  have traces : later.filterMap (·.trace? settings template network) =
      later'.filterMap (·.trace? settings template network') := by
    simpa [List.filterMap_map, Function.comp_def] using congrArg (List.filterMap Prod.snd) tails
  have unnamed : ∀ t ∈ later, Url.NamesNoUser t.sink.url ∧
      ∀ url, Url.read t.sink.url = .ok url → url.username = none ∧ url.password = none := by
    intro t mem
    obtain ⟨next, proper, text⟩ := Transfer.text_of_mem_tail mem
    rw [text]
    exact ⟨Url.namesNoUser_text proper, fun url => Url.userInfo_of_read_text proper⟩
  have alone : start.cancelled = start'.cancelled ∧ start.redirects = start'.redirects := ⟨rfl, rfl⟩
  have here := Transfer.trace?_alike settings template alone.1 alone.2 read read' same
    (alike start (Transfer.self_mem_hops start) _ read)
  have requests := Transfer.request_bare settings template same
  refine ⟨⟨later.filterMap (·.trace? settings template network), ?_, ?_⟩, ?_, fun active => ?_,
    ⟨urls, unnamed⟩, fun redirected => ?_⟩
  · rw [fetch_traces, hops, List.filterMap_cons]
    cases start.trace? settings template network <;> rfl
  · rw [fetch_traces, hops', List.filterMap_cons, traces]
    cases start'.trace? settings template network' <;> rfl
  · rcases here with here | ⟨before, connection, own, other⟩
    · exact .inl here
    obtain ⟨front, back, request, request'⟩ := requests connection.via
    rw [request] at own
    rw [request'] at other
    exact .inr ⟨before, connection, front, back, own, other⟩
  · rcases here with here | ⟨before, connection, own, other⟩
    · exact here
    obtain ⟨front, back, request, request'⟩ := requests connection.via
    rw [own, other, request, request', Transfer.httpAuth_active active first first']
  · have redirected' : later' ≠ [] := fun none => redirected <| by
      rw [none] at urls
      exact List.map_eq_nil_iff.1 urls
    have last := fetch_url_tail settings template network sink disk cancelled redirected
    have last' := fetch_url_tail settings template network' sink' disk' cancelled redirected'
    obtain ⟨t, mem, ends⟩ := List.mem_map.1 (List.mem_of_getLast? last)
    refine ⟨Option.some.inj (last.symm.trans ((congrArg List.getLast? urls).trans last')), ?_⟩
    rw [← ends]
    exact (unnamed t mem).1

/-- A redirect to an address with or without user information, and what is found there. -/
def redirecting (info : String) : Network := fun hop =>
  if hop = 0 then answering ("V 302 F\nLocation: http://" ++ info ++ "[::2]/b\n\n")
  else answering "V 200 O\n\n"

/-- With and without user information the redirect leads alike. -/
theorem alike_redirecting {hop : Nat} {transport : Transport}
    (plain : hop = 0 → transport = .plain) :
    Reach.Alike transport (redirecting "p:q@" hop) (redirecting "" hop) := by
  rw [redirecting, redirecting]
  split_ifs with first
  · rw [plain first]
    have found : Url.join ⟨.http, "", none, .domain "a", none, [""], none, none⟩ "http://[::2]/b" =
        .ok ⟨.http, "", none, .ipv6 ⟨[0, 0, 0, 0, 0, 0, 0, 2], rfl⟩, none, ["b"], none, none⟩ := by
      decide +kernel
    have written : "http://p:q@[::2]/b".toList = Scheme.http.name.toList ++
        ':' :: '/' :: '/' :: ("p:q".toList ++ '@' :: "[::2]/b".toList) := by
      decide +kernel
    have written' : "http://[::2]/b".toList = Scheme.http.name.toList ++
        ':' :: '/' :: '/' :: "[::2]/b".toList := by
      decide +kernel
    have leads : Url.LeadsAlike (Reader.lineText (Utf8.encode " http://p:q@[::2]/b"))
        (Reader.lineText (Utf8.encode " http://[::2]/b")) :=
      Url.leadsAlike_userInfo .http (forall_mem_of_all (by decide +kernel))
        (forall_mem_of_all (by decide +kernel)) (forall_mem_of_all (by decide +kernel))
        (by rintro c ⟨⟩; rfl) written written' found
    have fields : AlikeFields
        (Utf8.encode "Location" ++ 58 :: (Utf8.encode " http://p:q@[::2]/b" ++ [10, 10]))
        (Utf8.encode "Location" ++ 58 :: (Utf8.encode " http://[::2]/b" ++ [10, 10])) :=
      .location (forall_mem_of_all (by decide +kernel)) (by decide +kernel) (by decide +kernel)
        (by decide +kernel) leads (.same [10])
    have responses : AlikeResponses (Utf8.encode "V 302 F" ++ 10 :: _)
        (Utf8.encode "V 302 F" ++ 10 :: _) := .fields fields
    exact fun _ _ => .ok (.cons ⟨rfl, rfl, .ok ⟨rfl, responses⟩⟩ .nil)
  · exact Reach.alike_refl transport _

/-- A transfer that is redirected once goes two hops, and neither is cancelled. -/
theorem hops_redirecting (info text : String)
    (check : ((Transfer.start {} (.inMemory text) {} false).next? {} {} (redirecting info)).any
      (fun t => !t.cancelled && (t.next? {} {} (redirecting info)).isNone) = true) :
    ∃ t, (Transfer.start {} (.inMemory text) {} false).hops {} {} (redirecting info) =
      [Transfer.start {} (.inMemory text) {} false, t] ∧ t.cancelled = false := by
  obtain ⟨t, next, check⟩ := (Option.any_eq_true _ _).1 check
  rw [Bool.and_eq_true, Bool.not_eq_true', Option.isNone_iff_eq_none] at check
  exact ⟨t, Transfer.hops_next? next check.2, check.1⟩

/-- The second hop sends the same in both cases, and then the sink names no user. -/
theorem fetch_userInfo_redirected :
    let whole := fetch {} {} (redirecting "p:q@") (.inMemory "http://x:y@[::1]/a") {} false
    let whole' := fetch {} {} (redirecting "") (.inMemory "http://[::1]/a") {} false
    (∃ own other : Option Trace, ∃ traces, own ≠ other ∧
      whole.traces = own.toList ++ traces ∧ whole'.traces = other.toList ++ traces) ∧
    whole.completion.sink.url = whole'.completion.sink.url ∧
      Url.NamesNoUser whole.completion.sink.url := by
  intro whole whole'
  obtain ⟨t, hops, going⟩ := hops_redirecting "p:q@" "http://x:y@[::1]/a" (by decide +kernel)
  obtain ⟨t', hops', going'⟩ := hops_redirecting "" "http://[::1]/a" (by decide +kernel)
  let place : Host := .ipv6 ⟨[0, 0, 0, 0, 0, 0, 0, 1], rfl⟩
  obtain ⟨first, first', read, read', same, http⟩ : ∃ first first' : Url,
      Url.read (Sink.inMemory "http://x:y@[::1]/a").url = .ok first ∧
        Url.read (Sink.inMemory "http://[::1]/a").url = .ok first' ∧
        first.bare = first'.bare ∧ first.scheme = .http :=
    ⟨⟨.http, "x", some "y", place, none, ["a"], none, none⟩,
      ⟨.http, "", none, place, none, ["a"], none, none⟩, by decide +kernel, by decide +kernel, rfl,
      rfl⟩
  have alike : ∀ s ∈ (Transfer.start {} (.inMemory "http://x:y@[::1]/a") {} false).hops {} {}
      (redirecting "p:q@"), ∀ url, Url.read s.sink.url = .ok url → Reach.Alike url.scheme.transport
        (redirecting "p:q@" s.redirects.followed) (redirecting "" s.redirects.followed) := by
    intro s mem url found
    refine alike_redirecting fun first => ?_
    obtain ⟨i, place⟩ := List.getElem?_of_mem mem
    have count := congrArg Redirects.followed (Transfer.redirects_of_getElem? place)
    obtain rfl : i = 0 := by
      rw [first] at count
      simp only [Transfer.start] at count
      omega
    rw [hops] at place
    cases place
    obtain rfl := Except.ok.inj (read.symm.trans found)
    rw [http]
    rfl
  have together : ((Transfer.start {} (.inMemory "http://x:y@[::1]/a") {} false).hops {} {}
      (redirecting "p:q@")).map (·.cancelled) =
      ((Transfer.start {} (.inMemory "http://[::1]/a") {} false).hops {} {}
        (redirecting "")).map (·.cancelled) := by
    rw [hops, hops']
    simp [going, going', Transfer.start]
  obtain ⟨⟨traces, own, other⟩, -, -, -, ends⟩ := fetch_userInfo read read' same alike together
  refine ⟨⟨_, _, traces, ?_, own, other⟩, ends ?_⟩
  · decide +kernel
  · rw [hops]
    simp

end HttpFetch
