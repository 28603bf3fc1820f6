import HttpFetch.Proofs.Hops
/-!
# What is sent on each hop

The traces of a transfer are those of its hops, in their order (`Transfer.traces_run`), and what a
hop sends once its connection stands is its request (`Transfer.trace?_opened`). The credentials of
the template are one line of that request, and the line has no part in the rest
(`Template.head_eq`). It is the same on every hop: nothing in a transfer keeps account of the server
that the credentials were meant for (`fetch_authorization`).
-/

namespace HttpFetch

/-! ## Routes -/

namespace Route

/-- Tunnels are only for TLS. -/
theorem tls_of_tunnel (url : Url) (proxies : Proxies)
    (tunnel : (select url proxies).via = .tunnel) :
    (select url proxies).transport = .tls := by
  rw [select] at tunnel ⊢
  rcases proxy : proxies.forScheme url.scheme with _ | proxy <;> simp only [proxy] at tunnel ⊢
  · cases tunnel
  · cases scheme : url.scheme <;> rw [scheme] at tunnel
    · cases tunnel
    · rfl

theorem transport_select (url : Url) (proxies : Proxies) :
    (select url proxies).transport = url.scheme.transport := by
  rw [select]
  cases proxies.forScheme url.scheme <;> rfl

end Route

/-! ## The traces of a transfer -/

/-- What happened on the connection of a hop, if there was one. -/
def Heard.trace? : Heard → Option Trace
  | .noConnection _ trace _ => trace
  | .noHead _ _ _ trace => some trace
  | .head _ _ _ trace => some trace

/-- What sending bytes on a connection leaves in its trace: those that the peer takes. -/
def Connection.sends (connection : Connection) (bytes : Bytes) : Event :=
  connection.event (connection.channel.outlet.write bytes).sent

/-- The request is sent, unless the transfer is cancelled before. -/
theorem Connection.trace?_listen (connection : Connection) (settings : Settings)
    (template : Template) (url : Url) (sink : Sink) (cancelled : Bool) (trace : Trace) :
    (connection.listen settings template url sink cancelled trace).trace? =
      some (if cancelled then trace
        else trace ++ [connection.sends (template.request url connection.via)]) := by
  rw [listen]
  split_ifs
  · rfl
  simp only
  rcases (connection.channel.outlet.write (template.request url connection.via)).outcome with
    fault | _
  · rfl
  simp only
  rcases (Reader.start settings.readBufferSize sink).readHead
    ⟨connection.channel.inbound,
      (connection.channel.outlet.write (template.request url connection.via)).cancels⟩ with
    ⟨_ | _, _, _⟩ <;> rfl

namespace Transfer

section Run

variable {settings : Settings} {template : Template} {network : Network}

/-- The transfer at the start of the hop after this one, if this one leads on. -/
def next? (t : Transfer) (settings : Settings) (template : Template) (network : Network) :
    Option Transfer :=
  (t.hop settings template network).1.toOption.join.map
    (t.hop settings template network).2.goOn

theorem exists_hop_of_next? {t s : Transfer} (h : t.next? settings template network = some s) :
    ∃ next after, t.hop settings template network = (.ok (some next), after) ∧
      s = after.goOn next := by
  rw [next?] at h
  rcases hop : t.hop settings template network with ⟨e | _ | next, after⟩ <;> rw [hop] at h
  · cases h
  · cases h
  · exact ⟨next, after, rfl, (Option.some.inj h).symm⟩

theorem isLast_of_next? {t : Transfer} (h : t.next? settings template network = none) :
    t.IsLast settings template network := by
  intro next after hop
  rw [next?, hop] at h
  cases h

theorem next?_mem_hops {t s : Transfer} (h : t.next? settings template network = some s) :
    s ∈ t.hops settings template network := by
  obtain ⟨next, after, hop, rfl⟩ := exists_hop_of_next? h
  exact goOn_mem_hops (self_mem_hops t) hop

/-- What holds of the transfer that a hop leads on to holds of one of the hops. -/
theorem exists_hop_of_any {t : Transfer} {p : Transfer → Bool}
    (h : (t.next? settings template network).any p = true) :
    ∃ s ∈ t.hops settings template network, p s = true := by
  obtain ⟨s, next, holds⟩ := (Option.any_eq_true _ _).1 h
  exact ⟨s, next?_mem_hops next, holds⟩

theorem hops_next? {t s : Transfer} (h : t.next? settings template network = some s)
    (last : s.next? settings template network = none) :
    t.hops settings template network = [t, s] := by
  obtain ⟨next, after, hop, rfl⟩ := exists_hop_of_next? h
  rw [hops_redirect hop, hops_last (isLast_of_next? last)]

/-- What happened on the connection of a hop of a transfer. -/
def trace? (t : Transfer) (settings : Settings) (template : Template) (network : Network) :
    Option Trace := (t.heard settings template network).trace?

/-- Once its connection stands, a hop sends its request. -/
theorem trace?_opened {t : Transfer} {url : Url} {connection : Connection}
    (going : t.cancelled = false) (read : Url.read t.sink.url = .ok url)
    (opened : (opening settings template (network t.redirects.followed) url).outcome =
      .ok connection) :
    t.trace? settings template network =
      (connection.listen settings (templateFor settings template url) url t.sink.reset
        (opening settings template (network t.redirects.followed) url).cancelled
        ((opening settings template (network t.redirects.followed) url).trace.getD [])).trace? := by
  rw [trace?, heard, hear, going, read]
  simp only [Bool.false_eq_true, if_false, opened]

theorem traces_hop (settings : Settings) (template : Template) (network : Network)
    (t : Transfer) :
    (t.hop settings template network).2.traces =
      t.traces ++ (t.trace? settings template network).toList := by
  rw [hop_eq, trace?]
  rcases t.heard settings template network with
    ⟨e, trace, cancelled⟩ | ⟨e, sink, cancelled, trace⟩ | ⟨url, reader, stream, trace⟩
  · rfl
  · rfl
  · rw [conclude, traces_settle]
    rfl

/-- **The traces of a transfer are those of its hops.** -/
theorem traces_run (settings : Settings) (template : Template) (network : Network)
    (t : Transfer) :
    (t.run settings template network).2.traces =
      t.traces ++ (t.hops settings template network).filterMap
        (·.trace? settings template network) := by
  induction t using hop_induction settings template network with
  | last t last =>
    rw [run_last last, hops_last last]
    simp only [traces_hop]
    rcases h : t.trace? settings template network <;> simp [h]
  | redirect t after next hop ih =>
    have traces := traces_hop settings template network t
    rw [hop] at traces
    have same : (after.goOn next).traces = after.traces := rfl
    rw [run_redirect hop, hops_redirect hop, ih, same, traces]
    rcases h : t.trace? settings template network <;> simp [h]

end Run

end Transfer

theorem fetch_traces (settings : Settings) (template : Template) (network : Network) (sink : Sink)
    (disk : Disk) (cancelled : Bool) :
    (fetch settings template network sink disk cancelled).traces =
      ((Transfer.start settings sink disk cancelled).hops settings template network).filterMap
        (·.trace? settings template network) := by
  have traces := Transfer.traces_run settings template network
    (Transfer.start settings sink disk cancelled)
  simpa [fetch, Transfer.finish, Transfer.start] using traces

/-! ## The line of the credentials -/

namespace Template

/-- The lines of a request before the one that shows credentials to the server. -/
def front (template : Template) (url : Url) (via : Via) : List String :=
  [template.requestLine url via, fieldLine "Host" (template.hostValue url via),
    fieldLine "Content-Length" (toString template.body.length)] ++
  template.ownFields.map fun (name, value) => fieldLine name value

/-- The lines of a request after the one that shows credentials to the server. -/
def back (template : Template) (via : Via) : List String :=
  if via = .forward then authLine "Proxy-Authorization" template.proxyAuth else []

/-- The credentials for the server are a line of their own. -/
theorem head_eq (template : Template) (url : Url) (via : Via) :
    template.head url via =
      template.front url via ++ authLine "Authorization" template.httpAuth ++
        template.back via := by
  rw [head, front, back]

end Template

theorem authLine_active {name : String} {auth : Option Credentials} {credentials : Credentials}
    (active : Template.active auth = some credentials) :
    authLine name auth = [fieldLine name credentials.basic] := by
  rw [authLine, active]

/-- The request of a hop, with the line of the credentials for its server set apart. -/
theorem Transfer.request_eq (settings : Settings) (template : Template) (url : Url) (via : Via) :
    (templateFor settings template url).request url via =
      wireMessage (template.front url via ++ authLine "Authorization" (httpAuth template url) ++
        (templateFor settings template url).back via) template.body := by
  rw [Template.request, Template.head_eq]
  rfl

/-- With credentials in the template, the request of every hop has their line, in the same place and
whatever its address. -/
theorem Transfer.request_active {settings : Settings} {template : Template} {url : Url} (via : Via)
    {credentials : Credentials} (active : Template.active template.httpAuth = some credentials) :
    (templateFor settings template url).request url via =
      wireMessage (template.front url via ++ [fieldLine "Authorization" credentials.basic] ++
        (templateFor settings template url).back via) template.body := by
  have auth : httpAuth template url = some credentials := by rw [httpAuth, active, Option.some_or]
  have worth : credentials.isEmpty = false := by
    have kept := (Option.filter_eq_some_iff.1 active).2
    simpa using kept
  have again : Template.active (some credentials) = some credentials := by
    simp [Template.active, worth]
  rw [request_eq, auth, authLine_active again]

/-- Whether a message with a line is among what was sent on a connection. -/
def Trace.Shows (trace : Trace) (line : String) : Prop :=
  ∃ front back body, Event.plain (wireMessage (front ++ [line] ++ back) body) ∈ trace ∨
    Event.sealed (wireMessage (front ++ [line] ++ back) body) ∈ trace

/-- **The credentials of a template are shown to every server**, be it the one that the transfer was
started for or one that a redirect leads to. On every hop whose connection opens their line is sent,
as far as the peer takes the request, and always at the same place: after the request line, `Host`,
`Content-Length` and the fields of the caller's own, before the line for a forwarding proxy. The other
lines are those of the request without credentials, and neither they nor anything that is sent before,
to open the connection, depend on what the credentials are. -/
theorem fetch_authorization (settings : Settings) (template : Template) (network : Network)
    (sink : Sink) (disk : Disk) (cancelled : Bool) {credentials : Credentials}
    (active : Template.active template.httpAuth = some credentials) :
    let hops := (Transfer.start settings sink disk cancelled).hops settings template network
    (fetch settings template network sink disk cancelled).traces =
      hops.filterMap (·.trace? settings template network) ∧
    ∀ t ∈ hops, ∀ url connection, t.cancelled = false → Url.read t.sink.url = .ok url →
      let opened := Transfer.opening settings template (network t.redirects.followed) url
      let front := template.front url connection.via
      let back := (Transfer.templateFor settings template url).back connection.via
      opened.outcome = .ok connection → opened.cancelled = false →
      t.trace? settings template network = some (opened.trace.getD [] ++
        [connection.sends (wireMessage
          (front ++ [fieldLine "Authorization" credentials.basic] ++ back) template.body)]) ∧
      { Transfer.templateFor settings template url with httpAuth := none }.head url connection.via =
        front ++ back ∧
      ∀ auth, let other := { template with httpAuth := auth }
        other.front url connection.via = front ∧
        (Transfer.templateFor settings other url).back connection.via = back ∧
        Transfer.opening settings other (network t.redirects.followed) url = opened := by
  refine ⟨fetch_traces settings template network sink disk cancelled, ?_⟩
  intro t _ url connection going read opened front back outcome ready
  refine ⟨?_, ?_, fun auth => ⟨rfl, rfl, rfl⟩⟩
  · rw [Transfer.trace?_opened going read outcome, Connection.trace?_listen, ready,
      Transfer.request_active connection.via active]
    rfl
  · rw [Template.head_eq]
    simp [authLine, Template.active]
    rfl

theorem exists_ok_of_any {ε α : Type} {x : Except ε α} {p : α → Bool}
    (h : x.toOption.any p = true) : ∃ a, x = .ok a ∧ p a = true := by
  rcases x with e | a
  · cases h
  · exact ⟨a, rfl, h⟩

/-- A server that answers every request with one text. -/
def answering (text : String) : Reach := fun _ _ =>
  .ok [⟨"::1", false, .ok { plain := { inbound := [⟨false, .ok (Utf8.encode text)⟩] } }⟩]

/-- The target of a redirect to another host is shown the credentials as well: this is all that is
sent there. -/
theorem fetch_authorization_redirected :
    let network : Network := fun hop =>
      if hop = 0 then answering "V 302 F\nLocation: http://[::2]/b\n\n" else answering "V 200 O\n\n"
    let template : Template := { httpAuth := some ⟨"u", "p"⟩ }
    let request := Utf8.encode ("GET /b HTTP/1.0\r\nHost: [::2]\r\nContent-Length: 0\r\n" ++
      "Authorization: Basic dTpw\r\n\r\n")
    ∃ t ∈ (Transfer.start {} (.inMemory "http://[::1]/a") {} false).hops {} template network,
      t.sink.url = "http://[::2]/b" ∧
        t.trace? {} template network = some [.plain request] := by
  intro network template request
  let start := Transfer.start {} (.inMemory "http://[::1]/a") {} false
  have active : Template.active template.httpAuth = some ⟨"u", "p"⟩ := by decide +kernel
  have check : (start.next? {} template network).any (fun t =>
      decide (t.sink.url = "http://[::2]/b") && !t.cancelled &&
        (Url.read t.sink.url).toOption.any fun url =>
          let opened := Transfer.opening {} template (network t.redirects.followed) url
          !opened.cancelled && opened.outcome.toOption.any fun connection =>
            decide (opened.trace.getD [] ++ [connection.sends (wireMessage
              (template.front url connection.via ++
                [fieldLine "Authorization" (Credentials.mk "u" "p").basic] ++
                (Transfer.templateFor {} template url).back connection.via) template.body)] =
              [.plain request])) = true := by
    decide +kernel
  obtain ⟨t, mem, check⟩ := Transfer.exists_hop_of_any check
  rw [Bool.and_eq_true, Bool.and_eq_true, decide_eq_true_eq, Bool.not_eq_true'] at check
  obtain ⟨⟨target, going⟩, check⟩ := check
  obtain ⟨url, read, check⟩ := exists_ok_of_any check
  rw [Bool.and_eq_true, Bool.not_eq_true'] at check
  obtain ⟨connection, outcome, sent⟩ := exists_ok_of_any check.2
  obtain ⟨trace, -⟩ :=
    (fetch_authorization {} template network (.inMemory "http://[::1]/a") {} false active).2
      t mem url connection going read outcome check.1
  rw [of_decide_eq_true sent] at trace
  exact ⟨t, mem, target, trace⟩

/-- So credentials do not stay with the server that the transfer was started for. -/
theorem not_authorization_sameOrigin :
    ¬ ∀ (settings : Settings) (template : Template) (network : Network) (sink : Sink) (disk : Disk)
      (cancelled : Bool) (credentials : Credentials) (first : Url),
      Template.active template.httpAuth = some credentials → Url.read sink.url = .ok first →
      ∀ t ∈ (Transfer.start settings sink disk cancelled).hops settings template network,
      ∀ url, Url.read t.sink.url = .ok url →
      ∀ trace, t.trace? settings template network = some trace →
      trace.Shows (fieldLine "Authorization" credentials.basic) →
      url.scheme = first.scheme ∧ url.host = first.host ∧ url.port = first.port := by
  intro claim
  let network : Network := fun hop =>
    if hop = 0 then answering "V 302 F\nLocation: http://[::2]/b\n\n" else answering "V 200 O\n\n"
  let template : Template := { httpAuth := some ⟨"u", "p"⟩ }
  let start := Transfer.start {} (.inMemory "http://[::1]/a") {} false
  let sent : Trace := [.plain (wireMessage
    (["GET /b HTTP/1.0", "Host: [::2]", "Content-Length: 0"] ++
      [fieldLine "Authorization" (Credentials.mk "u" "p").basic] ++ []) [])]
  have check : (start.next? {} template network).any (fun t =>
      decide (t.trace? {} template network = some sent) &&
        (Url.read t.sink.url).toOption.any fun url =>
          (Url.read "http://[::1]/a").toOption.any fun first => decide (url.host ≠ first.host)) =
      true := by
    decide +kernel
  obtain ⟨t, mem, check⟩ := Transfer.exists_hop_of_any check
  rw [Bool.and_eq_true, decide_eq_true_eq] at check
  obtain ⟨trace, check⟩ := check
  obtain ⟨url, read, check⟩ := exists_ok_of_any check
  obtain ⟨first, readFirst, other⟩ := exists_ok_of_any check
  have same := claim {} template network (.inMemory "http://[::1]/a") {} false ⟨"u", "p"⟩ first
    (by decide +kernel) readFirst t mem url read sent trace
    ⟨_, _, _, .inl List.mem_cons_self⟩
  exact of_decide_eq_true other same.2.1

end HttpFetch
