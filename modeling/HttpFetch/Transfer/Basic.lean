import HttpFetch.Connection.Basic
import HttpFetch.Response.Reader
import HttpFetch.Transfer.Redirects
/-!
# Transfers

A transfer goes from hop to hop: open a connection to the address in the sink, send the request, read
the head of the response, and then take its body, go on to another address, or give up. `run` ends
because every hop but the last uses up one of the redirects that may be followed.
-/

namespace HttpFetch

/-- A transfer under way. -/
structure Transfer where
  sink : Sink
  disk : Disk
  redirects : Redirects
  /-- whether the transfer has been cancelled -/
  cancelled : Bool := false
  /-- what happened on each connection, in the order in which they were opened -/
  traces : List Trace := []

namespace Transfer

/-- The credentials for the server of an address: those of the template, else those in the address. -/
def httpAuth (template : Template) (url : Url) : Option Credentials :=
  (Template.active template.httpAuth).or (Credentials.ofUrl? url)

/-- The credentials for the proxy on the way to an address: those of the template, else those in the
address of the proxy. -/
def proxyAuth (template : Template) (proxies : Proxies) (url : Url) : Option Credentials :=
  (Template.active template.proxyAuth).or
    ((proxies.forScheme url.scheme).bind Credentials.ofUrl?)

/-- The template for one hop. -/
def templateFor (settings : Settings) (template : Template) (url : Url) : Template :=
  { template with
    httpAuth := httpAuth template url
    proxyAuth := proxyAuth template settings.proxies url }

/-- Acts on a response whose head has been read: takes its body, or leaves that where it is. -/
def settle (t : Transfer) (url : Url) (reader : Reader) (stream : Stream) :
    Except TransferError (Option Url) × Transfer :=
  match t.redirects.judge t.sink url with
  | (.abort e, _) => (.error e, t)
  | (.redirect next, redirects) => (.ok (some next), { t with redirects := redirects })
  | (.accept, _) =>
    let read := reader.readBody stream t.disk
    (read.outcome.map fun () => none,
      { t with sink := read.reader.sink, disk := read.disk, cancelled := read.stream.cancelled })

/-- Takes a response: its head, and its body if it is the one that was wanted. Gives the address to go
on to, if there is one. -/
def receive (t : Transfer) (settings : Settings) (url : Url) (inbound : Stream) :
    Except TransferError (Option Url) × Transfer :=
  match (Reader.start settings.readBufferSize t.sink).readHead inbound with
  | (.error e, reader, stream) =>
    (.error e, { t with sink := reader.sink, cancelled := stream.cancelled })
  | (.ok (), reader, stream) =>
    { t with sink := reader.sink, cancelled := stream.cancelled }.settle url reader stream

/-- What an exchange of request and response comes to. -/
structure Exchanged where
  outcome : Except TransferError (Option Url)
  after : Transfer
  /-- what happened on the connection -/
  sent : Trace

/-- Sends the request over a connection and takes the response. -/
def exchange (t : Transfer) (settings : Settings) (template : Template) (url : Url)
    (connection : Connection) : Exchanged :=
  if t.cancelled then ⟨.error .cancelled, t, []⟩
  else
    let written := connection.channel.outlet.write (template.request url connection.via)
    let sent := [connection.event written.sent]
    match written.outcome with
    | .error fault =>
      ⟨.error ((TransferError.streamWrite fault).orCancelled written.cancels),
        { t with cancelled := written.cancels }, sent⟩
    | .ok () =>
      let (outcome, after) :=
        t.receive settings url ⟨connection.channel.inbound, written.cancels⟩
      ⟨outcome, after, sent⟩

/-- One hop: gives the address to go on to, if there is one. The response of the hop before stays in
the sink until a connection is open. -/
def hop (t : Transfer) (settings : Settings) (template : Template) (network : Network) :
    Except TransferError (Option Url) × Transfer :=
  if t.cancelled then (.error .cancelled, t)
  else match Url.read t.sink.url with
    | .error e => (.error (.malformedUrl e), t)
    | .ok url =>
      let template := templateFor settings template url
      let connected := connect settings (network t.redirects.followed) url
        (Template.active template.proxyAuth) t.cancelled
      let t := { t with cancelled := connected.cancelled }
      match connected.outcome with
      | .error e => (.error e, { t with traces := t.traces ++ connected.trace.toList })
      | .ok connection =>
        let exchanged :=
          { t with sink := t.sink.reset }.exchange settings template url connection
        (exchanged.outcome,
          { exchanged.after with
            traces := exchanged.after.traces ++ [connected.trace.getD [] ++ exchanged.sent] })

/-- A response that leads on has used up a redirect. -/
theorem settle_redirect {t after : Transfer} {url next : Url} {reader : Reader} {stream : Stream}
    (h : t.settle url reader stream = (.ok (some next), after)) :
    t.redirects.followed < t.redirects.limit ∧
      after.redirects = { t.redirects with followed := t.redirects.followed + 1 } := by
  rw [settle] at h
  split at h
  · simp at h
  · rename_i judged
    simp only [Prod.mk.injEq] at h
    have := Redirects.judge_redirect judged
    exact ⟨this.1, by rw [← h.2]; exact this.2⟩
  · simp only [Prod.mk.injEq] at h
    cases outcome : (reader.readBody stream t.disk).outcome <;> simp [outcome, Except.map] at h

/-- A response that leads on has used up a redirect, whatever its stream. -/
theorem receive_redirect {t after : Transfer} {settings : Settings} {url next : Url}
    {inbound : Stream} (h : t.receive settings url inbound = (.ok (some next), after)) :
    t.redirects.followed < t.redirects.limit ∧
      after.redirects = { t.redirects with followed := t.redirects.followed + 1 } := by
  rw [receive] at h
  split at h
  · simp at h
  · have := settle_redirect h
    exact this

/-- An exchange that leads on has used up a redirect. -/
theorem exchange_redirect {t : Transfer} {settings : Settings} {template : Template} {url next : Url}
    {connection : Connection}
    (h : (t.exchange settings template url connection).outcome = .ok (some next)) :
    t.redirects.followed < t.redirects.limit ∧
      (t.exchange settings template url connection).after.redirects =
        { t.redirects with followed := t.redirects.followed + 1 } := by
  rw [exchange] at h ⊢
  split at h
  · simp at h
  · rename_i going
    simp only [going] at h ⊢
    split at h
    · simp at h
    · have := receive_redirect (Prod.ext h rfl)
      exact this

/-- A hop that leads on has used up a redirect. -/
theorem hop_redirect {t after : Transfer} {settings : Settings} {template : Template}
    {network : Network} {next : Url} (h : t.hop settings template network = (.ok (some next), after)) :
    t.redirects.followed < t.redirects.limit ∧
      after.redirects = { t.redirects with followed := t.redirects.followed + 1 } := by
  rw [hop] at h
  split at h
  · simp at h
  · split at h
    · simp at h
    · simp only at h
      split at h
      · simp at h
      · simp only [Prod.mk.injEq] at h
        have := exchange_redirect h.1
        exact ⟨this.1, by rw [← h.2]; exact this.2⟩

/-- Goes from hop to hop to the end. -/
def run (t : Transfer) (settings : Settings) (template : Template) (network : Network) :
    Except TransferError Unit × Transfer :=
  match _h : t.hop settings template network with
  | (.error e, after) => (.error e, after)
  | (.ok none, after) => (.ok (), after)
  | (.ok (some next), after) =>
    run { after with sink := after.sink.setUrl next.text } settings template network
termination_by t.redirects.limit - t.redirects.followed
decreasing_by
  have := hop_redirect _h
  simp only [this.2]
  omega

end Transfer
end HttpFetch
