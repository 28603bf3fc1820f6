import HttpFetch.Transfer.Completion
import Mathlib.Tactic.SplitIfs
/-!
# Transfers, hop by hop

A hop has two halves. First it hears: it opens a connection, sends the request and reads up to the
end of the head of the response, and all that depends on the address, the kind of sink and the
network alone (`Transfer.hear`). Then, if a head was heard, the response is settled
(`Transfer.hop_eq`). A transfer is the list of its `hops`, and what comes of it is what comes of
each of them on (`Transfer.run_of_mem_hops`).
-/

namespace HttpFetch

/-! ## Judging a response -/

/-- Everything that judging a response can come to. -/
inductive Judges (redirects : Redirects) (sink : Sink) (current : Url) :
    Verdict → Redirects → Prop where
  | serverError : 500 ≤ sink.status →
    Judges redirects sink current (.abort (.serverError sink.status sink.description)) redirects
  | clientError : 400 ≤ sink.status → sink.status < 500 →
    Judges redirects sink current (.abort (.clientError sink.status sink.description)) redirects
  | accept : sink.status < 300 → Judges redirects sink current .accept redirects
  | limit : 300 ≤ sink.status → sink.status < 400 → redirects.limit ≤ redirects.followed →
    Judges redirects sink current (.abort (.redirectLimitExceeded redirects.limit)) redirects
  | nowhere : 300 ≤ sink.status → sink.status < 400 → redirects.followed < redirects.limit →
    Redirects.location? sink = none →
    Judges redirects sink current (.abort (.missingRedirectLocation sink.status)) redirects
  | redirect {location : String} {next : Url} :
    300 ≤ sink.status → sink.status < 400 → redirects.followed < redirects.limit →
    Redirects.location? sink = some location → current.join location = .ok next →
    Judges redirects sink current (.redirect next)
      { redirects with followed := redirects.followed + 1 }
  | unusable {location : String} {e : UrlError} :
    300 ≤ sink.status → sink.status < 400 → redirects.followed < redirects.limit →
    Redirects.location? sink = some location → current.join location = .error e →
    Judges redirects sink current (.abort (.malformedUrl e)) redirects

/-- A response is judged in one of these ways. -/
theorem Redirects.judges_judge (redirects : Redirects) (sink : Sink) (current : Url) :
    Judges redirects sink current (redirects.judge sink current).1
      (redirects.judge sink current).2 := by
  rw [judge]
  split_ifs with server client fine limit
  · exact .serverError server
  · exact .clientError client (UInt16.not_le.1 server)
  · exact .accept fine
  · exact .limit (UInt16.not_lt.1 fine) (UInt16.not_le.1 client) limit
  have low := UInt16.not_lt.1 fine
  have high := UInt16.not_le.1 client
  have within := Nat.lt_of_not_le limit
  rcases location : location? sink with _ | text
  · exact .nowhere low high within location
  simp only
  rcases joined : current.join text with e | next
  · exact .unusable low high within location joined
  · exact .redirect low high within location joined

/-! ## Hearing a response -/

/-- What a hop hears of a response. -/
inductive Heard where
  /-- there is no connection, so no response either -/
  | noConnection (error : TransferError) (trace : Option Trace) (cancelled : Bool)
  /-- there is a connection and no complete head -/
  | noHead (error : TransferError) (sink : Sink) (cancelled : Bool) (trace : Trace)
  /-- the head of a response to a request for an address -/
  | head (url : Url) (reader : Reader) (stream : Stream) (trace : Trace)

/-- Whether there is a connection to hear anything over. -/
def Heard.isConnected : Heard → Bool
  | .noConnection .. => false
  | _ => true

/-- Sends the request over a connection and reads the head of the response. `trace` holds what
happened on the connection before. -/
def Connection.listen (connection : Connection) (settings : Settings) (template : Template)
    (url : Url) (sink : Sink) (cancelled : Bool) (trace : Trace) : Heard :=
  if cancelled then .noHead .cancelled sink true trace
  else
    let written := connection.channel.outlet.write (template.request url connection.via)
    let trace := trace ++ [connection.event written.sent]
    match written.outcome with
    | .error fault =>
      .noHead ((TransferError.streamWrite fault).orCancelled written.cancels) sink written.cancels
        trace
    | .ok () =>
      match (Reader.start settings.readBufferSize sink).readHead
          ⟨connection.channel.inbound, written.cancels⟩ with
      | (.error e, reader, stream) => .noHead e reader.sink stream.cancelled trace
      | (.ok (), reader, stream) => .head url reader stream trace

/-- Everything that can be heard over a connection, by a reader that starts with `sink`. -/
inductive Listens (settings : Settings) (url : Url) (sink : Sink) : Heard → Prop where
  | cancelled (trace : Trace) : Listens settings url sink (.noHead .cancelled sink true trace)
  /-- the request cannot be sent -/
  | unsent (fault : Fault) (cancelled : Bool) (trace : Trace) :
    Listens settings url sink
      (.noHead ((TransferError.streamWrite fault).orCancelled cancelled) sink cancelled trace)
  /-- the head of the response is not complete -/
  | incomplete {inbound stream : Stream} {e : TransferError} {reader : Reader} (trace : Trace) :
    (Reader.start settings.readBufferSize sink).readHead inbound = (.error e, reader, stream) →
      Listens settings url sink (.noHead e reader.sink stream.cancelled trace)
  | head {inbound stream : Stream} {reader : Reader} (trace : Trace) :
    (Reader.start settings.readBufferSize sink).readHead inbound = (.ok (), reader, stream) →
      Listens settings url sink (.head url reader stream trace)

/-- Nothing else can be heard. -/
theorem Connection.listens_listen (connection : Connection) (settings : Settings)
    (template : Template) (url : Url) (sink : Sink) (cancelled : Bool) (trace : Trace) :
    Listens settings url sink
      (connection.listen settings template url sink cancelled trace) := by
  rw [listen]
  split_ifs
  · exact .cancelled trace
  simp only
  rcases (connection.channel.outlet.write (template.request url connection.via)).outcome with
    fault | _
  · exact .unsent fault _ _
  simp only
  rcases read : (Reader.start settings.readBufferSize sink).readHead
    ⟨connection.channel.inbound,
      (connection.channel.outlet.write (template.request url connection.via)).cancels⟩ with
    ⟨e | _, reader, stream⟩
  · exact .incomplete _ read
  · exact .head _ read

/-- A head that is heard over a connection is read from what the peer sends. -/
theorem Connection.readHead_of_listen {connection : Connection} {settings : Settings}
    {template : Template} {url url' : Url} {sink : Sink} {cancelled : Bool} {trace trace' : Trace}
    {reader : Reader} {later : Stream}
    (h : connection.listen settings template url sink cancelled trace =
      .head url' reader later trace') :
    url' = url ∧ ∃ cancels, (Reader.start settings.readBufferSize sink).readHead
      ⟨connection.channel.inbound, cancels⟩ = (.ok (), reader, later) := by
  rw [listen] at h
  split_ifs at h
  simp only at h
  rcases outcome : (connection.channel.outlet.write (template.request url connection.via)).outcome
    with fault | _ <;> simp only [outcome] at h
  · cases h
  generalize (connection.channel.outlet.write (template.request url connection.via)).cancels =
    cancels at h
  rcases read : (Reader.start settings.readBufferSize sink).readHead
    ⟨connection.channel.inbound, cancels⟩ with ⟨e | _, own, rest⟩ <;> rw [read] at h <;> cases h
  exact ⟨rfl, cancels, read⟩

namespace Transfer

/-- Opens a connection to an address for one hop. -/
def opening (settings : Settings) (template : Template) (reach : Reach) (url : Url) : Connected :=
  connect settings reach url
    (Template.active (templateFor settings template url).proxyAuth) false

/-- Opens a connection to the address in a sink, sends the request and reads the head of the
response. -/
def hear (settings : Settings) (template : Template) (reach : Reach) (sink : Sink)
    (cancelled : Bool) : Heard :=
  if cancelled then .noConnection .cancelled none true
  else match Url.read sink.url with
    | .error e => .noConnection (.malformedUrl e) none false
    | .ok url =>
      let connected := opening settings template reach url
      match connected.outcome with
      | .error e => .noConnection e connected.trace connected.cancelled
      | .ok connection =>
        connection.listen settings (templateFor settings template url) url sink.reset
          connected.cancelled (connected.trace.getD [])

/-- Everything that a hop can hear, and how it came so far. -/
inductive Hears (settings : Settings) (template : Template) (reach : Reach) (sink : Sink)
    (cancelled : Bool) : Heard → Prop where
  | cancelled : cancelled = true →
    Hears settings template reach sink cancelled (.noConnection .cancelled none true)
  | malformed {e : UrlError} : cancelled = false → Url.read sink.url = .error e →
    Hears settings template reach sink cancelled (.noConnection (.malformedUrl e) none false)
  | unopened {url : Url} {e : TransferError} : cancelled = false → Url.read sink.url = .ok url →
    (opening settings template reach url).outcome = .error e →
    Hears settings template reach sink cancelled
      (.noConnection e (opening settings template reach url).trace
        (opening settings template reach url).cancelled)
  | opened {url : Url} {connection : Connection} {heard : Heard} : cancelled = false →
    Url.read sink.url = .ok url →
    (opening settings template reach url).outcome = .ok connection →
    heard = connection.listen settings (templateFor settings template url) url sink.reset
      (opening settings template reach url).cancelled
      ((opening settings template reach url).trace.getD []) →
    Hears settings template reach sink cancelled heard

theorem hears_hear (settings : Settings) (template : Template) (reach : Reach) (sink : Sink)
    (cancelled : Bool) :
    Hears settings template reach sink cancelled
      (hear settings template reach sink cancelled) := by
  rw [hear]
  split_ifs with gone
  · exact .cancelled gone
  rw [Bool.not_eq_true] at gone
  rcases read : Url.read sink.url with e | url
  · exact .malformed gone read
  simp only
  rcases outcome : (opening settings template reach url).outcome with e | connection
  · exact .unopened gone read outcome
  · exact .opened gone read outcome rfl

/-- Once there is a connection, what is heard is heard over it, by a reader with a sink that starts
over. -/
theorem listens_of_isConnected {settings : Settings} {template : Template} {reach : Reach}
    {sink : Sink} {cancelled : Bool}
    (h : (hear settings template reach sink cancelled).isConnected = true) :
    ∃ url, Listens settings url sink.reset (hear settings template reach sink cancelled) := by
  have hears := hears_hear settings template reach sink cancelled
  generalize hear settings template reach sink cancelled = heard at h hears
  cases hears with
  | cancelled | malformed | unopened => cases h
  | @opened url connection _ _ _ _ same =>
    rw [same]
    exact ⟨url, connection.listens_listen _ _ _ _ _ _⟩

/-- What this hop of a transfer hears. -/
def heard (t : Transfer) (settings : Settings) (template : Template) (network : Network) : Heard :=
  hear settings template (network t.redirects.followed) t.sink t.cancelled

/-- Concludes a hop by what was heard: the response is settled if there is one. -/
def conclude (t : Transfer) : Heard → Except TransferError (Option Url) × Transfer
  | .noConnection e trace cancelled =>
    (.error e, { t with cancelled, traces := t.traces ++ trace.toList })
  | .noHead e sink cancelled trace =>
    (.error e, { t with sink, cancelled, traces := t.traces ++ [trace] })
  | .head url reader stream trace =>
    { t with
      sink := reader.sink, cancelled := stream.cancelled
      traces := t.traces ++ [trace] }.settle url reader stream

/-- Settling a response has no part in what happened on the connections. -/
theorem settle_traces (t : Transfer) (url : Url) (reader : Reader) (stream : Stream)
    (traces : List Trace) :
    { t with traces }.settle url reader stream =
      ((t.settle url reader stream).1, { (t.settle url reader stream).2 with traces }) := by
  rw [settle, settle]
  simp only
  rcases t.redirects.judge t.sink url with ⟨_ | _ | _, _⟩ <;> rfl

theorem traces_settle (t : Transfer) (url : Url) (reader : Reader) (stream : Stream) :
    (t.settle url reader stream).2.traces = t.traces := by
  rw [settle]
  rcases t.redirects.judge t.sink url with ⟨_ | _ | _, _⟩ <;> rfl

/-- An exchange listens and settles. -/
theorem exchange_eq (t : Transfer) (settings : Settings) (template : Template) (url : Url)
    (connection : Connection) (trace : Trace) :
    let exchanged := t.exchange settings template url connection
    (exchanged.outcome, { exchanged.after with
      traces := exchanged.after.traces ++ [trace ++ exchanged.sent] }) =
      t.conclude (connection.listen settings template url t.sink t.cancelled trace) := by
  rw [exchange, Connection.listen]
  by_cases cancelled : t.cancelled = true
  · simp [cancelled, conclude]
  simp only [if_neg cancelled]
  rcases (connection.channel.outlet.write (template.request url connection.via)).outcome with
    fault | _
  · rfl
  · simp only [receive]
    rcases (Reader.start settings.readBufferSize t.sink).readHead
      ⟨connection.channel.inbound,
        (connection.channel.outlet.write (template.request url connection.via)).cancels⟩ with
      ⟨_ | _, reader, stream⟩
    · rfl
    · simp only [conclude, traces_settle]
      exact (settle_traces { t with sink := reader.sink, cancelled := stream.cancelled } url reader
        stream _).symm

/-- Once there is a connection, the sink of the hop before plays no part. -/
theorem conclude_listen (t : Transfer) (settings : Settings) (template : Template) (url : Url)
    (connection : Connection) (sink : Sink) (cancelled : Bool) (trace : Trace) :
    { t with sink, cancelled }.conclude
        (connection.listen settings template url sink cancelled trace) =
      t.conclude (connection.listen settings template url sink cancelled trace) := by
  have listens := connection.listens_listen settings template url sink cancelled trace
  generalize connection.listen settings template url sink cancelled trace = heard at listens
  cases listens <;> rfl

/-- **The two halves of a hop.** -/
theorem hop_eq (t : Transfer) (settings : Settings) (template : Template) (network : Network) :
    t.hop settings template network = t.conclude (t.heard settings template network) := by
  rw [hop, heard, hear]
  by_cases cancelled : t.cancelled = true
  · simp only [cancelled, if_true, conclude, Option.toList_none, List.append_nil]
    rw [← cancelled]
  rw [Bool.not_eq_true] at cancelled
  simp only [cancelled, Bool.false_eq_true, if_false]
  rcases Url.read t.sink.url with e | url
  · simp [conclude, ← cancelled]
  have connected : connect settings (network t.redirects.followed) url
      (Template.active (templateFor settings template url).proxyAuth) false =
      opening settings template (network t.redirects.followed) url := rfl
  simp only [connected]
  rcases (opening settings template (network t.redirects.followed) url).outcome with e | connection
  · rfl
  · rw [← conclude_listen t settings (templateFor settings template url) url connection
      t.sink.reset (opening settings template (network t.redirects.followed) url).cancelled]
    exact exchange_eq { t with
      cancelled := (opening settings template (network t.redirects.followed) url).cancelled
      sink := t.sink.reset } settings (templateFor settings template url) url connection
      ((opening settings template (network t.redirects.followed) url).trace.getD [])

/-! ## Everything that a hop can come to -/

section Run

variable {settings : Settings} {template : Template} {network : Network}

/-- What a hop of a transfer comes to. -/
inductive Hopped (settings : Settings) (template : Template) (network : Network) (t : Transfer) :
    Except TransferError (Option Url) → Transfer → Prop where
  | noConnection {e : TransferError} {trace : Option Trace} {cancelled : Bool} :
    t.heard settings template network = .noConnection e trace cancelled →
    Hopped settings template network t (.error e)
      { t with cancelled, traces := t.traces ++ trace.toList }
  | noHead {e : TransferError} {sink : Sink} {cancelled : Bool} {trace : Trace} :
    t.heard settings template network = .noHead e sink cancelled trace →
    Hopped settings template network t (.error e)
      { t with sink, cancelled, traces := t.traces ++ [trace] }
  | abort {url : Url} {reader : Reader} {stream : Stream} {trace : Trace} {e : TransferError} :
    t.heard settings template network = .head url reader stream trace →
    t.redirects.judge reader.sink url = (.abort e, t.redirects) →
    Hopped settings template network t (.error e)
      { t with
        sink := reader.sink, cancelled := stream.cancelled, traces := t.traces ++ [trace] }
  | redirect {url next : Url} {reader : Reader} {stream : Stream} {trace : Trace} :
    t.heard settings template network = .head url reader stream trace →
    t.redirects.judge reader.sink url =
      (.redirect next, { t.redirects with followed := t.redirects.followed + 1 }) →
    Hopped settings template network t (.ok (some next))
      { t with
        sink := reader.sink, cancelled := stream.cancelled
        redirects := { t.redirects with followed := t.redirects.followed + 1 }
        traces := t.traces ++ [trace] }
  | accept {url : Url} {reader : Reader} {stream : Stream} {trace : Trace} :
    t.heard settings template network = .head url reader stream trace →
    t.redirects.judge reader.sink url = (.accept, t.redirects) →
    Hopped settings template network t
      ((reader.readBody stream t.disk).outcome.map fun () => none)
      { t with
        sink := (reader.readBody stream t.disk).reader.sink
        disk := (reader.readBody stream t.disk).disk
        cancelled := (reader.readBody stream t.disk).stream.cancelled
        traces := t.traces ++ [trace] }

/-- A hop comes to one of these things. -/
theorem hopped_of_hop {t after : Transfer} {outcome : Except TransferError (Option Url)}
    (h : t.hop settings template network = (outcome, after)) :
    Hopped settings template network t outcome after := by
  rw [hop_eq] at h
  rcases heard : t.heard settings template network with
    ⟨e, trace, cancelled⟩ | ⟨e, sink, cancelled, trace⟩ | ⟨url, reader, stream, trace⟩ <;>
    rw [heard] at h
  · cases h
    exact .noConnection heard
  · cases h
    exact .noHead heard
  have judges := t.redirects.judges_judge reader.sink url
  rw [conclude, settle] at h
  simp only at h
  rcases judged : t.redirects.judge reader.sink url with ⟨_ | next | e, redirects⟩ <;>
    simp only [judged] at h judges
  · cases judges
    cases h
    exact .accept heard judged
  · cases judges
    cases h
    exact .redirect heard judged
  · obtain rfl : redirects = t.redirects := by cases judges <;> rfl
    cases h
    exact .abort heard judged

/-- A hop that leads on has heard a redirect, and keeps of it where it leads, the sink with the
head, the count, and what happened on the connection. -/
theorem heard_of_redirect {t after : Transfer} {next : Url}
    (h : t.hop settings template network = (.ok (some next), after)) :
    ∃ url reader stream trace,
      t.heard settings template network = .head url reader stream trace ∧
      t.redirects.judge reader.sink url =
        (.redirect next, { t.redirects with followed := t.redirects.followed + 1 }) ∧
      after = { t with
        sink := reader.sink, cancelled := stream.cancelled
        redirects := { t.redirects with followed := t.redirects.followed + 1 }
        traces := t.traces ++ [trace] } := by
  have hopped := hopped_of_hop h
  generalize led : (.ok (some next) : Except TransferError (Option Url)) = outcome at hopped
  cases hopped with
  | noConnection | noHead | abort => cases led
  | redirect heard judged =>
    cases led
    exact ⟨_, _, _, _, heard, judged, rfl⟩
  | @accept url reader stream trace =>
    rcases outcome : (reader.readBody stream t.disk).outcome with e | _ <;> rw [outcome] at led <;>
      cases led

/-- A hop that leads nowhere has taken a response with its body. -/
theorem heard_of_success {t after : Transfer}
    (h : t.hop settings template network = (.ok none, after)) :
    ∃ url reader stream trace,
      t.heard settings template network = .head url reader stream trace ∧
      reader.sink.status < 300 ∧
      (reader.readBody stream t.disk).outcome = .ok () ∧
      after = { t with
        sink := (reader.readBody stream t.disk).reader.sink
        disk := (reader.readBody stream t.disk).disk
        cancelled := (reader.readBody stream t.disk).stream.cancelled
        traces := t.traces ++ [trace] } := by
  have hopped := hopped_of_hop h
  generalize led : (.ok none : Except TransferError (Option Url)) = outcome at hopped
  cases hopped with
  | noConnection | noHead | abort | redirect => cases led
  | @accept url reader stream trace heard judged =>
    have judges := t.redirects.judges_judge reader.sink url
    rw [judged] at judges
    cases judges with
    | accept fine =>
    rcases outcome : (reader.readBody stream t.disk).outcome with e | _ <;> rw [outcome] at led
    · cases led
    · exact ⟨url, reader, stream, trace, heard, fine, outcome, rfl⟩

/-! ## The hops of a transfer -/

/-- The transfer at the start of the hop after one that led on. -/
def goOn (after : Transfer) (next : Url) : Transfer :=
  { after with sink := after.sink.setUrl next.text }

/-- A transfer at the start of each of its hops, in their order. -/
def hops (t : Transfer) (settings : Settings) (template : Template) (network : Network) :
    List Transfer :=
  match _h : t.hop settings template network with
  | (.ok (some next), after) => t :: (after.goOn next).hops settings template network
  | (.ok none, _) | (.error _, _) => [t]
termination_by t.redirects.limit - t.redirects.followed
decreasing_by
  have := hop_redirect _h
  simp only [goOn, this.2]
  omega

/-- Whether a hop is the last one. -/
def IsLast (settings : Settings) (template : Template) (network : Network) (t : Transfer) : Prop :=
  ∀ next after, t.hop settings template network ≠ (.ok (some next), after)

theorem hops_redirect {t after : Transfer} {next : Url}
    (h : t.hop settings template network = (.ok (some next), after)) :
    t.hops settings template network = t :: (after.goOn next).hops settings template network := by
  rw [hops]
  split
  · rename_i found state same
    simp only [h, Prod.mk.injEq, Except.ok.injEq, Option.some.injEq] at same
    rw [← same.1, ← same.2]
  · rename_i same
    simp [h] at same
  · rename_i same
    simp [h] at same

theorem hops_last {t : Transfer} (last : t.IsLast settings template network) :
    t.hops settings template network = [t] := by
  rw [hops]
  split
  · rename_i next after same
    exact absurd same (last next after)
  · rfl
  · rfl

theorem run_redirect {t after : Transfer} {next : Url}
    (h : t.hop settings template network = (.ok (some next), after)) :
    t.run settings template network = (after.goOn next).run settings template network := by
  rw [run]
  split
  · rename_i same
    simp [h] at same
  · rename_i same
    simp [h] at same
  · rename_i found state same
    simp only [h, Prod.mk.injEq, Except.ok.injEq, Option.some.injEq] at same
    rw [← same.1, ← same.2]
    rfl

/-- A transfer ends with what its last hop comes to. -/
theorem run_last {t : Transfer} (last : t.IsLast settings template network) :
    t.run settings template network =
      ((t.hop settings template network).1.map fun _ => (),
        (t.hop settings template network).2) := by
  rw [run]
  split
  · rename_i same
    rw [same]
    rfl
  · rename_i same
    rw [same]
    rfl
  · rename_i next after same
    exact absurd same (last next after)

/-- Either a hop leads on or it is the last one, and so on: what holds of a last hop, and of every
hop if it holds of the next one, holds of all. -/
theorem hop_induction (settings : Settings) (template : Template) (network : Network)
    {motive : Transfer → Prop}
    (last : ∀ t : Transfer, t.IsLast settings template network → motive t)
    (redirect : ∀ (t after : Transfer) (next : Url),
      t.hop settings template network = (.ok (some next), after) →
      motive (after.goOn next) → motive t) (t : Transfer) : motive t := by
  induction t using hops.induct settings template network with
  | case1 t next after h ih => exact redirect t after next h ih
  | case2 t after h => exact last t fun next after' same => by simp [h] at same
  | case3 t e after h => exact last t fun next after' same => by simp [h] at same

/-- What holds at the start and is kept by every hop that leads on holds at the start of every
hop. -/
theorem invariant_of_mem_hops (invariant : Transfer → Prop) {t s : Transfer}
    (start : invariant t)
    (kept : ∀ (t after : Transfer) (next : Url),
      t.hop settings template network = (.ok (some next), after) →
      invariant t → invariant (after.goOn next))
    (mem : s ∈ t.hops settings template network) : invariant s := by
  induction t using hop_induction settings template network with
  | last t last =>
    rw [hops_last last, List.mem_singleton] at mem
    rw [mem]
    exact start
  | redirect t after next h ih =>
    rw [hops_redirect h] at mem
    rcases List.mem_cons.1 mem with rfl | mem
    · exact start
    · exact ih (kept t after next h start) mem

theorem self_mem_hops (t : Transfer) : t ∈ t.hops settings template network := by
  rcases hop : t.hop settings template network with ⟨e | _ | next, after⟩
  · rw [hops_last fun _ _ same => by rw [hop] at same; cases same]
    exact List.mem_singleton_self t
  · rw [hops_last fun _ _ same => by rw [hop] at same; cases same]
    exact List.mem_singleton_self t
  · rw [hops_redirect hop]
    exact List.mem_cons_self

/-- There is a last hop. -/
theorem exists_last (t : Transfer) :
    ∃ s, (t.hops settings template network).getLast? = some s ∧
      s.IsLast settings template network := by
  induction t using hop_induction settings template network with
  | last t last => exact ⟨t, by rw [hops_last last, List.getLast?_singleton], last⟩
  | redirect t after next h ih =>
    obtain ⟨s, end', last⟩ := ih
    exact ⟨s, by rw [hops_redirect h, List.getLast?_cons, end', Option.getD_some], last⟩

/-- The hop after one that leads on is a hop as well. -/
theorem goOn_mem_hops {t s after : Transfer} {next : Url}
    (mem : s ∈ t.hops settings template network)
    (redirect : s.hop settings template network = (.ok (some next), after)) :
    after.goOn next ∈ t.hops settings template network := by
  induction t using hop_induction settings template network with
  | last t last =>
    rw [hops_last last, List.mem_singleton] at mem
    rw [mem] at redirect
    exact absurd redirect (last next after)
  | redirect t after' next' hop ih =>
    rw [hops_redirect hop] at mem ⊢
    refine List.mem_cons_of_mem t ?_
    rcases List.mem_cons.1 mem with rfl | mem
    · rw [hop] at redirect
      cases redirect
      exact self_mem_hops _
    · exact ih mem

/-- A transfer comes to what each of its hops comes to from there on. -/
theorem run_of_mem_hops {t s : Transfer} (mem : s ∈ t.hops settings template network) :
    t.run settings template network = s.run settings template network := by
  induction t using hop_induction settings template network with
  | last t last =>
    rw [hops_last last, List.mem_singleton] at mem
    rw [mem]
  | redirect t after next h ih =>
    rw [hops_redirect h] at mem
    rcases List.mem_cons.1 mem with rfl | mem
    · rfl
    · rw [run_redirect h, ih mem]

end Run

end Transfer
end HttpFetch
