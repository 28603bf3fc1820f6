import HttpFetch.Proofs.Feed
import HttpFetch.Proofs.Hops
/-!
# Where errors come from

Four errors are verdicts on a response: that the server blames the request or itself, that a
redirect leads nowhere, and that it leads too far. Together with the error that a redirect leads to
no usable address they refuse a response. Nothing else raises them: not opening a connection
(`noRefusal_connect`), nor reading a head or a body, nor storing one. Only an address that cannot be
read to begin with fails in the same words as a redirect to one.
-/

namespace HttpFetch

/-- Whether an error is a verdict on a response. -/
def TransferError.isVerdict : TransferError → Bool
  | .redirectLimitExceeded _ | .missingRedirectLocation _ | .clientError .. | .serverError .. =>
    true
  | _ => false

/-- Whether an error refuses a response, by a verdict on it or because of where it leads. -/
def TransferError.isRefusal : TransferError → Bool
  | .malformedUrl _ | .redirectLimitExceeded _ | .missingRedirectLocation _ | .clientError ..
  | .serverError .. => true
  | _ => false

theorem TransferError.isVerdict_of_isRefusal {e : TransferError} (h : e.isRefusal = false) :
    e.isVerdict = false := by
  cases e <;> first | rfl | cases h

/-- No error of an outcome refuses a response. -/
def NoRefusal {α : Type} (outcome : Except TransferError α) : Prop :=
  ∀ e, outcome = .error e → e.isRefusal = false

@[simp] theorem noRefusal_ok {α : Type} (a : α) : NoRefusal (.ok a : Except TransferError α) := by
  intro e h
  cases h

@[simp] theorem noRefusal_error {α : Type} (e : TransferError) :
    NoRefusal (.error e : Except TransferError α) ↔ e.isRefusal = false := by
  simp [NoRefusal]

theorem isRefusal_orCancelled {e : TransferError} (h : e.isRefusal = false) (cancelled : Bool) :
    (e.orCancelled cancelled).isRefusal = false := by
  cases cancelled
  · exact h
  · rfl

/-! ## Connections -/

theorem noRefusal_tryFrom (target : String) (last : Fault) (cancelled : Bool)
    (attempts : List Attempt) :
    NoRefusal (Dialled.tryFrom target last cancelled attempts).outcome := by
  induction attempts generalizing last cancelled with
  | nil => simp [Dialled.tryFrom, TransferError.isRefusal]
  | cons attempt rest ih =>
    rw [Dialled.tryFrom]
    split_ifs
    · simp [TransferError.isRefusal]
    · rcases attempt.outcome with fault | peer
      · exact ih fault attempt.cancels
      · simp

theorem noRefusal_dial (reach : Reach) (peer : Url) (cancelled : Bool) :
    NoRefusal (dial reach peer cancelled).outcome := by
  rw [dial]
  rcases reach peer.host.text peer.port with fault | attempts
  · simp [TransferError.isRefusal]
  · exact noRefusal_tryFrom _ _ _ _

theorem noRefusal_openTunnel (url proxy : Url) (proxyAuth : Option Credentials) (channel : Channel)
    (cancelled : Bool) : NoRefusal (openTunnel url proxy proxyAuth channel cancelled).outcome := by
  have connection (fault : Fault) :
      (TransferError.connection proxy.authority fault).isRefusal = false := rfl
  rw [openTunnel]
  simp only
  rcases (channel.outlet.write (connectRequest url proxyAuth)).outcome with fault | _
  · exact (noRefusal_error _).2 (isRefusal_orCancelled (connection fault) _)
  · simp only
    rcases Tunnel.readReply ⟨channel.inbound,
      cancelled || (channel.outlet.write (connectRequest url proxyAuth)).cancels⟩ with
      ⟨fault | reply, rest⟩
    · exact (noRefusal_error _).2 (isRefusal_orCancelled (connection fault) _)
    · simp only
      split_ifs
      · simp
      · simp [TransferError.isRefusal]

theorem noRefusal_answer (trust : Trust) (host : String) (name : ServerName)
    (greeting : Greeting) : NoRefusal (Handshake.answer trust host name greeting).1 := by
  cases greeting with
  | certificate c =>
    simp only [Handshake.answer]
    split_ifs
    · simp [TransferError.isRefusal]
    · rcases c.refusal? trust.roots name with _ | refusal <;> simp [TransferError.isRefusal]
  | _ => simp [Handshake.answer, TransferError.isRefusal]

theorem noRefusal_handshake (trust : Trust) (host : String) (greeting : Greeting) :
    NoRefusal (Handshake.run trust host greeting).1 := by
  rw [Handshake.run]
  rcases trust.check with fault | _
  · simp [TransferError.isRefusal]
  simp only [Handshake.serverName]
  rcases ServerName.read? host with _ | name
  · simp [TransferError.isRefusal]
  · exact noRefusal_answer trust host name greeting

theorem noRefusal_secureTransport (settings : Settings) (url : Url) (route : Route) (peer : Peer)
    (trace : Trace) (cancelled : Bool) :
    NoRefusal (secureTransport settings url route peer trace cancelled).outcome := by
  rw [secureTransport]
  rcases route.transport
  · simp
  simp only
  split_ifs
  · simp [TransferError.isRefusal]
  have handshake := noRefusal_handshake settings.trust url.host.text
    (peer.greeting url.host.text)
  rcases ran : Handshake.run settings.trust url.host.text (peer.greeting url.host.text) with
    ⟨e | _, seen⟩ <;> rw [ran] at handshake
  · rw [noRefusal_error] at handshake
    simp only
    split
    · simp
    · rename_i host fault _
      exact (noRefusal_error _).2 (isRefusal_orCancelled (e := .tlsHandshake host fault) rfl _)
    · rename_i same
      cases same
      exact (noRefusal_error _).2 handshake
  · simp

theorem noRefusal_throughTunnel (settings : Settings) (url : Url) (proxyAuth : Option Credentials)
    (route : Route) (peer : Peer) (cancelled : Bool) :
    NoRefusal (throughTunnel settings url proxyAuth route peer cancelled).outcome := by
  rw [throughTunnel]
  rcases route.via
  · exact noRefusal_secureTransport _ _ _ _ _ _
  · exact noRefusal_secureTransport _ _ _ _ _ _
  simp only
  split_ifs
  · simp [TransferError.isRefusal]
  have tunnel := noRefusal_openTunnel url route.peer proxyAuth peer.plain cancelled
  rcases opened : (openTunnel url route.peer proxyAuth peer.plain cancelled).outcome with e | _ <;>
    rw [opened] at tunnel
  · exact (noRefusal_error e).2 ((noRefusal_error e).1 tunnel)
  · exact noRefusal_secureTransport _ _ _ _ _ _

theorem noRefusal_connect (settings : Settings) (reach : Reach) (url : Url)
    (proxyAuth : Option Credentials) (cancelled : Bool) :
    NoRefusal (connect settings reach url proxyAuth cancelled).outcome := by
  rw [connect]
  split_ifs
  · simp [TransferError.isRefusal]
  have dialled := noRefusal_dial reach (Route.select url settings.proxies).peer cancelled
  simp only
  rcases outcome : (dial reach (Route.select url settings.proxies).peer cancelled).outcome with
    e | peer <;> rw [outcome] at dialled
  · simpa using dialled
  · exact noRefusal_throughTunnel _ _ _ _ _ _

/-! ## Storage -/

namespace Sink

/-- Storage fails with the path that it was at. -/
theorem sinkIo_of_stored {outcome : Except (String × Fault) Unit} {e : TransferError}
    (h : stored outcome = .error e) : ∃ path fault, e = .sinkIo path fault := by
  rcases outcome with ⟨path, fault⟩ | _
  · cases h
    exact ⟨path, fault, rfl⟩
  · cases h

theorem sinkIo_of_flush {sink : Sink} {disk : Disk} {e : TransferError}
    (h : (sink.flush disk).1 = .error e) : ∃ path fault, e = .sinkIo path fault := by
  rw [flush] at h
  rcases stores : sink.body with bytes | body <;> rw [stores] at h
  · cases h
  · exact sinkIo_of_stored h

theorem noRefusal_stored (outcome : Except (String × Fault) Unit) :
    NoRefusal (stored outcome) := by
  intro e error
  obtain ⟨path, fault, rfl⟩ := sinkIo_of_stored error
  rfl

theorem noRefusal_flush (sink : Sink) (disk : Disk) : NoRefusal (sink.flush disk).1 := by
  intro e error
  obtain ⟨path, fault, rfl⟩ := sinkIo_of_flush error
  rfl

theorem noRefusal_complete (sink : Sink) (disk : Disk) : NoRefusal (sink.complete disk).1 := by
  rw [complete]
  split_ifs
  · simp
  rcases sink.body with bytes | body
  · simp
  · exact noRefusal_stored _

end Sink

/-! ## Responses -/

namespace Reader

/-- A portion fails only because of what the head says. -/
theorem malformed_of_feedFrom {r next : Reader} {taken : Nat} {bytes : Bytes} {e : TransferError}
    (h : r.feedFrom taken bytes = (.error e, next)) : ∃ fault, e = .malformedResponse fault := by
  induction bytes generalizing r taken with
  | nil => cases h
  | cons b rest ih =>
    rcases r.phase.isHead_or with head | body | done
    · have takes := takes_step head b
      rw [feedFrom_head head] at h
      rcases step : r.step b with ⟨e' | ended, next'⟩ <;> rw [step] at takes h
      · cases h
        cases takes <;> exact ⟨_, rfl⟩
      · cases ended
        · exact ih h
        · cases h
    · rw [feedFrom_body body] at h
      cases h
    · rw [feedFrom_done done] at h
      cases h

theorem malformed_of_feedHead {r next : Reader} {bytes : Bytes} {e : TransferError}
    (h : r.feedHead bytes = (.error e, next)) : ∃ fault, e = .malformedResponse fault := by
  rw [feedHead, Reader.feed] at h
  rcases fed : (r.hold bytes).feedFrom 0 bytes with ⟨e' | feed, next'⟩ <;> rw [fed] at h
  · cases h
    exact malformed_of_feedFrom fed
  · cases feed <;> cases h

theorem noRefusal_finishAtEnd (r : Reader) : NoRefusal r.finishAtEnd.1 := by
  rw [finishAtEnd]
  split <;> simp [TransferError.isRefusal]

theorem noRefusal_feedHead (r : Reader) (bytes : Bytes) : NoRefusal (r.feedHead bytes).1 := by
  intro e error
  obtain ⟨fault, rfl⟩ := malformed_of_feedHead (Prod.ext error rfl)
  rfl

theorem noRefusal_readHeadFrom (r : Reader) (cancelled : Bool) (deliveries : List Delivery) :
    NoRefusal (r.readHeadFrom cancelled deliveries).1 := by
  induction deliveries generalizing r cancelled with
  | nil =>
    rw [readHeadFrom]
    split_ifs
    · simp
    · simp [TransferError.isRefusal]
    · exact noRefusal_finishAtEnd r
  | cons d rest ih =>
    rw [readHeadFrom]
    by_cases past : (!r.phase.isHead) = true
    · simp [past]
    by_cases gone : cancelled = true
    · simp [past, gone, TransferError.isRefusal]
    simp only [if_neg past, if_neg gone]
    cases d.event with
    | again => exact ih r d.cancels
    | bytes bytes =>
      have fed := noRefusal_feedHead r bytes
      simp only
      rcases h : r.feedHead bytes with ⟨e | _, next⟩ <;> rw [h] at fed
      · simpa using fed
      · exact ih next d.cancels
    | ended =>
      simp only
      split_ifs
      · simp [TransferError.isRefusal]
      · exact noRefusal_finishAtEnd r
    | broken fault =>
      exact (noRefusal_error _).2 (isRefusal_orCancelled (e := .streamRead fault) rfl _)

theorem noRefusal_readHead (r : Reader) (s : Stream) : NoRefusal (r.readHead s).1 :=
  noRefusal_readHeadFrom _ _ _

theorem noRefusal_flush (r : Reader) (disk : Disk) : NoRefusal (r.flush disk).1 :=
  r.sink.noRefusal_flush disk

theorem noRefusal_endBody (r : Reader) (s : Stream) (disk : Disk) :
    NoRefusal (r.endBody s disk).outcome := noRefusal_flush r disk

theorem noRefusal_endBodyEarly (r : Reader) (s : Stream) (disk : Disk) :
    NoRefusal (r.endBodyEarly s disk).outcome := by
  have atEnd := noRefusal_finishAtEnd r
  rw [endBodyEarly]
  rcases h : r.finishAtEnd with ⟨e | _, next⟩ <;> rw [h] at atEnd
  · simpa using atEnd
  · exact noRefusal_endBody next s disk

theorem noRefusal_readBodyFrom (r : Reader) (disk : Disk) (cancelled : Bool)
    (deliveries : List Delivery) :
    NoRefusal (r.readBodyFrom disk cancelled deliveries).outcome := by
  induction deliveries generalizing r disk cancelled with
  | nil =>
    rw [readBodyFrom]
    split_ifs
    · exact noRefusal_endBody _ _ _
    · simp [TransferError.isRefusal]
    · exact noRefusal_endBodyEarly _ _ _
  | cons d rest ih =>
    rw [readBodyFrom]
    by_cases finished : r.phase ≠ .body
    · simp only [if_pos finished]
      exact noRefusal_endBody _ _ _
    by_cases gone : cancelled = true
    · simp [if_neg finished, gone, TransferError.isRefusal]
    simp only [if_neg finished, if_neg gone]
    cases d.event with
    | again => exact ih r disk d.cancels
    | bytes bytes =>
      have flushed := noRefusal_flush ((r.hold bytes).takeBody bytes) disk
      simp only
      rcases h : ((r.hold bytes).takeBody bytes).flush disk with ⟨e | _, next, disk'⟩ <;>
        rw [h] at flushed
      · simpa using flushed
      · exact ih next disk' d.cancels
    | ended =>
      simp only
      split_ifs
      · simp [TransferError.isRefusal]
      · exact noRefusal_endBodyEarly _ _ _
    | broken fault =>
      exact (noRefusal_error _).2 (isRefusal_orCancelled (e := .streamRead fault) rfl _)

theorem sinkIo_of_takeUnread {r : Reader} {disk : Disk} {e : TransferError}
    (h : (r.takeUnread disk).1 = .error e) : ∃ path fault, e = .sinkIo path fault := by
  rw [takeUnread] at h
  simp only at h
  split_ifs at h
  · exact Sink.sinkIo_of_flush h

theorem noRefusal_readBody (r : Reader) (s : Stream) (disk : Disk) :
    NoRefusal (r.readBody s disk).outcome := by
  rw [readBody]
  rcases took : r.takeUnread disk with ⟨e | _, next, disk'⟩
  · obtain ⟨path, fault, rfl⟩ := sinkIo_of_takeUnread (congrArg Prod.fst took)
    simp [TransferError.isRefusal]
  · exact noRefusal_readBodyFrom _ _ _ _

end Reader

/-! ## Hops -/

/-- What goes wrong before a head is complete refuses no response. -/
theorem Listens.isRefusal {settings : Settings} {url : Url} {sink after : Sink} {e : TransferError}
    {cancelled : Bool} {trace : Trace}
    (h : Listens settings url sink (.noHead e after cancelled trace)) : e.isRefusal = false := by
  cases h with
  | cancelled => rfl
  | unsent fault => exact isRefusal_orCancelled (e := .streamWrite fault) rfl _
  | @incomplete inbound stream _ reader _ read =>
    have noRefusal := Reader.noRefusal_readHead (Reader.start settings.readBufferSize sink) inbound
    rw [read] at noRefusal
    simpa using noRefusal

namespace Transfer

/-- What keeps a hop from a connection refuses no response, unless the address cannot be read. -/
theorem isRefusal_of_noConnection {settings : Settings} {template : Template} {reach : Reach}
    {sink : Sink} {gone cancelled : Bool} {e : TransferError} {trace : Option Trace}
    (h : hear settings template reach sink gone = .noConnection e trace cancelled) :
    e.isRefusal = false ∨ ∃ fault, e = .malformedUrl fault ∧ Url.read sink.url = .error fault := by
  have hears := hears_hear settings template reach sink gone
  rw [h] at hears
  cases hears with
  | cancelled => exact .inl rfl
  | @malformed fault _ read => exact .inr ⟨fault, rfl, read⟩
  | @unopened url _ _ _ outcome => exact .inl (noRefusal_connect _ _ _ _ _ e outcome)
  | @opened url connection _ _ _ _ heard =>
    have listens := connection.listens_listen settings (templateFor settings template url) url
      sink.reset (opening settings template reach url).cancelled
      ((opening settings template reach url).trace.getD [])
    rw [← heard] at listens
    cases listens

/-- What keeps a hop from a connection is no verdict. -/
theorem isVerdict_of_noConnection {settings : Settings} {template : Template} {reach : Reach}
    {sink : Sink} {gone cancelled : Bool} {e : TransferError} {trace : Option Trace}
    (h : hear settings template reach sink gone = .noConnection e trace cancelled) :
    e.isVerdict = false := by
  rcases isRefusal_of_noConnection h with noRefusal | ⟨fault, rfl, -⟩
  · exact e.isVerdict_of_isRefusal noRefusal
  · rfl

/-- What keeps a hop from a complete head refuses no response. -/
theorem isRefusal_of_noHead {settings : Settings} {template : Template} {reach : Reach}
    {sink after : Sink} {gone cancelled : Bool} {e : TransferError} {trace : Trace}
    (h : hear settings template reach sink gone = .noHead e after cancelled trace) :
    e.isRefusal = false := by
  obtain ⟨url, listens⟩ := listens_of_isConnected
    (show (hear settings template reach sink gone).isConnected = true by rw [h]; rfl)
  rw [h] at listens
  exact listens.isRefusal

end Transfer

end HttpFetch
