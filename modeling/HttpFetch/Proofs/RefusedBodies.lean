import HttpFetch.Proofs.HeadEnd
import HttpFetch.Proofs.LastHop
/-!
# Refused responses leave no body

A reader stops at the end of the head, also when the read that completes it gave bytes of a body.
Only a response that is accepted has its body read, so one that leads on or is refused leaves
nothing of it in the sink (`Reader.keepsNone_after`), and closing a sink that keeps nothing creates
no file (`Sink.KeepsNone.complete`).
-/

namespace HttpFetch

/-- A sink that keeps no byte of a body: none in memory, none counted, and no file. -/
structure Sink.KeepsNone (sink : Sink) : Prop where
  buffered : sink.buffered = []
  progress : sink.progress = 0
  filePath : sink.filePath = none

namespace Sink.KeepsNone

variable {sink other : Sink}

theorem congr (keepsNone : sink.KeepsNone) (body : other.body = sink.body)
    (progress : other.progress = sink.progress) : other.KeepsNone := by
  refine ⟨?_, progress.trans keepsNone.progress, ?_⟩
  · have buffered := keepsNone.buffered
    rw [Sink.buffered] at buffered ⊢
    rwa [body]
  · have filePath := keepsNone.filePath
    rw [Sink.filePath] at filePath ⊢
    rwa [body]

theorem reset (sink : Sink) : sink.reset.KeepsNone := by
  rcases h : sink.body with bytes | body <;>
    exact ⟨by simp [Sink.buffered, Sink.reset, h, FileBody.reset], rfl,
      by simp [Sink.filePath, Sink.reset, h, FileBody.reset, FileBody.path?]⟩

/-- Another address is no reason to keep anything. -/
theorem setUrl (keepsNone : sink.KeepsNone) (url : String) : (sink.setUrl url).KeepsNone := by
  obtain ⟨buffered, progress, filePath⟩ := keepsNone
  rcases h : sink.body with bytes | body
  · rw [Sink.buffered, h] at buffered
    exact ⟨by simpa [Sink.buffered, Sink.setUrl, h] using buffered, progress,
      by simp [Sink.filePath, Sink.setUrl, h]⟩
  · rw [Sink.buffered, h] at buffered
    exact ⟨by simpa [Sink.buffered, Sink.setUrl, h, FileBody.retarget] using buffered, progress,
      by simp [Sink.filePath, Sink.setUrl, h, FileBody.retarget, FileBody.path?]⟩

/-- Closing a sink that keeps nothing leaves the disk alone. -/
theorem complete (keepsNone : sink.KeepsNone) (disk : Disk) :
    ∃ closed, sink.complete disk = (.ok (), closed, disk) ∧ closed.KeepsNone := by
  by_cases completed : sink.completed = true
  · exact ⟨sink, by rw [Sink.complete, if_pos completed], keepsNone⟩
  rcases h : sink.body with bytes | body
  · refine ⟨{ sink with completed := true }, ?_, keepsNone.congr rfl rfl⟩
    rw [Sink.complete, if_neg completed, h]
  · obtain ⟨buffered, progress, filePath⟩ := keepsNone
    rw [Sink.buffered, h] at buffered
    rw [Sink.filePath, h] at filePath
    have waits : body.pending.isEmpty = true := by simpa using buffered
    have open' : body.close = body := by
      rcases target : body.target with _ | ⟨name, path⟩ | name
      · rw [FileBody.close, target]
      · simp [FileBody.path?, target] at filePath
      · simp [FileBody.path?, target] at filePath
    refine ⟨{ sink with completed := true }, ?_, ?_⟩
    · rw [Sink.complete, if_neg completed, h]
      simp only [FileBody.flush, waits, if_true, Sink.stored, open', ← h]
    · exact ⟨by rwa [Sink.buffered, h], progress, by rwa [Sink.filePath, h]⟩

end Sink.KeepsNone

/-! ## Heads -/

namespace Reader

variable {r next : Reader}

/-- No byte of the head is kept as one of a body. -/
theorem Takes.keepsNone {b : UInt8} {outcome : Except TransferError Bool}
    (h : Takes r b outcome next) (keepsNone : r.sink.KeepsNone) : next.sink.KeepsNone :=
  keepsNone.congr h.body h.received.2

/-- **Bytes taken from the start of a head on leave no body**: where the head ends, the rest of them
is not taken. -/
theorem keepsNone_after (head : r.phase.isHead = true) (keepsNone : r.sink.KeepsNone)
    (bytes : Bytes) : (r.after bytes).sink.KeepsNone := by
  induction bytes generalizing r with
  | nil => exact keepsNone
  | cons b rest ih =>
    have takes := takes_step head b
    rcases step : r.step b with ⟨outcome, next⟩
    rw [step] at takes
    have kept := takes.keepsNone keepsNone
    by_cases goesOn : outcome = .ok false
    · rw [goesOn] at step takes
      rw [after_step head step]
      exact ih (takes.isHead head) kept
    · rwa [after_stop head step goesOn]

/-- Reading a head keeps nothing of a body, whatever comes of it. -/
theorem keepsNone_readHead (head : r.phase.isHead = true) (keepsNone : r.sink.KeepsNone)
    (s : Stream) : (r.readHead s).2.1.sink.KeepsNone := by
  have same := congrArg Reader.sink (readHead_arriving head s)
  rw [show (r.readHead s).2.1.sink = _ from same]
  exact keepsNone_after head keepsNone _

end Reader

namespace Transfer

section Run

variable {settings : Settings} {template : Template} {network : Network}

/-! ## Hops -/

/-- A head that is heard leaves no body. -/
theorem keepsNone_of_head {reach : Reach} {sink : Sink} {cancelled : Bool} {url : Url}
    {reader : Reader} {stream : Stream} {trace : Trace}
    (h : hear settings template reach sink cancelled = .head url reader stream trace) :
    reader.sink.KeepsNone := by
  obtain ⟨_, listens⟩ := listens_of_isConnected
    (show (hear settings template reach sink cancelled).isConnected = true by rw [h]; rfl)
  rw [h] at listens
  cases listens with
  | @head inbound _ _ _ read =>
    have kept := Reader.keepsNone_readHead (r := Reader.start settings.readBufferSize sink.reset)
      rfl (.reset sink) inbound
    rwa [read] at kept

/-- A hop that leads on leaves no body. -/
theorem keepsNone_of_redirect {t after : Transfer} {next : Url}
    (h : t.hop settings template network = (.ok (some next), after)) :
    after.sink.KeepsNone := by
  obtain ⟨url, reader, stream, trace, heard, -, rfl⟩ := heard_of_redirect h
  exact keepsNone_of_head heard

/-- The sink of a hop that leads on is what the peer's bytes make of one that starts over. -/
theorem sink_of_redirect {t after : Transfer} {next : Url}
    (h : t.hop settings template network = (.ok (some next), after)) :
    ∃ url connection, Url.read t.sink.url = .ok url ∧
      (opening settings template (network t.redirects.followed) url).outcome = .ok connection ∧
      after.sink = ((Reader.start settings.readBufferSize t.sink.reset).after
        (Stream.waitingIn connection.channel.inbound)).sink := by
  obtain ⟨_, reader, stream, trace, heard, -, rfl⟩ := heard_of_redirect h
  have hears := hears_hear settings template (network t.redirects.followed) t.sink t.cancelled
  rw [Transfer.heard] at heard
  rw [heard] at hears
  cases hears with
  | @opened url connection _ _ read outcome listened =>
    obtain ⟨-, cancels, readHead⟩ := Connection.readHead_of_listen listened.symm
    have same := Reader.readHead_waiting
      (r := Reader.start settings.readBufferSize t.sink.reset) rfl
      (Reader.capacity_start_pos settings.readBufferSize t.sink.reset) readHead
    have sinks := congrArg Reader.sink same
    exact ⟨url, connection, read, outcome, sinks⟩

/-- Every hop but the first starts without a body. -/
theorem keepsNone_of_mem_hops {t s : Transfer} (mem : s ∈ t.hops settings template network) :
    s = t ∨ s.sink.KeepsNone := by
  refine invariant_of_mem_hops (fun s => s = t ∨ s.sink.KeepsNone) (.inl rfl) ?_ mem
  intro s after next hop _
  exact .inr ((keepsNone_of_redirect hop).setUrl next.text)

/-- A hop that ends with a refusal leaves no body and the disk as it was. Only an address that
cannot be read to begin with leaves the sink with what it had. -/
theorem keepsNone_of_refusal {t after : Transfer} {e : TransferError}
    (h : t.hop settings template network = (.error e, after)) (refusal : e.isRefusal = true)
    (before : t.sink.KeepsNone ∨ e.isVerdict = true ∨ ∃ url, Url.read t.sink.url = .ok url) :
    after.sink.KeepsNone ∧ after.disk = t.disk := by
  have hopped := hopped_of_hop h
  generalize ends : (.error e : Except TransferError (Option Url)) = outcome at hopped
  cases hopped with
  | noConnection heard =>
    cases ends
    refine ⟨?_, rfl⟩
    rcases isRefusal_of_noConnection heard with noRefusal | ⟨fault, rfl, unread⟩
    · rw [refusal] at noRefusal
      cases noRefusal
    rcases before with keepsNone | verdict | ⟨url, read⟩
    · exact keepsNone
    · cases verdict
    · rw [read] at unread
      cases unread
  | noHead heard =>
    cases ends
    have noRefusal := isRefusal_of_noHead heard
    rw [refusal] at noRefusal
    cases noRefusal
  | abort heard => exact ⟨keepsNone_of_head heard, rfl⟩
  | redirect => cases ends
  | @accept url reader stream =>
    have noRefusal := reader.noRefusal_readBody stream t.disk
    rcases outcome : (reader.readBody stream t.disk).outcome with e | _ <;>
      rw [outcome] at ends noRefusal
    · cases ends
      have noRefusal := (noRefusal_error e).1 noRefusal
      rw [refusal] at noRefusal
      cases noRefusal
    · cases ends

end Run

/-! ## The whole run -/

/-- The error of a transfer that is refused is that of its run. -/
theorem finish_refusal {outcome : Except TransferError Unit} {t : Transfer} {e : TransferError}
    (error : (finish outcome t).completion.error = some e) (refusal : e.isRefusal = true) :
    outcome = .error e := by
  have noRefusal := t.sink.noRefusal_complete t.disk
  rw [finish] at error
  rcases closed : t.sink.complete t.disk with ⟨e' | _, sink, disk⟩ <;>
    rw [closed] at error noRefusal
  · rcases outcome with e'' | _
    · simpa [errorOf] using error
    · have same : e' = e := by simpa [errorOf] using error
      have noRefusal := (noRefusal_error e').1 noRefusal
      rw [same, refusal] at noRefusal
      cases noRefusal
  · rcases outcome with e'' | _
    · simpa [errorOf] using error
    · simp [errorOf] at error

/-- Closing a sink that keeps nothing adds nothing. -/
theorem keepsNone_finish {t : Transfer} (keepsNone : t.sink.KeepsNone)
    (outcome : Except TransferError Unit) :
    (finish outcome t).completion.sink.KeepsNone ∧ (finish outcome t).disk = t.disk := by
  obtain ⟨closed, same, kept⟩ := keepsNone.complete t.disk
  rw [finish, same]
  exact ⟨kept, rfl⟩

/-- A run that ends with a refusal leaves no body and the disk as it was. -/
theorem keepsNone_of_run {settings : Settings} {template : Template} {network : Network}
    {t : Transfer} {e : TransferError}
    (refused : (t.run settings template network).1 = .error e) (refusal : e.isRefusal = true)
    (before : t.sink.KeepsNone ∨ e.isVerdict = true ∨ ∃ url, Url.read t.sink.url = .ok url) :
    (t.run settings template network).2.sink.KeepsNone ∧
      (t.run settings template network).2.disk = t.disk := by
  obtain ⟨s, last, ends⟩ : ∃ s, (t.hops settings template network).getLast? = some s ∧
      s.IsLast settings template network := t.exists_last
  have mem := List.mem_of_getLast? last
  have before' : s.sink.KeepsNone ∨ e.isVerdict = true ∨ ∃ url, Url.read s.sink.url = .ok url := by
    rcases keepsNone_of_mem_hops mem with rfl | keepsNone
    · exact before
    · exact .inl keepsNone
  rw [run_of_mem_hops mem, run_last ends] at refused ⊢
  rcases hop : s.hop settings template network with ⟨e' | next, after⟩ <;> rw [hop] at refused
  · cases refused
    obtain ⟨keepsNone, disk⟩ := keepsNone_of_refusal hop refusal before'
    exact ⟨keepsNone, disk.trans (kept_of_mem_hops mem).1⟩
  · cases refused

end Transfer

/-- **A refused response leaves no body**, whatever the peers do and however their bytes are cut
into reads. If a transfer fails with a verdict on a response or because a redirect leads to no
usable address, its sink keeps no byte of a body, and no file was created for it. So it is when a
redirect is followed: the sink keeps nothing and the disk is as it was, from the moment in which the
connection is open, through every byte that the peer sends, to the start of the next hop. -/
theorem fetch_refused (settings : Settings) (template : Template) (network : Network)
    (sink : Sink) (disk : Disk) (cancelled : Bool) :
    let start := Transfer.start settings sink disk cancelled
    let finished := fetch settings template network sink disk cancelled
    (∀ e, finished.completion.error = some e →
      (e.isVerdict = true ∨
        (∃ fault, e = .malformedUrl fault) ∧ ∃ url, Url.read sink.url = .ok url) →
      finished.completion.sink.KeepsNone ∧ finished.disk = disk) ∧
    ∀ t ∈ start.hops settings template network,
      t.disk = disk ∧ (t = start ∨ t.sink.KeepsNone) ∧
      ∀ next after, t.hop settings template network = (.ok (some next), after) →
        (∃ url connection, Url.read t.sink.url = .ok url ∧
          (Transfer.opening settings template (network t.redirects.followed) url).outcome =
            .ok connection ∧
          (∀ seen, seen <+: Stream.waitingIn connection.channel.inbound →
            ((Reader.start settings.readBufferSize t.sink.reset).after seen).sink.KeepsNone) ∧
          after.sink = ((Reader.start settings.readBufferSize t.sink.reset).after
            (Stream.waitingIn connection.channel.inbound)).sink) ∧
        after.sink.KeepsNone ∧ (after.goOn next).sink.KeepsNone ∧ after.disk = disk := by
  intro start finished
  refine ⟨fun e error refused => ?_, fun t mem => ⟨?_, ?_, fun next after hop => ?_⟩⟩
  · have refusal : e.isRefusal = true := by
      rcases refused with verdict | ⟨⟨fault, rfl⟩, -⟩
      · rw [← Bool.not_eq_false]
        intro noRefusal
        rw [e.isVerdict_of_isRefusal noRefusal] at verdict
        cases verdict
      · rfl
    have before : sink.KeepsNone ∨ e.isVerdict = true ∨ ∃ url, Url.read sink.url = .ok url :=
      .inr (refused.imp_right And.right)
    have ended := Transfer.finish_refusal error refusal
    obtain ⟨keepsNone, kept⟩ := Transfer.keepsNone_of_run (t := start) ended refusal before
    obtain ⟨keepsNone', kept'⟩ :=
      Transfer.keepsNone_finish keepsNone (start.run settings template network).1
    exact ⟨keepsNone', kept'.trans kept⟩
  · exact (Transfer.kept_of_mem_hops mem).1
  · exact Transfer.keepsNone_of_mem_hops mem
  · have keepsNone := Transfer.keepsNone_of_redirect hop
    obtain ⟨url, connection, read, outcome, same⟩ := Transfer.sink_of_redirect hop
    exact ⟨⟨url, connection, read, outcome,
      fun seen _ => Reader.keepsNone_after rfl (.reset t.sink) seen, same⟩, keepsNone,
      keepsNone.setUrl next.text,
      (Transfer.kept_of_redirect hop).1.trans (Transfer.kept_of_mem_hops mem).1⟩

/-- A redirect and an error, each with bytes of a body in the read that completes its head. -/
theorem fetch_refused_redirected :
    let answers (text : String) : Reach := fun _ _ =>
      .ok [⟨"::1", false, .ok { plain := { inbound := [⟨false, .ok (Utf8.encode text)⟩] } }⟩]
    let network : Network := fun hop =>
      if hop = 0 then answers "V 302 F\nLocation: /b\nContent-Length: 2\n\nxy"
      else answers "V 404 N\n\nz"
    let sink : Sink := .toFile "http://[::1]/a" "d"
    let finished := fetch {} {} network sink {} false
    finished.completion.error = some (.clientError 404 "N") ∧
      finished.completion.redirects = 1 ∧
      finished.completion.sink.KeepsNone ∧ finished.disk = {} := by
  intro answers network sink finished
  have refused : finished.completion.error = some (.clientError 404 "N") := by decide +kernel
  exact ⟨refused, by decide +kernel,
    (fetch_refused {} {} network sink {} false).1 _ refused (.inl rfl)⟩

end HttpFetch
