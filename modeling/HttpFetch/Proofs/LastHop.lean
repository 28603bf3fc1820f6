import HttpFetch.Proofs.Feed
import HttpFetch.Proofs.RedirectBound
/-!
# Only the last hop decides

A redirect leaves nothing behind but its target. The sink that the next hop fills is that of a new
transfer to the target (`Sink.reset_setUrl`), and the disk is as it was, so once the last hop has a
connection, the transfer ends as one that had started there (`fetch_eq_lastHop`).
-/

namespace HttpFetch

/-! ## Kinds of sinks -/

/-- Where a body is to be kept. -/
inductive SinkKind where
  | memory
  /-- in a new file of a directory -/
  | file (dir : String)
  deriving Repr, DecidableEq

/-- A sink of a kind, as it is at the start. -/
def SinkKind.fresh : SinkKind → (url : String) → Sink
  | .memory, url => .inMemory url
  | .file dir, url => .toFile url dir

/-- The kind of a body. -/
def Body.kind : Body → SinkKind
  | .memory _ => .memory
  | .file body => .file body.dir

namespace Sink

/-- A sink that starts over at an address is a new one there, of the same kind. -/
theorem reset_setUrl (sink : Sink) (url : String) :
    (sink.setUrl url).reset = sink.body.kind.fresh url := by
  cases h : sink.body with
  | memory bytes => simp [setUrl, reset, h, Body.kind, SinkKind.fresh, inMemory]
  | file body =>
    simp [setUrl, reset, h, Body.kind, SinkKind.fresh, toFile, FileBody.retarget, FileBody.reset,
      FileBody.start]

theorem reset_fresh (kind : SinkKind) (url : String) : (kind.fresh url).reset = kind.fresh url := by
  cases kind <;> rfl

theorem kind_reset (sink : Sink) : sink.reset.body.kind = sink.body.kind := by
  cases h : sink.body with
  | memory bytes => simp [reset, h, Body.kind]
  | file body => simp [reset, h, Body.kind, FileBody.reset]

theorem kind_setUrl (sink : Sink) (url : String) :
    (sink.setUrl url).body.kind = sink.body.kind := by
  cases h : sink.body with
  | memory bytes => simp [setUrl, h, Body.kind]
  | file body => simp [setUrl, h, Body.kind, FileBody.retarget]

end Sink

/-! ## Heads do not touch the body -/

namespace Reader

/-- As long as the head goes on, the body stays as it is. -/
theorem body_feedFrom {r : Reader} (head : r.phase.isHead = true) (taken : Nat) (bytes : Bytes) :
    (r.feedFrom taken bytes).2.sink.body = r.sink.body := by
  induction bytes generalizing r taken with
  | nil => rfl
  | cons b rest ih =>
    have takes := takes_step head b
    rw [feedFrom_head head]
    rcases step : r.step b with ⟨e | ended, next⟩ <;> simp only [step] at takes ⊢
    · exact takes.body
    · cases ended
      · exact (ih (takes.isHead head) (taken + 1)).trans takes.body
      · exact takes.body

theorem body_feedHead {r : Reader} (head : r.phase.isHead = true) (bytes : Bytes) :
    (r.feedHead bytes).2.sink.body = r.sink.body := by
  have body := body_feedFrom (r := r.hold bytes) head 0 bytes
  rw [feedHead, Reader.feed]
  rcases fed : (r.hold bytes).feedFrom 0 bytes with ⟨e | feed, next⟩ <;> rw [fed] at body
  · exact body
  · cases feed <;> exact body

/-- Reading a head leaves the body as it is. -/
theorem body_readHeadFrom (r : Reader) (cancelled : Bool) (deliveries : List Delivery) :
    (r.readHeadFrom cancelled deliveries).2.1.sink.body = r.sink.body := by
  have atEnd (r : Reader) : r.finishAtEnd.2.sink.body = r.sink.body := by
    rw [finishAtEnd]
    split <;> rfl
  induction deliveries generalizing r cancelled with
  | nil =>
    rw [readHeadFrom]
    split_ifs
    · rfl
    · rfl
    · exact atEnd r
  | cons d rest ih =>
    rw [readHeadFrom]
    by_cases past : (!r.phase.isHead) = true
    · simp [past]
    by_cases gone : cancelled = true
    · simp [past, gone]
    have head : r.phase.isHead = true := by simpa using past
    simp only [if_neg past, if_neg gone]
    cases d.event with
    | again => exact ih r d.cancels
    | bytes bytes =>
      have body := body_feedHead head bytes
      simp only
      rcases fed : r.feedHead bytes with ⟨e | _, next⟩ <;> rw [fed] at body
      · exact body
      · exact (ih next d.cancels).trans body
    | ended =>
      simp only
      split_ifs
      · rfl
      · exact atEnd r
    | broken fault => rfl

theorem body_readHead (r : Reader) (s : Stream) : (r.readHead s).2.1.sink.body = r.sink.body :=
  r.body_readHeadFrom _ _

end Reader

namespace Transfer

/-! ## What is heard -/

/-- The sink that is left by a head has the body of a sink that starts over. -/
theorem body_of_head {settings : Settings} {template : Template} {reach : Reach} {sink : Sink}
    {cancelled : Bool} {url : Url} {reader : Reader} {stream : Stream} {trace : Trace}
    (h : hear settings template reach sink cancelled = .head url reader stream trace) :
    reader.sink.body = sink.reset.body := by
  obtain ⟨_, listens⟩ := listens_of_isConnected
    (show (hear settings template reach sink cancelled).isConnected = true by rw [h]; rfl)
  rw [h] at listens
  cases listens with
  | @head inbound _ _ _ read =>
    have body := (Reader.start settings.readBufferSize sink.reset).body_readHead inbound
    rw [read] at body
    exact body

/-- Nothing is heard of a sink but its address and what is left of it when it starts over. -/
theorem hear_congr {sink sink' : Sink} (url : sink.url = sink'.url)
    (reset : sink.reset = sink'.reset) (settings : Settings) (template : Template) (reach : Reach)
    (cancelled : Bool) :
    hear settings template reach sink cancelled = hear settings template reach sink' cancelled := by
  rw [hear, hear, url, reset]

theorem cancelled_of_isConnected {settings : Settings} {template : Template} {reach : Reach}
    {sink : Sink} {cancelled : Bool}
    (h : (hear settings template reach sink cancelled).isConnected = true) :
    cancelled = false := by
  rw [← Bool.not_eq_true]
  intro gone
  rw [hear, if_pos gone] at h
  cases h

section Run

variable {settings : Settings} {template : Template} {network : Network}

/-! ## What a redirect leaves -/

/-- A hop that leads on leaves the disk as it was and the kind of the sink. -/
theorem kept_of_redirect {t after : Transfer} {next : Url}
    (h : t.hop settings template network = (.ok (some next), after)) :
    after.disk = t.disk ∧ after.sink.body.kind = t.sink.body.kind := by
  obtain ⟨url, reader, stream, trace, heard, -, rfl⟩ := heard_of_redirect h
  refine ⟨rfl, ?_⟩
  simp only
  rw [body_of_head heard, Sink.kind_reset]

theorem kept_of_mem_hops {t s : Transfer} (mem : s ∈ t.hops settings template network) :
    s.disk = t.disk ∧ s.sink.body.kind = t.sink.body.kind := by
  refine invariant_of_mem_hops
    (fun s => s.disk = t.disk ∧ s.sink.body.kind = t.sink.body.kind) ⟨rfl, rfl⟩ ?_ mem
  intro s after next hop kept
  obtain ⟨disk, kind⟩ := kept_of_redirect hop
  refine ⟨disk.trans kept.1, ?_⟩
  rw [goOn]
  simp only
  rw [Sink.kind_setUrl, kind, kept.2]

/-! ## Where a response ends a transfer -/

/-- A response that asks for no redirect is judged without regard to the redirects before, whose
count matters only once the status is that of a redirect. -/
theorem judge_of_not_redirection {sink : Sink}
    (final : (decide (300 ≤ sink.status) && decide (sink.status < 400)) = false)
    (redirects redirects' : Redirects) (url : Url) :
    (redirects.judge sink url).1 = (redirects'.judge sink url).1 ∧
      (redirects.judge sink url).1.isRedirect = false := by
  rw [Redirects.judge, Redirects.judge]
  split_ifs with server client fine limit limit'
  · exact ⟨rfl, rfl⟩
  · exact ⟨rfl, rfl⟩
  · exact ⟨rfl, rfl⟩
  all_goals
    have low := UInt16.not_lt.1 fine
    have high := UInt16.not_le.1 client
    simp [low, high] at final

/-- A response that asks for no redirect is settled without regard to what went before. -/
theorem conclude_final {heard : Heard} (connected : heard.isConnected = true)
    (final : heard.isRedirection = false) (t t' : Transfer) (disk : t.disk = t'.disk) :
    ∃ trace, (t.conclude heard).1 = (t'.conclude heard).1 ∧
      (t.conclude heard).2.sink = (t'.conclude heard).2.sink ∧
      (t.conclude heard).2.disk = (t'.conclude heard).2.disk ∧
      (t.conclude heard).2.traces = t.traces ++ [trace] ∧
      (t'.conclude heard).2.traces = t'.traces ++ [trace] ∧
      ∀ next, (t.conclude heard).1 ≠ .ok (some next) := by
  rcases heard with
    ⟨e, trace, cancelled⟩ | ⟨e, sink, cancelled, trace⟩ | ⟨url, reader, stream, trace⟩
  · cases connected
  · exact ⟨trace, rfl, rfl, disk, rfl, rfl, by simp [conclude]⟩
  · obtain ⟨same, leads⟩ := judge_of_not_redirection final t.redirects t'.redirects url
    refine ⟨trace, ?_⟩
    simp only [conclude, settle, disk]
    rcases judged : t.redirects.judge reader.sink url with ⟨verdict, counted⟩
    rcases judged' : t'.redirects.judge reader.sink url with ⟨verdict', counted'⟩
    simp only [judged, judged'] at same leads
    rw [← same]
    cases verdict with
    | accept =>
      refine ⟨rfl, rfl, rfl, rfl, rfl, ?_⟩
      rcases (reader.readBody stream t'.disk).outcome with e | _ <;> simp [Except.map]
    | redirect => cases leads
    | abort e => exact ⟨rfl, rfl, rfl, rfl, rfl, by simp⟩

end Run
end Transfer

/-- What a sink and a disk come to in the end does not depend on what else a transfer has. -/
theorem Transfer.finish_congr {t t' : Transfer} (sink : t.sink = t'.sink) (disk : t.disk = t'.disk)
    (outcome : Except TransferError Unit) :
    (finish outcome t).completion.sink = (finish outcome t').completion.sink ∧
      (finish outcome t).completion.error = (finish outcome t').completion.error ∧
      (finish outcome t).disk = (finish outcome t').disk := by
  simp only [finish, sink, disk, and_self]

theorem fetch_of_run {settings : Settings} {template : Template} {network : Network} {sink : Sink}
    {disk : Disk} {cancelled : Bool} {outcome : Except TransferError Unit} {after : Transfer}
    (h : (Transfer.start settings sink disk cancelled).run settings template network =
      (outcome, after)) :
    fetch settings template network sink disk cancelled = Transfer.finish outcome after := by
  simp only [fetch, h]

/-- **Only the last hop decides.** If a transfer is led on to `next`, reaches it, and is led on no
further, then it ends as one that starts there, with a new sink of the same kind: the same sink, the
same error, the same disk, and the same bytes on its only connection. -/
theorem fetch_eq_lastHop {settings : Settings} {template : Template} {network : Network}
    {sink : Sink} {disk : Disk} {cancelled : Bool} {before after : Transfer} {next : Url}
    (hop : before ∈
      (Transfer.start settings sink disk cancelled).hops settings template network)
    (redirect : before.hop settings template network = (.ok (some next), after))
    (connected : ((after.goOn next).heard settings template network).isConnected = true)
    (final : ((after.goOn next).heard settings template network).isRedirection = false) :
    let whole := fetch settings template network sink disk cancelled
    let single := fetch settings template (fun _ => network after.redirects.followed)
      (sink.body.kind.fresh next.text) disk false
    whole.completion.sink = single.completion.sink ∧
      whole.completion.error = single.completion.error ∧
      whole.disk = single.disk ∧
      ∃ trace, single.traces = [trace] ∧ whole.traces = after.traces ++ [trace] := by
  intro whole single
  have mem := Transfer.goOn_mem_hops hop redirect
  obtain ⟨sameDisk, kind⟩ := Transfer.kept_of_mem_hops mem
  have going := Transfer.cancelled_of_isConnected connected
  let start := Transfer.start settings (sink.body.kind.fresh next.text) disk false
  have reset : (after.goOn next).sink.reset = start.sink.reset := by
    have kind' : after.sink.body.kind = sink.body.kind := by
      rw [← Sink.kind_setUrl after.sink next.text]
      exact kind
    rw [Transfer.goOn, Sink.reset_setUrl, kind']
    exact (Sink.reset_fresh sink.body.kind next.text).symm
  have url : (after.goOn next).sink.url = start.sink.url := by
    have urls := congrArg Sink.url reset
    exact urls
  have heard : start.heard settings template (fun _ => network after.redirects.followed) =
      (after.goOn next).heard settings template network := by
    rw [Transfer.heard, Transfer.heard, Transfer.hear_congr url reset, going]
    rfl
  obtain ⟨trace, outcome, sink', disk', traces, traces', last⟩ :=
    Transfer.conclude_final connected final (after.goOn next) start sameDisk
  have wholeRun := Transfer.run_of_mem_hops mem
  rw [Transfer.run_last (t := after.goOn next)
    (fun _ _ same => last _ (by rw [← Transfer.hop_eq, same])), Transfer.hop_eq] at wholeRun
  have ends : start.IsLast settings template fun _ => network after.redirects.followed :=
    fun _ _ same => last _ (by rw [outcome, ← heard, ← Transfer.hop_eq, same])
  have singleRun := Transfer.run_last ends
  rw [Transfer.hop_eq, heard, ← outcome] at singleRun
  have wholeEnd : whole = _ := fetch_of_run wholeRun
  have singleEnd : single = _ := fetch_of_run singleRun
  rw [wholeEnd, singleEnd]
  obtain ⟨sameSink, sameError, sameDisk⟩ := Transfer.finish_congr sink' disk' _
  exact ⟨sameSink, sameError, sameDisk, trace, traces', traces⟩

/-- A redirect from one host to another, whose response goes to a file. -/
theorem fetch_eq_lastHop_file :
    let answers (text : String) : Reach := fun _ _ =>
      .ok [⟨"::1", false, .ok { plain := { inbound := [⟨false, .ok (Utf8.encode text)⟩] } }⟩]
    let network : Network := fun hop =>
      if hop = 0 then answers "V 302 F\nLocation: http://[::2]/b\n\n"
      else answers "V 200 O\nContent-Length: 1\n\nx"
    let sink : Sink := .toFile "http://[::1]/a" "d"
    ∃ next after, (Transfer.start {} sink {} false).hop {} {} network = (.ok (some next), after) ∧
      next.text = "http://[::2]/b" ∧
      ((after.goOn next).heard {} {} network).isConnected = true ∧
      ((after.goOn next).heard {} {} network).isRedirection = false ∧
      let whole := fetch {} {} network sink {} false
      let single := fetch {} {} (fun _ => network after.redirects.followed)
        (.toFile "http://[::2]/b" "d") {} false
      whole.completion.sink = single.completion.sink ∧
        whole.completion.error = single.completion.error ∧
        whole.disk = single.disk ∧
        ∃ trace, single.traces = [trace] ∧ whole.traces = after.traces ++ [trace] := by
  intro answers network sink
  have check : ((Transfer.start {} sink {} false).hop {} {} network).1.toOption.join.any
      (fun next => decide (next.text = "http://[::2]/b") &&
        ((((Transfer.start {} sink {} false).hop {} {} network).2.goOn next).heard
          {} {} network).isConnected &&
        !((((Transfer.start {} sink {} false).hop {} {} network).2.goOn next).heard
          {} {} network).isRedirection) = true := by
    decide +kernel
  rcases redirect : (Transfer.start {} sink {} false).hop {} {} network with
    ⟨e | _ | next, after⟩ <;> rw [redirect] at check
  · cases check
  · cases check
  · simp only [Except.toOption, Option.join_some, Option.any_some, Bool.and_eq_true,
      decide_eq_true_eq, Bool.not_eq_true'] at check
    obtain ⟨⟨target, connected⟩, final⟩ := check
    refine ⟨next, after, rfl, target, connected, final, ?_⟩
    have same := fetch_eq_lastHop (Transfer.self_mem_hops _) redirect connected final
    rw [target] at same
    exact same

end HttpFetch
