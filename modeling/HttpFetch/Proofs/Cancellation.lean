import HttpFetch.Proofs.WholeBody
/-!
# Cancellation is not the end of a response

A transfer that is cancelled has its connection shut down, and then a read finds what it would find
at the end of a response. So every read that gives no bytes asks whether the transfer has been
cancelled, and no read is issued after that (`Issues`). What each single read can come to is said
once for the head (`Reader.headRead`) and once for the body (`Reader.bodyStep`), and the runs follow
by induction on the reads.

A transfer can be cancelled between two reads as well. That comes to the same as during the first of
them, since a read that gives bytes does not ask.
-/

namespace HttpFetch

/-- Whether an error says that the stream was lost: that it ended too early or broke off. -/
def TransferError.isLoss : TransferError → Bool
  | .incompleteResponse | .incompleteBody .. | .streamRead _ => true
  | _ => false

theorem TransferError.isLoss_orCancelled {e : TransferError} {cancelled : Bool}
    (loss : (e.orCancelled cancelled).isLoss = true) : cancelled = false := by
  cases cancelled
  · rfl
  · cases loss

/-- Of `reads`, which could be issued, `used` are, and `left` is the stream after them. A read is
issued only as long as the transfer has not been cancelled. -/
structure Issues (cancelled : Bool) (reads used : List Delivery) (left : Stream) : Prop where
  split : reads = used ++ left.deliveries
  /-- once the transfer has been cancelled, no read is issued -/
  idle : cancelled = true → used = []
  /-- so none follows one during which it is cancelled -/
  quiet : ∀ d ∈ used.dropLast, d.cancels = false
  /-- the transfer has been cancelled if it was before, or during one of the reads -/
  gone : left.cancelled = (cancelled || used.any Delivery.cancels)

/-- Whether reads have found the end of a stream, of which they leave `left`: the last of them has,
or nothing is left, so that the next one does. -/
def Stream.FoundEnd (used : List Delivery) (left : Stream) : Prop :=
  (∃ d, used.getLast? = some d ∧ d.event = .ended) ∨ left.deliveries = []

/-- Reads before those that have found the end make no difference. -/
theorem Stream.FoundEnd.after {used : List Delivery} {left : Stream} (found : FoundEnd used left)
    (before : List Delivery) : FoundEnd (before ++ used) left := by
  refine found.imp_left ?_
  rintro ⟨last, isLast, ended⟩
  exact ⟨last, by rw [List.getLast?_append, isLast, Option.some_or], ended⟩

namespace Issues

variable {cancelled : Bool} {reads used used' : List Delivery} {left mid : Stream}

theorem none (cancelled : Bool) (reads : List Delivery) :
    Issues cancelled reads [] ⟨reads, cancelled⟩ :=
  ⟨rfl, fun _ => rfl, nofun, by simp⟩

/-- A read before others. -/
theorem cons {d : Delivery} (h : Issues d.cancels reads used left) :
    Issues false (d :: reads) (d :: used) left where
  split := by rw [List.cons_append, ← h.split]
  idle := nofun
  quiet := by
    rcases used with _ | ⟨c, used⟩
    · exact nofun
    · intro e mem
      rw [List.dropLast_cons_cons, List.mem_cons] at mem
      rcases mem with rfl | mem
      · rw [← Bool.not_eq_true]
        exact fun cancels => List.cons_ne_nil c used (h.idle cancels)
      · exact h.quiet e mem
  gone := by rw [h.gone, List.any_cons, Bool.false_or]

/-- A single read. -/
theorem one (d : Delivery) (rest : List Delivery) :
    Issues false (d :: rest) [d] ⟨rest, d.cancels⟩ := (Issues.none d.cancels rest).cons

/-- Reads after others. -/
theorem trans (first : Issues cancelled reads used mid)
    (second : Issues mid.cancelled mid.deliveries used' left) :
    Issues cancelled reads (used ++ used') left where
  split := by rw [List.append_assoc, ← second.split, first.split]
  idle gone := by
    have before := first.idle gone
    rw [before, List.nil_append]
    exact second.idle (by rw [first.gone, gone, Bool.true_or])
  quiet := by
    rcases used' with _ | ⟨d, used'⟩
    · rw [List.append_nil]
      exact first.quiet
    have going : mid.cancelled = false := by
      rw [← Bool.not_eq_true]
      exact fun gone => List.cons_ne_nil d used' (second.idle gone)
    rw [first.gone, Bool.or_eq_false_iff, List.any_eq_false] at going
    intro e mem
    rw [List.dropLast_append_cons, List.mem_append] at mem
    rcases mem with mem | mem
    · simpa using going.2 e mem
    · exact second.quiet e mem
  gone := by rw [second.gone, first.gone, List.any_append, Bool.or_assoc]

end Issues

namespace Reader

/-! ## The head -/

/-- What one read comes to in a head, whatever is to come after it. -/
inductive HeadRead (r : Reader) (d : Delivery) : Prop where
  /-- the response goes on -/
  | goesOn (next : Reader) :
    (∀ rest, r.readHeadFrom false (d :: rest) = next.readHeadFrom d.cancels rest) → HeadRead r d
  /-- reading fails, and because of the stream only if the transfer is not cancelled -/
  | fails (e : TransferError) (next : Reader) : (e.isLoss = true → d.cancels = false) →
    (∀ rest, r.readHeadFrom false (d :: rest) = (.error e, next, ⟨rest, d.cancels⟩)) →
    HeadRead r d

theorem headRead {r : Reader} (head : r.phase.isHead = true) (d : Delivery) : HeadRead r d := by
  rcases event : d.event with _ | bytes | _ | fault
  · exact .goesOn r fun rest => by simp [readHeadFrom, head, event]
  · rcases fed : r.feedHead bytes with ⟨e | _, next⟩
    · obtain ⟨fault, rfl⟩ := malformed_of_feedHead fed
      exact .fails (.malformedResponse fault) next (fun loss => by cases loss) fun rest => by
        simp [readHeadFrom, head, event, fed]
    · exact .goesOn next fun rest => by simp [readHeadFrom, head, event, fed]
  · rcases cancels : d.cancels with _ | _
    · exact .fails .incompleteResponse r (fun _ => cancels) fun rest => by
        simp [readHeadFrom, head, event, cancels, finishAtEnd_head head]
    · exact .fails .cancelled r (fun loss => by cases loss) fun rest => by
        simp [readHeadFrom, head, event, cancels]
  · exact .fails ((TransferError.streamRead fault).orCancelled d.cancels) r
      TransferError.isLoss_orCancelled fun rest => by simp [readHeadFrom, head, event]

/-- **Reading a head issues no read once the transfer has been cancelled**, and does not blame the
stream then. A head that is complete needs only the reads that were issued, since what comes of a
read does not depend on the reads after it (`headRead`). -/
theorem readHeadFrom_issues (r : Reader) (cancelled : Bool) (deliveries : List Delivery) :
    ∃ used, Issues cancelled deliveries used (r.readHeadFrom cancelled deliveries).2.2 ∧
      (∀ e, (r.readHeadFrom cancelled deliveries).1 = .error e → e.isLoss = true →
        (r.readHeadFrom cancelled deliveries).2.2.cancelled = false) ∧
      ((r.readHeadFrom cancelled deliveries).1 = .ok () → ∀ later,
        r.readHeadFrom cancelled (used ++ later) =
          (.ok (), (r.readHeadFrom cancelled deliveries).2.1,
            ⟨later, (r.readHeadFrom cancelled deliveries).2.2.cancelled⟩)) := by
  induction deliveries generalizing r cancelled with
  | nil =>
    rw [readHeadFrom]
    refine ⟨[], ?_⟩
    split_ifs with past gone
    · have past : r.phase.isHead = false := by simpa using past
      refine ⟨.none cancelled [], fun _ failed => ?_, fun _ later =>
        readHeadFrom_past past cancelled later⟩
      cases failed
    · refine ⟨.none cancelled [], fun _ failed loss => ?_, fun ok => ?_⟩
      · cases failed
        cases loss
      · cases ok
    · have head : r.phase.isHead = true := by simpa using past
      rw [finishAtEnd_head head]
      refine ⟨.none cancelled [], fun _ _ _ => Bool.eq_false_iff.2 gone, fun ok => ?_⟩
      cases ok
  | cons d rest ih =>
    by_cases past : r.phase.isHead = false
    · rw [readHeadFrom_past past]
      refine ⟨[], .none cancelled _, fun _ failed => ?_, fun _ later =>
        readHeadFrom_past past cancelled later⟩
      cases failed
    have head : r.phase.isHead = true := by simpa using past
    cases cancelled with
    | true =>
      have stops : r.readHeadFrom true (d :: rest) = (.error .cancelled, r, ⟨d :: rest, true⟩) := by
        simp [readHeadFrom, head]
      rw [stops]
      refine ⟨[], .none true _, fun _ failed loss => ?_, fun ok => ?_⟩
      · cases failed
        cases loss
      · cases ok
    | false =>
      cases headRead head d with
      | goesOn next same =>
        obtain ⟨used, issues, loss, alone⟩ := ih next d.cancels
        rw [same]
        exact ⟨d :: used, issues.cons, loss, fun ok later => (same _).trans (alone ok later)⟩
      | fails e next loss same =>
        rw [same]
        refine ⟨[d], .one d rest, fun _ failed => ?_, fun ok => ?_⟩
        · cases failed
          exact loss
        · cases ok

/-! ## The body -/

/-- What one read comes to in a body, whatever is to come after it. -/
inductive BodyStep (r : Reader) (disk : Disk) (d : Delivery) : Prop where
  /-- the response goes on; without a length the body does -/
  | goesOn (next : Reader) (disk' : Disk) : next.contentLength = r.contentLength →
    next.sink.bodySize = r.sink.bodySize → (r.contentLength = none → next.phase = .body) →
    (∀ rest, r.readBodyFrom disk false (d :: rest) = next.readBodyFrom disk' d.cancels rest) →
    BodyStep r disk d
  /-- reading fails, and because of the stream only if the transfer is not cancelled -/
  | fails (e : TransferError) (next : Reader) (disk' : Disk) :
    (e.isLoss = true → d.cancels = false) → next.contentLength = r.contentLength →
    next.sink.bodySize = r.sink.bodySize →
    (∀ rest, r.readBodyFrom disk false (d :: rest) =
      ⟨.error e, next, ⟨rest, d.cancels⟩, disk'⟩) → BodyStep r disk d
  /-- the stream ends and the transfer is not cancelled -/
  | ends : d.event = .ended → d.cancels = false →
    (∀ rest, r.readBodyFrom disk false (d :: rest) = r.endBodyEarly ⟨rest, false⟩ disk) →
    BodyStep r disk d

theorem bodyStep {r : Reader} (body : r.phase = .body) (disk : Disk) (d : Delivery) :
    BodyStep r disk d := by
  rcases event : d.event with _ | bytes | _ | fault
  · exact .goesOn r disk rfl rfl (fun _ => body) fun rest => by simp [readBodyFrom, body, event]
  · have size : (((r.hold bytes).takeBody bytes).flush disk).2.1.sink.bodySize =
        r.sink.bodySize := Sink.bodySize_flush _ disk
    have length : (((r.hold bytes).takeBody bytes).flush disk).2.1.contentLength =
        r.contentLength := rfl
    have phase (unsized : r.contentLength = none) :
        (((r.hold bytes).takeBody bytes).flush disk).2.1.phase = .body := by
      rw [takeBody_unsized (r := r.hold bytes) unsized]
      exact body
    rcases flushed : ((r.hold bytes).takeBody bytes).flush disk with ⟨e | _, next, disk'⟩ <;>
      rw [flushed] at size length phase
    · obtain ⟨path, fault, rfl⟩ := Sink.sinkIo_of_flush (congrArg Prod.fst flushed)
      refine .fails (.sinkIo path fault) next disk' (fun loss => ?_) length size fun rest => by
        simp [readBodyFrom, body, event, flushed]
      cases loss
    · exact .goesOn next disk' length size phase fun rest => by
        simp [readBodyFrom, body, event, flushed]
  · rcases cancels : d.cancels with _ | _
    · exact .ends event cancels fun rest => by simp [readBodyFrom, body, event, cancels]
    · refine .fails .cancelled r disk (fun loss => ?_) rfl rfl fun rest => by
        simp [readBodyFrom, body, event, cancels]
      cases loss
  · exact .fails ((TransferError.streamRead fault).orCancelled d.cancels) r disk
      TransferError.isLoss_orCancelled rfl rfl fun rest => by simp [readBodyFrom, body, event]

/-- How a body is read: `read` says what comes of some deliveries, of which `used` are issued. Those
alone would have come to the same. -/
structure Issued (r : Reader) (cancelled : Bool) (read : List Delivery → BodyRead)
    (deliveries used : List Delivery) : Prop where
  issues : Issues cancelled deliveries used (read deliveries).stream
  /-- the stream is to blame only if the transfer has not been cancelled -/
  loss : ∀ e, (read deliveries).outcome = .error e → e.isLoss = true →
    (read deliveries).stream.cancelled = false
  alone : read used =
    { read deliveries with stream := ⟨[], (read deliveries).stream.cancelled⟩ }
  length : (read deliveries).reader.contentLength = r.contentLength
  /-- a body that is cut short by cancellation gets no length -/
  size : (read deliveries).stream.cancelled = true →
    (read deliveries).reader.sink.bodySize = r.sink.bodySize
  /-- a body of unknown length is complete with the end of the stream, and not with cancellation -/
  ends : (read deliveries).outcome = .ok () → r.phase = .body → r.contentLength = none →
    (read deliveries).stream.cancelled = false ∧ Stream.FoundEnd used (read deliveries).stream

theorem contentLength_endBodyEarly (r : Reader) (s : Stream) (disk : Disk) :
    (r.endBodyEarly s disk).reader.contentLength = r.contentLength := by
  have atEnd : r.finishAtEnd.2.contentLength = r.contentLength := by
    rw [finishAtEnd]
    split <;> rfl
  rw [endBodyEarly]
  rcases ended : r.finishAtEnd with ⟨e | _, next⟩ <;> rw [ended] at atEnd <;> exact atEnd

/-- The end of the stream is noted without another read. -/
theorem endBodyEarly_stream (r : Reader) (s s' : Stream) (disk : Disk) :
    r.endBodyEarly s' disk = { r.endBodyEarly s disk with stream := s' } := by
  rw [endBodyEarly, endBodyEarly]
  rcases r.finishAtEnd with ⟨e | _, next⟩ <;> rfl

theorem stream_endBodyEarly (r : Reader) (s : Stream) (disk : Disk) :
    (r.endBodyEarly s disk).stream = s := congrArg BodyRead.stream (endBodyEarly_stream r s s disk)

section Body

variable {r next : Reader} {disk disk' : Disk} {d : Delivery} {rest used : List Delivery}

/-- A body that is over needs no read. -/
theorem issued_past (past : r.phase ≠ .body) (disk : Disk) (cancelled : Bool)
    (deliveries : List Delivery) :
    Issued r cancelled (r.readBodyFrom disk cancelled) deliveries [] := by
  have isOver (deliveries : List Delivery) :
      r.readBodyFrom disk cancelled deliveries = r.endBody ⟨deliveries, cancelled⟩ disk := by
    cases deliveries <;> simp only [readBodyFrom, if_pos past]
  refine ⟨?_, ?_, ?_, ?_, ?_, fun _ body => absurd body past⟩ <;> rw [isOver]
  · exact .none cancelled deliveries
  · intro e failed loss
    obtain ⟨path, fault, rfl⟩ := Sink.sinkIo_of_flush failed
    cases loss
  · rw [isOver]
    rfl
  · rfl
  · exact fun _ => r.sink.bodySize_flush disk

/-- A transfer that has been cancelled issues no read. -/
theorem issued_gone (body : r.phase = .body) (disk : Disk) (deliveries : List Delivery) :
    Issued r true (r.readBodyFrom disk true) deliveries [] := by
  have stops (deliveries : List Delivery) :
      r.readBodyFrom disk true deliveries = ⟨.error .cancelled, r, ⟨deliveries, true⟩, disk⟩ := by
    cases deliveries <;> simp [readBodyFrom, body]
  refine ⟨?_, ?_, ?_, ?_, ?_, ?_⟩ <;> rw [stops]
  · exact .none true deliveries
  · intro e failed loss
    cases failed
    cases loss
  · rw [stops]
  · exact fun _ => rfl
  · intro ok
    cases ok

/-- The end of the stream, whether a read has found it or nothing is left. -/
theorem issued_end {reads : List Delivery} {left : List Delivery}
    (issues : Issues false reads used ⟨left, false⟩) (found : Stream.FoundEnd used ⟨left, false⟩)
    (ends : r.readBodyFrom disk false reads = r.endBodyEarly ⟨left, false⟩ disk)
    (alone : r.readBodyFrom disk false used = r.endBodyEarly ⟨[], false⟩ disk) :
    Issued r false (r.readBodyFrom disk false) reads used := by
  have stream := r.stream_endBodyEarly ⟨left, false⟩ disk
  refine ⟨?_, ?_, ?_, ?_, ?_, ?_⟩ <;> rw [ends]
  · rwa [stream]
  · rw [stream]
    exact fun _ _ _ => rfl
  · rw [alone, stream]
    exact r.endBodyEarly_stream _ _ disk
  · exact r.contentLength_endBodyEarly _ disk
  · rw [stream]
    exact nofun
  · rw [stream]
    exact fun _ _ _ => ⟨rfl, found⟩

/-- A read after which the response goes on. -/
theorem Issued.cons
    (h : Issued next d.cancels (next.readBodyFrom disk' d.cancels) rest used)
    (length : next.contentLength = r.contentLength)
    (size : next.sink.bodySize = r.sink.bodySize)
    (open' : r.contentLength = none → next.phase = .body)
    (same : ∀ rest, r.readBodyFrom disk false (d :: rest) =
      next.readBodyFrom disk' d.cancels rest) :
    Issued r false (r.readBodyFrom disk false) (d :: rest) (d :: used) := by
  refine ⟨?_, ?_, ?_, ?_, ?_, ?_⟩ <;> rw [same]
  · exact h.issues.cons
  · exact h.loss
  · rw [same]
    exact h.alone
  · exact h.length.trans length
  · exact fun gone => (h.size gone).trans size
  · intro ok _ unsized
    obtain ⟨going, found⟩ := h.ends ok (open' unsized) (length.trans unsized)
    exact ⟨going, found.after [d]⟩

/-- A read that fails. -/
theorem issued_fails {e : TransferError} (loss : e.isLoss = true → d.cancels = false)
    (length : next.contentLength = r.contentLength)
    (size : next.sink.bodySize = r.sink.bodySize)
    (same : ∀ rest, r.readBodyFrom disk false (d :: rest) =
      ⟨.error e, next, ⟨rest, d.cancels⟩, disk'⟩) :
    Issued r false (r.readBodyFrom disk false) (d :: rest) [d] := by
  refine ⟨?_, ?_, ?_, ?_, ?_, ?_⟩ <;> rw [same]
  · exact .one d rest
  · intro e' failed
    cases failed
    exact loss
  · rw [same]
  · exact length
  · exact fun _ => size
  · exact nofun

/-- **Reading a body issues no read once the transfer has been cancelled**, and takes neither a lost
stream nor the end of the body from that. -/
theorem readBodyFrom_issued (r : Reader) (disk : Disk) (cancelled : Bool)
    (deliveries : List Delivery) :
    ∃ used, Issued r cancelled (r.readBodyFrom disk cancelled) deliveries used := by
  induction deliveries generalizing r disk cancelled with
  | nil =>
    by_cases past : r.phase ≠ .body
    · exact ⟨[], issued_past past disk cancelled []⟩
    rw [ne_eq, Decidable.not_not] at past
    cases cancelled with
    | true => exact ⟨[], issued_gone past disk []⟩
    | false =>
      have ends : r.readBodyFrom disk false [] = r.endBodyEarly ⟨[], false⟩ disk := by
        simp [readBodyFrom, past]
      exact ⟨[], issued_end (.none false []) (.inr rfl) ends ends⟩
  | cons d rest ih =>
    by_cases past : r.phase ≠ .body
    · exact ⟨[], issued_past past disk cancelled _⟩
    rw [ne_eq, Decidable.not_not] at past
    cases cancelled with
    | true => exact ⟨[], issued_gone past disk _⟩
    | false =>
      cases bodyStep past disk d with
      | goesOn next disk' length size open' same =>
        obtain ⟨used, issued⟩ := ih next disk' d.cancels
        exact ⟨d :: used, issued.cons length size open' same⟩
      | fails e next disk' loss length size same =>
        exact ⟨[d], issued_fails loss length size same⟩
      | ends event going same =>
        refine ⟨[d], issued_end ?_ (.inl ⟨d, rfl, event⟩) (same rest) (same [])⟩
        have one := Issues.one d rest
        rwa [going] at one

end Body

/-! ## The whole response -/

/-- Taking what came with the head changes nothing about the length of the body, and does not end a
body of unknown length. -/
theorem takeUnread_keeps (r : Reader) (disk : Disk) :
    (r.takeUnread disk).2.1.contentLength = r.contentLength ∧
      (r.takeUnread disk).2.1.sink.bodySize = r.sink.bodySize ∧
      (r.contentLength = none → (r.takeUnread disk).2.1.phase = r.phase) := by
  rw [takeUnread]
  simp only
  split_ifs
  · exact ⟨rfl, rfl, fun _ => rfl⟩
  · refine ⟨rfl, Sink.bodySize_flush _ disk, fun unsized => ?_⟩
    rw [takeBody_unsized (r := { r with mark := r.window.length }) unsized]
    rfl

/-- So it is when some of the body came with the head. Deliveries that reads can give whole are
given as they are. -/
theorem readBody_issued (r : Reader) (disk : Disk) (cancelled : Bool) {deliveries : List Delivery}
    (fits : ∀ d ∈ deliveries, d.Fits r.capacity) :
    ∃ used, Issued r cancelled (fun reads => r.readBody ⟨reads, cancelled⟩ disk) deliveries
      used := by
  obtain ⟨length, size, phase⟩ := r.takeUnread_keeps disk
  have whole {reads : List Delivery} (fits : ∀ d ∈ reads, d.Fits r.capacity) :
      (Stream.mk reads cancelled).inPieces r.capacity = ⟨reads, cancelled⟩ := by
    rw [Stream.inPieces, Delivery.flatMap_pieces fits]
  rcases took : r.takeUnread disk with ⟨e | _, next, disk'⟩ <;>
    simp only [took] at length size phase
  · have stops {reads : List Delivery} (fits : ∀ d ∈ reads, d.Fits r.capacity) :
        r.readBody ⟨reads, cancelled⟩ disk = ⟨.error e, next, ⟨reads, cancelled⟩, disk'⟩ := by
      simp only [readBody, took, whole fits]
    have alone : r.readBody ⟨[], cancelled⟩ disk = ⟨.error e, next, ⟨[], cancelled⟩, disk'⟩ :=
      stops (by simp)
    refine ⟨[], ?_, ?_, ?_, ?_, ?_, ?_⟩ <;> simp only [stops fits]
    · exact .none cancelled deliveries
    · intro e' failed loss
      cases failed
      obtain ⟨path, fault, rfl⟩ := sinkIo_of_takeUnread (congrArg Prod.fst took)
      cases loss
    · exact alone
    · exact length
    · exact fun _ => size
    · intro ok
      cases ok
  · have goesOn {reads : List Delivery} (fits : ∀ d ∈ reads, d.Fits r.capacity) :
        r.readBody ⟨reads, cancelled⟩ disk = next.readBodyFrom disk' cancelled reads := by
      simp only [readBody, took, whole fits]
    obtain ⟨used, issued⟩ := next.readBodyFrom_issued disk' cancelled deliveries
    have fits' : ∀ d ∈ used, d.Fits r.capacity := fun d mem =>
      fits d (issued.issues.split ▸ List.mem_append_left _ mem)
    refine ⟨used, ?_, ?_, ?_, ?_, ?_, ?_⟩ <;> simp only [goesOn fits]
    · exact issued.issues
    · exact issued.loss
    · exact (goesOn fits').trans issued.alone
    · exact issued.length.trans length
    · exact fun gone => (issued.size gone).trans size
    · exact fun ok body unsized =>
        issued.ends ok ((phase unsized).trans body) (length.trans unsized)

/-- A body that has been read is complete in the reads that were issued. -/
theorem Issued.complete {r : Reader} {disk : Disk} {sink : Sink} {cancelled : Bool}
    {deliveries used : List Delivery}
    (issued : Issued r cancelled (fun reads => r.readBody ⟨reads, cancelled⟩ disk) deliveries used)
    (atBody : r.AtBody disk) (same : r.sink.body = sink.reset.body) (positive : 0 < r.capacity)
    (ok : (r.readBody ⟨deliveries, cancelled⟩ disk).outcome = .ok ()) :
    match r.contentLength with
    | some n => n ≤ (r.unread ++ Stream.waitingIn used).length
    | none => (r.readBody ⟨deliveries, cancelled⟩ disk).stream.cancelled = false ∧
        Stream.FoundEnd used (r.readBody ⟨deliveries, cancelled⟩ disk).stream := by
  rcases told : r.contentLength with _ | n
  · have going : r.phase = .body := by
      rw [atBody.phase, told, if_neg (Option.some_ne_none 0).symm]
    exact issued.ends ok going told
  · have alone : (r.readBody ⟨used, cancelled⟩ disk).outcome = .ok () := by
      rw [issued.alone]
      exact ok
    obtain ⟨_, took⟩ := atBody.readBody same positive alone
    have isBody := took.isBody
    rw [told] at isBody
    exact isBody.1

/-- **Cancellation is never taken for the end of a response**, wherever it happens and whatever the
stream delivers. Of the reads that are there, `used` are issued, and none after one during which the
transfer was cancelled. The response is not called incomplete, its body too short or the stream
broken if the transfer has been cancelled by then. Reading succeeds only if the response is complete
in these reads: a body has come as long as the head says, or the head does not say and the stream
has ended while the transfer was not cancelled. A body of unknown length that cancellation cuts
short gets no length. -/
theorem readAll_cancelled (sink : Sink) (size : Nat) (s : Stream) (disk : Disk) :
    let reads := (s.inPieces (start size sink.reset).capacity).deliveries
    let read := (start size sink.reset).readAll s disk
    ∃ used, Issues s.cancelled reads used read.stream ∧
      (∀ e, read.outcome = .error e → e.isLoss = true → read.stream.cancelled = false) ∧
      (read.outcome = .ok () → ∃ follows, afterBlank (Stream.waitingIn used) = some follows ∧
        match read.reader.contentLength with
        | some n => n ≤ follows.length
        | none => read.stream.cancelled = false ∧ Stream.FoundEnd used read.stream) ∧
      (read.stream.cancelled = true → read.reader.contentLength = none →
        read.reader.sink.bodySize = none) := by
  intro reads read
  have positive := capacity_start_pos size sink.reset
  have keeps := sink.keeps_reset disk
  have body := (start size sink.reset).body_readHead s
  have unsized := bodySize_readHead (r := start size sink.reset) rfl s
  obtain ⟨used, issues, loss, alone⟩ :=
    (start size sink.reset).readHeadFrom_issues s.cancelled reads
  have same : (start size sink.reset).readHeadFrom s.cancelled reads =
      (start size sink.reset).readHead s := rfl
  have whole : read = afterHead disk ((start size sink.reset).readHead s) := rfl
  rw [same] at issues loss alone
  rcases head : (start size sink.reset).readHead s with ⟨e | _, next, mid⟩ <;>
    rw [head] at whole issues loss alone unsized body
  · rw [whole]
    exact ⟨used, issues, loss, nofun, fun _ none => unsized none⟩
  · obtain ⟨atBody, capacity, -, -⟩ := (inHead_start size keeps).readHeadFrom (alone rfl [])
    have fits : ∀ d ∈ mid.deliveries, d.Fits next.capacity := by
      intro d mem
      rw [capacity]
      exact Delivery.fits_of_mem_flatMap positive d
        (issues.split ▸ List.mem_append_right used mem)
    obtain ⟨used', issued⟩ := next.readBody_issued disk mid.cancelled fits
    have whole : read = next.readBody ⟨mid.deliveries, mid.cancelled⟩ disk := whole
    have length : read.reader.contentLength = next.contentLength := whole ▸ issued.length
    refine ⟨used ++ used', issues.trans (whole ▸ issued.issues), whole ▸ issued.loss,
      fun ok => ?_, fun gone none => ?_⟩
    · have follows := ((inHead_start size keeps).readHeadFrom (alone rfl used')).2.2.1
      have complete := issued.complete atBody body (capacity ▸ positive) (whole ▸ ok)
      refine ⟨_, follows, ?_⟩
      rw [length, whole]
      rcases told : next.contentLength with _ | n <;> rw [told] at complete
      · exact ⟨complete.1, complete.2.after used⟩
      · exact complete
    · have kept := issued.size (whole ▸ gone)
      rw [whole]
      exact kept.trans (unsized (length.symm.trans none))

/-- A body of unknown length, during which the transfer is cancelled: the connection reads as
closed, and what would come after that is not read. -/
theorem readAll_cancelled_body :
    let s : Stream := ⟨[⟨false, .ok (Utf8.encode "V 200 O\n\nab")⟩, ⟨true, .ok []⟩,
      ⟨false, .ok [99]⟩], false⟩
    let read := (start 2048 (.inMemory "http://[::1]/")).readAll s {}
    read.outcome = .error .cancelled ∧ read.reader.sink.buffered = [97, 98] ∧
      read.stream.deliveries.length = 1 ∧ read.reader.sink.bodySize = none := by
  intro s read
  obtain ⟨-, -, -, -, size⟩ := readAll_cancelled (.inMemory "http://[::1]/") 2048 s {}
  exact ⟨by decide +kernel, by decide +kernel, by decide +kernel,
    size (by decide +kernel) (by decide +kernel)⟩

end Reader
end HttpFetch
