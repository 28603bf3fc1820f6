import HttpFetch.Proofs.Chunking
/-!
# The bytes that arrive

Reading a head ends with the head, or when the transfer is cancelled, or with the stream. In each
case the reader has come as far as the bytes lead that have arrived by then
(`Reader.readHeadFrom_arriving`). If the head is complete, that is as far as all the bytes lead that
the peer sends (`Reader.readHead_waiting`).
-/

namespace HttpFetch

namespace Stream

/-- The bytes that reads give until the transfer is cancelled, or the stream ends or breaks. -/
def arrivingIn (cancelled : Bool) : List Delivery → Bytes
  | [] => []
  | d :: rest =>
    if cancelled then []
    else match d.event with
      | .again => arrivingIn d.cancels rest
      | .bytes bytes => bytes ++ arrivingIn d.cancels rest
      | _ => []

/-- The bytes that reads of at most `size` bytes give. -/
def arriving (s : Stream) (size : Nat) : Bytes :=
  arrivingIn (s.inPieces size).cancelled (s.inPieces size).deliveries

/-- What arrives is what comes first of what the peer sends. -/
theorem arrivingIn_prefix (cancelled : Bool) (deliveries : List Delivery) :
    arrivingIn cancelled deliveries <+: waitingIn deliveries := by
  induction deliveries generalizing cancelled with
  | nil => exact List.prefix_rfl
  | cons d rest ih =>
    rw [arrivingIn, waitingIn]
    split_ifs
    · exact List.nil_prefix
    · cases d.event with
      | again => exact ih d.cancels
      | bytes bytes => exact (List.prefix_append_right_inj bytes).2 (ih d.cancels)
      | ended => exact List.prefix_rfl
      | broken fault => exact List.prefix_rfl

/-- Reads of limited size give the same bytes. -/
theorem waitingIn_inPieces {size : Nat} (positive : 0 < size) (deliveries : List Delivery) :
    waitingIn (deliveries.flatMap (Delivery.pieces size)) = waitingIn deliveries := by
  refine Delivery.pieces_invariant positive (fun d rest rest' same => ?_)
    (fun cancels piece more rest filled full => ?_) deliveries
  · simp only [waitingIn, same]
  · simp [waitingIn, Delivery.event, filled, full]

end Stream

namespace Reader

/-- The reader once it has taken bytes, or as many of them as it would take at once. -/
def after (r : Reader) (bytes : Bytes) : Reader := (r.feed bytes).2

@[simp] theorem after_nil (r : Reader) : r.after [] = r := rfl

theorem after_feedFrom (r : Reader) (taken : Nat) (bytes : Bytes) :
    (r.feedFrom taken bytes).2 = r.after bytes := by
  have later := feedFrom_later r taken 0 bytes
  rw [Nat.add_zero] at later
  rw [later]
  rfl

/-- As long as the head goes on, bytes are taken one by one. -/
theorem after_step {r next : Reader} (head : r.phase.isHead = true) {b : UInt8}
    (step : r.step b = (.ok false, next)) (rest : Bytes) :
    r.after (b :: rest) = next.after rest := by
  rw [after, feed, feedFrom_head head, step]
  exact after_feedFrom next 1 rest

/-- Where the head ends or is refused, no more bytes are taken. -/
theorem after_stop {r next : Reader} (head : r.phase.isHead = true) {b : UInt8}
    {outcome : Except TransferError Bool} (step : r.step b = (outcome, next))
    (stop : outcome ≠ .ok false) (rest : Bytes) : r.after (b :: rest) = next := by
  rw [after, feed, feedFrom_head head, step]
  rcases outcome with e | ended
  · rfl
  · cases ended
    · exact absurd rfl stop
    · rfl

theorem after_withWindow (r : Reader) (capacity : Nat) (window : Bytes) (mark : Nat)
    (bytes : Bytes) :
    (r.withWindow capacity window mark).after bytes =
      (r.after bytes).withWindow capacity window mark := by
  rw [after, feed_withWindow]
  rfl

/-- The bytes of one read fail, leave the head open or reach its end. -/
theorem readHeadFrom_cases {r : Reader} (head : r.phase.isHead = true) {d : Delivery}
    {bytes : Bytes} (event : d.event = .bytes bytes) (rest : List Delivery) :
    (∃ e next, r.feed bytes = (.error e, next) ∧ r.readHeadFrom false (d :: rest) =
      (.error e, next.withWindow r.capacity bytes bytes.length, ⟨rest, d.cancels⟩)) ∨
    (∃ next, r.feed bytes = (.ok .needMore, next) ∧ r.readHeadFrom false (d :: rest) =
      (next.withWindow r.capacity bytes bytes.length).readHeadFrom d.cancels rest) ∨
    ∃ feed next k, r.feed bytes = (.ok feed, next) ∧ feed ≠ .needMore ∧
      next.phase.isHead = false ∧ r.readHeadFrom false (d :: rest) =
        (.ok (), next.withWindow r.capacity bytes k, ⟨rest, d.cancels⟩) := by
  rw [readHeadFrom_bytes head event]
  rcases fed : r.feed bytes with ⟨e | _ | k | k, next⟩
  · exact .inl ⟨e, next, rfl, rfl⟩
  · exact .inr (.inl ⟨next, rfl, rfl⟩)
  · have past := (feedFrom_headEnded fed).1
    exact .inr (.inr ⟨_, next, k, rfl, by simp, past,
      readHeadFrom_past (r := next.withWindow r.capacity bytes k) past _ _⟩)
  · have past : next.phase.isHead = false := by rw [feedFrom_ended fed]; rfl
    exact .inr (.inr ⟨_, next, k, rfl, by simp, past,
      readHeadFrom_past (r := next.withWindow r.capacity bytes k) past _ _⟩)

/-- **A head is read from the bytes that arrive**, and its end is found among them. -/
theorem readHeadFrom_arriving {r : Reader} (head : r.phase.isHead = true) (cancelled : Bool)
    (deliveries : List Delivery) :
    (r.readHeadFrom cancelled deliveries).2.1.bare =
      (r.after (Stream.arrivingIn cancelled deliveries)).bare ∧
    ((r.readHeadFrom cancelled deliveries).1 = .ok () →
      ∃ feed, feed ≠ .needMore ∧
        (r.feed (Stream.arrivingIn cancelled deliveries)).1 = .ok feed) := by
  induction deliveries generalizing r cancelled with
  | nil =>
    rw [readHeadFrom, Stream.arrivingIn, after_nil, head]
    cases cancelled <;> simp [finishAtEnd_head head]
  | cons d rest ih =>
    rw [Stream.arrivingIn]
    cases cancelled with
    | true => simp [readHeadFrom, head]
    | false =>
      simp only [Bool.false_eq_true, if_false]
      rcases event : d.event with _ | bytes | _ | fault
      · have again : r.readHeadFrom false (d :: rest) = r.readHeadFrom d.cancels rest := by
          simp [readHeadFrom, head, event]
        rw [again]
        exact ih head d.cancels
      · simp only [after, feed_append]
        rcases readHeadFrom_cases head event rest with
          ⟨e, next, fed, read⟩ | ⟨next, fed, read⟩ | ⟨feed, next, k, fed, final, past, read⟩
        · simp only [read, fed]
          exact ⟨rfl, by simp⟩
        · have head' : next.phase.isHead = true := feedFrom_needMore head fed
          obtain ⟨same, ended⟩ :=
            ih (r := next.withWindow r.capacity bytes bytes.length) head' d.cancels
          rw [after_withWindow] at same
          rw [feed_withWindow] at ended
          simp only [read, fed]
          refine ⟨same, fun ok => ?_⟩
          obtain ⟨feed, final, fed'⟩ := ended ok
          rw [fed']
          refine ⟨feed.later bytes.length, fun open' => final ?_, rfl⟩
          cases feed <;> simp [Feed.later] at open' ⊢
        · simp only [read, fed]
          cases feed with
          | needMore => exact absurd rfl final
          | headEnded k => exact ⟨rfl, fun _ => ⟨_, final, rfl⟩⟩
          | done k => exact ⟨rfl, fun _ => ⟨_, final, rfl⟩⟩
      · simp only [readHeadFrom, head, event, after_nil]
        cases d.cancels <;> simp [finishAtEnd_head head]
      · simp [readHeadFrom, head, event]

/-- A portion that ends the head ends it whatever follows. -/
theorem feed_append_of_ended {r : Reader} {bytes : Bytes} {feed : Feed}
    (ended : (r.feed bytes).1 = .ok feed) (final : feed ≠ .needMore) (more : Bytes) :
    r.feed (bytes ++ more) = r.feed bytes := by
  rw [feed_append]
  rcases h : r.feed bytes with ⟨e | _ | k | k, next⟩
  · rfl
  · rw [h] at ended
    cases ended
    exact absurd rfl final
  · rfl
  · rfl

/-- **A head that is complete is read from the bytes that the peer sends**, however they come. -/
theorem readHead_waiting {r reader : Reader} {s later : Stream} (head : r.phase.isHead = true)
    (positive : 0 < r.capacity) (read : r.readHead s = (.ok (), reader, later)) :
    reader.bare = (r.after s.waiting).bare := by
  obtain ⟨same, ended⟩ := readHeadFrom_arriving head s.cancelled
    (s.deliveries.flatMap (Delivery.pieces r.capacity))
  have read' : r.readHeadFrom s.cancelled (s.deliveries.flatMap (Delivery.pieces r.capacity)) =
      (.ok (), reader, later) := read
  rw [read'] at same ended
  obtain ⟨feed, final, fed⟩ := ended rfl
  obtain ⟨more, parts⟩ := Stream.arrivingIn_prefix s.cancelled
    (s.deliveries.flatMap (Delivery.pieces r.capacity))
  have whole := feed_append_of_ended fed final more
  rw [parts, Stream.waitingIn_inPieces positive] at whole
  rw [Stream.waiting, Reader.after, whole]
  exact same

/-- Whatever comes of reading a head, the reader has come as far as what arrived leads. -/
theorem readHead_arriving {r : Reader} (head : r.phase.isHead = true) (s : Stream) :
    (r.readHead s).2.1.bare = (r.after (s.arriving r.capacity)).bare :=
  (readHeadFrom_arriving head s.cancelled (s.deliveries.flatMap (Delivery.pieces r.capacity))).1

/-! ## Bytes that are kept -/

/-- The reader with more bytes in the part under way; carriage returns are left out. -/
def keepAll (r : Reader) (bytes : Bytes) : Reader :=
  { r with token := r.token ++ (bytes.filter (· ≠ 13)).toArray }

/-- Whether a part of the head keeps a byte, or skips it because it is a carriage return. -/
def Keeps (phase : Phase) (b : UInt8) : Prop :=
  ∀ r : Reader, r.phase = phase → r.step b = (.ok false, if b = 13 then r else r.keep b)

theorem keeps_version {b : UInt8} (space : b ≠ 32) (cr : b ≠ 13) (lf : b ≠ 10) :
    Keeps .version b := by
  intro r phase
  simp [step, phase, space, cr, lf]

theorem keeps_status {b : UInt8} (space : b ≠ 32) (lf : b ≠ 10) : Keeps .status b := by
  intro r phase
  simp only [step, phase, if_neg space, if_neg lf]
  split_ifs <;> rfl

theorem keeps_description {b : UInt8} (lf : b ≠ 10) : Keeps .description b := by
  intro r phase
  simp only [step, phase, if_neg lf]
  split_ifs <;> rfl

theorem keeps_name {b : UInt8} (colon : b ≠ 58) (lf : b ≠ 10) : Keeps .name b := by
  intro r phase
  simp only [step, phase, if_neg lf, if_neg colon]
  split_ifs <;> rfl

/-- Bytes that are kept are kept one by one. -/
theorem after_keeps {r : Reader} (head : r.phase.isHead = true) {bytes : Bytes}
    (keeps : ∀ b ∈ bytes, Keeps r.phase b) (rest : Bytes) :
    r.after (bytes ++ rest) = (r.keepAll bytes).after rest := by
  induction bytes generalizing r with
  | nil => simp [keepAll]
  | cons b bytes ih =>
    have later := fun c mem => keeps c (List.mem_cons_of_mem _ mem)
    rw [List.cons_append, after_step head (keeps b List.mem_cons_self r rfl)]
    by_cases skip : b = 13
    · rw [if_pos skip, ih head later]
      simp [keepAll, skip]
    · rw [if_neg skip, ih (r := r.keep b) head later]
      have whole : r.token ++ (b :: bytes.filter (· ≠ 13)).toArray =
          r.token.push b ++ (bytes.filter (· ≠ 13)).toArray := Array.ext' (by simp)
      have kept : (b :: bytes).filter (· ≠ 13) = b :: bytes.filter (· ≠ 13) :=
        List.filter_cons_of_pos (by simpa using skip)
      rw [keepAll, keepAll, kept, whole]
      rfl

end Reader

/-! ## What a body leaves as it is -/

namespace Sink

/-- What a sink shows of the head of a response, and its address. -/
def heading (sink : Sink) : Sink :=
  { sink with bodySize := none, progress := 0, body := .memory #[], completed := false }

/-- Storing a body leaves address and head as they are. -/
theorem heading_flush (sink : Sink) (disk : Disk) :
    (sink.flush disk).2.1.heading = sink.heading := by
  rw [flush]
  split <;> rfl

theorem heading_complete (sink : Sink) (disk : Disk) :
    (sink.complete disk).2.1.heading = sink.heading := by
  rw [complete]
  split_ifs
  · rfl
  · split <;> rfl

end Sink

namespace Reader

/-- A property of readers that nothing changes which is done for a body. -/
structure KeptByBody (P : Reader → Prop) : Prop where
  held : ∀ r capacity window mark, P r → P (r.withWindow capacity window mark)
  taken : ∀ r bytes, r.phase = .body → P r → P (r.takeBody bytes)
  flushed : ∀ r disk, P r → P (r.flush disk).2.1
  ended : ∀ r, P r → P r.finishAtEnd.2

namespace KeptByBody

variable {P : Reader → Prop} {r : Reader}

theorem endBodyEarly (kept : KeptByBody P) (h : P r) (s : Stream) (disk : Disk) :
    P (r.endBodyEarly s disk).reader := by
  have atEnd := kept.ended r h
  rw [Reader.endBodyEarly]
  rcases ended : r.finishAtEnd with ⟨e | _, next⟩ <;> rw [ended] at atEnd
  · exact atEnd
  · exact kept.flushed next disk atEnd

theorem readBodyFrom (kept : KeptByBody P) (h : P r) (disk : Disk) (cancelled : Bool)
    (deliveries : List Delivery) : P (r.readBodyFrom disk cancelled deliveries).reader := by
  induction deliveries generalizing r disk cancelled with
  | nil =>
    rw [Reader.readBodyFrom]
    split_ifs
    · exact kept.flushed r disk h
    · exact h
    · exact kept.endBodyEarly h _ disk
  | cons d rest ih =>
    rw [Reader.readBodyFrom]
    by_cases past : r.phase ≠ .body
    · rw [if_pos past]
      exact kept.flushed r disk h
    by_cases gone : cancelled = true
    · rw [if_neg past, if_pos gone]
      exact h
    have body : r.phase = .body := Decidable.not_not.1 past
    simp only [if_neg past, if_neg gone]
    cases d.event with
    | again => exact ih h disk d.cancels
    | ended =>
      simp only
      split_ifs
      · exact h
      · exact kept.endBodyEarly h _ disk
    | broken fault => exact h
    | bytes bytes =>
      have held : P (r.hold bytes) := kept.held r r.capacity bytes bytes.length h
      have after := kept.flushed _ disk (kept.taken (r.hold bytes) bytes body held)
      simp only
      rcases flushed : ((r.hold bytes).takeBody bytes).flush disk with ⟨e | _, next, disk⟩ <;>
        rw [flushed] at after
      · exact after
      · exact ih after disk d.cancels

/-- Reading a body keeps it, also where storing the body fails. -/
theorem readBody (kept : KeptByBody P) (h : P r) (s : Stream) (disk : Disk) :
    P (r.readBody s disk).reader := by
  have marked := kept.held r r.capacity r.window r.window.length h
  have after : P (r.takeUnread disk).2.1 := by
    rw [takeUnread]
    simp only
    split_ifs with nothing
    · exact marked
    · have body : r.phase = .body := Decidable.not_not.1 (not_or.1 nothing).2
      exact kept.flushed _ disk (kept.taken _ r.unread body marked)
  rw [Reader.readBody]
  rcases took : r.takeUnread disk with ⟨e | _, next, disk⟩ <;> rw [took] at after
  · exact after
  · exact kept.readBodyFrom after disk _ _

end KeptByBody

/-- Reading a body leaves address and head as they are. -/
theorem heading_readBody (r : Reader) (s : Stream) (disk : Disk) :
    (r.readBody s disk).reader.sink.heading = r.sink.heading := by
  have kept : KeptByBody fun next => next.sink.heading = r.sink.heading := by
    refine ⟨fun _ _ _ _ h => h, fun _ _ _ h => h, fun next disk h => ?_, fun next h => ?_⟩
    · exact (next.sink.heading_flush disk).trans h
    · rw [finishAtEnd]
      split <;> exact h
  exact kept.readBody rfl s disk

/-! ## Addresses stay -/

theorem Takes.url {r next : Reader} {b : UInt8} {outcome : Except TransferError Bool}
    (h : Takes r b outcome next) : next.sink.url = r.sink.url := by
  cases h with
  | headEnded => rcases h : r.contentLength with _ | n <;> simp [finishHead, h]
  | _ => rfl

/-- The address of a sink is not part of a response. -/
theorem url_after (r : Reader) (bytes : Bytes) : (r.after bytes).sink.url = r.sink.url := by
  induction bytes generalizing r with
  | nil => rfl
  | cons b rest ih =>
    rcases r.phase.isHead_or with head | body | done
    · have takes := takes_step head b
      rcases step : r.step b with ⟨outcome, next⟩
      rw [step] at takes
      by_cases goesOn : outcome = .ok false
      · rw [goesOn] at step
        rw [after_step head step, ih, takes.url]
      · rw [after_stop head step goesOn, takes.url]
    · rw [after, feed, feedFrom_body body]
      rfl
    · rw [after, feed, feedFrom_done done]

theorem url_readHead {r : Reader} (head : r.phase.isHead = true) (s : Stream) :
    (r.readHead s).2.1.sink.url = r.sink.url := by
  have same := congrArg (·.sink.url) (readHead_arriving head s)
  exact same.trans (r.url_after _)

/-! ## Bodies of unknown length -/

/-- Only the end of the head sets the length of the body. -/
theorem Takes.bodySize {r next : Reader} {b : UInt8} {outcome : Except TransferError Bool}
    (h : Takes r b outcome next) (unsized : outcome = .ok true → r.contentLength = none) :
    next.sink.bodySize = r.sink.bodySize := by
  cases h with
  | headEnded => rw [finishHead, unsized rfl]
  | _ => rfl

/-- A head that does not tell the length of the body leaves it as it is. -/
theorem bodySize_after {r : Reader} (head : r.phase.isHead = true) {bytes : Bytes}
    (unsized : (r.after bytes).contentLength = none) :
    (r.after bytes).sink.bodySize = r.sink.bodySize := by
  induction bytes generalizing r with
  | nil => rfl
  | cons b rest ih =>
    have takes := takes_step head b
    rcases step : r.step b with ⟨outcome, next⟩
    rw [step] at takes
    by_cases goesOn : outcome = .ok false
    · rw [goesOn] at step takes
      rw [after_step head step] at unsized ⊢
      exact (ih (takes.isHead head) unsized).trans (takes.bodySize nofun)
    · rw [after_stop head step goesOn] at unsized ⊢
      refine takes.bodySize fun ended => ?_
      rw [ended] at takes
      cases takes with
      | headEnded =>
        rcases length : r.contentLength with _ | n
        · rfl
        · simp [length] at unsized

theorem bodySize_readHead {r : Reader} (head : r.phase.isHead = true) (s : Stream)
    (unsized : (r.readHead s).2.1.contentLength = none) :
    (r.readHead s).2.1.sink.bodySize = r.sink.bodySize := by
  have same := readHead_arriving head s
  have length := congrArg Reader.contentLength same
  have size := congrArg (·.sink.bodySize) same
  exact size.trans (bodySize_after head (length.symm.trans unsized))

end Reader
end HttpFetch
