import HttpFetch.Proofs.Counts
import HttpFetch.Proofs.Turns
/-!
# The buffer of a reader

A `Reader` holds the bytes of its last read and knows how many of them it has looked at. In memory
there is one buffer, which is as long as a read may be and stays when the bytes in it have been
taken, and there is the range of it that is still to be looked at. `BufferedReader` is a reader that
has no more than these. It takes its bytes out of the buffer, turn by turn, and a range that is not
within the buffer is a fault.

Such a reader answers as a `Reader` does (`BufferedReader.Holds`): a read that fits overwrites the
front of the buffer (`BufferedReader.Holds.store`), the end of the head is found within what was read
(`BufferedReader.Holds.readHeadFrom`), and what is left of that is taken once
(`BufferedReader.Holds.takePending`). So there is no fault, whatever it is asked and however that ends
(`BufferedReader.performAll_inBounds`).
-/

namespace HttpFetch

namespace Reader

/-- The end of the stream means the same whatever the reader holds. -/
theorem endBodyEarly_withWindow (r : Reader) (capacity : Nat) (window : Bytes) (mark : Nat)
    (s : Stream) (disk : Disk) :
    (r.withWindow capacity window mark).endBodyEarly s disk =
      { r.endBodyEarly s disk with
        reader := (r.endBodyEarly s disk).reader.withWindow capacity window mark } := by
  rw [endBodyEarly, endBodyEarly, finishAtEnd_withWindow]
  rcases r.finishAtEnd with ⟨e | _, next⟩ <;> rfl

end Reader

/-- A reader and the memory that its reads go to. -/
structure BufferedReader where
  /-- how far the response has come; it has no bytes in its hands -/
  reader : Reader
  buffer : Bytes
  /-- where in the buffer those bytes stand that came with the head and belong to the body -/
  pending : Span := {}

namespace BufferedReader

/-- A reader at the start of a response; its buffer has room for one byte at least. -/
def start (size : Nat) (sink : Sink) : BufferedReader :=
  { reader := (Reader.start size sink).bare, buffer := List.replicate (max size 1) 0 }

/-- A read puts its bytes at the front of the buffer, which has to have room for them. -/
def store? (m : BufferedReader) (bytes : Bytes) : Option BufferedReader :=
  if bytes.length ≤ m.buffer.length then
    some { m with buffer := bytes ++ m.buffer.drop bytes.length }
  else none

/-- Feeds the reader a range of the buffer. The buffer is taken away for that and put back. -/
def feedSpan? (m : BufferedReader) (span : Span) :
    Option (Except TransferError Feed × BufferedReader) :=
  let lent := { m with buffer := [] }
  (span.of? m.buffer).bind fun bytes =>
    (lent.reader.feedByTurns? bytes).map fun (fed, reader) =>
      (fed, { lent with reader, buffer := m.buffer })

/-! ## The head -/

/-- Takes note of the end of the stream. -/
def finishAtEnd (m : BufferedReader) : Except TransferError Unit × BufferedReader :=
  (m.reader.finishAtEnd.1, { m with reader := m.reader.finishAtEnd.2 })

/-- Reads to the end of the head, from deliveries none of which is larger than a read. -/
def readHeadFrom? (m : BufferedReader) (cancelled : Bool) :
    List Delivery → Option (Except TransferError Unit × BufferedReader × Stream)
  | [] =>
    if !m.reader.phase.isHead then some (.ok (), m, ⟨[], cancelled⟩)
    else if cancelled then some (.error .cancelled, m, ⟨[], cancelled⟩)
    else some (m.finishAtEnd.1, m.finishAtEnd.2, ⟨[], cancelled⟩)
  | d :: rest =>
    if !m.reader.phase.isHead then some (.ok (), m, ⟨d :: rest, cancelled⟩)
    else if cancelled then some (.error .cancelled, m, ⟨d :: rest, cancelled⟩)
    else match d.event with
      | .again => m.readHeadFrom? d.cancels rest
      | .ended =>
        if d.cancels then some (.error .cancelled, m, ⟨rest, true⟩)
        else some (m.finishAtEnd.1, m.finishAtEnd.2, ⟨rest, false⟩)
      | .broken fault =>
        some (.error ((TransferError.streamRead fault).orCancelled d.cancels), m, ⟨rest, d.cancels⟩)
      | .bytes bytes =>
        ((m.store? bytes).bind (·.feedSpan? ⟨0, bytes.length⟩)).bind fun (fed, next) =>
          match fed with
          | .error e => some (.error e, next, ⟨rest, d.cancels⟩)
          | .ok .needMore => next.readHeadFrom? d.cancels rest
          | .ok (.headEnded taken) =>
            { next with pending := ⟨taken, bytes.length⟩ }.readHeadFrom? d.cancels rest
          | .ok (.done taken) =>
            { next with pending := ⟨taken, bytes.length⟩ }.readHeadFrom? d.cancels rest

/-- Reads to the end of the head. -/
def readHead? (m : BufferedReader) (s : Stream) :
    Option (Except TransferError Unit × BufferedReader × Stream) :=
  let s := s.inPieces m.buffer.length
  m.readHeadFrom? s.cancelled s.deliveries

/-! ## The body -/

/-- What reading a body leaves behind. -/
structure BodyRead where
  outcome : Except TransferError Unit
  reader : BufferedReader
  stream : Stream
  disk : Disk

/-- The end of reading a body. -/
def endBody (m : BufferedReader) (s : Stream) (disk : Disk) : BodyRead :=
  let read := m.reader.endBody s disk
  ⟨read.outcome, { m with reader := read.reader }, read.stream, read.disk⟩

/-- Takes note of the end of the stream while a body is read. -/
def endBodyEarly (m : BufferedReader) (s : Stream) (disk : Disk) : BodyRead :=
  let read := m.reader.endBodyEarly s disk
  ⟨read.outcome, { m with reader := read.reader }, read.stream, read.disk⟩

/-- Feeds the reader a range of the buffer and flushes what came. -/
def feedAndFlush? (m : BufferedReader) (span : Span) (disk : Disk) :
    Option (Except TransferError Unit × BufferedReader × Disk) :=
  (m.feedSpan? span).map fun (fed, next) =>
    match fed with
    | .error e => (.error e, next, disk)
    | .ok _ =>
      let (outcome, reader, disk) := next.reader.flush disk
      (outcome, { next with reader }, disk)

/-- Reads to the end of the body, from deliveries none of which is larger than a read. -/
def readBodyFrom? (m : BufferedReader) (disk : Disk) (cancelled : Bool) :
    List Delivery → Option BodyRead
  | [] =>
    if m.reader.phase ≠ .body then some (m.endBody ⟨[], cancelled⟩ disk)
    else if cancelled then some ⟨.error .cancelled, m, ⟨[], cancelled⟩, disk⟩
    else some (m.endBodyEarly ⟨[], cancelled⟩ disk)
  | d :: rest =>
    if m.reader.phase ≠ .body then some (m.endBody ⟨d :: rest, cancelled⟩ disk)
    else if cancelled then some ⟨.error .cancelled, m, ⟨d :: rest, cancelled⟩, disk⟩
    else match d.event with
      | .again => m.readBodyFrom? disk d.cancels rest
      | .ended =>
        if d.cancels then some ⟨.error .cancelled, m, ⟨rest, true⟩, disk⟩
        else some (m.endBodyEarly ⟨rest, false⟩ disk)
      | .broken fault =>
        some ⟨.error ((TransferError.streamRead fault).orCancelled d.cancels), m,
          ⟨rest, d.cancels⟩, disk⟩
      | .bytes bytes =>
        ((m.store? bytes).bind (·.feedAndFlush? ⟨0, bytes.length⟩ disk)).bind
          fun (outcome, next, disk) =>
            match outcome with
            | .error e => some ⟨.error e, next, ⟨rest, d.cancels⟩, disk⟩
            | .ok () => next.readBodyFrom? disk d.cancels rest

/-- Takes the bytes of the body that came with the head. -/
def takePending? (m : BufferedReader) (disk : Disk) :
    Option (Except TransferError Unit × BufferedReader × Disk) :=
  let taken := { m with pending := {} }
  if m.pending.start < m.pending.stop ∧ m.reader.phase = .body then
    taken.feedAndFlush? m.pending disk
  else some (.ok (), taken, disk)

/-- Reads to the end of the body. -/
def readBody? (m : BufferedReader) (s : Stream) (disk : Disk) : Option BodyRead :=
  let s := s.inPieces m.buffer.length
  (m.takePending? disk).bind fun (outcome, next, disk) =>
    match outcome with
    | .error e => some ⟨.error e, next, s, disk⟩
    | .ok () => next.readBodyFrom? disk s.cancelled s.deliveries

/-! ## Calls -/

/-- The reader after a call, whether or not that has failed. -/
def perform? (m : BufferedReader) : Reader.Call → Option BufferedReader
  | .feed bytes =>
    (m.reader.feedByTurns? bytes).map fun (_, reader) => { m with reader }
  | .readHead s => (m.readHead? s).map (·.2.1)
  | .readBody s disk => (m.readBody? s disk).map (·.reader)

/-- The reader after some calls. -/
def performAll? (m : BufferedReader) : List Reader.Call → Option BufferedReader
  | [] => some m
  | call :: calls => (m.perform? call).bind (·.performAll? calls)

/-! ## The bytes in the buffer -/

/-- **The buffer has what a reader holds**: it is as long as a read may be and starts with the bytes of
the last one, and the range marks those that are unread. -/
structure Holds (m : BufferedReader) (size : Nat) (r : Reader) : Prop where
  reader : m.reader = r.bare
  room : m.buffer.length = size
  capacity : r.capacity = size
  window : r.window <+: m.buffer
  /-- nothing is unread, or the head has ended somewhere in the bytes of the last read -/
  pending : m.pending = {} ∧ r.mark = r.window.length ∨
    r.phase.isHead = false ∧ r.mark ≤ r.window.length ∧ m.pending = ⟨r.mark, r.window.length⟩

variable {m : BufferedReader} {size : Nat} {r next : Reader} {bytes : Bytes} {span : Span}

theorem holds_start (size : Nat) (sink : Sink) :
    (start size sink).Holds (max size 1) (.start size sink) :=
  ⟨rfl, List.length_replicate, rfl, List.nil_prefix, .inl ⟨rfl, rfl⟩⟩

theorem Holds.phase (h : m.Holds size r) : m.reader.phase = r.phase := by
  rw [h.reader]
  rfl

/-- In the head nothing is left of a read. -/
theorem Holds.pending_head (h : m.Holds size r) (head : r.phase.isHead = true) :
    m.pending = {} ∧ r.mark = r.window.length := by
  rcases h.pending with none | ⟨past, -⟩
  · exact none
  · rw [head] at past
    cases past

/-- The range lies within the bytes of the last read, and what stands there is unread. -/
theorem Holds.unread (h : m.Holds size r) :
    m.pending.start ≤ m.pending.stop ∧ m.pending.stop ≤ r.window.length ∧
      m.pending.of? m.buffer = some r.unread := by
  obtain ⟨after, whole⟩ := h.window
  rcases h.pending with ⟨none, all⟩ | ⟨-, within, some⟩
  · rw [none, Reader.unread, all, List.drop_length]
    exact ⟨Nat.le_refl 0, Nat.zero_le _, Span.of?_upTo (Nat.zero_le _)⟩
  · have inside : r.window.length ≤ m.buffer.length := h.window.length_le
    have front : m.buffer.take r.window.length = r.window := by
      rw [← whole, List.take_left]
    rw [some]
    refine ⟨within, Nat.le_refl _, ?_⟩
    rw [Span.of?, if_pos ⟨within, inside⟩, front, Reader.unread]

/-- A reader that is fed a range of its buffer gets the bytes that stand there, and the buffer is
back afterwards. -/
theorem feedSpan?_eq (found : span.of? m.buffer = some bytes) :
    m.feedSpan? span =
      some ((m.reader.feed bytes).1, { m with reader := (m.reader.feed bytes).2 }) := by
  rw [feedSpan?, found, Option.bind_some, Reader.feedByTurns?_eq]
  rfl

/-- **A read that fits** leaves the length of the buffer as it is, and can be looked up there. -/
theorem Holds.store (h : m.Holds size r) (none : m.pending = {}) (fits : bytes.length ≤ size) :
    ∃ stored, m.store? bytes = some stored ∧ stored.Holds size (r.hold bytes) ∧ stored.pending = {} ∧
      stored.reader = m.reader ∧ (Span.mk 0 bytes.length).of? stored.buffer = some bytes := by
  have room : bytes.length ≤ m.buffer.length := by
    rw [h.room]
    exact fits
  refine ⟨{ m with buffer := bytes ++ m.buffer.drop bytes.length }, ?_, ?_, none, rfl, ?_⟩
  · rw [store?, if_pos room]
  · refine ⟨h.reader, ?_, h.capacity, List.prefix_append _ _, .inl ⟨none, rfl⟩⟩
    rw [List.length_append, List.length_drop, h.room]
    exact Nat.add_sub_of_le fits
  · rw [Span.of?_upTo (by simp), List.take_left]

/-- Nothing is unread where the range is empty. -/
theorem Holds.mark (h : m.Holds size r) (none : m.pending = {}) : r.mark = r.window.length := by
  rcases h.pending with ⟨-, all⟩ | ⟨-, -, marked⟩
  · exact all
  · have same : (⟨0, 0⟩ : Span) = ⟨r.mark, r.window.length⟩ := none.symm.trans marked
    have start : 0 = r.mark := congrArg Span.start same
    have stop : 0 = r.window.length := congrArg Span.stop same
    rw [← start, ← stop]

/-- A reader that gets on and leaves the bytes in its hands as they are needs no other buffer. -/
theorem Holds.advance (h : m.Holds size r)
    (same : next = next.withWindow r.capacity r.window r.mark)
    (past : m.pending = {} ∨ next.phase.isHead = false) :
    { m with reader := next.bare }.Holds size next := by
  refine ⟨rfl, h.room, ?_, ?_, ?_⟩
  · rw [same]
    exact h.capacity
  · rw [same]
    exact h.window
  · rw [same]
    rcases past with none | past
    · exact .inl ⟨none, h.mark none⟩
    · rw [same] at past
      exact h.pending.imp_right fun ⟨_, marked⟩ => ⟨past, marked⟩

/-- A portion is taken as it would be by a reader that holds its bytes itself. -/
theorem Holds.feed (h : m.Holds size r) (bytes : Bytes) :
    m.reader.feed bytes = ((r.feed bytes).1, (r.feed bytes).2.bare) ∧
      { m with reader := (r.feed bytes).2.bare }.Holds size (r.feed bytes).2 := by
  refine ⟨?_, h.advance ?_ ?_⟩
  · rw [h.reader]
    exact r.feed_withWindow 1 [] 0 bytes
  · exact congrArg Prod.snd (r.feed_withWindow r.capacity r.window r.mark bytes)
  · exact h.pending.imp And.left fun ⟨past, _⟩ => Reader.isHead_feed_past past bytes

/-! ## Reading the head -/

theorem readHeadFrom?_past (past : m.reader.phase.isHead = false) (cancelled : Bool)
    (deliveries : List Delivery) :
    m.readHeadFrom? cancelled deliveries = some (.ok (), m, ⟨deliveries, cancelled⟩) := by
  cases deliveries <;> simp [readHeadFrom?, past]

theorem finishAtEnd_head (head : m.reader.phase.isHead = true) :
    m.finishAtEnd = (.error .incompleteResponse, m) := by
  rw [finishAtEnd, Reader.finishAtEnd_head head]

/-- What reading the head makes of the bytes of a read that are in the buffer. -/
theorem readHeadFrom?_bytes {stored : BufferedReader} (head : m.reader.phase.isHead = true)
    {d : Delivery} (event : d.event = .bytes bytes) (store : m.store? bytes = some stored)
    (found : (Span.mk 0 bytes.length).of? stored.buffer = some bytes) (later : List Delivery) :
    m.readHeadFrom? false (d :: later) =
      match stored.reader.feed bytes with
      | (.error e, next) => some (.error e, { stored with reader := next }, ⟨later, d.cancels⟩)
      | (.ok .needMore, next) => { stored with reader := next }.readHeadFrom? d.cancels later
      | (.ok (.headEnded k), next) =>
        { stored with reader := next, pending := ⟨k, bytes.length⟩ }.readHeadFrom? d.cancels later
      | (.ok (.done k), next) =>
        { stored with reader := next, pending := ⟨k, bytes.length⟩ }.readHeadFrom?
          d.cancels later := by
  simp only [readHeadFrom?, head, event, store, Option.bind_some, feedSpan?_eq found]
  rcases stored.reader.feed bytes with ⟨_ | feed, next⟩
  · rfl
  · cases feed <;> rfl

/-- The bytes after the end of the head stay in the buffer, and the range marks them. -/
theorem Holds.ended {stored : BufferedReader} (h : stored.Holds size (r.hold bytes)) {k : Nat}
    (past : next.phase.isHead = false) (within : k ≤ bytes.length) :
    { stored with reader := next.bare, pending := ⟨k, bytes.length⟩ }.Holds size
      (next.withWindow r.capacity bytes k) :=
  ⟨rfl, h.room, h.capacity, h.window, .inr ⟨past, within, rfl⟩⟩

/-- **The head is read without a fault** from reads that fit, and its end is found within the last of
them. -/
theorem Holds.readHeadFrom (h : m.Holds size r) (cancelled : Bool) {deliveries : List Delivery}
    (fits : ∀ d ∈ deliveries, d.Fits size) :
    ∃ m', m.readHeadFrom? cancelled deliveries =
        some ((r.readHeadFrom cancelled deliveries).1, m',
          (r.readHeadFrom cancelled deliveries).2.2) ∧
      m'.Holds size (r.readHeadFrom cancelled deliveries).2.1 := by
  induction deliveries generalizing m r cancelled with
  | nil =>
    rw [readHeadFrom?, Reader.readHeadFrom, h.phase]
    rcases head : r.phase.isHead
    · exact ⟨m, rfl, h⟩
    · rw [finishAtEnd_head (h.phase ▸ head), Reader.finishAtEnd_head head]
      cases cancelled <;> exact ⟨m, rfl, h⟩
  | cons d rest ih =>
    have fits' := fun d mem => fits d (List.mem_cons_of_mem _ mem)
    rcases head : r.phase.isHead
    · rw [readHeadFrom?_past (h.phase ▸ head), Reader.readHeadFrom_past head]
      exact ⟨m, rfl, h⟩
    have head' : m.reader.phase.isHead = true := h.phase ▸ head
    cases cancelled with
    | true =>
      simp only [readHeadFrom?, Reader.readHeadFrom, head, head']
      exact ⟨m, rfl, h⟩
    | false =>
      rcases event : d.event with _ | bytes | _ | fault
      · simp only [readHeadFrom?, Reader.readHeadFrom, head, head', event]
        exact ih h d.cancels fits'
      · have piece := fits d List.mem_cons_self bytes (Delivery.outcome_of_bytes event).1
        obtain ⟨stored, store, holds, none, reader, found⟩ :=
          h.store (h.pending_head head).1 piece
        rw [readHeadFrom?_bytes head' event store found, reader, (h.feed bytes).1,
          Reader.readHeadFrom_bytes head event]
        rcases fed : r.feed bytes with ⟨e | _ | k | k, next⟩ <;> simp only
        · exact ⟨_, rfl, rfl, holds.room, holds.capacity, holds.window, .inl ⟨none, rfl⟩⟩
        · have open' : { stored with reader := next.bare }.Holds size
              (next.withWindow r.capacity bytes bytes.length) :=
            ⟨rfl, holds.room, holds.capacity, holds.window, .inl ⟨none, rfl⟩⟩
          exact ih open' d.cancels fits'
        · obtain ⟨past, -, within⟩ := Reader.feedFrom_headEnded fed
          exact ih (holds.ended past (by omega)) d.cancels fits'
        · have within := Reader.feedFrom_ended_le fed
          have past : next.phase.isHead = false := by
            rw [Reader.feedFrom_ended fed]
            rfl
          exact ih (holds.ended past (by omega)) d.cancels fits'
      · simp only [readHeadFrom?, Reader.readHeadFrom, head, head', event,
          finishAtEnd_head head', Reader.finishAtEnd_head head]
        cases d.cancels <;> exact ⟨m, rfl, h⟩
      · simp only [readHeadFrom?, Reader.readHeadFrom, head, head', event]
        exact ⟨m, rfl, h⟩

theorem Holds.readHead (h : m.Holds size r) (positive : 0 < size) (s : Stream) :
    ∃ m', m.readHead? s = some ((r.readHead s).1, m', (r.readHead s).2.2) ∧
      m'.Holds size (r.readHead s).2.1 := by
  rw [readHead?, Reader.readHead, h.room, h.capacity]
  exact h.readHeadFrom s.cancelled (Delivery.fits_of_mem_flatMap positive)

/-! ## Reading the body -/

/-- The bytes of a body that stand in a range of the buffer are taken and flushed without a fault. -/
theorem Holds.feedAndFlush (h : m.Holds size r) (none : m.pending = {}) (body : r.phase = .body)
    (some : bytes ≠ []) (found : span.of? m.buffer = .some bytes) (disk : Disk) :
    let flushed := (r.takeBody bytes).flush disk
    ∃ m', m.feedAndFlush? span disk = .some (flushed.1, m', flushed.2.2) ∧
      m'.Holds size flushed.2.1 ∧ m'.pending = {} := by
  intro flushed
  obtain ⟨b, rest, rfl⟩ := List.exists_cons_of_ne_nil some
  obtain ⟨fed, holds⟩ := h.feed (b :: rest)
  obtain ⟨feed, took⟩ : ∃ feed, r.feed (b :: rest) = (.ok feed, r.takeBody (b :: rest)) :=
    ⟨_, by rw [Reader.feed, Reader.feedFrom_body body]⟩
  rw [took] at fed holds
  refine ⟨{ m with reader := flushed.2.1.bare }, ?_, holds.advance rfl (.inl none), none⟩
  rw [feedAndFlush?, feedSpan?_eq found, fed]
  rfl

/-- **What came with the head is taken once**, and only if the body wants it. -/
theorem Holds.takePending (h : m.Holds size r) (disk : Disk) :
    ∃ m', m.takePending? disk = some ((r.takeUnread disk).1, m', (r.takeUnread disk).2.2) ∧
      m'.Holds size (r.takeUnread disk).2.1 ∧ m'.pending = {} := by
  obtain ⟨-, -, found⟩ := h.unread
  have length := Span.length_of? found
  have taken : { m with pending := {} }.Holds size
      (r.withWindow r.capacity r.window r.window.length) :=
    ⟨h.reader, h.room, h.capacity, h.window, .inl ⟨rfl, rfl⟩⟩
  by_cases wanted : m.pending.start < m.pending.stop ∧ r.phase = .body
  · have some : r.unread ≠ [] := List.ne_nil_of_length_pos (by omega)
    have going : ¬ (r.unread.isEmpty = true ∨ r.phase ≠ .body) := by
      simp [some, wanted.2]
    obtain ⟨m', took, holds⟩ := taken.feedAndFlush rfl wanted.2 some found disk
    refine ⟨m', ?_⟩
    rw [takePending?, h.phase, if_pos wanted, Reader.takeUnread]
    simp only [if_neg going]
    exact ⟨took, holds⟩
  · have nothing : r.unread.isEmpty = true ∨ r.phase ≠ .body := by
      rcases not_and_or.1 wanted with none | past
      · exact .inl (List.isEmpty_iff.2 (List.eq_nil_of_length_eq_zero (by omega)))
      · exact .inr past
    have skip : r.takeUnread disk =
        (.ok (), r.withWindow r.capacity r.window r.window.length, disk) := by
      simp only [Reader.takeUnread, if_pos nothing]
      rfl
    rw [takePending?, h.phase, if_neg wanted, skip]
    exact ⟨_, rfl, taken, rfl⟩

/-- A reader that has come to some end of a body. -/
def BodyRead.Matches (read : BodyRead) (size : Nat) (expected : Reader.BodyRead) : Prop :=
  read.outcome = expected.outcome ∧ read.reader.Holds size expected.reader ∧
    read.stream = expected.stream ∧ read.disk = expected.disk

theorem Holds.endBody (h : m.Holds size r) (none : m.pending = {}) (s : Stream) (disk : Disk) :
    (m.endBody s disk).Matches size (r.endBody s disk) := by
  have same : (r.endBody s disk).reader =
      (r.endBody s disk).reader.withWindow r.capacity r.window r.mark := rfl
  have holds := h.advance same (.inl none)
  rw [BufferedReader.endBody, h.reader]
  exact ⟨rfl, holds, rfl, rfl⟩

theorem Holds.endBodyEarly (h : m.Holds size r) (none : m.pending = {}) (s : Stream) (disk : Disk) :
    (m.endBodyEarly s disk).Matches size (r.endBodyEarly s disk) := by
  have same := congrArg (·.reader) (r.endBodyEarly_withWindow r.capacity r.window r.mark s disk)
  have holds := h.advance same (.inl none)
  rw [BufferedReader.endBodyEarly, h.reader, Reader.bare, Reader.endBodyEarly_withWindow]
  exact ⟨rfl, holds, rfl, rfl⟩

/-- **The body is read without a fault** from reads that fit. -/
theorem Holds.readBodyFrom (h : m.Holds size r) (none : m.pending = {}) (disk : Disk) (cancelled : Bool)
    {deliveries : List Delivery} (fits : ∀ d ∈ deliveries, d.Fits size) :
    ∃ read, m.readBodyFrom? disk cancelled deliveries = some read ∧
      read.Matches size (r.readBodyFrom disk cancelled deliveries) := by
  induction deliveries generalizing m r disk cancelled with
  | nil =>
    rw [readBodyFrom?, Reader.readBodyFrom, h.phase]
    split_ifs
    · exact ⟨_, rfl, h.endBody none _ disk⟩
    · exact ⟨_, rfl, rfl, h, rfl, rfl⟩
    · exact ⟨_, rfl, h.endBodyEarly none _ disk⟩
  | cons d rest ih =>
    have fits' := fun d mem => fits d (List.mem_cons_of_mem _ mem)
    rw [readBodyFrom?, Reader.readBodyFrom, h.phase]
    by_cases past : r.phase ≠ .body
    · rw [if_pos past, if_pos past]
      exact ⟨_, rfl, h.endBody none _ disk⟩
    by_cases gone : cancelled = true
    · rw [if_neg past, if_neg past, if_pos gone, if_pos gone]
      exact ⟨_, rfl, rfl, h, rfl, rfl⟩
    simp only [if_neg past, if_neg gone]
    rcases event : d.event with _ | bytes | _ | fault <;> simp only
    · exact ih h none disk d.cancels fits'
    · have body : r.phase = .body := Decidable.not_not.1 past
      obtain ⟨outcome, filled⟩ := Delivery.outcome_of_bytes event
      obtain ⟨stored, store, holds, none', -, found⟩ :=
        h.store none (fits d List.mem_cons_self bytes outcome)
      obtain ⟨m', took, after, none''⟩ :=
        holds.feedAndFlush none' body filled found disk
      rw [store, Option.bind_some, took, Option.bind_some]
      rcases flushed : ((r.hold bytes).takeBody bytes).flush disk with ⟨e | _, next, disk'⟩ <;>
        rw [flushed] at after
      · exact ⟨_, rfl, rfl, after, rfl, rfl⟩
      · exact ih after none'' disk' d.cancels fits'
    · split_ifs
      · exact ⟨_, rfl, rfl, h, rfl, rfl⟩
      · exact ⟨_, rfl, h.endBodyEarly none _ disk⟩
    · exact ⟨_, rfl, rfl, h, rfl, rfl⟩

theorem Holds.readBody (h : m.Holds size r) (positive : 0 < size) (s : Stream) (disk : Disk) :
    ∃ read, m.readBody? s disk = some read ∧ read.Matches size (r.readBody s disk) := by
  obtain ⟨m', took, holds, none⟩ := h.takePending disk
  rw [readBody?, Reader.readBody, took, h.room, h.capacity, Option.bind_some]
  rcases unread : r.takeUnread disk with ⟨e | _, next, disk'⟩ <;> rw [unread] at holds
  · exact ⟨_, rfl, rfl, holds, rfl, rfl⟩
  · exact holds.readBodyFrom none disk' _ (Delivery.fits_of_mem_flatMap positive)

/-! ## Any calls -/

/-- **A call is answered without a fault**, and the buffer has what the reader holds then. -/
theorem Holds.perform (h : m.Holds size r) (positive : 0 < size) (call : Reader.Call) :
    ∃ m', m.perform? call = some m' ∧ m'.Holds size (r.perform call) := by
  cases call with
  | feed bytes =>
    obtain ⟨fed, holds⟩ := h.feed bytes
    refine ⟨_, ?_, holds⟩
    rw [perform?, Reader.feedByTurns?_eq, fed]
    rfl
  | readHead s =>
    obtain ⟨m', read, holds⟩ := h.readHead positive s
    refine ⟨m', ?_, holds⟩
    rw [perform?, read]
    rfl
  | readBody s disk =>
    obtain ⟨read, made, -, holds, -⟩ := h.readBody positive s disk
    refine ⟨read.reader, ?_, holds⟩
    rw [perform?, made]
    rfl

theorem Holds.performAll (h : m.Holds size r) (positive : 0 < size) (calls : List Reader.Call) :
    ∃ m', m.performAll? calls = some m' ∧ m'.Holds size (r.performAll calls) := by
  induction calls generalizing m r with
  | nil => exact ⟨m, rfl, h⟩
  | cons call calls ih =>
    obtain ⟨next, answered, holds⟩ := h.perform positive call
    obtain ⟨m', run, holds'⟩ := ih holds
    refine ⟨m', ?_, holds'⟩
    rw [performAll?, answered]
    exact run

/-- **Whatever a reader is asked**, to take portions, heads or bodies, in any order and also after
failures: there is no fault in its buffer, which keeps its length, and the range that is still to be
looked at lies within the bytes of the last read. What it counts agrees with what the head has told
and with what its sink shows, and does not exceed a length that shows. The loop over the next portion
ends, since each of its turns finds its bytes and takes at least one of them, or the response is
over. -/
theorem performAll_inBounds (size : Nat) {sink : Sink} (empty : sink.progress = 0)
    (unsized : sink.bodySize = none) (calls : List Reader.Call) :
    let r := (Reader.start size sink).performAll calls
    (∃ m, (start size sink).performAll? calls = some m ∧ m.reader = r.bare ∧
      m.buffer.length = max size 1 ∧ r.window <+: m.buffer ∧
      m.pending.start ≤ m.pending.stop ∧ m.pending.stop ≤ r.window.length ∧
      m.pending.of? m.buffer = some r.unread) ∧
    r.Counts ∧ (∀ n, r.sink.bodySize = some n → r.sink.progress ≤ n) ∧
    (∀ bytes, r.feedByTurns? bytes = some (r.feed bytes)) ∧
    ∀ (reader : Reader) (bytes : Bytes) (pos : Nat), pos < bytes.length →
      ∃ turn, reader.turn? bytes pos = some turn ∧ turn.pos ≤ bytes.length ∧
        (pos < turn.pos ∨ turn.reader.phase = .done) := by
  intro r
  have positive : 0 < max size 1 := Reader.capacity_start_pos size sink
  obtain ⟨m, run, holds⟩ := (holds_start size sink).performAll positive calls
  have unread := holds.unread
  have counts : r.Counts := (Reader.counts_start size empty unsized).performAll calls
  refine ⟨⟨m, run, holds.reader, holds.room, holds.window, unread⟩, counts,
    fun n => counts.progress_le, r.feedByTurns?_eq, fun reader bytes pos inside => ?_⟩
  obtain ⟨turn, made, gets⟩ := reader.exists_turn inside
  exact ⟨turn, made, gets.within, gets.taken⟩

/-- A status that is refused, another one, a head in reads of four bytes, and the stream ends while
bytes of the body are still to come. -/
theorem performAll_inBounds_refused :
    let sink := Sink.inMemory "http://h/"
    let fields : Bytes :=
      [99, 111, 110, 116, 101, 110, 116, 45, 108, 101, 110, 103, 116, 104, 58, 53, 10, 10, 97, 98]
    let calls : List Reader.Call :=
      [.feed [86, 32, 50, 120, 10], .feed [50, 48, 48, 10],
        .readHead ⟨[⟨false, .ok fields⟩], false⟩, .readBody ⟨[⟨false, .ok [99]⟩], false⟩ {}]
    let r := (Reader.start 4 sink).performAll calls
    sink.progress = 0 ∧ sink.bodySize = none ∧ r.window = [99] ∧ r.received = 3 ∧
      r.contentLength = some 5 ∧ r.Counts ∧
      ∃ m, (start 4 sink).performAll? calls = some m ∧ m.reader = r.bare ∧ m.buffer.length = 4 ∧
        r.window <+: m.buffer ∧ m.pending.start ≤ m.pending.stop ∧
        m.pending.stop ≤ r.window.length ∧ m.pending.of? m.buffer = some r.unread := by
  intro sink fields calls r
  obtain ⟨buffer, counts, -⟩ := performAll_inBounds 4 (show sink.progress = 0 from rfl) rfl calls
  exact ⟨rfl, rfl, by decide +kernel, by decide +kernel, by decide +kernel, counts, buffer⟩

end BufferedReader
end HttpFetch
