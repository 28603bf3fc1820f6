import HttpFetch.Proofs.Delivery
import HttpFetch.Proofs.Feed
/-!
# Responses however they are cut

A response is read in as many reads as the stream has, each of limited size. What comes of it
depends on the bytes alone: `Reader.readWhole` says what, and `Reader.readAll_delivers` that every
way to deliver them comes to that.
-/

namespace HttpFetch

/-- Ending a transfer leaves a body in memory as it is. -/
theorem Sink.flush_memory {sink : Sink} (memory : sink.isFile = false) (disk : Disk) :
    sink.flush disk = (.ok (), sink, disk) := by
  cases h : sink.body with
  | memory bytes => simp [Sink.flush, h]
  | file body => simp [Sink.isFile, h] at memory

namespace Reader

/-- What comes of a response once reading its head has ended in some way. -/
def afterHead (disk : Disk) : Except TransferError Unit × Reader × Stream → BodyRead
  | (.error e, next, s) => ⟨.error e, next, s, disk⟩
  | (.ok (), next, s) => next.readBody s disk

/-- Reads a response, head and body. -/
def readAll (r : Reader) (s : Stream) (disk : Disk) : BodyRead := afterHead disk (r.readHead s)

/-- Reads a response of which all bytes are there, and then finds its end. -/
def readWhole (r : Reader) (bytes : Bytes) : Except TransferError Unit × Reader :=
  match r.feed bytes with
  | (.error e, next) => (.error e, next)
  | (.ok (.headEnded taken), next) => (next.feed (bytes.drop taken)).2.finishAtEnd
  | (.ok _, next) => next.finishAtEnd

/-- The reader with nothing in its hands: how far the response has come, and no more. -/
def bare (r : Reader) : Reader := r.withWindow 1 [] 0

/-- A read came to an outcome and left the reader so far. -/
def BodyRead.Comes (read : BodyRead) (expected : Except TransferError Unit × Reader) : Prop :=
  read.outcome = expected.1 ∧ read.reader.bare = expected.2.bare

/-! ## The whole response -/

theorem readWhole_past {r : Reader} (past : r.phase.isHead = false) (bytes : Bytes) :
    r.readWhole bytes = (r.feed bytes).2.finishAtEnd := by
  rw [readWhole]
  rcases h : r.feed bytes with ⟨outcome, next⟩
  rcases feed_past past bytes with more | ⟨⟨k, ended⟩, -⟩
  · rw [h] at more
    simp only at more
    simp only [more]
  · rw [h] at ended
    simp only at ended
    simp only [ended]

/-- What is in the reader's hands plays no part. -/
theorem readWhole_withWindow (r : Reader) (capacity : Nat) (window : Bytes) (mark : Nat)
    (bytes : Bytes) :
    (r.withWindow capacity window mark).readWhole bytes =
      ((r.readWhole bytes).1, (r.readWhole bytes).2.withWindow capacity window mark) := by
  simp only [readWhole, feed_withWindow]
  rcases r.feed bytes with ⟨_ | feed, next⟩
  · rfl
  · cases feed <;> simp only [feed_withWindow, finishAtEnd_withWindow]

/-- Bytes that are taken whole can be taken first. -/
theorem readWhole_needMore {r next : Reader} {a : Bytes} (h : r.feed a = (.ok .needMore, next))
    (b : Bytes) : r.readWhole (a ++ b) = next.readWhole b := by
  have both := feed_append r a b
  rw [h] at both
  simp only at both
  rw [readWhole, readWhole, both]
  rcases next.feed b with ⟨_ | feed, after⟩
  · rfl
  · cases feed with
    | headEnded k =>
      have past : a.drop (a.length + k) = [] := List.drop_eq_nil_of_le (by omega)
      simp [Except.map, Feed.later, List.drop_append, past]
    | needMore => rfl
    | done k => rfl

/-- Bytes that end the head leave the rest for the body. -/
theorem readWhole_headEnded {r next : Reader} {a : Bytes} {k : Nat}
    (h : r.feed a = (.ok (.headEnded k), next)) (b : Bytes) :
    r.readWhole (a ++ b) = next.readWhole (a.drop k ++ b) := by
  have both := feed_append r a b
  obtain ⟨past, -, within⟩ := feedFrom_headEnded h
  rw [h] at both
  simp only at both
  rw [readWhole_past past, readWhole, both]
  simp only
  rw [List.drop_append_of_le_length (by omega)]

/-- Bytes that end the response make it complete. -/
theorem readWhole_done {r next : Reader} {a : Bytes} {k : Nat}
    (h : r.feed a = (.ok (.done k), next)) (b : Bytes) :
    r.readWhole (a ++ b) = (.ok (), next) := by
  have both := feed_append r a b
  rw [h] at both
  simp only at both
  rw [readWhole, both]
  simp only [finishAtEnd, feedFrom_ended h]

/-- Bytes that are refused are refused, whatever follows. -/
theorem readWhole_error {r next : Reader} {a : Bytes} {e : TransferError}
    (h : r.feed a = (.error e, next)) (b : Bytes) : r.readWhole (a ++ b) = (.error e, next) := by
  have both := feed_append r a b
  rw [h] at both
  simp only at both
  rw [readWhole, both]

/-! ## The body -/

theorem flush_memory {r : Reader} (memory : r.sink.isFile = false) (disk : Disk) :
    r.flush disk = (.ok (), r, disk) := by
  simp only [flush, Sink.flush_memory memory]

theorem endBody_memory {r : Reader} (memory : r.sink.isFile = false) (s : Stream) (disk : Disk) :
    r.endBody s disk = ⟨.ok (), r, s, disk⟩ := by
  simp only [endBody, flush_memory memory]

theorem isFile_finishAtEnd (r : Reader) : r.finishAtEnd.2.sink.isFile = r.sink.isFile := by
  rw [finishAtEnd]
  split <;> rfl

theorem endBodyEarly_memory {r : Reader} (memory : r.sink.isFile = false) (s : Stream)
    (disk : Disk) : r.endBodyEarly s disk = ⟨r.finishAtEnd.1, r.finishAtEnd.2, s, disk⟩ := by
  have after := isFile_finishAtEnd r
  rw [memory] at after
  rw [endBodyEarly]
  rcases h : r.finishAtEnd with ⟨_ | _, next⟩
  · rfl
  · rw [h] at after
    simp only [endBody_memory after]

/-- A body that is complete ends at once. -/
theorem readBodyFrom_done {r : Reader} (memory : r.sink.isFile = false) (done : r.phase = .done)
    (disk : Disk) (deliveries : List Delivery) :
    r.readBodyFrom disk false deliveries = ⟨.ok (), r, ⟨deliveries, false⟩, disk⟩ := by
  cases deliveries <;> simp [readBodyFrom, done, endBody_memory memory]

/-- At the end of the stream the body ends, or is too short. -/
theorem readBodyFrom_ended {r : Reader} (memory : r.sink.isFile = false) (body : r.phase = .body)
    (disk : Disk) {d : Delivery} (going : d.cancels = false) (ended : d.event = .ended)
    (later : List Delivery) :
    r.readBodyFrom disk false (d :: later) =
      ⟨r.finishAtEnd.1, r.finishAtEnd.2, ⟨later, false⟩, disk⟩ := by
  simp [readBodyFrom, body, going, ended, endBodyEarly_memory memory]

/-- A body that is complete is read from any deliveries as from its bytes. -/
theorem comes_done {r : Reader} (memory : r.sink.isFile = false) (done : r.phase = .done)
    (disk : Disk) (deliveries : List Delivery) (bytes : Bytes) :
    (r.readBodyFrom disk false deliveries).Comes (r.feed bytes).2.finishAtEnd := by
  rw [readBodyFrom_done memory done, feed, feedFrom_done done]
  simp [BodyRead.Comes, finishAtEnd, done]

/-- A portion of a body is taken as it would be without a window. -/
theorem takeBody_hold (r : Reader) (b : UInt8) (rest : Bytes) (body : r.phase = .body) :
    (r.hold (b :: rest)).takeBody (b :: rest) =
      (r.feed (b :: rest)).2.withWindow r.capacity (b :: rest) (rest.length + 1) := by
  rw [feed, feedFrom_body body]
  rfl

/-- The body is read from any deliveries as from its bytes. It can be complete before any of them,
and then those that remain are not read. -/
theorem readBodyFrom_delivers {r : Reader} {deliveries : List Delivery} {bytes : Bytes}
    (memory : r.sink.isFile = false) (past : r.phase.isHead = false)
    (h : Delivers deliveries bytes) (disk : Disk) :
    (r.readBodyFrom disk false deliveries).Comes (r.feed bytes).2.finishAtEnd := by
  induction h generalizing r with
  | silent =>
    by_cases done : r.phase = .done
    · exact comes_done memory done disk [] []
    · simp [readBodyFrom, (Phase.body_or_done past).resolve_right done, endBodyEarly_memory memory,
        feed, feedFrom, BodyRead.Comes]
  | closed later =>
    by_cases done : r.phase = .done
    · exact comes_done memory done disk _ []
    · rw [readBodyFrom_ended memory ((Phase.body_or_done past).resolve_right done) disk rfl rfl]
      exact ⟨rfl, rfl⟩
  | brokenOff text later =>
    by_cases done : r.phase = .done
    · exact comes_done memory done disk _ []
    · rw [readBodyFrom_ended memory ((Phase.body_or_done past).resolve_right done) disk rfl rfl]
      exact ⟨rfl, rfl⟩
  | @interrupted text later bytes _ ih =>
    by_cases done : r.phase = .done
    · exact comes_done memory done disk _ bytes
    · have again : r.readBodyFrom disk false (⟨false, .error ⟨.interrupted, text⟩⟩ :: later) =
          r.readBodyFrom disk false later := by
        simp [readBodyFrom, (Phase.body_or_done past).resolve_right done, Delivery.event]
      rw [again]
      exact ih memory past
  | @portion portion later bytes some _ ih =>
    by_cases done : r.phase = .done
    · exact comes_done memory done disk _ (portion ++ bytes)
    cases portion with
    | nil => exact absurd rfl some
    | cons b rest =>
      have body := (Phase.body_or_done past).resolve_right done
      have next := takeBody_hold r b rest body
      have memory' : ((r.hold (b :: rest)).takeBody (b :: rest)).sink.isFile = false := by
        rw [next]
        exact (isFile_feedFrom r 0 (b :: rest)).trans memory
      have past' : ((r.hold (b :: rest)).takeBody (b :: rest)).phase.isHead = false := by
        rw [next]
        exact isHead_feed_past past (b :: rest)
      have taken : r.readBodyFrom disk false (⟨false, .ok (b :: rest)⟩ :: later) =
          ((r.hold (b :: rest)).takeBody (b :: rest)).readBodyFrom disk false later := by
        simp [readBodyFrom, body, Delivery.event, flush_memory memory']
      have comes := ih memory' past'
      rw [taken, feed_past_append past]
      rw [next] at comes ⊢
      rw [feed_withWindow, finishAtEnd_withWindow] at comes
      exact comes

/-! ## Head and body -/

/-- The bytes in the reader's hands come before those that are still to be delivered. -/
theorem readBody_delivers {r : Reader} {deliveries : List Delivery} {bytes : Bytes}
    (memory : r.sink.isFile = false) (past : r.phase.isHead = false) (positive : 0 < r.capacity)
    (h : Delivers deliveries bytes) (disk : Disk) :
    (r.readBody ⟨deliveries, false⟩ disk).Comes (r.feed (r.unread ++ bytes)).2.finishAtEnd := by
  have pieces := h.inPieces positive
  have rest (next : Reader) (memory : next.sink.isFile = false)
      (past : next.phase.isHead = false) :
      (next.readBodyFrom disk false (deliveries.flatMap (Delivery.pieces r.capacity))).Comes
        (next.feed bytes).2.finishAtEnd := readBodyFrom_delivers memory past pieces disk
  by_cases nothing : r.unread.isEmpty = true ∨ r.phase ≠ .body
  · have skip : r.takeUnread disk =
        (.ok (), r.withWindow r.capacity r.window r.window.length, disk) := by
      simp only [takeUnread, if_pos nothing]
      rfl
    have same : (r.feed (r.unread ++ bytes)).2 = (r.feed bytes).2 := by
      rcases nothing with none | finished
      · rw [List.isEmpty_iff.1 none, List.nil_append]
      · have done : r.phase = .done := (Phase.body_or_done past).resolve_left finished
        rw [feed, feed, feedFrom_done done, feedFrom_done done]
    have comes := rest (r.withWindow r.capacity r.window r.window.length) memory past
    rw [feed_withWindow, finishAtEnd_withWindow] at comes
    rw [readBody, skip, same]
    exact comes
  · obtain ⟨some, body⟩ := not_or.1 nothing
    rw [ne_eq, Decidable.not_not] at body
    rcases waiting : r.unread with _ | ⟨b, more⟩
    · rw [waiting] at some
      exact absurd rfl some
    rw [waiting] at nothing
    have first : r.feed (b :: more) = ((r.feed (b :: more)).1, r.takeBody (b :: more)) := by
      rw [feed, feedFrom_body body]
    have memory' : (r.takeBody (b :: more)).sink.isFile = false := by
      have := isFile_feedFrom r 0 (b :: more)
      rw [feedFrom_body body, memory] at this
      exact this
    have past' : (r.takeBody (b :: more)).phase.isHead = false := by
      have := isHead_feed_past past (b :: more)
      rw [first] at this
      exact this
    have taken : r.takeUnread disk = (.ok (),
        (r.takeBody (b :: more)).withWindow r.capacity r.window r.window.length, disk) := by
      simp only [takeUnread, waiting, if_neg nothing]
      exact flush_memory (r := (r.takeBody (b :: more)).withWindow r.capacity r.window
        r.window.length) memory' disk
    have comes := rest ((r.takeBody (b :: more)).withWindow r.capacity r.window
      r.window.length) memory' past'
    rw [feed_withWindow, finishAtEnd_withWindow] at comes
    rw [readBody, taken, feed_past_append past, first]
    exact comes

/-- A head that the stream does not complete is incomplete. -/
theorem finishAtEnd_head {r : Reader} (head : r.phase.isHead = true) :
    r.finishAtEnd = (.error .incompleteResponse, r) := by
  cases phase : r.phase <;> simp [Phase.isHead, phase] at head <;> simp [finishAtEnd, phase]

theorem readWhole_head_nil {r : Reader} (head : r.phase.isHead = true) :
    r.readWhole [] = (.error .incompleteResponse, r) := by
  simp only [readWhole, feed, feedFrom, if_neg (Phase.ne_done head), finishAtEnd_head head]

/-- Reading the head stops where it has ended. -/
theorem readHeadFrom_past {r : Reader} (past : r.phase.isHead = false) (cancelled : Bool)
    (deliveries : List Delivery) :
    r.readHeadFrom cancelled deliveries = (.ok (), r, ⟨deliveries, cancelled⟩) := by
  cases deliveries <;> simp [readHeadFrom, past]

/-- Reading the head ends with the stream. -/
theorem readHeadFrom_ended {r : Reader} (head : r.phase.isHead = true) {d : Delivery}
    (going : d.cancels = false) (ended : d.event = .ended) (later : List Delivery) :
    r.readHeadFrom false (d :: later) = (.error .incompleteResponse, r, ⟨later, false⟩) := by
  simp [readHeadFrom, head, going, ended, finishAtEnd_head head]

/-- What reading the head makes of the bytes of one read. -/
theorem readHeadFrom_bytes {r : Reader} (head : r.phase.isHead = true) {d : Delivery}
    {bytes : Bytes} (event : d.event = .bytes bytes) (later : List Delivery) :
    r.readHeadFrom false (d :: later) =
      match r.feed bytes with
      | (.error e, next) =>
        (.error e, next.withWindow r.capacity bytes bytes.length, ⟨later, d.cancels⟩)
      | (.ok .needMore, next) =>
        (next.withWindow r.capacity bytes bytes.length).readHeadFrom d.cancels later
      | (.ok (.headEnded k), next) =>
        (next.withWindow r.capacity bytes k).readHeadFrom d.cancels later
      | (.ok (.done k), next) =>
        (next.withWindow r.capacity bytes k).readHeadFrom d.cancels later := by
  have held : r.hold bytes = r.withWindow r.capacity bytes bytes.length := rfl
  simp only [readHeadFrom, head, event, feedHead, held, feed_withWindow]
  rcases r.feed bytes with ⟨_ | feed, next⟩
  · rfl
  · cases feed <;> rfl

/-- A response is read from any deliveries as from its bytes. -/
theorem readHeadFrom_delivers {r : Reader} {deliveries : List Delivery} {bytes : Bytes}
    (memory : r.sink.isFile = false) (head : r.phase.isHead = true) (positive : 0 < r.capacity)
    (h : Delivers deliveries bytes) (disk : Disk) :
    (afterHead disk (r.readHeadFrom false deliveries)).Comes (r.readWhole bytes) := by
  induction h generalizing r with
  | silent =>
    rw [readWhole_head_nil head]
    simp [readHeadFrom, head, finishAtEnd_head head, afterHead, BodyRead.Comes]
  | closed later =>
    rw [readWhole_head_nil head, readHeadFrom_ended head rfl rfl]
    exact ⟨rfl, rfl⟩
  | brokenOff text later =>
    rw [readWhole_head_nil head, readHeadFrom_ended head rfl rfl]
    exact ⟨rfl, rfl⟩
  | @interrupted text later bytes _ ih =>
    have again : r.readHeadFrom false (⟨false, .error ⟨.interrupted, text⟩⟩ :: later) =
        r.readHeadFrom false later := by
      simp [readHeadFrom, head, Delivery.event]
    rw [again]
    exact ih memory head positive
  | @portion portion later bytes some delivers ih =>
    rw [readHeadFrom_bytes head (Delivery.event_of_ne_nil some)]
    rcases fed : r.feed portion with ⟨e | feed, next⟩
    · rw [readWhole_error fed]
      exact ⟨rfl, rfl⟩
    have memory' : next.sink.isFile = false := by
      have same : (r.feed portion).2.sink.isFile = r.sink.isFile := isFile_feedFrom r 0 portion
      rw [fed, memory] at same
      exact same
    have afterwards (k : Nat) (past : next.phase.isHead = false) :
        (afterHead disk ((next.withWindow r.capacity portion k).readHeadFrom false later)).Comes
          (next.feed (portion.drop k ++ bytes)).2.finishAtEnd := by
      have comes := readBody_delivers (r := next.withWindow r.capacity portion k) memory' past
        positive delivers disk
      rw [feed_withWindow, finishAtEnd_withWindow] at comes
      rw [readHeadFrom_past (r := next.withWindow r.capacity portion k) past]
      exact comes
    cases feed with
    | needMore =>
      have head' : next.phase.isHead = true := feedFrom_needMore head fed
      have comes := ih (r := next.withWindow r.capacity portion portion.length) memory' head'
        positive
      rw [readWhole_withWindow] at comes
      rw [readWhole_needMore fed]
      exact comes
    | headEnded k =>
      have past := (feedFrom_headEnded fed).1
      rw [readWhole_headEnded fed, readWhole_past past]
      exact afterwards k past
    | done k =>
      have done := feedFrom_ended fed
      have comes := afterwards k (by rw [done]; rfl)
      rw [Reader.feed, feedFrom_done done, finishAtEnd, done] at comes
      rw [readWhole_done fed]
      exact comes

/-- A reader that has just started reads a response from any deliveries as from its bytes. -/
theorem readAll_delivers (sink : Sink) {deliveries : List Delivery} {bytes : Bytes}
    (memory : sink.isFile = false) (h : Delivers deliveries bytes) (bufferSize : Nat)
    (disk : Disk) :
    ((start bufferSize sink).readAll ⟨deliveries, false⟩ disk).Comes
      ((start 1 sink).readWhole bytes) := by
  have positive := capacity_start_pos bufferSize sink
  have comes := readHeadFrom_delivers (r := start bufferSize sink) memory rfl positive
    (h.inPieces positive) disk
  have anew : start bufferSize sink = (start 1 sink).withWindow (max bufferSize 1) [] 0 := rfl
  have whole : (start bufferSize sink).readWhole bytes =
      (((start 1 sink).readWhole bytes).1,
        ((start 1 sink).readWhole bytes).2.withWindow (max bufferSize 1) [] 0) := by
    rw [anew, readWhole_withWindow]
  rw [whole] at comes
  exact comes

/-- **Where a response is cut into reads does not matter**: two ways to deliver the same bytes, to
readers of any two buffer sizes, come to the same outcome and leave the same phase, the same length
of the body and the same sink. -/
theorem readAll_eq_of_delivers {bytes : Bytes} {once again : List Delivery}
    (first : Delivers once bytes) (second : Delivers again bytes) (url : String)
    (size size' : Nat) (disk disk' : Disk) :
    let one := (start size (.inMemory url)).readAll ⟨once, false⟩ disk
    let other := (start size' (.inMemory url)).readAll ⟨again, false⟩ disk'
    one.outcome = other.outcome ∧ one.reader.phase = other.reader.phase ∧
      one.reader.contentLength = other.reader.contentLength ∧
      one.reader.sink = other.reader.sink := by
  obtain ⟨outcome, reader⟩ := readAll_delivers (.inMemory url) rfl first size disk
  obtain ⟨outcome', reader'⟩ := readAll_delivers (.inMemory url) rfl second size' disk'
  have same := reader.trans reader'.symm
  exact ⟨outcome.trans outcome'.symm, congrArg (·.phase) same, congrArg (·.contentLength) same,
    congrArg (·.sink) same⟩

/-- A response in one read, and in five with an interruption. -/
theorem readAll_eq_of_delivers_pieces :
    let whole : Bytes := [86, 32, 50, 48, 48, 10, 10, 97, 98]
    let once : List Delivery := [⟨false, .ok whole⟩, ⟨false, .ok []⟩]
    let again : List Delivery :=
      [⟨false, .ok [86, 32, 50]⟩, ⟨false, .error ⟨.interrupted, "signal"⟩⟩,
        ⟨false, .ok [48, 48, 10]⟩, ⟨false, .ok [10, 97]⟩, ⟨false, .ok [98]⟩,
        ⟨false, .error ⟨.unexpectedEnd, "end"⟩⟩]
    let one := (start 2048 (.inMemory "http://h/")).readAll ⟨once, false⟩ {}
    let other := (start 0 (.inMemory "http://h/")).readAll ⟨again, false⟩ {}
    Delivers once whole ∧ Delivers again whole ∧ one.reader.sink.buffered = [97, 98] ∧
      one.outcome = other.outcome ∧ one.reader.phase = other.reader.phase ∧
      one.reader.contentLength = other.reader.contentLength ∧
      one.reader.sink = other.reader.sink := by
  intro whole once again one other
  have first : Delivers once whole := .portion (by decide) (.closed [])
  have second : Delivers again whole :=
    @Delivers.portion [86, 32, 50] _ _ (by decide) <| .interrupted "signal" <|
      @Delivers.portion [48, 48, 10] _ _ (by decide) <|
        @Delivers.portion [10, 97] _ _ (by decide) <|
          @Delivers.portion [98] _ _ (by decide) <| .brokenOff "end" []
  exact ⟨first, second, by decide +kernel,
    readAll_eq_of_delivers first second "http://h/" 2048 0 {} {}⟩

end Reader
end HttpFetch
