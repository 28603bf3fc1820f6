import HttpFetch.Response.Stream
import HttpFetch.Sink.Basic
import HttpFetch.Text.Decimal
/-!
# Reading a response

A `Reader` takes the bytes of a response in portions of any size and fills its sink: the first line
and the header fields byte by byte, the body in bulk. It pauses at the end of the head (`readHead`),
so that a redirect can be followed before any byte of a body is taken, and keeps the bytes it has
already read for `readBody`.

What it has learned stays when it fails, so the sink shows how far the response came.
-/

namespace HttpFetch

/-- Where in the response the next byte stands. -/
inductive Phase where
  /-- the first line: version, status, description -/
  | version
  | status
  | description
  /-- a header field: its name, its value -/
  | name
  | value
  | body
  /-- after the response -/
  | done
  deriving Repr, DecidableEq, Inhabited

/-- Whether the next byte belongs to the head. -/
def Phase.isHead : Phase → Bool
  | .body | .done => false
  | _ => true

/-- A response under way. -/
structure Reader where
  phase : Phase := .version
  /-- the bytes seen of a part of the first line or of the name of a field -/
  token : Array UInt8 := #[]
  /-- the bytes seen of the value of a field -/
  value : Array UInt8 := #[]
  /-- how long the body is to be, if the head says so -/
  contentLength : Option Nat := none
  /-- how many bytes of the body have come -/
  received : Nat := 0
  /-- how many bytes one read may give -/
  capacity : Nat
  /-- the bytes of the last read -/
  window : Bytes := []
  /-- how many bytes of `window` have been looked at -/
  mark : Nat := 0
  sink : Sink

/-- What became of a portion. -/
inductive Feed where
  /-- all of it was taken, and the response goes on -/
  | needMore
  /-- the head ended after so many bytes, and the rest was left -/
  | headEnded (taken : Nat)
  /-- the response ended after so many bytes -/
  | done (taken : Nat)
  deriving Repr, DecidableEq

namespace Reader

/-- A reader at the start of a response; a read gives one byte at least. -/
def start (bufferSize : Nat) (sink : Sink) : Reader := { capacity := max bufferSize 1, sink }

/-- The bytes that have been read and not looked at. -/
def unread (r : Reader) : Bytes := r.window.drop r.mark

/-- The text of bytes. -/
def textOf (bytes : Array UInt8) : String := Utf8.decodeLossy bytes.toList

/-! ## The head -/

/-- Takes the version. -/
def finishVersion (r : Reader) : Reader :=
  { r with
    phase := .status, token := #[]
    sink := { r.sink with version := textOf r.token } }

/-- Takes the status, which has to be a number of 16 bits. -/
def finishStatus (next : Phase) (r : Reader) : Except TransferError Unit × Reader :=
  let text := textOf r.token
  match Decimal.readNat Decimal.max16 text.toList with
  | .ok n =>
    (.ok (), { r with phase := next, token := #[], sink := { r.sink with status := n.toUInt16 } })
  | .error _ => (.error (.malformedResponse (.status text)), { r with token := #[] })

/-- Takes the description. -/
def finishDescription (r : Reader) : Reader :=
  { r with
    phase := .name, token := #[]
    sink := { r.sink with description := textOf r.token } }

/-- Whether a field tells the length of the body. -/
def isLengthName (name : String) : Bool := Ascii.sameName name "content-length"

/-- Takes a header field; one without a name is dropped. -/
def finishField (r : Reader) : Except TransferError Unit × Reader :=
  let name := Text.trim (textOf r.token)
  let value := Text.trim (textOf r.value)
  let r := { r with token := #[], value := #[] }
  if name.isEmpty then (.ok (), { r with phase := .name })
  else if isLengthName name then
    match Decimal.readNat Decimal.max64 value.toList with
    | .ok n =>
      (.ok (),
        { r with phase := .name, contentLength := some n, sink := r.sink.addHeader name value })
    | .error _ => (.error (.malformedResponse (.contentLength value)), r)
  else (.ok (), { r with phase := .name, sink := r.sink.addHeader name value })

/-- Ends the head. A body that is to be empty has come already. -/
def finishHead (r : Reader) : Reader :=
  match r.contentLength with
  | none => { r with phase := .body }
  | some n =>
    { r with
      phase := if n = 0 then .done else .body
      sink := { r.sink with bodySize := some n } }

/-- Adds a byte to the part under way. -/
def keep (r : Reader) (b : UInt8) : Reader := { r with token := r.token.push b }

/-- Takes one byte of the head and tells whether the head ends with it. After the version, carriage
returns do not count. -/
def step (r : Reader) (b : UInt8) : Except TransferError Bool × Reader :=
  match r.phase with
  | .version =>
    if b = 32 then (.ok false, r.finishVersion)
    else if b = 13 ∨ b = 10 then (.error (.malformedResponse .version), r)
    else (.ok false, r.keep b)
  | .status =>
    if b = 32 then
      if r.token.isEmpty then (.ok false, r)
      else ((r.finishStatus .description).1.map fun _ => false, (r.finishStatus .description).2)
    else if b = 13 then (.ok false, r)
    else if b = 10 then ((r.finishStatus .name).1.map fun _ => false, (r.finishStatus .name).2)
    else (.ok false, r.keep b)
  | .description =>
    if b = 13 then (.ok false, r)
    else if b = 10 then (.ok false, r.finishDescription)
    else (.ok false, r.keep b)
  | .name =>
    if b = 13 then (.ok false, r)
    else if b = 10 then
      if r.token.isEmpty then (.ok true, r.finishHead)
      else (r.finishField.1.map fun _ => false, r.finishField.2)
    else if b = 58 then (.ok false, { r with phase := .value })
    else (.ok false, r.keep b)
  | .value =>
    if b = 13 then (.ok false, r)
    else if b = 10 then (r.finishField.1.map fun _ => false, r.finishField.2)
    else (.ok false, { r with value := r.value.push b })
  | .body | .done => (.ok false, r)

/-! ## The body -/

/-- How many of `available` bytes belong to the body. -/
def wanted (r : Reader) (available : Nat) : Nat :=
  match r.contentLength with
  | none => available
  | some n => min (n - r.received) available

/-- Takes what belongs to the body. -/
def takeBody (r : Reader) (bytes : Bytes) : Reader :=
  let count := r.wanted bytes.length
  { r with
    phase := if r.contentLength.any (· ≤ r.received + count) then .done else r.phase
    received := r.received + count
    sink := r.sink.append (bytes.take count) }

/-! ## Portions -/

/-- Takes a portion of the response of which `taken` bytes have been taken before. -/
def feedFrom (r : Reader) (taken : Nat) : Bytes → Except TransferError Feed × Reader
  | [] => (.ok (if r.phase = .done then .done taken else .needMore), r)
  | b :: rest =>
    match r.phase with
    | .done => (.ok (.done taken), r)
    | .body =>
      let next := r.takeBody (b :: rest)
      (.ok (if next.phase = .done then .done (taken + r.wanted (rest.length + 1)) else .needMore),
        next)
    | _ =>
      match r.step b with
      | (.error e, next) => (.error e, next)
      | (.ok true, next) =>
        (.ok (if next.phase = .done then .done (taken + 1) else .headEnded (taken + 1)), next)
      | (.ok false, next) => next.feedFrom (taken + 1) rest

/-- Takes a portion of the response. It stops where the head ends and where the body does. -/
def feed (r : Reader) (bytes : Bytes) : Except TransferError Feed × Reader := r.feedFrom 0 bytes

/-- Takes note of the end of the stream. It ends a body of unknown length; anywhere else it comes too
early. -/
def finishAtEnd (r : Reader) : Except TransferError Unit × Reader :=
  match r.phase, r.contentLength with
  | .done, _ => (.ok (), r)
  | .body, none =>
    (.ok (), { r with phase := .done, sink := { r.sink with bodySize := some r.received } })
  | .body, some expected => (.error (.incompleteBody expected r.received), r)
  | _, _ => (.error .incompleteResponse, r)

/-! ## Streams -/

/-- The reader after a read, before it has looked at the bytes. -/
def hold (r : Reader) (bytes : Bytes) : Reader :=
  { r with window := bytes, mark := bytes.length }

/-- Takes the bytes of a read up to the end of the head; the rest stays unread. -/
def feedHead (r : Reader) (bytes : Bytes) : Except TransferError Unit × Reader :=
  match (r.hold bytes).feed bytes with
  | (.error e, next) => (.error e, next)
  | (.ok .needMore, next) => (.ok (), next)
  | (.ok (.headEnded taken), next) => (.ok (), { next with mark := taken })
  | (.ok (.done taken), next) => (.ok (), { next with mark := taken })

/-- Reads to the end of the head, from deliveries none of which is larger than a read. -/
def readHeadFrom (r : Reader) (cancelled : Bool) :
    List Delivery → Except TransferError Unit × Reader × Stream
  | [] =>
    if !r.phase.isHead then (.ok (), r, ⟨[], cancelled⟩)
    else if cancelled then (.error .cancelled, r, ⟨[], cancelled⟩)
    else (r.finishAtEnd.1, r.finishAtEnd.2, ⟨[], cancelled⟩)
  | d :: rest =>
    if !r.phase.isHead then (.ok (), r, ⟨d :: rest, cancelled⟩)
    else if cancelled then (.error .cancelled, r, ⟨d :: rest, cancelled⟩)
    else match d.event with
      | .again => r.readHeadFrom d.cancels rest
      | .ended =>
        if d.cancels then (.error .cancelled, r, ⟨rest, true⟩)
        else (r.finishAtEnd.1, r.finishAtEnd.2, ⟨rest, false⟩)
      | .broken fault =>
        (.error ((TransferError.streamRead fault).orCancelled d.cancels), r, ⟨rest, d.cancels⟩)
      | .bytes bytes =>
        match r.feedHead bytes with
        | (.error e, next) => (.error e, next, ⟨rest, d.cancels⟩)
        | (.ok (), next) => next.readHeadFrom d.cancels rest

/-- Reads to the end of the head. -/
def readHead (r : Reader) (s : Stream) : Except TransferError Unit × Reader × Stream :=
  let s := s.inPieces r.capacity
  r.readHeadFrom s.cancelled s.deliveries

/-- What reading a body leaves behind. -/
structure BodyRead where
  outcome : Except TransferError Unit
  reader : Reader
  stream : Stream
  disk : Disk

/-- Moves what waits in memory to the file, if there is one. -/
def flush (r : Reader) (disk : Disk) : Except TransferError Unit × Reader × Disk :=
  let (outcome, sink, disk) := r.sink.flush disk
  (outcome, { r with sink }, disk)

/-- The end of reading a body. -/
def endBody (r : Reader) (s : Stream) (disk : Disk) : BodyRead :=
  let (outcome, r, disk) := r.flush disk
  ⟨outcome, r, s, disk⟩

/-- Takes note of the end of the stream while a body is read. -/
def endBodyEarly (r : Reader) (s : Stream) (disk : Disk) : BodyRead :=
  match r.finishAtEnd with
  | (.error e, r) => ⟨.error e, r, s, disk⟩
  | (.ok (), r) => r.endBody s disk

/-- Reads to the end of the body, from deliveries none of which is larger than a read. What came is
flushed after every read. -/
def readBodyFrom (r : Reader) (disk : Disk) (cancelled : Bool) : List Delivery → BodyRead
  | [] =>
    if r.phase ≠ .body then r.endBody ⟨[], cancelled⟩ disk
    else if cancelled then ⟨.error .cancelled, r, ⟨[], cancelled⟩, disk⟩
    else r.endBodyEarly ⟨[], cancelled⟩ disk
  | d :: rest =>
    if r.phase ≠ .body then r.endBody ⟨d :: rest, cancelled⟩ disk
    else if cancelled then ⟨.error .cancelled, r, ⟨d :: rest, cancelled⟩, disk⟩
    else match d.event with
      | .again => r.readBodyFrom disk d.cancels rest
      | .ended =>
        if d.cancels then ⟨.error .cancelled, r, ⟨rest, true⟩, disk⟩
        else r.endBodyEarly ⟨rest, false⟩ disk
      | .broken fault =>
        ⟨.error ((TransferError.streamRead fault).orCancelled d.cancels), r, ⟨rest, d.cancels⟩, disk⟩
      | .bytes bytes =>
        match ((r.hold bytes).takeBody bytes).flush disk with
        | (.error e, next, disk) => ⟨.error e, next, ⟨rest, d.cancels⟩, disk⟩
        | (.ok (), next, disk) => next.readBodyFrom disk d.cancels rest

/-- Takes the bytes of the body that came with the head. -/
def takeUnread (r : Reader) (disk : Disk) : Except TransferError Unit × Reader × Disk :=
  let bytes := r.unread
  let r := { r with mark := r.window.length }
  if bytes.isEmpty ∨ r.phase ≠ .body then (.ok (), r, disk) else (r.takeBody bytes).flush disk

/-- Reads to the end of the body. -/
def readBody (r : Reader) (s : Stream) (disk : Disk) : BodyRead :=
  let s := s.inPieces r.capacity
  match r.takeUnread disk with
  | (.error e, r, disk) => ⟨.error e, r, s, disk⟩
  | (.ok (), r, disk) => r.readBodyFrom disk s.cancelled s.deliveries

end Reader
end HttpFetch
