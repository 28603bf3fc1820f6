import HttpFetch.Error
import HttpFetch.Text.Utf8
/-!
# What a connection delivers

A stream is the list of what its reads are going to give: bytes, nothing more, or a fault, each
possibly while the transfer is cancelled. A read of limited size hands out long deliveries in pieces
(`Delivery.pieces`), so where a response is cut into reads is part of the stream, and nothing about
time has to be said.
-/

namespace HttpFetch

/-- What one read gives. Once a read gives no bytes, the stream has ended. -/
structure Delivery where
  /-- whether the transfer is cancelled while this read is under way -/
  cancels : Bool := false
  outcome : Except Fault Bytes

/-- What a read means for the one who waits for bytes. -/
inductive Delivery.Event where
  /-- nothing happened; the read is tried again -/
  | again
  /-- at least one byte -/
  | bytes (bytes : Bytes)
  /-- no more bytes -/
  | ended
  | broken (fault : Fault)

namespace Delivery

/-- The meaning of a delivery. A peer that ends where more had to come has ended all the same. -/
def event (d : Delivery) : Event :=
  match d.outcome with
  | .ok [] => .ended
  | .ok bytes => .bytes bytes
  | .error fault =>
    match fault.kind with
    | .interrupted => .again
    | .unexpectedEnd => .ended
    | _ => .broken fault

/-- Bytes in pieces of at most `size`. `piece` holds the bytes of the one under way and `done` those
before it, each with what came last in front; `room` is how many bytes the piece still takes. -/
def cutFrom (size : Nat) (done : List Bytes) (piece : Bytes) :
    (room : Nat) → Bytes → List Bytes
  | _, [] => (piece.reverse :: done).reverse
  | 0, b :: rest => cutFrom size (piece.reverse :: done) [b] (size - 1) rest
  | room + 1, b :: rest => cutFrom size done (b :: piece) room rest

/-- Bytes in pieces of at most `size`, which is not zero; always at least one piece. -/
def cut (size : Nat) (bytes : Bytes) : List Bytes := cutFrom size [] [] size bytes

/-- A delivery as reads of at most `size` bytes take it. -/
def pieces (size : Nat) (d : Delivery) : List Delivery :=
  match d.outcome with
  | .error _ => [d]
  | .ok bytes =>
    match cut size bytes with
    | [] => [d]
    | piece :: rest =>
      { d with outcome := .ok piece } :: rest.map fun piece => { outcome := .ok piece }

end Delivery

/-- What the reads to come will give. After the last delivery every read finds the end. -/
structure Stream where
  deliveries : List Delivery := []
  /-- whether the transfer has been cancelled -/
  cancelled : Bool := false

namespace Stream

/-- The stream as reads of at most `size` bytes take it. -/
def inPieces (size : Nat) (s : Stream) : Stream :=
  { s with deliveries := s.deliveries.flatMap (Delivery.pieces size) }

/-- The bytes that come before the stream ends or breaks. -/
def waitingIn : List Delivery → Bytes
  | [] => []
  | d :: rest =>
    match d.event with
    | .again => waitingIn rest
    | .bytes bytes => bytes ++ waitingIn rest
    | _ => []

/-- The bytes that come before the stream ends or breaks. -/
def waiting (s : Stream) : Bytes := waitingIn s.deliveries

/-- Whether deliveries come to an end and do not break off. -/
def endsCleanlyIn : List Delivery → Bool
  | [] => true
  | d :: rest =>
    match d.outcome with
    | .ok [] => true
    | .ok _ => endsCleanlyIn rest
    | .error fault => fault.kind == .interrupted && endsCleanlyIn rest

/-- Whether the stream comes to an end and does not break off. -/
def endsCleanly (s : Stream) : Bool := endsCleanlyIn s.deliveries

/-- Fails once the transfer has been cancelled. -/
def check (s : Stream) : Except TransferError Unit :=
  if s.cancelled then .error .cancelled else .ok ()

end Stream

/-- A fault that comes of cancellation counts as cancellation. -/
def TransferError.orCancelled (cancelled : Bool) (e : TransferError) : TransferError :=
  if cancelled then .cancelled else e

end HttpFetch
