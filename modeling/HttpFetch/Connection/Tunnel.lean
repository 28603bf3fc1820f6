import HttpFetch.Network.Basic
import HttpFetch.Request.Wire
/-!
# Tunnels

A proxy that is asked for a tunnel replies with a head like that of a response. The head is read to
its empty line and not a byte further, since what follows comes from the server. The tunnel is open
if the second word of the first line is `200`.
-/

namespace HttpFetch

namespace Tunnel

/-- The longest reply that is read. -/
def maxReply : Nat := 8192

/-- Whether bytes, the last one first, end with an empty line. -/
def endsHead : Bytes → Bool
  | 10 :: 10 :: _ => true
  | 10 :: 13 :: 10 :: 13 :: _ => true
  | _ => false

/-- The fault of a proxy that says nothing. -/
def silent : Fault := ⟨.unexpectedEnd, "proxy closed the connection"⟩

/-- The fault of a proxy that says too much. -/
def tooLong : Fault := ⟨.invalidData, "proxy reply header too large"⟩

/-- Reads on after the bytes of `reply`, the last one first, from deliveries of one byte at most. -/
def readFrom (reply : Bytes) (cancelled : Bool) : List Delivery → Except Fault Bytes × Stream
  | [] =>
    if endsHead reply then (.ok reply.reverse, ⟨[], cancelled⟩)
    else if maxReply ≤ reply.length then (.error tooLong, ⟨[], cancelled⟩)
    else if reply.isEmpty then (.error silent, ⟨[], cancelled⟩)
    else (.ok reply.reverse, ⟨[], cancelled⟩)
  | d :: rest =>
    if endsHead reply then (.ok reply.reverse, ⟨d :: rest, cancelled⟩)
    else if maxReply ≤ reply.length then (.error tooLong, ⟨d :: rest, cancelled⟩)
    else match d.outcome with
      | .ok [] =>
        if reply.isEmpty then (.error silent, ⟨rest, cancelled || d.cancels⟩)
        else (.ok reply.reverse, ⟨rest, cancelled || d.cancels⟩)
      | .ok bytes => readFrom (bytes.reverse ++ reply) (cancelled || d.cancels) rest
      | .error fault =>
        if fault.kind = .interrupted then readFrom reply (cancelled || d.cancels) rest
        else (.error fault, ⟨rest, cancelled || d.cancels⟩)

/-- Reads the head of a reply, or what there is of it when the stream ends. -/
def readReply (s : Stream) : Except Fault Bytes × Stream :=
  let s := s.inPieces 1
  readFrom [] s.cancelled s.deliveries

/-- The first line of a reply. -/
def statusLine (reply : Bytes) : String :=
  String.ofList (Text.trimChars ((Utf8.decodeLossy reply).toList.takeWhile (· ≠ '\n')))

/-- Whether a first line says that the tunnel is open. -/
def isOpen (line : String) : Bool :=
  (Text.tokens Text.isBlank line.toList)[1]? == some "200".toList

end Tunnel

/-- What opening a tunnel comes to. -/
structure Opened where
  outcome : Except TransferError Unit
  /-- the bytes that were sent to the proxy -/
  sent : Bytes
  /-- the rest of what the proxy delivers -/
  stream : Stream

/-- Asks a proxy for a tunnel to the server of an address. -/
def openTunnel (url proxy : Url) (proxyAuth : Option Credentials) (channel : Channel)
    (cancelled : Bool) : Opened :=
  let written := channel.outlet.write (connectRequest url proxyAuth)
  let cancelled := cancelled || written.cancels
  match written.outcome with
  | .error fault =>
    ⟨.error ((TransferError.connection proxy.authority fault).orCancelled cancelled),
      written.sent, ⟨channel.inbound, cancelled⟩⟩
  | .ok () =>
    match Tunnel.readReply ⟨channel.inbound, cancelled⟩ with
    | (.error fault, rest) =>
      ⟨.error ((TransferError.connection proxy.authority fault).orCancelled rest.cancelled),
        written.sent, rest⟩
    | (.ok reply, rest) =>
      let line := Tunnel.statusLine reply
      ⟨if Tunnel.isOpen line then .ok () else .error (.proxyTunnel proxy.authority line),
        written.sent, rest⟩

end HttpFetch
