import HttpFetch.Response.Stream
import HttpFetch.Tls.Handshake
/-!
# The network

Everything that the other side does, said in advance: to which addresses a host resolves, how each
attempt to connect ends, what a peer sends and how much it takes. A program over a `Network` is a
function, and a statement about every network is one about every behaviour of the peers.
-/

namespace HttpFetch

/-- What a peer takes. -/
structure Outlet where
  /-- how many bytes it takes; without a number, all -/
  room : Option Nat := none
  /-- how a write ends for which there is no room -/
  fault : Fault := .slow
  /-- whether the transfer is cancelled while such a write waits -/
  cancels : Bool := false

/-- One direction each of bytes to and from a peer. -/
structure Channel where
  inbound : List Delivery := []
  outlet : Outlet := {}

/-- What is at the other end of a connection. -/
structure Peer where
  /-- what goes on in the clear -/
  plain : Channel := {}
  /-- how it answers the hello of a handshake with a host -/
  greeting : (host : String) → Greeting := fun _ => .closes
  /-- whether the transfer is cancelled during the handshake -/
  cancels : Bool := false
  /-- what goes on under TLS -/
  secure : Channel := {}

/-- An attempt to connect to one address. -/
structure Attempt where
  address : String
  /-- whether the transfer is cancelled during the attempt -/
  cancels : Bool := false
  outcome : Except Fault Peer

/-- The attempts that can be made to reach a host at a port, in the order of its addresses, or why
the host cannot be looked up. -/
abbrev Reach := (host : String) → (port : UInt16) → Except Fault (List Attempt)

/-- What can be reached, for every hop of a transfer. -/
abbrev Network := (hop : Nat) → Reach

/-- What a write comes to. -/
structure Written where
  outcome : Except Fault Unit
  /-- the bytes that went out -/
  sent : Bytes
  outlet : Outlet
  /-- whether the transfer was cancelled meanwhile -/
  cancels : Bool

/-- Writes bytes, all of them or as many as there is room for. -/
def Outlet.write (outlet : Outlet) (bytes : Bytes) : Written :=
  match outlet.room with
  | none => ⟨.ok (), bytes, outlet, false⟩
  | some room =>
    let left := { outlet with room := some (room - bytes.length) }
    if bytes.length ≤ room then ⟨.ok (), bytes, left, false⟩
    else ⟨.error outlet.fault, bytes.take room, left, outlet.cancels⟩

end HttpFetch
