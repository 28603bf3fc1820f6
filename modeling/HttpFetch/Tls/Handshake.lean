import HttpFetch.Network.Trace
import HttpFetch.Tls.Certificate
import HttpFetch.Tls.Opening
import HttpFetch.Tls.Trust
/-!
# The TLS handshake

What a handshake comes to, given how the server answers the hello. Keys and ciphers are taken for
granted: a handshake that ends well gives a channel that nobody else can read. Bytes that have come
before the hello went out stand in front of the answer, and can turn any answer into none.
-/

namespace HttpFetch

/-- How a server answers the hello of a handshake. -/
inductive Greeting where
  | certificate (certificate : Certificate)
  /-- it closes the connection -/
  | closes
  /-- its answer cannot be read -/
  | breaks (fault : Fault)
  /-- it sends something that is no record -/
  | garbage
  /-- it refuses the handshake -/
  | alert
  deriving DecidableEq

/-! ## Bytes in front of an answer -/

/-- A fault in an answer, as a read reports it. -/
def Tls.AnswerFault.fault (fault : AnswerFault) : Fault := ⟨.invalidData, fault.message⟩

/-- The description of an alert by which a server refuses a handshake. -/
def Tls.handshakeFailure : Nat := 40

namespace Greeting

/-- A hello of a server that chooses TLS 1.3, and records sealed after it. What is random in it is
left zero. -/
def helloRecords : Bytes :=
  let zeros (n : Nat) : Bytes := List.replicate n 0
  [22, 3, 3, 0, 122, 2, 0, 0, 118, 3, 3] ++ zeros 32 ++ [32] ++ zeros 32 ++
    [0x13, 0x02, 0, 0, 46, 0, 0x2B, 0, 2, 3, 4, 0, 0x33, 0, 36, 0, 0x1D, 0, 32] ++ zeros 32 ++
    [20, 3, 3, 0, 1, 1] ++ [23, 3, 3, 3, 0] ++ zeros 768

/-- The bytes that a server sends before it waits for the client or closes the connection. -/
def bytes : Greeting → Bytes
  | .certificate _ => helloRecords
  | .garbage => Utf8.encode "HTTP/1.0 400 Bad Request\r\n\r\n"
  | .alert => [21, 3, 3, 0, 2, 2, 40]
  | .closes | .breaks _ => []

/-- What follows these bytes, for a client that waits for more. -/
def rest : Greeting → Greeting
  | .certificate _ => .breaks .slow
  | .garbage | .alert | .closes => .closes
  | .breaks fault => .breaks fault

/-- The answer to a hello when the server has sent `early` bytes before it, which are taken for the
start of the answer. If they end where an answer could begin, the answer counts as it is; else what
it begins with completes them. `named` tells whether the client asks for a name. -/
def after (named : Bool) (early : Bytes) (greeting : Greeting) : Greeting :=
  let opening : Tls.Opening := { named }
  match opening.take early with
  | .error fault => .breaks fault.fault
  | .ok opening =>
    if opening.isFresh then greeting
    else match opening.take greeting.bytes with
      | .error fault => .breaks fault.fault
      | .ok _ => greeting.rest

end Greeting

/-! ## Outcomes -/

namespace Handshake

/-- The certificates an inspector is shown, by their distance from the server's own. -/
def inspected (trust : Trust) (c : Certificate) : Trace :=
  match trust.inspector with
  | none => []
  | some .watches => (List.range (c.companions + 1)).map .inspected
  | some .fails => [.inspected 0]

/-- The outcome of showing an answer to a hello, and what happened on the connection. -/
def answer (trust : Trust) (host : String) (name : ServerName) :
    Greeting → Except TransferError Unit × Trace
  | .closes => (.error (.tlsHandshake host ⟨.unexpectedEnd, "unexpected end of file"⟩), [])
  | .breaks fault => (.error (.tlsHandshake host fault), [])
  | .garbage =>
    (.error (.tlsHandshake host (Tls.AnswerFault.corrupt .invalidContentType).fault), [])
  | .alert =>
    (.error (.tlsHandshake host (Tls.AnswerFault.alert Tls.handshakeFailure).fault), [])
  | .certificate c =>
    let seen := inspected trust c
    if trust.inspector = some .fails then (.error .workerPanicked, seen)
    else match c.refusal? trust.roots name with
      | some refusal => (.error (.tlsHandshake host ⟨.invalidData, refusal⟩), seen)
      | none => (.ok (), seen ++ [.secured])

/-- The name to ask for a host by. -/
def serverName (host : String) : Except TransferError ServerName :=
  match ServerName.read? host with
  | some name => .ok name
  | none => .error (.tlsHandshake host ⟨.other, "invalid dns name"⟩)

/-- The handshake with a host: nothing is sent unless the means are in order and the host has a name
to ask for. -/
def run (trust : Trust) (host : String) (greeting : Greeting) : Except TransferError Unit × Trace :=
  match trust.check with
  | .error fault => (.error (.tlsConfig fault), [])
  | .ok () =>
    match serverName host with
    | .error e => (.error e, [])
    | .ok name =>
      let (outcome, seen) := answer trust host name greeting
      (outcome, .hello :: seen)

end Handshake
end HttpFetch
