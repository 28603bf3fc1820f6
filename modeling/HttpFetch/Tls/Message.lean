import HttpFetch.Tls.ServerHello
/-!
# Handshake messages

A handshake message has one byte for its kind and three for its length; several of them may share a
record, and one may stretch over several. Of most messages a client that has just said hello cares
only whether they are well formed, since then they come at the wrong time.

`length_of_splitOne?` says that a message uses bytes up.
-/

namespace HttpFetch.Tls

/-- A handshake message. -/
inductive Message where
  | serverHello (hello : ServerHello)
  | retryRequest (request : RetryRequest)
  | certificate (chain : List Bytes)
  /-- the server's part of the key, as it was sent -/
  | keyExchange (body : Bytes)
  /-- a request for a certificate of the client -/
  | certificateRequest
  /-- a message of which only the kind matters -/
  | other (kind : Nat)
  deriving Repr, DecidableEq

namespace Message

/-! ## Kinds -/

/-- A choice of the server, or a request to say hello once more. -/
def helloKind : Nat := 2

/-- A request to say hello once more, told apart from a choice. -/
def retryKind : Nat := 6

/-- The chain of certificates. -/
def certificateKind : Nat := 11

/-- The server's part of the key. -/
def keyExchangeKind : Nat := 12

/-- A request for a certificate of the client, of which it has none. -/
def requestKind : Nat := 13

/-- The end of what the server has to say before the client goes on. -/
def helloDoneKind : Nat := 14

/-- A statement on the certificate. -/
def statusKind : Nat := 22

/-- The kind of a message. -/
def kind : Message → Nat
  | .serverHello _ => helloKind
  | .retryRequest _ => retryKind
  | .certificate _ => certificateKind
  | .keyExchange _ => keyExchangeKind
  | .certificateRequest => requestKind
  | .other kind => kind

/-! ## Decoding -/

/-- What servers answer to a hello: a choice, or a request to say hello once more. -/
def answer : Decoder Message := do
  let version ← Decoder.number 2 "ProtocolVersion"
  let random ← Decoder.named 32 "Random"
  if random = retryMark then return .retryRequest (← RetryRequest.decode)
  else return .serverHello (← ServerHello.decode version random)

/-- A hello of a client. -/
def clientHello : Decoder Unit := do
  discard (Decoder.number 2 "ProtocolVersion")
  discard (Decoder.named 32 "Random")
  discard sessionId
  discard (Decoder.items (Decoder.nonemptyBlock 2 (.emptyList "CipherSuites"))
    (Decoder.number 2 "CipherSuite"))
  discard (Decoder.nonemptyBlock 1 (.emptyList "Compressions"))
  if !(← Decoder.atEnd) then discard (Decoder.block 2)
  Decoder.finish "ClientHelloPayload"

/-- The longest chain of certificates in bytes. -/
def maxChain : Nat := 0x10000

/-- A chain of items that hold one certificate each. -/
def chainOf (item : Decoder α) : Decoder (List α) := do
  let size ← Decoder.number 3 "u24"
  if maxChain < size then throw .certificatePayloadTooLarge
  Decoder.items (Decoder.part size) item

/-- A chain of certificates. -/
def chain : Decoder (List Bytes) := chainOf (Decoder.block 3)

/-- Ways to sign. -/
def signatureSchemes : Decoder Unit :=
  discard (Decoder.items (Decoder.nonemptyBlock 2 .noSignatureSchemes)
    (Decoder.number 2 "SignatureScheme"))

/-- Names of those who issue certificates. -/
def issuers : Decoder Unit :=
  discard (Decoder.items (Decoder.block 2) (Decoder.nonemptyBlock 2 .emptyValue))

/-- A request for a certificate: kinds of them, ways to sign, and who may have issued them. -/
def request : Decoder Unit := do
  discard (Decoder.block 1)
  signatureSchemes
  issuers

/-- A way to sign and a signature. -/
def signature : Decoder Unit := do
  discard (Decoder.number 2 "SignatureScheme")
  discard (Decoder.block 2)

/-- A statement on a certificate. -/
def certificateStatus : Decoder Unit := do
  let kind ← Decoder.number 1 "CertificateStatusType"
  if kind = 1 then discard (Decoder.block 3) else throw .invalidCertificateStatus

/-- A certificate with extensions, among which only a statement on it is known. -/
def certificateEntry : Decoder Unit := do
  discard (Decoder.block 3)
  discard (extensions (fun kind =>
    if kind = statusRequest then certificateStatus else throw .unknownCertificateExtension)
    "CertificateExtensions")

/-- A certificate that has been compressed. -/
def compressedCertificate : Decoder Unit := do
  discard (Decoder.number 2 "CertificateCompressionAlgorithm")
  discard (Decoder.number 3 "u24")
  discard (Decoder.block 3)

/-- A ticket to come back with. -/
def ticket : Decoder Unit := do
  discard (Decoder.number 4 "u32")
  discard (Decoder.block 2)

/-! ## The forms of TLS 1.3 -/

/-- A chain of certificates with extensions. -/
def newerChain : Decoder Unit := do
  discard (Decoder.block 1)
  discard (chainOf certificateEntry)

/-- Decodes the body of an extension of a request for a certificate. -/
def requestBody (kind : Nat) : Decoder Unit := do
  if kind = 0x000D then signatureSchemes
  else if kind = 0x002F then issuers
  else if kind = 0x001B then
    discard (Decoder.items (Decoder.nonemptyBlock 1 (.emptyList "CertificateCompressionAlgorithms"))
      (Decoder.number 2 "CertificateCompressionAlgorithm"))
  else discard Decoder.others

/-- A request for a certificate. -/
def newerRequest : Decoder Unit := do
  discard (Decoder.block 1)
  discard (extensions requestBody "CertificateRequestExtensions")

/-- A ticket to come back with. -/
def newerTicket : Decoder Unit := do
  discard (Decoder.number 4 "u32")
  discard (Decoder.number 4 "u32")
  discard (Decoder.block 1)
  discard (Decoder.nonemptyBlock 2 .emptyTicket)
  discard (extensions (fun kind =>
    if kind = 0x002A then discard (Decoder.number 4 "u32") else discard Decoder.others)
    "NewSessionTicketExtensions")

/-! ## Bodies -/

/-- The body of a message of a kind of which only the kind matters. -/
def otherBody : Nat → Decoder Unit
  | 1 => clientHello
  | 4 => ticket
  | 5 => Decoder.finish "EndOfEarlyData"
  | 6 => throw (.unexpectedMessage "HelloRetryRequest")
  | 8 => discard serverExtensions
  | 14 => Decoder.finish "ServerHelloDone"
  | 15 => signature
  | 22 => certificateStatus
  | 24 => discard (Decoder.number 1 "KeyUpdateRequest")
  | 25 => compressedCertificate
  | 254 => throw (.unexpectedMessage "MessageHash")
  | _ => discard Decoder.others

/-- The body of a message of a kind, in the form of TLS 1.3 where it differs. -/
def newerBody? (kind : Nat) : Option (Decoder Unit) :=
  if kind = 4 then some newerTicket
  else if kind = certificateKind then some newerChain
  else if kind = requestKind then some newerRequest
  else none

/-- Decodes the body of a message of a kind. `newer` tells whether it is in the form of TLS 1.3, which
a client does not use before records are sealed. -/
def decode (newer : Bool) (kind : Nat) (body : Bytes) : Except Corruption Message :=
  let decoder : Decoder Message :=
    match if newer then newerBody? kind else none with
    | some decoder => do decoder; return .other kind
    | none =>
      if kind = helloKind then answer
      else if kind = certificateKind then .certificate <$> chain
      else if kind = keyExchangeKind then .keyExchange <$> Decoder.others
      else if kind = requestKind then do request; return .certificateRequest
      else do otherBody kind; return .other kind
  Decoder.whole decoder "HandshakeMessagePayload" body

/-- Whether bytes are the server's part of a key on a named curve, with a signature. -/
def isKeyPart (body : Bytes) : Bool :=
  let decoder : Decoder Nat := do
    let curve ← Decoder.number 1 "ECCurveType"
    discard (Decoder.number 2 "NamedGroup")
    discard (Decoder.block 1)
    signature
    return curve
  match Decoder.whole decoder "EcdheServerKeyExchange" body with
  | .ok curve => curve == 3
  | .error _ => false

/-! ## Splitting -/

/-- The longest message. -/
def limit : Nat := 0xFFFF

/-- The kind and the body of the first message and the bytes after it, or nothing if it is not all
there. -/
def splitOne? (bytes : Bytes) : Except Corruption (Option ((Nat × Bytes) × Bytes)) :=
  match bytes with
  | kind :: rest =>
    if rest.length < 3 then .ok none
    else
      let size := Der.number (rest.take 3)
      let rest := rest.drop 3
      if limit < size then .error .handshakePayloadTooLarge
      else if rest.length < size then .ok none
      else .ok (some ((kind.toNat, rest.take size), rest.drop size))
  | [] => .ok none

theorem length_of_splitOne? {bytes rest : Bytes} {message : Nat × Bytes}
    (h : splitOne? bytes = .ok (some (message, rest))) : rest.length < bytes.length := by
  cases bytes with
  | nil => simp [splitOne?] at h
  | cons kind bytes =>
    simp only [splitOne?] at h
    repeat' split at h
    all_goals simp only [Except.ok.injEq, Option.some.injEq, Prod.mk.injEq, reduceCtorEq] at h
    obtain ⟨-, rfl⟩ := h
    rw [List.length_drop, List.length_drop, List.length_cons]
    omega

/-- The messages that are all there, and the bytes of one that is not. -/
def split (bytes : Bytes) : Except Corruption (List (Nat × Bytes) × Bytes) :=
  match _h : splitOne? bytes with
  | .error corruption => .error corruption
  | .ok none => .ok ([], bytes)
  | .ok (some (message, rest)) =>
    (split rest).map fun (messages, fragment) => (message :: messages, fragment)
termination_by bytes.length
decreasing_by exact length_of_splitOne? _h

end Message
end HttpFetch.Tls
