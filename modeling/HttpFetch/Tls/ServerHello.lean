import HttpFetch.Tls.Decoder
/-!
# What servers answer to a hello

A server chooses among what the client has offered: a version, a cipher suite, a share of the key. Or
it asks for another hello. `ServerHello.judge` says what a choice amounts to, and which fault is found
first in one that the client cannot go along with.
-/

namespace HttpFetch.Tls

/-! ## Extensions -/

/-- The name that the client asks for. -/
def serverName : Nat := 0x0000

/-- A statement on the certificate from those who have issued it. -/
def statusRequest : Nat := 0x0005

/-- The ways in which points of a curve may be written. -/
def pointFormats : Nat := 0x000B

/-- What is to be spoken inside. -/
def protocolName : Nat := 0x0010

/-- The number of a secret that both sides have kept. -/
def sharedSecret : Nat := 0x0029

/-- The versions that a client offers, or the one that a server chooses. -/
def supportedVersions : Nat := 0x002B

/-- A value that a client has to repeat in its next hello. -/
def cookie : Nat := 0x002C

/-- One side's part of the key. -/
def keyShare : Nat := 0x0033

/-- An answer to a promise that clients give by naming a cipher suite. -/
def renegotiation : Nat := 0xFF01

/-- An extension: its kind and its body. -/
abbrev HelloExtension : Type := Nat × Bytes

/-- Decodes extensions after those in `seen`, the last one first. `body` decodes the body of a kind;
`what` is the name of the extensions as a whole; there are no more than `fuel`. -/
def extensionsFrom (body : Nat → Decoder Unit) (what : String) (seen : List HelloExtension) :
    (fuel : Nat) → Bytes → Except Corruption (List HelloExtension)
  | 0, _ => .ok seen.reverse
  | fuel + 1, bytes => do
    if bytes.isEmpty then return seen.reverse
    let (kind, bytes) ← (Decoder.number 2 "ExtensionType").run bytes
    let (contents, bytes) ← (Decoder.block 2).run bytes
    if seen.any (·.1 == kind) then throw (.duplicateExtension kind)
    Decoder.whole (body kind) what contents
    extensionsFrom body what ((kind, contents) :: seen) fuel bytes

/-- A block of extensions. -/
def extensions (body : Nat → Decoder Unit) (what : String) : Decoder (List HelloExtension) := do
  let bytes ← Decoder.block 2
  extensionsFrom body what [] bytes.length bytes

/-- The kinds of extensions that servers send. -/
def serverKinds : List Nat :=
  [serverName, statusRequest, pointFormats, protocolName, sharedSecret, supportedVersions, keyShare,
    renegotiation, 0x0013, 0x0014, 0x0017, 0x0023, 0x002A, 0x0039, 0xFE0D]

/-- Decodes the body of an extension of a server. -/
def serverBody (kind : Nat) : Decoder Unit := do
  if kind = pointFormats then discard (Decoder.nonemptyBlock 1 (.emptyList "ECPointFormats"))
  else if kind = keyShare then
    discard (Decoder.number 2 "NamedGroup")
    discard (Decoder.nonemptyBlock 2 .emptyValue)
  else if kind = supportedVersions then discard (Decoder.number 2 "ProtocolVersion")
  else if kind = renegotiation then discard (Decoder.block 1)
  else if kind = sharedSecret then discard (Decoder.number 2 "u16")
  else if kind = 0x0013 ∨ kind = 0x0014 then discard (Decoder.number 1 "CertificateType")
  else if kind = protocolName then
    let names ← Decoder.nonemptyBlock 2 (.emptyList "ProtocolNames")
    let _ ← Decoder.whole (Decoder.nonemptyBlock 1 .emptyValue) "SingleProtocolName" names
  else if kind = 0xFE0D then discard (Decoder.block 2)
  else if kind = 0x0039 ∨ ¬ serverKinds.contains kind then discard Decoder.others
  else Decoder.finish "Empty"

/-- Extensions as servers send them. -/
def serverExtensions : Decoder (List HelloExtension) := extensions serverBody "ServerExtensions"

/-- Decodes the body of an extension of a retry request, which has no others than these. -/
def retryBody (kind : Nat) : Decoder Unit := do
  if kind = keyShare then discard (Decoder.number 2 "NamedGroup")
  else if kind = cookie then discard (Decoder.nonemptyBlock 2 .emptyValue)
  else if kind = supportedVersions then discard (Decoder.number 2 "ProtocolVersion")
  else if kind = 0xFE0D then discard Decoder.others
  else throw .unknownRetryExtension

/-- The number of a session, of up to 32 bytes. -/
def sessionId : Decoder Bytes := do
  let size ← Decoder.number 1 "u8"
  if 32 < size then throw (.trailingData "SessionID") else Decoder.named size "SessionID"

/-! ## Retries -/

/-- The random bytes that stand for a request to say hello once more. -/
def retryMark : Bytes :=
  [0xCF, 0x21, 0xAD, 0x74, 0xE5, 0x9A, 0x61, 0x11, 0xBE, 0x1D, 0x8C, 0x02, 0x1E, 0x65, 0xB8, 0x91,
    0xC2, 0xA2, 0x11, 0x16, 0x7A, 0xBB, 0x8C, 0x5E, 0x07, 0x9E, 0x09, 0xE2, 0xC8, 0xA8, 0x33, 0x9C]

/-- A request to say hello once more. -/
structure RetryRequest where
  extensions : List HelloExtension
  deriving Repr, DecidableEq

/-- Decodes what follows the random bytes. -/
def RetryRequest.decode : Decoder RetryRequest := do
  discard sessionId
  discard (Decoder.number 2 "CipherSuite")
  let compression ← Decoder.number 1 "Compression"
  if compression ≠ 0 then throw .unsupportedCompression
  return ⟨← Tls.extensions retryBody "HelloRetryRequestExtensions"⟩

/-- The group of the share of the key that clients send with their first hello. -/
def offeredGroup : Nat := 0x001D

/-- Why a request that was sent before the hello has come is not followed: it cannot name the session
of the hello, if nothing else is wrong with it. `aligned` tells whether the request ends where its
records end. -/
def RetryRequest.fault (r : RetryRequest) (aligned : Bool) : Misbehaviour :=
  let group := (List.lookup keyShare r.extensions).map Der.number
  let cookie := List.lookup cookie r.extensions
  if !aligned then .pendingFragment
  else if cookie.isNone ∧ group = some offeredGroup then .retryWithOfferedGroup
  else if cookie.isNone ∧ group.isNone then .retryWithoutChanges
  else .retryWithWrongSession

/-! ## Hellos -/

/-- The choice of a server. -/
structure ServerHello where
  /-- the version where older servers put it -/
  version : Nat
  random : Bytes
  suite : Nat
  compression : Nat
  extensions : List HelloExtension
  deriving Repr, DecidableEq

namespace ServerHello

/-- Decodes what follows the random bytes. -/
def decode (version : Nat) (random : Bytes) : Decoder ServerHello := do
  discard sessionId
  let suite ← Decoder.number 2 "CipherSuite"
  let compression ← Decoder.number 1 "Compression"
  let extensions ← if ← Decoder.atEnd then pure [] else serverExtensions
  Decoder.finish "ServerHelloPayload"
  return { version, random, suite, compression, extensions }

/-- The body of the extension of a kind. -/
def extension? (hello : ServerHello) (kind : Nat) : Option Bytes := List.lookup kind hello.extensions

/-- What a choice amounts to. -/
inductive Agreement where
  /-- TLS 1.2; `stapled` tells whether a statement on the certificate may follow it -/
  | older (stapled : Bool)
  /-- TLS 1.3: from here on records are sealed -/
  | newer
  deriving Repr, DecidableEq

/-- The number of TLS 1.2. -/
def tls12 : Nat := 0x0303

/-- The number of TLS 1.3. -/
def tls13 : Nat := 0x0304

/-- The cipher suites of TLS 1.2 that clients offer. -/
def olderSuites : List Nat := [0xC02B, 0xC02C, 0xC02F, 0xC030, 0xCCA8, 0xCCA9]

/-- The cipher suites of TLS 1.3 that clients offer. -/
def newerSuites : List Nat := [0x1301, 0x1302, 0x1303]

/-- The kinds of extensions that clients send. A name is sent only if it is no address. -/
def offeredKinds (named : Bool) : List Nat :=
  (if named then [serverName] else []) ++
    [statusRequest, 0x000A, pointFormats, 0x000D, 0x0017, 0x0023, supportedVersions, 0x002D, keyShare]

/-- The kinds of extensions that may be sent before records are sealed. -/
def cleartextKinds : List Nat := [keyShare, sharedSecret, supportedVersions]

/-- Whether a hello chooses TLS 1.3. -/
def choosesNewer (hello : ServerHello) : Except AnswerFault Bool :=
  let selected := (hello.extension? supportedVersions).map Der.number
  let chosen := if hello.version = tls12 then selected.getD tls12 else hello.version
  if chosen = tls13 then .ok true
  else if chosen ≠ tls12 then .error .unsupportedVersion
  else if selected.isSome then .error (.misbehaved .tls12ByExtension)
  else .ok false

/-- Random bytes end so if the server knows TLS 1.3 and was made to choose TLS 1.2. -/
def downgradeMark : Bytes := [0x44, 0x4F, 0x57, 0x4E, 0x47, 0x52, 0x44, 0x01]

/-- The first coordinates of the points of small order on the curve of the key shares, modulo its
prime: they make a key that is no secret. -/
def smallOrder : List Nat :=
  [0, 1, Nat.pow 2 255 - 20,
    325606250916557431795983626356110631294008115727848805560023387167927233504,
    39382357235489614581723060781553021112529911719440698176882885853963445705823]

/-- Whether bytes are a share that a key can be made from. -/
def isShare (bytes : Bytes) : Bool :=
  bytes.length == 32 &&
    !smallOrder.contains (Der.number bytes.reverse % Nat.pow 2 255 % (Nat.pow 2 255 - 19))

/-- What a hello that chooses TLS 1.3 amounts to. -/
def judgeNewer (hello : ServerHello) (aligned : Bool) : Except Misbehaviour Agreement :=
  let kinds := hello.extensions.map (·.1)
  if kinds.any fun kind => serverKinds.contains kind && !cleartextKinds.contains kind then
    .error .cleartextExtension
  else match hello.extension? keyShare with
    | none => .error .missingKeyShare
    | some body =>
      if Der.number (body.take 2) ≠ offeredGroup then .error .wrongGroup
      else if !isShare (body.drop 4) then .error .invalidKeyShare
      else if !aligned then .error .pendingFragment
      else .ok .newer

/-- What a hello that chooses TLS 1.2 amounts to. -/
def judgeOlder (hello : ServerHello) : Except Misbehaviour Agreement :=
  if hello.random.drop 24 = downgradeMark then .error .downgrade
  else .ok (.older (hello.extension? statusRequest).isSome)

/-- Whether an extension says that points are never sent uncompressed. -/
def refusesPoints (hello : ServerHello) : Bool :=
  match hello.extension? pointFormats with
  | some body => !(body.drop 1).contains 0
  | none => false

/-- What a hello amounts to. `named` tells whether the client has sent a name, `aligned` whether the
hello ends where its records end. -/
def judge (hello : ServerHello) (named aligned : Bool) : Except AnswerFault Agreement := do
  let newer ← hello.choosesNewer
  let isAnswer (kind : Nat) := (renegotiation :: offeredKinds named).contains kind
  let fault (misbehaviour : Misbehaviour) : Except AnswerFault Agreement :=
    .error (.misbehaved misbehaviour)
  if hello.compression ≠ 0 then fault .unofferedCompression
  else if !hello.extensions.all (isAnswer ·.1) then fault .unsolicitedExtension
  else if hello.refusesPoints then fault .noUncompressedPoints
  else if !(newerSuites ++ olderSuites).contains hello.suite then fault .unofferedCipherSuite
  else if newer != newerSuites.contains hello.suite then fault .unusableCipherSuite
  else (if newer then hello.judgeNewer aligned else hello.judgeOlder).mapError .misbehaved

end ServerHello
end HttpFetch.Tls
