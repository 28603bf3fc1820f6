import HttpFetch.Text.Ascii
import HttpFetch.Tls.Root
/-!
# Why a client gives up on an answer

What a server sends in answer to a hello can be no TLS at all, TLS that makes no sense, or the plain
statement that the server wants none of it. `AnswerFault.message` is the wording of each case.
-/

namespace HttpFetch.Tls

/-! ## Numbers with names -/

/-- The name that a number goes by, or the number itself behind what it is a number of. -/
def nameOf (names : List (Nat × String)) (what : String) (n : Nat) : String :=
  (List.lookup n names).getD (what ++ "(0x" ++ Ascii.hexText n ++ ")")

/-- What records hold. -/
inductive Content where
  | changeCipherSpec
  | alert
  | handshake
  | applicationData
  | heartbeat
  deriving Repr, DecidableEq

/-- The content that a number stands for. -/
def Content.ofNumber? : Nat → Option Content
  | 20 => some .changeCipherSpec
  | 21 => some .alert
  | 22 => some .handshake
  | 23 => some .applicationData
  | 24 => some .heartbeat
  | _ => none

/-- The name of a content. -/
def Content.name : Content → String
  | .changeCipherSpec => "ChangeCipherSpec"
  | .alert => "Alert"
  | .handshake => "Handshake"
  | .applicationData => "ApplicationData"
  | .heartbeat => "Heartbeat"

/-- The name of a kind of handshake message. -/
def messageName : Nat → String :=
  nameOf [(0, "HelloRequest"), (1, "ClientHello"), (2, "ServerHello"), (3, "HelloVerifyRequest"),
    (4, "NewSessionTicket"), (5, "EndOfEarlyData"), (6, "HelloRetryRequest"),
    (8, "EncryptedExtensions"), (11, "Certificate"), (12, "ServerKeyExchange"),
    (13, "CertificateRequest"), (14, "ServerHelloDone"), (15, "CertificateVerify"),
    (16, "ClientKeyExchange"), (20, "Finished"), (21, "CertificateURL"), (22, "CertificateStatus"),
    (24, "KeyUpdate"), (25, "CompressedCertificate"), (254, "MessageHash")] "HandshakeType"

/-- The name of what an alert says. -/
def alertName : Nat → String :=
  nameOf [(0, "CloseNotify"), (10, "UnexpectedMessage"), (20, "BadRecordMac"),
    (21, "DecryptionFailed"), (22, "RecordOverflow"), (30, "DecompressionFailure"),
    (40, "HandshakeFailure"), (41, "NoCertificate"), (42, "BadCertificate"),
    (43, "UnsupportedCertificate"), (44, "CertificateRevoked"), (45, "CertificateExpired"),
    (46, "CertificateUnknown"), (47, "IllegalParameter"), (48, "UnknownCA"), (49, "AccessDenied"),
    (50, "DecodeError"), (51, "DecryptError"), (60, "ExportRestriction"), (70, "ProtocolVersion"),
    (71, "InsufficientSecurity"), (80, "InternalError"), (86, "InappropriateFallback"),
    (90, "UserCanceled"), (100, "NoRenegotiation"), (109, "MissingExtension"),
    (110, "UnsupportedExtension"), (111, "CertificateUnobtainable"), (112, "UnrecognisedName"),
    (113, "BadCertificateStatusResponse"), (114, "BadCertificateHashValue"),
    (115, "UnknownPSKIdentity"), (116, "CertificateRequired"), (120, "NoApplicationProtocol"),
    (121, "EncryptedClientHelloRequired")] "AlertDescription"

/-! ## Faults -/

/-- What makes bytes no message. -/
inductive Corruption where
  | invalidContentType
  | unknownProtocolVersion
  /-- a record without contents that must have some -/
  | invalidEmptyPayload
  /-- a record that is longer than records may be -/
  | messageTooLarge
  /-- a handshake message that is longer than they may be -/
  | handshakePayloadTooLarge
  | certificatePayloadTooLarge
  /-- bytes are missing where something that has a name should be read -/
  | missingData (what : String)
  /-- bytes are left after something that has a name -/
  | trailingData (what : String)
  /-- less bytes follow than a length announces -/
  | messageTooShort
  /-- a message that no one sends -/
  | unexpectedMessage (what : String)
  | invalidCcs
  | unsupportedCompression
  | duplicateExtension (kind : Nat)
  | unknownRetryExtension
  | unknownCertificateExtension
  | emptyList (what : String)
  | emptyValue
  | emptyTicket
  | noSignatureSchemes
  | invalidCertificateStatus
  | missingKeyExchange
  deriving Repr, DecidableEq

/-- The name of a corruption, with its details. -/
def Corruption.name : Corruption → String
  | .invalidContentType => "InvalidContentType"
  | .unknownProtocolVersion => "UnknownProtocolVersion"
  | .invalidEmptyPayload => "InvalidEmptyPayload"
  | .messageTooLarge => "MessageTooLarge"
  | .handshakePayloadTooLarge => "HandshakePayloadTooLarge"
  | .certificatePayloadTooLarge => "CertificatePayloadTooLarge"
  | .missingData what => "MissingData(\"" ++ what ++ "\")"
  | .trailingData what => "TrailingData(\"" ++ what ++ "\")"
  | .messageTooShort => "MessageTooShort"
  | .unexpectedMessage what => "UnexpectedMessage(\"" ++ what ++ "\")"
  | .invalidCcs => "InvalidCcs"
  | .unsupportedCompression => "UnsupportedCompression"
  | .duplicateExtension kind => "DuplicateExtension(" ++ toString kind ++ ")"
  | .unknownRetryExtension => "UnknownHelloRetryRequestExtension"
  | .unknownCertificateExtension => "UnknownCertificateExtension"
  | .emptyList what => "IllegalEmptyList(\"" ++ what ++ "\")"
  | .emptyValue => "IllegalEmptyValue"
  | .emptyTicket => "EmptyTicketValue"
  | .noSignatureSchemes => "NoSignatureSchemes"
  | .invalidCertificateStatus => "InvalidCertificateStatusType"
  | .missingKeyExchange => "MissingKeyExchange"

/-- What a server must not do. -/
inductive Misbehaviour where
  /-- the server speaks an older version, but shows that it knows the newer one -/
  | downgrade
  | tls12ByExtension
  | unofferedCompression
  | unofferedCipherSuite
  /-- the cipher suite belongs to the other version -/
  | unusableCipherSuite
  /-- an extension answers none of the client's -/
  | unsolicitedExtension
  /-- an extension must not be sent in the clear -/
  | cleartextExtension
  | noUncompressedPoints
  | missingKeyShare
  | wrongGroup
  | invalidKeyShare
  /-- a handshake message is unfinished when keys change -/
  | pendingFragment
  /-- a handshake message is unfinished when something else comes -/
  | interleaved
  | tooManyWarnings
  | illegalChangeCipherSpec
  /-- a retry is asked for with a group that the client has tried already -/
  | retryWithOfferedGroup
  | retryWithoutChanges
  /-- a retry is asked for that belongs to no hello of the client's -/
  | retryWithWrongSession
  deriving Repr, DecidableEq

/-- The name of a misbehaviour. -/
def Misbehaviour.name : Misbehaviour → String
  | .downgrade => "AttemptedDowngradeToTls12WhenTls13IsSupported"
  | .tls12ByExtension => "SelectedTls12UsingTls13VersionExtension"
  | .unofferedCompression => "SelectedUnofferedCompression"
  | .unofferedCipherSuite => "SelectedUnofferedCipherSuite"
  | .unusableCipherSuite => "SelectedUnusableCipherSuiteForVersion"
  | .unsolicitedExtension => "UnsolicitedServerHelloExtension"
  | .cleartextExtension => "UnexpectedCleartextExtension"
  | .noUncompressedPoints => "ServerHelloMustOfferUncompressedEcPoints"
  | .missingKeyShare => "MissingKeyShare"
  | .wrongGroup => "WrongGroupForKeyShare"
  | .invalidKeyShare => "InvalidKeyShare"
  | .pendingFragment => "KeyEpochWithPendingFragment"
  | .interleaved => "MessageInterleavedWithHandshakeMessage"
  | .tooManyWarnings => "TooManyWarningAlertsReceived"
  | .illegalChangeCipherSpec => "IllegalMiddleboxChangeCipherSpec"
  | .retryWithOfferedGroup => "IllegalHelloRetryRequestWithOfferedGroup"
  | .retryWithoutChanges => "IllegalHelloRetryRequestWithNoChanges"
  | .retryWithWrongSession => "IllegalHelloRetryRequestWithWrongSessionId"

/-- Why a client gives up on an answer. -/
inductive AnswerFault where
  | corrupt (corruption : Corruption)
  /-- a record holds something other than handshake messages -/
  | unexpectedContent (got : Content)
  /-- a handshake message comes where others are due -/
  | unexpectedMessage (got : Nat) (due : List Nat)
  /-- the server refuses -/
  | alert (description : Nat)
  | misbehaved (misbehaviour : Misbehaviour)
  /-- the server speaks versions that the client does not -/
  | unsupportedVersion
  /-- a record is not sealed with the keys agreed on -/
  | undecryptable
  /-- the server proves nothing by the certificates it presents -/
  | unproven (chain : List Bytes)
  deriving Repr, DecidableEq

/-- The wording of a fault. -/
def AnswerFault.message : AnswerFault → String
  | .corrupt corruption => "received corrupt message of type " ++ corruption.name
  | .unexpectedContent got =>
    "received unexpected message: got " ++ got.name ++ " when expecting Handshake"
  | .unexpectedMessage got due =>
    "received unexpected handshake message: got " ++ messageName got ++ " when expecting " ++
      " or ".intercalate (due.map messageName)
  | .alert description => "received fatal alert: " ++ alertName description
  | .misbehaved misbehaviour => "peer misbehaved: " ++ misbehaviour.name
  | .unsupportedVersion => "peer is incompatible: ServerDoesNotSupportTls12Or13"
  | .undecryptable => "cannot decrypt peer's message"
  | .unproven [] => "peer sent no certificates"
  | .unproven (certificate :: _) =>
    match Root.checkLeaf certificate with
    | .error fault => fault.message
    | .ok () => "invalid peer certificate: UnknownIssuer"

end HttpFetch.Tls
