import HttpFetch.Tls.Message
import HttpFetch.Tls.Record
/-!
# The opening of a handshake

What a client that has said hello makes of the bytes that come, before any certificate is proved. An
`Opening` is what it knows by then: the stage of the handshake, and what waits to be completed. Alerts
that only warn change nothing but a count.

`Opening.take` reads the records that are complete and stops at the first fault.
-/

namespace HttpFetch.Tls

/-- The stage of a handshake. -/
inductive Stage where
  /-- no answer to the hello has come -/
  | hello
  /-- TLS 1.2 is agreed on; `stapled` tells whether a statement on the certificate may follow it -/
  | certificate (stapled : Bool)
  | keyExchange (chain : List Bytes) (stapled : Bool)
  /-- the server may still ask for a certificate, unless it has asked already -/
  | helloDone (chain : List Bytes) (asked : Bool)
  /-- TLS 1.3 is agreed on, and records are sealed -/
  | sealed
  deriving Repr, DecidableEq

/-- The kinds of messages that are due. -/
def Stage.due : Stage → List Nat
  | .hello => [Message.helloKind, Message.retryKind]
  | .certificate _ => [Message.certificateKind]
  | .keyExchange _ stapled =>
    Message.keyExchangeKind :: if stapled then [Message.statusKind] else []
  | .helloDone _ _ => [Message.helloDoneKind]
  | .sealed => []

/-- The stage after a message. `named` tells whether the client has sent a name, `aligned` whether
the message ends where its records end. -/
def Stage.after (named aligned : Bool) (stage : Stage) (message : Message) :
    Except AnswerFault Stage :=
  match stage, message with
  | .hello, .serverHello chosen =>
    (chosen.judge named aligned).map fun
      | .older stapled => .certificate stapled
      | .newer => .sealed
  | .hello, .retryRequest request => .error (.misbehaved (request.fault aligned))
  | .certificate stapled, .certificate chain => .ok (.keyExchange chain stapled)
  | .keyExchange chain _, .keyExchange body =>
    if Message.isKeyPart body then .ok (.helloDone chain false)
    else .error (.corrupt .missingKeyExchange)
  | .keyExchange chain true, .other kind =>
    if kind = Message.statusKind then .ok (.keyExchange chain false)
    else .error (.unexpectedMessage kind stage.due)
  | .helloDone chain false, .certificateRequest => .ok (.helloDone chain true)
  | .helloDone chain _, .other kind =>
    if kind ≠ Message.helloDoneKind then .error (.unexpectedMessage kind stage.due)
    else if !aligned then .error (.misbehaved .pendingFragment)
    else .error (.unproven chain)
  | .sealed, _ => .error (.misbehaved .pendingFragment)
  | stage, message => .error (.unexpectedMessage message.kind stage.due)

/-- What a client knows that has said hello. -/
structure Opening where
  /-- whether it has sent a name -/
  named : Bool
  stage : Stage := .hello
  /-- the start of a record -/
  unread : Bytes := []
  /-- the start of a handshake message -/
  fragment : Bytes := []
  /-- whether it is in the form of TLS 1.3, as the first of its records says -/
  newer : Bool := false
  /-- how many alerts have warned -/
  warnings : Nat := 0
  /-- how many records have announced a change of keys that is none -/
  changes : Nat := 0
  deriving Repr, DecidableEq

namespace Opening

/-- Whether whatever comes next is read as if nothing had come. -/
def isFresh (o : Opening) : Bool := o.stage == .hello && o.unread.isEmpty && o.fragment.isEmpty

/-- How many warnings are put up with. -/
def maxWarnings : Nat := 4

/-- How many announced changes of keys are put up with. -/
def maxChanges : Nat := 2

/-- The number of the alert by which someone at the other end gives up. -/
def userCanceled : Nat := 90

/-- Takes an alert: a level, which is 1 for a warning and 2 for the end, and a description. Once
records are sealed no warning counts as one but that someone gives up. -/
def takeAlert (o : Opening) (payload : Bytes) : Except AnswerFault Opening := do
  let decoder : Decoder (Nat × Nat) := do
    return (← Decoder.number 1 "AlertLevel", ← Decoder.number 1 "AlertDescription")
  let (level, description) ←
    (Decoder.whole decoder "AlertMessagePayload" payload).mapError AnswerFault.corrupt
  if level ≠ 1 then throw (.alert description)
  else if maxWarnings ≤ o.warnings then throw (.misbehaved .tooManyWarnings)
  else if o.stage = .sealed ∧ description ≠ userCanceled then throw (.alert description)
  else return { o with warnings := o.warnings + 1 }

/-- Takes the handshake messages of a record, after the fragment of the one before. -/
def takeMessages (o : Opening) (record : Record) : Except AnswerFault Opening := do
  let newer := if o.fragment.isEmpty then record.newer else o.newer
  let (messages, fragment) ←
    (Message.split (o.fragment ++ record.payload)).mapError AnswerFault.corrupt
  let stage ← messages.foldlM (fun stage (kind, body) => do
    let message ← (Message.decode newer kind body).mapError AnswerFault.corrupt
    stage.after o.named fragment.isEmpty message) o.stage
  return { o with stage, fragment, newer }

/-- Takes a record in the clear. -/
def takeClear (o : Opening) (record : Record) : Except AnswerFault Opening :=
  if record.content = .handshake then o.takeMessages record
  else if !o.fragment.isEmpty then .error (.misbehaved .interleaved)
  else match record.content with
    | .alert => o.takeAlert record.payload
    | .changeCipherSpec =>
      match record.payload with
      | [1] => .error (.unexpectedContent .changeCipherSpec)
      | 1 :: _ => .error (.corrupt (.trailingData "ChangeCipherSpecPayload"))
      | _ => .error (.corrupt .invalidCcs)
    | .heartbeat => .error (.corrupt .invalidContentType)
    | content => .error (.unexpectedContent content)

/-- Takes a record that should be sealed. Nobody has the keys for that who has not seen the hello, and
only short alerts and announced changes of keys may be in the clear. -/
def takeSealed (o : Opening) (record : Record) : Except AnswerFault Opening :=
  match record.content with
  | .changeCipherSpec =>
    if record.payload ≠ [1] ∨ maxChanges ≤ o.changes then
      .error (.misbehaved .illegalChangeCipherSpec)
    else .ok { o with changes := o.changes + 1 }
  | .alert => if record.payload.length ≤ 2 then o.takeAlert record.payload else .error .undecryptable
  | _ => .error .undecryptable

/-- Takes a record. -/
def takeRecord (o : Opening) (record : Record) : Except AnswerFault Opening :=
  if o.stage = .sealed then o.takeSealed record else o.takeClear record

/-- Takes the records at the front of bytes; the start of one that is not all there is kept. -/
def takeRecords (o : Opening) (bytes : Bytes) : Except AnswerFault Opening :=
  match _h : Record.read? bytes with
  | .error corruption => .error (.corrupt corruption)
  | .ok none => .ok { o with unread := bytes }
  | .ok (some (record, rest)) =>
    match o.takeRecord record with
    | .error fault => .error fault
    | .ok next => takeRecords next rest
termination_by bytes.length
decreasing_by exact Record.length_of_read? _h

/-- Takes bytes after those that wait. -/
def take (o : Opening) (bytes : Bytes) : Except AnswerFault Opening :=
  o.takeRecords (o.unread ++ bytes)

end Opening
end HttpFetch.Tls
