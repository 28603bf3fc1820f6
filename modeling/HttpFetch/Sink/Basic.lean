import HttpFetch.Error
import HttpFetch.Fields
import HttpFetch.Sink.FileBody
import HttpFetch.Text.Record
/-!
# Sinks

A sink is where a response ends up: the parts of its head, and its body in memory or in a file. It
also carries the address that is being fetched, which redirects change.
-/

namespace HttpFetch

/-- Where the bytes of a body are kept. -/
inductive Body where
  | memory (bytes : Array UInt8)
  | file (body : FileBody)
  deriving DecidableEq

/-- A response as far as it has been received. -/
structure Sink where
  /-- the address, which is another one after a redirect -/
  url : String
  version : String := ""
  /-- zero as long as there is none -/
  status : UInt16 := 0
  description : String := ""
  headers : Fields := .empty
  /-- how long the body is to be, once that is known -/
  bodySize : Option Nat := none
  /-- how long the body is -/
  progress : Nat := 0
  body : Body
  /-- whether the transfer has ended -/
  completed : Bool := false
  deriving DecidableEq

namespace Sink

/-- A sink that keeps the body in memory. -/
def inMemory (url : String) : Sink := { url, body := .memory #[] }

/-- A sink that stores the body in a new file of a directory. -/
def toFile (url dir : String) : Sink := { url, body := .file (.start url dir) }

/-! ## Looking at it -/

/-- Whether the body goes to a file. -/
def isFile (sink : Sink) : Bool :=
  match sink.body with
  | .memory _ => false
  | .file _ => true

/-- The bytes of the body that are in memory. -/
def buffered (sink : Sink) : Bytes :=
  match sink.body with
  | .memory bytes => bytes.toList
  | .file body => body.pending.toList

/-- The path of the file, once it has been opened. -/
def filePath (sink : Sink) : Option String :=
  match sink.body with
  | .memory _ => none
  | .file body => body.path?

/-- The name that the file is to have, unless it is taken. -/
def fileName (sink : Sink) : Option String :=
  match sink.body with
  | .memory _ => none
  | .file body => some body.fileName

/-- The value of a header field, by its name in any case. -/
def header? (sink : Sink) (name : String) : Option String := sink.headers.find? name

/-- The diagnostic text. -/
def shown (sink : Sink) : String :=
  Record.opened "ResponseSink"
    [("url", Text.quoted sink.url), ("status", Record.nat sink.status.toNat),
      ("progress", Record.nat sink.progress),
      ("body_size", Record.optional Record.nat sink.bodySize),
      ("kind", if sink.isFile then "FileBacked" else "InMemory")]

/-! ## Filling it -/

/-- Forgets the response; the address stays. -/
def reset (sink : Sink) : Sink :=
  { url := sink.url
    body := match sink.body with
      | .memory _ => .memory #[]
      | .file body => .file body.reset }

/-- Sets the address, and with it the name of a file that is still to be opened. -/
def setUrl (sink : Sink) (url : String) : Sink :=
  { sink with
    url
    body := match sink.body with
      | .memory bytes => .memory bytes
      | .file body => .file (body.retarget url) }

/-- Adds a header field. The first value of a name stays. -/
def addHeader (sink : Sink) (name value : String) : Sink :=
  { sink with headers := sink.headers.add name value }

/-- Adds bytes to the body. -/
def append (sink : Sink) (bytes : Bytes) : Sink :=
  { sink with
    progress := sink.progress + bytes.length
    body := match sink.body with
      | .memory old => .memory (old ++ bytes)
      | .file body => .file { body with pending := body.pending ++ bytes } }

/-- The outcome of storing, as an outcome of the transfer. -/
def stored : Except (String × Fault) Unit → Except TransferError Unit
  | .ok () => .ok ()
  | .error (path, fault) => .error (.sinkIo path fault)

/-- Moves the bytes that wait in memory to the file, if there is one. -/
def flush (sink : Sink) (disk : Disk) : Except TransferError Unit × Sink × Disk :=
  match sink.body with
  | .memory _ => (.ok (), sink, disk)
  | .file body =>
    let (outcome, body, disk) := body.flush disk
    (stored outcome, { sink with body := .file body }, disk)

/-- Ends the transfer: what waits is flushed and the file closed, whether or not that succeeds. Only
the first call does anything. -/
def complete (sink : Sink) (disk : Disk) : Except TransferError Unit × Sink × Disk :=
  if sink.completed then (.ok (), sink, disk)
  else match sink.body with
    | .memory _ => (.ok (), { sink with completed := true }, disk)
    | .file body =>
      let (outcome, body, disk) := body.flush disk
      (stored outcome, { sink with completed := true, body := .file body.close }, disk)

end Sink
end HttpFetch
