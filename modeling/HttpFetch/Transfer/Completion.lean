import HttpFetch.Transfer.Basic
/-!
# Completions

However a transfer ends, its sink is closed and a `Completion` is made, which goes to the callback,
if there is one, and to whoever holds the handle.
-/

namespace HttpFetch

/-- The end of a transfer. -/
structure Completion where
  sink : Sink
  /-- why it failed, if it did -/
  error : Option TransferError
  /-- how many redirects were followed -/
  redirects : Nat
  deriving DecidableEq

/-- A completion, and what the transfer leaves behind. -/
structure Finished where
  completion : Completion
  disk : Disk
  traces : List Trace

namespace Transfer

/-- A transfer at its start. -/
def start (settings : Settings) (sink : Sink) (disk : Disk) (cancelled : Bool) : Transfer :=
  { sink, disk, redirects := ⟨settings.maxRedirects, 0⟩, cancelled }

/-- The error of an outcome. -/
def errorOf : Except TransferError Unit → Option TransferError
  | .ok () => none
  | .error e => some e

/-- Closes the sink. A fault in that counts only if nothing else went wrong before. -/
def finish (outcome : Except TransferError Unit) (t : Transfer) : Finished :=
  let (closed, sink, disk) := t.sink.complete t.disk
  ⟨⟨sink, (errorOf outcome).or (errorOf closed), t.redirects.followed⟩, disk, t.traces⟩

end Transfer

/-- Fetches the address in a sink. -/
def fetch (settings : Settings) (template : Template) (network : Network) (sink : Sink) (disk : Disk)
    (cancelled : Bool) : Finished :=
  let (outcome, after) :=
    (Transfer.start settings sink disk cancelled).run settings template network
  Transfer.finish outcome after

namespace Completion

/-- Whether the transfer succeeded. -/
def isSuccess (c : Completion) : Bool := c.error.isNone

/-- The sink of a transfer that succeeded. -/
def toResult (c : Completion) : Except TransferError Sink :=
  match c.error with
  | none => .ok c.sink
  | some e => .error e

/-- The completion of a transfer that never reported its end. -/
def lost (c : Completion) : Completion := { c with error := some .workerPanicked, redirects := 0 }

end Completion

/-- Where callbacks run. -/
inductive Dispatch where
  /-- on the spot, before the end is reported to the handle -/
  | inline
  /-- elsewhere -/
  | queued
  deriving Repr, DecidableEq

/-- What the handle gets: if the callback breaks off on the spot, the end is never reported to it. -/
def Dispatch.atHandle (dispatch : Dispatch) (callbackFails : Bool) (c : Completion) : Completion :=
  if dispatch = .inline ∧ callbackFails then c.lost else c

end HttpFetch
