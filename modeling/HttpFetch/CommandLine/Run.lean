import HttpFetch.CommandLine.Usage
import HttpFetch.Text.Json
import HttpFetch.Transfer.Completion
/-!
# Running a command line

What the arguments ask for is fetched, and what came of it is written: the body, or with `--json` a
summary, to the output; the first line of the response and any error to where errors go.
-/

namespace HttpFetch

/-- How much a line of the log matters. -/
inductive Level where
  | error
  | warn
  | info
  | debug
  | trace
  deriving Repr, DecidableEq

/-- The name of a level. -/
def Level.name : Level → String
  | .error => "ERROR"
  | .warn => "WARN"
  | .info => "INFO"
  | .debug => "DEBUG"
  | .trace => "TRACE"

namespace Arguments

/-- A time limit in milliseconds. -/
def limit (seconds : Nat) : Option Nat := if seconds = 0 then none else some (seconds * 1000)

/-- The settings that arguments and variables ask for, of a program that comes with some roots. -/
def settings (a : Arguments) (environment : String → Option String)
    (usualRoots : List Bytes := []) : Settings where
  connectTimeout := limit a.connectTimeout
  readTimeout := limit a.readTimeout
  maxRedirects := a.maxRedirects
  proxies := .ofVariables environment
  trust := { usualRoots }

/-- The request that arguments ask for. -/
def template (a : Arguments) : Template where
  method := a.method
  arguments := a.arguments.foldl (fun fields (name, value) => fields.set name value) .empty
  headers := a.headers.foldl (fun fields (name, value) => fields.set name value) .empty
  body := (a.data.map Utf8.encode).getD []
  httpAuth := a.user.map .ofPair
  proxyAuth := a.proxyUser.map .ofPair

/-- The sink that arguments ask for. -/
def sink (a : Arguments) : Sink :=
  match a.output with
  | some dir => .toFile a.url dir
  | none => .inMemory a.url

/-- The levels that the log shows; a warning is there only if something called for it. -/
def levels (a : Arguments) (warned : Bool) : List Level :=
  if a.quiet then []
  else
    (if warned then [.warn] else []) ++ [.info] ++
      (if 1 ≤ a.verbose then [.debug] else []) ++ (if 2 ≤ a.verbose then [.trace] else [])

end Arguments

namespace Completion

/-- The summary of a completion. -/
def summary (c : Completion) : Text.Json :=
  .object
    [("error", .optional .string (c.error.map TransferError.message)),
      ("redirects", .number c.redirects),
      ("response", .object
        [("body_size", .optional .number c.sink.bodySize),
          ("completed", .bool c.sink.completed),
          ("description", .string c.sink.description),
          ("file_path", .optional .string c.sink.filePath),
          ("headers", .object (c.sink.headers.entries.map fun (name, value) =>
            (name, .string value))),
          ("kind", .string (if c.sink.isFile then "file_backed" else "in_memory")),
          ("progress", .number c.sink.progress),
          ("status", .number c.sink.status.toNat),
          ("url", .string c.sink.url),
          ("version", .string c.sink.version)])]

/-- The lines about a completion that go where errors go. -/
def remarks (c : Completion) : List String :=
  ((c.error.map fun e => "anetd: " ++ e.message).toList) ++
  (if c.sink.status = 0 then []
    else [c.sink.version ++ " " ++ toString c.sink.status.toNat ++ " " ++ c.sink.description]) ++
  ((c.sink.filePath.map fun path =>
    "saved " ++ toString c.sink.progress ++ " bytes to " ++ path).toList)

end Completion

/-- What a command line leaves behind. -/
structure Report where
  exitCode : UInt8
  output : Bytes
  /-- what goes where errors go, the log apart -/
  remarks : Bytes
  levels : List Level
  disk : Disk
  traces : List Trace

/-- Lines as bytes, each with its end. -/
def linesOut (lines : List String) : Bytes := lines.flatMap fun line => Utf8.encode line ++ [10]

/-- Does what arguments ask for. -/
def Arguments.run (a : Arguments) (environment : String → Option String) (network : Network)
    (disk : Disk) (usualRoots : List Bytes := []) : Report :=
  let finished := fetch (a.settings environment usualRoots) a.template network a.sink disk false
  let c := finished.completion
  { exitCode := if c.isSuccess then 0 else 1
    output :=
      if a.json then linesOut [c.summary.render]
      else if c.sink.isFile then []
      else c.sink.buffered
    remarks := if a.json then [] else linesOut c.remarks
    levels := a.levels (!c.isSuccess || Proxies.hasUnreadable environment)
    disk := finished.disk
    traces := finished.traces }

/-- What a command line that cannot be followed leaves behind. -/
def UsageFault.report (fault : UsageFault) (disk : Disk) : Report where
  exitCode := if fault.isQuestion then 0 else 2
  output := if fault.isQuestion then linesOut fault.answer else []
  remarks := if fault.isQuestion then [] else linesOut fault.answer
  levels := []
  disk := disk
  traces := []

/-- Follows a command line, without the name of the program. -/
def CommandLine.run (words : List String) (environment : String → Option String) (network : Network)
    (disk : Disk) (usualRoots : List Bytes := []) : Report :=
  match Arguments.read words with
  | .ok arguments => arguments.run environment network disk usualRoots
  | .error fault => fault.report disk

end HttpFetch
