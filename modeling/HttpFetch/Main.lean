import HttpFetch.CommandLine.Run
/-!
# The program

The outer layer: it reads the environment, the directory for the body and standard input, has
`CommandLine.run` do the work, and writes what comes of it. It opens no sockets. What standard input
holds is what the peer of the first connection sends, and further connections are refused.
-/

namespace HttpFetch

/-- A network in which the first connection delivers bytes and no other can be made. -/
def Network.ofBytes (bytes : Bytes) : Network := fun hop host _ =>
  let peer : Peer := { plain := { inbound := if bytes.isEmpty then [] else [⟨false, .ok bytes⟩] } }
  .ok [{ address := host, outcome := if hop = 0 then .ok peer else .error .refused }]

/-- Whether there is something at a path. -/
def isThere (path : String) : IO Bool := do
  try
    let _ ← IO.FS.Handle.mk path .read
    return true
  catch _ => return false

/-- The directory for a body, as far as it matters: whether it is there, and which of the names that
will be tried are taken. -/
def readDisk (a : Arguments) : IO Disk := do
  match a.output with
  | none => return {}
  | some dir =>
    if !(← isThere dir) then return {}
    let path := (Text.splitOn (· == '/') dir.toList).map String.ofList
    let mut disk := Disk.addDirectory {} (path.filter fun name => !name.isEmpty && name != ".")
    let first := FileName.ofUrl a.url
    for n in [0:FileName.maxNumber] do
      let name := if n = 0 then first else FileName.numbered first n
      if !(← isThere (Disk.pathText dir name)) then break
      disk := match disk.locate dir name with
        | .ok path => disk.put path (.file #[])
        | .error _ => disk
    return disk

/-- Writes the file of a body to the directory it belongs to. -/
def writeFiles (a : Arguments) (before after : Disk) : IO Unit := do
  match a.output with
  | none => return
  | some dir =>
    for (path, node) in after.nodes do
      match node, path.getLast? with
      | .file content, some name =>
        if (before.node? path).isNone then
          IO.FS.writeBinFile (Disk.pathText dir name) ⟨content⟩
      | _, _ => pure ()

/-- Follows a command line. -/
def runProgram (words : List String) : IO UInt32 := do
  let mut environment : List (String × String) := []
  for name in ["http_proxy", "HTTP_PROXY", "https_proxy", "HTTPS_PROXY"] do
    if let some value ← IO.getEnv name then environment := (name, value) :: environment
  let arguments := (Arguments.read words).toOption
  let disk ← match arguments with
    | some a => readDisk a
    | none => pure {}
  let input ← match arguments with
    | some _ => (← IO.getStdin).readBinToEnd
    | none => pure .empty
  let report := CommandLine.run words (fun name => List.lookup name environment)
    (.ofBytes input.toList) disk
  if let some a := arguments then writeFiles a disk report.disk
  let error ← IO.getStderr
  error.write ⟨report.remarks.toArray⟩
  let output ← IO.getStdout
  output.write ⟨report.output.toArray⟩
  output.flush
  return report.exitCode.toUInt32

end HttpFetch

/-- The program. -/
def main (words : List String) : IO UInt32 := HttpFetch.runProgram words
