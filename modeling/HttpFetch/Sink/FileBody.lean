import HttpFetch.Sink.FileName
/-!
# Bodies in files

Bytes of the body wait until they are flushed. The first flush that has any opens a new file, which
is never one that was there before; later ones write to the same file until it is closed.
-/

namespace HttpFetch

/-- The file of a body. -/
inductive FileBody.Target where
  /-- no file has been opened -/
  | none
  | opened (name : String) (path : Path)
  /-- the file was opened once and takes no more bytes -/
  | closed (name : String)
  deriving Repr, DecidableEq

/-- A body that goes to a file. -/
structure FileBody where
  /-- the directory for the file -/
  dir : String
  /-- the name for the file, unless it is taken -/
  fileName : String
  /-- the bytes that are not in the file yet -/
  pending : Array UInt8 := #[]
  target : FileBody.Target := .none
  deriving DecidableEq

namespace FileBody

/-- A body for an address, to be stored in a directory. -/
def start (url dir : String) : FileBody := { dir, fileName := FileName.ofUrl url }

/-- The text of the path to the file, once it has been opened. -/
def path? (body : FileBody) : Option String :=
  match body.target with
  | .none => Option.none
  | .opened name _ => some (Disk.pathText body.dir name)
  | .closed name => some (Disk.pathText body.dir name)

/-- Takes no more bytes for the file that is open. -/
def close (body : FileBody) : FileBody :=
  match body.target with
  | .opened name _ => { body with target := .closed name }
  | _ => body

/-- Starts over with the name for another address; bytes that wait go on waiting. -/
def retarget (body : FileBody) (url : String) : FileBody :=
  { body with fileName := FileName.ofUrl url, target := .none }

/-- Starts over with the same name and without bytes. -/
def reset (body : FileBody) : FileBody := { body with pending := #[], target := .none }

/-- The name under which a file would be created now. -/
def freeName (body : FileBody) (disk : Disk) : String :=
  FileName.unique (disk.holds body.dir) body.fileName

/-- Writes the bytes that wait to the open file. They go on waiting if that fails. -/
def writePending (body : FileBody) (name : String) (path : Path) (disk : Disk) :
    Except (String × Fault) Unit × FileBody × Disk :=
  match disk.append path body.pending with
  | (.ok (), disk) => (.ok (), { body with pending := #[] }, disk)
  | (.error fault, disk) => (.error (Disk.pathText body.dir name, fault), body, disk)

/-- Moves the bytes that wait to the file, which is opened if none is. A fault comes with the path
of the file. -/
def flush (body : FileBody) (disk : Disk) : Except (String × Fault) Unit × FileBody × Disk :=
  if body.pending.isEmpty then (.ok (), body, disk)
  else match body.target with
    | .opened name path => body.writePending name path disk
    | _ =>
      let name := body.freeName disk
      match disk.create body.dir name with
      | (.ok path, disk) =>
        { body with target := .opened name path }.writePending name path disk
      | (.error fault, disk) => (.error (Disk.pathText body.dir name, fault), body, disk)

end FileBody
end HttpFetch
