import HttpFetch.Fault
import HttpFetch.Text.Blank
import HttpFetch.Text.Utf8
/-!
# The disk

A tree of directories and files, as far as someone who stores a body can tell: files are looked for,
created and written to, each by the text of a directory and a name in it. What the disk is going to
refuse beyond that (no space, no permission) is listed in advance, so every course of events is one
value.
-/

namespace HttpFetch

/-- Something that has a name in a directory. -/
inductive Node where
  | directory
  | file (content : Array UInt8)
  deriving Repr, DecidableEq

/-- The names that lead to a node from the root on. -/
abbrev Path := List String

/-- A disk and what it is going to refuse. -/
structure Disk where
  /-- the nodes below the root -/
  nodes : List (Path × Node) := []
  /-- how the next attempts to create a file end, where they would succeed otherwise -/
  creations : List (Option Fault) := []
  /-- how the next writes end -/
  writes : List (Option Fault) := []
  deriving Inhabited

namespace Disk

/-- The text of the path to a name in a directory. -/
def pathText (dir name : String) : String :=
  if dir.isEmpty ∨ dir.toList.getLast? = some '/' then dir ++ name else dir ++ "/" ++ name

/-- The longest path in bytes. -/
def maxPath : Nat := 4095

/-- Why no path can be looked up by a text, if none can. -/
def textFault? (text : String) : Option Fault :=
  if text.toList.contains '\x00' then some .nulInName
  else if maxPath < (Utf8.encode text).length then some .nameTooLong
  else none

/-- The longest name in bytes. -/
def maxName : Nat := 255

/-- Whether a name is longer than names may be. -/
def isTooLong (name : String) : Bool := maxName < (Utf8.encode name).length

/-- The node that a path leads to. -/
def node? (disk : Disk) : Path → Option Node
  | [] => some .directory
  | path => (disk.nodes.find? (·.1 = path)).map (·.2)

/-- The bytes of the file that a path leads to. -/
def content? (disk : Disk) (path : Path) : Option (Array UInt8) :=
  match disk.node? path with
  | some (.file content) => some content
  | _ => none

/-- Puts a node at the end of a path, in place of the one that is there. -/
def put (disk : Disk) (path : Path) (node : Node) : Disk :=
  if disk.nodes.any (·.1 = path) then
    { disk with nodes := disk.nodes.map fun entry => if entry.1 = path then (path, node) else entry }
  else { disk with nodes := disk.nodes ++ [(path, node)] }

/-! ## Looking up -/

/-- Where one more name leads from a directory. -/
def enter (disk : Disk) (path : Path) (name : String) : Except Fault Path :=
  if name.isEmpty ∨ name = "." then .ok path
  else if name = ".." then .ok path.dropLast
  else if isTooLong name then .error .nameTooLong
  else match disk.node? (path ++ [name]) with
    | some .directory => .ok (path ++ [name])
    | some (.file _) => .error .notDirectory
    | none => .error .notFound

/-- The directory that a text names. -/
def directory? (disk : Disk) (dir : String) : Except Fault Path :=
  ((Text.splitOn (· == '/') dir.toList).map String.ofList).foldlM disk.enter []

/-- The path to a name in a directory, whether or not there is such a node. -/
def locate (disk : Disk) (dir name : String) : Except Fault Path :=
  match textFault? (pathText dir name) with
  | some fault => .error fault
  | none =>
    match disk.directory? dir with
    | .error fault => .error fault
    | .ok path => if isTooLong name then .error .nameTooLong else .ok (path ++ [name])

/-- Whether a directory holds a node of a name. -/
def holds (disk : Disk) (dir name : String) : Bool :=
  match disk.locate dir name with
  | .error _ => false
  | .ok path => (disk.node? path).isSome

/-! ## Changing -/

/-- Creates a file, empty, and gives the path to it. -/
def create (disk : Disk) (dir name : String) : Except Fault Path × Disk :=
  let next : Disk := { disk with creations := disk.creations.tail }
  match disk.creations.head?.join with
  | some fault => (.error fault, next)
  | none =>
    match disk.locate dir name with
    | .error fault => (.error fault, next)
    | .ok path =>
      if disk.node? path = some .directory then (.error .isDirectory, next)
      else (.ok path, next.put path (.file #[]))

/-- Writes to the end of a file. -/
def append (disk : Disk) (path : Path) (bytes : Array UInt8) : Except Fault Unit × Disk :=
  let next : Disk := { disk with writes := disk.writes.tail }
  match disk.writes.head?.join with
  | some fault => (.error fault, next)
  | none => (.ok (), next.put path (.file ((disk.content? path).getD #[] ++ bytes)))

/-- Makes the directories that names lead through from a path on, where they are missing. -/
def addBelow (disk : Disk) (path : Path) : List String → Disk
  | [] => disk
  | name :: rest =>
    let next := path ++ [name]
    (if (disk.node? next).isSome then disk else disk.put next .directory).addBelow next rest

/-- Makes a directory, with those on the way to it. -/
def addDirectory (disk : Disk) (path : Path) : Disk := disk.addBelow [] path

/-- Puts a file on the disk, with the directories on the way to it. -/
def addFile (disk : Disk) (path : Path) (content : Bytes) : Disk :=
  (disk.addDirectory path.dropLast).put path (.file content.toArray)

end Disk
end HttpFetch
