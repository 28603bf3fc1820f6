import HttpFetch.Disk
import HttpFetch.Url.Read
/-!
# File names

The file for a body is named after the last segment of the path of its address. Characters that some
disks or shells give a meaning are replaced, and a name that would not be one of a file gives way to
`index.html`. A name that is taken gets a number.
-/

namespace HttpFetch.FileName

/-- The name where the address yields none. -/
def fallback : String := "index.html"

/-- How many numbers are tried at most. -/
def maxNumber : Nat := 10000

/-- Whether a character may not stand in the name of a file. -/
def isForbidden (c : Char) : Bool :=
  "/\\:*?\"<>|".toList.contains c || Ascii.isControl c

/-- A name with the characters that may not stand in it replaced. -/
def sanitize (cs : List Char) : List Char := cs.map fun c => if isForbidden c then '_' else c

/-- Whether a name denotes no file of its own. -/
def isUnusable (cs : List Char) : Bool := cs == ['.'] || cs == ['.', '.'] || cs.all (· == '_')

/-- The last segment of a path. -/
def lastSegment (cs : List Char) : List Char := (cs.reverse.takeWhile (· ≠ '/')).reverse

/-- The name for a text that ends a path. -/
def ofSegment (cs : List Char) : String :=
  if isUnusable (sanitize cs) then fallback else String.ofList (sanitize cs)

/-- The path of an address, or what stands in its place in a text that is none. -/
def pathOf (text : String) : List Char :=
  match Url.read text with
  | .ok url => url.path.toList
  | .error _ => text.toList.takeWhile fun c => c != '?' && c != '#'

/-- The name of the file for the body of an address. -/
def ofUrl (text : String) : String := ofSegment (lastSegment (pathOf text))

/-- A name with a number. -/
def numbered (name : String) (n : Nat) : String := name ++ "." ++ toString n

/-- The first of `count` numbered names from `n` on that is not taken, else the one after them. -/
def firstFree (taken : String → Bool) (name : String) (n : Nat) : (count : Nat) → String
  | 0 => numbered name n
  | count + 1 =>
    if taken (numbered name n) then firstFree taken name (n + 1) count else numbered name n

/-- The name itself or the first numbered one that is not taken. -/
def unique (taken : String → Bool) (name : String) : String :=
  if taken name then firstFree taken name 1 (maxNumber - 1) else name

end HttpFetch.FileName
