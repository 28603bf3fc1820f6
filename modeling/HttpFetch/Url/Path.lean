import HttpFetch.Text.Blank
import HttpFetch.Text.Percent
/-!
# Paths

A path is the list of its segments. While it is read, `.` stands for the segment's own place and
`..` takes the segment before it back; both may be spelled with escapes. `Path.extend` reads further
segments onto those that are already there.
-/

namespace HttpFetch.Path

/-- Whether a segment stands for its own place. -/
def isDot (segment : List Char) : Bool :=
  segment.map Ascii.lower == ['.'] || segment.map Ascii.lower == "%2e".toList

/-- Whether a segment takes the one before it back. -/
def isDoubleDot (segment : List Char) : Bool :=
  ["..", "%2e%2e", "%2e.", ".%2e"].any fun spelling =>
    segment.map Ascii.lower == spelling.toList

/-- Whether a segment is a letter and a colon or bar, which is the name of a drive. -/
def isDrive : List Char → Bool
  | [c, d] => Ascii.isLetter c && (d == ':' || d == '|')
  | _ => false

/-- Takes the last segment back, unless it names a drive. -/
def up (segments : List (List Char)) : List (List Char) :=
  match segments.getLast? with
  | some last => if isDrive last then segments else segments.dropLast
  | none => []

/-- Reads pieces between slashes onto `segments`. The last piece always leaves a segment, an empty one
if it is a dot or a double dot. -/
def extend (segments : List (List Char)) : List (List Char) → List (List Char)
  | [] => segments
  | [last] =>
    if isDoubleDot last then up segments ++ [[]]
    else if isDot last then segments ++ [[]]
    else segments ++ [last]
  | piece :: pieces =>
    if isDoubleDot piece then extend (up segments) pieces
    else if isDot piece then extend segments pieces
    else extend (segments ++ [piece]) pieces

/-- Whether a character separates segments. -/
def isSlash (c : Char) : Bool := c == '/' || c == '\\'

/-- The pieces of a path as written, escaped where they have to be. -/
def pieces (cs : List Char) : List (List Char) :=
  (Text.splitOn isSlash cs).map (Percent.encode Percent.inPath)

end HttpFetch.Path
