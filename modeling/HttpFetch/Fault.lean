/-!
# Faults of the operating system

A fault has a kind, by which the program decides what to do, and a text, which it only passes on.
-/

namespace HttpFetch

/-- What kind of fault it is. -/
inductive FaultKind where
  /-- nothing was done; trying again is all there is to do -/
  | interrupted
  /-- the other side ended where more had to come -/
  | unexpectedEnd
  | connectionReset
  | connectionRefused
  /-- nothing came or went in the time allowed -/
  | wouldBlock
  | timedOut
  | invalidData
  | other
  deriving Repr, DecidableEq, Inhabited

/-- A fault and its wording. -/
structure Fault where
  kind : FaultKind
  text : String
  deriving Repr, DecidableEq, Inhabited

namespace Fault

/-- The text of a fault with a number. -/
def numbered (kind : FaultKind) (text : String) (number : Nat) : Fault :=
  ⟨kind, text ++ " (os error " ++ toString number ++ ")"⟩

/-- The file, or a directory on the way to it, is not there. -/
def notFound : Fault := numbered .other "No such file or directory" 2

/-- Something that is no directory stands on the way to the file. -/
def notDirectory : Fault := numbered .other "Not a directory" 20

/-- A directory stands where the file should. -/
def isDirectory : Fault := numbered .other "Is a directory" 21

/-- A name, or the path as a whole, is longer than it may be. -/
def nameTooLong : Fault := numbered .other "File name too long" 36

/-- The path holds the character that ends texts for the operating system. -/
def nulInName : Fault := ⟨.other, "file name contained an unexpected NUL byte"⟩

/-- A read or a write did not end in the time allowed. -/
def slow : Fault := numbered .wouldBlock "Resource temporarily unavailable" 11

/-- Nobody listens at the address. -/
def refused : Fault := numbered .connectionRefused "Connection refused" 111

/-- There is no way to the host. -/
def noRoute : Fault := numbered .other "No route to host" 113

/-- There is no way to the network. -/
def unreachable : Fault := numbered .other "Network is unreachable" 101

/-- The name of a host that nobody knows. -/
def unknownName : Fault :=
  ⟨.other, "failed to lookup address information: Name or service not known"⟩

/-- The name of a host that cannot be looked up now. -/
def lookupFailed : Fault :=
  ⟨.other, "failed to lookup address information: Temporary failure in name resolution"⟩

end Fault
end HttpFetch
