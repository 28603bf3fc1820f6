import HttpFetch.Text.Blank
import HttpFetch.Text.Decimal
/-!
# Arguments of the command line

What a caller can ask for, and how the text of each value is read.
-/

namespace HttpFetch

/-- Why a command line cannot be followed. -/
inductive UsageFault where
  /-- an option without its value, or with an empty one where that will not do -/
  | invalidValue
  | unknownArgument
  /-- given twice -/
  | argumentConflict
  /-- a value for an option that takes none -/
  | tooManyValues
  /-- no address -/
  | missingRequiredArgument
  /-- a value that cannot be read, and why -/
  | valueValidation (message : String)
  /-- the caller only asks how to call -/
  | displayHelp
  /-- the caller only asks for the version -/
  | displayVersion
  deriving Repr, DecidableEq

/-- Why a value cannot be read, if that is what is wrong. -/
def UsageFault.message : UsageFault → Option String
  | .valueValidation message => some message
  | _ => none

/-- What the caller asks for. -/
structure Arguments where
  url : String := ""
  method : String := "GET"
  headers : List (String × String) := []
  arguments : List (String × String) := []
  data : Option String := none
  user : Option String := none
  proxyUser : Option String := none
  /-- the directory to store the body in -/
  output : Option String := none
  /-- in seconds; zero is no limit -/
  connectTimeout : Nat := 30
  readTimeout : Nat := 300
  maxRedirects : Nat := 5
  json : Bool := false
  verbose : Nat := 0
  quiet : Bool := false
  deriving Repr, DecidableEq

namespace Arguments

/-- The most redirects that can be asked for. -/
def mostRedirects : Nat := 50

/-- Reads a header field, `Name: value`. -/
def readHeader (text : String) : Except UsageFault (String × String) :=
  match Text.cutAt? ':' text.toList with
  | none => .error (.valueValidation ("expected 'Name: value', got '" ++ text ++ "'"))
  | some (name, value) =>
    if (Text.trimChars name).isEmpty then
      .error (.valueValidation ("empty header name in '" ++ text ++ "'"))
    else .ok (String.ofList (Text.trimChars name), String.ofList (Text.trimChars value))

/-- Reads a query argument, `name=value`. -/
def readArgument (text : String) : Except UsageFault (String × String) :=
  match Text.cutAt? '=' text.toList with
  | none => .error (.valueValidation ("expected 'name=value', got '" ++ text ++ "'"))
  | some (name, value) =>
    if name.isEmpty then .error (.valueValidation ("empty argument name in '" ++ text ++ "'"))
    else .ok (String.ofList name, String.ofList value)

/-- Reads a number of seconds. -/
def readSeconds (text : String) : Except UsageFault Nat :=
  match Decimal.readNat Decimal.max64 text.toList with
  | .ok n => .ok n
  | .error fault => .error (.valueValidation fault.message)

/-- Reads a number of redirects. -/
def readRedirects (text : String) : Except UsageFault Nat :=
  match Decimal.readInt Decimal.maxSigned64 text.toList with
  | .error fault => .error (.valueValidation fault.message)
  | .ok n =>
    if 0 ≤ n ∧ n ≤ mostRedirects then .ok n.toNat
    else .error (.valueValidation (toString n ++ " is not in 0..=" ++ toString mostRedirects))

/-- Reads the name of a directory. -/
def readDirectory (text : String) : Except UsageFault String :=
  if text.isEmpty then .error .invalidValue else .ok text

end Arguments
end HttpFetch
