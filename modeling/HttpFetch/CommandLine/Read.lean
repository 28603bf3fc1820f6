import HttpFetch.CommandLine.Arguments
/-!
# Reading a command line

Words are read from the left. A value that stands in a word of its own waits until the next option
that is known, the address, or the end, and only then is it looked at; a word that is unknown is
reported before that.
-/

namespace HttpFetch

/-- Options that take a value, and the address itself. -/
inductive Valued where
  | url
  | method
  | header
  | argument
  | data
  | user
  | proxyUser
  | output
  | connectTimeout
  | readTimeout
  | maxRedirects
  deriving Repr, DecidableEq

/-- Options that take none. -/
inductive Flag where
  | json
  | quiet
  | verbose
  | help
  | version
  deriving Repr, DecidableEq

/-- An option. -/
inductive Switch where
  | valued (option : Valued)
  | flag (flag : Flag)
  deriving Repr, DecidableEq

namespace Switch

/-- The option of a long name. -/
def ofLong? : String → Option Switch
  | "method" => some (.valued .method)
  | "header" => some (.valued .header)
  | "arg" => some (.valued .argument)
  | "data" => some (.valued .data)
  | "user" => some (.valued .user)
  | "proxy-user" => some (.valued .proxyUser)
  | "output" => some (.valued .output)
  | "connect-timeout" => some (.valued .connectTimeout)
  | "read-timeout" => some (.valued .readTimeout)
  | "max-redirects" => some (.valued .maxRedirects)
  | "json" => some (.flag .json)
  | "verbose" => some (.flag .verbose)
  | "quiet" => some (.flag .quiet)
  | "help" => some (.flag .help)
  | "version" => some (.flag .version)
  | _ => none

/-- The option of a letter. -/
def ofLetter? : Char → Option Switch
  | 'X' => some (.valued .method)
  | 'H' => some (.valued .header)
  | 'a' => some (.valued .argument)
  | 'd' => some (.valued .data)
  | 'u' => some (.valued .user)
  | 'o' => some (.valued .output)
  | 'v' => some (.flag .verbose)
  | 'q' => some (.flag .quiet)
  | 'h' => some (.flag .help)
  | 'V' => some (.flag .version)
  | _ => none

end Switch

/-- Whether an option may be given more than once. -/
def Valued.repeats : Valued → Bool
  | .header | .argument => true
  | _ => false

/-- A command line of which some words have been read. -/
structure Scan where
  arguments : Arguments := {}
  /-- the options that have been given -/
  given : List Switch := []
  /-- an option whose value has not been looked at, or has not come -/
  pending : Option (Valued × Option String) := none
  /-- whether the address has come -/
  addressed : Bool := false

namespace Scan

/-- Puts the value of an option in its place. -/
def store (a : Arguments) (option : Valued) (text : String) : Except UsageFault Arguments :=
  match option with
  | .url => .ok { a with url := text }
  | .method => .ok { a with method := text }
  | .header => (Arguments.readHeader text).map fun field => { a with headers := a.headers ++ [field] }
  | .argument =>
    (Arguments.readArgument text).map fun pair => { a with arguments := a.arguments ++ [pair] }
  | .data => .ok { a with data := some text }
  | .user => .ok { a with user := some text }
  | .proxyUser => .ok { a with proxyUser := some text }
  | .output => (Arguments.readDirectory text).map fun dir => { a with output := some dir }
  | .connectTimeout => (Arguments.readSeconds text).map fun n => { a with connectTimeout := n }
  | .readTimeout => (Arguments.readSeconds text).map fun n => { a with readTimeout := n }
  | .maxRedirects => (Arguments.readRedirects text).map fun n => { a with maxRedirects := n }

/-- Takes an option with its value. -/
def accept (s : Scan) (option : Valued) (value : Option String) : Except UsageFault Scan :=
  match value with
  | none => .error .invalidValue
  | some text =>
    if s.given.contains (.valued option) ∧ !option.repeats then .error .argumentConflict
    else (store s.arguments option text).map fun arguments =>
      { s with arguments, given := .valued option :: s.given }

/-- Looks at the value that waits. -/
def settle (s : Scan) : Except UsageFault Scan :=
  match s.pending with
  | none => .ok s
  | some (option, value) => { s with pending := none }.accept option value

/-- Takes an option that has no value, once nothing waits any more. -/
def raise (s : Scan) (flag : Flag) : Except UsageFault Scan :=
  let next := { s with given := .flag flag :: s.given }
  match flag with
  | .help => .error .displayHelp
  | .version => .error .displayVersion
  | .verbose =>
    .ok { next with arguments := { s.arguments with verbose := min 255 (s.arguments.verbose + 1) } }
  | .json =>
    if s.given.contains (.flag .json) then .error .argumentConflict
    else .ok { next with arguments := { s.arguments with json := true } }
  | .quiet =>
    if s.given.contains (.flag .quiet) then .error .argumentConflict
    else .ok { next with arguments := { s.arguments with quiet := true } }

/-- Reads an option that may have its value attached. -/
def readOption (s : Scan) (option : Valued) (value : Option String) : Except UsageFault Scan := do
  let s ← s.settle
  match value with
  | some text => s.accept option (some text)
  | none => return { s with pending := some (option, none) }

/-- Reads a word that starts with two hyphens, from after them on. -/
def readLong (s : Scan) (word : List Char) : Except UsageFault Scan :=
  let (name, value) := match Text.cutAt? '=' word with
    | some (name, value) => (name, some (String.ofList value))
    | none => (word, none)
  match Switch.ofLong? (String.ofList name) with
  | none => .error .unknownArgument
  | some (.valued option) => s.readOption option value
  | some (.flag flag) =>
    if value.isSome then .error .tooManyValues else s.settle.bind fun s => s.raise flag

/-- The value attached to a letter: an equals sign before it does not count. -/
def attached : List Char → Option String
  | [] => none
  | '=' :: rest => some (String.ofList rest)
  | rest => some (String.ofList rest)

/-- Reads a word that starts with one hyphen, from after it on: letters of options up to one that
takes a value. -/
def readLetters (s : Scan) : List Char → Except UsageFault Scan
  | [] => .ok s
  | c :: rest =>
    match Switch.ofLetter? c with
    | none => .error .unknownArgument
    | some (.valued option) => s.readOption option (attached rest)
    | some (.flag flag) =>
      match s.settle.bind fun s => s.raise flag with
      | .ok s => s.readLetters rest
      | .error fault => .error fault

/-- Reads a word that is no option: a value that is waited for, or else the address. -/
def readPlain (s : Scan) (trailing : Bool) (word : String) : Except UsageFault Scan :=
  match trailing, s.pending with
  | false, some (option, none) => .ok { s with pending := some (option, some word) }
  | _, _ =>
    if s.addressed then .error .unknownArgument
    else s.settle.map fun s => { s with pending := some (.url, some word), addressed := true }

/-- Reads one word. -/
def readWord (s : Scan) (word : String) : Except UsageFault Scan :=
  match word.toList with
  | '-' :: '-' :: rest => s.readLong rest
  | '-' :: c :: rest => s.readLetters (c :: rest)
  | _ => s.readPlain false word

/-- Reads words; `--` makes those after it plain. -/
def readWords (s : Scan) (trailing : Bool) : List String → Except UsageFault Scan
  | [] => s.settle
  | word :: rest =>
    if trailing then (s.readPlain true word).bind fun s => s.readWords true rest
    else if word = "--" then s.readWords true rest
    else (s.readWord word).bind fun s => s.readWords false rest

end Scan

/-- Reads a command line, without the name of the program. -/
def Arguments.read (words : List String) : Except UsageFault Arguments :=
  match Scan.readWords {} false words with
  | .error fault => .error fault
  | .ok s => if s.addressed then .ok s.arguments else .error .missingRequiredArgument

end HttpFetch
