import HttpFetch.CommandLine.Read
/-!
# How to call the program

What the caller is told who asks for it, or whose command line cannot be followed.
-/

namespace HttpFetch

/-- The name and version of the program. -/
def versionLine : String := "anetd 0.1.0"

/-- How a command line looks. -/
def usageLine : String := "Usage: anetd [OPTIONS] <URL>"

/-- What the options do. -/
def optionLines : List String :=
  ["Options:",
    "  -X, --method <METHOD>      request method [default: GET]",
    "  -H, --header <HEADER>      extra header field, 'Name: value' (repeatable)",
    "  -a, --arg <ARGUMENT>       query argument, 'name=value' (repeatable)",
    "  -d, --data <DATA>          request body",
    "  -u, --user <USER>          credentials for the server, 'user:password'",
    "      --proxy-user <USER>    credentials for the proxy, 'user:password'",
    "  -o, --output <DIRECTORY>   store the body in a file of this directory",
    "      --connect-timeout <N>  seconds to wait for a connection, 0 for ever [default: 30]",
    "      --read-timeout <N>     seconds to wait for bytes, 0 for ever [default: 300]",
    "      --max-redirects <N>    redirects to follow, at most 50 [default: 5]",
    "      --json                 print a summary of the response",
    "  -v, --verbose              say more (-vv for most)",
    "  -q, --quiet                say nothing but errors",
    "  -h, --help                 print this",
    "  -V, --version              print the version"]

namespace UsageFault

/-- Whether the caller has only asked for something that is printed. -/
def isQuestion : UsageFault → Bool
  | .displayHelp | .displayVersion => true
  | _ => false

/-- What is wrong, in a few words. -/
def summary : UsageFault → String
  | .invalidValue => "an option lacks its value"
  | .unknownArgument => "unexpected argument"
  | .argumentConflict => "an option is given twice"
  | .tooManyValues => "an option takes no value"
  | .missingRequiredArgument => "the URL is missing"
  | .valueValidation message => "invalid value: " ++ message
  | .displayHelp | .displayVersion => ""

/-- What the caller is told. -/
def answer : UsageFault → List String
  | .displayHelp => ["Fetch a URL over HTTP/1.0 or HTTPS.", "", usageLine, ""] ++ optionLines
  | .displayVersion => [versionLine]
  | fault => ["error: " ++ fault.summary, "", usageLine]

end UsageFault
end HttpFetch
