import HttpFetch.Text.Utf8
/-!
# What happens on a connection

A trace tells in order what left this side on one connection, and whether anyone else could read it.
-/

namespace HttpFetch

/-- Something that happens on a connection. -/
inductive Event where
  /-- bytes are sent in the clear -/
  | plain (bytes : Bytes)
  /-- a TLS handshake is begun -/
  | hello
  /-- a certificate is shown to the inspector; 0 is the server's own -/
  | inspected (depth : Nat)
  /-- the handshake has succeeded -/
  | secured
  /-- bytes are sent under TLS -/
  | sealed (bytes : Bytes)
  deriving Repr, DecidableEq

/-- What has happened on a connection. -/
abbrev Trace := List Event

namespace Trace

/-- The bytes that were sent in the clear. -/
def plainBytes (trace : Trace) : Bytes :=
  trace.flatMap fun
    | .plain bytes => bytes
    | _ => []

/-- The bytes that were sent under TLS. -/
def sealedBytes (trace : Trace) : Bytes :=
  trace.flatMap fun
    | .sealed bytes => bytes
    | _ => []

/-- Whether a handshake was begun. -/
def greeted (trace : Trace) : Bool := trace.contains .hello

/-- Whether a handshake succeeded. -/
def isSecured (trace : Trace) : Bool := trace.contains .secured

/-- The certificates that were shown to the inspector. -/
def depths (trace : Trace) : List Nat :=
  trace.filterMap fun
    | .inspected depth => some depth
    | _ => none

end Trace
end HttpFetch
