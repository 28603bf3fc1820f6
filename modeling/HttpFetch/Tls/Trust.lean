import HttpFetch.Error
import HttpFetch.Text.Record
/-!
# Trust

Whom to trust, and who is shown the certificates that servers present. The roots that come with the
program are data of others and change with every release, so they are a parameter here: any list of
them.
-/

namespace HttpFetch

/-- What someone does who is shown the certificates of a server. -/
inductive Inspector where
  /-- looks at them -/
  | watches
  /-- breaks the transfer off through a fault of its own -/
  | fails
  deriving Repr, DecidableEq

/-- Whom to trust, and who is shown certificates. -/
structure Trust where
  /-- the roots that come with the program, each in DER form -/
  usualRoots : List Bytes := []
  /-- roots to be trusted besides the usual ones, each in DER form -/
  extraRoots : List Bytes := []
  inspector : Option Inspector := none
  deriving DecidableEq

namespace Trust

/-- All roots that are trusted. -/
def roots (trust : Trust) : List Bytes := trust.usualRoots ++ trust.extraRoots

/-- Fails if a root that was added cannot be used; the first one that cannot says why. -/
def check (trust : Trust) : Except TlsFault Unit :=
  match trust.extraRoots.forM Root.check with
  | .ok () => .ok ()
  | .error fault => .error (.root fault)

/-- The diagnostic text. -/
def shown (trust : Trust) : String :=
  Record.closed "TlsSettings"
    [("extra_roots", Record.nat trust.extraRoots.length),
      ("inspector", Record.bool trust.inspector.isSome)]

end Trust
end HttpFetch
