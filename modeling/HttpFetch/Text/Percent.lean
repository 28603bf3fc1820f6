import HttpFetch.Text.Ascii
import HttpFetch.Text.Utf8
/-!
# Percent-encoding

`encode keep` writes the characters that `keep` allows as they are and every byte of the others as
`%` and two capital hexadecimal digits. `decode` reads such triples back, in either case, and leaves
a `%` that no two digits follow where it is.
-/

namespace HttpFetch.Percent

/-- `%` and two hexadecimal digits. -/
def escape (b : UInt8) : List Char :=
  ['%', Ascii.hexDigit (b.toNat / 16), Ascii.hexDigit (b.toNat % 16)]

/-- One character, as it is or escaped byte by byte. -/
def encodeChar (keep : Char → Bool) (c : Char) : List Char :=
  if keep c then [c] else (Utf8.encodeChar c).flatMap escape

/-- A list of characters with those that `keep` does not allow escaped. -/
def encode (keep : Char → Bool) (cs : List Char) : List Char := cs.flatMap (encodeChar keep)

/-- The value of a byte read as a hexadecimal digit. -/
def hexByte? (b : UInt8) : Option Nat :=
  if b < 128 then Ascii.digitValue? (Char.ofNat b.toNat) else none

/-- Bytes with each `%` and two digits replaced by the byte they denote. -/
def decode : Bytes → Bytes
  | [] => []
  | b :: rest =>
    if b = 0x25 then
      match rest with
      | high :: low :: rest' =>
        match hexByte? high, hexByte? low with
        | some h, some l => (h * 16 + l).toUInt8 :: decode rest'
        | _, _ => b :: decode (high :: low :: rest')
      | short => b :: short
    else b :: decode rest

/-! ## What the parts of a URL keep -/

/-- Printable ASCII without space and the characters listed. -/
def keepsAllBut (excluded : List Char) (c : Char) : Bool :=
  0x20 < c.toNat && c.toNat < 0x7F && !excluded.contains c

/-- The characters a fragment keeps. -/
def inFragment : Char → Bool := keepsAllBut ['"', '<', '>', '`']

/-- The characters the query of a web address keeps. -/
def inQuery : Char → Bool := keepsAllBut ['"', '#', '<', '>', '\'']

/-- The characters a path keeps; the slash separates its segments. -/
def inPath : Char → Bool := keepsAllBut ['"', '<', '>', '`', '#', '?', '\x7b', '\x7d']

/-- The characters a user name or password keeps. -/
def inUserInfo : Char → Bool :=
  keepsAllBut ['"', '<', '>', '`', '#', '?', '\x7b', '\x7d', '/', ':', ';', '=', '@', '[', '\\',
    ']', '^', '|']

end HttpFetch.Percent
