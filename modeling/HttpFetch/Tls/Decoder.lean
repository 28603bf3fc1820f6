import HttpFetch.Tls.AnswerFault
/-!
# Decoding messages

The parts that handshake messages are made of: numbers of some bytes, parts of a known length, and
blocks that tell their own length first. A decoder names what it has been looking for when bytes run
out.
-/

namespace HttpFetch.Tls

/-- What is decoded from the front of some bytes; the state is the bytes after it. -/
abbrev Decoder (α : Type) : Type := StateT Bytes (Except Corruption) α

namespace Decoder

/-- A number of some bytes. -/
def number (width : Nat) (what : String) : Decoder Nat := fun bytes =>
  if bytes.length < width then .error (.missingData what)
  else .ok (Der.number (bytes.take width), bytes.drop width)

/-- A part of a known length that has a name. -/
def named (size : Nat) (what : String) : Decoder Bytes := fun bytes =>
  if bytes.length < size then .error (.missingData what)
  else .ok (bytes.take size, bytes.drop size)

/-- The name of a number of some bytes that is not named otherwise. -/
def widthName (width : Nat) : String := "u" ++ toString (8 * width)

/-- A part of a length that has been announced. -/
def part (size : Nat) : Decoder Bytes := fun bytes =>
  if bytes.length < size then .error .messageTooShort
  else .ok (bytes.take size, bytes.drop size)

/-- A block: its length as a number of some bytes, and as many bytes. -/
def block (width : Nat) : Decoder Bytes := do
  part (← number width (widthName width))

/-- A block that is not empty. -/
def nonemptyBlock (width : Nat) (fault : Corruption) : Decoder Bytes := do
  let bytes ← block width
  if bytes.isEmpty then throw fault else return bytes

/-- Whether all bytes are used up. -/
def atEnd : Decoder Bool := fun bytes => .ok (bytes.isEmpty, bytes)

/-- All bytes that are left. -/
def others : Decoder Bytes := fun bytes => .ok (bytes, [])

/-- Fails if bytes are left after something that has a name. -/
def finish (what : String) : Decoder Unit := fun bytes =>
  if bytes.isEmpty then .ok ((), bytes) else .error (.trailingData what)

/-- Decodes bytes of which none may be left after something that has a name. -/
def whole (decoder : Decoder α) (what : String) (bytes : Bytes) : Except Corruption α :=
  (do let a ← decoder; finish what; return a : Decoder α).run' bytes

/-- Decodes items one after the other until no bytes are left; there are no more than `fuel`. -/
def each (item : Decoder α) : (fuel : Nat) → Bytes → Except Corruption (List α)
  | 0, _ => .ok []
  | fuel + 1, bytes =>
    if bytes.isEmpty then .ok []
    else match item.run bytes with
      | .error corruption => .error corruption
      | .ok (a, rest) => (each item fuel rest).map (a :: ·)

/-- A block of items, none of which is without bytes. -/
def items (block : Decoder Bytes) (item : Decoder α) : Decoder (List α) := do
  let bytes ← block
  each item bytes.length bytes

end Decoder
end HttpFetch.Tls
