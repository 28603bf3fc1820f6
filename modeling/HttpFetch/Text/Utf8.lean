/-!
# Bytes and UTF-8

Everything that travels is a list of bytes; text is written as UTF-8. Reading has two forms:
`decode?` refuses ill-formed bytes, `decodeLossy` puts one replacement character where a
well-formed character breaks off, and one for each byte that can start none.

The decoder is a machine with two states, `idle` and `within`, that looks at one byte at a time.
A byte that cannot continue the character under way ends it as broken and is then looked at again
as the start of the next one, so no byte is ever taken for two purposes.
-/

namespace HttpFetch

/-- What travels over a connection or lands in a file. -/
abbrev Bytes := List UInt8

namespace Utf8

/-! ## Writing -/

/-- The UTF-8 form of one character: one to four bytes. -/
def encodeChar (c : Char) : Bytes :=
  let n := c.toNat
  if n < 0x80 then [n.toUInt8]
  else if n < 0x800 then [(0xC0 + n / 64).toUInt8, (0x80 + n % 64).toUInt8]
  else if n < 0x10000 then
    [(0xE0 + n / 4096).toUInt8, (0x80 + n / 64 % 64).toUInt8, (0x80 + n % 64).toUInt8]
  else
    [(0xF0 + n / 262144).toUInt8, (0x80 + n / 4096 % 64).toUInt8,
      (0x80 + n / 64 % 64).toUInt8, (0x80 + n % 64).toUInt8]

/-- The UTF-8 form of a list of characters. -/
def encodeChars (cs : List Char) : Bytes := cs.flatMap encodeChar

/-- The UTF-8 form of a text. -/
def encode (text : String) : Bytes := encodeChars text.toList

/-! ## Reading -/

/-- Where the decoder stands between two bytes. -/
inductive State where
  /-- between two characters -/
  | idle
  /-- inside a character: `missing + 1` more bytes are needed, `bits` holds those seen so far, and
  the next byte must lie from `low` to `high` -/
  | within (missing bits low high : Nat)
  deriving Repr, DecidableEq

/-- What the first byte `b` of a character settles: the characters it completes (`none` stands for
a broken one) and the state after it. The ranges of the second byte rule out overlong forms,
surrogates and code points past the last. -/
def start (b : UInt8) : List (Option Char) × State :=
  let n := b.toNat
  if n < 0x80 then ([some (Char.ofNat n)], .idle)
  else if n < 0xC2 then ([none], .idle)
  else if n < 0xE0 then ([], .within 0 (n - 0xC0) 0x80 0xBF)
  else if n = 0xE0 then ([], .within 1 0 0xA0 0xBF)
  else if n = 0xED then ([], .within 1 0xD 0x80 0x9F)
  else if n < 0xF0 then ([], .within 1 (n - 0xE0) 0x80 0xBF)
  else if n = 0xF0 then ([], .within 2 0 0x90 0xBF)
  else if n < 0xF4 then ([], .within 2 (n - 0xF0) 0x80 0xBF)
  else if n = 0xF4 then ([], .within 2 4 0x80 0x8F)
  else ([none], .idle)

/-- One byte of the decoder. -/
def step (s : State) (b : UInt8) : List (Option Char) × State :=
  match s with
  | .idle => start b
  | .within missing bits low high =>
    let n := b.toNat
    if low ≤ n ∧ n ≤ high then
      match missing with
      | 0 => ([some (Char.ofNat (bits * 64 + (n - 0x80)))], .idle)
      | missing + 1 => ([], .within missing (bits * 64 + (n - 0x80)) 0x80 0xBF)
    else
      (none :: (start b).1, (start b).2)

/-- Decodes from a state on; a character that the end cuts off is broken. -/
def decodeFrom (s : State) : Bytes → List (Option Char)
  | [] => match s with
    | .idle => []
    | .within .. => [none]
  | b :: rest => (step s b).1 ++ decodeFrom (step s b).2 rest

/-- The text of well-formed bytes. -/
def decode? (bytes : Bytes) : Option String :=
  ((decodeFrom .idle bytes).mapM id).map String.ofList

/-- The character that stands for broken bytes. -/
def replacement : Char := '\uFFFD'

/-- The text of any bytes, with `replacement` for what is ill formed. -/
def decodeLossy (bytes : Bytes) : String :=
  String.ofList ((decodeFrom .idle bytes).map (·.getD replacement))

@[simp] theorem encodeChars_nil : encodeChars [] = [] := rfl

@[simp] theorem encodeChars_cons (c : Char) (cs : List Char) :
    encodeChars (c :: cs) = encodeChar c ++ encodeChars cs := rfl

end Utf8
end HttpFetch
