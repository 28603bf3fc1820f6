import HttpFetch.Text.Ascii
import HttpFetch.Text.Blank
import HttpFetch.Text.Utf8
/-!
# IPv4 addresses

An address is four octets. `readDotted?` reads its one canonical text. `readHost?` reads what a URL
may hold in its place: one to four numbers in base 8, 10 or 16, the last of which fills all octets
that are left, with a dot allowed at the end.
-/

namespace HttpFetch

/-- An IPv4 address. -/
structure Ipv4 where
  a : UInt8
  b : UInt8
  c : UInt8
  d : UInt8
  deriving Repr, DecidableEq, Inhabited

namespace Ipv4

/-- The address of a 32-bit number. -/
def ofNat (n : Nat) : Ipv4 :=
  ⟨(n / 16777216).toUInt8, (n / 65536 % 256).toUInt8, (n / 256 % 256).toUInt8, (n % 256).toUInt8⟩

/-- The four octets in the order they are written. -/
def octets (address : Ipv4) : Bytes := [address.a, address.b, address.c, address.d]

/-- The canonical text: four decimal numbers apart by dots. -/
def text (address : Ipv4) : String :=
  ".".intercalate (address.octets.map fun octet => toString octet.toNat)

/-! ## The canonical text -/

/-- One octet: a decimal number up to 255 without leading zeros. -/
def octet? (cs : List Char) : Option UInt8 :=
  if cs.all Ascii.isDigit ∧ cs ≠ [] ∧ (cs.head? ≠ some '0' ∨ cs.length = 1) ∧ cs.length ≤ 3 then
    match Ascii.valueInBase? 10 cs with
    | some n => if n ≤ 255 then some n.toUInt8 else none
    | none => none
  else none

/-- The address of a canonical text. -/
def readDotted? (cs : List Char) : Option Ipv4 :=
  match Text.splitOn (· = '.') cs with
  | [a, b, c, d] => do return ⟨← octet? a, ← octet? b, ← octet? c, ← octet? d⟩
  | _ => none

/-! ## Numbers in place of a host name -/

/-- One number: `0x` marks base 16, a leading zero base 8. A marker alone is zero. -/
def number? (cs : List Char) : Option Nat :=
  match cs with
  | [] => none
  | '0' :: 'x' :: rest => Ascii.valueInBase? 16 rest
  | '0' :: 'X' :: rest => Ascii.valueInBase? 16 rest
  | '0' :: c :: rest => Ascii.valueInBase? 8 (c :: rest)
  | cs => Ascii.valueInBase? 10 cs

/-- The labels of a name, without the empty one after a dot at the end. -/
def parts (name : List Char) : List (List Char) :=
  let all := Text.splitOn (· = '.') name
  if all.getLast? = some [] then all.dropLast else all

/-- Whether a name has to be read as an address because its last label is a number. -/
def endsInNumber (name : List Char) : Bool :=
  match (parts name).getLast? with
  | some last => (!last.isEmpty && last.all Ascii.isDigit) || (number? last).isSome
  | none => false

/-- The number of an address whose numbers are given in order; the last one fills what is left. -/
def combine? (numbers : List Nat) : Option Nat :=
  match numbers.getLast? with
  | none => none
  | some last =>
    let leading := numbers.dropLast
    let room := Nat.pow 256 (4 - leading.length)
    if leading.length ≤ 3 ∧ last < room ∧ leading.all (· ≤ 255) then
      some ((leading.foldl (fun n octet => n * 256 + octet) 0) * room + last)
    else none

/-- The address that numbers in place of a host name denote. -/
def readHost? (name : List Char) : Option Ipv4 := do
  let numbers ← (parts name).mapM number?
  let n ← combine? numbers
  return ofNat n

end Ipv4
end HttpFetch
