import HttpFetch.Url.Ipv4
/-!
# IPv6 addresses

An address is eight groups of 16 bits. Its text separates them by colons; one run of zero groups may
be left out between two colons, and the last two groups may be written as an IPv4 address.
-/

namespace HttpFetch

/-- An IPv6 address. -/
structure Ipv6 where
  /-- the groups in the order they are written -/
  groups : List UInt16
  length_eq : groups.length = 8
  deriving DecidableEq

namespace Ipv6

instance : Inhabited Ipv6 := ⟨⟨List.replicate 8 0, rfl⟩⟩

/-! ## Reading -/

/-- One group: one to four hexadecimal digits. -/
def group? (cs : List Char) : Option UInt16 :=
  if cs ≠ [] ∧ cs.length ≤ 4 then (Ascii.valueInBase? 16 cs).map Nat.toUInt16 else none

/-- The groups of the last piece: an IPv4 address stands for two. -/
def lastGroups? (cs : List Char) : Option (List UInt16) :=
  if cs.contains '.' then
    (Ipv4.readDotted? cs).map fun v4 =>
      [(v4.a.toNat * 256 + v4.b.toNat).toUInt16, (v4.c.toNat * 256 + v4.d.toNat).toUInt16]
  else (group? cs).map ([·])

/-- Groups separated by colons, none left out. Only where `atEnd` holds may the last one be an IPv4
address. -/
def groups? (atEnd : Bool) (cs : List Char) : Option (List UInt16) :=
  if cs.isEmpty then some []
  else
    let pieces := Text.splitOn (· = ':') cs
    do
      let leading ← pieces.dropLast.mapM group?
      let last ← if atEnd then lastGroups? (pieces.getLastD []) else
        (group? (pieces.getLastD [])).map ([·])
      return leading ++ last

/-- The text before the first pair of colons and the text after it. -/
def cutAtGap? : List Char → Option (List Char × List Char)
  | ':' :: ':' :: rest => some ([], rest)
  | c :: rest => (cutAtGap? rest).map fun (before, after) => (c :: before, after)
  | [] => none

/-- The address with these groups, if there are eight. -/
def ofGroups? (groups : List UInt16) : Option Ipv6 :=
  if h : groups.length = 8 then some ⟨groups, h⟩ else none

/-- The address that a text, without brackets, denotes. -/
def read? (cs : List Char) : Option Ipv6 :=
  match cutAtGap? cs with
  | none => (groups? true cs).bind ofGroups?
  | some (before, after) => do
    let left ← groups? false before
    let right ← groups? true after
    if left.length + right.length ≤ 7 then
      ofGroups? (left ++ List.replicate (8 - left.length - right.length) 0 ++ right)
    else none

/-! ## Writing -/

/-- How many zero groups a list starts with. -/
def zeroRun (groups : List UInt16) : Nat := (groups.takeWhile (· == 0)).length

/-- Where the longest run of zero groups starts and how long it is; of equal runs the first counts.
`index` is where `groups` stands in the address. -/
def longestRun (index : Nat) : List UInt16 → Nat × Nat
  | [] => (index, 0)
  | g :: rest =>
    let here := zeroRun (g :: rest)
    let later := longestRun (index + 1) rest
    if later.2 ≤ here then (index, here) else later

/-- Groups in hexadecimal, apart by colons. -/
def groupsText (groups : List UInt16) : String :=
  ":".intercalate (groups.map fun g => Ascii.hexText g.toNat)

/-- The address in IPv4 form that the last two groups make, if the groups before them say so. -/
def mapped? (address : Ipv6) : Option Ipv4 :=
  match address.groups with
  | [0, 0, 0, 0, 0, 0xFFFF, high, low] => some (Ipv4.ofNat (high.toNat * 65536 + low.toNat))
  | _ => none

/-- The canonical text: a mapped IPv4 address keeps its dots, and the longest run of two or more zero
groups is left out. -/
def text (address : Ipv6) : String :=
  match address.mapped? with
  | some v4 => "::ffff:" ++ v4.text
  | none =>
    let (start, length) := longestRun 0 address.groups
    if 1 < length then
      groupsText (address.groups.take start) ++ "::" ++
        groupsText (address.groups.drop (start + length))
    else groupsText address.groups

end Ipv6
end HttpFetch
