import HttpFetch.Unicode.Composition
/-!
# Composed form

The same visible text can be spelled with composed characters or with letters and combining marks.
`compose` gives the one composed spelling: take characters apart, put the marks after each letter
in the order of their classes, put together what can be. Works on code points.
-/

namespace HttpFetch.Unicode

/-- The combining class; 0 for a character that combines with nothing before it. -/
def combiningClass (n : Nat) : Nat :=
  match combiningClasses.find? n with
  | some e => (e.image n).headD 0
  | none => 0

/-! ## Hangul -/

/-- The first composed Hangul syllable. -/
def hangulBase : Nat := 0xAC00

/-- The parts of a Hangul syllable, in the order they are written. -/
def hangulParts? (n : Nat) : Option (List Nat) :=
  if hangulBase ≤ n ∧ n < hangulBase + 11172 then
    let s := n - hangulBase
    let head := [0x1100 + s / 588, 0x1161 + s % 588 / 28]
    some (if s % 28 = 0 then head else head ++ [0x11A7 + s % 28])
  else none

/-- The syllable that two parts make. -/
def hangulPair? (a b : Nat) : Option Nat :=
  if 0x1100 ≤ a ∧ a < 0x1113 ∧ 0x1161 ≤ b ∧ b < 0x1176 then
    some (hangulBase + ((a - 0x1100) * 21 + (b - 0x1161)) * 28)
  else if hangulBase ≤ a ∧ a < hangulBase + 11172 ∧ (a - hangulBase) % 28 = 0 ∧
      0x11A8 ≤ b ∧ b < 0x11C3 then
    some (a + (b - 0x11A7))
  else none

/-! ## Taking apart and putting together -/

/-- Takes a character apart; no character needs more than `depth` 4. -/
def takeApart : (depth : Nat) → Nat → List Nat
  | 0, n => [n]
  | depth + 1, n =>
    match hangulParts? n with
    | some parts => parts
    | none =>
      match (composites.find? n).map (·.target) with
      | some [a, b] => takeApart depth a ++ takeApart depth b
      | _ => [n]

/-- Puts a code point at the end of a text given in reverse, but before the marks of higher class
that stand there. -/
def insertMark (n : Nat) : List Nat → List Nat
  | [] => [n]
  | m :: before =>
    if combiningClass n ≠ 0 ∧ combiningClass n < combiningClass m then m :: insertMark n before
    else n :: m :: before

/-- The text with the marks after each letter in the order of their classes. -/
def sortMarks (ns : List Nat) : List Nat := (ns.foldl (fun done n => insertMark n done) []).reverse

/-- The character that two others make. -/
def pair? (a b : Nat) : Option Nat :=
  match hangulPair? a b with
  | some n => some n
  | none => (Array.find? (fun e => e.target = [a, b]) composites).map (·.first)

/-- Puts together from a letter on. `marks` are the marks after it that stayed separate, last first;
a mark reaches the letter only past marks of lower class. -/
def putTogether (letter : Nat) (marks : List Nat) : List Nat → List Nat
  | [] => letter :: marks.reverse
  | n :: rest =>
    let blocked := match marks with
      | [] => false
      | m :: _ => decide (combiningClass n ≤ combiningClass m)
    match if blocked then none else pair? letter n with
    | some whole => putTogether whole marks rest
    | none =>
      if combiningClass n = 0 then letter :: (marks.reverse ++ putTogether n [] rest)
      else putTogether letter (n :: marks) rest

/-- The composed spelling of a text. -/
def compose (ns : List Nat) : List Nat :=
  match sortMarks (ns.flatMap (takeApart 4)) with
  | [] => []
  | sorted =>
    let leading := sorted.takeWhile (combiningClass · ≠ 0)
    match sorted.dropWhile (combiningClass · ≠ 0) with
    | [] => leading
    | n :: rest => leading ++ putTogether n [] rest

end HttpFetch.Unicode
