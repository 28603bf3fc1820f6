import HttpFetch.Text.Ascii
/-!
# Reading decimal numbers

A number is one or more ASCII digits after at most one sign. `read` folds over the digits from the
left, so of two faults the one further left is reported; a digit that makes the number too large
counts as a fault at its own place.
-/

namespace HttpFetch.Decimal

/-- Why a text is no number of the wanted range. -/
inductive Fault where
  /-- nothing at all was given -/
  | empty
  /-- a character that is no digit, or a sign alone -/
  | digit
  /-- above the largest number of the range -/
  | tooLarge
  /-- below the smallest number of the range -/
  | tooSmall
  deriving Repr, DecidableEq

/-- The wording of a fault. -/
def Fault.message : Fault → String
  | .empty => "cannot parse integer from empty string"
  | .digit => "invalid digit found in string"
  | .tooLarge => "number too large to fit in target type"
  | .tooSmall => "number too small to fit in target type"

/-- Folds digits onto `n`; a number above `limit` is refused with `excess`. -/
def readDigits (limit : Nat) (excess : Fault) : Nat → List Char → Except Fault Nat
  | n, [] => .ok n
  | n, c :: rest =>
    if Ascii.isDigit c then
      let m := n * 10 + (c.toNat - 48)
      if m ≤ limit then readDigits limit excess m rest else .error excess
    else .error .digit

/-- Digits of which there must be at least one. -/
def readSome (limit : Nat) (excess : Fault) (cs : List Char) : Except Fault Nat :=
  if cs.isEmpty then .error .digit else readDigits limit excess 0 cs

/-- A number from 0 to `limit`; a plus sign in front is allowed. -/
def readNat (limit : Nat) : List Char → Except Fault Nat
  | [] => .error .empty
  | '+' :: rest => readSome limit .tooLarge rest
  | cs => readSome limit .tooLarge cs

/-- A number from `-(limit + 1)` to `limit`; either sign is allowed in front. -/
def readInt (limit : Nat) : List Char → Except Fault Int
  | '-' :: rest => (readSome (limit + 1) .tooSmall rest).map fun n => -(n : Int)
  | cs => (readNat limit cs).map fun n => (n : Int)

/-- The largest number of 16 bits. -/
def max16 : Nat := 65535

/-- The largest number of 64 bits. -/
def max64 : Nat := 18446744073709551615

/-- The largest signed number of 64 bits. -/
def maxSigned64 : Nat := 9223372036854775807

end HttpFetch.Decimal
