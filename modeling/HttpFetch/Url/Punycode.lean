import HttpFetch.Text.Ascii
/-!
# Punycode

A label beyond ASCII is written with the ASCII characters it contains, a hyphen, and then the other
characters in ascending order as differences: each difference is a number of variable length in
base 36, whose thresholds follow a bias that adapts to the differences seen so far.
-/

namespace HttpFetch.Punycode

/-- The digit for a value below 36: the letters, then the figures. -/
def digit (n : Nat) : Char := if n < 26 then Char.ofNat (97 + n) else Char.ofNat (22 + n)

/-- The value of a digit, in either case. -/
def value? (c : Char) : Option Nat :=
  if 'a' ≤ c ∧ c ≤ 'z' then some (c.toNat - 97)
  else if 'A' ≤ c ∧ c ≤ 'Z' then some (c.toNat - 65)
  else if '0' ≤ c ∧ c ≤ '9' then some (c.toNat - 22)
  else none

/-- The threshold of the digit at position `k`. -/
def threshold (k bias : Nat) : Nat :=
  if k ≤ bias then 1 else if bias + 26 ≤ k then 26 else k - bias

theorem threshold_pos (k bias : Nat) : 0 < threshold k bias := by
  unfold threshold; split
  · omega
  · split <;> omega

theorem threshold_le (k bias : Nat) : threshold k bias ≤ 26 := by
  unfold threshold; split
  · omega
  · split <;> omega

/-- Divides a difference down to the range of the bias, counting the positions. -/
def scale (delta k : Nat) : Nat × Nat :=
  if 455 < delta then scale (delta / 35) (k + 36) else (delta, k)
termination_by delta
decreasing_by omega

/-- The bias after a difference, when `count` characters are placed. -/
def adapt (delta count : Nat) (first : Bool) : Nat :=
  let halved := if first then delta / 700 else delta / 2
  let (small, k) := scale (halved + halved / count) 0
  k + 36 * small / (small + 38)

/-! ## Writing -/

/-- A difference as digits. -/
def encodeNumber (bias k n : Nat) : List Char :=
  let t := threshold k bias
  if n < t then [digit n]
  else digit (t + (n - t) % (36 - t)) :: encodeNumber bias (k + 36) ((n - t) / (36 - t))
termination_by n
decreasing_by
  have := threshold_pos k bias
  have := Nat.div_le_self (n - threshold k bias) (36 - threshold k bias)
  omega

/-- The writer between two characters. -/
structure Writing where
  output : List Char := []
  delta : Nat := 0
  bias : Nat := 72
  /-- how many characters of the label are written -/
  placed : Nat

/-- Passes one character of the label while the characters `n` are being placed. -/
def Writing.pass (plain n : Nat) (w : Writing) (m : Nat) : Writing :=
  if m < n then { w with delta := w.delta + 1 }
  else if m = n then
    { output := w.output ++ encodeNumber w.bias 36 w.delta
      delta := 0
      bias := adapt w.delta (w.placed + 1) (w.placed == plain)
      placed := w.placed + 1 }
  else w

/-- Places the distinct characters beyond ASCII in ascending order; `next` is the first code point
not yet considered. -/
def placeAll (label : List Nat) (plain : Nat) : List Nat → Nat → Writing → Writing
  | [], _, w => w
  | n :: larger, next, w =>
    let w := { w with delta := w.delta + (n - next) * (w.placed + 1) }
    let w := label.foldl (Writing.pass plain n) w
    placeAll label plain larger (n + 1) { w with delta := w.delta + 1 }

/-- Puts a number into an ascending list unless it is there. -/
def insertDistinct (n : Nat) : List Nat → List Nat
  | [] => [n]
  | m :: rest =>
    if n < m then n :: m :: rest else if n = m then m :: rest else m :: insertDistinct n rest

/-- The written form of a label, without its marker in front. -/
def encode (label : List Char) : List Char :=
  let points := label.map Char.toNat
  let plain := label.filter (·.toNat < 0x80)
  let beyond := (points.filter (0x80 ≤ ·)).foldr insertDistinct []
  plain ++ (if plain.isEmpty then [] else ['-']) ++
    (placeAll points plain.length beyond 0x80 { placed := plain.length }).output

/-! ## Reading -/

/-- The largest number the differences may reach. -/
def bound : Nat := 4294967295

/-- Reads one difference onto `i`; gives the sum and what follows. -/
def decodeNumber (bias : Nat) : (k weight i : Nat) → List Char → Option (Nat × List Char)
  | _, _, _, [] => none
  | k, weight, i, c :: rest =>
    match value? c with
    | none => none
    | some d =>
      let i' := i + d * weight
      if bound < i' then none
      else if d < threshold k bias then some (i', rest)
      else
        let weight' := weight * (36 - threshold k bias)
        if bound < weight' then none else decodeNumber bias (k + 36) weight' i' rest

theorem length_of_decodeNumber {bias k weight i : Nat} {cs : List Char} {r : Nat × List Char}
    (h : decodeNumber bias k weight i cs = some r) : r.2.length < cs.length := by
  induction cs generalizing k weight i with
  | nil => simp [decodeNumber] at h
  | cons c rest ih =>
    simp only [decodeNumber] at h
    split at h
    · simp at h
    · split at h
      · simp at h
      · split at h
        · cases h; simp
        · split at h
          · simp at h
          · have := ih h
            simp only [List.length_cons]; omega

/-- Whether a number is a code point that stands for a character. -/
def isCharacter (n : Nat) : Bool := n < 0xD800 || (0xDFFF < n && n < 0x110000)

/-- Places the characters that the differences in `cs` describe among `label`. -/
def decodeRest (label : List Char) (n i bias : Nat) (cs : List Char) : Option (List Char) :=
  match cs with
  | [] => some label
  | c :: rest =>
    match _h : decodeNumber bias 36 1 i (c :: rest) with
    | none => none
    | some (j, cs') =>
      let count := label.length + 1
      let n' := n + j / count
      if isCharacter n' then
        decodeRest (label.insertIdx (j % count) (Char.ofNat n')) n' (j % count + 1)
          (adapt (j - i) count (i == 0)) cs'
      else none
termination_by cs.length
decreasing_by
  have := length_of_decodeNumber _h
  simpa using this

/-- The ASCII characters before the last hyphen and the digits after it; without a hyphen, or with
one at the very front only, everything is digits. -/
def splitLast (cs : List Char) : List Char × List Char :=
  let digits := (cs.reverse.takeWhile (· ≠ '-')).reverse
  if digits.length < cs.length then
    let plain := cs.take (cs.length - digits.length - 1)
    if plain.isEmpty then ([], cs) else (plain, digits)
  else ([], cs)

/-- The label that a written form, without its marker, describes. -/
def decode? (cs : List Char) : Option (List Char) :=
  let (plain, digits) := splitLast cs
  decodeRest (plain.map Ascii.lower) 0x80 0 72 digits

end HttpFetch.Punycode
