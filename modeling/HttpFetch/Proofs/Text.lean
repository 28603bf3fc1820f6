import HttpFetch.Text.Blank
import HttpFetch.Text.Decimal
import HttpFetch.Text.Utf8
import Mathlib.Tactic.SplitIfs
/-!
# Text that is written and read again

What `Utf8.encode` writes, `Utf8.decodeLossy` reads (`Utf8.decodeLossy_encode`), and none of its
bytes is an ASCII character that the text does not have (`Utf8.ne_of_mem_encode`). Texts are in the
order of their bytes (`Utf8.encode_lt`). What is written of a number in decimal, `Decimal.readNat`
reads (`Decimal.readNat_toString`), and trimming leaves it alone (`Text.trim_toString`).
-/

namespace HttpFetch
namespace Utf8

/-! ## Characters -/

theorem toNat_toUInt8 {n : Nat} (small : n < 256) : n.toUInt8.toNat = n := by
  rw [Nat.toUInt8_eq, UInt8.toNat_ofNat', Nat.mod_eq_of_lt small]

/-- The first of two bytes. -/
theorem start_two : ∀ k < 32, 2 ≤ k → start (0xC0 + k).toUInt8 = ([], .within 0 k 0x80 0xBF) := by
  decide

/-- The first of three bytes. -/
theorem start_three : ∀ k < 16, start (0xE0 + k).toUInt8 =
    ([], .within 1 k (if k = 0 then 0xA0 else 0x80) (if k = 0xD then 0x9F else 0xBF)) := by
  decide

/-- The first of four bytes. -/
theorem start_four : ∀ k < 5, start (0xF0 + k).toUInt8 =
    ([], .within 2 k (if k = 0 then 0x90 else 0x80) (if k = 4 then 0x8F else 0xBF)) := by
  decide

/-- A byte inside a character adds six bits. -/
theorem decodeFrom_tail {k missing bits low high : Nat} (fits : low ≤ 0x80 + k ∧ 0x80 + k ≤ high)
    (small : k < 64) (rest : Bytes) :
    decodeFrom (.within (missing + 1) bits low high) ((0x80 + k).toUInt8 :: rest) =
      decodeFrom (.within missing (bits * 64 + k) 0x80 0xBF) rest := by
  have byte : (0x80 + k).toUInt8.toNat = 0x80 + k := toNat_toUInt8 (by omega)
  simp only [decodeFrom, step, byte, if_pos fits, List.nil_append, Nat.add_sub_cancel_left]

/-- The last byte of a character completes it. -/
theorem decodeFrom_last {k bits low high : Nat} (fits : low ≤ 0x80 + k ∧ 0x80 + k ≤ high)
    (small : k < 64) (rest : Bytes) :
    decodeFrom (.within 0 bits low high) ((0x80 + k).toUInt8 :: rest) =
      some (Char.ofNat (bits * 64 + k)) :: decodeFrom .idle rest := by
  have byte : (0x80 + k).toUInt8.toNat = 0x80 + k := toNat_toUInt8 (by omega)
  simp only [decodeFrom, step, byte, if_pos fits, List.cons_append, List.nil_append,
    Nat.add_sub_cancel_left]

/-- The bytes of a character are read as the character, whatever follows. There is one case for
each length; the second of three or four bytes lies within its narrower bounds because no shorter
form would do and `c` is no surrogate. -/
theorem decodeFrom_encodeChar (c : Char) (rest : Bytes) :
    decodeFrom .idle (encodeChar c ++ rest) = some c :: decodeFrom .idle rest := by
  have valid : c.toNat < 0xD800 ∨ 0xDFFF < c.toNat ∧ c.toNat < 0x110000 := c.valid
  have same : Char.ofNat c.toNat = c := Char.ofNat_toNat c
  rw [encodeChar]
  generalize c.toNat = n at *
  split_ifs with one two three
  · have byte : n.toUInt8.toNat = n := toNat_toUInt8 (by omega)
    simp only [List.cons_append, List.nil_append, decodeFrom, step, start, byte, if_pos one, same]
  · have bits : n / 64 * 64 + n % 64 = n := by omega
    simp only [List.cons_append, List.nil_append]
    rw [decodeFrom, step, start_two (n / 64) (by omega) (by omega), List.nil_append,
      decodeFrom_last (by omega) (by omega), bits, same]
  · have bits : (n / 4096 * 64 + n / 64 % 64) * 64 + n % 64 = n := by omega
    simp only [List.cons_append, List.nil_append]
    rw [decodeFrom, step, start_three (n / 4096) (by omega), List.nil_append,
      decodeFrom_tail (by split_ifs <;> omega) (by omega), decodeFrom_last (by omega) (by omega),
      bits, same]
  · have bits : ((n / 262144 * 64 + n / 4096 % 64) * 64 + n / 64 % 64) * 64 + n % 64 = n := by
      omega
    simp only [List.cons_append, List.nil_append]
    rw [decodeFrom, step, start_four (n / 262144) (by omega), List.nil_append,
      decodeFrom_tail (by split_ifs <;> omega) (by omega),
      decodeFrom_tail (by omega) (by omega), decodeFrom_last (by omega) (by omega), bits, same]

/-- Characters that are written are read one by one. -/
theorem decodeFrom_encodeChars (cs : List Char) :
    decodeFrom .idle (encodeChars cs) = cs.map some := by
  induction cs with
  | nil => rfl
  | cons c rest ih => rw [encodeChars_cons, decodeFrom_encodeChar, ih, List.map_cons]

/-- Text that is written is read as it was. -/
theorem decodeLossy_encode (text : String) : decodeLossy (encode text) = text := by
  rw [decodeLossy, encode, decodeFrom_encodeChars, List.map_map]
  simp [Function.comp_def]

/-- Only the empty text has no bytes. -/
theorem eq_empty_of_encode {text : String} (h : encode text = []) : text = "" := by
  rw [← decodeLossy_encode text, h]
  rfl

/-- A byte of a character is its ASCII code, or no ASCII code at all. -/
theorem mem_encodeChar {c : Char} {b : UInt8} (h : b ∈ encodeChar c) :
    b.toNat = c.toNat ∨ 0x80 ≤ b.toNat := by
  have valid : c.toNat < 0xD800 ∨ 0xDFFF < c.toNat ∧ c.toNat < 0x110000 := c.valid
  have high {k : Nat} (large : 0x80 ≤ k) (small : k < 256) : 0x80 ≤ k.toUInt8.toNat := by
    rw [toNat_toUInt8 small]
    exact large
  rw [encodeChar] at h
  generalize c.toNat = n at *
  split_ifs at h with one two three <;>
    simp only [List.mem_cons, List.not_mem_nil, or_false] at h
  · rw [h, toNat_toUInt8 (by omega)]
    exact .inl rfl
  · rcases h with rfl | rfl <;> exact .inr (high (by omega) (by omega))
  · rcases h with rfl | rfl | rfl <;> exact .inr (high (by omega) (by omega))
  · rcases h with rfl | rfl | rfl | rfl <;> exact .inr (high (by omega) (by omega))

/-- An ASCII character that a text does not have is none of its bytes. -/
theorem ne_of_mem_encode {text : String} {c : Char} {b : UInt8} (ascii : c.toNat < 0x80)
    (absent : ∀ d ∈ text.toList, d ≠ c) (h : b ∈ encode text) : b ≠ c.toNat.toUInt8 := by
  rintro rfl
  obtain ⟨d, hd, hb⟩ := List.mem_flatMap.1 h
  have code : c.toNat.toUInt8.toNat = c.toNat := toNat_toUInt8 (by omega)
  rcases mem_encodeChar hb with same | large
  · rw [code] at same
    exact absent d hd (Char.toNat_inj.1 same.symm)
  · omega

/-! ### The order of the bytes -/

theorem toUInt8_lt {a b : Nat} (less : a < b) (small : b < 256) : a.toUInt8 < b.toUInt8 := by
  rw [UInt8.lt_iff_toNat_lt, toNat_toUInt8 small, toNat_toUInt8 (by omega)]
  exact less

/-- Of two bytes that differ the first ones decide. -/
theorem lt_of_first {a b : Nat} {x y : Bytes} (less : a < b) (small : b < 256) :
    a.toUInt8 :: x < b.toUInt8 :: y :=
  List.cons_lt_cons_iff.2 (.inl (toUInt8_lt less small))

/-- Where they may be the same, the later ones have to decide. -/
theorem lt_of_later {a b : Nat} {x y : Bytes} (small : b < 256) (le : a ≤ b) (less : a = b → x < y) :
    a.toUInt8 :: x < b.toUInt8 :: y := by
  rcases Nat.lt_or_eq_of_le le with lt | rfl
  · exact lt_of_first lt small
  · exact List.cons_lt_cons_iff.2 (.inr ⟨rfl, less rfl⟩)

/-- A character that comes first has bytes that come first, whatever follows: either the first
byte tells the lengths apart, or the lengths are the same and the bits decide. -/
theorem encodeChar_lt {c d : Char} (less : c < d) (x y : Bytes) :
    encodeChar c ++ x < encodeChar d ++ y := by
  have codes : c.toNat < d.toNat := less
  have valid : d.toNat < 0x110000 := by
    have := d.valid
    rcases this with h | h
    · exact Nat.lt_trans h (by decide)
    · exact h.2
  rw [encodeChar, encodeChar]
  generalize c.toNat = n at *
  generalize d.toNat = m at *
  split_ifs <;> simp only [List.cons_append, List.nil_append] <;> try omega
  · exact lt_of_first codes (by omega)
  · exact lt_of_first (by omega) (by omega)
  · exact lt_of_first (by omega) (by omega)
  · exact lt_of_first (by omega) (by omega)
  · exact lt_of_later (by omega) (by omega) fun same => lt_of_first (by omega) (by omega)
  · exact lt_of_first (by omega) (by omega)
  · exact lt_of_first (by omega) (by omega)
  · exact lt_of_later (by omega) (by omega) fun same => lt_of_later (by omega) (by omega)
      fun same' => lt_of_first (by omega) (by omega)
  · exact lt_of_first (by omega) (by omega)
  · exact lt_of_later (by omega) (by omega) fun same => lt_of_later (by omega) (by omega)
      fun same' => lt_of_later (by omega) (by omega) fun last => lt_of_first (by omega) (by omega)

/-- **Texts are in the order of their bytes.** -/
theorem encode_lt {a b : String} (less : a < b) : encode a < encode b := by
  rw [String.lt_iff] at less
  rw [encode, encode]
  generalize a.toList = cs at less
  generalize b.toList = ds at less
  induction less with
  | nil =>
    rename_i d ds
    have some : encodeChars (d :: ds) ≠ [] := by
      rw [encodeChars_cons, encodeChar]
      split_ifs <;> simp
    obtain ⟨x, y, parts⟩ := List.exists_cons_of_ne_nil some
    rw [parts]
    exact List.nil_lt_cons _ _
  | cons _ ih =>
    rw [encodeChars_cons, encodeChars_cons]
    exact List.append_left_lt ih
  | rel less =>
    rw [encodeChars_cons, encodeChars_cons]
    exact encodeChar_lt less _ _

end Utf8

/-! ## Numbers -/

namespace Decimal

theorem readDigits_append (limit : Nat) (excess : Fault) (n : Nat) (a b : List Char) :
    readDigits limit excess n (a ++ b) =
      match readDigits limit excess n a with
      | .ok m => readDigits limit excess m b
      | .error e => .error e := by
  induction a generalizing n with
  | nil => rfl
  | cons c rest ih =>
    simp only [List.cons_append, readDigits]
    split_ifs
    · exact ih _
    · rfl
    · rfl

theorem isDigit_digitChar : ∀ d < 10, Ascii.isDigit d.digitChar = true := by
  decide

/-- A digit adds itself after ten times the number so far. -/
theorem readDigits_digitChar {limit n d : Nat} (digit : d < 10) (fits : n * 10 + d ≤ limit)
    (excess : Fault) : readDigits limit excess n [d.digitChar] = .ok (n * 10 + d) := by
  rw [readDigits, if_pos (isDigit_digitChar d digit),
    Nat.toNat_digitChar_sub_48_of_lt_ten digit]
  simp only [if_pos fits, readDigits]

theorem readDigits_toDigits {limit n : Nat} (fits : n ≤ limit) (excess : Fault) :
    readDigits limit excess 0 (Nat.toDigits 10 n) = .ok n := by
  induction n using Nat.strongRecOn with
  | ind n ih =>
    rw [Nat.toDigits_eq_if (by decide)]
    split_ifs with small
    · have single : readDigits limit excess 0 [n.digitChar] = .ok (0 * 10 + n) :=
        readDigits_digitChar small (by omega) excess
      rwa [Nat.zero_mul, Nat.zero_add] at single
    · have whole : n / 10 * 10 + n % 10 = n := by omega
      rw [readDigits_append, ih (n / 10) (by omega) (by omega)]
      simp only
      rw [readDigits_digitChar (Nat.mod_lt n (by decide)) (by omega), whole]

/-- A number is written in digits. -/
theorem isDigit_of_mem_toString {n : Nat} {c : Char} (h : c ∈ (toString n).toList) :
    c.isDigit = true := by
  have digits : (toString n).toList = Nat.toDigits 10 n := Nat.toList_repr
  rw [digits] at h
  exact Nat.isDigit_of_mem_toDigits (by decide) (by decide) h

theorem toString_ne_empty (n : Nat) : toString n ≠ "" := by
  have digits : (toString n).toList = Nat.toDigits 10 n := Nat.toList_repr
  intro h
  rw [h] at digits
  exact Nat.toDigits_ne_nil digits.symm

/-- A number of the range that is written is read as it was. -/
theorem readNat_toString {limit n : Nat} (fits : n ≤ limit) :
    readNat limit (toString n).toList = .ok n := by
  have digits : (toString n).toList = Nat.toDigits 10 n := Nat.toList_repr
  have isSome : (Nat.toDigits 10 n).isEmpty = false :=
    List.isEmpty_eq_false_iff.2 Nat.toDigits_ne_nil
  have noSign : ∀ rest, Nat.toDigits 10 n ≠ '+' :: rest := by
    intro rest h
    have digit : '+'.isDigit = true :=
      isDigit_of_mem_toString (n := n) (by rw [digits, h]; exact List.mem_cons_self)
    exact absurd digit (by decide)
  rw [digits, readNat]
  · rw [readSome, isSome]
    exact readDigits_toDigits fits .tooLarge
  · exact Nat.toDigits_ne_nil
  · exact noSign

end Decimal

/-! ## Blanks -/

namespace Text

/-- Nothing counts from a character on that is stopped at. -/
theorem takeWhile_stop {p : Char → Bool} {c : Char} (stop : p c = false) (line more : List Char) :
    (line ++ c :: more).takeWhile p = line.takeWhile p := by
  induction line with
  | nil => simp [stop]
  | cons d line ih => rw [List.cons_append, List.takeWhile_cons, List.takeWhile_cons, ih]

/-- A blank in front is dropped. -/
theorem trimChars_cons_blank {c : Char} (blank : isBlank c = true) (cs : List Char) :
    trimChars (c :: cs) = trimChars cs := by
  rw [trimChars, trimChars, stripChars, stripChars, List.dropWhile_cons_of_pos blank]

theorem trim_space (text : String) : trim (" " ++ text) = trim text := by
  have chars : (" " ++ text).toList = ' ' :: text.toList := by simp
  rw [trim, trim, chars, trimChars_cons_blank (by decide)]

/-- Where there is nothing to strip, nothing is dropped. -/
theorem stripChars_of_absent {p : Char → Bool} {cs : List Char} (absent : ∀ c ∈ cs, p c = false) :
    stripChars p cs = cs := by
  have whole (l : List Char) (h : ∀ c ∈ l, p c = false) : l.dropWhile p = l := by
    cases l with
    | nil => rfl
    | cons c rest => rw [List.dropWhile_cons_of_neg (by simp [h c (by simp)])]
  rw [stripChars, whole cs absent, whole cs.reverse (by simpa using absent), List.reverse_reverse]

/-- Where nothing is blank, nothing is dropped. -/
theorem trimChars_of_solid {cs : List Char} (solid : ∀ c ∈ cs, isBlank c = false) :
    trimChars cs = cs :=
  stripChars_of_absent solid

theorem isBlank_of_isDigit {c : Char} (digit : c.isDigit = true) : isBlank c = false := by
  simp only [Char.isDigit, Bool.and_eq_true, decide_eq_true_eq, UInt32.le_iff_toNat_le] at digit
  have low : 48 ≤ c.toNat := digit.1
  have high : c.toNat ≤ 57 := digit.2
  simp only [isBlank, Bool.or_eq_false_iff, Bool.and_eq_false_iff, decide_eq_false_iff_not,
    beq_eq_false_iff_ne]
  omega

/-- Numbers have no blanks. -/
theorem trim_toString (n : Nat) : trim (toString n) = toString n := by
  rw [trim, trimChars_of_solid, String.ofList_toList]
  exact fun c hc => isBlank_of_isDigit (Decimal.isDigit_of_mem_toString hc)

end Text
end HttpFetch
