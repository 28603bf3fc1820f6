import HttpFetch.Text.Utf8
/-!
# DER

The outer form of everything in a certificate: a tag, a length and as many bytes of contents. A length
has one form only, and none may reach `limit`.

`length_of_read?` says that reading an element uses bytes up, on which every loop over elements rests.
-/

namespace HttpFetch.Der

/-- The length that contents do not reach. -/
def limit : Nat := 0xFFFF

/-- The number that bytes spell, the most significant one first. -/
def number (bytes : Bytes) : Nat := bytes.foldl (fun n b => n * 256 + b.toNat) 0

/-- A length and the bytes after it: one byte, or a count of up to four bytes that hold it. The count
is as small as can be. -/
def readLength? : Bytes → Option (Nat × Bytes)
  | [] => none
  | b :: rest =>
    if b < 128 then some (b.toNat, rest)
    else
      let count := b.toNat - 128
      let size := number (rest.take count)
      if count = 0 ∨ 4 < count ∨ rest.length < count ∨ size < 128 ∨
        size < Nat.pow 256 (count - 1) then none
      else some (size, rest.drop count)

theorem length_of_readLength? {bytes rest : Bytes} {size : Nat}
    (h : readLength? bytes = some (size, rest)) : rest.length < bytes.length := by
  cases bytes with
  | nil => simp [readLength?] at h
  | cons b bytes =>
    rw [readLength?] at h
    split at h
    · obtain ⟨-, rfl⟩ := Prod.mk.inj (Option.some.inj h)
      simp
    · dsimp only at h
      split at h
      · nomatch h
      · obtain ⟨-, rfl⟩ := Prod.mk.inj (Option.some.inj h)
        rw [List.length_drop, List.length_cons]
        omega

/-- The contents of an element with a tag, and the bytes after it. -/
def read? (tag : UInt8) : Bytes → Option (Bytes × Bytes)
  | [] => none
  | b :: rest =>
    if b ≠ tag then none
    else match readLength? rest with
      | none => none
      | some (size, rest) =>
        if limit ≤ size ∨ rest.length < size then none else some (rest.take size, rest.drop size)

theorem length_of_read? {tag : UInt8} {bytes contents rest : Bytes}
    (h : read? tag bytes = some (contents, rest)) : rest.length < bytes.length := by
  cases bytes with
  | nil => simp [read?] at h
  | cons b bytes =>
    rw [read?] at h
    split at h
    · nomatch h
    · cases hl : readLength? bytes with
      | none => rw [hl] at h; nomatch h
      | some found =>
        have shorter := length_of_readLength? hl
        rw [hl] at h
        dsimp only at h
        split at h
        · nomatch h
        · obtain ⟨-, rfl⟩ := Prod.mk.inj (Option.some.inj h)
          rw [List.length_drop, List.length_cons]
          omega

/-! ## Tags -/

/-- A truth value. -/
def boolean : UInt8 := 0x01

/-- A whole number. -/
def integer : UInt8 := 0x02

/-- Bits, of which the first byte says how many of the last one do not count. -/
def bitString : UInt8 := 0x03

/-- Bytes that stand for themselves or for elements. -/
def octetString : UInt8 := 0x04

/-- The name of a kind of thing. -/
def identifier : UInt8 := 0x06

/-- Elements one after the other. -/
def sequence : UInt8 := 0x30

/-- An element with a number in place of its kind. -/
def numbered (n : UInt8) : UInt8 := 0xA0 + n

end HttpFetch.Der
