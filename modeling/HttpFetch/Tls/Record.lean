import HttpFetch.Tls.AnswerFault
/-!
# Records

All that is said over TLS comes in records: one byte for the content, two for a version, two for the
length, and the contents. The head is looked at byte by byte, so that what is no TLS shows at once;
the contents count only when all of them are there.

`length_of_read?` says that a record uses bytes up.
-/

namespace HttpFetch.Tls

/-- A record. -/
structure Record where
  content : Content
  /-- whether it names TLS 1.3, in which some messages have another form -/
  newer : Bool
  payload : Bytes
  deriving Repr, DecidableEq

namespace Record

/-- The length that no record reaches. -/
def limit : Nat := 18432

/-- Whether a record may name a version: one of the third generation, or one that has a name of its
own. -/
def isVersion (n : Nat) : Bool := n / 256 == 3 || [0x0200, 0xFEFF, 0xFEFD, 0xFEFC].contains n

/-- The first record and the bytes after it, or nothing if it is not all there. -/
def read? (bytes : Bytes) : Except Corruption (Option (Record × Bytes)) :=
  match bytes with
  | [] => .ok none
  | kind :: bytes =>
    match Content.ofNumber? kind.toNat with
    | none => .error .invalidContentType
    | some content =>
      if bytes.length < 2 then .ok none
      else if !isVersion (Der.number (bytes.take 2)) then .error .unknownProtocolVersion
      else if bytes.length < 4 then .ok none
      else
        let newer := Der.number (bytes.take 2) == 0x0304
        let size := Der.number ((bytes.drop 2).take 2)
        let bytes := bytes.drop 4
        if size = 0 ∧ content ≠ .applicationData then .error .invalidEmptyPayload
        else if limit ≤ size then .error .messageTooLarge
        else if bytes.length < size then .ok none
        else .ok (some (⟨content, newer, bytes.take size⟩, bytes.drop size))

theorem length_of_read? {bytes rest : Bytes} {record : Record}
    (h : read? bytes = .ok (some (record, rest))) : rest.length < bytes.length := by
  cases bytes with
  | nil => simp [read?] at h
  | cons kind bytes =>
    simp only [read?] at h
    repeat' split at h
    all_goals simp only [Except.ok.injEq, Option.some.injEq, Prod.mk.injEq, reduceCtorEq] at h
    obtain ⟨-, rfl⟩ := h
    rw [List.length_drop, List.length_drop, List.length_cons]
    omega

end Record
end HttpFetch.Tls
