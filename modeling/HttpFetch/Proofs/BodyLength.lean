import HttpFetch.Proofs.Fields
import HttpFetch.Proofs.HeadEnd
import HttpFetch.Proofs.HeadLines
/-!
# The length of a body in its head

A field that tells the length of the body does two things: it lands in the sink, where the first
value of a name stays, and it sets the length that is enforced, which the last one does. So the two
agree where all such fields say the same (`Reader.readHead_lengths`), and need not otherwise.
-/

namespace HttpFetch.Reader

/-! ## The fields of a head -/

/-- The fields in lines, up to the first line that is empty but for carriage returns. -/
def fieldsAt (bytes : Bytes) : List (String × String) :=
  ((bytes.splitOn 10).takeWhile fun line => !line.all (· = 13)).filterMap fieldOf?

/-- The fields of a head, which follow its first line. -/
def fieldsIn (bytes : Bytes) : List (String × String) :=
  fieldsAt ((bytes.dropWhile (· ≠ 10)).drop 1)

/-- Those that tell the length of the body. -/
def lengthsIn (bytes : Bytes) : List (String × String) :=
  (fieldsIn bytes).filter (isLengthName ·.1)

/-- The number in the value of a field. -/
def lengthOf? (value : String) : Option Nat :=
  (Decimal.readNat Decimal.max64 value.toList).toOption

theorem splitOn_line {line : Bytes} (plain : 10 ∉ line) (rest : Bytes) :
    (line ++ 10 :: rest).splitOn 10 = line :: rest.splitOn 10 :=
  List.splitOnP_append_cons_of_forall_mem
    (fun b mem => by simpa using fun same : b = 10 => plain (same ▸ mem)) 10 (by simp) rest

theorem fieldsAt_emptyLine {line : Bytes} (plain : 10 ∉ line) (blank : ∀ b ∈ line, b = 13)
    (rest : Bytes) : fieldsAt (line ++ 10 :: rest) = [] := by
  have all : line.all (· = 13) = true := List.all_eq_true.2 fun b mem => by simp [blank b mem]
  rw [fieldsAt, splitOn_line plain]
  simp [all]

theorem fieldsAt_line {line : Bytes} (plain : 10 ∉ line) (filled : ¬ ∀ b ∈ line, b = 13)
    (rest : Bytes) : fieldsAt (line ++ 10 :: rest) = (fieldOf? line).toList ++ fieldsAt rest := by
  have goesOn : line.all (· = 13) = false := by
    rw [← Bool.not_eq_true, List.all_eq_true]
    simpa using filled
  rw [fieldsAt, splitOn_line plain, List.takeWhile_cons_of_pos (by simp [goesOn]), fieldsAt,
    List.filterMap_cons]
  rcases fieldOf? line with _ | field <;> rfl

/-- The length that fields leave enforced, of which the last one counts. -/
def lastLength (length : Option Nat) (fields : List (String × String)) : Option Nat :=
  match (fields.filter (isLengthName ·.1)).getLast? with
  | none => length
  | some field => lengthOf? field.2

theorem lastLength_other {length : Option Nat} {field : String × String}
    (other : isLengthName field.1 = false) (fields : List (String × String)) :
    lastLength length (field :: fields) = lastLength length fields := by
  rw [lastLength, List.filter_cons_of_neg (by simp [other])]
  rfl

theorem lastLength_length {length : Option Nat} {field : String × String}
    (names : isLengthName field.1 = true) (fields : List (String × String)) :
    lastLength length (field :: fields) = lastLength (lengthOf? field.2) fields := by
  rw [lastLength, lastLength, List.filter_cons_of_pos (by exact names), List.getLast?_cons]
  cases (fields.filter (isLengthName ·.1)).getLast? <;> rfl

/-- From one reader to another some fields were taken, all that tell the length being numbers. -/
structure TookFields (r after : Reader) (fields : List (String × String)) : Prop where
  headers : after.sink.headers = r.sink.headers.addAll fields
  numbers : ∀ field ∈ fields, isLengthName field.1 = true → ∃ n, lengthOf? field.2 = some n
  length : after.contentLength = lastLength r.contentLength fields

section Fields

variable {r after : Reader} {field : String × String} {fields : List (String × String)}

theorem tookFields_finishHead (r : Reader) : TookFields r r.finishHead [] := by
  refine ⟨?_, nofun, ?_⟩ <;> rcases length : r.contentLength with _ | n <;>
    simp [finishHead, length, Fields.addAll, lastLength]

/-- A field that tells no length, and others. -/
theorem TookFields.other
    (h : TookFields { r with sink := r.sink.addHeader field.1 field.2 } after fields)
    (other : isLengthName field.1 = false) : TookFields r after (field :: fields) where
  headers := h.headers
  numbers f mem names := by
    rcases List.mem_cons.1 mem with rfl | mem
    · rw [names] at other
      cases other
    · exact h.numbers f mem names
  length := h.length.trans (lastLength_other other fields).symm

/-- A field that tells a length, and others. -/
theorem TookFields.told {n : Nat}
    (h : TookFields { r with
      contentLength := some n, sink := r.sink.addHeader field.1 field.2 } after fields)
    (names : isLengthName field.1 = true) (number : lengthOf? field.2 = some n) :
    TookFields r after (field :: fields) where
  headers := h.headers
  numbers f mem names := by
    rcases List.mem_cons.1 mem with rfl | mem
    · exact ⟨n, number⟩
    · exact h.numbers f mem names
  length := by
    rw [h.length, lastLength_length names, number]

/-- **The fields of a head that comes to its end** are those of its lines. -/
theorem tookFields_after (atField : r.AtField) {bytes : Bytes}
    (ends : (r.after bytes).phase.isHead = false) :
    TookFields r (r.after bytes) (fieldsAt bytes) := by
  have head {r : Reader} (atField : r.AtField) : r.phase.isHead = true := by
    rw [atField.phase]
    rfl
  induction bytes using lines_induction generalizing r with
  | open' bytes plain =>
    rw [isHead_after_line (head atField) plain] at ends
    cases ends
  | line line rest plain ih =>
    by_cases blank : ∀ b ∈ line, b = 13
    · rw [after_emptyLine atField blank, fieldsAt_emptyLine plain blank]
      exact tookFields_finishHead r
    rw [fieldsAt_line plain blank]
    rcases field : fieldOf? line with _ | ⟨name, value⟩
    · rw [after_nameless atField plain blank field] at ends ⊢
      exact ih atField ends
    have atField' : ∀ length sink,
        ({ r with contentLength := length, sink := sink } : Reader).AtField := fun _ _ =>
      ⟨atField.phase, atField.token, atField.value⟩
    by_cases names : isLengthName name = true
    · rcases number : Decimal.readNat Decimal.max64 value.toList with e | n
      · rw [after_noLength atField plain field names number] at ends
        cases ends
      · rw [after_length atField plain field names number] at ends ⊢
        exact (ih (atField' _ _) ends).told names (by rw [lengthOf?, number]; rfl)
    · rw [Bool.not_eq_true] at names
      rw [after_plain atField plain field names] at ends ⊢
      exact (ih (atField' r.contentLength _) ends).other names

end Fields

/-! ## The length -/

/-- The fields of a response, of which the head has been read. -/
theorem tookFields_readHead {size : Nat} {sink : Sink} {s later : Stream} {reader : Reader}
    (read : (start size sink.reset).readHead s = (.ok (), reader, later)) :
    TookFields (start size sink.reset) reader (fieldsIn s.waiting) := by
  have same := readHead_waiting (r := start size sink.reset) rfl (capacity_start_pos size _) read
  have past : reader.phase.isHead = false := by
    rw [(rest_readHead (sink.keeps_reset {}) read).1.phase]
    split_ifs <;> rfl
  have ends : ((start size sink.reset).after s.waiting).phase.isHead = false :=
    (congrArg (·.phase.isHead) same).symm.trans past
  have headers : reader.sink.headers = ((start size sink.reset).after s.waiting).sink.headers :=
    congrArg (·.sink.headers) same
  have length : reader.contentLength = ((start size sink.reset).after s.waiting).contentLength :=
    congrArg (·.contentLength) same
  rcases StatusLine.until_or 10 s.waiting with ⟨none, -⟩ | ⟨-, rest, follows⟩
  · rw [isHead_after_line rfl none] at ends
    cases ends
  have parts := List.takeWhile_append_dropWhile (p := fun b : UInt8 => b ≠ 10) (l := s.waiting)
  rw [follows] at parts
  have plain : 10 ∉ s.waiting.takeWhile (· ≠ 10) := fun mem => by
    simpa using List.mem_takeWhile_imp mem
  rw [← parts] at ends headers length
  obtain ⟨next, atField, headers', length', same'⟩ :=
    after_firstLine (r := start size sink.reset) rfl (.inr (.inr rfl)) plain ends
  rw [same'] at ends headers length
  have took := tookFields_after atField ends
  rw [fieldsIn, follows]
  exact ⟨by rw [headers, took.headers, headers']; rfl, took.numbers,
    by rw [length, took.length, length']; rfl⟩

/-- Whether the length that is enforced is the one that the sink shows among its fields. -/
def EnforcesShown (r : Reader) : Prop :=
  match r.sink.header? "content-length" with
  | some value => ∃ n, lengthOf? value = some n ∧ r.contentLength = some n ∧
    r.sink.bodySize = some n
  | none => r.contentLength = none ∧ r.sink.bodySize = none

/-- **Which length counts.** In a head that is read well and in which no two names differ only in
case, every field that tells the length of the body is a number; the sink shows the first of them,
and the last one is enforced and announced as the length of the body. So the length that is enforced
is the one that is shown exactly if those two are the same number, as they are if there is only
one. -/
theorem readHead_lengths {size : Nat} {sink : Sink} {s later : Stream} {reader : Reader}
    (read : (start size sink.reset).readHead s = (.ok (), reader, later))
    (distinct : reader.sink.headers.Distinct) :
    let told := lengthsIn s.waiting
    (∀ field ∈ told, ∃ n, lengthOf? field.2 = some n) ∧
      reader.sink.header? "content-length" = told.head?.map (·.2) ∧
      reader.contentLength = told.getLast?.bind (lengthOf? ·.2) ∧
      reader.sink.bodySize = reader.contentLength ∧
      (reader.EnforcesShown ↔
        told.head?.bind (lengthOf? ·.2) = told.getLast?.bind (lengthOf? ·.2)) := by
  intro told
  have took := tookFields_readHead read
  have numbers : ∀ field ∈ told, ∃ n, lengthOf? field.2 = some n := fun field mem =>
    took.numbers field (List.mem_filter.1 mem).1 (List.mem_filter.1 mem).2
  have headers : reader.sink.headers = Fields.empty.addAll (fieldsIn s.waiting) := took.headers
  have shown : reader.sink.header? "content-length" = told.head?.map (·.2) := by
    have first : told.head? = (fieldsIn s.waiting).find? (isLengthName ·.1) := List.head?_filter
    rw [headers] at distinct
    rw [Sink.header?, headers, Fields.find?_addAll distinct, first]
    rfl
  have enforced : reader.contentLength = told.getLast?.bind (lengthOf? ·.2) := by
    have last : reader.contentLength =
        match told.getLast? with
        | none => none
        | some field => lengthOf? field.2 := took.length
    rw [last]
    cases told.getLast? <;> rfl
  have announced : reader.sink.bodySize = reader.contentLength := by
    rcases length : reader.contentLength with _ | n
    · have unsized := bodySize_readHead (r := start size sink.reset) rfl s
      rw [read] at unsized
      exact unsized length
    · exact (rest_readHead (sink.keeps_reset {}) read).1.size n length
  refine ⟨numbers, shown, enforced, announced, ?_⟩
  rw [EnforcesShown, shown, announced, enforced]
  rcases whole : told with _ | ⟨first, others⟩
  · simp
  rw [whole] at numbers
  obtain ⟨n, number⟩ := numbers first List.mem_cons_self
  rcases ends : (first :: others).getLast? with _ | last
  · cases List.getLast?_eq_none_iff.1 ends
  obtain ⟨m, number'⟩ := numbers last (List.mem_of_getLast? ends)
  simp only [List.head?_cons, Option.map_some, Option.bind_some, number, number',
    Option.some.injEq]
  constructor
  · rintro ⟨k, rfl, same, -⟩
    exact same.symm
  · rintro rfl
    exact ⟨n, rfl, rfl, rfl⟩

/-- The head of a response that comes in one read. -/
def readText (text : String) : Except TransferError Unit × Reader × Stream :=
  (start 2048 (.inMemory "http://[::1]/")).readHead ⟨[⟨false, .ok (Utf8.encode text)⟩], false⟩

theorem exists_readText (text : String) {p : Reader → Bool}
    (h : ((readText text).1.toOption.isSome && p (readText text).2.1) = true) :
    ∃ reader later, readText text = (.ok (), reader, later) ∧ p reader = true := by
  rw [Bool.and_eq_true] at h
  rcases read : readText text with ⟨e | _, reader, later⟩ <;> rw [read] at h
  · cases h.1
  · exact ⟨reader, later, rfl, h.2⟩

/-- Two fields that write the same length in two ways. -/
theorem readHead_lengths_same :
    ∃ reader later, readText "V 200 O\nContent-Length: 5\nContent-Length: 05\n\n" =
        (.ok (), reader, later) ∧
      reader.sink.headers.Distinct ∧ reader.EnforcesShown := by
  obtain ⟨reader, later, read, check⟩ := exists_readText
    "V 200 O\nContent-Length: 5\nContent-Length: 05\n\n"
    (p := fun reader => decide reader.sink.headers.Distinct) (by decide +kernel)
  have distinct := of_decide_eq_true check
  have read' : (start 2048 (Sink.inMemory "http://[::1]/").reset).readHead _ =
      (.ok (), reader, later) := read
  obtain ⟨-, -, -, -, same⟩ := readHead_lengths read' distinct
  exact ⟨reader, later, read, distinct, same.2 (by decide +kernel)⟩

/-- Two that do not agree: the sink shows the first, and the second is enforced. -/
theorem not_enforcesShown :
    ¬ ∀ (size : Nat) (sink : Sink) (s later : Stream) (reader : Reader),
      (start size sink.reset).readHead s = (.ok (), reader, later) →
      reader.sink.headers.Distinct → reader.EnforcesShown := by
  intro claim
  obtain ⟨reader, later, read, check⟩ := exists_readText
    "V 200 O\nContent-Length: 5\nContent-Length: 9\n\n"
    (p := fun reader => decide (reader.sink.headers.Distinct ∧
      reader.sink.header? "content-length" = some "5" ∧ reader.contentLength = some 9))
    (by decide +kernel)
  obtain ⟨distinct, shown, enforced⟩ := of_decide_eq_true check
  have enforces := claim 2048 (.inMemory "http://[::1]/") _ later reader read distinct
  rw [EnforcesShown, shown] at enforces
  obtain ⟨n, five, length, -⟩ := enforces
  have nine : n = 9 := Option.some.inj (length.symm.trans enforced)
  rw [nine] at five
  exact absurd five (by decide +kernel)

end HttpFetch.Reader
