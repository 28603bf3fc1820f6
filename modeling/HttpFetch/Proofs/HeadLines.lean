import HttpFetch.Proofs.StatusLine
/-!
# The lines of a head

After the first line a head is a list of lines, each with a field, up to one that is empty but for
carriage returns. A reader does not split bytes into lines; at the end of each it stands at the
start of the next one with nothing in its hands (`Reader.atField_of_takes`). So what it makes of a
line depends on the bytes of that line alone: `Reader.fieldOf?` says which field it is, and
`Reader.after_nameless`, `Reader.after_plain`, `Reader.after_length` and `Reader.after_noLength`
what the reader makes of it.
-/

namespace HttpFetch

/-- Bytes are lines, and then some without an end of a line. -/
theorem lines_induction {motive : Bytes → Prop} (open' : ∀ bytes, 10 ∉ bytes → motive bytes)
    (line : ∀ line rest, 10 ∉ line → motive rest → motive (line ++ 10 :: rest)) (bytes : Bytes) :
    motive bytes := by
  induction size : bytes.length using Nat.strong_induction_on generalizing bytes with
  | _ n ih =>
    rcases StatusLine.until_or 10 bytes with ⟨none, -⟩ | ⟨-, rest, ends⟩
    · exact open' bytes none
    · have parts := List.takeWhile_append_dropWhile (p := fun b : UInt8 => b ≠ 10) (l := bytes)
      rw [ends] at parts
      rw [← parts] at size ⊢
      refine line _ rest (fun mem => ?_) (ih rest.length ?_ rest rfl)
      · simpa using List.mem_takeWhile_imp mem
      · rw [List.length_append, List.length_cons] at size
        omega

namespace Reader

variable {r : Reader}

/-! ## Where lines end -/

/-- Where bytes that are taken whole lead, others lead on. -/
theorem after_append (r : Reader) (a b : Bytes) :
    r.after (a ++ b) =
      match r.feed a with
      | (.ok .needMore, next) => next.after b
      | (_, next) => next := by
  rw [after, feed_append]
  rcases r.feed a with ⟨e | _ | k | k, next⟩ <;> rfl

/-- Whether the reader stands at the start of a line of the head after the first one. -/
structure AtField (r : Reader) : Prop where
  phase : r.phase = .name
  token : r.token = #[]
  value : r.value = #[]

theorem AtField.same (h : r.AtField) :
    ({ r with phase := .name, token := #[], value := #[] } : Reader) = r := by
  obtain ⟨phase, token, value⟩ := h
  cases r
  simp only at phase token value
  rw [phase, token, value]

/-- A value is under way only while a field is. -/
def ValueInField (r : Reader) : Prop := r.phase = .name ∨ r.phase = .value ∨ r.value = #[]

/-- The end of a line leads to the start of the next one, unless it ends the head. -/
theorem atField_of_takes {next : Reader} (value : r.ValueInField)
    (h : Takes r 10 (.ok false) next) : next.AtField := by
  have none (outside : r.phase ≠ .name ∧ r.phase ≠ .value) : r.value = #[] :=
    (value.resolve_left outside.1).resolve_left outside.2
  cases h with
  | skipped _ skip => exact absurd skip (by decide)
  | blank _ space => exact absurd space (by decide)
  | kept _ other | keptValue _ other => exact absurd rfl other
  | colon _ colon => exact absurd colon (by decide)
  | version _ space => exact absurd space (by decide)
  | status phase ends =>
    rcases ends with ⟨space, -⟩ | ⟨-, rfl⟩
    · exact absurd space (by decide)
    · exact ⟨rfl, rfl, none (by simp [phase])⟩
  | description phase => exact ⟨rfl, rfl, none (by simp [phase])⟩
  | nameless | field | length => exact ⟨rfl, rfl, rfl⟩

theorem valueInField_of_takes {next : Reader} {b : UInt8} (value : r.ValueInField)
    (h : Takes r b (.ok false) next) : next.ValueInField := by
  have none (outside : r.phase ≠ .name ∧ r.phase ≠ .value) : r.value = #[] :=
    (value.resolve_left outside.1).resolve_left outside.2
  cases h with
  | skipped | blank | kept => exact value
  | keptValue phase => exact .inr (.inl phase)
  | colon => exact .inr (.inl rfl)
  | version phase | status phase | description phase => exact .inr (.inr (none (by simp [phase])))
  | nameless | field | length => exact .inl rfl

/-- A line that does not end the head leads to the start of the next one. -/
theorem atField_of_feedFrom {next : Reader} (value : r.ValueInField)
    (head : r.phase.isHead = true) {line : Bytes} {taken : Nat}
    (h : r.feedFrom taken (line ++ [10]) = (.ok .needMore, next)) : next.AtField := by
  induction line generalizing r taken with
  | nil =>
    have takes := takes_step head 10
    rw [List.nil_append, feedFrom_head head] at h
    rcases step : r.step 10 with ⟨e | ended, after⟩ <;> rw [step] at h takes
    · cases h
    cases ended
    · have stops : after = next := by
        simp only [feedFrom] at h
        exact congrArg Prod.snd h
      rw [← stops]
      exact atField_of_takes value takes
    · simp only at h
      split_ifs at h <;> cases h
  | cons b line ih =>
    have takes := takes_step head b
    rw [List.cons_append, feedFrom_head head] at h
    rcases step : r.step b with ⟨e | ended, after⟩ <;> rw [step] at h takes
    · cases h
    cases ended
    · exact ih (valueInField_of_takes value takes) (takes.isHead head) h
    · simp only at h
      split_ifs at h <;> cases h

/-! ## The parts of a line -/

/-- The text of a part of a line: carriage returns and blanks around it do not count. -/
def lineText (bytes : Bytes) : String := Text.trim (Utf8.decodeLossy (bytes.filter (· ≠ 13)))

/-- The name in front of a colon. -/
theorem after_name (atField : r.AtField) {name : Bytes} (plain : ∀ b ∈ name, b ≠ 58 ∧ b ≠ 10)
    (rest : Bytes) :
    r.after (name ++ 58 :: rest) = { r.keepAll name with phase := .value }.after rest := by
  have head : r.phase.isHead = true := by rw [atField.phase]; rfl
  have keeps : ∀ b ∈ name, Keeps r.phase b := fun b mem => by
    rw [atField.phase]
    exact keeps_name (plain b mem).1 (plain b mem).2
  have step : (r.keepAll name).step 58 = (.ok false, { r.keepAll name with phase := .value }) := by
    simp [Reader.step, keepAll, atField.phase]
  rw [after_keeps head keeps, after_step (r := r.keepAll name) head step]

/-- The value after it. -/
theorem after_value (phase : r.phase = .value) {value : Bytes} (plain : 10 ∉ value)
    (rest : Bytes) :
    r.after (value ++ rest) =
      { r with value := r.value ++ (value.filter (· ≠ 13)).toArray }.after rest := by
  have head : r.phase.isHead = true := by rw [phase]; rfl
  induction value generalizing r with
  | nil => simp
  | cons b value ih =>
    have lf : b ≠ 10 := fun same => plain (same ▸ List.mem_cons_self)
    have later : 10 ∉ value := fun mem => plain (List.mem_cons_of_mem b mem)
    rw [List.cons_append]
    by_cases skip : b = 13
    · have step : r.step b = (.ok false, r) := by simp [Reader.step, phase, skip]
      rw [after_step head step, ih phase later head]
      simp [skip]
    · have step : r.step b = (.ok false, { r with value := r.value.push b }) := by
        simp [Reader.step, phase, skip, lf]
      have whole : r.value ++ (b :: value.filter (· ≠ 13)).toArray =
          r.value.push b ++ (value.filter (· ≠ 13)).toArray := Array.ext' (by simp)
      have kept : (b :: value).filter (· ≠ 13) = b :: value.filter (· ≠ 13) :=
        List.filter_cons_of_pos (by simpa using skip)
      rw [after_step head step, ih (r := { r with value := r.value.push b }) phase later head, kept,
        whole]

/-! ## One line -/

/-- The field of a line: a name, and what follows the first colon. A line without a name has
none. -/
def fieldOf? (line : Bytes) : Option (String × String) :=
  let name := lineText (line.takeWhile (· ≠ 58))
  if name.isEmpty then none else some (name, lineText ((line.dropWhile (· ≠ 58)).drop 1))

theorem fieldOf?_colon {name value : Bytes} (plain : 58 ∉ name)
    (named : (lineText name).isEmpty = false) :
    fieldOf? (name ++ 58 :: value) = some (lineText name, lineText value) := by
  have before : ∀ b ∈ name, (decide (b ≠ 58)) = true := fun b mem => by
    simpa using fun same : b = 58 => plain (same ▸ mem)
  rw [fieldOf?, List.takeWhile_append_of_pos before, List.dropWhile_append_of_pos before]
  simp [named]

/-- The reader at the end of a line, with the field of the line in its hands. -/
structure AtLineEnd (r q : Reader) (line : Bytes) : Prop where
  phase : q.phase = .name ∨ q.phase = .value
  fieldName : q.fieldName = lineText (line.takeWhile (· ≠ 58))
  fieldValue : q.fieldValue = lineText ((line.dropWhile (· ≠ 58)).drop 1)
  /-- apart from the field it is as it was at the start of the line -/
  rest : { q with phase := .name, token := #[], value := #[] } = r
  step : q.step 10 = (q.finishField.1.map fun _ => false, q.finishField.2)
  after : ∀ rest, r.after (line ++ 10 :: rest) = q.after (10 :: rest)

theorem exists_atLineEnd (atField : r.AtField) {line : Bytes} (plain : 10 ∉ line)
    (filled : ¬ ∀ b ∈ line, b = 13) : ∃ q, r.AtLineEnd q line := by
  have head : r.phase.isHead = true := by rw [atField.phase]; rfl
  have parts := List.takeWhile_append_dropWhile (p := fun b : UInt8 => b ≠ 58) (l := line)
  have colon : ∀ b ∈ line.takeWhile (· ≠ 58), b ≠ 58 ∧ b ≠ 10 := fun b mem =>
    ⟨by simpa using List.mem_takeWhile_imp mem,
      fun same => plain (same ▸ List.takeWhile_subset _ mem)⟩
  rcases StatusLine.until_or 58 line with ⟨-, none⟩ | ⟨-, value, ends⟩
  · rw [none, List.append_nil] at parts
    rw [parts] at colon
    have filled' : (r.keepAll line).token.isEmpty = false := by
      rw [← Bool.not_eq_true]
      exact fun empty => filled (by simpa [keepAll, atField.token] using empty)
    refine ⟨r.keepAll line, .inl atField.phase, ?_, ?_, atField.same, ?_, fun rest => ?_⟩
    · rw [parts]
      simp [Reader.fieldName, keepAll, atField.token, textOf, lineText]
    · rw [none]
      simp [Reader.fieldValue, keepAll, atField.value, textOf, lineText]
    · have phase : (r.keepAll line).phase = .name := atField.phase
      simp [Reader.step, phase, filled']
    · refine after_keeps head (fun b mem => ?_) _
      rw [atField.phase]
      exact keeps_name (colon b mem).1 (colon b mem).2
  · rw [ends] at parts
    have plain' : 10 ∉ value := fun mem => plain <| by
      rw [← parts]
      exact List.mem_append_right _ (List.mem_cons_of_mem 58 mem)
    refine ⟨{ r.keepAll (line.takeWhile (· ≠ 58)) with
      phase := .value, value := r.value ++ (value.filter (· ≠ 13)).toArray },
      .inr rfl, ?_, ?_, atField.same, rfl, fun rest => ?_⟩
    · simp [Reader.fieldName, keepAll, atField.token, textOf, lineText]
    · rw [ends]
      simp [Reader.fieldValue, atField.value, textOf, lineText]
    · conv => lhs; rw [← parts]
      rw [List.append_assoc, List.cons_append, after_name atField colon, after_value rfl plain']
      rfl

section Field

variable {line : Bytes} {name value : String}

/-- The reader at the end of a line with a field has that field in its hands. -/
theorem exists_atLineEnd_field (atField : r.AtField) (plain : 10 ∉ line)
    (field : fieldOf? line = some (name, value)) :
    ∃ q, r.AtLineEnd q line ∧ q.fieldName = name ∧ q.fieldValue = value ∧
      q.fieldName.isEmpty = false := by
  rw [fieldOf?] at field
  split_ifs at field with nameless
  obtain ⟨rfl, rfl⟩ := Prod.mk.inj (Option.some.inj field)
  have filled : ¬ ∀ b ∈ line, b = 13 := by
    intro blank
    refine nameless ?_
    have none : (line.takeWhile (· ≠ 58)).filter (· ≠ 13) = [] :=
      List.filter_eq_nil_iff.2 fun b mem => by simp [blank b (List.takeWhile_subset _ mem)]
    rw [lineText, none]
    rfl
  obtain ⟨q, atEnd⟩ := exists_atLineEnd atField plain filled
  refine ⟨q, atEnd, atEnd.fieldName, atEnd.fieldValue, ?_⟩
  rw [atEnd.fieldName]
  simpa using nameless

theorem AtLineEnd.isHead {q : Reader} (atEnd : r.AtLineEnd q line) : q.phase.isHead = true := by
  rcases atEnd.phase with phase | phase <;> rw [phase] <;> rfl

/-- A line without a name is dropped. -/
theorem after_nameless (atField : r.AtField) (plain : 10 ∉ line) (filled : ¬ ∀ b ∈ line, b = 13)
    (nameless : fieldOf? line = none) (rest : Bytes) :
    r.after (line ++ 10 :: rest) = r.after rest := by
  obtain ⟨q, atEnd⟩ := exists_atLineEnd atField plain filled
  have unnamed : q.fieldName.isEmpty = true := by
    rw [atEnd.fieldName]
    by_contra named
    rw [fieldOf?, if_neg named] at nameless
    cases nameless
  have step := atEnd.step
  rw [finishField_nameless unnamed] at step
  rw [atEnd.after, after_step atEnd.isHead step, atEnd.rest]

/-- A field that does not tell the length of the body only lands in the sink. -/
theorem after_plain (atField : r.AtField) (plain : 10 ∉ line)
    (field : fieldOf? line = some (name, value)) (other : isLengthName name = false)
    (rest : Bytes) :
    r.after (line ++ 10 :: rest) =
      { r with sink := r.sink.addHeader name value }.after rest := by
  obtain ⟨q, atEnd, rfl, rfl, named⟩ := exists_atLineEnd_field atField plain field
  have step := atEnd.step
  rw [finishField_plain named other] at step
  rw [atEnd.after, after_step atEnd.isHead step, ← atEnd.rest]

/-- One that does sets it as well. -/
theorem after_length {n : Nat} (atField : r.AtField) (plain : 10 ∉ line)
    (field : fieldOf? line = some (name, value)) (length : isLengthName name = true)
    (number : Decimal.readNat Decimal.max64 value.toList = .ok n) (rest : Bytes) :
    r.after (line ++ 10 :: rest) =
      { r with contentLength := some n, sink := r.sink.addHeader name value }.after rest := by
  obtain ⟨q, atEnd, rfl, rfl, named⟩ := exists_atLineEnd_field atField plain field
  have step := atEnd.step
  rw [finishField_length named length number] at step
  rw [atEnd.after, after_step atEnd.isHead step, ← atEnd.rest]

/-- A length that is no number is refused. -/
theorem after_noLength {e : Decimal.Fault} (atField : r.AtField) (plain : 10 ∉ line)
    (field : fieldOf? line = some (name, value)) (length : isLengthName name = true)
    (number : Decimal.readNat Decimal.max64 value.toList = .error e) (rest : Bytes) :
    (r.after (line ++ 10 :: rest)).phase.isHead = true := by
  obtain ⟨q, atEnd, rfl, rfl, named⟩ := exists_atLineEnd_field atField plain field
  have step := atEnd.step
  rw [finishField_noLength named length number] at step
  rw [atEnd.after, after_stop atEnd.isHead step nofun]
  exact atEnd.isHead

end Field

/-! ## The other lines -/

/-- An empty line ends the head. -/
theorem after_emptyLine (atField : r.AtField) {line : Bytes} (blank : ∀ b ∈ line, b = 13)
    (rest : Bytes) : r.after (line ++ 10 :: rest) = r.finishHead := by
  have head : r.phase.isHead = true := by rw [atField.phase]; rfl
  have keeps : ∀ b ∈ line, Keeps r.phase b := fun b mem => by
    rw [atField.phase, blank b mem]
    exact keeps_name (by decide) (by decide)
  have none : r.keepAll line = r := by
    have skipped : line.filter (· ≠ 13) = [] :=
      List.filter_eq_nil_iff.2 fun b mem => by simp [blank b mem]
    rw [keepAll, skipped]
    simp
  have step : r.step 10 = (.ok true, r.finishHead) := by
    simp [Reader.step, atField.phase, atField.token]
  have stops : (.ok true : Except TransferError Bool) ≠ .ok false := by simp
  rw [after_keeps head keeps, none, after_stop head step stops]

theorem Takes.isHead_of_error {next : Reader} {b : UInt8} {e : TransferError}
    (head : r.phase.isHead = true) (h : Takes r b (.error e) next) : next.phase.isHead = true := by
  cases h <;> exact head

/-- The head does not end within a line. -/
theorem isHead_after_line (head : r.phase.isHead = true) {bytes : Bytes} (plain : 10 ∉ bytes) :
    (r.after bytes).phase.isHead = true := by
  induction bytes generalizing r with
  | nil => exact head
  | cons b rest ih =>
    have takes := takes_step head b
    rcases step : r.step b with ⟨e | ended, next⟩ <;> rw [step] at takes
    · rw [after_stop head step nofun]
      exact takes.isHead_of_error head
    cases ended with
    | false =>
      rw [after_step head step]
      exact ih (takes.isHead head) fun mem => plain (List.mem_cons_of_mem b mem)
    | true =>
      cases takes with
      | headEnded _ line => exact absurd (line ▸ List.mem_cons_self) plain

/-- The first line says nothing about the body and adds no field. -/
theorem Takes.firstLine {next : Reader} {b : UInt8} {ended : Bool} (first : r.isPastLine = false)
    (h : Takes r b (.ok ended) next) :
    ended = false ∧ next.sink.headers = r.sink.headers ∧ next.contentLength = r.contentLength ∧
      (b ≠ 10 → next.isPastLine = false) := by
  cases h with
  | skipped | blank | kept => exact ⟨rfl, rfl, rfl, fun _ => first⟩
  | version => exact ⟨rfl, rfl, rfl, fun _ => rfl⟩
  | status _ ends =>
    refine ⟨rfl, rfl, rfl, fun other => ?_⟩
    rcases ends with ⟨-, rfl⟩ | ⟨line, -⟩
    · rfl
    · exact absurd line other
  | description _ line => exact ⟨rfl, rfl, rfl, fun other => absurd line other⟩
  | keptValue phase | colon phase | headEnded phase => simp [isPastLine, phase] at first
  | nameless phase | field phase | length phase =>
    rcases phase with phase | phase <;> simp [isPastLine, phase] at first

theorem isHead_of_firstLine (first : r.isPastLine = false) : r.phase.isHead = true := by
  cases phase : r.phase <;> simp [isPastLine, phase] at first <;> rfl

/-- A byte of the first line of a head that comes to its end. -/
theorem exists_step_firstLine (first : r.isPastLine = false) {b : UInt8} {rest : Bytes}
    (ends : (r.after (b :: rest)).phase.isHead = false) :
    ∃ next, Takes r b (.ok false) next ∧ r.after (b :: rest) = next.after rest := by
  have head := isHead_of_firstLine first
  have takes := takes_step head b
  rcases step : r.step b with ⟨e | ended, next⟩ <;> rw [step] at takes
  · rw [after_stop head step nofun, takes.isHead_of_error head] at ends
    cases ends
  · obtain ⟨rfl, -⟩ := takes.firstLine first
    exact ⟨next, takes, after_step head step rest⟩

/-- After the first line of a head that comes to its end, the reader stands at the next one, with no
field in the sink. -/
theorem after_firstLine (first : r.isPastLine = false) (value : r.ValueInField) {line rest : Bytes}
    (plain : 10 ∉ line) (ends : (r.after (line ++ 10 :: rest)).phase.isHead = false) :
    ∃ next : Reader, next.AtField ∧ next.sink.headers = r.sink.headers ∧
      next.contentLength = r.contentLength ∧ r.after (line ++ 10 :: rest) = next.after rest := by
  induction line generalizing r with
  | nil =>
    obtain ⟨next, takes, same⟩ := exists_step_firstLine first ends
    obtain ⟨-, headers, length, -⟩ := takes.firstLine first
    exact ⟨next, atField_of_takes value takes, headers, length, same⟩
  | cons b line ih =>
    obtain ⟨next, takes, same⟩ := exists_step_firstLine first ends
    obtain ⟨-, headers, length, goesOn⟩ := takes.firstLine first
    have other : b ≠ 10 := fun line => plain (line ▸ List.mem_cons_self)
    obtain ⟨after, atField, headers', length', same'⟩ := ih (goesOn other)
      (valueInField_of_takes value takes) (fun mem => plain (List.mem_cons_of_mem b mem))
      (same ▸ ends)
    exact ⟨after, atField, headers'.trans headers, length'.trans length, same.trans same'⟩

end Reader
end HttpFetch
