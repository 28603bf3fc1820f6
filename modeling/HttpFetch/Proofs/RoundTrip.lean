import HttpFetch.Proofs.Chunking
import HttpFetch.Proofs.Fields
import HttpFetch.Proofs.Text
/-!
# Responses that are written and read again

A head as a server writes it (`WrittenHead`) is read back part by part: the version, the status, the
description, and for each name the first value it is given. The body is what follows the head, up to
the stated length or else to the end of the stream (`Reader.readAll_written`).
-/

namespace HttpFetch

/-- Adds header fields, the first one first. -/
def Sink.addHeaders (sink : Sink) (entries : List (String × String)) : Sink :=
  { sink with headers := sink.headers.addAll entries }

/-! ## Heads as they are written -/

/-- The end of a line. -/
inductive LineEnd where
  | crlf
  | lf
  deriving Repr, DecidableEq

/-- The bytes that end a line. -/
def LineEnd.bytes : LineEnd → Bytes
  | .crlf => [13, 10]
  | .lf => [10]

/-- A header field as it is written. -/
structure WrittenField where
  name : String
  value : String
  ending : LineEnd
  named : name ≠ ""
  nameTrimmed : Text.trim name = name
  /-- a colon would end the name, the other two the line -/
  nameWord : ∀ c ∈ name.toList, c ≠ ':' ∧ c ≠ '\r' ∧ c ≠ '\n'
  valueTrimmed : Text.trim value = value
  valueLine : ∀ c ∈ value.toList, c ≠ '\r' ∧ c ≠ '\n'

namespace WrittenField

/-- The bytes of a field. -/
def bytes (f : WrittenField) : Bytes :=
  Utf8.encode f.name ++ [58] ++ Utf8.encode (" " ++ f.value) ++ f.ending.bytes

/-- Whether a field tells the length of the body. -/
def isLength (f : WrittenField) : Bool := Reader.isLengthName f.name

/-- The name and the value of a field. -/
def entry (f : WrittenField) : String × String := (f.name, f.value)

/-- The field that tells the length of the body. -/
def length (n : Nat) (ending : LineEnd) : WrittenField where
  name := "Content-Length"
  value := toString n
  ending
  named := by decide
  nameTrimmed := by decide
  nameWord := by simp
  valueTrimmed := Text.trim_toString n
  valueLine c hc := by
    have digit := Decimal.isDigit_of_mem_toString hc
    refine ⟨?_, ?_⟩
    · rintro rfl
      exact absurd digit (by decide)
    · rintro rfl
      exact absurd digit (by decide)

theorem isLength_length (n : Nat) (ending : LineEnd) : (length n ending).isLength = true := by
  have known : Reader.isLengthName "Content-Length" = true := by decide
  exact known

end WrittenField

/-- The head of a response as it is written. -/
structure WrittenHead where
  version : String
  status : UInt16
  description : String
  firstEnding : LineEnd
  fields : List WrittenField
  lastEnding : LineEnd
  versionWord : ∀ c ∈ version.toList, c ≠ ' ' ∧ c ≠ '\r' ∧ c ≠ '\n'
  descriptionLine : ∀ c ∈ description.toList, c ≠ '\r' ∧ c ≠ '\n'

namespace WrittenHead

/-- The bytes of the first line. -/
def firstLine (head : WrittenHead) : Bytes :=
  Utf8.encode head.version ++ [32] ++ Utf8.encode (toString head.status.toNat) ++ [32] ++
    Utf8.encode head.description ++ head.firstEnding.bytes

/-- The bytes of a head: the first line, the fields and an empty line. -/
def bytes (head : WrittenHead) : Bytes :=
  head.firstLine ++ head.fields.flatMap WrittenField.bytes ++ head.lastEnding.bytes

theorem bytes_append (head : WrittenHead) (rest : Bytes) :
    head.bytes ++ rest = head.firstLine ++ head.fields.flatMap WrittenField.bytes ++
      (head.lastEnding.bytes ++ rest) := by
  rw [bytes, List.append_assoc]

/-- The first value that a head gives a name. -/
def value? (head : WrittenHead) (name : String) : Option String :=
  (head.fields.find? (·.name = name)).map (·.value)

/-- A head that does not tell the length of the body. -/
def Unsized (head : WrittenHead) : Prop := ∀ f ∈ head.fields, f.isLength = false

/-- A head of which one field, anywhere among the others, tells the length of the body. -/
def Sized (head : WrittenHead) (n : Nat) : Prop :=
  n ≤ Decimal.max64 ∧ ∃ before f after, head.fields = before ++ f :: after ∧
    f.isLength = true ∧ f.value = toString n ∧
    (∀ g ∈ before, g.isLength = false) ∧ ∀ g ∈ after, g.isLength = false

end WrittenHead

/-- A sink shows a head as it was written and so much of a body of a known size. -/
structure Sink.Holds (sink : Sink) (url : String) (head : WrittenHead) (body : Bytes) (size : Nat) :
    Prop where
  url : sink.url = url
  version : sink.version = head.version
  status : sink.status = head.status
  description : sink.description = head.description
  headers : ∀ name, sink.headers.get? name = head.value? name
  progress : sink.progress = body.length
  body : sink.body = .memory body.toArray
  bodySize : sink.bodySize = some size
  completed : sink.completed = false

namespace Reader

/-! ## Bytes that stand for themselves -/

/-- The characters that mean something of their own in a part of the head. -/
def marks : Phase → List Char
  | .version | .status => [' ', '\r', '\n']
  | .name => [':', '\r', '\n']
  | _ => ['\r', '\n']

/-- Whether a byte stands for itself in a part of the head. -/
def Plain (phase : Phase) (b : UInt8) : Prop := ∀ c ∈ marks phase, b ≠ c.toNat.toUInt8

theorem step_kept {r : Reader} (head : r.phase.isHead = true) (noValue : r.phase ≠ .value)
    {b : UInt8} (plain : Plain r.phase b) : r.step b = (.ok false, r.keep b) := by
  cases phase : r.phase <;> simp [Phase.isHead, phase] at head noValue <;>
    simp [phase, Plain, marks] at plain <;> simp [step, phase, plain]

theorem step_keptValue {r : Reader} (inValue : r.phase = .value) {b : UInt8}
    (plain : Plain r.phase b) :
    r.step b = (.ok false, { r with value := r.value.push b }) := by
  simp [inValue, Plain, marks] at plain
  simp [step, inValue, plain]

/-- The bytes of a text without marks stand for themselves. -/
theorem plain_of_mem_encode {phase : Phase} {text : String}
    (absent : ∀ c ∈ text.toList, c ∉ marks phase) {b : UInt8} (h : b ∈ Utf8.encode text) :
    Plain phase b := by
  intro c hc
  have ascii : ∀ c ∈ marks phase, c.toNat < 0x80 := by cases phase <;> simp [marks]
  exact Utf8.ne_of_mem_encode (ascii c hc) (fun d hd same => absent d hd (same ▸ hc)) h

/-- Two portions that are taken whole are taken whole together. -/
theorem feed_whole_append {r middle next : Reader} {a b : Bytes}
    (first : r.feed a = (.ok .needMore, middle)) (second : middle.feed b = (.ok .needMore, next)) :
    r.feed (a ++ b) = (.ok .needMore, next) := by
  rw [feed_append, first]
  simp only [second, Except.map, Feed.later]

/-- A byte that the head goes on after. -/
theorem feed_one {r next : Reader} {b : UInt8} (head : r.phase.isHead = true)
    (step : r.step b = (.ok false, next)) : r.feed [b] = (.ok .needMore, next) := by
  have takes := takes_step head b
  rw [step] at takes
  have goesOn : next.phase ≠ .done := Phase.ne_done (takes.isHead head)
  rw [feed, feedFrom_head head, step]
  simp only [feedFrom, if_neg goesOn]

/-- Bytes each of which the head goes on after, whatever `before` them. -/
theorem feed_steps (kept : Bytes → Reader) (head : ∀ before, (kept before).phase.isHead = true)
    (bytes : Bytes)
    (steps : ∀ before, ∀ b ∈ bytes, (kept before).step b = (.ok false, kept (before ++ [b])))
    (before : Bytes) : (kept before).feed bytes = (.ok .needMore, kept (before ++ bytes)) := by
  induction bytes generalizing before with
  | nil => simp [feed, feedFrom, Phase.ne_done (head before)]
  | cons b rest ih =>
    have first := feed_one (head before) (steps before b List.mem_cons_self)
    have others := ih (fun before c hc => steps before c (List.mem_cons_of_mem b hc))
      (before ++ [b])
    have both := feed_whole_append first others
    rwa [List.append_assoc] at both

theorem push_append (kept : Array UInt8) (before : Bytes) (b : UInt8) :
    (kept ++ before).push b = kept ++ (before ++ [b]) :=
  Array.ext' (by simp)

/-- Bytes that stand for themselves are kept. -/
theorem feed_kept {r : Reader} (head : r.phase.isHead = true) (noValue : r.phase ≠ .value)
    {bytes : Bytes} (plain : ∀ b ∈ bytes, Plain r.phase b) :
    r.feed bytes = (.ok .needMore, { r with token := r.token ++ bytes }) := by
  have kept := feed_steps (fun before => { r with token := r.token ++ before }) (fun _ => head)
    bytes (fun before b hb => by
      rw [step_kept (r := { r with token := r.token ++ before }) head noValue (plain b hb)]
      simp only [keep, push_append]) []
  simpa using kept

/-- Bytes of a value are kept. -/
theorem feed_keptValue {r : Reader} (inValue : r.phase = .value) {bytes : Bytes}
    (plain : ∀ b ∈ bytes, Plain r.phase b) :
    r.feed bytes = (.ok .needMore, { r with value := r.value ++ bytes }) := by
  have head : r.phase.isHead = true := by rw [inValue]; rfl
  have kept := feed_steps (fun before => { r with value := r.value ++ before }) (fun _ => head)
    bytes (fun before b hb => by
      rw [step_keptValue (r := { r with value := r.value ++ before }) inValue (plain b hb)]
      simp only [push_append]) []
  simpa using kept

/-- A carriage return after the version does not count. -/
theorem step_return {r : Reader} (head : r.phase.isHead = true) (after : r.phase ≠ .version) :
    r.step 13 = (.ok false, r) := by
  cases phase : r.phase <;> simp [Phase.isHead, phase] at head after <;> simp [step, phase]

/-- Either end of a line does what the line feed does. -/
theorem feed_ending {r next : Reader} (head : r.phase.isHead = true) (after : r.phase ≠ .version)
    (ending : LineEnd) (step : r.step 10 = (.ok false, next)) :
    r.feed ending.bytes = (.ok .needMore, next) := by
  cases ending with
  | crlf => exact feed_whole_append (feed_one head (step_return head after)) (feed_one head step)
  | lf => exact feed_one head step

/-- The bytes of a text are read as the text. -/
theorem textOf_encode (text : String) : textOf (Utf8.encode text).toArray = text := by
  rw [textOf]
  simp [Utf8.decodeLossy_encode]

/-- A text without marks is kept as it is. -/
theorem feed_text (text : String) {r : Reader} (head : r.phase.isHead = true)
    (noValue : r.phase ≠ .value) (fresh : r.token = #[])
    (absent : ∀ c ∈ text.toList, c ∉ marks r.phase) :
    r.feed (Utf8.encode text) =
      (.ok .needMore, { r with token := (Utf8.encode text).toArray }) := by
  have kept := feed_kept head noValue fun b hb => plain_of_mem_encode absent hb
  rw [kept, fresh]
  simp

/-- The text of a value is kept as it is. -/
theorem feed_textValue (text : String) {r : Reader} (inValue : r.phase = .value)
    (fresh : r.value = #[]) (absent : ∀ c ∈ text.toList, c ∉ marks r.phase) :
    r.feed (Utf8.encode text) =
      (.ok .needMore, { r with value := (Utf8.encode text).toArray }) := by
  have kept := feed_keptValue inValue fun b hb => plain_of_mem_encode absent hb
  rw [kept, fresh]
  simp

/-! ## The parts of a head -/

/-- A reader at the start of a line after the first one. -/
def atLine (sink : Sink) (length : Option Nat) : Reader :=
  { phase := .name, contentLength := length, capacity := 1, sink }

theorem feed_version {r : Reader} (phase : r.phase = .version) (fresh : r.token = #[])
    {text : String} (word : ∀ c ∈ text.toList, c ≠ ' ' ∧ c ≠ '\r' ∧ c ≠ '\n') :
    r.feed (Utf8.encode text ++ [32]) = (.ok .needMore,
      { r with phase := .status, token := #[], sink := { r.sink with version := text } }) := by
  have head : r.phase.isHead = true := by rw [phase]; rfl
  have kept := feed_text text head (by rw [phase]; decide) fresh
    (by simpa [phase, marks] using word)
  refine feed_whole_append kept (feed_one head ?_)
  simp [step, phase, finishVersion, textOf_encode]

/-- The space after the status ends it. -/
theorem step_statusEnd {r : Reader} {n : Nat} (phase : r.phase = .status)
    (some : r.token.isEmpty = false)
    (number : Decimal.readNat Decimal.max16 (textOf r.token).toList = .ok n) :
    r.step 32 = (.ok false, { r with
      phase := .description, token := #[], sink := { r.sink with status := n.toUInt16 } }) := by
  simp only [step, phase, if_true, some, Bool.false_eq_true, if_false, finishStatus, number,
    Except.map]

theorem feed_status {r : Reader} (phase : r.phase = .status) (fresh : r.token = #[])
    (status : UInt16) :
    r.feed (Utf8.encode (toString status.toNat) ++ [32]) = (.ok .needMore,
      { r with phase := .description, token := #[], sink := { r.sink with status } }) := by
  have head : r.phase.isHead = true := by rw [phase]; rfl
  have digits : ∀ c ∈ (toString status.toNat).toList, c ∉ marks r.phase := by
    intro c hc mark
    have digit := Decimal.isDigit_of_mem_toString hc
    have noDigit : ∀ d ∈ marks .status, d.isDigit = false := by simp [marks]
    rw [phase] at mark
    rw [noDigit c mark] at digit
    cases digit
  have some : (Utf8.encode (toString status.toNat)).toArray.isEmpty = false := by
    rw [List.isEmpty_toArray, List.isEmpty_eq_false_iff]
    exact fun none => Decimal.toString_ne_empty status.toNat (Utf8.eq_empty_of_encode none)
  have fits : status.toNat ≤ Decimal.max16 := Nat.le_of_lt_succ status.toNat_lt
  have number : Decimal.readNat Decimal.max16
      (textOf (Utf8.encode (toString status.toNat)).toArray).toList = .ok status.toNat := by
    rw [textOf_encode, Decimal.readNat_toString fits]
  have kept := feed_text _ head (by rw [phase]; decide) fresh digits
  have ends := step_statusEnd
    (r := { r with token := (Utf8.encode (toString status.toNat)).toArray }) phase some number
  rw [Nat.toUInt16_eq, UInt16.ofNat_toNat] at ends
  exact feed_whole_append kept (feed_one head ends)

theorem feed_description {r : Reader} (phase : r.phase = .description) (fresh : r.token = #[])
    {text : String} (line : ∀ c ∈ text.toList, c ≠ '\r' ∧ c ≠ '\n') (ending : LineEnd) :
    r.feed (Utf8.encode text ++ ending.bytes) = (.ok .needMore,
      { r with phase := .name, token := #[], sink := { r.sink with description := text } }) := by
  have head : r.phase.isHead = true := by rw [phase]; rfl
  have kept := feed_text text head (by rw [phase]; decide) fresh
    (by simpa [phase, marks] using line)
  refine feed_whole_append kept (feed_ending (r := { r with token := (Utf8.encode text).toArray })
    head (by simp [phase]) ending ?_)
  simp [step, phase, finishDescription, textOf_encode]

/-- The sink once the first line of a head has been read. -/
def withFirstLine (sink : Sink) (head : WrittenHead) : Sink :=
  { sink with
    version := head.version, status := head.status, description := head.description }

/-- The first line is read as it was written. -/
theorem feed_firstLine (sink : Sink) (head : WrittenHead) :
    (start 1 sink).feed head.firstLine =
      (.ok .needMore, atLine (withFirstLine sink head) none) := by
  have version := feed_version (r := start 1 sink) rfl rfl head.versionWord
  have status := feed_status (r := { start 1 sink with
    phase := .status, token := #[], sink := { sink with version := head.version } }) rfl rfl
    head.status
  have description := feed_description (r := { start 1 sink with
    phase := .description, token := #[]
    sink := { sink with version := head.version, status := head.status } }) rfl rfl
    head.descriptionLine head.firstEnding
  have whole := feed_whole_append (feed_whole_append version status) description
  simpa [WrittenHead.firstLine, atLine, start, withFirstLine] using whole

/-- The reader where a field is about to end. -/
def atFieldEnd (sink : Sink) (length : Option Nat) (f : WrittenField) : Reader :=
  { atLine sink length with
    phase := .value, token := (Utf8.encode f.name).toArray
    value := (Utf8.encode (" " ++ f.value)).toArray }

/-- The parts of a field before the end of its line. -/
theorem feed_fieldParts (sink : Sink) (length : Option Nat) (f : WrittenField) :
    (atLine sink length).feed (Utf8.encode f.name ++ [58] ++ Utf8.encode (" " ++ f.value)) =
      (.ok .needMore, atFieldEnd sink length f) := by
  have name := feed_text f.name (r := atLine sink length) rfl (by simp [atLine]) rfl
    (by simpa [atLine, marks] using f.nameWord)
  have colon := feed_one (r := { atLine sink length with token := (Utf8.encode f.name).toArray })
    (b := 58) rfl rfl
  have value := feed_textValue (" " ++ f.value) (r := { atLine sink length with
    phase := .value, token := (Utf8.encode f.name).toArray }) rfl rfl
    (by simpa [marks] using f.valueLine)
  exact feed_whole_append (feed_whole_append name colon) value

theorem fieldName_atFieldEnd (sink : Sink) (length : Option Nat) (f : WrittenField) :
    (atFieldEnd sink length f).fieldName = f.name := by
  simp only [fieldName, atFieldEnd, textOf_encode, f.nameTrimmed]

theorem fieldValue_atFieldEnd (sink : Sink) (length : Option Nat) (f : WrittenField) :
    (atFieldEnd sink length f).fieldValue = f.value := by
  simp only [fieldValue, atFieldEnd, textOf_encode, Text.trim_space, f.valueTrimmed]

/-- What ends a field ends the line. -/
theorem feed_field {sink : Sink} {length : Option Nat} {f : WrittenField} {next : Reader}
    (finished : (atFieldEnd sink length f).finishField = (.ok (), next)) :
    (atLine sink length).feed f.bytes = (.ok .needMore, next) := by
  refine feed_whole_append (feed_fieldParts sink length f) ?_
  refine feed_ending (r := atFieldEnd sink length f) rfl (by simp [atFieldEnd]) f.ending ?_
  have step : (atFieldEnd sink length f).step 10 =
      ((atFieldEnd sink length f).finishField.1.map fun _ => false,
        (atFieldEnd sink length f).finishField.2) := rfl
  rw [step, finished]
  rfl

theorem isEmpty_name (f : WrittenField) : f.name.isEmpty = false := by
  simpa using f.named

/-- A field that does not tell the length adds its value. -/
theorem feed_plainField (sink : Sink) (length : Option Nat) {f : WrittenField}
    (plain : f.isLength = false) :
    (atLine sink length).feed f.bytes =
      (.ok .needMore, atLine (sink.addHeader f.name f.value) length) := by
  have finished := finishField_plain (r := atFieldEnd sink length f)
    (by rw [fieldName_atFieldEnd, isEmpty_name]) (by rw [fieldName_atFieldEnd]; exact plain)
  rw [fieldName_atFieldEnd, fieldValue_atFieldEnd] at finished
  exact feed_field finished

/-- A field that tells the length adds its value and sets the length. -/
theorem feed_lengthField (sink : Sink) (length : Option Nat) {f : WrittenField} {n : Nat}
    (tells : f.isLength = true) (value : f.value = toString n) (fits : n ≤ Decimal.max64) :
    (atLine sink length).feed f.bytes =
      (.ok .needMore, atLine (sink.addHeader f.name f.value) (some n)) := by
  have finished := finishField_length (r := atFieldEnd sink length f) (n := n)
    (by rw [fieldName_atFieldEnd, isEmpty_name]) (by rw [fieldName_atFieldEnd]; exact tells)
    (by rw [fieldValue_atFieldEnd, value]; exact Decimal.readNat_toString fits)
  rw [fieldName_atFieldEnd, fieldValue_atFieldEnd] at finished
  exact feed_field finished

/-- Fields that do not tell the length add their values, one after the other. -/
theorem feed_plainFields (sink : Sink) (length : Option Nat) {fields : List WrittenField}
    (plain : ∀ f ∈ fields, f.isLength = false) :
    (atLine sink length).feed (fields.flatMap WrittenField.bytes) =
      (.ok .needMore, atLine (sink.addHeaders (fields.map WrittenField.entry)) length) := by
  induction fields generalizing sink with
  | nil => rfl
  | cons f rest ih =>
    have first := feed_plainField sink length (plain f (by simp))
    have others := ih (sink.addHeader f.name f.value) fun g hg => plain g (by simp [hg])
    exact feed_whole_append first others

/-- The sink once a head has been read. -/
def withHead (sink : Sink) (head : WrittenHead) : Sink :=
  (withFirstLine sink head).addHeaders (head.fields.map WrittenField.entry)

/-- A head without a length is read as it was written. -/
theorem feed_unsized (sink : Sink) {head : WrittenHead} (unsized : head.Unsized) :
    (start 1 sink).feed (head.firstLine ++ head.fields.flatMap WrittenField.bytes) =
      (.ok .needMore, atLine (withHead sink head) none) :=
  feed_whole_append (feed_firstLine sink head) (feed_plainFields _ none unsized)

/-- A head with a length is read as it was written. -/
theorem feed_sized (sink : Sink) {head : WrittenHead} {n : Nat} (sized : head.Sized n) :
    (start 1 sink).feed (head.firstLine ++ head.fields.flatMap WrittenField.bytes) =
      (.ok .needMore, atLine (withHead sink head) (some n)) := by
  obtain ⟨fits, before, f, after, fields, tells, value, plainBefore, plainAfter⟩ := sized
  let first := withFirstLine sink head
  let telling := first.addHeaders (before.map WrittenField.entry)
  have unknown := feed_plainFields first none plainBefore
  have told := feed_lengthField telling none tells value fits
  have known := feed_plainFields (telling.addHeader f.name f.value) (some n) plainAfter
  have whole := feed_whole_append (feed_firstLine sink head)
    (feed_whole_append (feed_whole_append unknown told) known)
  rw [withHead, fields]
  simpa [Sink.addHeaders, Sink.addHeader, Fields.addAll, WrittenField.entry, telling, first]
    using whole

/-! ## The body -/

/-- The empty line ends the head, and what follows belongs to the body. -/
theorem readWhole_emptyLine (sink : Sink) (length : Option Nat) (ending : LineEnd) (bytes : Bytes) :
    (atLine sink length).readWhole (ending.bytes ++ bytes) =
      ((atLine sink length).finishHead.feed bytes).2.finishAtEnd := by
  have feed : (atLine sink length).feed [10] = (.ok
      (if (atLine sink length).finishHead.phase = .done then .done 1 else .headEnded 1),
      (atLine sink length).finishHead) := rfl
  have lineFeed : (atLine sink length).readWhole ([10] ++ bytes) =
      ((atLine sink length).finishHead.feed bytes).2.finishAtEnd := by
    by_cases done : (atLine sink length).finishHead.phase = .done
    · rw [if_pos done] at feed
      rw [readWhole_done feed, Reader.feed, feedFrom_done done, finishAtEnd, done]
    · rw [if_neg done] at feed
      rw [readWhole_headEnded feed, readWhole_past (feedFrom_headEnded feed).1]
      rfl
  cases ending with
  | lf => exact lineFeed
  | crlf =>
    have skipped : (atLine sink length).feed [13] = (.ok .needMore, atLine sink length) :=
      feed_one rfl rfl
    exact (readWhole_needMore skipped ([10] ++ bytes)).trans lineFeed

/-- A reader that has taken so many bytes of a body. -/
def atBody (sink : Sink) (length : Option Nat) (received : Nat) : Reader :=
  { phase := .body, contentLength := length, received, capacity := 1, sink }

theorem feed_unsizedBody (sink : Sink) (bytes : Bytes) :
    ((atBody sink none 0).feed bytes).2 = atBody (sink.append bytes) none bytes.length := by
  cases bytes with
  | nil => rw [Sink.append_nil]; rfl
  | cons b rest =>
    rw [feed, feedFrom_body rfl, takeBody_unsized rfl]
    simp [atBody]

theorem feed_sizedBody (sink : Sink) {n : Nat} (positive : n ≠ 0) (bytes : Bytes) :
    ((atBody sink (some n) 0).feed bytes).2 =
      { atBody (sink.append (bytes.take n)) (some n) (min n bytes.length) with
        phase := if n ≤ bytes.length then .done else .body } := by
  cases bytes with
  | nil =>
    have short : ¬ n ≤ 0 := by omega
    simp [feed, feedFrom, atBody, Sink.append_nil, short]
  | cons b rest =>
    rw [feed, feedFrom_body rfl, takeBody_sized (n := n) rfl]
    simp [atBody]

/-- A body of unknown length is what comes before the end of the stream. -/
theorem readWhole_unsized (sink : Sink) (ending : LineEnd) (body : Bytes) :
    ((atLine sink none).readWhole (ending.bytes ++ body)).1 = .ok () ∧
      ((atLine sink none).readWhole (ending.bytes ++ body)).2.sink =
        { sink with bodySize := some body.length }.append body := by
  have head : (atLine sink none).finishHead = atBody sink none 0 := rfl
  rw [readWhole_emptyLine, head, feed_unsizedBody]
  exact ⟨rfl, rfl⟩

/-- A body of known length is what comes up to it; what comes after it is left. -/
theorem readWhole_sized (sink : Sink) (ending : LineEnd) (body later : Bytes) :
    ((atLine sink (some body.length)).readWhole (ending.bytes ++ (body ++ later))).1 = .ok () ∧
      ((atLine sink (some body.length)).readWhole (ending.bytes ++ (body ++ later))).2.sink =
        { sink with bodySize := some body.length }.append body := by
  rw [readWhole_emptyLine]
  by_cases empty : body.length = 0
  · have head : (atLine sink (some body.length)).finishHead =
        { atLine { sink with bodySize := some body.length } (some body.length) with
          phase := .done } := by
      simp [finishHead, atLine, empty]
    rw [head, feed, feedFrom_done rfl, List.eq_nil_of_length_eq_zero empty, Sink.append_nil]
    exact ⟨rfl, rfl⟩
  · have head : (atLine sink (some body.length)).finishHead =
        atBody { sink with bodySize := some body.length } (some body.length) 0 := by
      simp [finishHead, atLine, atBody, empty]
    have complete : body.length ≤ (body ++ later).length := by simp
    rw [head, feed_sizedBody _ empty, List.take_left, if_pos complete]
    exact ⟨rfl, rfl⟩

/-- A body that is too short is kept as far as it came. -/
theorem readWhole_short (sink : Sink) (ending : LineEnd) {body : Bytes} {n : Nat}
    (short : body.length < n) :
    ((atLine sink (some n)).readWhole (ending.bytes ++ body)).1 =
        .error (.incompleteBody n body.length) ∧
      ((atLine sink (some n)).readWhole (ending.bytes ++ body)).2.sink =
        { sink with bodySize := some n }.append body := by
  have positive : n ≠ 0 := by omega
  have head : (atLine sink (some n)).finishHead =
      atBody { sink with bodySize := some n } (some n) 0 := by
    simp [finishHead, atLine, atBody, positive]
  have incomplete : ¬ n ≤ body.length := by omega
  have all : min n body.length = body.length := by omega
  rw [readWhole_emptyLine, head, feed_sizedBody _ positive, if_neg incomplete,
    List.take_of_length_le (by omega), all]
  exact ⟨rfl, rfl⟩

/-! ## The whole response -/

theorem holds_append (url : String) (head : WrittenHead) (size : Nat) (body : Bytes) :
    ({ withHead (.inMemory url) head with bodySize := some size }.append body).Holds url head body
      size where
  url := rfl
  version := rfl
  status := rfl
  description := rfl
  headers name := by
    have first := Fields.get?_addAll .empty (head.fields.map WrittenField.entry) name
    rw [Fields.get?_empty, Option.none_or, List.find?_map, Option.map_map] at first
    exact first
  progress := by simp [Sink.append, withHead, withFirstLine, Sink.addHeaders, Sink.inMemory]
  body := by simp [Sink.append, withHead, withFirstLine, Sink.addHeaders, Sink.inMemory]
  bodySize := rfl
  completed := rfl

/-- **A response is read as it was written**, however it is delivered. If one field tells the length
of the body, the body is so many bytes, and what follows them is ignored; if none does, the body is
all that comes before the end of the stream. If fewer bytes come than the length says, the response
is incomplete, and what came is kept. -/
theorem readAll_written (head : WrittenHead) (body : Bytes) (url : String)
    (deliveries : List Delivery) (bufferSize : Nat) (disk : Disk) :
    let read := (start bufferSize (.inMemory url)).readAll ⟨deliveries, false⟩ disk
    (∀ later, head.Sized body.length → Delivers deliveries (head.bytes ++ (body ++ later)) →
      read.outcome = .ok () ∧ read.reader.sink.Holds url head body body.length) ∧
    (head.Unsized → Delivers deliveries (head.bytes ++ body) →
      read.outcome = .ok () ∧ read.reader.sink.Holds url head body body.length) ∧
    (∀ n, head.Sized n → body.length < n → Delivers deliveries (head.bytes ++ body) →
      read.outcome = .error (.incompleteBody n body.length) ∧
        read.reader.sink.Holds url head body n) := by
  intro read
  have comes {bytes : Bytes} (h : Delivers deliveries bytes) :
      read.outcome = ((start 1 (.inMemory url)).readWhole bytes).1 ∧
        read.reader.sink = ((start 1 (.inMemory url)).readWhole bytes).2.sink := by
    obtain ⟨outcome, reader⟩ := readAll_delivers (.inMemory url) rfl h bufferSize disk
    exact ⟨outcome, congrArg (·.sink) reader⟩
  refine ⟨fun later sized h => ?_, fun unsized h => ?_, fun n sized short h => ?_⟩
  · obtain ⟨outcome, sink⟩ := comes h
    have whole := readWhole_sized (withHead (.inMemory url) head) head.lastEnding body later
    rw [head.bytes_append, readWhole_needMore (feed_sized (.inMemory url) sized)] at outcome sink
    rw [outcome, sink, whole.1, whole.2]
    exact ⟨rfl, holds_append url head body.length body⟩
  · obtain ⟨outcome, sink⟩ := comes h
    have whole := readWhole_unsized (withHead (.inMemory url) head) head.lastEnding body
    rw [head.bytes_append, readWhole_needMore (feed_unsized (.inMemory url) unsized)]
      at outcome sink
    rw [outcome, sink, whole.1, whole.2]
    exact ⟨rfl, holds_append url head body.length body⟩
  · obtain ⟨outcome, sink⟩ := comes h
    have whole := readWhole_short (withHead (.inMemory url) head) head.lastEnding short
    rw [head.bytes_append, readWhole_needMore (feed_sized (.inMemory url) sized)] at outcome sink
    rw [outcome, sink, whole.1, whole.2]
    exact ⟨rfl, holds_append url head n body⟩

/-- A response of two bytes with one more after it, one that ends with the stream, and one that is
too short. -/
theorem readAll_written_two_bytes :
    let field : WrittenField :=
      ⟨"X", "a b", .lf, by decide, by decide, by simp, by decide, by simp⟩
    let unsized : WrittenHead :=
      ⟨"HTTP/1.0", 200, "OK", .crlf, [field], .crlf, by simp, by simp⟩
    let sized (n : Nat) : WrittenHead := { unsized with fields := [field, .length n .crlf] }
    let once (bytes : Bytes) : List Delivery := [⟨false, .ok bytes⟩, ⟨false, .ok []⟩]
    let read (bytes : Bytes) := (start 2048 (.inMemory "http://h/")).readAll ⟨once bytes, false⟩ {}
    let body : Bytes := [97, 98]
    ((read ((sized 2).bytes ++ (body ++ [99]))).outcome = .ok () ∧
      (read ((sized 2).bytes ++ (body ++ [99]))).reader.sink.Holds "http://h/" (sized 2) body 2) ∧
    ((read (unsized.bytes ++ body)).outcome = .ok () ∧
      (read (unsized.bytes ++ body)).reader.sink.Holds "http://h/" unsized body 2) ∧
    ((read ((sized 3).bytes ++ body)).outcome = .error (.incompleteBody 3 2) ∧
      (read ((sized 3).bytes ++ body)).reader.sink.Holds "http://h/" (sized 3) body 3) := by
  intro field unsized sized once read body
  have tells (n : Nat) (fits : n ≤ Decimal.max64) : (sized n).Sized n :=
    ⟨fits, [field], .length n .crlf, [], rfl, WrittenField.isLength_length n .crlf, rfl, by decide,
      by simp⟩
  have silent : unsized.Unsized := by
    unfold WrittenHead.Unsized
    decide
  have delivers {bytes : Bytes} (some : bytes ≠ []) : Delivers (once bytes) bytes := by
    simpa using Delivers.portion some (.closed [])
  have whole (head : WrittenHead) (bytes : Bytes) :=
    readAll_written head body "http://h/" (once bytes) 2048 {}
  simp only [read]
  refine ⟨?_, ?_, ?_⟩
  · exact (whole (sized 2) _).1 [99] (tells 2 (by decide)) (delivers (by simp [body]))
  · exact (whole unsized _).2.1 silent (delivers (by simp [body]))
  · exact (whole (sized 3) _).2.2 3 (tells 3 (by decide)) (by decide) (delivers (by simp [body]))

end Reader
end HttpFetch
