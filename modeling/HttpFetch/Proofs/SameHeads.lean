import HttpFetch.Proofs.HeadLines
import HttpFetch.Proofs.Hops
import HttpFetch.Proofs.UserInfo
import Mathlib.Data.List.Forall2
/-!
# Heads with other locations

A reader takes a head line by line, and what a field says has no part in how the next line is read
(`Reader.Alike.step`). So from responses that differ only in their locations come heads that differ
only in them (`Reader.Alike.after_response`).
-/

namespace HttpFetch

/-! ## Fields -/

namespace Fields

/-- Two entries of one name; the values of a location may differ if they lead alike. -/
def AlikeEntry (entry entry' : String × String) : Prop :=
  entry.1 = entry'.1 ∧
    (Ascii.sameName entry.1 "location" = true → Url.LeadsAlike entry.2 entry'.2)

/-- Two sets of fields with the same names, of which the locations lead alike. -/
def Alike (fields fields' : Fields) : Prop :=
  List.Forall₂ AlikeEntry fields.entries fields'.entries

theorem alike_place {merge : String → String} {name value value' : String}
    (merged : ∀ value, merge value = value)
    (alike : Ascii.sameName name "location" = true → Url.LeadsAlike value value')
    {entries entries' : List (String × String)} (same : List.Forall₂ AlikeEntry entries entries') :
    List.Forall₂ AlikeEntry (place merge name value entries)
      (place merge name value' entries') := by
  induction same with
  | nil => exact .cons ⟨rfl, alike⟩ .nil
  | @cons entry entry' rest rest' head tail ih =>
    obtain ⟨n, v⟩ := entry
    obtain ⟨n', v'⟩ := entry'
    obtain ⟨rfl, values⟩ := head
    rw [place, place]
    split_ifs
    · exact .cons ⟨rfl, alike⟩ (.cons ⟨rfl, values⟩ tail)
    · rw [merged, merged]
      exact .cons ⟨rfl, values⟩ tail
    · exact .cons ⟨rfl, values⟩ ih

theorem Alike.add {fields fields' : Fields} (same : fields.Alike fields')
    {name value value' : String}
    (alike : Ascii.sameName name "location" = true → Url.LeadsAlike value value') :
    (fields.add name value).Alike (fields'.add name value') :=
  alike_place (fun _ => rfl) alike same

/-- The locations that are found lead alike. -/
theorem Alike.find? {fields fields' : Fields} (same : fields.Alike fields') {value value' : String}
    (h : fields.find? "location" = some value) (h' : fields'.find? "location" = some value') :
    Url.LeadsAlike value value' := by
  rw [Fields.find?] at h h'
  rw [Alike] at same
  generalize fields.entries = entries at same h
  generalize fields'.entries = entries' at same h'
  induction same with
  | nil => cases h
  | @cons entry entry' rest rest' head tail ih =>
    obtain ⟨names, values⟩ := head
    rw [List.find?_cons] at h h'
    rw [← names] at h'
    rcases location : Ascii.sameName entry.1 "location" with _ | _ <;>
      simp only [location] at h h'
    · exact ih h h'
    · cases h
      cases h'
      exact values location

end Fields

namespace Reader

/-- Two readers at the same place of heads in which the locations lead alike. -/
structure Alike (r r' : Reader) : Prop where
  phase : r.phase = r'.phase
  token : r.token = r'.token
  value : r.value = r'.value
  contentLength : r.contentLength = r'.contentLength
  headers : r.sink.headers.Alike r'.sink.headers

variable {r r' : Reader}

theorem Alike.finishStatus (same : r.Alike r') (next : Phase) :
    (r.finishStatus next).1 = (r'.finishStatus next).1 ∧
      (r.finishStatus next).2.Alike (r'.finishStatus next).2 := by
  rw [Reader.finishStatus, Reader.finishStatus, same.token]
  rcases Decimal.readNat Decimal.max16 (textOf r'.token).toList with e | n
  · exact ⟨rfl, same.phase, rfl, same.value, same.contentLength, same.headers⟩
  · exact ⟨rfl, rfl, rfl, same.value, same.contentLength, same.headers⟩

theorem Alike.finishField (same : r.Alike r') :
    r.finishField.1 = r'.finishField.1 ∧ r.finishField.2.Alike r'.finishField.2 := by
  have name : r.fieldName = r'.fieldName := by rw [fieldName, fieldName, same.token]
  have value : r.fieldValue = r'.fieldValue := by rw [fieldValue, fieldValue, same.value]
  have headers : (r.sink.headers.add r.fieldName r.fieldValue).Alike
      (r'.sink.headers.add r'.fieldName r'.fieldValue) := by
    rw [name, value]
    exact same.headers.add fun _ => .inl rfl
  by_cases named : r.fieldName.isEmpty = true
  · have named' := named
    rw [name] at named'
    rw [finishField_nameless named, finishField_nameless named']
    exact ⟨rfl, rfl, rfl, rfl, same.contentLength, same.headers⟩
  rw [Bool.not_eq_true] at named
  have named' := named
  rw [name] at named'
  by_cases length : isLengthName r.fieldName = true
  · have length' := length
    rw [name] at length'
    rcases number : Decimal.readNat Decimal.max64 r.fieldValue.toList with e | n
    · have number' := number
      rw [value] at number'
      rw [finishField_noLength named length number, finishField_noLength named' length' number',
        value]
      exact ⟨rfl, same.phase, rfl, rfl, same.contentLength, same.headers⟩
    · have number' := number
      rw [value] at number'
      rw [finishField_length named length number, finishField_length named' length' number']
      exact ⟨rfl, rfl, rfl, rfl, rfl, headers⟩
  · rw [Bool.not_eq_true] at length
    have length' := length
    rw [name] at length'
    rw [finishField_plain named length, finishField_plain named' length']
    exact ⟨rfl, rfl, rfl, rfl, same.contentLength, headers⟩

theorem Alike.finishHead (same : r.Alike r') : r.finishHead.Alike r'.finishHead := by
  have length := same.contentLength
  rcases own : r.contentLength with _ | n <;> rw [own] at length <;>
    simp only [Reader.finishHead, own, ← length]
  · exact ⟨rfl, same.token, same.value, rfl, same.headers⟩
  · exact ⟨rfl, same.token, same.value, rfl, same.headers⟩

/-- A byte does the same to both. -/
theorem Alike.step (same : r.Alike r') (b : UInt8) :
    (r.step b).1 = (r'.step b).1 ∧ (r.step b).2.Alike (r'.step b).2 := by
  have kept : (r.keep b).Alike (r'.keep b) :=
    ⟨same.phase, congrArg (·.push b) same.token, same.value, same.contentLength, same.headers⟩
  have status (next : Phase) := same.finishStatus next
  have field := same.finishField
  rw [Reader.step, Reader.step, same.phase, same.token]
  generalize r.finishField = ended at field ⊢
  generalize r'.finishField = ended' at field ⊢
  cases phase : r'.phase with
  | version =>
    simp only
    split_ifs
    · exact ⟨rfl, rfl, rfl, same.value, same.contentLength, same.headers⟩
    · exact ⟨rfl, same⟩
    · exact ⟨rfl, kept⟩
  | status =>
    simp only
    split_ifs
    · exact ⟨rfl, same⟩
    · exact ⟨congrArg (·.map fun _ => false) (status .description).1, (status .description).2⟩
    · exact ⟨rfl, same⟩
    · exact ⟨congrArg (·.map fun _ => false) (status .name).1, (status .name).2⟩
    · exact ⟨rfl, kept⟩
  | description =>
    simp only
    split_ifs
    · exact ⟨rfl, same⟩
    · exact ⟨rfl, rfl, rfl, same.value, same.contentLength, same.headers⟩
    · exact ⟨rfl, kept⟩
  | name =>
    simp only
    split_ifs
    · exact ⟨rfl, same⟩
    · exact ⟨rfl, same.finishHead⟩
    · exact ⟨congrArg (·.map fun _ => false) field.1, field.2⟩
    · exact ⟨rfl, rfl, rfl, same.value, same.contentLength, same.headers⟩
    · exact ⟨rfl, kept⟩
  | value =>
    simp only
    split_ifs
    · exact ⟨rfl, same⟩
    · exact ⟨congrArg (·.map fun _ => false) field.1, field.2⟩
    · exact ⟨rfl, rfl, rfl, congrArg (·.push b) same.value, same.contentLength, same.headers⟩
  | body => exact ⟨rfl, same⟩
  | done => exact ⟨rfl, same⟩

/-- So do the bytes of a portion, up to the end of the head. -/
theorem Alike.feedFrom (same : r.Alike r') (head : r.phase.isHead = true) (taken : Nat)
    (bytes : Bytes) : (r.feedFrom taken bytes).1 = (r'.feedFrom taken bytes).1 ∧
      (r.feedFrom taken bytes).2.Alike (r'.feedFrom taken bytes).2 := by
  induction bytes generalizing r r' taken with
  | nil =>
    rw [Reader.feedFrom, Reader.feedFrom, same.phase]
    exact ⟨rfl, same⟩
  | cons b rest ih =>
    have takes := takes_step head b
    obtain ⟨outcome, next⟩ := same.step b
    rw [feedFrom_head head, feedFrom_head (same.phase ▸ head)]
    rcases step : r.step b with ⟨e | ended, r₁⟩ <;>
      rcases step' : r'.step b with ⟨e' | ended', r₁'⟩ <;>
      rw [step, step'] at outcome next <;> rw [step] at takes <;> cases outcome
    · exact ⟨rfl, next⟩
    · cases ended
      · exact ih next (takes.isHead head) (taken + 1)
      · have phase := next.phase
        simp only at phase
        simp only [phase, true_and]
        exact next

/-! ## A line with a location -/

/-- A line that names a location adds it to the sink. -/
theorem after_location (atField : r.AtField) {name value : Bytes}
    (plain : ∀ b ∈ name, b ≠ 58 ∧ b ≠ 10) (plain' : 10 ∉ value)
    (location : Ascii.sameName (lineText name) "location" = true) (rest : Bytes) :
    r.after (name ++ 58 :: (value ++ 10 :: rest)) =
      { r with sink := r.sink.addHeader (lineText name) (lineText value) }.after rest := by
  have lower : (lineText name).toList.map Ascii.lower = "location".toList.map Ascii.lower := by
    simpa [Ascii.sameName] using location
  have named : (lineText name).isEmpty = false := by
    rw [← Bool.not_eq_true]
    intro empty
    rw [String.isEmpty_iff.1 empty] at lower
    cases lower
  have length : isLengthName (lineText name) = false := by
    rw [isLengthName, Ascii.sameName, lower]
    decide
  have open' : 10 ∉ name ++ 58 :: value := by
    rw [List.mem_append, List.mem_cons]
    rintro (mem | same | mem)
    · exact (plain 10 mem).2 rfl
    · cases same
    · exact plain' mem
  have field := after_plain atField open'
    (fieldOf?_colon (fun mem => (plain 58 mem).1 rfl) named) length rest
  rwa [List.append_assoc] at field

end Reader

/-- Lines of a head that are the same, but for locations, which lead alike. From some point on there
is no difference any more. -/
inductive AlikeFields : Bytes → Bytes → Prop
  | same (bytes : Bytes) : AlikeFields bytes bytes
  | lines {lines rest rest' : Bytes} :
    AlikeFields rest rest' → AlikeFields (lines ++ 10 :: rest) (lines ++ 10 :: rest')
  | location {name value value' rest rest' : Bytes} :
    (∀ b ∈ name, b ≠ 58 ∧ b ≠ 10) → Ascii.sameName (Reader.lineText name) "location" = true →
    10 ∉ value → 10 ∉ value' → Url.LeadsAlike (Reader.lineText value) (Reader.lineText value') →
    AlikeFields rest rest' →
    AlikeFields (name ++ 58 :: (value ++ 10 :: rest)) (name ++ 58 :: (value' ++ 10 :: rest'))

/-- Responses that are the same, but for locations in their heads, which lead alike. -/
inductive AlikeResponses : Bytes → Bytes → Prop
  | same (bytes : Bytes) : AlikeResponses bytes bytes
  /-- after some lines at least -/
  | fields {lines rest rest' : Bytes} :
    AlikeFields rest rest' → AlikeResponses (lines ++ 10 :: rest) (lines ++ 10 :: rest')

namespace Reader

variable {r r' : Reader}

/-- The same lines lead both readers to fields again, or neither. -/
theorem Alike.after_lines (same : r.Alike r') (value : r.ValueInField)
    (head : r.phase.isHead = true) {lines rest rest' : Bytes}
    (later : ∀ next next' : Reader, next.Alike next' → next.AtField →
      (next.after rest).Alike (next'.after rest')) :
    (r.after (lines ++ 10 :: rest)).Alike (r'.after (lines ++ 10 :: rest')) := by
  obtain ⟨outcome, next⟩ := same.feedFrom head 0 (lines ++ [10])
  have atField := @atField_of_feedFrom r
  have split (rest : Bytes) : lines ++ 10 :: rest = lines ++ [10] ++ rest := by simp
  rw [split rest, split rest', after_append, after_append, feed, feed]
  rcases fed : r.feedFrom 0 (lines ++ [10]) with ⟨e | feed, after⟩ <;>
    rcases fed' : r'.feedFrom 0 (lines ++ [10]) with ⟨e' | feed', after'⟩ <;>
    rw [fed, fed'] at outcome next <;> cases outcome
  · exact next
  · cases feed with
    | needMore => exact later after after' next (atField value head fed)
    | headEnded k => exact next
    | done k => exact next

theorem Alike.after_fields (same : r.Alike r') (atField : r.AtField) {bytes bytes' : Bytes}
    (alike : AlikeFields bytes bytes') : (r.after bytes).Alike (r'.after bytes') := by
  induction alike generalizing r r' with
  | same bytes =>
    exact (same.feedFrom (by rw [atField.phase]; rfl) 0 bytes).2
  | lines _ ih =>
    exact same.after_lines (.inl atField.phase) (by rw [atField.phase]; rfl) fun _ _ => ih
  | location plain location plain' plain'' leads _ ih =>
    have atField' : r'.AtField :=
      ⟨same.phase ▸ atField.phase, same.token ▸ atField.token, same.value ▸ atField.value⟩
    rw [after_location atField plain plain' location,
      after_location atField' plain plain'' location]
    exact ih ⟨same.phase, same.token, same.value, same.contentLength,
      same.headers.add fun _ => leads⟩ ⟨atField.phase, atField.token, atField.value⟩

/-- **From alike responses readers get alike heads.** -/
theorem Alike.after_response (same : r.Alike r') (value : r.ValueInField)
    (head : r.phase.isHead = true) {bytes bytes' : Bytes} (alike : AlikeResponses bytes bytes') :
    (r.after bytes).Alike (r'.after bytes') := by
  cases alike with
  | same => exact (same.feedFrom head 0 bytes).2
  | fields alike =>
    exact same.after_lines value head fun _ _ same atField => same.after_fields atField alike

/-- The locations in heads that are read from alike responses lead alike. -/
theorem leadsAlike_of_readHead {size : Nat} {sink sink' : Sink} {s s' later later' : Stream}
    {reader reader' : Reader} (headers : sink.headers = .empty) (headers' : sink'.headers = .empty)
    (alike : AlikeResponses s.waiting s'.waiting)
    (read : (start size sink).readHead s = (.ok (), reader, later))
    (read' : (start size sink').readHead s' = (.ok (), reader', later'))
    {location location' : String}
    (found : Redirects.location? reader.sink = some location)
    (found' : Redirects.location? reader'.sink = some location') :
    Url.LeadsAlike location location' := by
  have positive : 0 < max size 1 := by omega
  have own : reader.sink.headers = ((Reader.start size sink).after s.waiting).sink.headers :=
    congrArg (·.sink.headers) (readHead_waiting (r := start size sink) rfl positive read)
  have other : reader'.sink.headers = ((Reader.start size sink').after s'.waiting).sink.headers :=
    congrArg (·.sink.headers) (readHead_waiting (r := start size sink') rfl positive read')
  have start : (start size sink).Alike (start size sink') :=
    ⟨rfl, rfl, rfl, rfl, by
      rw [Reader.start, Reader.start, headers, headers']
      exact .nil⟩
  have same : reader.sink.headers.Alike reader'.sink.headers := by
    rw [own, other]
    exact (start.after_response (.inr (.inr rfl)) rfl alike).headers
  exact same.find? (Option.filter_eq_some_iff.1 found).1 (Option.filter_eq_some_iff.1 found').1

end Reader
end HttpFetch
