import HttpFetch.Response.Reader
import Mathlib.Tactic.SplitIfs
/-!
# Portions of a response

What a reader makes of a portion depends on where it stands in the response and on nothing else:
not on the bytes it happens to hold (`feedFrom_withWindow`), and not on where the portion ends,
since two portions come to the same as one (`feedFrom_append`). Taking bytes of a body is put
together in the same way (`takeBody_takeBody`).
-/

namespace HttpFetch

/-- What becomes of a portion, counted from `n` bytes before it. -/
def Feed.later (n : Nat) : Feed → Feed
  | .needMore => .needMore
  | .headEnded taken => .headEnded (n + taken)
  | .done taken => .done (n + taken)

/-- Adding bytes twice adds both. -/
theorem Sink.append_append (sink : Sink) (a b : Bytes) :
    (sink.append a).append b = sink.append (a ++ b) := by
  have assoc (bytes : Array UInt8) : bytes ++ a ++ b = bytes ++ (a ++ b) := Array.ext' (by simp)
  cases h : sink.body <;> simp [Sink.append, h, Nat.add_assoc, assoc]

/-- Adding no bytes changes nothing. -/
theorem Sink.append_nil (sink : Sink) : sink.append [] = sink := by
  cases sink with
  | mk url version status description headers bodySize progress body completed =>
    cases body <;> simp [Sink.append]

/-- A response is at its head or at its body, or it is over. -/
theorem Phase.isHead_or (phase : Phase) : phase.isHead = true ∨ phase = .body ∨ phase = .done := by
  cases phase <;> simp [isHead]

theorem Phase.ne_done {phase : Phase} (head : phase.isHead = true) : phase ≠ .done := by
  rintro rfl
  cases head

/-- After the head there are only the body and the end. -/
theorem Phase.body_or_done {phase : Phase} (past : phase.isHead = false) :
    phase = .body ∨ phase = .done := by
  refine phase.isHead_or.resolve_left fun head => ?_
  rw [past] at head
  cases head

namespace Reader

/-- A reader that has just started has room for a byte. -/
theorem capacity_start_pos (size : Nat) (sink : Sink) : 0 < (start size sink).capacity :=
  Nat.lt_of_lt_of_le Nat.one_pos (Nat.le_max_right size 1)

/-! ## Fields of a head -/

/-- The name of the field under way. -/
def fieldName (r : Reader) : String := Text.trim (textOf r.token)

/-- The value of the field under way. -/
def fieldValue (r : Reader) : String := Text.trim (textOf r.value)

/-- A field without a name is dropped. -/
theorem finishField_nameless {r : Reader} (nameless : r.fieldName.isEmpty = true) :
    r.finishField = (.ok (), { r with phase := .name, token := #[], value := #[] }) := by
  rw [fieldName] at nameless
  rw [finishField]
  simp only [nameless, if_true]

/-- A field that does not tell the length only lands in the sink. -/
theorem finishField_plain {r : Reader} (named : r.fieldName.isEmpty = false)
    (plain : isLengthName r.fieldName = false) :
    r.finishField = (.ok (), { r with
      phase := .name, token := #[], value := #[]
      sink := r.sink.addHeader r.fieldName r.fieldValue }) := by
  rw [fieldName] at named plain
  rw [finishField]
  simp only [named, plain, if_false, Bool.false_eq_true, fieldName, fieldValue]

/-- A field that tells the length sets it. -/
theorem finishField_length {r : Reader} {n : Nat} (named : r.fieldName.isEmpty = false)
    (length : isLengthName r.fieldName = true)
    (number : Decimal.readNat Decimal.max64 r.fieldValue.toList = .ok n) :
    r.finishField = (.ok (), { r with
      phase := .name, token := #[], value := #[], contentLength := some n
      sink := r.sink.addHeader r.fieldName r.fieldValue }) := by
  rw [fieldName] at named length
  rw [fieldValue] at number
  rw [finishField]
  simp only [named, length, number, if_true, if_false, Bool.false_eq_true, fieldName, fieldValue]

/-- A length that is no number is refused. -/
theorem finishField_noLength {r : Reader} {e : Decimal.Fault} (named : r.fieldName.isEmpty = false)
    (length : isLengthName r.fieldName = true)
    (number : Decimal.readNat Decimal.max64 r.fieldValue.toList = .error e) :
    r.finishField = (.error (.malformedResponse (.contentLength r.fieldValue)),
      { r with token := #[], value := #[] }) := by
  rw [fieldName] at named length
  rw [fieldValue] at number
  rw [finishField]
  simp only [named, length, number, if_true, if_false, Bool.false_eq_true, fieldValue]

/-! ## The window does not matter -/

/-- The reader with other bytes in its hands. -/
def withWindow (r : Reader) (capacity : Nat) (window : Bytes) (mark : Nat) : Reader :=
  { r with capacity, window, mark }

section Window

variable (r : Reader) (capacity : Nat) (window : Bytes) (mark : Nat)

theorem finishStatus_withWindow (next : Phase) :
    (r.withWindow capacity window mark).finishStatus next =
      ((r.finishStatus next).1, (r.finishStatus next).2.withWindow capacity window mark) := by
  simp only [finishStatus, withWindow]
  split <;> rfl

theorem finishField_withWindow :
    (r.withWindow capacity window mark).finishField =
      (r.finishField.1, r.finishField.2.withWindow capacity window mark) := by
  by_cases named : r.fieldName.isEmpty = true
  · rw [finishField_nameless named,
      finishField_nameless (r := r.withWindow capacity window mark) named]
    rfl
  rw [Bool.not_eq_true] at named
  by_cases length : isLengthName r.fieldName = true
  · rcases number : Decimal.readNat Decimal.max64 r.fieldValue.toList with e | n
    · rw [finishField_noLength named length number,
        finishField_noLength (r := r.withWindow capacity window mark) named length number]
      rfl
    · rw [finishField_length named length number,
        finishField_length (r := r.withWindow capacity window mark) named length number]
      rfl
  · rw [Bool.not_eq_true] at length
    rw [finishField_plain named length,
      finishField_plain (r := r.withWindow capacity window mark) named length]
    rfl

theorem finishHead_withWindow :
    (r.withWindow capacity window mark).finishHead =
      r.finishHead.withWindow capacity window mark := by
  rcases h : r.contentLength with _ | n <;> simp [finishHead, withWindow, h]

/-- A byte of the head means the same whatever the reader holds. -/
theorem step_withWindow (b : UInt8) :
    (r.withWindow capacity window mark).step b =
      ((r.step b).1, (r.step b).2.withWindow capacity window mark) := by
  have phase : (r.withWindow capacity window mark).phase = r.phase := rfl
  have token : (r.withWindow capacity window mark).token = r.token := rfl
  rw [step, step, phase, token, finishStatus_withWindow, finishStatus_withWindow,
    finishField_withWindow, finishHead_withWindow]
  cases h : r.phase with
  | version => simp only; split_ifs <;> rfl
  | status =>
    simp only
    split_ifs <;> simp only
    rfl
  | description => simp only; split_ifs <;> rfl
  | name =>
    simp only
    split_ifs <;> simp only <;> rfl
  | value =>
    simp only
    split_ifs <;> simp only
    rfl
  | body => rfl
  | done => rfl

theorem takeBody_withWindow (bytes : Bytes) :
    (r.withWindow capacity window mark).takeBody bytes =
      (r.takeBody bytes).withWindow capacity window mark := rfl

theorem finishAtEnd_withWindow :
    (r.withWindow capacity window mark).finishAtEnd =
      (r.finishAtEnd.1, r.finishAtEnd.2.withWindow capacity window mark) := by
  rcases hp : r.phase <;> rcases hn : r.contentLength with _ | n <;>
    simp [finishAtEnd, withWindow, hp, hn]

/-- A portion means the same whatever the reader holds. -/
theorem feedFrom_withWindow (taken : Nat) (bytes : Bytes) :
    (r.withWindow capacity window mark).feedFrom taken bytes =
      ((r.feedFrom taken bytes).1,
        (r.feedFrom taken bytes).2.withWindow capacity window mark) := by
  induction bytes generalizing r taken with
  | nil => rfl
  | cons b rest ih =>
    have phase : (r.withWindow capacity window mark).phase = r.phase := rfl
    simp only [feedFrom, phase, step_withWindow, takeBody_withWindow]
    cases r.phase with
    | done => rfl
    | body => rfl
    | _ =>
      rcases r.step b with ⟨_ | ended, next⟩
      · rfl
      · cases ended
        · exact ih next (taken + 1)
        · rfl

theorem feed_withWindow (bytes : Bytes) :
    (r.withWindow capacity window mark).feed bytes =
      ((r.feed bytes).1, (r.feed bytes).2.withWindow capacity window mark) :=
  feedFrom_withWindow r capacity window mark 0 bytes

end Window

/-! ## Two portions -/

theorem feedFrom_head {r : Reader} (head : r.phase.isHead = true) (taken : Nat) (b : UInt8)
    (rest : Bytes) :
    r.feedFrom taken (b :: rest) =
      match r.step b with
      | (.error e, next) => (.error e, next)
      | (.ok true, next) =>
        (.ok (if next.phase = .done then .done (taken + 1) else .headEnded (taken + 1)), next)
      | (.ok false, next) => next.feedFrom (taken + 1) rest := by
  rw [feedFrom]
  cases phase : r.phase with
  | body | done => simp [phase, Phase.isHead] at head
  | _ => rfl

theorem feedFrom_body {r : Reader} (body : r.phase = .body) (taken : Nat) (b : UInt8)
    (rest : Bytes) :
    r.feedFrom taken (b :: rest) =
      (.ok (if (r.takeBody (b :: rest)).phase = .done
        then .done (taken + r.wanted (rest.length + 1)) else .needMore),
        r.takeBody (b :: rest)) := by
  simp only [feedFrom, body]

theorem feedFrom_done {r : Reader} (done : r.phase = .done) (taken : Nat) (bytes : Bytes) :
    r.feedFrom taken bytes = (.ok (.done taken), r) := by
  cases bytes <;> simp [feedFrom, done]

/-- Where a portion is counted from does not matter. -/
theorem feedFrom_later (r : Reader) (n taken : Nat) (bytes : Bytes) :
    r.feedFrom (n + taken) bytes =
      ((r.feedFrom taken bytes).1.map (Feed.later n), (r.feedFrom taken bytes).2) := by
  induction bytes generalizing r taken with
  | nil => simp only [feedFrom]; split_ifs <;> rfl
  | cons b rest ih =>
    rcases r.phase.isHead_or with head | body | done
    · rw [feedFrom_head head, feedFrom_head head]
      rcases r.step b with ⟨_ | ended, next⟩
      · rfl
      · cases ended
        · exact ih next (taken + 1)
        · simp only; split_ifs <;> rfl
    · rw [feedFrom_body body, feedFrom_body body]
      split_ifs <;> simp [Except.map, Feed.later, Nat.add_assoc]
    · rw [feedFrom_done done, feedFrom_done done]; rfl

/-! ## Two portions of a body -/

theorem takeBody_unsized {r : Reader} (unsized : r.contentLength = none) (bytes : Bytes) :
    r.takeBody bytes =
      { r with received := r.received + bytes.length, sink := r.sink.append bytes } := by
  simp [takeBody, wanted, unsized]

theorem takeBody_sized {r : Reader} {n : Nat} (sized : r.contentLength = some n) (bytes : Bytes) :
    r.takeBody bytes =
      { r with
        phase := if n ≤ r.received + bytes.length then .done else r.phase
        received := r.received + min (n - r.received) bytes.length
        sink := r.sink.append (bytes.take (n - r.received)) } := by
  have phase : n ≤ r.received + min (n - r.received) bytes.length ↔
      n ≤ r.received + bytes.length := by omega
  have taken : bytes.take (min (n - r.received) bytes.length) = bytes.take (n - r.received) := by
    rw [← List.take_take, List.take_length]
  simp [takeBody, wanted, sized, phase, taken]

/-- Taking a body in two portions comes to the same as taking it in one: what the second portion may
give is what the first one left. -/
theorem takeBody_takeBody (r : Reader) (a b : Bytes) :
    (r.takeBody a).takeBody b = r.takeBody (a ++ b) := by
  rcases length : r.contentLength with _ | n
  · have after : (r.takeBody a).contentLength = none := length
    rw [takeBody_unsized after, takeBody_unsized length, takeBody_unsized length]
    simp [Sink.append_append, Nat.add_assoc]
  · have after : (r.takeBody a).contentLength = some n := length
    have phase : (if n ≤ r.received + min (n - r.received) a.length + b.length then Phase.done
        else if n ≤ r.received + a.length then .done else r.phase) =
        if n ≤ r.received + (a.length + b.length) then .done else r.phase := by
      split_ifs <;> first | rfl | omega
    have left : n - (r.received + min (n - r.received) a.length) = n - r.received - a.length := by
      omega
    rw [takeBody_sized after, takeBody_sized length, takeBody_sized length]
    simp only [Sink.append_append, List.take_append, List.length_append, phase, left, mk.injEq,
      true_and, and_true]
    omega

theorem wanted_takeBody (r : Reader) (a : Bytes) (available : Nat) :
    r.wanted (a.length + available) = r.wanted a.length + (r.takeBody a).wanted available := by
  rcases length : r.contentLength with _ | n
  · simp [wanted, takeBody, length]
  · simp only [wanted, takeBody, length]
    omega

/-- A body that is complete takes no more bytes. -/
theorem takeBody_complete {r : Reader} {n : Nat} (sized : r.contentLength = some n)
    (complete : n ≤ r.received) (done : r.phase = .done) (bytes : Bytes) :
    r.takeBody bytes = r ∧ r.wanted bytes.length = 0 := by
  have none : n - r.received = 0 := by omega
  refine ⟨?_, by simp [wanted, sized, none]⟩
  rw [takeBody_sized sized, none]
  simp [Sink.append_nil, ← done]

/-- A body that a portion completes is complete with the bytes of that portion. -/
theorem takeBody_done {r : Reader} {a : Bytes} (body : r.phase = .body)
    (done : (r.takeBody a).phase = .done) (b : Bytes) :
    r.takeBody (a ++ b) = r.takeBody a ∧
      r.wanted (a.length + b.length) = r.wanted a.length := by
  rcases length : r.contentLength with _ | n
  · rw [takeBody_unsized length] at done
    simp [body] at done
  · have complete : n ≤ (r.takeBody a).received := by
      rw [takeBody_sized length] at done ⊢
      simp only [body, ite_eq_left_iff, reduceCtorEq, imp_false, Decidable.not_not] at done
      simp only
      omega
    have rest := takeBody_complete (r := r.takeBody a) length complete done b
    rw [← takeBody_takeBody, wanted_takeBody, rest.1, rest.2]
    exact ⟨rfl, rfl⟩

/-- A body that a portion leaves open has taken all of it. -/
theorem takeBody_open {r : Reader} {a : Bytes} (body : r.phase = .body)
    (goesOn : (r.takeBody a).phase ≠ .done) :
    (r.takeBody a).phase = .body ∧ r.wanted a.length = a.length := by
  rcases length : r.contentLength with _ | n
  · rw [takeBody_unsized length]
    exact ⟨body, by simp [wanted, length]⟩
  · rw [takeBody_sized length] at goesOn ⊢
    have short : ¬ n ≤ r.received + a.length := fun complete => goesOn (if_pos complete)
    refine ⟨?_, ?_⟩
    · simp only [if_neg short, body]
    · simp only [wanted, length]
      omega

/-! ## Two portions of a response -/

/-- Two portions come to the same as one: the second one counts if the first is taken whole and the
response goes on. The induction is for the head alone, since a body takes all that is left of a
portion at once. -/
theorem feedFrom_append (r : Reader) (taken : Nat) (a b : Bytes) :
    r.feedFrom taken (a ++ b) =
      match r.feedFrom taken a with
      | (.ok .needMore, next) => next.feedFrom (taken + a.length) b
      | other => other := by
  induction a generalizing r taken with
  | nil =>
    by_cases done : r.phase = .done
    · rw [feedFrom_done done, feedFrom_done done]
    · simp [feedFrom, done]
  | cons x a ih =>
    rw [List.cons_append]
    rcases r.phase.isHead_or with head | body | done
    · rw [feedFrom_head head, feedFrom_head head]
      rcases r.step x with ⟨_ | ended, next⟩
      · rfl
      cases ended
      · simp only [ih, List.length_cons]
        rw [Nat.add_right_comm, Nat.add_assoc taken]
      · simp only
        split_ifs <;> rfl
    · rw [feedFrom_body body, feedFrom_body body, ← List.cons_append, List.length_append]
      by_cases finished : (r.takeBody (x :: a)).phase = .done
      · have rest := takeBody_done body finished b
        have wanted : r.wanted (a.length + b.length + 1) = r.wanted (a.length + 1) := by
          rw [Nat.add_right_comm]; exact rest.2
        simp only [rest.1, if_pos finished, wanted]
      · obtain ⟨goesOn, all⟩ := takeBody_open body finished
        simp only [if_neg finished]
        cases b with
        | nil => simp [feedFrom, finished]
        | cons y b =>
          have count : r.wanted (a.length + (b.length + 1) + 1) =
              a.length + 1 + (r.takeBody (x :: a)).wanted (b.length + 1) := by
            have := wanted_takeBody r (x :: a) (y :: b).length
            rw [all] at this
            rw [Nat.add_right_comm]; exact this
          rw [feedFrom_body goesOn, takeBody_takeBody, List.length_cons, List.length_cons, count,
            ← Nat.add_assoc taken]
    · rw [feedFrom_done done, feedFrom_done done]

/-- What becomes of two portions, counted from the start of the first. -/
theorem feed_append (r : Reader) (a b : Bytes) :
    r.feed (a ++ b) =
      match r.feed a with
      | (.ok .needMore, next) => ((next.feed b).1.map (Feed.later a.length), (next.feed b).2)
      | other => other := by
  simp only [feed, feedFrom_append, Nat.zero_add]
  have later (next : Reader) := feedFrom_later next a.length 0 b
  simp only [Nat.add_zero] at later
  simp only [later]

/-! ## Everything that a byte of the head can do -/

/-- What one byte of the head comes to. -/
inductive Takes (r : Reader) (b : UInt8) : Except TransferError Bool → Reader → Prop where
  /-- a carriage return after the version -/
  | skipped : r.phase ≠ .version → b = 13 → Takes r b (.ok false) r
  /-- a blank in front of the status -/
  | blank : r.phase = .status → b = 32 → r.token.isEmpty = true → Takes r b (.ok false) r
  /-- a byte of the first line or of a name -/
  | kept : r.phase ≠ .value → b ≠ 10 → b ≠ 13 → Takes r b (.ok false) (r.keep b)
  /-- a byte of a value -/
  | keptValue : r.phase = .value → b ≠ 10 → b ≠ 13 →
    Takes r b (.ok false) { r with value := r.value.push b }
  /-- the colon after a name -/
  | colon : r.phase = .name → b = 58 → Takes r b (.ok false) { r with phase := .value }
  | version : r.phase = .version → b = 32 → Takes r b (.ok false) r.finishVersion
  | noVersion : r.phase = .version → b = 13 ∨ b = 10 →
    Takes r b (.error (.malformedResponse .version)) r
  | status {n : Nat} {next : Phase} :
    r.phase = .status → b = 32 ∧ next = .description ∨ b = 10 ∧ next = .name →
      Decimal.readNat Decimal.max16 (textOf r.token).toList = .ok n →
      Takes r b (.ok false)
        { r with phase := next, token := #[], sink := { r.sink with status := n.toUInt16 } }
  | noStatus {e : Decimal.Fault} :
    r.phase = .status → b = 32 ∨ b = 10 →
      Decimal.readNat Decimal.max16 (textOf r.token).toList = .error e →
      Takes r b (.error (.malformedResponse (.status (textOf r.token)))) { r with token := #[] }
  | description : r.phase = .description → b = 10 → Takes r b (.ok false) r.finishDescription
  /-- a line without a name -/
  | nameless : r.phase = .name ∨ r.phase = .value → b = 10 → r.fieldName.isEmpty = true →
    Takes r b (.ok false) { r with phase := .name, token := #[], value := #[] }
  | field : r.phase = .name ∨ r.phase = .value → b = 10 → r.fieldName.isEmpty = false →
    isLengthName r.fieldName = false →
    Takes r b (.ok false)
      { r with
        phase := .name, token := #[], value := #[]
        sink := r.sink.addHeader r.fieldName r.fieldValue }
  | length {n : Nat} : r.phase = .name ∨ r.phase = .value → b = 10 → r.fieldName.isEmpty = false →
    isLengthName r.fieldName = true →
    Decimal.readNat Decimal.max64 r.fieldValue.toList = .ok n →
    Takes r b (.ok false)
      { r with
        phase := .name, token := #[], value := #[], contentLength := some n
        sink := r.sink.addHeader r.fieldName r.fieldValue }
  | noLength {e : Decimal.Fault} :
    r.phase = .name ∨ r.phase = .value → b = 10 → r.fieldName.isEmpty = false →
    isLengthName r.fieldName = true →
    Decimal.readNat Decimal.max64 r.fieldValue.toList = .error e →
    Takes r b (.error (.malformedResponse (.contentLength r.fieldValue)))
      { r with token := #[], value := #[] }
  /-- the empty line -/
  | headEnded : r.phase = .name → b = 10 → r.token.isEmpty = true →
    Takes r b (.ok true) r.finishHead

theorem takes_status {r : Reader} {b : UInt8} {next : Phase} (phase : r.phase = .status)
    (ends : b = 32 ∧ next = .description ∨ b = 10 ∧ next = .name) :
    Takes r b ((r.finishStatus next).1.map fun _ => false) (r.finishStatus next).2 := by
  rcases number : Decimal.readNat Decimal.max16 (textOf r.token).toList with e | n
  · simp only [finishStatus, number, Except.map]
    exact .noStatus phase (ends.imp And.left And.left) number
  · simp only [finishStatus, number, Except.map]
    exact .status phase ends number

theorem takes_field {r : Reader} {b : UInt8} (phase : r.phase = .name ∨ r.phase = .value)
    (ends : b = 10) :
    Takes r b (r.finishField.1.map fun _ => false) r.finishField.2 := by
  by_cases named : r.fieldName.isEmpty = true
  · rw [finishField_nameless named]
    exact .nameless phase ends named
  rw [Bool.not_eq_true] at named
  by_cases length : isLengthName r.fieldName = true
  · rcases number : Decimal.readNat Decimal.max64 r.fieldValue.toList with e | n
    · rw [finishField_noLength named length number]
      exact .noLength phase ends named length number
    · rw [finishField_length named length number]
      exact .length phase ends named length number
  · rw [Bool.not_eq_true] at length
    rw [finishField_plain named length]
    exact .field phase ends named length

/-- A byte of the head does one of these things. -/
theorem takes_step {r : Reader} (head : r.phase.isHead = true) (b : UInt8) :
    Takes r b (r.step b).1 (r.step b).2 := by
  rw [step]
  cases phase : r.phase with
  | version =>
    simp only
    split_ifs with space ends <;> simp only
    · exact .version phase space
    · exact .noVersion phase ends
    · exact .kept (by simp [phase]) (fun h => ends (.inr h)) (fun h => ends (.inl h))
  | status =>
    simp only
    split_ifs with space empty skip ends <;> simp only
    · exact .blank phase space empty
    · exact takes_status phase (.inl ⟨space, rfl⟩)
    · exact .skipped (by simp [phase]) skip
    · exact takes_status phase (.inr ⟨ends, rfl⟩)
    · exact .kept (by simp [phase]) ends skip
  | description =>
    simp only
    split_ifs with skip ends <;> simp only
    · exact .skipped (by simp [phase]) skip
    · exact .description phase ends
    · exact .kept (by simp [phase]) ends skip
  | name =>
    simp only
    split_ifs with skip ends empty colon <;> simp only
    · exact .skipped (by simp [phase]) skip
    · exact .headEnded phase ends empty
    · exact takes_field (.inl phase) ends
    · exact .colon phase colon
    · exact .kept (by simp [phase]) ends skip
  | value =>
    simp only
    split_ifs with skip ends <;> simp only
    · exact .skipped (by simp [phase]) skip
    · exact takes_field (.inr phase) ends
    · have kept := Takes.keptValue phase ends skip
      rwa [phase] at kept
  | body => simp [Phase.isHead, phase] at head
  | done => simp [Phase.isHead, phase] at head

/-- The head goes on until the empty line, and then it is over. -/
theorem Takes.isHead {r next : Reader} {b : UInt8} {ended : Bool} (head : r.phase.isHead = true)
    (h : Takes r b (.ok ended) next) : next.phase.isHead = !ended := by
  cases h with
  | skipped | blank | kept | keptValue => exact head
  | status _ ends => rcases ends with ⟨-, rfl⟩ | ⟨-, rfl⟩ <;> rfl
  | headEnded =>
    rcases h : r.contentLength with _ | n
    · simp [finishHead, h, Phase.isHead]
    · simp only [finishHead, h]
      split_ifs <;> rfl
  | _ => rfl

/-- The head has no part in where the body is kept. -/
theorem Takes.body {r next : Reader} {b : UInt8} {outcome : Except TransferError Bool}
    (h : Takes r b outcome next) : next.sink.body = r.sink.body := by
  cases h with
  | headEnded => rcases h : r.contentLength with _ | n <;> simp [finishHead, h]
  | _ => rfl

/-! ## Where a portion leads -/

/-- A portion that the head takes whole leaves it open. -/
theorem feedFrom_needMore {r next : Reader} {taken : Nat} {bytes : Bytes}
    (head : r.phase.isHead = true) (h : r.feedFrom taken bytes = (.ok .needMore, next)) :
    next.phase.isHead = true := by
  induction bytes generalizing r taken with
  | nil =>
    simp only [feedFrom, Prod.mk.injEq] at h
    rw [← h.2, head]
  | cons b rest ih =>
    have takes := takes_step head b
    rw [feedFrom_head head] at h
    rcases step : r.step b with ⟨_ | ended, after⟩ <;> rw [step] at h takes
    · cases h
    cases ended
    · exact ih (takes.isHead head) h
    · simp only at h
      split_ifs at h <;> cases h

/-- A head ends within the portion that ends it. -/
theorem feedFrom_headEnded {r next : Reader} {taken k : Nat} {bytes : Bytes}
    (h : r.feedFrom taken bytes = (.ok (.headEnded k), next)) :
    next.phase.isHead = false ∧ taken ≤ k ∧ k ≤ taken + bytes.length := by
  induction bytes generalizing r taken with
  | nil => simp only [feedFrom] at h; split_ifs at h <;> cases h
  | cons b rest ih =>
    rcases r.phase.isHead_or with head | body | done
    · have takes := takes_step head b
      rw [feedFrom_head head] at h
      rcases step : r.step b with ⟨_ | ended, after⟩ <;> rw [step] at h takes
      · cases h
      cases ended
      · obtain ⟨past, lower, upper⟩ := ih h
        simp only [List.length_cons]
        exact ⟨past, by omega, by omega⟩
      · simp only at h
        split_ifs at h
        · cases h
        · cases h
          exact ⟨takes.isHead head, by omega, by simp only [List.length_cons]; omega⟩
    · rw [feedFrom_body body] at h
      split_ifs at h <;> cases h
    · rw [feedFrom_done done] at h
      cases h

/-- A response that a portion ends is over. -/
theorem feedFrom_ended {r next : Reader} {taken k : Nat} {bytes : Bytes}
    (h : r.feedFrom taken bytes = (.ok (.done k), next)) : next.phase = .done := by
  induction bytes generalizing r taken with
  | nil =>
    simp only [feedFrom] at h
    split_ifs at h with finished <;> cases h
    exact finished
  | cons b rest ih =>
    rcases r.phase.isHead_or with head | body | done
    · rw [feedFrom_head head] at h
      rcases step : r.step b with ⟨_ | ended, after⟩ <;> rw [step] at h
      · cases h
      cases ended
      · exact ih h
      · simp only at h
        split_ifs at h with finished <;> cases h
        exact finished
    · rw [feedFrom_body body] at h
      split_ifs at h with finished <;> cases h
      exact finished
    · rw [feedFrom_done done] at h
      cases h
      exact done

/-- After the head a portion raises no error; it leaves the body open or ends the response. -/
theorem feed_past {r : Reader} (past : r.phase.isHead = false) (bytes : Bytes) :
    (r.feed bytes).1 = .ok .needMore ∨
      (∃ k, (r.feed bytes).1 = .ok (.done k)) ∧ (r.feed bytes).2.phase = .done := by
  rcases Phase.body_or_done past with body | done
  · cases bytes with
    | nil => simp [feed, feedFrom, body]
    | cons b rest =>
      rw [feed, feedFrom_body body]
      by_cases finished : (r.takeBody (b :: rest)).phase = .done
      · exact .inr ⟨⟨0 + r.wanted (rest.length + 1), by simp only [if_pos finished]⟩, finished⟩
      · exact .inl (by simp only [if_neg finished])
  · rw [feed, feedFrom_done done]
    exact .inr ⟨⟨0, rfl⟩, done⟩

/-- After the head there is no way back to it. -/
theorem isHead_feed_past {r : Reader} (past : r.phase.isHead = false) (bytes : Bytes) :
    (r.feed bytes).2.phase.isHead = false := by
  rcases Phase.body_or_done past with body | done
  · cases bytes with
    | nil => simp [feed, feedFrom, body, Phase.isHead]
    | cons b rest =>
      rw [feed, feedFrom_body body]
      by_cases finished : (r.takeBody (b :: rest)).phase = .done
      · simp only [finished, Phase.isHead]
      · simp only [(takeBody_open body finished).1, Phase.isHead]
  · rw [feed, feedFrom_done done]
    simp only [done, Phase.isHead]

/-- After the head two portions leave the reader where one would. -/
theorem feed_past_append {r : Reader} (past : r.phase.isHead = false) (a b : Bytes) :
    (r.feed (a ++ b)).2 = ((r.feed a).2.feed b).2 := by
  rw [feed_append]
  rcases h : r.feed a with ⟨outcome, next⟩
  rcases feed_past past a with more | ⟨⟨k, ended⟩, finished⟩
  · rw [h] at more
    simp only at more
    simp only [more]
  · rw [h] at ended finished
    simp only at ended finished
    rw [feed, feedFrom_done finished]
    simp only [ended]

/-- A portion has no part in whether the body goes to a file. -/
theorem isFile_feedFrom (r : Reader) (taken : Nat) (bytes : Bytes) :
    (r.feedFrom taken bytes).2.sink.isFile = r.sink.isFile := by
  induction bytes generalizing r taken with
  | nil => rfl
  | cons b rest ih =>
    rcases r.phase.isHead_or with head | body | done
    · have kept := (takes_step head b).body
      have same : (r.step b).2.sink.isFile = r.sink.isFile := by simp only [Sink.isFile, kept]
      rw [feedFrom_head head, ← same]
      rcases r.step b with ⟨_ | ended, next⟩
      · rfl
      · cases ended
        · exact ih next (taken + 1)
        · rfl
    · rw [feedFrom_body body]
      cases h : r.sink.body <;> simp [takeBody, Sink.append, Sink.isFile, h]
    · rw [feedFrom_done done]

end Reader
end HttpFetch
