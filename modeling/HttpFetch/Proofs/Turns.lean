import HttpFetch.Proofs.WholeBody
/-!
# A portion turn by turn

`Reader.feed` takes a portion byte after byte as it finds them. A loop that keeps its place in the
portion has to look the bytes up, and a place beyond the end, or a range that is not within the
portion, would be a fault. `Reader.turn?` is one turn of that loop, with every look-up checked. From
any place in a portion it finds what it looks up and takes at least one byte, or the response is over
(`Reader.exists_turn`). So the loop has no more turns than there are bytes, and it comes to what
`Reader.feed` does (`Reader.feedByTurns?_eq`).
-/

namespace HttpFetch

/-- A range of places. -/
structure Span where
  start : Nat := 0
  stop : Nat := 0
  deriving DecidableEq

namespace Span

/-- The bytes of a range, if it lies within them. -/
def of? (span : Span) (bytes : Bytes) : Option Bytes :=
  if span.start ≤ span.stop ∧ span.stop ≤ bytes.length then
    some ((bytes.take span.stop).drop span.start)
  else none

theorem of?_from {bytes : Bytes} {pos : Nat} (within : pos ≤ bytes.length) :
    (mk pos bytes.length).of? bytes = some (bytes.drop pos) := by
  rw [of?, if_pos ⟨within, Nat.le_refl _⟩, List.take_length]

theorem of?_upTo {bytes : Bytes} {count : Nat} (within : count ≤ bytes.length) :
    (mk 0 count).of? bytes = some (bytes.take count) := by
  rw [of?, if_pos ⟨Nat.zero_le _, within⟩, List.drop_zero]

theorem length_of? {span : Span} {bytes part : Bytes} (found : span.of? bytes = some part) :
    part.length = span.stop - span.start := by
  rw [of?] at found
  split_ifs at found with within
  cases found
  rw [List.length_drop, List.length_take, Nat.min_eq_left within.2]

end Span

/-- What one turn of the loop over a portion comes to. -/
structure Turn where
  /-- how many bytes of the portion have been taken -/
  pos : Nat
  reader : Reader
  /-- what has become of the portion, if the loop is left -/
  left : Option (Except TransferError Feed) := none

namespace Reader

/-- Takes what belongs to the body, if there are as many bytes. -/
def takeBody? (r : Reader) (bytes : Bytes) : Option (Nat × Reader) :=
  let count := r.wanted bytes.length
  ((Span.mk 0 count).of? bytes).map fun portion =>
    (count, { r with
      phase := if r.contentLength.any (· ≤ r.received + count) then .done else r.phase
      received := r.received + count
      sink := r.sink.append portion })

/-- One turn of the loop over a portion, at a place in it. -/
def turn? (r : Reader) (bytes : Bytes) (pos : Nat) : Option Turn :=
  match r.phase with
  | .done => some ⟨pos, r, some (.ok (.done pos))⟩
  | .body =>
    ((Span.mk pos bytes.length).of? bytes).bind fun rest =>
      (r.takeBody? rest).map fun (count, next) =>
        ⟨pos + count, next,
          if next.phase = .done then some (.ok (.done (pos + count))) else none⟩
  | _ =>
    bytes[pos]?.map fun b =>
      match r.step b with
      | (.error e, next) => ⟨pos + 1, next, some (.error e)⟩
      | (.ok true, next) =>
        ⟨pos + 1, next,
          some (.ok (if next.phase = .done then .done (pos + 1) else .headEnded (pos + 1)))⟩
      | (.ok false, next) => ⟨pos + 1, next, none⟩

/-- The loop over a portion from a place in it, if it ends after so many turns. -/
def loop? (bytes : Bytes) (turns pos : Nat) (r : Reader) :
    Option (Except TransferError Feed × Reader) :=
  if pos < bytes.length then
    match turns with
    | 0 => none
    | turns + 1 =>
      (r.turn? bytes pos).bind fun turn =>
        match turn.left with
        | some outcome => some (outcome, turn.reader)
        | none => loop? bytes turns turn.pos turn.reader
  else some (.ok (if r.phase = .done then .done pos else .needMore), r)

/-- Takes a portion in no more turns than it has bytes. -/
def feedByTurns? (r : Reader) (bytes : Bytes) : Option (Except TransferError Feed × Reader) :=
  loop? bytes bytes.length 0 r

/-- What a portion comes to once a turn has been made. -/
def afterTurn (bytes : Bytes) (turn : Turn) : Except TransferError Feed × Reader :=
  match turn.left with
  | some outcome => (outcome, turn.reader)
  | none => turn.reader.feedFrom turn.pos (bytes.drop turn.pos)

/-- A turn that gets on. -/
structure GetsOn (r : Reader) (bytes : Bytes) (pos : Nat) (turn : Turn) : Prop where
  within : turn.pos ≤ bytes.length
  /-- a byte has been taken, or the response is over -/
  taken : pos < turn.pos ∨ turn.reader.phase = .done
  /-- there is no other turn once the response is over -/
  last : turn.reader.phase = .done → turn.left ≠ none
  same : r.feedFrom pos (bytes.drop pos) = afterTurn bytes turn

variable {r : Reader} {bytes : Bytes} {pos : Nat}

/-- What a body wants of some bytes lies within them. -/
theorem takeBody?_eq (r : Reader) (bytes : Bytes) :
    r.takeBody? bytes = some (r.wanted bytes.length, r.takeBody bytes) := by
  rw [takeBody?, Span.of?_upTo (r.wanted_le bytes.length)]
  rfl

/-- A turn in the head takes one byte. -/
theorem exists_turn_head (head : r.phase.isHead = true) (within : pos < bytes.length) :
    ∃ turn, r.turn? bytes pos = some turn ∧ r.GetsOn bytes pos turn := by
  have found : bytes[pos]? = some bytes[pos] := List.getElem?_eq_getElem within
  have rest : bytes.drop pos = bytes[pos] :: bytes.drop (pos + 1) := List.drop_eq_getElem_cons within
  have turn : r.turn? bytes pos = some
      (match r.step bytes[pos] with
      | (.error e, next) => ⟨pos + 1, next, some (.error e)⟩
      | (.ok true, next) =>
        ⟨pos + 1, next,
          some (.ok (if next.phase = .done then .done (pos + 1) else .headEnded (pos + 1)))⟩
      | (.ok false, next) => ⟨pos + 1, next, none⟩) := by
    rw [turn?, found]
    cases phase : r.phase with
    | body | done => simp [phase, Phase.isHead] at head
    | _ => rfl
  have fed := feedFrom_head head pos bytes[pos] (bytes.drop (pos + 1))
  have takes := takes_step head bytes[pos]
  refine ⟨_, turn, ?_⟩
  rw [← rest] at fed
  rcases step : r.step bytes[pos] with ⟨e | ended, next⟩ <;> rw [step] at fed takes
  · exact ⟨within, .inl (Nat.lt_succ_self pos), fun _ => Option.some_ne_none _, fed⟩
  cases ended with
  | true => exact ⟨within, .inl (Nat.lt_succ_self pos), fun _ => Option.some_ne_none _, fed⟩
  | false =>
    have head' : next.phase.isHead = true := takes.isHead head
    exact ⟨within, .inl (Nat.lt_succ_self pos), fun done => absurd done (Phase.ne_done head'), fed⟩

/-- A turn in the body takes all the bytes, or the body is complete. -/
theorem exists_turn_body (body : r.phase = .body) (within : pos < bytes.length) :
    ∃ turn, r.turn? bytes pos = some turn ∧ r.GetsOn bytes pos turn := by
  have rest : bytes.drop pos = bytes[pos] :: bytes.drop (pos + 1) := List.drop_eq_getElem_cons within
  have length : (bytes.drop pos).length = bytes.length - pos := List.length_drop
  have count := r.wanted_le (bytes.drop pos).length
  have turn : r.turn? bytes pos = some
      ⟨pos + r.wanted (bytes.drop pos).length, r.takeBody (bytes.drop pos),
        if (r.takeBody (bytes.drop pos)).phase = .done
        then some (.ok (.done (pos + r.wanted (bytes.drop pos).length))) else none⟩ := by
    rw [turn?, body]
    simp only [Span.of?_from (Nat.le_of_lt within), takeBody?_eq, Option.bind_some, Option.map_some]
  have fed := feedFrom_body body pos bytes[pos] (bytes.drop (pos + 1))
  have one : (bytes.drop (pos + 1)).length + 1 = (bytes.drop pos).length := by rw [rest]; rfl
  rw [← rest, one] at fed
  refine ⟨_, turn, ?_⟩
  by_cases complete : (r.takeBody (bytes.drop pos)).phase = .done
  · rw [if_pos complete] at fed ⊢
    exact ⟨by simp only; omega, .inr complete, fun _ => Option.some_ne_none _, fed⟩
  · have all := (takeBody_open body complete).2
    have whole : pos + r.wanted (bytes.drop pos).length = bytes.length := by omega
    rw [if_neg complete] at fed ⊢
    rw [whole]
    refine ⟨Nat.le_refl _, .inl within, fun done => absurd done complete, ?_⟩
    rw [fed, afterTurn, List.drop_length, feedFrom, if_neg complete]

/-- **Each turn gets on**: it looks at nothing beyond the end of the portion, and it takes a byte or
finds the response over. -/
theorem exists_turn (r : Reader) (within : pos < bytes.length) :
    ∃ turn, r.turn? bytes pos = some turn ∧ r.GetsOn bytes pos turn := by
  rcases r.phase.isHead_or with head | body | done
  · exact exists_turn_head head within
  · exact exists_turn_body body within
  · refine ⟨⟨pos, r, some (.ok (.done pos))⟩, by rw [turn?, done], ?_⟩
    refine ⟨Nat.le_of_lt within, .inr done, fun _ => Option.some_ne_none _, ?_⟩
    rw [feedFrom_done done, afterTurn]

/-- From any place on, as many turns as there are bytes left are enough. -/
theorem loop?_eq {turns : Nat} (within : pos ≤ bytes.length)
    (enough : bytes.length ≤ pos + turns) :
    loop? bytes turns pos r = some (r.feedFrom pos (bytes.drop pos)) := by
  induction turns generalizing pos r with
  | zero =>
    have last : pos = bytes.length := by omega
    rw [loop?, if_neg (by omega), last, List.drop_length, feedFrom]
  | succ turns ih =>
    by_cases more : pos < bytes.length
    · obtain ⟨turn, made, gets⟩ := r.exists_turn more
      rw [loop?, if_pos more, made, gets.same, afterTurn, Option.bind_some]
      rcases left : turn.left with _ | outcome
      · have going : turn.reader.phase ≠ .done := fun done => gets.last done left
        have further := gets.taken.resolve_right going
        exact ih gets.within (by omega)
      · rfl
    · have last : pos = bytes.length := by omega
      rw [loop?, if_neg more, last, List.drop_length, feedFrom]

/-- **The loop over a portion ends**, and comes to what taking it byte after byte does. -/
theorem feedByTurns?_eq (r : Reader) (bytes : Bytes) :
    r.feedByTurns? bytes = some (r.feed bytes) := by
  rw [feedByTurns?, loop?_eq (Nat.zero_le _) (by omega), List.drop_zero, feed]

/-- A response ends within the portion that ends it. -/
theorem feedFrom_ended_le {next : Reader} {taken k : Nat}
    (fed : r.feedFrom taken bytes = (.ok (.done k), next)) : k ≤ taken + bytes.length := by
  induction bytes generalizing r taken with
  | nil =>
    simp only [feedFrom] at fed
    split_ifs at fed <;> cases fed
    exact Nat.le_refl _
  | cons b rest ih =>
    rcases r.phase.isHead_or with head | body | done
    · rw [feedFrom_head head] at fed
      rcases step : r.step b with ⟨e | ended, after⟩ <;> rw [step] at fed
      · cases fed
      cases ended with
      | false =>
        have within := ih fed
        simp only [List.length_cons]
        omega
      | true =>
        simp only at fed
        split_ifs at fed <;> cases fed
        simp only [List.length_cons]
        omega
    · have count := r.wanted_le (rest.length + 1)
      rw [feedFrom_body body] at fed
      split_ifs at fed <;> cases fed
      simp only [List.length_cons]
      omega
    · rw [feedFrom_done done] at fed
      cases fed
      exact Nat.le_add_right _ _

end Reader
end HttpFetch
