import HttpFetch.Proofs.Turns
/-!
# Portions put together

A response can be cut anywhere: in a name, right after the head, where a body has its length. Cutting
a portion in two makes no difference, whatever state the reader is in (`Reader.feed_composes`).

So a portion can be cut all the way down. `Reader.feedEach` takes one byte after the other, where
`Reader.feed` takes a body in bulk, as far as its length allows. They agree on a single byte
(`Reader.feed_byte`) and hence, by induction on the bytes, on every portion
(`Reader.feed_eq_feedEach`).
-/

namespace HttpFetch
namespace Reader

/-! ## One byte -/

/-- Takes one byte of the body. It is the last one if the body has its length then; a body that has
it before leaves the byte. -/
def takeBodyByte (r : Reader) (b : UInt8) : Except TransferError Feed × Reader :=
  if r.contentLength.any (· ≤ r.received) then (.ok (.done 0), { r with phase := .done })
  else
    let next := { r with received := r.received + 1, sink := r.sink.append [b] }
    if r.contentLength = some next.received then (.ok (.done 1), { next with phase := .done })
    else (.ok .needMore, next)

/-- Takes one byte of the response, wherever it stands. -/
def takeByte (r : Reader) (b : UInt8) : Except TransferError Feed × Reader :=
  match r.phase with
  | .done => (.ok (.done 0), r)
  | .body => r.takeBodyByte b
  | _ =>
    match r.step b with
    | (.error e, next) => (.error e, next)
    | (.ok true, next) => (.ok (if next.phase = .done then .done 1 else .headEnded 1), next)
    | (.ok false, next) => (.ok .needMore, next)

/-- Takes bytes one after the other, up to the one that ends the head or the response or is
refused. -/
def feedEach (r : Reader) : Bytes → Except TransferError Feed × Reader
  | [] => (.ok (if r.phase = .done then .done 0 else .needMore), r)
  | b :: rest =>
    match r.takeByte b with
    | (.ok .needMore, next) => ((next.feedEach rest).1.map (Feed.later 1), (next.feedEach rest).2)
    | other => other

variable {r : Reader}

theorem takeByte_head (head : r.phase.isHead = true) (b : UInt8) :
    r.takeByte b =
      match r.step b with
      | (.error e, next) => (.error e, next)
      | (.ok true, next) => (.ok (if next.phase = .done then .done 1 else .headEnded 1), next)
      | (.ok false, next) => (.ok .needMore, next) := by
  rw [takeByte]
  cases phase : r.phase with
  | body | done => simp [phase, Phase.isHead] at head
  | _ => rfl

/-- In bulk or not, a single byte of a body is taken alike. -/
theorem feed_bodyByte (body : r.phase = .body) (b : UInt8) : r.feed [b] = r.takeBodyByte b := by
  rw [feed, feedFrom_body body, takeBodyByte]
  rcases length : r.contentLength with _ | n
  · rw [takeBody_unsized length]
    simp [body, length]
  · rw [takeBody_sized length]
    rcases Nat.lt_trichotomy n (r.received + 1) with before | last | later
    · have complete : n ≤ r.received := by omega
      have already : n ≤ r.received + 1 := by omega
      have none : n - r.received = 0 := by omega
      simp [wanted, length, complete, already, none, Sink.append_nil]
    · simp [wanted, length, last]
    · have open' : ¬ n ≤ r.received := by omega
      have short : ¬ n ≤ r.received + 1 := by omega
      have differs : n ≠ r.received + 1 := by omega
      have room : 1 ≤ n - r.received := by omega
      have taken : [b].take (n - r.received) = [b] := List.take_of_length_le room
      simp [body, length, open', short, differs, Nat.min_eq_right room, taken]

/-- A portion of one byte. -/
theorem feed_byte (r : Reader) (b : UInt8) : r.feed [b] = r.takeByte b := by
  rcases r.phase.isHead_or with head | body | done
  · have takes := takes_step head b
    rw [feed, feedFrom_head head, takeByte_head head]
    rcases step : r.step b with ⟨e | ended, next⟩
    · rfl
    cases ended with
    | true => rfl
    | false =>
      rw [step] at takes
      have goesOn : next.phase ≠ .done := Phase.ne_done (takes.isHead head)
      simp only [feedFrom, if_neg goesOn]
  · rw [feed_bodyByte body, takeByte, body]
  · rw [feed, feedFrom_done done, takeByte, done]

/-! ## Portions -/

/-- **A portion is its bytes**: taking a body in bulk makes no difference, neither to the outcome nor
to where the reader is left. -/
theorem feed_eq_feedEach (r : Reader) (bytes : Bytes) : r.feed bytes = r.feedEach bytes := by
  induction bytes generalizing r with
  | nil => rw [feed, feedFrom, feedEach]
  | cons b rest ih =>
    have cut := feed_append r [b] rest
    rw [List.singleton_append, List.length_singleton, feed_byte] at cut
    rw [cut, feedEach]
    rcases r.takeByte b with ⟨e | _ | k | k, next⟩
    · rfl
    · simp only [ih]
    · rfl
    · rfl

/-- **Two portions come to the same as one**, in every state of the reader and with every sink. If
the first is taken whole and the response goes on, the second is taken as it would be alone, and its
bytes are counted after those of the first. If the first is refused, or ends the head or the response
within its bytes, the second has no part in it. In each case the reader is left in the same state,
and with it the sink. A portion, whole or cut, comes to what its bytes come to one by one. -/
theorem feed_composes (r : Reader) (a b : Bytes) :
    (match r.feed a with
      | (.ok .needMore, next) =>
        r.feed (a ++ b) = ((next.feed b).1.map (Feed.later a.length), (next.feed b).2)
      | (.ok (.headEnded k), next) =>
        k ≤ a.length ∧ r.feed (a ++ b) = (.ok (.headEnded k), next)
      | (.ok (.done k), next) => k ≤ a.length ∧ r.feed (a ++ b) = (.ok (.done k), next)
      | (.error e, next) => r.feed (a ++ b) = (.error e, next)) ∧
    ∀ bytes, r.feed bytes = r.feedEach bytes := by
  refine ⟨?_, r.feed_eq_feedEach⟩
  have both := feed_append r a b
  rcases fed : r.feed a with ⟨e | _ | k | k, next⟩ <;> rw [fed] at both
  · exact both
  · exact both
  · obtain ⟨-, -, within⟩ := feedFrom_headEnded fed
    exact ⟨by omega, both⟩
  · have within := feedFrom_ended_le fed
    exact ⟨by omega, both⟩

end Reader
end HttpFetch
