import HttpFetch.Proofs.HeadLines
import HttpFetch.Proofs.WholeBody
/-!
# What a reader counts

A reader counts the bytes of a body, the head tells it how many there are to be, and the sink shows
both. `Reader.Counts` says how these agree in each phase. Bytes of the head keep the agreement
(`Reader.Counts.takes`), and so do bytes of the body (`Reader.Counts.takeBody`) and the end of the
stream, so it holds whatever calls a reader has answered and however they have ended
(`Reader.Counts.performAll`).
-/

namespace HttpFetch

theorem Sink.progress_flush (sink : Sink) (disk : Disk) :
    (sink.flush disk).2.1.progress = sink.progress := by
  rcases stores : sink.body with memory | body <;> simp [flush, stores]

namespace Reader

/-- What can be asked of a reader: to take a portion, to read to the end of the head, to read to the
end of the body. -/
inductive Call where
  | feed (bytes : Bytes)
  | readHead (stream : Stream)
  | readBody (stream : Stream) (disk : Disk)

/-- The reader after a call, whether or not that has failed. -/
def perform (r : Reader) : Call → Reader
  | .feed bytes => (r.feed bytes).2
  | .readHead s => (r.readHead s).2.1
  | .readBody s disk => (r.readBody s disk).reader

/-- The reader after some calls. -/
def performAll (r : Reader) (calls : List Call) : Reader := calls.foldl perform r

/-- **What is counted agrees** with what the head has told and with what the sink shows. -/
structure Counts (r : Reader) : Prop where
  progress : r.received = r.sink.progress
  /-- before the body nothing of it has come, and its length does not show -/
  head : r.phase.isHead = true → r.received = 0 ∧ r.sink.bodySize = none
  value : r.phase ≠ .value → r.value = #[]
  /-- a body of known length that is still being read is short of it -/
  body : r.phase = .body →
    r.sink.bodySize = r.contentLength ∧ ∀ n, r.contentLength = some n → r.received < n
  /-- a body that is over has the length that shows -/
  done : r.phase = .done →
    r.sink.bodySize = some r.received ∧ ∀ n, r.contentLength = some n → r.received = n

variable {r next : Reader} {b : UInt8} {outcome : Except TransferError Bool}

/-- What has come never exceeds a length that shows. -/
theorem Counts.progress_le (h : r.Counts) {n : Nat} (size : r.sink.bodySize = some n) :
    r.sink.progress ≤ n := by
  rw [← h.progress]
  rcases r.phase.isHead_or with head | body | done
  · rw [(h.head head).2] at size
    cases size
  · obtain ⟨same, short⟩ := h.body body
    exact (short n (same.symm.trans size)).le
  · rw [(h.done done).1] at size
    cases size
    exact Nat.le_refl _

theorem counts_start (size : Nat) {sink : Sink} (empty : sink.progress = 0)
    (unsized : sink.bodySize = none) : (start size sink).Counts :=
  ⟨empty.symm, fun _ => ⟨rfl, unsized⟩, fun _ => rfl, nofun, nofun⟩

/-- What a reader holds of a read does not count. -/
theorem Counts.withWindow (h : r.Counts) (capacity : Nat) (window : Bytes) (mark : Nat) :
    (r.withWindow capacity window mark).Counts :=
  ⟨h.progress, h.head, h.value, h.body, h.done⟩

theorem Counts.of_bare (same : next.bare = r.bare) (h : r.Counts) : next.Counts := by
  have bare : next.bare.Counts := same ▸ h.withWindow 1 [] 0
  exact ⟨bare.progress, bare.head, bare.value, bare.body, bare.done⟩

/-! ## The head -/

/-- Only while a value is read are there bytes of one. -/
theorem Takes.value (h : Takes r b outcome next) (empty : r.phase ≠ .value → r.value = #[]) :
    next.phase ≠ .value → next.value = #[] := by
  intro past
  cases h with
  | skipped | blank | kept => exact empty past
  | keptValue phase => exact absurd phase past
  | colon => exact absurd rfl past
  | version phase | noVersion phase | status phase | noStatus phase | description phase =>
    exact empty (by simp [phase])
  | nameless | field | length | noLength => rfl
  | headEnded phase =>
    have none := empty (by simp [phase])
    rcases length : r.contentLength with _ | n <;> simpa only [finishHead, length] using none

theorem finishHead_unsized (length : r.contentLength = none) :
    r.finishHead = { r with phase := .body } := by
  rw [finishHead, length]

theorem finishHead_sized {n : Nat} (length : r.contentLength = some n) :
    r.finishHead = { r with
      phase := if n = 0 then .done else .body
      sink := { r.sink with bodySize := some n } } := by
  rw [finishHead, length]

/-- The end of the head leaves a body that is short of its length, unless that is zero. -/
theorem Counts.finishHead (h : r.Counts) (phase : r.phase = .name) : r.finishHead.Counts := by
  obtain ⟨received, unsized⟩ := h.head (by rw [phase]; rfl)
  have progress := h.progress
  have empty := h.value (by simp [phase])
  rcases length : r.contentLength with _ | n
  · rw [finishHead_unsized length]
    refine ⟨progress, nofun, fun _ => empty, fun _ => ⟨unsized.trans length.symm, ?_⟩, nofun⟩
    intro n same
    cases length.symm.trans same
  · rw [finishHead_sized length]
    by_cases zero : n = 0
    · simp only [if_pos zero]
      refine ⟨progress, nofun, fun _ => empty, nofun, fun _ => ⟨?_, ?_⟩⟩
      · simp only [received, zero]
      · intro m same
        cases length.symm.trans same
        exact received.trans zero.symm
    · simp only [if_neg zero]
      refine ⟨progress, nofun, fun _ => empty, fun _ => ⟨length.symm, ?_⟩, nofun⟩
      intro m same
      cases length.symm.trans same
      simp only [received]
      omega

/-- **A byte of the head** keeps the counts, also one that is refused. -/
theorem Counts.takes (h : r.Counts) (head : r.phase.isHead = true) (takes : Takes r b outcome next) :
    next.Counts := by
  obtain ⟨received, unsized⟩ := h.head head
  have same := takes.received
  have still : outcome ≠ .ok true → next.phase.isHead = true := by
    intro open'
    rcases outcome with e | ended
    · exact takes.isHead_of_error head
    · cases ended
      · exact takes.isHead head
      · exact absurd rfl open'
  by_cases ended : outcome = .ok true
  · subst ended
    cases takes with
    | headEnded phase => exact h.finishHead phase
  · have head' := still ended
    have size : next.sink.bodySize = none :=
      (takes.bodySize fun last => absurd last ended).trans unsized
    refine ⟨?_, fun _ => ⟨same.1.trans received, size⟩, takes.value h.value, ?_, ?_⟩
    · rw [same.1, same.2, h.progress]
    · intro body
      rw [body] at head'
      cases head'
    · intro done
      exact absurd done (Phase.ne_done head')

/-! ## The body -/

/-- **Bytes of the body** keep the counts: it stays short of its length, or it has come to it. -/
theorem Counts.takeBody (h : r.Counts) (body : r.phase = .body) (bytes : Bytes) :
    (r.takeBody bytes).Counts := by
  obtain ⟨size, short⟩ := h.body body
  have progress := h.progress
  have empty := h.value (by simp [body])
  rcases length : r.contentLength with _ | n
  · rw [takeBody_unsized length]
    refine ⟨?_, fun head => ?_, fun _ => empty, fun _ => ⟨size, fun n same => ?_⟩, fun done => ?_⟩
    · simp only [Sink.append, progress]
    · simp [body, Phase.isHead] at head
    · cases length.symm.trans same
    · simp [body] at done
  · have below := short n length
    rw [takeBody_sized length]
    refine ⟨?_, fun head => ?_, fun _ => empty, fun going => ⟨size, fun m same => ?_⟩,
      fun done => ⟨?_, fun m same => ?_⟩⟩
    · simp only [Sink.append, progress, List.length_take]
    · simp only [body] at head
      split_ifs at head <;> cases head
    · cases length.symm.trans same
      simp only [body] at going
      split_ifs at going with complete
      simp only
      omega
    · simp only [body] at done
      split_ifs at done with complete
      have whole : r.received + min (n - r.received) bytes.length = n := by omega
      simp only [Sink.append, size, length, whole]
    · cases length.symm.trans same
      simp only [body] at done
      split_ifs at done with complete
      simp only
      omega

/-- **A portion** keeps the counts. -/
theorem Counts.feedFrom (h : r.Counts) (taken : Nat) (bytes : Bytes) :
    (r.feedFrom taken bytes).2.Counts := by
  induction bytes generalizing r taken with
  | nil => exact h
  | cons b rest ih =>
    rcases r.phase.isHead_or with head | body | done
    · have takes := takes_step head b
      rw [feedFrom_head head]
      rcases step : r.step b with ⟨e | ended, next⟩ <;> rw [step] at takes
      · exact h.takes head takes
      cases ended with
      | false => exact ih (h.takes head takes) (taken + 1)
      | true => exact h.takes head takes
    · rw [feedFrom_body body]
      exact h.takeBody body (b :: rest)
    · rw [feedFrom_done done]
      exact h

/-- The end of the stream makes what has come of a body the whole of it, if nothing else was told. -/
theorem Counts.finishAtEnd (h : r.Counts) : r.finishAtEnd.2.Counts := by
  rw [Reader.finishAtEnd]
  split
  · exact h
  · rename_i body length
    refine ⟨h.progress, ?_, fun _ => h.value (by simp [body]), ?_, fun _ => ⟨rfl, ?_⟩⟩
    · intro head
      cases head
    · intro going
      cases going
    · intro n same
      cases length.symm.trans same
  · exact h
  · exact h

theorem Counts.flush (h : r.Counts) (disk : Disk) : (r.flush disk).2.1.Counts := by
  have progress := r.sink.progress_flush disk
  have size := r.sink.bodySize_flush disk
  refine ⟨h.progress.trans progress.symm, fun head => ?_, h.value, fun body => ?_, fun done => ?_⟩
  · exact ⟨(h.head head).1, size.trans (h.head head).2⟩
  · exact ⟨size.trans (h.body body).1, (h.body body).2⟩
  · exact ⟨size.trans (h.done done).1, (h.done done).2⟩

/-! ## Streams -/

/-- Reading the head keeps the counts: all that it takes are bytes that arrive. -/
theorem Counts.readHead (h : r.Counts) (s : Stream) : (r.readHead s).2.1.Counts := by
  by_cases head : r.phase.isHead = true
  · exact .of_bare (readHead_arriving head s) (h.feedFrom 0 _)
  · rw [Bool.not_eq_true] at head
    rw [Reader.readHead, readHeadFrom_past head]
    exact h

/-- Reading the body keeps the counts, also where storing it fails. -/
theorem Counts.readBody (h : r.Counts) (s : Stream) (disk : Disk) :
    (r.readBody s disk).reader.Counts := by
  have kept : KeptByBody Counts :=
    ⟨fun _ capacity window mark h => h.withWindow capacity window mark,
      fun _ bytes body h => h.takeBody body bytes, fun _ disk h => h.flush disk,
      fun _ h => h.finishAtEnd⟩
  exact kept.readBody h s disk

/-! ## Calls -/

/-- A call keeps the counts, however it ends. -/
theorem Counts.perform (h : r.Counts) (call : Call) : (r.perform call).Counts := by
  cases call with
  | feed bytes => exact h.feedFrom 0 bytes
  | readHead s => exact h.readHead s
  | readBody s disk => exact h.readBody s disk

/-- **The counts agree after any calls.** -/
theorem Counts.performAll (h : r.Counts) (calls : List Call) : (r.performAll calls).Counts := by
  induction calls generalizing r with
  | nil => exact h
  | cons call calls ih => exact ih (h.perform call)

end Reader
end HttpFetch
