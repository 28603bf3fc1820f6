import HttpFetch.Proofs.Arrival
import HttpFetch.Proofs.Storage
/-!
# Where the head ends

The head of a response ends with the first line that is empty, carriage returns apart
(`afterBlank`). A reader does not look for that line; it goes by its phase and by what it has of a
name, and that comes to the same (`Reader.InHead.step`). So when it has read the head, what it still
holds and what is still to come are together what follows that line, and nothing of the body has
been taken (`Reader.rest_readHead`).
-/

namespace HttpFetch

/-- What follows the first empty line, if there is one. `blank` tells whether the line under way has
had nothing but carriage returns so far. -/
def afterBlankFrom (blank : Bool) : Bytes → Option Bytes
  | [] => none
  | b :: rest =>
    if b = 10 ∧ blank = true then some rest
    else afterBlankFrom (decide (b = 10) || blank && decide (b = 13)) rest

/-- What follows the first empty line of some bytes, if there is one. -/
def afterBlank (bytes : Bytes) : Option Bytes := afterBlankFrom true bytes

/-! ## Streams that break off -/

namespace Stream

/-- The fault by which deliveries break off, if they do not come to an end. -/
def breakIn : List Delivery → Option Fault
  | [] => none
  | d :: rest =>
    match d.event with
    | .again => breakIn rest
    | .bytes _ => breakIn rest
    | .ended => none
    | .broken fault => some fault

/-- Reads of limited size find the same end. -/
theorem breakIn_inPieces {size : Nat} (positive : 0 < size) (deliveries : List Delivery) :
    breakIn (deliveries.flatMap (Delivery.pieces size)) = breakIn deliveries := by
  refine Delivery.pieces_invariant positive (fun d rest rest' same => ?_)
    (fun cancels piece more rest filled full => ?_) deliveries
  · simp only [breakIn, same]
  · simp [breakIn, Delivery.event, filled, full]

end Stream

namespace Reader

/-! ## Readers in a head -/

/-- A reader in a head, of which `blank` tells whether the line under way has had nothing but
carriage returns. Nothing of a body has come. -/
structure InHead (r : Reader) (disk : Disk) (blank : Bool) : Prop where
  head : r.phase.isHead = true
  received : r.received = 0
  keeps : r.sink.Keeps disk [] []
  blank : r.phase ≠ .version → blank = (decide (r.phase = .name) && r.token.isEmpty)

/-- A reader at the start of a body. One that is to be empty is over. -/
structure AtBody (r : Reader) (disk : Disk) : Prop where
  phase : r.phase = if r.contentLength = some 0 then .done else .body
  received : r.received = 0
  keeps : r.sink.Keeps disk [] []
  size : ∀ n, r.contentLength = some n → r.sink.bodySize = some n

variable {r next : Reader} {disk : Disk} {blank : Bool} {b : UInt8}

theorem Takes.received {outcome : Except TransferError Bool} (h : Takes r b outcome next) :
    next.received = r.received ∧ next.sink.progress = r.sink.progress := by
  cases h with
  | headEnded => rcases h : r.contentLength with _ | n <;> simp [finishHead, h]
  | _ => exact ⟨rfl, rfl⟩

/-- No byte of the head counts as one of the body. -/
theorem Takes.keeps {outcome : Except TransferError Bool} (h : Takes r b outcome next)
    (keeps : r.sink.Keeps disk [] []) : next.sink.Keeps disk [] [] := by
  refine keeps.congr ?_ h.received.2 (.inr ?_)
  · rw [Sink.buffered, Sink.buffered, h.body]
  · rw [Sink.openFile?, Sink.openFile?, h.body]

theorem step_emptyLine (phase : r.phase = .name) (empty : r.token.isEmpty = true) :
    r.step 10 = (.ok true, r.finishHead) := by
  simp [step, phase, empty]

theorem InHead.atBody (h : r.InHead disk blank) : r.finishHead.AtBody disk := by
  have keeps : r.finishHead.sink.Keeps disk [] [] := by
    refine h.keeps.congr ?_ ?_ (.inr ?_) <;> rcases length : r.contentLength with _ | n <;>
      simp only [finishHead, length] <;> rfl
  refine ⟨?_, ?_, keeps, ?_⟩ <;> rcases length : r.contentLength with _ | n <;>
    simp [finishHead, length, h.received]

/-- **A head ends with an empty line**, and goes on with every other byte. -/
theorem InHead.step (h : r.InHead disk blank) {ended : Bool} (step : r.step b = (.ok ended, next)) :
    ended = (decide (b = 10) && blank) ∧
      (ended = false →
        next.InHead disk (decide (b = 10) || blank && decide (b = 13))) ∧
      (ended = true → next.AtBody disk) := by
  have takes : Takes r b (.ok ended) next := by
    have takes := takes_step h.head b
    rwa [step] at takes
  have head := takes.isHead h.head
  have received := takes.received.1.trans h.received
  have keeps := takes.keeps h.keeps
  by_cases last : r.phase = .name ∧ b = 10 ∧ r.token.isEmpty = true
  · obtain ⟨phase, rfl, empty⟩ := last
    rw [step_emptyLine phase empty] at step
    cases step
    have blank' := h.blank (by simp [phase])
    simp only [phase, empty, decide_true, Bool.and_self] at blank'
    exact ⟨by simp [blank'], nofun, fun _ => h.atBody⟩
  have going : ended = false := by
    cases takes with
    | headEnded phase line empty => exact absurd ⟨phase, line, empty⟩ last
    | _ => rfl
  subst going
  refine ⟨?_, fun _ => ⟨head, received, keeps, fun notVersion => ?_⟩, nofun⟩
  · by_cases line : b = 10
    · have notVersion : r.phase ≠ .version := by
        intro phase
        simp [Reader.step, phase, line] at step
      have blank' := h.blank notVersion
      rcases name : decide (r.phase = .name) <;> rcases empty : r.token.isEmpty <;>
        simp only [name, empty, Bool.and_false, Bool.false_and, Bool.and_self] at blank' <;>
        simp only [blank', Bool.and_false]
      exact absurd ⟨of_decide_eq_true name, line, empty⟩ last
    · simp [line]
  · cases takes with
    | skipped notVersion skip => simp [skip, h.blank notVersion]
    | blank phase space => simp [phase, space]
    | kept _ line skip => simp [keep, line, skip]
    | keptValue phase line skip => simp [phase, line, skip]
    | colon _ colon => simp [colon]
    | version _ space => simp [finishVersion, space]
    | status _ ends =>
      rcases ends with ⟨space, rfl⟩ | ⟨line, rfl⟩
      · simp [space]
      · simp [line]
    | description _ line => simp [finishDescription, line]
    | nameless _ line | field _ line | length _ line => simp [line]

/-- A portion leaves a reader in the head, or ends the head where the first empty line ends. -/
theorem InHead.feedFrom (h : r.InHead disk blank) {taken : Nat} {bytes : Bytes} {feed : Feed}
    (fed : r.feedFrom taken bytes = (.ok feed, next)) :
    (feed = .needMore ∧ ∃ blank', next.InHead disk blank' ∧
      ∀ more, afterBlankFrom blank (bytes ++ more) = afterBlankFrom blank' more) ∨
    ∃ k, (feed = .headEnded (taken + k) ∨ feed = .done (taken + k)) ∧ next.AtBody disk ∧
      ∀ more, afterBlankFrom blank (bytes ++ more) = some (bytes.drop k ++ more) := by
  induction bytes generalizing r taken blank with
  | nil =>
    simp only [Reader.feedFrom, if_neg (Phase.ne_done h.head)] at fed
    cases fed
    exact .inl ⟨rfl, blank, h, fun _ => rfl⟩
  | cons b rest ih =>
    rw [feedFrom_head h.head] at fed
    rcases step : r.step b with ⟨e | ended, after⟩ <;> rw [step] at fed
    · cases fed
    obtain ⟨line, goesOn, ends⟩ := h.step step
    cases ended with
    | false =>
      have skips (more : Bytes) : afterBlankFrom blank (b :: rest ++ more) =
          afterBlankFrom (decide (b = 10) || blank && decide (b = 13)) (rest ++ more) := by
        rw [List.cons_append, afterBlankFrom, if_neg]
        rintro ⟨rfl, rfl⟩
        cases line
      rcases ih (goesOn rfl) fed with ⟨open', blank', inHead, same⟩ | ⟨k, ended, atBody, same⟩
      · exact .inl ⟨open', blank', inHead, fun more => (skips more).trans (same more)⟩
      · refine .inr ⟨k + 1, ?_, atBody, fun more => (skips more).trans (same more)⟩
        rwa [Nat.add_assoc, Nat.add_comm 1 k] at ended
    | true =>
      simp only [Prod.mk.injEq, Except.ok.injEq] at fed
      obtain ⟨rfl, rfl⟩ := fed
      refine .inr ⟨1, ?_, ends rfl, fun more => ?_⟩
      · split_ifs
        · exact .inr rfl
        · exact .inl rfl
      · simp only [Bool.true_eq, Bool.and_eq_true, decide_eq_true_eq] at line
        rw [List.cons_append, afterBlankFrom, if_pos line]
        rfl

/-! ## Readers after a head -/

theorem InHead.withWindow (h : r.InHead disk blank) (capacity : Nat) (window : Bytes) (mark : Nat) :
    (r.withWindow capacity window mark).InHead disk blank :=
  ⟨h.head, h.received, h.keeps, h.blank⟩

theorem AtBody.withWindow (h : r.AtBody disk) (capacity : Nat) (window : Bytes) (mark : Nat) :
    (r.withWindow capacity window mark).AtBody disk :=
  ⟨h.phase, h.received, h.keeps, h.size⟩

/-- **After the head** a reader holds the first bytes that follow the empty line, and the others are
still to come. -/
theorem InHead.readHeadFrom (h : r.InHead disk blank) {cancelled : Bool}
    {deliveries : List Delivery} {later : Stream}
    (read : r.readHeadFrom cancelled deliveries = (.ok (), next, later)) :
    next.AtBody disk ∧ next.capacity = r.capacity ∧
      afterBlankFrom blank (Stream.waitingIn deliveries) =
        some (next.unread ++ Stream.waitingIn later.deliveries) ∧
      Stream.breakIn later.deliveries = Stream.breakIn deliveries := by
  induction deliveries generalizing r cancelled blank with
  | nil =>
    simp only [Reader.readHeadFrom, h.head, finishAtEnd_head h.head] at read
    cases cancelled <;> cases read
  | cons d rest ih =>
    cases cancelled with
    | true => simp [Reader.readHeadFrom, h.head] at read
    | false =>
      rcases event : d.event with _ | bytes | _ | fault
      · have again : r.readHeadFrom false (d :: rest) = r.readHeadFrom d.cancels rest := by
          simp [Reader.readHeadFrom, h.head, event]
        simp only [Stream.waitingIn, Stream.breakIn, event]
        exact ih h (again ▸ read)
      · simp only [Stream.waitingIn, Stream.breakIn, event]
        rw [readHeadFrom_bytes h.head event] at read
        rcases fed : r.feed bytes with ⟨e | feed, after⟩ <;> rw [fed] at read
        · cases read
        rcases h.feedFrom fed with ⟨rfl, blank', inHead, same⟩ | ⟨k, ended, atBody, same⟩
        · obtain ⟨atBody, capacity, follows, breaks⟩ := ih (inHead.withWindow _ _ _) read
          exact ⟨atBody, capacity, (same _).trans follows, breaks⟩
        · have ended' : (.ok (), after.withWindow r.capacity bytes k, ⟨rest, d.cancels⟩) =
              ((.ok (), next, later) : Except TransferError Unit × Reader × Stream) := by
            have past : after.phase.isHead = false := by
              rw [atBody.phase]
              split_ifs <;> rfl
            rw [Nat.zero_add] at ended
            rcases ended with rfl | rfl
            · exact (readHeadFrom_past (r := after.withWindow r.capacity bytes k) past _ _).symm.trans
                read
            · exact (readHeadFrom_past (r := after.withWindow r.capacity bytes k) past _ _).symm.trans
                read
          cases ended'
          exact ⟨atBody.withWindow _ _ _, rfl, same _, rfl⟩
      · simp only [Reader.readHeadFrom, h.head, event, finishAtEnd_head h.head] at read
        rcases cancels : d.cancels <;> simp [cancels] at read
      · simp [Reader.readHeadFrom, h.head, event] at read

theorem inHead_start (size : Nat) {sink : Sink} (keeps : sink.Keeps disk [] []) :
    (start size sink).InHead disk true :=
  ⟨rfl, rfl, keeps, fun notVersion => absurd rfl notVersion⟩

/-- What follows the first empty line of a response is what the reader of its head has left. -/
theorem rest_readHead {size : Nat} {sink : Sink} (keeps : sink.Keeps disk [] []) {s later : Stream}
    (read : (start size sink).readHead s = (.ok (), next, later)) :
    next.AtBody disk ∧ 0 < next.capacity ∧
      afterBlank s.waiting = some (next.unread ++ later.waiting) ∧
      Stream.breakIn later.deliveries = Stream.breakIn s.deliveries := by
  have positive := capacity_start_pos size sink
  obtain ⟨atBody, capacity, follows, breaks⟩ := (inHead_start size keeps).readHeadFrom read
  simp only [Stream.inPieces] at follows breaks
  rw [Stream.waitingIn_inPieces positive] at follows
  rw [Stream.breakIn_inPieces positive] at breaks
  exact ⟨atBody, capacity ▸ positive, follows, breaks⟩

end Reader
end HttpFetch
