import HttpFetch.Proofs.Tunnels
import HttpFetch.Proofs.Words
import Mathlib.Data.List.Infix
/-!
# How much of a reply is read

What follows the head of a proxy's reply comes from the server, so the head is read one byte at a
time, and as long as nothing stops the reader it takes what comes (`Tunnel.exists_readFrom`). It
stops at the end of the shortest beginning that ends with an empty line, or at the limit, or where
the stream ends. The tunnel is open if the first line of what was read has the word `200` in its
second place, however many blanks there are around the words (`Tunnel.isOpen_statusLine`).
-/

namespace HttpFetch

/-- Reads of limited size find the end of the stream alike. -/
theorem Stream.endsCleanlyIn_inPieces {size : Nat} (positive : 0 < size)
    (deliveries : List Delivery) :
    endsCleanlyIn (deliveries.flatMap (Delivery.pieces size)) = endsCleanlyIn deliveries := by
  refine Delivery.pieces_invariant positive (fun d rest rest' same => ?_)
    (fun cancels piece more rest filled full => ?_) deliveries
  · simp only [endsCleanlyIn, same]
  · simp [endsCleanlyIn, filled, full]

namespace Tunnel

/-! ## Where a reply ends -/

/-- Bytes that end with an empty line: two line feeds, each with or each without a carriage
return. -/
def EndsEmpty (bytes : Bytes) : Prop := [13, 10, 13, 10] <:+ bytes ∨ [10, 10] <:+ bytes

instance (bytes : Bytes) : Decidable (EndsEmpty bytes) :=
  inferInstanceAs (Decidable ([13, 10, 13, 10] <:+ bytes ∨ [10, 10] <:+ bytes))

/-- The head with which bytes begin: the shortest beginning that ends with an empty line. -/
structure IsHeadOf (head bytes : Bytes) : Prop where
  first : head <+: bytes
  ends : EndsEmpty head
  shortest : ∀ part, part <+: bytes → EndsEmpty part → head.length ≤ part.length

instance (head bytes : Bytes) : Decidable (IsHeadOf head bytes) :=
  decidable_of_iff (head <+: bytes ∧ EndsEmpty head ∧
      ∀ part ∈ bytes.inits, EndsEmpty part → head.length ≤ part.length)
    ⟨fun ⟨first, ends, least⟩ => ⟨first, ends, fun part beginning =>
      least part ((List.mem_inits _ _).2 beginning)⟩,
    fun h => ⟨h.first, h.ends, fun part mem => h.shortest part ((List.mem_inits _ _).1 mem)⟩⟩

theorem endsHead_reverse_iff (bytes : Bytes) : endsHead bytes.reverse = true ↔ EndsEmpty bytes := by
  rw [EndsEmpty, ← List.reverse_prefix, ← List.reverse_prefix]
  generalize bytes.reverse = reversed
  simp only [List.reverse_cons, List.reverse_nil, List.nil_append, List.cons_append]
  constructor
  · intro ends
    unfold endsHead at ends
    split at ends
    · exact .inr (by simp)
    · exact .inl (by simp)
    · cases ends
  · rintro (⟨more, rfl⟩ | ⟨more, rfl⟩) <;> rfl

theorem endsHead_eq_false {bytes : Bytes} (going : ¬ EndsEmpty bytes) :
    endsHead bytes.reverse = false := by
  rw [← Bool.not_eq_true, endsHead_reverse_iff]
  exact going

/-! ## Reading -/

variable {deliveries : List Delivery}

/-- **Bytes are taken one by one** as long as what has been taken does not end a head and is not too
long. What is not taken is left in the stream, which ends as before. -/
theorem exists_readFrom (single : ∀ d ∈ deliveries, d.Fits 1) {taken more reply : Bytes}
    (gives : Stream.waitingIn deliveries = taken ++ more)
    (fits : (reply ++ taken).length ≤ maxReply)
    (going : ∀ part, part <+: taken → part.length < taken.length → ¬ EndsEmpty (reply ++ part))
    (cancelled : Bool) :
    ∃ cancelled' later,
      readFrom reply.reverse cancelled deliveries =
        readFrom (reply ++ taken).reverse cancelled' later ∧
      Stream.waitingIn later = more ∧
      Stream.endsCleanlyIn later = Stream.endsCleanlyIn deliveries := by
  induction deliveries generalizing taken reply cancelled with
  | nil =>
    obtain ⟨rfl, rfl⟩ := List.append_eq_nil_iff.1 gives.symm
    exact ⟨cancelled, [], by rw [List.append_nil], rfl, rfl⟩
  | cons d rest ih =>
    rcases taken with _ | ⟨next, others⟩
    · exact ⟨cancelled, d :: rest, by rw [List.append_nil], gives, rfl⟩
    have goesOn : ¬ endsHead reply.reverse = true := by
      have notYet := going [] List.nil_prefix (Nat.succ_pos _)
      rw [List.append_nil] at notYet
      simp [endsHead_eq_false notYet]
    have short : ¬ maxReply ≤ reply.reverse.length := by
      rw [List.length_append, List.length_cons] at fits
      rw [List.length_reverse]
      omega
    have single' : ∀ e ∈ rest, e.Fits 1 := fun e mem => single e (List.mem_cons_of_mem d mem)
    rw [readFrom, if_neg goesOn, if_neg short]
    rcases event : d.event with _ | bytes | _ | fault <;>
      simp only [Stream.waitingIn, event] at gives
    · obtain ⟨fault, outcome, interrupted⟩ := Delivery.outcome_of_again event
      obtain ⟨cancelled', later, read, left, ends⟩ :=
        ih single' gives fits going (cancelled || d.cancels)
      simp only [outcome, if_pos interrupted]
      exact ⟨cancelled', later, read, left,
        ends.trans (by simp [Stream.endsCleanlyIn, outcome, interrupted])⟩
    · obtain ⟨outcome, filled⟩ := Delivery.outcome_of_bytes event
      obtain ⟨b, rfl⟩ : ∃ b, bytes = [b] := by
        have one := single d List.mem_cons_self bytes outcome
        exact List.length_eq_one_iff.1 (by have := List.length_pos_iff.2 filled; omega)
      obtain ⟨rfl, follows⟩ : b = next ∧ Stream.waitingIn rest = others ++ more := by
        simpa using gives
      rw [← List.singleton_append, ← List.append_assoc] at fits ⊢
      obtain ⟨cancelled', later, read, left, ends⟩ :=
        ih single' follows fits (fun part first shorter => by
          rw [List.append_assoc]
          exact going ([b] ++ part) ((List.prefix_cons_inj b).2 first) (Nat.succ_lt_succ shorter))
          (cancelled || d.cancels)
      simp only [outcome, ← List.reverse_append]
      exact ⟨cancelled', later, read, left,
        ends.trans (by simp [Stream.endsCleanlyIn, outcome])⟩
    · cases gives
    · cases gives

/-- A reply that has ended is not read on. -/
theorem readFrom_ended {reply : Bytes} (ends : EndsEmpty reply) (cancelled : Bool)
    (deliveries : List Delivery) :
    readFrom reply.reverse cancelled deliveries = (.ok reply, ⟨deliveries, cancelled⟩) := by
  have ended := (endsHead_reverse_iff reply).2 ends
  cases deliveries <;> rw [readFrom, if_pos ended, List.reverse_reverse]

/-- Nor is one that is too long. -/
theorem readFrom_tooLong {reply : Bytes} (going : ¬ EndsEmpty reply)
    (long : maxReply ≤ reply.length) (cancelled : Bool) (deliveries : List Delivery) :
    readFrom reply.reverse cancelled deliveries = (.error tooLong, ⟨deliveries, cancelled⟩) := by
  have open' : ¬ endsHead reply.reverse = true := by simp [endsHead_eq_false going]
  cases deliveries <;>
    rw [readFrom, if_neg open', if_pos (by rwa [List.length_reverse])]

/-- At the end of the stream a reply is all that there is of it, if there is anything. -/
theorem readFrom_atEnd {reply : Bytes} (going : ¬ EndsEmpty reply)
    (short : reply.length < maxReply) (nothing : Stream.waitingIn deliveries = [])
    (clean : Stream.endsCleanlyIn deliveries = true) (cancelled : Bool) :
    (readFrom reply.reverse cancelled deliveries).1 =
      if reply = [] then .error silent else .ok reply := by
  have open' : ¬ endsHead reply.reverse = true := by simp [endsHead_eq_false going]
  have room : ¬ maxReply ≤ reply.reverse.length := by
    rw [List.length_reverse]
    omega
  have isEmpty : reply.reverse.isEmpty = true ↔ reply = [] := by simp
  induction deliveries generalizing cancelled with
  | nil =>
    rw [readFrom, if_neg open', if_neg room, List.reverse_reverse]
    simp only [isEmpty]
    split_ifs <;> rfl
  | cons d later ih =>
    rw [readFrom, if_neg open', if_neg room]
    rcases outcome : d.outcome with fault | _ | ⟨b, bytes⟩
    · simp only [Stream.endsCleanlyIn, outcome, Bool.and_eq_true, beq_iff_eq] at clean
      have event : d.event = .again := by simp [Delivery.event, outcome, clean.1]
      simp only [Stream.waitingIn, event] at nothing
      simp only [if_pos clean.1]
      exact ih nothing clean.2 (cancelled || d.cancels)
    · simp only [isEmpty, List.reverse_reverse]
      split_ifs <;> rfl
    · have event : d.event = .bytes (b :: bytes) := by simp [Delivery.event, outcome]
      simp only [Stream.waitingIn, event] at nothing
      cases nothing

/-! ## Whole replies -/

/-- Reading takes what comes first of the stream, up to the end of a head. -/
theorem exists_readReply {s : Stream} {taken more : Bytes} (parts : taken ++ more = s.waiting)
    (fits : taken.length ≤ maxReply)
    (going : ∀ part, part <+: taken → part.length < taken.length → ¬ EndsEmpty part) :
    ∃ cancelled later, readReply s = readFrom taken.reverse cancelled later ∧
      Stream.waitingIn later = more ∧ Stream.endsCleanlyIn later = s.endsCleanly := by
  have fits' : ([] ++ taken).length ≤ maxReply := fits
  obtain ⟨cancelled, later, read, left, ends⟩ := exists_readFrom
    (Delivery.fits_of_mem_flatMap Nat.one_pos)
    ((Stream.waitingIn_inPieces Nat.one_pos s.deliveries).trans parts.symm) fits' going s.cancelled
  exact ⟨cancelled, later, read, left,
    ends.trans (Stream.endsCleanlyIn_inPieces Nat.one_pos s.deliveries)⟩

/-- **A head that is not too long is read and nothing after it.** -/
theorem readReply_head {s : Stream} {head : Bytes} (isHead : IsHeadOf head s.waiting)
    (fits : head.length ≤ maxReply) :
    (readReply s).1 = .ok head ∧ s.waiting = head ++ (readReply s).2.waiting ∧
      (readReply s).2.endsCleanly = s.endsCleanly := by
  obtain ⟨more, parts⟩ := isHead.first
  have going : ∀ part, part <+: head → part.length < head.length → ¬ EndsEmpty part :=
    fun part first shorter ends =>
      absurd (isHead.shortest part (first.trans isHead.first) ends) (by omega)
  obtain ⟨cancelled, later, read, left, ends⟩ := exists_readReply parts fits going
  rw [read, readFrom_ended isHead.ends]
  exact ⟨rfl, by rw [← parts, ← left, Stream.waiting], ends⟩

/-- **What goes on for too long is read up to the limit.** -/
theorem readReply_tooLong {s : Stream}
    (late : ∀ part, part <+: s.waiting → EndsEmpty part → maxReply < part.length)
    (long : maxReply ≤ s.waiting.length) :
    (readReply s).1 = .error tooLong ∧ (readReply s).2.waiting = s.waiting.drop maxReply := by
  have size : (s.waiting.take maxReply).length = maxReply := List.length_take_of_le long
  have going : ∀ part, part <+: s.waiting.take maxReply → ¬ EndsEmpty part :=
    fun part first ends => by
      have within := first.length_le
      exact absurd (late part (first.trans (List.take_prefix _ _)) ends) (by omega)
  obtain ⟨cancelled, later, read, left, -⟩ := exists_readReply
    (List.take_append_drop maxReply s.waiting) size.le fun part first _ => going part first
  rw [read, readFrom_tooLong (going _ List.prefix_rfl) size.ge]
  exact ⟨rfl, left⟩

/-- **What ends too early is read to its end**, and there has to be something. -/
theorem readReply_atEnd {s : Stream} (going : ∀ part, part <+: s.waiting → ¬ EndsEmpty part)
    (short : s.waiting.length < maxReply) (clean : s.endsCleanly = true) :
    (readReply s).1 = if s.waiting = [] then .error silent else .ok s.waiting := by
  obtain ⟨cancelled, later, read, left, ends⟩ := exists_readReply (List.append_nil s.waiting)
    short.le fun part first _ => going part first
  rw [read, readFrom_atEnd (going _ List.prefix_rfl) short left (ends.trans clean)]

/-! ## Whether the tunnel is open -/

/-- A reply whose first line has the word `200` in its second place. -/
def Grants (reply : Bytes) : Prop :=
  ∃ before first gap after, Text.ComesSecond Text.isBlank "200".toList
    ((Utf8.decodeLossy reply).toList.takeWhile (· ≠ '\n')) before first gap after

/-- Blanks around the first line make no difference to its words. -/
theorem isOpen_statusLine (reply : Bytes) : isOpen (statusLine reply) = true ↔ Grants reply := by
  rw [isOpen, statusLine, String.toList_ofList, Text.trimChars, Text.tokens_stripChars,
    beq_iff_eq, Text.getElem?_tokens_one (by decide) (forall_mem_of_all (by decide)), Grants]

/-- **Asking opens a tunnel** if the request is sent and a reply is read that grants it. -/
theorem outcome_openTunnel (url proxy : Url) (auth : Option Credentials) (channel : Channel)
    (cancelled : Bool) {written : Written}
    (writes : channel.outlet.write (connectRequest url auth) = written) :
    (openTunnel url proxy auth channel cancelled).outcome = .ok () ↔ written.outcome = .ok () ∧
      ∃ reply, (readReply ⟨channel.inbound, cancelled || written.cancels⟩).1 = .ok reply ∧
        Grants reply := by
  rw [openTunnel, writes]
  rcases written.outcome with fault | _
  · simp
  rcases readReply ⟨channel.inbound, cancelled || written.cancels⟩ with ⟨fault | reply, rest⟩
  · simp
  · simp only [← isOpen_statusLine]
    split_ifs with isOpen <;> simp [isOpen]

/-- **The head of a reply is read and nothing after it.** What is read ends where the head does, if
the head is not too long. A reply whose head does not end within the limit is an error, and so is one
of no bytes at all; what ends before the head is over is read as it is. The tunnel is open if
something is read whose first line has the word `200` in its second place. -/
theorem readReply_takes_head (s : Stream) :
    (∀ head, IsHeadOf head s.waiting → head.length ≤ maxReply →
      (readReply s).1 = .ok head ∧ s.waiting = head ++ (readReply s).2.waiting ∧
        (readReply s).2.endsCleanly = s.endsCleanly) ∧
    ((∀ part, part <+: s.waiting → EndsEmpty part → maxReply < part.length) →
      maxReply ≤ s.waiting.length →
      (readReply s).1 = .error ⟨.invalidData, "proxy reply header too large"⟩ ∧
        (readReply s).2.waiting = s.waiting.drop maxReply) ∧
    ((∀ part, part <+: s.waiting → ¬ EndsEmpty part) → s.waiting.length < maxReply →
      s.endsCleanly = true →
      (readReply s).1 = if s.waiting = []
        then .error ⟨.unexpectedEnd, "proxy closed the connection"⟩ else .ok s.waiting) ∧
    ∀ (url proxy : Url) (auth : Option Credentials) (channel : Channel) (cancelled : Bool),
      (openTunnel url proxy auth channel cancelled).outcome = .ok () ↔
        (channel.outlet.write (connectRequest url auth)).outcome = .ok () ∧
        ∃ reply, (readReply ⟨channel.inbound,
          cancelled || (channel.outlet.write (connectRequest url auth)).cancels⟩).1 = .ok reply ∧
          Grants reply := by
  refine ⟨fun head isHead fits => readReply_head isHead fits,
    fun late long => readReply_tooLong late long,
    fun going short clean => readReply_atEnd going short clean, ?_⟩
  intro url proxy auth channel cancelled
  exact outcome_openTunnel url proxy auth channel cancelled rfl

/-- A head that comes in two portions, with more line ends after it; bytes that go on for too long; and
a stream that ends within the head. -/
theorem readReply_takes_head_of_portions :
    (IsHeadOf [86, 13, 10, 13, 10] [86, 13, 10, 13, 10, 13, 10, 22] ∧
      (readReply ⟨[⟨false, .error ⟨.interrupted, ""⟩⟩, ⟨false, .ok [86, 13, 10, 13]⟩,
        ⟨false, .ok [10, 13, 10, 22]⟩], false⟩).1 = .ok [86, 13, 10, 13, 10]) ∧
    (readReply ⟨[⟨false, .ok (List.replicate 8193 86)⟩], false⟩).1 =
      .error ⟨.invalidData, "proxy reply header too large"⟩ ∧
    (readReply ⟨[⟨false, .ok [86, 13, 10]⟩], false⟩).1 = .ok [86, 13, 10] := by
  have isHead : IsHeadOf [86, 13, 10, 13, 10] [86, 13, 10, 13, 10, 13, 10, 22] := by decide
  have endless : ∀ part, part <+: List.replicate 8193 86 → ¬ EndsEmpty part := by
    intro part first ends
    have line : (10 : UInt8) ∈ part := by
      rcases ends with ends | ends <;> exact ends.subset (by simp)
    exact absurd (List.eq_of_mem_replicate (first.subset line)) (by decide)
  have waiting : Stream.waiting ⟨[⟨false, .ok (List.replicate 8193 86)⟩], false⟩ =
      List.replicate 8193 86 := List.append_nil _
  refine ⟨⟨isHead, ((readReply_takes_head _).1 _ isHead (by decide)).1⟩,
    ((readReply_takes_head _).2.1 ?_ ?_).1, (readReply_takes_head _).2.2.1 ?_ (by decide) rfl⟩
  · rw [waiting]
    exact fun part first ends => absurd ends (endless part first)
  · rw [waiting, List.length_replicate]
    decide
  · have none : ∀ part ∈ List.inits [86, 13, 10], ¬ EndsEmpty part := by decide
    exact fun part first => none part ((List.mem_inits _ _).2 first)

end Tunnel
end HttpFetch
