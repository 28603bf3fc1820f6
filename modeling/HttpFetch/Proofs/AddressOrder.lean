import HttpFetch.Connection.Dial
/-!
# The order of addresses

Dialling tries the addresses of a host one after the other. `Dialled.Tries` says which attempts are
made and what they come to: the first that succeeds is the last one made, none is made once the
transfer has been cancelled, and if all fail the fault of the last one counts. Every list of
attempts is gone through like that (`Dialled.exists_tries`), by one lemma for each way in which the
first attempt can go.
-/

namespace HttpFetch

/-- Whether an attempt fails. -/
def Attempt.Fails (attempt : Attempt) : Prop := ∃ fault, attempt.outcome = .error fault

namespace Dialled

/-- Whether the transfer has been cancelled once some attempts have been made. -/
def cancelledAfter (cancelled : Bool) (made : List Attempt) : Bool :=
  cancelled || made.any (·.cancels)

/-- What dialling comes to if of all `attempts` those of `made` are made. -/
inductive Ends (target : String) (cancelled : Bool) (attempts made : List Attempt) :
    Except TransferError Peer → Prop where
  /-- the last attempt gives the connection -/
  | answered {attempt : Attempt} {peer : Peer} : made.getLast? = some attempt →
    attempt.outcome = .ok peer → Ends target cancelled attempts made (.ok peer)
  /-- all attempts are made, and the last fault is reported -/
  | exhausted {attempt : Attempt} {fault : Fault} : made = attempts →
    made.getLast? = some attempt → attempt.outcome = .error fault →
    Ends target cancelled attempts made (.error (.connection target fault))
  /-- attempts are left, and the transfer has been cancelled -/
  | stopped : made ≠ attempts → (∀ attempt ∈ made, attempt.Fails) →
    cancelledAfter cancelled made = true → Ends target cancelled attempts made (.error .cancelled)

/-- How dialling goes through `attempts`: those of `made` are made. -/
structure Tries (target : String) (cancelled : Bool) (attempts made : List Attempt)
    (dialled : Dialled) : Prop where
  /-- they are the first ones, so they are made in order and none of them twice -/
  inOrder : made <+: attempts
  tried : dialled.tried = made.map (·.address)
  /-- each is made before the transfer is cancelled, and only after failures -/
  each : ∀ before attempt, before ++ [attempt] <+: made →
    cancelledAfter cancelled before = false ∧ ∀ earlier ∈ before, earlier.Fails
  flag : dialled.cancelled = cancelledAfter cancelled made
  ends : Ends target cancelled attempts made dialled.outcome

variable {target : String} {last : Fault} {cancelled : Bool} {attempt : Attempt}
  {attempts rest made : List Attempt}

/-- A transfer that has been cancelled makes no attempt. -/
theorem tries_stopped (some : attempts ≠ []) :
    Tries target true attempts [] (tryFrom target last true attempts) := by
  obtain ⟨attempt, rest, rfl⟩ := List.exists_cons_of_ne_nil some
  have outcome : tryFrom target last true (attempt :: rest) = ⟨.error .cancelled, [], true⟩ := rfl
  rw [outcome]
  refine ⟨List.nil_prefix, rfl, ?_, rfl, .stopped some.symm (by simp) rfl⟩
  intro before attempt isPrefix
  simp at isPrefix

/-- The only attempt that is made starts before the transfer is cancelled. -/
theorem each_single : ∀ before next, before ++ [next] <+: [attempt] →
    cancelledAfter false before = false ∧ ∀ earlier ∈ before, earlier.Fails := by
  intro before next isPrefix
  have short := isPrefix.length_le
  simp only [List.length_append, List.length_singleton] at short
  obtain rfl := List.length_eq_zero_iff.1 (by omega : before.length = 0)
  exact ⟨rfl, by simp⟩

/-- An attempt that succeeds is the last one. -/
theorem tries_answered {peer : Peer} (answers : attempt.outcome = .ok peer) :
    Tries target false (attempt :: rest) [attempt]
      (tryFrom target last false (attempt :: rest)) := by
  have outcome : tryFrom target last false (attempt :: rest) =
      ⟨.ok peer, [attempt.address], attempt.cancels⟩ := by
    simp only [tryFrom, answers, Bool.false_eq_true, if_false]
  rw [outcome]
  exact ⟨⟨rest, rfl⟩, rfl, each_single, by simp [cancelledAfter], .answered rfl answers⟩

/-- An attempt that fails is reported if there is no other. -/
theorem tries_exhausted {fault : Fault} (fails : attempt.outcome = .error fault) :
    Tries target false [attempt] [attempt] (tryFrom target last false [attempt]) := by
  have outcome : tryFrom target last false [attempt] =
      ⟨.error (.connection target fault), [attempt.address], attempt.cancels⟩ := by
    simp only [tryFrom, fails, Bool.false_eq_true, if_false]
  rw [outcome]
  exact ⟨List.prefix_rfl, rfl, each_single, by simp [cancelledAfter], .exhausted rfl rfl fails⟩

/-- After an attempt that fails the others are tried, and the cancellation during it counts. -/
theorem Tries.cons {dialled : Dialled} {fault : Fault} (fails : attempt.outcome = .error fault)
    (later : Tries target attempt.cancels rest made dialled) :
    Tries target false (attempt :: rest) (attempt :: made)
      { dialled with tried := attempt.address :: dialled.tried } where
  inOrder := List.cons_prefix_cons.2 ⟨rfl, later.inOrder⟩
  tried := congrArg (attempt.address :: ·) later.tried
  each := by
    intro before next isPrefix
    cases before with
    | nil => exact ⟨rfl, by simp⟩
    | cons first before =>
      rw [List.cons_append, List.cons_prefix_cons] at isPrefix
      obtain ⟨rfl, within⟩ := isPrefix
      obtain ⟨going, failed⟩ := later.each before next within
      refine ⟨by simpa [cancelledAfter] using going, fun earlier mem => ?_⟩
      rcases List.mem_cons.1 mem with rfl | mem
      · exact ⟨fault, fails⟩
      · exact failed earlier mem
  flag := by simpa [cancelledAfter] using later.flag
  ends := by
    have last {other : Attempt} (ends : made.getLast? = Option.some other) :
        (attempt :: made).getLast? = Option.some other := by
      rw [List.getLast?_cons, ends]
      rfl
    obtain ⟨outcome, tried, stops⟩ := dialled
    cases later.ends with
    | answered ends answers => exact .answered (last ends) answers
    | exhausted all ends failed => exact .exhausted (congrArg _ all) (last ends) failed
    | stopped left failed stops =>
      refine .stopped (fun same => left (List.cons.inj same).2) (fun earlier mem => ?_) ?_
      · rcases List.mem_cons.1 mem with rfl | mem
        · exact ⟨fault, fails⟩
        · exact failed earlier mem
      · simpa [cancelledAfter] using stops

/-- **Attempts are made in order** until one succeeds, until the transfer is cancelled or until none
is left. -/
theorem exists_tries (target : String) (last : Fault) (cancelled : Bool) (some : attempts ≠ []) :
    ∃ made, Tries target cancelled attempts made (tryFrom target last cancelled attempts) := by
  induction attempts generalizing last cancelled with
  | nil => exact absurd rfl some
  | cons attempt rest ih =>
    cases cancelled with
    | true => exact ⟨[], tries_stopped some⟩
    | false =>
      rcases outcome : attempt.outcome with fault | peer
      · by_cases none : rest = []
        · rw [none]
          exact ⟨[attempt], tries_exhausted outcome⟩
        · obtain ⟨made, later⟩ := ih fault attempt.cancels none
          have goesOn : tryFrom target last false (attempt :: rest) =
              { tryFrom target fault attempt.cancels rest with
                tried := attempt.address :: (tryFrom target fault attempt.cancels rest).tried } := by
            simp only [tryFrom, outcome, Bool.false_eq_true, if_false]
          rw [goesOn]
          exact ⟨attempt :: made, later.cons outcome⟩
      · exact ⟨[attempt], tries_answered outcome⟩

end Dialled

/-- **The addresses of a host are tried in order.** If the host cannot be looked up or has no
address, there is no attempt and the error names host and port. Otherwise the attempts are made as
`Dialled.Tries` says. -/
theorem dial_tries (reach : Reach) (peer : Url) (cancelled : Bool) :
    match reach peer.host.text peer.port with
    | .error fault => dial reach peer cancelled =
      ⟨.error (.connection (peer.hostHeader ++ ":" ++ toString peer.port.toNat) fault), [],
        cancelled⟩
    | .ok [] => dial reach peer cancelled =
      ⟨.error (.connection (peer.hostHeader ++ ":" ++ toString peer.port.toNat)
        Dialled.noAddresses), [], cancelled⟩
    | .ok (first :: others) => ∃ made,
      Dialled.Tries (peer.hostHeader ++ ":" ++ toString peer.port.toNat) cancelled
        (first :: others) made (dial reach peer cancelled) := by
  rw [dial]
  rcases reach peer.host.text peer.port with fault | attempts
  · rfl
  cases attempts with
  | nil => rfl
  | cons first others =>
    exact Dialled.exists_tries _ Dialled.noAddresses cancelled (List.cons_ne_nil first others)

end HttpFetch
