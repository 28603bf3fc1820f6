import HttpFetch.Proofs.Requests
import HttpFetch.Proofs.Tunnels
/-!
# Cancellation while a tunnel is asked for

Reading the reply of a proxy does not look at cancellation, so what it comes to is decided by how
the connection reads once it has been shut down (`Tunnel.readReply_cutShort`). A fault is taken for
the cancellation that it comes of. A connection that reads as closed is not, if the proxy has said
something by then: what there is of the reply is taken for all of it, and the proxy is said to
refuse the tunnel (`connect_cutShort`).
-/

namespace HttpFetch

/-- Bytes that come before others. -/
theorem Stream.waitingIn_append {before : List Delivery}
    (goesOn : ∀ d ∈ before, d.event = .again ∨ ∃ bytes, d.event = .bytes bytes)
    (later : List Delivery) :
    waitingIn (before ++ later) = waitingIn before ++ waitingIn later := by
  induction before with
  | nil => rfl
  | cons d rest ih =>
    have rest' := ih fun e mem => goesOn e (List.mem_cons_of_mem d mem)
    rw [List.cons_append, waitingIn, waitingIn]
    rcases goesOn d List.mem_cons_self with again | ⟨bytes, gives⟩
    · simp only [again, rest']
    · simp only [gives, rest', List.append_assoc]

namespace Tunnel

/-- The reads of a reply, of one byte each, where the transfer is cancelled during one of them. -/
structure CutShort (reads before : List Delivery) (during : Delivery) (after : List Delivery) :
    Prop where
  reads : reads = before ++ during :: after
  quiet : ∀ d ∈ before, d.cancels = false
  goesOn : ∀ d ∈ before, d.event = .again ∨ ∃ bytes, d.event = .bytes bytes
  /-- the empty line is still to come, and the reply is not too long without it -/
  unfinished : ∀ seen, seen <+: Stream.waitingIn before → endsHead seen.reverse = false
  short : (Stream.waitingIn before).length < maxReply
  cancels : during.cancels = true
  /-- the connection has been shut down -/
  shut : Stream.waitingIn after = []

/-- Whether a reply of which `part` has come is taken for a whole one: it has its empty line, or it
has begun and then the connection reads as closed. -/
def TakenWhole (part : Bytes) (closed : Bool) : Prop :=
  endsHead part.reverse = true ∨ part ≠ [] ∧ part.length < maxReply ∧ closed = true

instance (part : Bytes) (closed : Bool) : Decidable (TakenWhole part closed) :=
  inferInstanceAs (Decidable (_ ∨ _))

variable {reply : Bytes} {before after later : List Delivery} {during : Delivery}

/-- Reads that leave a reply open are taken one after the other. -/
theorem readFrom_goesOn
    (quiet : ∀ d ∈ before, d.cancels = false)
    (goesOn : ∀ d ∈ before, d.event = .again ∨ ∃ bytes, d.event = .bytes bytes)
    (unfinished : ∀ seen, seen <+: Stream.waitingIn before →
      endsHead (seen.reverse ++ reply) = false)
    (short : reply.length + (Stream.waitingIn before).length < maxReply) (later : List Delivery) :
    readFrom reply false (before ++ later) =
      readFrom ((Stream.waitingIn before).reverse ++ reply) false later := by
  induction before generalizing reply with
  | nil => rfl
  | cons d rest ih =>
    have open' : ¬ endsHead reply = true := by
      simpa using unfinished [] List.nil_prefix
    have room : ¬ maxReply ≤ reply.length := by omega
    have going : d.cancels = false := quiet d List.mem_cons_self
    have quiet' : ∀ e ∈ rest, e.cancels = false := fun e mem => quiet e (List.mem_cons_of_mem d mem)
    have goesOn' := fun e mem => goesOn e (List.mem_cons_of_mem d mem)
    rw [List.cons_append, readFrom, if_neg open', if_neg room]
    rcases goesOn d List.mem_cons_self with again | ⟨bytes, gives⟩
    · obtain ⟨fault, outcome, interrupted⟩ := Delivery.outcome_of_again again
      simp only [Stream.waitingIn, again] at unfinished short ⊢
      simp only [outcome, if_pos interrupted, going, Bool.or_self]
      exact ih quiet' goesOn' unfinished short
    · obtain ⟨outcome, filled⟩ := Delivery.outcome_of_bytes gives
      simp only [Stream.waitingIn, gives] at unfinished short ⊢
      rcases bytes with _ | ⟨b, bytes⟩
      · exact absurd rfl filled
      simp only [outcome, going, Bool.or_self]
      rw [List.reverse_append, List.append_assoc]
      refine ih quiet' goesOn' (fun seen first => ?_) ?_
      · have longer := unfinished (b :: bytes ++ seen)
          ((List.prefix_append_right_inj (b :: bytes)).2 first)
        rwa [List.reverse_append, List.append_assoc] at longer
      · rw [List.length_append] at short ⊢
        rw [List.length_reverse]
        omega

/-- Where a reply is neither over nor too long, it depends on how the connection ends. -/
theorem takenWhole_iff (ends : ¬ endsHead reply = true) (long : ¬ maxReply ≤ reply.length)
    (closed : Bool) : TakenWhole reply.reverse closed ↔ reply ≠ [] ∧ closed = true := by
  rw [TakenWhole, List.reverse_reverse, List.length_reverse]
  simp [ends, Nat.lt_of_not_le long]

/-- What is found of a reply once its connection has been shut down. -/
theorem readFrom_shut (shut : Stream.waitingIn after = []) (reply : Bytes) :
    (readFrom reply true after).1.toOption =
        (if TakenWhole reply.reverse (Stream.endsCleanlyIn after) then some reply.reverse
          else none) ∧
      (readFrom reply true after).2.cancelled = true := by
  by_cases ends : endsHead reply = true
  · have whole : TakenWhole reply.reverse (Stream.endsCleanlyIn after) :=
      .inl (by rwa [List.reverse_reverse])
    have found : readFrom reply true after = (.ok reply.reverse, ⟨after, true⟩) := by
      cases after <;> rw [readFrom, if_pos ends]
    rw [found, if_pos whole]
    exact ⟨rfl, rfl⟩
  by_cases long : maxReply ≤ reply.length
  · have cut : ¬ TakenWhole reply.reverse (Stream.endsCleanlyIn after) := by
      rw [TakenWhole, List.reverse_reverse, List.length_reverse]
      rintro (isOver | ⟨-, short, -⟩)
      · exact ends isOver
      · omega
    have found : readFrom reply true after = (.error tooLong, ⟨after, true⟩) := by
      cases after <;> rw [readFrom, if_neg ends, if_pos long]
    rw [found, if_neg cut]
    exact ⟨rfl, rfl⟩
  simp only [takenWhole_iff ends long]
  induction after with
  | nil =>
    rw [readFrom, if_neg ends, if_neg long]
    by_cases nothing : reply = []
    · simp [nothing, Except.toOption]
    · simp [nothing, Except.toOption, Stream.endsCleanlyIn]
  | cons d rest ih =>
    rw [readFrom, if_neg ends, if_neg long]
    rcases outcome : d.outcome with fault | _ | ⟨b, bytes⟩
    · simp only [Stream.endsCleanlyIn, outcome]
      by_cases interrupted : fault.kind = .interrupted
      · have again : d.event = .again := by simp [Delivery.event, outcome, interrupted]
        simp only [Stream.waitingIn, again] at shut
        simpa [interrupted] using ih shut
      · simp [interrupted, Except.toOption]
    · by_cases nothing : reply = []
      · simp [nothing, Except.toOption]
      · simp [nothing, Except.toOption, Stream.endsCleanlyIn, outcome]
    · have gives : d.event = .bytes (b :: bytes) := by simp [Delivery.event, outcome]
      simp [Stream.waitingIn, gives] at shut

/-- **What is found of a reply that is cut short** is all that came of it, or nothing. -/
theorem readReply_cutShort {inbound : List Delivery}
    (h : CutShort (inbound.flatMap (Delivery.pieces 1)) before during after) :
    (readReply ⟨inbound, false⟩).1.toOption =
        (if TakenWhole (Stream.waitingIn inbound) (Stream.endsCleanlyIn (during :: after))
          then some (Stream.waitingIn inbound) else none) ∧
      (readReply ⟨inbound, false⟩).2.cancelled = true := by
  have waiting : Stream.waitingIn inbound =
      Stream.waitingIn before ++ Stream.waitingIn (during :: after) := by
    rw [← Stream.waitingIn_inPieces Nat.one_pos inbound, h.reads,
      Stream.waitingIn_append h.goesOn]
  have read : readReply ⟨inbound, false⟩ =
      readFrom (Stream.waitingIn before).reverse false (during :: after) := by
    have unfinished : ∀ seen, seen <+: Stream.waitingIn before →
        endsHead (seen.reverse ++ []) = false := by simpa using h.unfinished
    have first := readFrom_goesOn h.quiet h.goesOn unfinished (by simpa using h.short)
      (during :: after)
    rw [List.append_nil, ← h.reads] at first
    exact first
  have ends : ¬ endsHead (Stream.waitingIn before).reverse = true := by
    simp [h.unfinished _ List.prefix_rfl]
  have long : ¬ maxReply ≤ (Stream.waitingIn before).reverse.length := by
    simpa using h.short
  have whole := takenWhole_iff ends long
  rw [List.reverse_reverse] at whole
  rw [read, waiting, readFrom, if_neg ends, if_neg long, h.cancels, Bool.false_or]
  rcases outcome : during.outcome with fault | _ | ⟨b, bytes⟩
  · by_cases interrupted : fault.kind = .interrupted
    · have again : during.event = .again := by simp [Delivery.event, outcome, interrupted]
      have shut := readFrom_shut h.shut (Stream.waitingIn before).reverse
      simpa [Stream.waitingIn, again, h.shut, Stream.endsCleanlyIn, outcome, interrupted] using shut
    · have nothing : Stream.waitingIn (during :: after) = [] := by
        simp only [Stream.waitingIn, Delivery.event, outcome]
        cases kind : fault.kind <;> first | rfl | exact absurd kind interrupted
      simp [nothing, whole, Stream.endsCleanlyIn, outcome, interrupted, Except.toOption]
  · have nothing : Stream.waitingIn (during :: after) = [] := by
      simp [Stream.waitingIn, Delivery.event, outcome]
    rw [nothing, List.append_nil]
    simp only [whole]
    by_cases begun : Stream.waitingIn before = []
    · simp [begun, Except.toOption]
    · simp [begun, Stream.endsCleanlyIn, outcome, Except.toOption]
  · have gives : during.event = .bytes (b :: bytes) := by simp [Delivery.event, outcome]
    have shut := readFrom_shut h.shut ((b :: bytes).reverse ++ (Stream.waitingIn before).reverse)
    simpa [Stream.waitingIn, gives, h.shut, Stream.endsCleanlyIn, outcome] using shut

end Tunnel

/-- A reply that is cut short opens no tunnel: if what there is of it is taken for all of it and
refuses, it refuses, and otherwise the transfer is cancelled before the handshake at the latest. -/
theorem openTunnel_cutShort (url proxy : Url) (auth : Option Credentials) {channel : Channel}
    {before after : List Delivery} {during : Delivery}
    (asked : (channel.outlet.write (connectRequest url auth)).outcome = .ok ())
    (cutShort : Tunnel.CutShort (channel.inbound.flatMap (Delivery.pieces 1)) before during after) :
    let part := Stream.waitingIn channel.inbound
    let opened := openTunnel url proxy auth channel false
    opened.stream.cancelled = true ∧ opened.outcome =
      if Tunnel.TakenWhole part (Stream.endsCleanlyIn (during :: after)) then
        if Tunnel.isOpen (Tunnel.statusLine part) then .ok ()
        else .error (.proxyTunnel proxy.authority (Tunnel.statusLine part))
      else .error .cancelled := by
  intro part opened
  obtain ⟨found, gone⟩ := Tunnel.readReply_cutShort cutShort
  have going := (Outlet.write_ok asked).2
  rcases read : Tunnel.readReply ⟨channel.inbound, false⟩ with ⟨fault | reply, rest⟩ <;>
    rw [read] at found gone
  · have fails : opened.stream = rest ∧ opened.outcome =
        .error ((TransferError.connection proxy.authority fault).orCancelled rest.cancelled) := by
      simp only [opened, openTunnel, asked, going, Bool.or_self, read, and_self]
    rw [fails.1, fails.2, gone]
    split_ifs at found with whole
    · cases found
    · rw [if_neg whole]
      exact ⟨rfl, rfl⟩
  · have judged : opened.stream = rest ∧ opened.outcome =
        if Tunnel.isOpen (Tunnel.statusLine reply) then .ok ()
        else .error (.proxyTunnel proxy.authority (Tunnel.statusLine reply)) := by
      simp only [opened, openTunnel, asked, going, Bool.or_self, read, and_self]
    split_ifs at found with whole
    · obtain rfl : reply = part := Option.some.inj found
      rw [judged.1, judged.2, if_pos whole]
      exact ⟨gone, rfl⟩
    · cases found

/-- **Cancellation while a proxy replies** to the request for a tunnel. At whichever byte of the
reply the transfer is cancelled, no connection comes of it and no fault of one is reported. The
error is the cancellation, but for one case: the proxy has said something, the connection then reads
as closed and not as broken (or the empty line has come all the same), and the first line of what it
has said does not open the tunnel. Then that line is reported as a refusal. -/
theorem connect_cutShort {settings : Settings} {reach : Reach} {url : Url}
    {auth : Option Credentials} {peer : Peer} {before after : List Delivery} {during : Delivery}
    (tunnel : (Route.select url settings.proxies).via = .tunnel)
    (dialled : (dial reach (Route.select url settings.proxies).peer false).outcome = .ok peer)
    (going : (dial reach (Route.select url settings.proxies).peer false).cancelled = false)
    (asked : (peer.plain.outlet.write (connectRequest url auth)).outcome = .ok ())
    (cutShort :
      Tunnel.CutShort (peer.plain.inbound.flatMap (Delivery.pieces 1)) before during after) :
    let proxy := (Route.select url settings.proxies).peer
    let part := Stream.waitingIn peer.plain.inbound
    (connect settings reach url auth false).outcome =
      if Tunnel.TakenWhole part (Stream.endsCleanlyIn (during :: after)) ∧
          Tunnel.isOpen (Tunnel.statusLine part) = false
      then .error (.proxyTunnel proxy.authority (Tunnel.statusLine part))
      else .error .cancelled := by
  intro proxy part
  have tls := Route.tls_of_tunnel url settings.proxies tunnel
  obtain ⟨gone, outcome⟩ := openTunnel_cutShort url proxy auth asked cutShort
  have connected : connect settings reach url auth false =
      throughTunnel settings url auth (Route.select url settings.proxies) peer false := by
    simp only [connect, dialled, going, Bool.false_eq_true, if_false]
  rw [connected, throughTunnel, tunnel]
  simp only [Bool.false_eq_true, if_false]
  by_cases whole : Tunnel.TakenWhole part (Stream.endsCleanlyIn (during :: after))
  · by_cases isOpen : Tunnel.isOpen (Tunnel.statusLine part) = true
    · rw [if_pos whole, if_pos isOpen] at outcome
      simp [proxy, outcome, secureTransport, tls, gone, isOpen]
    · rw [if_pos whole, if_neg isOpen] at outcome
      rw [Bool.not_eq_true] at isOpen
      rw [if_pos ⟨whole, isOpen⟩, outcome]
  · rw [if_neg whole] at outcome
    rw [if_neg (whole ·.1), outcome]

/-- A proxy that has begun to reply when the transfer is cancelled, after which the connection reads
in some way. -/
def beginsReply (reads : Except Fault Bytes) : Peer :=
  { plain := { inbound := [⟨false, .ok [86, 32, 53]⟩, ⟨true, reads⟩] } }

theorem cutShort_beginsReply {reads : Except Fault Bytes}
    (shut : reads = .ok [] ∨ ∃ fault, reads = .error fault) :
    Tunnel.CutShort ((beginsReply reads).plain.inbound.flatMap (Delivery.pieces 1))
      [⟨false, .ok [86]⟩, ⟨false, .ok [32]⟩, ⟨false, .ok [53]⟩] ⟨true, reads⟩ [] where
  reads := by rcases shut with rfl | ⟨fault, rfl⟩ <;> rfl
  quiet := by simp
  goesOn := by simp [Delivery.event]
  unfinished seen first := by
    rw [← Bool.not_eq_true]
    intro ends
    have line := Tunnel.mem_of_endsHead ends
    rw [List.reverse_reverse] at line
    exact absurd (first.subset line) (by decide)
  short := by decide
  cancels := rfl
  shut := rfl

/-- The address of a server, and settings with a proxy for it. -/
def behindProxy : Url × Settings :=
  (⟨.https, "", none, .domain "s", none, [""], none, none⟩,
    { proxies := { https := some ⟨.http, "", none, .domain "p", none, [""], none, none⟩ } })

/-- A connection that breaks when it is shut down. -/
theorem connect_cutShort_broken :
    let peer := beginsReply (.error ⟨.connectionReset, "reset"⟩)
    let reach : Reach := fun _ _ => .ok [⟨"::2", false, .ok peer⟩]
    (connect behindProxy.2 reach behindProxy.1 none false).outcome = .error .cancelled := by
  intro peer reach
  have cutShort := cutShort_beginsReply (.inr ⟨⟨.connectionReset, "reset"⟩, rfl⟩)
  have asked : (peer.plain.outlet.write (connectRequest behindProxy.1 none)).outcome = .ok () := rfl
  have dialled :
      (dial reach (Route.select behindProxy.1 behindProxy.2.proxies).peer false).outcome =
        .ok peer := rfl
  exact (connect_cutShort rfl dialled rfl asked cutShort).trans (if_neg (by decide +kernel))

/-- One that reads as closed leaves the line that the proxy has begun, which is reported instead of
the cancellation. -/
theorem not_cancelled_of_cutShort :
    ¬ ∀ (settings : Settings) (reach : Reach) (url : Url) (auth : Option Credentials) (peer : Peer)
      (before after : List Delivery) (during : Delivery),
      (Route.select url settings.proxies).via = .tunnel →
      (dial reach (Route.select url settings.proxies).peer false).outcome = .ok peer →
      (dial reach (Route.select url settings.proxies).peer false).cancelled = false →
      (peer.plain.outlet.write (connectRequest url auth)).outcome = .ok () →
      Tunnel.CutShort (peer.plain.inbound.flatMap (Delivery.pieces 1)) before during after →
      (connect settings reach url auth false).outcome = .error .cancelled := by
  intro claim
  let reach : Reach := fun _ _ => .ok [⟨"::2", false, .ok (beginsReply (.ok []))⟩]
  have claimed := claim behindProxy.2 reach behindProxy.1 none (beginsReply (.ok [])) _ _ _
    rfl rfl rfl rfl (cutShort_beginsReply (.inl rfl))
  have refused : Transfer.errorOf
      ((connect behindProxy.2 reach behindProxy.1 none false).outcome.map fun _ => ()) =
      some (.proxyTunnel "p:80" "V 5") := by
    decide +kernel
  rw [claimed] at refused
  cases refused

end HttpFetch
