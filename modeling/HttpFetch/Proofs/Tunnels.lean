import HttpFetch.Connection.Tunnel
import HttpFetch.Proofs.Arrival
import HttpFetch.Proofs.Text
/-!
# Asking for a tunnel

A proxy is sent one request, and the first line of what it sends in return decides
(`Tunnel.statusLine_readReply`). No more of the reply is read than its head, which is enough, because
an end of a line is an end of a character too, whatever bytes come before it
(`Utf8.decodeFrom_newline`). Asking comes to a tunnel only if that line has the word `200` in its
second place, and to an error that says so otherwise (`asksTunnel_openTunnel`).
-/

namespace HttpFetch

/-! ## Lines among bytes -/

namespace Utf8

/-- Only a byte beyond ASCII goes on with the character under way. -/
def State.Proper : State → Prop
  | .idle => True
  | .within _ _ low _ => 0x80 ≤ low

theorem proper_start (b : UInt8) : (start b).2.Proper := by
  rw [start]
  split_ifs <;> simp [State.Proper]

theorem proper_step {s : State} (proper : s.Proper) (b : UInt8) : (step s b).2.Proper := by
  rcases s with _ | ⟨missing, bits, low, high⟩
  · exact proper_start b
  · simp only [step]
    split_ifs
    · cases missing <;> simp [State.Proper]
    · exact proper_start b

/-- The end of a line ends a character that is under way. -/
theorem step_newline {s : State} (proper : s.Proper) :
    ∃ chars, step s 10 = (chars ++ [some '\n'], .idle) := by
  rcases s with _ | ⟨missing, bits, low, high⟩
  · exact ⟨[], rfl⟩
  · have outside : ¬ (low ≤ (10 : UInt8).toNat ∧ (10 : UInt8).toNat ≤ high) := fun inside =>
      absurd (Nat.le_trans proper inside.1) (by decide)
    refine ⟨[none], ?_⟩
    simp only [step, if_neg outside]
    rfl

/-- What comes up to the end of a line is read alike, whatever comes after it. -/
theorem decodeFrom_newline {s : State} (proper : s.Proper) (line : Bytes) :
    ∃ chars, ∀ after, decodeFrom s (line ++ 10 :: after) =
      chars ++ some '\n' :: decodeFrom .idle after := by
  induction line generalizing s with
  | nil =>
    obtain ⟨chars, ends⟩ := step_newline proper
    refine ⟨chars, fun after => ?_⟩
    rw [List.nil_append, decodeFrom, ends, List.append_assoc]
    rfl
  | cons b line ih =>
    obtain ⟨chars, ends⟩ := ih (proper_step proper b)
    refine ⟨(step s b).1 ++ chars, fun after => ?_⟩
    rw [List.cons_append, decodeFrom, ends, List.append_assoc]

end Utf8

namespace Tunnel

/-! ## The reply -/

/-- Bytes after the first line have no part in it. -/
theorem statusLine_append {reply : Bytes} (line : 10 ∈ reply) (more : Bytes) :
    statusLine (reply ++ more) = statusLine reply := by
  obtain ⟨first, rest, rfl⟩ := List.append_of_mem line
  obtain ⟨chars, decodes⟩ := Utf8.decodeFrom_newline (s := .idle) trivial first
  rw [List.append_assoc, List.cons_append, statusLine, statusLine, Utf8.decodeLossy,
    Utf8.decodeLossy, String.toList_ofList, String.toList_ofList, decodes, decodes, List.map_append,
    List.map_append, List.map_cons, List.map_cons, Option.getD_some]
  rw [Text.takeWhile_stop (by decide), Text.takeWhile_stop (by decide)]

/-- A head that ends has a line. -/
theorem mem_of_endsHead {reply : Bytes} (ends : endsHead reply = true) : 10 ∈ reply.reverse := by
  rw [List.mem_reverse]
  unfold endsHead at ends
  split at ends
  · exact List.mem_cons_self
  · exact List.mem_cons_self
  · cases ends

/-- What is read of a reply has its first line. -/
theorem statusLine_readFrom {reply found : Bytes} {cancelled : Bool} {deliveries : List Delivery}
    {rest : Stream} (read : readFrom reply cancelled deliveries = (.ok found, rest)) :
    statusLine found = statusLine (reply.reverse ++ Stream.waitingIn deliveries) := by
  induction deliveries generalizing reply cancelled with
  | nil =>
    rw [readFrom] at read
    rw [Stream.waitingIn, List.append_nil]
    split_ifs at read <;> cases read <;> rfl
  | cons d later ih =>
    rw [readFrom] at read
    by_cases ends : endsHead reply = true
    · rw [if_pos ends] at read
      cases read
      exact (statusLine_append (mem_of_endsHead ends) _).symm
    by_cases long : maxReply ≤ reply.length
    · rw [if_neg ends, if_pos long] at read
      cases read
    rw [if_neg ends, if_neg long] at read
    rcases outcome : d.outcome with fault | _ | ⟨b, bytes⟩ <;> simp only [outcome] at read
    · split_ifs at read with interrupted
      · have event : d.event = .again := by simp [Delivery.event, outcome, interrupted]
        simp only [Stream.waitingIn, event]
        exact ih read
      · cases read
    · have event : d.event = .ended := by simp [Delivery.event, outcome]
      simp only [Stream.waitingIn, event, List.append_nil]
      split_ifs at read
      · cases read
      · cases read
        rfl
    · have event : d.event = .bytes (b :: bytes) := by simp [Delivery.event, outcome]
      simp only [Stream.waitingIn, event]
      rw [ih read, List.reverse_append, List.reverse_reverse, List.append_assoc]

/-- **The first line of a reply** is the first line of what the proxy sends. -/
theorem statusLine_readReply {s rest : Stream} {reply : Bytes}
    (read : readReply s = (.ok reply, rest)) : statusLine reply = statusLine s.waiting := by
  rw [statusLine_readFrom read, List.reverse_nil, List.nil_append, Stream.inPieces,
    Stream.waitingIn_inPieces Nat.one_pos, Stream.waiting]

end Tunnel

/-! ## Asking -/

/-- A write that succeeds sends everything, and the transfer is not cancelled meanwhile. -/
theorem Outlet.write_ok {outlet : Outlet} {bytes : Bytes}
    (ok : (outlet.write bytes).outcome = .ok ()) :
    (outlet.write bytes).sent = bytes ∧ (outlet.write bytes).cancels = false := by
  rw [write] at ok ⊢
  rcases room : outlet.room with _ | room <;> simp only [room] at ok ⊢
  · exact ⟨trivial, trivial⟩
  · split_ifs at ok ⊢
    exact ⟨rfl, rfl⟩

/-- How a transfer ends if a proxy whose first line is known does not open a tunnel: it is cancelled,
the proxy does not take the request or send a reply, or the line refuses. -/
def TransferError.IsTunnelError (proxy : Url) (line : String) (e : TransferError) : Prop :=
  e = .cancelled ∨ (∃ fault, e = .connection proxy.authority fault) ∨
    (e = .proxyTunnel proxy.authority line ∧ Tunnel.isOpen line = false)

theorem TransferError.isTunnelError_orCancelled (proxy : Url) (line : String) (fault : Fault)
    (cancelled : Bool) :
    ((TransferError.connection proxy.authority fault).orCancelled cancelled).IsTunnelError proxy
      line := by
  rw [orCancelled]
  split_ifs
  · exact .inl rfl
  · exact .inr (.inl ⟨fault, rfl⟩)

/-- Everything that asking for a tunnel can come to: it fails, or the reply opens the tunnel. -/
inductive AsksTunnel (url proxy : Url) (auth : Option Credentials) (channel : Channel) :
    Opened → Prop where
  | refused {e : TransferError} (rest : Stream) :
    e.IsTunnelError proxy (Tunnel.statusLine (Stream.waitingIn channel.inbound)) →
    AsksTunnel url proxy auth channel
      ⟨.error e, (channel.outlet.write (connectRequest url auth)).sent, rest⟩
  | opened (rest : Stream) :
    (channel.outlet.write (connectRequest url auth)).sent = connectRequest url auth →
    Tunnel.isOpen (Tunnel.statusLine (Stream.waitingIn channel.inbound)) = true →
    AsksTunnel url proxy auth channel
      ⟨.ok (), (channel.outlet.write (connectRequest url auth)).sent, rest⟩

/-- **Asking for a tunnel** comes to one of these. -/
theorem asksTunnel_openTunnel (url proxy : Url) (auth : Option Credentials) (channel : Channel) :
    AsksTunnel url proxy auth channel (openTunnel url proxy auth channel false) := by
  rw [openTunnel]
  rcases outcome : (channel.outlet.write (connectRequest url auth)).outcome with fault | _
  · exact .refused _ (TransferError.isTunnelError_orCancelled _ _ _ _)
  obtain ⟨sent, going⟩ := Outlet.write_ok outcome
  simp only [going, Bool.or_self]
  rcases read : Tunnel.readReply ⟨channel.inbound, false⟩ with ⟨fault | reply, rest⟩
  · exact .refused _ (TransferError.isTunnelError_orCancelled _ _ _ _)
  · have line := Tunnel.statusLine_readReply read
    rw [Stream.waiting] at line
    simp only [line]
    split_ifs with isOpen
    · exact .opened rest sent isOpen
    · exact .refused rest (.inr (.inr ⟨rfl, by simpa using isOpen⟩))

end HttpFetch
