import HttpFetch.Network.Basic
/-!
# Dialling

A host may have several addresses. They are tried in order until one answers; if none does, the
fault of the last one is reported. Cancellation is looked at before every attempt.
-/

namespace HttpFetch

/-- What dialling comes to. -/
structure Dialled where
  outcome : Except TransferError Peer
  /-- the addresses that were tried, in order -/
  tried : List String
  /-- whether the transfer has been cancelled by then -/
  cancelled : Bool

namespace Dialled

/-- The fault of a host that has no addresses. -/
def noAddresses : Fault := ⟨.other, "host resolved to no addresses"⟩

/-- Tries addresses after one that failed with `last`. -/
def tryFrom (target : String) (last : Fault) (cancelled : Bool) : List Attempt → Dialled
  | [] => ⟨.error (.connection target last), [], cancelled⟩
  | attempt :: rest =>
    if cancelled then ⟨.error .cancelled, [], cancelled⟩
    else match attempt.outcome with
      | .ok peer => ⟨.ok peer, [attempt.address], attempt.cancels⟩
      | .error fault =>
        let later := tryFrom target fault attempt.cancels rest
        { later with tried := attempt.address :: later.tried }

end Dialled

/-- Dials the host of an address. -/
def dial (reach : Reach) (peer : Url) (cancelled : Bool) : Dialled :=
  match reach peer.host.text peer.port with
  | .error fault => ⟨.error (.connection peer.authority fault), [], cancelled⟩
  | .ok attempts => Dialled.tryFrom peer.authority Dialled.noAddresses cancelled attempts

end HttpFetch
