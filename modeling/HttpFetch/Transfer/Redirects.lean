import HttpFetch.Error
import HttpFetch.Sink.Basic
/-!
# Redirects

Once the head of a response is there, its status decides: an error ends the transfer, a redirect
leads to another address, anything else has a body to be read. Only so many redirects are followed.
-/

namespace HttpFetch

/-- How many redirects may be followed and how many have been. -/
structure Redirects where
  limit : Nat
  followed : Nat := 0
  deriving Repr, DecidableEq, Inhabited

/-- What to do with a response. -/
inductive Verdict where
  /-- read its body -/
  | accept
  /-- start over at another address -/
  | redirect (url : Url)
  /-- end the transfer -/
  | abort (error : TransferError)
  deriving DecidableEq

namespace Redirects

/-- The target of a redirect, if it names one. -/
def location? (sink : Sink) : Option String :=
  (sink.header? "location").filter (!Text.isAllBlank ·)

/-- Judges a response to a request for `current`. Errors come before redirects, and the limit before
the target. -/
def judge (redirects : Redirects) (sink : Sink) (current : Url) : Verdict × Redirects :=
  if 500 ≤ sink.status then (.abort (.serverError sink.status sink.description), redirects)
  else if 400 ≤ sink.status then (.abort (.clientError sink.status sink.description), redirects)
  else if sink.status < 300 then (.accept, redirects)
  else if redirects.limit ≤ redirects.followed then
    (.abort (.redirectLimitExceeded redirects.limit), redirects)
  else match location? sink with
    | none => (.abort (.missingRedirectLocation sink.status), redirects)
    | some location =>
      match current.join location with
      | .ok next => (.redirect next, { redirects with followed := redirects.followed + 1 })
      | .error e => (.abort (.malformedUrl e), redirects)

/-- A redirect is followed only within the limit, and counts. -/
theorem judge_redirect {redirects after : Redirects} {sink : Sink} {current next : Url}
    (h : redirects.judge sink current = (.redirect next, after)) :
    redirects.followed < redirects.limit ∧
      after = { redirects with followed := redirects.followed + 1 } := by
  rw [judge] at h
  split at h
  · simp at h
  split at h
  · simp at h
  split at h
  · simp at h
  split at h
  · simp at h
  · rename_i within
    split at h
    · simp at h
    · split at h
      · simp only [Prod.mk.injEq, Verdict.redirect.injEq] at h
        exact ⟨Nat.lt_of_not_le within, h.2.symm⟩
      · simp at h

end Redirects
end HttpFetch
