import HttpFetch.Proofs.Errors
/-!
# The bound on redirects

A transfer has no bound of its own: it ends because every hop that leads on is counted, and because
a response that would lead on once too often is refused before its target is looked at. The count is
that of the hops before (`Transfer.redirects_of_mem_hops`), so there is at most one hop more than
redirects may be followed, and the refusal comes exactly there (`fetch_redirects`).
-/

namespace HttpFetch

/-- Whether a verdict leads on. -/
def Verdict.isRedirect : Verdict → Bool
  | .redirect _ => true
  | _ => false

/-- The verdict on what is heard, if there is a response to judge. -/
def Heard.verdict? (heard : Heard) (redirects : Redirects) : Option Verdict :=
  match heard with
  | .head url reader _ _ => some (redirects.judge reader.sink url).1
  | _ => none

/-- Whether a response asks for a redirect. -/
def Heard.isRedirection : Heard → Bool
  | .head _ reader _ _ => 300 ≤ reader.sink.status && reader.sink.status < 400
  | _ => false

namespace Redirects

/-- Only a redirect is counted, and it counts for one. -/
theorem judge_followed (redirects : Redirects) (sink : Sink) (url : Url) :
    (redirects.judge sink url).2 =
      if (redirects.judge sink url).1.isRedirect
      then { redirects with followed := redirects.followed + 1 } else redirects := by
  have judges := redirects.judges_judge sink url
  rcases judged : redirects.judge sink url with ⟨verdict, after⟩
  simp only [judged] at judges
  cases judges <;> rfl

/-- The limit is reached by a redirection after as many redirects, whatever its target. -/
theorem judge_limit (redirects : Redirects) (sink : Sink) (url : Url) (n : Nat) :
    (redirects.judge sink url).1 = .abort (.redirectLimitExceeded n) ↔
      n = redirects.limit ∧ redirects.limit ≤ redirects.followed ∧
        300 ≤ sink.status ∧ sink.status < 400 := by
  have judges := redirects.judges_judge sink url
  rcases judged : redirects.judge sink url with ⟨verdict, after⟩
  simp only [judged] at judges
  cases judges with
  | serverError high =>
    have late : ¬ sink.status < 400 := UInt16.not_lt.2 (UInt16.le_trans (by decide) high)
    simp [late]
  | clientError high =>
    have late : ¬ sink.status < 400 := UInt16.not_lt.2 high
    simp [late]
  | accept low =>
    have early : ¬ 300 ≤ sink.status := UInt16.not_le.2 low
    simp [early]
  | limit low high limit => simp [low, high, limit, eq_comm]
  | nowhere _ _ within | redirect _ _ within | unusable _ _ within =>
    have open' : ¬ redirects.limit ≤ redirects.followed := Nat.not_le.2 within
    simp [open']

end Redirects
namespace Transfer

/-- The verdict of a hop, if it hears a response. -/
def verdict? (t : Transfer) (settings : Settings) (template : Template) (network : Network) :
    Option Verdict := (t.heard settings template network).verdict? t.redirects

/-- Whether the verdict of a hop is a redirect. -/
def leadsOn (t : Transfer) (settings : Settings) (template : Template) (network : Network) : Bool :=
  (t.verdict? settings template network).any Verdict.isRedirect

section Run

variable {settings : Settings} {template : Template} {network : Network}

/-! ## One hop -/

/-- A hop counts the redirect it leads to, and nothing else. -/
theorem redirects_hop (t : Transfer) :
    (t.hop settings template network).2.redirects =
      if t.leadsOn settings template network
      then { t.redirects with followed := t.redirects.followed + 1 } else t.redirects := by
  rcases hop : t.hop settings template network with ⟨outcome, after⟩
  have hopped := hopped_of_hop hop
  rw [leadsOn, verdict?]
  cases hopped with
  | noConnection heard | noHead heard => simp [heard, Heard.verdict?]
  | abort heard judged | redirect heard judged | accept heard judged =>
    simp [heard, Heard.verdict?, judged, Verdict.isRedirect]

/-- A hop opens one connection at most. -/
theorem length_traces_hop (settings : Settings) (template : Template) (network : Network)
    (t : Transfer) :
    (t.hop settings template network).2.traces.length ≤ t.traces.length + 1 := by
  rcases hop : t.hop settings template network with ⟨outcome, after⟩
  cases hopped_of_hop hop with
  | @noConnection _ trace => rcases trace with _ | trace <;> simp
  | _ => simp

theorem leadsOn_of_redirect {t after : Transfer} {next : Url}
    (h : t.hop settings template network = (.ok (some next), after)) :
    t.leadsOn settings template network = true := by
  obtain ⟨url, reader, stream, trace, heard, judged, -⟩ := heard_of_redirect h
  simp [leadsOn, verdict?, heard, Heard.verdict?, judged, Verdict.isRedirect]

theorem redirect_of_leadsOn {t : Transfer}
    (leads : t.leadsOn settings template network = true) :
    ∃ next after, t.hop settings template network = (.ok (some next), after) := by
  rcases hop : t.hop settings template network with ⟨outcome, after⟩
  have hopped := hopped_of_hop hop
  rw [leadsOn, verdict?] at leads
  cases hopped with
  | noConnection heard | noHead heard => simp [heard, Heard.verdict?] at leads
  | abort heard judged | accept heard judged =>
    simp [heard, Heard.verdict?, judged, Verdict.isRedirect] at leads
  | @redirect _ next => exact ⟨next, _, rfl⟩

theorem not_leadsOn_of_isLast {t : Transfer} (last : t.IsLast settings template network) :
    t.leadsOn settings template network = false := by
  rw [← Bool.not_eq_true]
  intro leads
  obtain ⟨next, after, hop⟩ := redirect_of_leadsOn leads
  exact last next after hop

/-- The error of a hop that goes one redirect too far. -/
theorem hop_limit (t : Transfer) (n : Nat) :
    (t.hop settings template network).1 = .error (.redirectLimitExceeded n) ↔
      n = t.redirects.limit ∧ t.redirects.limit ≤ t.redirects.followed ∧
        (t.heard settings template network).isRedirection = true := by
  rcases hop : t.hop settings template network with ⟨outcome, after⟩
  have other {e : TransferError} (noVerdict : e.isVerdict = false) :
      e ≠ .redirectLimitExceeded n := by
    rintro rfl
    cases noVerdict
  cases hopped_of_hop hop with
  | noConnection heard =>
    simp [heard, Heard.isRedirection, other (isVerdict_of_noConnection heard)]
  | @noHead e _ _ _ heard =>
    have different := other (e.isVerdict_of_isRefusal (isRefusal_of_noHead heard))
    simp [heard, Heard.isRedirection, different]
  | @abort url reader _ _ _ heard judged =>
    have limit := t.redirects.judge_limit reader.sink url n
    rw [judged] at limit
    simpa [heard, Heard.isRedirection] using limit
  | @redirect url _ reader _ _ heard judged =>
    have limit := t.redirects.judge_limit reader.sink url n
    rw [judged] at limit
    simpa [heard, Heard.isRedirection] using limit
  | @accept url reader stream _ heard judged =>
    have limit := t.redirects.judge_limit reader.sink url n
    have noRefusal := reader.noRefusal_readBody stream t.disk
    rw [judged] at limit
    rcases outcome : (reader.readBody stream t.disk).outcome with e | _ <;>
      rw [outcome] at noRefusal
    · have different := other (e.isVerdict_of_isRefusal ((noRefusal_error e).1 noRefusal))
      simpa [heard, Heard.isRedirection, Except.map, different] using limit
    · simpa [heard, Heard.isRedirection, Except.map] using limit

/-! ## The whole run -/

/-- At the start of a hop as many redirects have been followed as there were hops before it. -/
theorem redirects_of_getElem? {t s : Transfer} {i : Nat}
    (h : (t.hops settings template network)[i]? = some s) :
    s.redirects = { t.redirects with followed := t.redirects.followed + i } := by
  induction t using hop_induction settings template network generalizing i with
  | last t last =>
    rw [hops_last last] at h
    obtain ⟨rfl, rfl⟩ : i = 0 ∧ t = s := by
      cases i <;> simp at h ⊢
      exact h
    rfl
  | redirect t after next hop ih =>
    rw [hops_redirect hop] at h
    cases i with
    | zero =>
      cases h
      rfl
    | succ i =>
      have used := (hop_redirect hop).2
      rw [ih h, goOn, used]
      simp only [Redirects.mk.injEq, true_and]
      omega

/-- There are as many hops as redirects that are followed, and one more. -/
theorem length_hops (t : Transfer) :
    (t.hops settings template network).length =
      ((t.hops settings template network).filter
        (leadsOn · settings template network)).length + 1 := by
  induction t using hop_induction settings template network with
  | last t last => simp [hops_last last, not_leadsOn_of_isLast last]
  | redirect t after next hop ih =>
    simp [hops_redirect hop, leadsOn_of_redirect hop, ih]

/-- A run counts the redirects that it follows. -/
theorem followed_run (settings : Settings) (template : Template) (network : Network)
    (t : Transfer) :
    (t.run settings template network).2.redirects.followed =
      t.redirects.followed + ((t.hops settings template network).filter
        (leadsOn · settings template network)).length := by
  induction t using hop_induction settings template network with
  | last t last =>
    simp [run_last last, hops_last last, redirects_hop, not_leadsOn_of_isLast last]
  | redirect t after next hop ih =>
    have used := (hop_redirect hop).2
    rw [run_redirect hop, ih, hops_redirect hop, List.filter_cons,
      if_pos (leadsOn_of_redirect hop), goOn, used]
    simp only [List.length_cons]
    omega

/-- A run follows no more redirects than it may. -/
theorem followed_run_le (settings : Settings) (template : Template) (network : Network)
    {t : Transfer} (within : t.redirects.followed ≤ t.redirects.limit) :
    (t.run settings template network).2.redirects.followed ≤ t.redirects.limit := by
  induction t using hop_induction settings template network with
  | last t last =>
    rw [run_last last]
    simpa [redirects_hop, not_leadsOn_of_isLast last] using within
  | redirect t after next hop ih =>
    obtain ⟨room, used⟩ := hop_redirect hop
    have limit : (after.goOn next).redirects.limit = t.redirects.limit := by rw [goOn, used]
    have followed : (after.goOn next).redirects.followed = t.redirects.followed + 1 := by
      rw [goOn, used]
    rw [run_redirect hop, ← limit]
    exact ih (by omega)

/-- A run opens one connection at most for each of its hops. -/
theorem length_traces_run (settings : Settings) (template : Template) (network : Network)
    (t : Transfer) :
    (t.run settings template network).2.traces.length ≤
      t.traces.length + (t.hops settings template network).length := by
  induction t using hop_induction settings template network with
  | last t last =>
    rw [run_last last, hops_last last]
    exact length_traces_hop settings template network t
  | redirect t after next hop ih =>
    have one := length_traces_hop settings template network t
    rw [hop] at one
    rw [run_redirect hop, hops_redirect hop, List.length_cons]
    have same : (after.goOn next).traces = after.traces := rfl
    rw [same] at ih
    simp only at one
    omega

/-- A run goes too far where one of its hops does. -/
theorem run_limit (t : Transfer) (n : Nat) :
    (t.run settings template network).1 = .error (.redirectLimitExceeded n) ↔
      ∃ s ∈ t.hops settings template network, n = s.redirects.limit ∧
        s.redirects.limit ≤ s.redirects.followed ∧
        (s.heard settings template network).isRedirection = true := by
  induction t using hop_induction settings template network with
  | last t last =>
    have error : (t.run settings template network).1 = .error (.redirectLimitExceeded n) ↔
        (t.hop settings template network).1 = .error (.redirectLimitExceeded n) := by
      rw [run_last last]
      rcases (t.hop settings template network).1 with e | _ <;> simp [Except.map]
    rw [error, hop_limit, hops_last last]
    simp
  | redirect t after next hop ih =>
    have goesOn : ¬ (n = t.redirects.limit ∧ t.redirects.limit ≤ t.redirects.followed ∧
        (t.heard settings template network).isRedirection = true) := by
      rw [← hop_limit, hop]
      simp
    rw [run_redirect hop, ih, hops_redirect hop]
    simp [goesOn]

end Run

/-- An error of a transfer that went too far is that of its run. -/
theorem finish_limit (outcome : Except TransferError Unit) (t : Transfer) (n : Nat) :
    (finish outcome t).completion.error = some (.redirectLimitExceeded n) ↔
      outcome = .error (.redirectLimitExceeded n) := by
  have noRefusal := t.sink.noRefusal_complete t.disk
  rw [finish]
  rcases closed : t.sink.complete t.disk with ⟨e | _, sink, disk⟩ <;> rw [closed] at noRefusal
  · have different : e ≠ .redirectLimitExceeded n := by
      rintro rfl
      cases (noRefusal_error _).1 noRefusal
    rcases outcome with e | _ <;> simp [errorOf, different]
  · rcases outcome with e | _ <;> simp [errorOf]

end Transfer

/-- **The bound on redirects**, whatever the peers do. A transfer has at most one hop more than
redirects may be followed. The count of redirects starts at zero, grows by one with each verdict to
follow one and with nothing else, stays within the limit, and is reported in the end. The transfer
fails because of the limit exactly if a response asks for a redirect when the limit has been
reached, whether or not it says where to. -/
theorem fetch_redirects (settings : Settings) (template : Template) (network : Network)
    (sink : Sink) (disk : Disk) (cancelled : Bool) :
    let hops := (Transfer.start settings sink disk cancelled).hops settings template network
    let finished := fetch settings template network sink disk cancelled
    (hops.length ≤ settings.maxRedirects + 1 ∧ finished.traces.length ≤ hops.length) ∧
    (∀ (redirects : Redirects) (sink : Sink) (url : Url), (redirects.judge sink url).2 =
      match (redirects.judge sink url).1 with
      | .redirect _ => { redirects with followed := redirects.followed + 1 }
      | .accept | .abort _ => redirects) ∧
    (∀ (i : Nat) (t : Transfer), hops[i]? = some t → t.redirects = ⟨settings.maxRedirects, i⟩) ∧
    (∀ t ∈ hops, (t.hop settings template network).2.redirects =
      match t.verdict? settings template network with
      | some (.redirect _) => ⟨settings.maxRedirects, t.redirects.followed + 1⟩
      | some .accept | some (.abort _) | none => t.redirects) ∧
    (∀ t ∈ hops,
      (t.hop settings template network).2.redirects.followed ≤ settings.maxRedirects) ∧
    finished.completion.redirects = (hops.filter (·.leadsOn settings template network)).length ∧
    (∀ n, finished.completion.error = some (.redirectLimitExceeded n) ↔
      n = settings.maxRedirects ∧ ∃ t ∈ hops, t.redirects.followed = settings.maxRedirects ∧
        (t.heard settings template network).isRedirection = true) := by
  intro hops finished
  have followed := Transfer.followed_run settings template network
    (Transfer.start settings sink disk cancelled)
  have within := Transfer.followed_run_le settings template network
    (t := Transfer.start settings sink disk cancelled) (Nat.zero_le _)
  have traces := Transfer.length_traces_run settings template network
    (Transfer.start settings sink disk cancelled)
  have count : (Transfer.start settings sink disk cancelled).redirects =
      ⟨settings.maxRedirects, 0⟩ := rfl
  have place (i : Nat) (t : Transfer) (h : hops[i]? = some t) :
      t.redirects = ⟨settings.maxRedirects, i⟩ := by
    rw [Transfer.redirects_of_getElem? h, count, Nat.zero_add]
  have limit : ∀ t ∈ hops, t.redirects.limit = settings.maxRedirects := by
    intro t mem
    obtain ⟨i, h⟩ := List.getElem?_of_mem mem
    rw [place i t h]
  have length : hops.length = (hops.filter (·.leadsOn settings template network)).length + 1 :=
    Transfer.length_hops _
  have bounded : (hops.filter (·.leadsOn settings template network)).length ≤
      settings.maxRedirects := by
    rw [followed, count, Nat.zero_add] at within
    exact within
  have atMost : ∀ t ∈ hops, t.redirects.followed ≤ settings.maxRedirects := by
    intro t mem
    obtain ⟨i, h⟩ := List.getElem?_of_mem mem
    have before := (List.getElem?_eq_some_iff.1 h).1
    rw [place i t h]
    simp only
    omega
  refine ⟨⟨?_, ?_⟩, ?_, place, ?_, ?_, ?_, ?_⟩
  · omega
  · have none : (Transfer.start settings sink disk cancelled).traces.length = 0 := rfl
    rw [none, Nat.zero_add] at traces
    exact traces
  · intro redirects sink url
    rw [redirects.judge_followed]
    rcases (redirects.judge sink url).1 with _ | next | e <;> rfl
  · intro t mem
    rw [Transfer.redirects_hop, Transfer.leadsOn, ← limit t mem]
    rcases t.verdict? settings template network with _ | _ | next | e <;> rfl
  · intro t mem
    rw [Transfer.redirects_hop]
    split_ifs with leads
    · obtain ⟨next, after, hop⟩ := Transfer.redirect_of_leadsOn leads
      have room := (Transfer.hop_redirect hop).1
      rw [limit t mem] at room
      exact room
    · exact atMost t mem
  · rw [count, Nat.zero_add] at followed
    exact followed
  · intro n
    refine (Transfer.finish_limit _ _ n).trans ((Transfer.run_limit _ n).trans ⟨?_, ?_⟩)
    · rintro ⟨t, mem, same, reached, asks⟩
      rw [limit t mem] at same reached
      exact ⟨same, t, mem, Nat.le_antisymm (atMost t mem) reached, asks⟩
    · rintro ⟨same, t, mem, reached, asks⟩
      exact ⟨t, mem, by rw [limit t mem, same], Nat.le_of_eq (by rw [limit t mem, reached]), asks⟩

end HttpFetch
