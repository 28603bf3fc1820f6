import HttpFetch.Proofs.Addresses
/-!
# User information

The text of an address leaves its user information out, and with it all that a redirect could carry
on (`Url.namesNoUser_text`). So an address counts only as far as its text shows it: a location leads
from two addresses of one text to addresses of one text again (`Url.join_bare`), and what stands in
front of an `@` in an absolute location has no part in where it leads (`Url.leadsAlike_userInfo`).
-/

namespace HttpFetch

namespace Reference

/-! ## Locations relative to an address -/

theorem bare_withPath (url : Url) (segments : List String) (cs : List Char) :
    (withPath url segments cs).bare = (withPath url.bare segments cs).bare := by
  rw [withPath, withPath]
  rfl

/-- User information goes over to what is relative to an address, and its text leaves it out. -/
theorem readRelative_bare (base : Url) (cs : List Char) :
    (readRelative base cs).map Url.bare = (readRelative base.bare cs).map Url.bare := by
  rw [readRelative.eq_def, readRelative.eq_def]
  split
  · rfl
  · split_ifs
    · rfl
    · rfl
    · rfl
    · exact congrArg Except.ok (bare_withPath base [] _)
    · exact congrArg Except.ok (bare_withPath base base.segments.dropLast _)

theorem readAfterScheme_bare (base : Url) (scheme : Scheme) (cs : List Char) :
    (readAfterScheme (some base) scheme cs).map Url.bare =
      (readAfterScheme (some base.bare) scheme cs).map Url.bare := by
  simp only [readAfterScheme]
  have same : base.bare.scheme = base.scheme := rfl
  rw [same]
  split_ifs
  · exact readRelative_bare base cs
  · rfl

/-- What a target shows, if it is a web address. -/
def Target.bare : Target → Target
  | .web url => .web url.bare
  | .foreign => .foreign

theorem map_web_bare (read : Except UrlFault Url) :
    (read.map .web).map Target.bare = (read.map Url.bare).map .web := by
  cases read <;> rfl

theorem resolve_bare (base : Url) (cs : List Char) :
    (resolve (some base) cs).map Target.bare = (resolve (some base.bare) cs).map Target.bare := by
  rw [resolve.eq_def, resolve.eq_def]
  simp only
  split
  · split
    · rw [map_web_bare, map_web_bare, readAfterScheme_bare]
    · rfl
  · rw [map_web_bare, map_web_bare, readRelative_bare]

end Reference

namespace Url

/-- What does not depend on user information and fragment is the same of addresses of one text. -/
theorem congr_bare {α : Type} (f : Url → α) (only : ∀ url : Url, f url.bare = f url)
    {url url' : Url} (same : url.bare = url'.bare) : f url = f url' := by
  rw [← only url, same, only]

theorem map_ofTarget (text : String) (target : Except UrlFault Reference.Target) :
    (ofTarget text target).map bare = ofTarget text (target.map Reference.Target.bare) := by
  rcases target with fault | _ | _ <;> rfl

/-- **A location leads from addresses of one text to addresses of one text.** -/
theorem join_bare (base : Url) (location : String) :
    (base.join location).map bare = (base.bare.join location).map bare := by
  rw [join, join, map_ofTarget, map_ofTarget, Reference.resolve_bare]

theorem bare_of_join {base base' next next' : Url} {location : String}
    (same : base.bare = base'.bare) (h : base.join location = .ok next)
    (h' : base'.join location = .ok next') : next.bare = next'.bare := by
  have joined := base.join_bare location
  rw [same, ← base'.join_bare, h, h'] at joined
  exact Except.ok.inj joined

/-! ## User information in a location -/

/-- Two locations lead alike if they are the same, or if both are absolute, so that the address in
front of them does not matter, and lead to addresses of one text. -/
def LeadsAlike (location location' : String) : Prop :=
  location = location' ∨ ∃ next next' : Url, next.bare = next'.bare ∧
    ∀ base : Url, base.join location = .ok next ∧ base.join location' = .ok next'

/-- From addresses of one text, locations that lead alike lead to addresses of one text. -/
theorem LeadsAlike.bare {location location' : String} (alike : LeadsAlike location location')
    {base base' next next' : Url} (same : base.bare = base'.bare)
    (h : base.join location = .ok next) (h' : base'.join location' = .ok next') :
    next.bare = next'.bare := by
  rcases alike with rfl | ⟨found, found', bare, leads⟩
  · exact bare_of_join same h h'
  · rw [(leads base).1] at h
    rw [(leads base').2] at h'
    cases h
    cases h'
    exact bare

end Url

namespace Reference

/-- The text after user information without an `@` of its own. -/
theorem cutAtLastAt_append (info : List Char) {place : List Char} (plain : ∀ c ∈ place, c ≠ '@') :
    cutAtLastAt (info ++ '@' :: place) = (some info, place) := by
  have after : ((info ++ '@' :: place).reverse.takeWhile (· ≠ '@')).reverse = place := by
    rw [List.reverse_append, List.reverse_cons, List.append_assoc,
      List.takeWhile_append_of_pos fun c mem => by simpa using plain c (List.mem_reverse.1 mem)]
    simp
  have longer : place.length < (info ++ '@' :: place).length := by
    rw [List.length_append, List.length_cons]
    omega
  have before : (info ++ '@' :: place).length - place.length - 1 = info.length := by
    rw [List.length_append, List.length_cons]
    omega
  simp only [cutAtLastAt, after, if_pos longer, before, List.take_left]

theorem isSlash_eq_false {c : Char} (inside : endsAuthority c = false) : Path.isSlash c = false := by
  rw [← Bool.not_eq_true] at inside ⊢
  refine fun slash => inside ?_
  rcases (by simpa [Path.isSlash] using slash : c = '/' ∨ c = '\\') with rfl | rfl <;> rfl

/-- An address with user information in place of its own. -/
def withUserInfo (info : List Char) (url : Url) : Url :=
  { url with userName := (readUserInfo info).1, secret := (readUserInfo info).2 }

/-- User information is read apart from all that follows it. -/
theorem readWeb_append (scheme : Scheme) {info cs : List Char}
    (inside : ∀ c ∈ info, endsAuthority c = false)
    (plain : ∀ c ∈ (cut endsAuthority cs).1, c ≠ '@') :
    readWeb scheme (info ++ '@' :: cs) = (readWeb scheme cs).map (withUserInfo info) := by
  have parts : cut endsAuthority (info ++ '@' :: cs) =
      (info ++ '@' :: (cut endsAuthority cs).1, (cut endsAuthority cs).2) := by
    rw [cut, List.takeWhile_append_of_pos fun c mem => by rw [inside c mem]; rfl,
      List.dropWhile_append_of_pos fun c mem => by rw [inside c mem]; rfl,
      List.takeWhile_cons_of_pos (by rfl), List.dropWhile_cons_of_pos (by rfl)]
    rfl
  rw [readWeb_eq, readWeb_eq, parts, cutAtLastAt_append info plain, cutAtLastAt_of_absent plain]
  cases readPlace (cut endsAuthority cs).1 <;> rfl

/-- User information has no part in host, port and path. -/
theorem readWeb_userInfo (scheme : Scheme) {info cs : List Char}
    (inside : ∀ c ∈ info, endsAuthority c = false)
    (plain : ∀ c ∈ (cut endsAuthority cs).1, c ≠ '@') :
    (readWeb scheme (info ++ '@' :: cs)).map Url.bare = (readWeb scheme cs).map Url.bare := by
  rw [readWeb_append scheme inside plain]
  cases readWeb scheme cs <;> rfl

end Reference

namespace Url

/-- A location with a scheme and two slashes leads to the same address from everywhere. -/
theorem join_written (base : Url) (scheme : Scheme) {rest : List Char}
    (visible : ∀ c ∈ rest, Percent.isVisible c = true)
    (start : ∀ c ∈ rest.head?, Path.isSlash c = false) {location : String}
    (written : location.toList = scheme.name.toList ++ ':' :: '/' :: '/' :: rest) :
    base.join location = ofTarget location ((Reference.readWeb scheme rest).map .web) := by
  have solid := Reference.isVisible_of_mem_written scheme visible
  rw [← written] at solid
  have trimmed : Text.trim location = location := by
    rw [Text.trim, Text.trimChars_of_solid fun c mem => Percent.isBlank_of_isVisible (solid c mem),
      String.ofList_toList]
  have slashes : rest.dropWhile Path.isSlash = rest := by
    cases rest with
    | nil => rfl
    | cons c rest => rw [List.dropWhile_cons_of_neg (by simp [start c rfl])]
  rw [join, trimmed, written, Reference.resolve_written (some base) scheme visible, slashes]

/-- **User information in an absolute location** has no part in where it leads. -/
theorem leadsAlike_userInfo (scheme : Scheme) {info rest : List Char} {location location' : String}
    (visible : ∀ c ∈ info ++ '@' :: rest, Percent.isVisible c = true)
    (inside : ∀ c ∈ info, Reference.endsAuthority c = false)
    (plain : ∀ c ∈ (Reference.cut Reference.endsAuthority rest).1, c ≠ '@')
    (start : ∀ c ∈ rest.head?, Path.isSlash c = false)
    (written : location.toList =
      scheme.name.toList ++ ':' :: '/' :: '/' :: (info ++ '@' :: rest))
    (written' : location'.toList = scheme.name.toList ++ ':' :: '/' :: '/' :: rest)
    {base next : Url} (leads : base.join location' = .ok next) : LeadsAlike location location' := by
  have visible' : ∀ c ∈ rest, Percent.isVisible c = true := fun c mem =>
    visible c (List.mem_append_right info (List.mem_cons_of_mem '@' mem))
  have start' : ∀ c ∈ (info ++ '@' :: rest).head?, Path.isSlash c = false := by
    intro c first
    cases info with
    | nil =>
      cases first
      rfl
    | cons d info =>
      cases first
      exact Reference.isSlash_eq_false (inside c List.mem_cons_self)
  have same := Reference.readWeb_userInfo scheme inside plain
  rw [join_written base scheme visible' start written'] at leads
  obtain ⟨found, read, web⟩ := exists_of_map_ok (eq_of_ofTarget leads)
  cases web
  rw [read] at same
  obtain ⟨found', read', bare⟩ := exists_of_map_ok same
  refine .inr ⟨found', next, bare, fun base => ⟨?_, ?_⟩⟩
  · rw [join_written base scheme visible start' written, read']
    rfl
  · rw [join_written base scheme visible' start written', read]
    rfl

/-! ## Texts without user information -/

/-- Whether a text is one of a web address without user information: before the path there is no
`@`. -/
def NamesNoUser (text : String) : Prop :=
  ∃ (scheme : Scheme) (place path : List Char), '@' ∉ place ∧
    text.toList = scheme.name.toList ++ ':' :: '/' :: '/' :: (place ++ '/' :: path)

variable {url : Url}

/-- **The text of an address has no user information.** -/
theorem namesNoUser_text (proper : url.Proper) : NamesNoUser url.text := by
  refine ⟨_, _, _, fun mem => ?_, toList_text proper⟩
  exact absurd (Reference.inHost_of_mem_place proper.host mem) (by decide)

/-- So what is read from it has none either. -/
theorem userInfo_of_read_text (proper : url.Proper) {again : Url}
    (h : read url.text = .ok again) : again.username = none ∧ again.password = none := by
  rw [read_written proper.host url.namedPort (by simp) (isVisible_of_mem_rest proper)
    (toList_text proper)] at h
  obtain ⟨place, -, web⟩ := exists_of_map_ok (eq_of_ofTarget h)
  cases web
  exact ⟨rfl, rfl⟩

end Url
end HttpFetch
