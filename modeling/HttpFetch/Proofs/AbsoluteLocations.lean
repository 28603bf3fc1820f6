import HttpFetch.Proofs.MissingHosts
/-!
# Locations that are addresses of their own

A location with a scheme and two slashes leads to the same address from everywhere, and that is the
address as which it is read (`Url.join_absolute`). The one difference is where nothing stands between
the slashes and the path: reading refuses that, and a location leads to the first segment of its path
as the host.
-/

namespace HttpFetch

namespace Reference

/-- The letters of a scheme, in either case, are neither dropped nor do they end anything. -/
theorem inScheme_of_lower {scheme : Scheme} {c : Char} (h : Ascii.lower c ∈ scheme.name.toList) :
    isEdge c = false ∧ counts c = true ∧ Ascii.isLetter c = true ∧ isSchemeChar c = true ∧
      Url.endsAddress c = false ∧ c ≠ ':' := by
  have letters : Ascii.lower c ∈ ['h', 't', 'p', 's'] := by
    have subset : ∀ d ∈ scheme.name.toList, d ∈ ['h', 't', 'p', 's'] := by
      cases scheme <;> exact forall_mem_of_all (by decide)
    exact subset _ h
  by_cases ascii : c.toNat < 128
  · exact Ascii.forall_ascii
      (P := fun c => Ascii.lower c ∈ ['h', 't', 'p', 's'] → isEdge c = false ∧ counts c = true ∧
        Ascii.isLetter c = true ∧ isSchemeChar c = true ∧ Url.endsAddress c = false ∧ c ≠ ':')
      (by decide) ascii letters
  · rw [Ascii.lower_of_not_ascii ascii] at letters
    have small : ∀ d ∈ ['h', 't', 'p', 's'], d.toNat < 128 := forall_mem_of_all (by decide)
    exact absurd (small c letters) ascii

variable {scheme : Scheme} {name : List Char}

/-- The case of its letters does not matter for a scheme. -/
theorem schemeOf?_of_lower (named : name.map Ascii.lower = scheme.name.toList) :
    schemeOf? name = some scheme := by
  have lowered (c : Char) (mem : c ∈ name) : Ascii.lower c ∈ scheme.name.toList :=
    named ▸ List.mem_map_of_mem mem
  have letter (c : Char) (mem : c ∈ name) := inScheme_of_lower (lowered c mem)
  have text : schemeText name = name := by
    have front : name.dropWhile isEdge = name := by
      cases name with
      | nil => rfl
      | cons c rest =>
        have stays := (letter c List.mem_cons_self).1
        rw [List.dropWhile_cons_of_neg (by rw [stays]; exact Bool.false_ne_true)]
    rw [schemeText, front, List.filter_eq_self]
    exact fun c mem => (letter c mem).2.1
  have first : name.head?.any Ascii.isLetter = true := by
    cases name with
    | nil => cases scheme <;> cases named
    | cons c rest => exact (letter c List.mem_cons_self).2.2.1
  have all : name.all isSchemeChar = true :=
    List.all_eq_true.2 fun c mem => (letter c mem).2.2.2.1
  rw [schemeOf?, text, first, all, named, String.ofList_toList]
  cases scheme <;> rfl

end Reference

namespace Url

open Reference

variable {scheme : Scheme} {name rest : List Char} {location : String}

/-- **An absolute location** leads from everywhere to the address that its text without the gap
names. Where something stands between its slashes and the first `/`, `?` or `#`, it leads to the very
address as which it is read, or fails with the same error; where nothing does, reading refuses it. -/
theorem join_absolute (base : Url) (named : name.map Ascii.lower = scheme.name.toList)
    (absolute : Text.trimChars location.toList = name ++ ':' :: '/' :: '/' :: rest) :
    (base.join location).toOption = (read (tightened location)).toOption ∧
    (rest.takeWhile (!endsAddress ·) ≠ [] → base.join location = read (Text.trim location) ∧
      (base.join location).toOption = (read location).toOption) ∧
    (rest.takeWhile (!endsAddress ·) = [] →
      read location = .error (.refused location .missingHost)) := by
  have lowered (c : Char) (mem : c ∈ name) : Ascii.lower c ∈ scheme.name.toList :=
    named ▸ List.mem_map_of_mem mem
  have letter (c : Char) (mem : c ∈ name) := inScheme_of_lower (lowered c mem)
  have noColon : ':' ∉ name := fun mem => (letter ':' mem).2.2.2.2.2 rfl
  have explicit : afterScheme? (Text.trimChars location.toList) = some rest := by
    rw [absolute]
    exact afterScheme?_append noColon (fun c mem => (letter c mem).2.2.2.2.1) rest
  have known := schemeOf?_of_lower named
  have anywhere : resolve (some base) (Text.trimChars location.toList) =
      resolve none (Text.trimChars location.toList) := by
    have marked : ['/', '/'] <+: '/' :: '/' :: rest := ⟨rest, rfl⟩
    rw [absolute, resolve_web noColon known (.inr marked), resolve_web noColon known (.inl rfl)]
  have chars : (Text.trim location).toList = Text.trimChars location.toList := by
    rw [Text.trim, String.toList_ofList]
  have joined : base.join location =
      ofTarget (Text.trim location) (resolve none (Text.trimChars location.toList)) := by
    rw [join, chars, anywhere]
  have leads : (base.join location).toOption = located? (Text.trimChars location.toList) := by
    rw [joined, toOption_resolve_explicit _ explicit]
  refine ⟨?_, fun host => ⟨?_, ?_⟩, fun none => ?_⟩
  · rw [leads, toOption_read_tightened]
  · have again : Text.trimChars (Text.trim location).toList = Text.trimChars location.toList := by
      rw [chars]
      exact (Text.isTrimmed_trimChars _).trimChars
    rw [joined, read_explicit (by rw [again, explicit]) host, again]
  · rw [leads, read_explicit explicit host, toOption_resolve_explicit _ explicit]
  · apply read_of_lacksHost
    rw [lacksHost, explicit, Option.any_some, none]
    rfl

/-- A scheme in capitals, blanks around the location, and another scheme than that of the base. -/
theorem join_absolute_capitals :
    let base : Url := ⟨.http, "u", some "p", .domain "a.test", some 81, ["b", "c"], some "q", none⟩
    "HTTPS".toList.map Ascii.lower = Scheme.https.name.toList ∧
      Text.trimChars " HTTPS://v@[::1]/d/../e\n".toList =
        "HTTPS".toList ++ ':' :: '/' :: '/' :: "v@[::1]/d/../e".toList ∧
      "v@[::1]/d/../e".toList.takeWhile (!endsAddress ·) ≠ [] ∧
      base.join " HTTPS://v@[::1]/d/../e\n" = read "HTTPS://v@[::1]/d/../e" := by
  intro base
  have named : "HTTPS".toList.map Ascii.lower = Scheme.https.name.toList := by decide
  have absolute : Text.trimChars " HTTPS://v@[::1]/d/../e\n".toList =
      "HTTPS".toList ++ ':' :: '/' :: '/' :: "v@[::1]/d/../e".toList := by decide +kernel
  have host : "v@[::1]/d/../e".toList.takeWhile (!endsAddress ·) ≠ [] := by decide +kernel
  have trimmed : Text.trim " HTTPS://v@[::1]/d/../e\n" = "HTTPS://v@[::1]/d/../e" := by
    decide +kernel
  have same := ((join_absolute base named absolute).2.1 host).1
  rw [trimmed] at same
  exact ⟨named, absolute, host, same⟩

/-- **A location may lead where no address can be read**: with nothing between its slashes and its
path. -/
theorem not_join_eq_read :
    ¬ ∀ (base : Url) (location : String) (scheme : Scheme) (name rest : List Char),
      name.map Ascii.lower = scheme.name.toList →
      Text.trimChars location.toList = name ++ ':' :: '/' :: '/' :: rest →
      (base.join location).toOption = (read location).toOption := by
  intro same
  let base : Url := ⟨.http, "", none, .domain "a.test", none, [""], none, none⟩
  have alike := same base "http:///[::1]" .http "http".toList "/[::1]".toList (by decide) (by decide)
  have leads : (base.join "http:///[::1]").toOption.isSome = true := by decide +kernel
  have refused : (read "http:///[::1]").toOption.isSome = false := by decide +kernel
  rw [alike, refused] at leads
  cases leads

end Url
end HttpFetch
