import HttpFetch.Proofs.SchemeMarks
/-!
# Texts that name no host

A text without anything between `://` and its path is refused. Any other text is read as if there
were just the mark of a scheme in front of its first character that is no slash, tab or line end
(`Url.read_tightened`), so a text that begins with its path gets the first segment for its host.
-/

namespace HttpFetch
namespace Url

open Reference

variable {cs front rest : List Char}

/-! ## The mark of a scheme -/

theorem cutAtMark?_append (noColon : ':' ∉ front) (rest : List Char) :
    cutAtMark? (front ++ ':' :: '/' :: '/' :: rest) = some (front, rest) := by
  induction front with
  | nil => rfl
  | cons c front ih =>
    have other : c ≠ ':' := fun same => noColon (same ▸ List.mem_cons_self)
    have later := ih fun mem => noColon (List.mem_cons_of_mem c mem)
    rw [List.cons_append, cutAtMark?]
    · rw [later]
      rfl
    · exact fun _ same _ => other same

theorem eq_of_cutAtMark? (h : cutAtMark? cs = some (front, rest)) :
    cs = front ++ ':' :: '/' :: '/' :: rest := by
  fun_induction cutAtMark? cs generalizing front with
  | case1 rest =>
    cases h
    rfl
  | case2 c cs _ ih =>
    obtain ⟨⟨before, after⟩, later, same⟩ := Option.map_eq_some_iff.1 h
    cases same
    rw [ih later, List.cons_append]
  | case3 => cases h

/-- Whether a text has an explicit scheme and nothing where its host should be. -/
def lacksHost (cs : List Char) : Bool :=
  (afterScheme? cs).any fun rest => (rest.takeWhile (!endsAddress ·)).isEmpty

/-- What stands in front of the first colon of a text with an explicit scheme and what follows that
colon. Any other text counts as what follows `http:`. -/
def schemeAndRest (cs : List Char) : List Char × List Char :=
  match afterScheme? cs, Text.cutAt? ':' cs with
  | some _, some parts => parts
  | _, _ => ("http".toList, cs)

theorem afterScheme?_append (noColon : ':' ∉ front) (inScheme : ∀ c ∈ front, endsAddress c = false)
    (rest : List Char) : afterScheme? (front ++ ':' :: '/' :: '/' :: rest) = some rest := by
  have none : front.any endsAddress = false := by
    rw [List.any_eq_false]
    intro c mem
    rw [inScheme c mem]
    exact Bool.false_ne_true
  rw [afterScheme?, cutAtMark?_append noColon]
  simp only [none, Bool.false_eq_true, if_false]

/-- A text with an explicit scheme is made of two parts, the scheme first. -/
theorem schemeAndRest_explicit (explicit : afterScheme? cs = some rest) :
    ∃ front back, schemeAndRest cs = (front, back) ∧ cs = front ++ ':' :: back ∧ ':' ∉ front ∧
      ∀ c ∈ front, endsAddress c = false := by
  have split := explicit
  rw [afterScheme?] at split
  rcases marked : cutAtMark? cs with _ | ⟨before, after⟩ <;> simp only [marked] at split
  · cases split
  split_ifs at split with address
  have whole := eq_of_cutAtMark? marked
  have colon : ':' ∈ cs := by
    rw [whole]
    exact List.mem_append_right before List.mem_cons_self
  obtain ⟨front, back, parts, noColon⟩ := List.eq_append_cons_of_mem colon
  have other : ∀ c ∈ front, c ≠ ':' := fun c mem same => noColon (same ▸ mem)
  have first : front = before.takeWhile (· ≠ ':') := calc
    front = front.takeWhile (· ≠ ':') :=
      (List.takeWhile_eq_self_iff.2 (by simpa using other)).symm
    _ = cs.takeWhile (· ≠ ':') := by rw [parts, Text.takeWhile_stop (by simp)]
    _ = before.takeWhile (· ≠ ':') := by rw [whole, Text.takeWhile_stop (by simp)]
  refine ⟨front, back, ?_, parts, noColon, fun c mem => ?_⟩
  · have cut : Text.cutAt? ':' cs = some (front, back) := by
      rw [parts, Text.cutAt?_append other]
    rw [schemeAndRest, explicit, cut]
  · rw [first] at mem
    rw [Bool.not_eq_true, List.any_eq_false] at address
    exact Bool.eq_false_iff.2 (address c ((List.takeWhile_sublist _).subset mem))

/-- Any other text is the part after `http:`. -/
theorem schemeAndRest_bare (bare : afterScheme? cs = none) :
    schemeAndRest cs = ("http".toList, cs) := by
  rw [schemeAndRest, bare]

/-- Every text has a part that may be a scheme, without a colon and without an end of the address. -/
theorem inScheme_schemeAndRest (cs : List Char) :
    ':' ∉ (schemeAndRest cs).1 ∧ ∀ c ∈ (schemeAndRest cs).1, endsAddress c = false := by
  rcases explicit : afterScheme? cs with _ | rest
  · have http : ':' ∉ "http".toList ∧ ∀ c ∈ "http".toList, endsAddress c = false :=
      ⟨by decide, forall_mem_of_all (by decide)⟩
    rw [schemeAndRest_bare explicit]
    exact http
  · obtain ⟨front, back, parts, -, noColon, inScheme⟩ := schemeAndRest_explicit explicit
    rw [parts]
    exact ⟨noColon, inScheme⟩

/-! ## Reading -/

/-- Why a text with an explicit scheme and nothing where its host should be is refused. -/
theorem read_of_lacksHost {text : String} (lacks : lacksHost (Text.trimChars text.toList) = true) :
    read text = .error (.refused text .missingHost) := by
  obtain ⟨rest, explicit, none⟩ := Option.any_eq_true _ _ |>.1 lacks
  have filled : ¬ (Text.trimChars text.toList).isEmpty = true := by
    intro empty
    rw [List.isEmpty_iff.1 empty] at explicit
    cases explicit
  rw [read, if_neg filled]
  simp only [Option.mem_def.1 explicit, none, if_true]

theorem toOption_ofTarget_resolve (text : String) (noColon : ':' ∉ front) (rest : List Char) :
    (ofTarget text (resolve none (front ++ ':' :: rest))).toOption =
      (schemeOf? front).bind fun scheme => (readWeb scheme (afterGap rest)).toOption := by
  rcases named : schemeOf? front with _ | scheme
  · have foreign := resolve_noWeb noColon named rest
    rcases read : resolve none (front ++ ':' :: rest) with fault | _ | _
    · rfl
    · exact absurd read (foreign _)
    · rfl
  · rw [resolve_web noColon named (.inl rfl), Option.bind_some]
    cases readWeb scheme (afterGap rest) <;> rfl

/-- What a text leads to by its scheme and by what follows the gap after it. -/
def located? (cs : List Char) : Option Url :=
  (schemeOf? (schemeAndRest cs).1).bind fun scheme =>
    (readWeb scheme (afterGap (schemeAndRest cs).2)).toOption

/-- A text in which something stands where the host should be is read as what it leads to. -/
theorem read_explicit {text : String}
    (explicit : afterScheme? (Text.trimChars text.toList) = some rest)
    (named : rest.takeWhile (!endsAddress ·) ≠ []) :
    read text = ofTarget text (resolve none (Text.trimChars text.toList)) := by
  have filled : ¬ (Text.trimChars text.toList).isEmpty = true := by
    intro empty
    rw [List.isEmpty_iff.1 empty] at explicit
    cases explicit
  rw [read, if_neg filled]
  simp only [explicit, List.isEmpty_iff, if_neg named]

theorem toOption_resolve_explicit (text : String) (explicit : afterScheme? cs = some rest) :
    (ofTarget text (resolve none cs)).toOption = located? cs := by
  obtain ⟨front, back, parts, whole, noColon, -⟩ := schemeAndRest_explicit explicit
  rw [located?, parts, whole]
  exact toOption_ofTarget_resolve text noColon back

theorem toOption_read {text : String} (has : lacksHost (Text.trimChars text.toList) = false) :
    (read text).toOption = located? (Text.trimChars text.toList) := by
  rcases explicit : afterScheme? (Text.trimChars text.toList) with _ | rest
  · have http : schemeOf? "http".toList = some .http := by decide +kernel
    rw [read, located?, schemeAndRest_bare explicit]
    simp only [explicit]
    split_ifs with empty
    · rw [List.isEmpty_iff.1 empty, http, Option.bind_some, readWeb_empty .http (by simp [afterGap])]
      rfl
    · have noColon : ':' ∉ "http".toList := by decide
      have slashes := toOption_ofTarget_resolve text noColon
        ('/' :: '/' :: Text.trimChars text.toList)
      rw [afterGap_slashes] at slashes
      exact slashes
  · have named : rest.takeWhile (!endsAddress ·) ≠ [] := by
      rw [lacksHost, explicit, Option.any_some, List.isEmpty_eq_false_iff] at has
      exact has
    rw [read_explicit explicit named, toOption_resolve_explicit text explicit]

/-! ## Closing the gap -/

/-- The characters of the tightened text. -/
def tight (cs : List Char) : List Char :=
  (schemeAndRest cs).1 ++ ':' :: '/' :: '/' :: (schemeAndRest cs).2.dropWhile inGap

theorem isTrimmed_tight (trimmed : Text.IsTrimmed cs) : Text.IsTrimmed (tight cs) where
  front := by
    intro c first
    rw [tight] at first
    rcases explicit : afterScheme? cs with _ | rest
    · rw [schemeAndRest_bare explicit] at first
      cases first
      decide
    · obtain ⟨front, back, parts, whole, -⟩ := schemeAndRest_explicit explicit
      rw [parts] at first
      refine trimmed.front c ?_
      rw [whole]
      cases front with
      | nil => exact first
      | cons d front => exact first
  back := by
    intro c last
    rw [tight] at last
    have suffix : (schemeAndRest cs).2 <:+ cs := by
      rcases explicit : afterScheme? cs with _ | rest
      · simp only [schemeAndRest_bare explicit, List.suffix_rfl]
      · obtain ⟨front, back, parts, whole, -⟩ := schemeAndRest_explicit explicit
        rw [parts]
        exact ⟨front ++ [':'], by rw [whole, List.append_assoc, List.singleton_append]⟩
    have suffix' := (List.dropWhile_suffix inGap).trans suffix
    generalize (schemeAndRest cs).2.dropWhile inGap = rest at last suffix'
    rw [List.getLast?_append_of_ne_nil _ (List.cons_ne_nil _ _)] at last
    cases rest with
    | nil =>
      cases last
      decide
    | cons d rest =>
      obtain ⟨before, rfl⟩ := suffix'
      refine trimmed.back c ?_
      rw [List.getLast?_append_of_ne_nil _ (List.cons_ne_nil _ _)]
      exact last

theorem afterScheme?_tight (cs : List Char) :
    afterScheme? (tight cs) = some ((schemeAndRest cs).2.dropWhile inGap) := by
  obtain ⟨noColon, inScheme⟩ := inScheme_schemeAndRest cs
  exact afterScheme?_append noColon inScheme _

theorem schemeAndRest_tight (cs : List Char) :
    schemeAndRest (tight cs) =
      ((schemeAndRest cs).1, '/' :: '/' :: (schemeAndRest cs).2.dropWhile inGap) := by
  have other : ∀ c ∈ (schemeAndRest cs).1, c ≠ ':' := fun c mem same =>
    (inScheme_schemeAndRest cs).1 (same ▸ mem)
  rw [schemeAndRest, afterScheme?_tight, tight, Text.cutAt?_append other]

/-- Where the path comes right after the gap, there is no web address. -/
theorem readWeb_afterGap (scheme : Scheme)
    (none : ∀ c ∈ (rest.dropWhile inGap).head?, endsAddress c = true) :
    readWeb scheme (afterGap rest) = .error .emptyHost := by
  apply readWeb_empty
  rw [afterGap]
  rcases start : rest.dropWhile inGap with _ | ⟨c, tail⟩
  · simp
  have edge : inGap c = false := by
    have := List.head?_dropWhile_not inGap rest
    rw [start] at this
    exact this
  have ends : endsAddress c = true := none c (by rw [start]; rfl)
  have mark : c = '?' ∨ c = '#' := by
    simp only [endsAddress, Bool.or_eq_true, beq_iff_eq] at ends
    rcases ends with (rfl | rfl) | rfl
    · exact absurd edge (by decide)
    · exact .inl rfl
    · exact .inr rfl
  have stays : isEdge c = false ∧ counts c = true ∧ endsAuthority c = true := by
    rcases mark with rfl | rfl <;> decide
  have kept : (c :: tail).rdropWhile isEdge = c :: tail.rdropWhile isEdge :=
    Text.rdropWhile_append_cons stays.1 [] tail
  rw [kept, List.filter_cons_of_pos stays.2.1]
  rintro d ⟨⟩
  exact stays.2.2

/-- The text that has just the mark of a scheme in front of its authority. -/
def tightened (text : String) : String := String.ofList (tight (Text.trimChars text.toList))

theorem trimChars_tightened (text : String) :
    Text.trimChars (tightened text).toList = tight (Text.trimChars text.toList) := by
  rw [tightened, String.toList_ofList]
  exact (isTrimmed_tight (Text.isTrimmed_trimChars _)).trimChars

/-- A text leads nowhere if its path comes right after the gap. -/
theorem located?_of_path (none : ∀ c ∈ ((schemeAndRest cs).2.dropWhile inGap).head?,
    endsAddress c = true) : located? cs = Option.none := by
  rw [located?]
  cases schemeOf? (schemeAndRest cs).1 with
  | none => rfl
  | some scheme =>
    rw [Option.bind_some, readWeb_afterGap scheme none]
    rfl

/-- The gap has no part in where a text leads. -/
theorem located?_tight (cs : List Char) : located? (tight cs) = located? cs := by
  rw [located?, schemeAndRest_tight, afterGap_slashes, afterGap_dropWhile, located?]

theorem toOption_read_tightened (text : String) :
    (read (tightened text)).toOption = located? (Text.trimChars text.toList) := by
  have trimmed := trimChars_tightened text
  rcases has : lacksHost (tight (Text.trimChars text.toList)) with _ | _
  · rw [toOption_read (by rw [trimmed, has]), trimmed, located?_tight]
  · rw [read_of_lacksHost (by rw [trimmed, has])]
    refine (located?_of_path ?_).symm
    rw [lacksHost, afterScheme?_tight, Option.any_some, List.isEmpty_iff] at has
    intro c first
    obtain ⟨tail, start⟩ := List.head?_eq_some_iff.1 first
    rw [start] at has
    by_contra inside
    rw [List.takeWhile_cons_of_pos (by simpa using inside)] at has
    cases has

/-- **What stands between the scheme and its host does not matter**, unless it is the mark alone and
the path comes next. A text with an explicit scheme and nothing between `://` and the first `/`, `?`
or `#` is refused. Every other text, also one that names no host, is read as the one that has just
`://` after its scheme in place of any slashes, backslashes, tabs and line ends; one without an
explicit scheme is read as if `http:` stood in front of it. If what comes after those is a `?` or `#`
or nothing, it cannot be read. -/
theorem read_tightened (text : String) :
    let cs := Text.trimChars text.toList
    (lacksHost cs = true → read text = .error (.refused text .missingHost)) ∧
    (lacksHost cs = false → (read text).toOption = (read (tightened text)).toOption) ∧
    ((∀ c ∈ ((schemeAndRest cs).2.dropWhile inGap).head?, c = '?' ∨ c = '#') →
      ∃ e, read text = .error e) := by
  intro cs
  refine ⟨read_of_lacksHost, fun has => ?_, fun none => ?_⟩
  · rw [toOption_read has, toOption_read_tightened]
  · rcases has : lacksHost cs with _ | _
    · have nowhere : (read text).toOption = Option.none := by
        rw [toOption_read has]
        apply located?_of_path
        intro c first
        rcases none c first with rfl | rfl <;> rfl
      rcases result : read text with e | url
      · exact ⟨e, rfl⟩
      · rw [result] at nowhere
        cases nowhere
    · exact ⟨_, read_of_lacksHost has⟩

example : tightened "  /\t\\h/x?y" = "http://h/x?y" := by decide +kernel

/-- Whether nothing stands where the host of a text should be, but for tabs and line ends, which are
dropped. -/
def NamesNoHost (text : String) : Prop :=
  let cs := Text.trimChars text.toList
  ∀ c ∈ ((afterScheme? cs).getD cs).takeWhile (!endsAddress ·), c = '\t' ∨ c = '\n' ∨ c = '\r'

/-- **A text that names no host may be read all the same**: the first segment of its path is taken for
the host. -/
theorem not_refused_of_namesNoHost :
    ¬ ∀ text, NamesNoHost text → ∃ e, read text = .error e := by
  intro refused
  have none : NamesNoHost "/[::1]" := by
    rw [NamesNoHost]
    exact forall_mem_of_all (by decide)
  have isRead : (read "/[::1]").toOption.isSome = true := by decide +kernel
  obtain ⟨e, fails⟩ := refused _ none
  rw [fails] at isRead
  cases isRead

end Url
end HttpFetch
