import HttpFetch.Proofs.Addresses
import Mathlib.Data.List.DropRight
/-!
# Schemes and what follows them

Whatever follows the colon of a scheme is read without the slashes, tabs and line ends in front
(`Reference.resolve_web`). For that a text is cut where it counts: at its first colon, and only after
that at its ends, which the colon keeps apart (`Reference.clean_colon`).
-/

namespace HttpFetch

/-! ## The ends of a text -/

namespace Text

variable {p q : Char → Bool} {cs front back : List Char}

/-- What is dropped at the end comes from the last part, unless nothing of that stays. -/
theorem rdropWhile_append (front back : List Char) :
    (front ++ back).rdropWhile p =
      if back.rdropWhile p = [] then front.rdropWhile p else front ++ back.rdropWhile p := by
  simp only [List.rdropWhile, List.reverse_append, List.dropWhile_append, List.isEmpty_iff,
    List.reverse_eq_nil_iff]
  split_ifs
  · rfl
  · rw [List.reverse_append, List.reverse_reverse]

/-- A character that stays keeps what is in front of it. -/
theorem rdropWhile_append_cons {c : Char} (stays : p c = false) (front back : List Char) :
    (front ++ c :: back).rdropWhile p = front ++ c :: back.rdropWhile p := by
  have single : [c].rdropWhile p = [c] := by
    rw [List.rdropWhile_singleton, if_neg (by rw [stays]; exact Bool.false_ne_true)]
  have last : (c :: back).rdropWhile p = c :: back.rdropWhile p := by
    have parts := rdropWhile_append (p := p) [c] back
    rw [single] at parts
    refine parts.trans ?_
    split_ifs with none
    · rw [none]
    · rfl
  rw [rdropWhile_append, last, if_neg (List.cons_ne_nil c _)]

theorem dropWhile_append_cons {c : Char} (stays : p c = false) (front back : List Char) :
    (front ++ c :: back).dropWhile p = front.dropWhile p ++ c :: back := by
  rw [List.dropWhile_append, List.dropWhile_cons_of_neg (by rw [stays]; exact Bool.false_ne_true)]
  split_ifs with none
  · rw [List.isEmpty_iff.1 none]
    rfl
  · rfl

/-- What is dropped at the two ends is dropped in either order. -/
theorem dropWhile_rdropWhile (cs : List Char) :
    (cs.rdropWhile p).dropWhile q = (cs.dropWhile q).rdropWhile p := by
  have front : ∀ c ∈ cs.takeWhile q, q c = true := fun c mem => List.mem_takeWhile_imp mem
  have parts : cs.takeWhile q ++ cs.dropWhile q = cs := List.takeWhile_append_dropWhile
  have edge : ∀ c ∈ (cs.dropWhile q).head?, q c = false := by
    intro c first
    have := List.head?_dropWhile_not q cs
    rw [Option.mem_def.1 first] at this
    simpa using this
  generalize cs.takeWhile q = front' at *
  generalize cs.dropWhile q = rest at *
  rw [← parts, rdropWhile_append]
  split_ifs with none
  · rw [none, List.dropWhile_eq_nil_iff]
    exact fun c mem => front c ((List.rdropWhile_prefix p front').subset mem)
  · rw [List.dropWhile_append_of_pos front]
    obtain ⟨c, others, kept⟩ := List.exists_cons_of_ne_nil none
    obtain ⟨dropped, whole⟩ := List.rdropWhile_prefix p rest
    rw [kept] at whole ⊢
    have first : q c = false := edge c (by rw [← whole]; rfl)
    rw [List.dropWhile_cons_of_neg (by rw [first]; exact Bool.false_ne_true)]

/-- A text that begins and ends with other characters than blanks. -/
structure IsTrimmed (cs : List Char) : Prop where
  front : ∀ c ∈ cs.head?, isBlank c = false
  back : ∀ c ∈ cs.getLast?, isBlank c = false

theorem isTrimmed_trimChars (cs : List Char) : IsTrimmed (trimChars cs) where
  front := by
    intro c first
    have whole : trimChars cs = (cs.rdropWhile isBlank).dropWhile isBlank :=
      (dropWhile_rdropWhile cs).symm
    have := List.head?_dropWhile_not isBlank (cs.rdropWhile isBlank)
    rw [← whole, Option.mem_def.1 first] at this
    simpa using this
  back := by
    intro c last
    have := List.head?_dropWhile_not isBlank (cs.dropWhile isBlank).reverse
    rw [trimChars, stripChars, List.getLast?_reverse] at last
    rw [Option.mem_def.1 last] at this
    simpa using this

/-- Trimming leaves it as it is. -/
theorem IsTrimmed.trimChars (trimmed : IsTrimmed cs) : trimChars cs = cs := by
  have front : cs.dropWhile isBlank = cs := by
    cases cs with
    | nil => rfl
    | cons c rest =>
      rw [List.dropWhile_cons_of_neg (by rw [trimmed.front c rfl]; exact Bool.false_ne_true)]
  have back : cs.rdropWhile isBlank = cs := by
    refine List.rdropWhile_eq_self_iff.2 fun some => ?_
    rw [trimmed.back _ (List.getLast?_eq_some_getLast some)]
    exact Bool.false_ne_true
  have strip : Text.trimChars cs = (cs.dropWhile isBlank).rdropWhile isBlank := rfl
  rw [strip, front, back]

end Text

/-! ## What follows the colon of a scheme -/

namespace Reference

/-- A control or space, of which there may be any number at the ends of a reference. -/
def isEdge (c : Char) : Bool := decide (c.toNat ≤ 0x20)

/-- A character that counts wherever it stands: no tab and no line end. -/
def counts (c : Char) : Bool := c != '\t' && c != '\n' && c != '\r'

/-- A character of which there may be any number between the colon of a scheme and an authority. -/
def inGap (c : Char) : Bool := Path.isSlash c || !counts c

/-- The text of a scheme as far as it counts. -/
def schemeText (cs : List Char) : List Char := (cs.dropWhile isEdge).filter counts

/-- The scheme that a text in front of a colon names, if it can be fetched. -/
def schemeOf? (cs : List Char) : Option Scheme :=
  if (schemeText cs).head?.any Ascii.isLetter && (schemeText cs).all isSchemeChar then
    Scheme.ofName? (String.ofList ((schemeText cs).map Ascii.lower))
  else none

/-- The text from an authority on, as far as it counts, if `cs` follows the colon of a scheme. -/
def afterGap (cs : List Char) : List Char := ((cs.dropWhile inGap).rdropWhile isEdge).filter counts

variable {front : List Char}

/-- The colon of a scheme keeps the two ends of a text apart. -/
theorem clean_colon (front rest : List Char) :
    clean (front ++ ':' :: rest) =
      schemeText front ++ ':' :: (rest.rdropWhile isEdge).filter counts := by
  have ends : Text.stripChars isEdge (front ++ ':' :: rest) =
      front.dropWhile isEdge ++ ':' :: rest.rdropWhile isEdge := by
    have strip (cs : List Char) : Text.stripChars isEdge cs =
        (cs.dropWhile isEdge).rdropWhile isEdge := rfl
    rw [strip, Text.dropWhile_append_cons (by decide), Text.rdropWhile_append_cons (by decide)]
  have whole : clean (front ++ ':' :: rest) =
      (Text.stripChars isEdge (front ++ ':' :: rest)).filter counts := rfl
  rw [whole, ends, List.filter_append, List.filter_cons_of_pos (by decide)]
  rfl

/-- The slashes in front are dropped with the tabs and line ends among them. -/
theorem dropWhile_isSlash (rest : List Char) :
    ((rest.rdropWhile isEdge).filter counts).dropWhile Path.isSlash = afterGap rest := by
  have drop (cs : List Char) :
      (cs.filter counts).dropWhile Path.isSlash = (cs.dropWhile inGap).filter counts := by
    induction cs with
    | nil => rfl
    | cons c cs ih =>
      by_cases count : counts c = true
      · rw [List.filter_cons_of_pos count]
        by_cases slash : Path.isSlash c = true
        · rw [List.dropWhile_cons_of_pos slash, List.dropWhile_cons_of_pos (by simp [inGap, slash]),
            ih]
        · rw [List.dropWhile_cons_of_neg slash,
            List.dropWhile_cons_of_neg (by simp [inGap, slash, count]),
            List.filter_cons_of_pos count]
      · rw [List.filter_cons_of_neg count, List.dropWhile_cons_of_pos (by simp [inGap, count]), ih]
  rw [drop, Text.dropWhile_rdropWhile, afterGap]

/-- Two slashes in front do not matter. -/
theorem afterGap_slashes (rest : List Char) : afterGap ('/' :: '/' :: rest) = afterGap rest := by
  rw [afterGap, List.dropWhile_cons_of_pos (by decide), List.dropWhile_cons_of_pos (by decide),
    afterGap]

/-- Nor does anything else in the gap. -/
theorem afterGap_dropWhile (rest : List Char) : afterGap (rest.dropWhile inGap) = afterGap rest := by
  rw [afterGap, List.dropWhile_idempotent, afterGap]

/-- The scheme is what stands in front of the first colon. -/
theorem splitScheme?_colon (noColon : ':' ∉ front) (rest : List Char) :
    splitScheme? (front ++ ':' :: rest) =
      if front.head?.any Ascii.isLetter && front.all isSchemeChar then
        some (String.ofList (front.map Ascii.lower), rest)
      else none := by
  have colon : ¬ isSchemeChar ':' = true := by decide
  have first : (front ++ ':' :: rest).head?.any Ascii.isLetter =
      front.head?.any Ascii.isLetter := by
    cases front with
    | nil => rfl
    | cons c front => rfl
  rw [splitScheme?, first]
  by_cases letter : front.head?.any Ascii.isLetter = true
  · rw [if_pos letter, letter, Bool.true_and]
    by_cases all : front.all isSchemeChar = true
    · have inside := List.all_eq_true.1 all
      rw [if_pos all, List.dropWhile_append_of_pos inside, List.dropWhile_cons_of_neg colon,
        List.takeWhile_append_of_pos inside, List.takeWhile_cons_of_neg colon, List.append_nil]
      rfl
    · rw [if_neg all]
      have some : front.dropWhile isSchemeChar ≠ [] := fun none =>
        all (List.all_eq_true.2 (List.dropWhile_eq_nil_iff.1 none))
      obtain ⟨c, others, stopped⟩ := List.exists_cons_of_ne_nil some
      have other : c ≠ ':' := by
        rintro rfl
        exact noColon ((List.dropWhile_sublist _).subset (stopped ▸ List.mem_cons_self))
      rw [List.dropWhile_append, stopped, List.isEmpty_cons, if_neg Bool.false_ne_true,
        List.cons_append]
      split
      · rename_i same
        cases same
        exact absurd rfl other
      · rfl
  · rw [if_neg letter, Bool.eq_false_iff.2 letter, Bool.false_and, if_neg Bool.false_ne_true]

theorem not_mem_schemeText {c : Char} (absent : c ∉ front) : c ∉ schemeText front := fun mem =>
  absent ((List.dropWhile_sublist _).subset (List.mem_of_mem_filter mem))

/-- **After a scheme that can be fetched**, slashes, tabs and line ends in front do not matter; only
with a base there have to be two slashes. -/
theorem resolve_web {base : Option Url} {scheme : Scheme} (noColon : ':' ∉ front)
    (named : schemeOf? front = some scheme) {rest : List Char}
    (marked : base = none ∨ ['/', '/'] <+: rest) :
    resolve base (front ++ ':' :: rest) = (readWeb scheme (afterGap rest)).map .web := by
  rw [schemeOf?] at named
  split_ifs at named with valid
  rw [resolve.eq_def, clean_colon]
  simp only [splitScheme?_colon (not_mem_schemeText noColon), if_pos valid, named]
  have web : readAfterScheme base scheme ((rest.rdropWhile isEdge).filter counts) =
      readWeb scheme (afterGap rest) := by
    rw [← dropWhile_isSlash]
    cases base with
    | none => rfl
    | some base =>
      obtain ⟨more, rfl⟩ := marked.resolve_left (Option.some_ne_none base)
      have start : ((['/', '/'] ++ more).rdropWhile isEdge).filter counts =
          '/' :: '/' :: (more.rdropWhile isEdge).filter counts := by
        have slashes := Text.rdropWhile_append_cons (p := isEdge) (c := '/') (by decide) ['/'] more
        rw [List.singleton_append] at slashes
        exact congrArg (List.filter counts) slashes
      rw [start, readAfterScheme_slashes]
      rfl
  rw [web]

/-- After anything else there is no web address. -/
theorem resolve_noWeb (noColon : ':' ∉ front) (unnamed : schemeOf? front = none) (rest : List Char)
    (url : Url) : resolve none (front ++ ':' :: rest) ≠ .ok (.web url) := by
  intro found
  rw [schemeOf?] at unnamed
  rw [resolve.eq_def, clean_colon] at found
  simp only [splitScheme?_colon (not_mem_schemeText noColon)] at found
  split_ifs at unnamed found with valid
  simp only [unnamed] at found
  split at found <;> cases found

/-- Without an authority there is no web address. -/
theorem readWeb_empty (scheme : Scheme) {cs : List Char}
    (ends : ∀ c ∈ cs.head?, endsAuthority c = true) : readWeb scheme cs = .error .emptyHost := by
  have none : cut endsAuthority ([] ++ cs) = ([], cs) := cut_append (by simp) ends
  rw [List.nil_append] at none
  rw [readWeb_eq, none]
  rfl

end Reference
end HttpFetch
