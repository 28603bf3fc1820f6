import HttpFetch.Proofs.Escapes
import HttpFetch.Url.Domain
/-!
# The ASCII form of domain names

The ASCII form of a name has only characters that a URL may hold in the place of its host
(`Domain.inName_of_toAscii?`): a label in ASCII is checked for that, what Punycode writes are
letters, figures and hyphens, and of a label that carries the marker already every character is a
digit of Punycode or comes back in the label it decodes to. A name of small ASCII characters without
a marker is its own ASCII form (`Domain.toAscii?_of_plain`).
-/

namespace HttpFetch

/-! ## Tables and ASCII -/

namespace Unicode.Table

/-- Whether all entries of a text satisfy `p`; `word` holds the characters of the one under way,
last first. -/
def allFrom (p : Entry → Bool) (word : List Char) : List Char → Bool
  | [] => word.isEmpty || p (readEntry word.reverse)
  | c :: rest =>
    if c = ' ' ∨ c = '\n' then (word.isEmpty || p (readEntry word.reverse)) && allFrom p [] rest
    else allFrom p (c :: word) rest

theorem of_mem_readFrom {p : Entry → Bool} {word cs : List Char} {entries : Table}
    (all : allFrom p word cs = true) (before : ∀ e ∈ entries, p e = true) :
    ∀ e ∈ readFrom word entries cs, p e = true := by
  have pushed {word : List Char} {entries : Table} (before : ∀ e ∈ entries, p e = true)
      (last : (word.isEmpty || p (readEntry word.reverse)) = true) :
      ∀ e ∈ if word.isEmpty then entries else entries.push (readEntry word.reverse),
        p e = true := by
    intro e mem
    split_ifs at mem with blank
    · exact before e mem
    · rcases Array.mem_push.1 mem with old | rfl
      · exact before e old
      · simpa [blank] using last
  induction cs generalizing word entries with
  | nil => exact pushed before all
  | cons c rest ih =>
    rw [allFrom] at all
    rw [readFrom]
    by_cases separates : c = ' ' ∨ c = '\n'
    · rw [if_pos separates, Bool.and_eq_true] at all
      rw [if_pos separates]
      exact ih all.2 (pushed before all.1)
    · rw [if_neg separates] at all ⊢
      exact ih all before

/-- What stands before all entries is in none. -/
theorem search_eq_none {table : Table} {n low high : Nat} (above : ∀ e ∈ table, n < e.first)
    (within : high ≤ table.size) : search table n low high = none := by
  have entry {i : Nat} (h : i < table.size) : n < (table.getD i default).first :=
    above _ (by simp [h])
  fun_induction search table n low high with
  | case1 low high lt middle e first ih => exact ih (by omega)
  | case2 low high lt middle e first last ih => exact absurd (entry (i := middle) (by omega)) first
  | case3 low high lt middle e first last => rfl
  | case4 low high lt middle e first last => exact absurd (entry (i := middle) (by omega)) first
  | case5 => rfl

/-- Whether all entries of a text stand beyond ASCII. -/
def isBeyondAscii (cs : List Char) : Bool := allFrom (fun e => 0x80 ≤ e.first) [] cs

/-- A table beyond ASCII has no character of ASCII. -/
theorem has_eq_false {cs : List Char} (beyond : isBeyondAscii cs = true) {c : Char}
    (ascii : c.toNat < 0x80) : (Table.read (String.ofList cs)).has c = false := by
  have above (e : Entry) (mem : e ∈ Table.read (String.ofList cs)) : c.toNat < e.first := by
    rw [read, String.toList_ofList] at mem
    have high : (0x80 : Nat) ≤ e.first := by simpa using of_mem_readFrom beyond (by simp) e mem
    omega
  rw [has, find?, search_eq_none above (Nat.le_refl _), Option.isSome_none]

end Unicode.Table

namespace Unicode

variable {c : Char}

set_option maxRecDepth 20000 in
theorem marks_of_ascii (ascii : c.toNat < 0x80) : marks.has c = false :=
  Table.has_eq_false (by decide +kernel) ascii

set_option maxRecDepth 20000 in
theorem rightToLeft_of_ascii (ascii : c.toNat < 0x80) : rightToLeft.has c = false :=
  Table.has_eq_false (by decide +kernel) ascii

set_option maxRecDepth 20000 in
theorem arabicLetters_of_ascii (ascii : c.toNat < 0x80) : arabicLetters.has c = false :=
  Table.has_eq_false (by decide +kernel) ascii

theorem arabicNumbers_of_ascii (ascii : c.toNat < 0x80) : arabicNumbers.has c = false :=
  Table.has_eq_false (by decide +kernel) ascii

end Unicode

/-! ## Punycode -/

namespace Punycode

/-- What Punycode may write for a label: letters, figures and hyphens. -/
def isDigit (c : Char) : Bool := c == '-' || (value? c).isSome

theorem isDigit_digit : ∀ n < 36, isDigit (digit n) = true := by decide

theorem isDigit_of_mem_encodeNumber {bias k n : Nat} {c : Char} (h : c ∈ encodeNumber bias k n) :
    isDigit c = true := by
  have small : threshold k bias ≤ 26 := threshold_le k bias
  fun_induction encodeNumber bias k n with
  | case1 k n t below =>
    rw [List.mem_singleton] at h
    exact h ▸ isDigit_digit n (by omega)
  | case2 k n t above ih =>
    rcases List.mem_cons.1 h with rfl | later
    · have : (n - t) % (36 - t) < 36 - t := Nat.mod_lt _ (by omega)
      exact isDigit_digit _ (by omega)
    · exact ih later (threshold_le _ bias)

/-- Passing over a label writes digits only. -/
theorem isDigit_of_mem_pass {plain n : Nat} {w : Writing} {label : List Nat}
    (before : ∀ c ∈ w.output, isDigit c = true) :
    ∀ c ∈ (label.foldl (Writing.pass plain n) w).output, isDigit c = true := by
  induction label generalizing w with
  | nil => exact before
  | cons m rest ih =>
    refine ih fun c mem => ?_
    rw [Writing.pass] at mem
    split_ifs at mem
    · exact before c mem
    · rcases List.mem_append.1 mem with old | new
      · exact before c old
      · exact isDigit_of_mem_encodeNumber new
    · exact before c mem

theorem isDigit_of_mem_placeAll {label : List Nat} {plain next : Nat} {larger : List Nat}
    {w : Writing} (before : ∀ c ∈ w.output, isDigit c = true) :
    ∀ c ∈ (placeAll label plain larger next w).output, isDigit c = true := by
  induction larger generalizing next w with
  | nil => exact before
  | cons n rest ih => exact ih (isDigit_of_mem_pass before)

/-- Punycode writes the ASCII characters of the label, and digits. -/
theorem mem_encode {label : List Char} {c : Char} (h : c ∈ encode label) :
    (c ∈ label ∧ c.toNat < 0x80) ∨ isDigit c = true := by
  rw [encode, List.mem_append, List.mem_append] at h
  rcases h with (kept | hyphen) | digits
  · exact .inl ⟨(List.mem_filter.1 kept).1, by simpa using (List.mem_filter.1 kept).2⟩
  · split_ifs at hyphen
    · simp at hyphen
    · rw [List.mem_singleton] at hyphen
      exact .inr (hyphen ▸ rfl)
  · exact .inr (isDigit_of_mem_placeAll (by simp) c digits)

/-- A difference is read from digits. -/
theorem isDigit_of_decodeNumber {bias k weight i : Nat} {cs : List Char} {r : Nat × List Char}
    (h : decodeNumber bias k weight i cs = some r) {c : Char} (mem : c ∈ cs) :
    isDigit c = true ∨ c ∈ r.2 := by
  induction cs generalizing k weight i with
  | nil => simp at mem
  | cons d rest ih =>
    rw [decodeNumber] at h
    cases hd : value? d with
    | none => simp [hd] at h
    | some value =>
      simp only [hd] at h
      split_ifs at h with _ last
      · cases h
        rcases List.mem_cons.1 mem with rfl | later
        · exact .inl (by simp [isDigit, hd])
        · exact .inr later
      · rcases List.mem_cons.1 mem with rfl | later
        · exact .inl (by simp [isDigit, hd])
        · exact ih h later

/-- Differences are read from digits, and what is placed already stays. -/
theorem mem_of_decodeRest {label : List Char} {n i bias : Nat} {cs shown : List Char}
    (h : decodeRest label n i bias cs = some shown) :
    (∀ c ∈ label, c ∈ shown) ∧ ∀ c ∈ cs, isDigit c = true := by
  fun_induction decodeRest label n i bias cs with
  | case1 label n i bias =>
    cases h
    exact ⟨fun c mem => mem, by simp⟩
  | case2 => simp at h
  | case3 label n i bias c rest j cs' hnumber count n' good ih =>
    obtain ⟨kept, digits⟩ := ih h
    refine ⟨fun d mem => kept d ?_, fun d mem => ?_⟩
    · exact (List.mem_insertIdx (Nat.le_of_lt_succ (Nat.mod_lt _ (Nat.succ_pos _)))).2 (.inr mem)
    · exact (isDigit_of_decodeNumber hnumber mem).elim id (digits d)
  | case4 => simp at h

/-- A written form has nothing but its ASCII characters, its digits and the hyphen between them. -/
theorem mem_splitLast {cs : List Char} {c : Char} (h : c ∈ cs) :
    c ∈ (splitLast cs).1 ∨ c = '-' ∨ c ∈ (splitLast cs).2 := by
  rw [splitLast]
  rcases Text.cut_at_last (· ≠ '-') cs with whole | ⟨before, mark, hyphen, parts⟩
  · simp only [whole, Nat.lt_irrefl, if_false]
    exact .inr (.inr h)
  · generalize (cs.reverse.takeWhile (· ≠ '-')).reverse = digits at *
    have hyphen : mark = '-' := by simpa using hyphen
    subst hyphen parts
    have length : (before ++ '-' :: digits).length = before.length + digits.length + 1 := by
      simp
      omega
    have plain : (before ++ '-' :: digits).take
        (before.length + digits.length + 1 - digits.length - 1) = before := by
      rw [show before.length + digits.length + 1 - digits.length - 1 = before.length by omega,
        List.take_left]
    simp only [length, plain]
    rw [if_pos (by omega)]
    split_ifs
    · exact .inr (.inr h)
    · simpa using h

/-- Every character of a written form is a digit or comes back in the label. -/
theorem mem_of_decode? {written shown : List Char} (h : decode? written = some shown) {c : Char}
    (mem : c ∈ written) : isDigit c = true ∨ Ascii.lower c ∈ shown := by
  obtain ⟨kept, digits⟩ := mem_of_decodeRest h
  rcases mem_splitLast mem with plain | rfl | digit
  · exact .inr (kept _ (List.mem_map_of_mem plain))
  · exact .inl rfl
  · exact .inl (digits c digit)

end Punycode

/-! ## What the ASCII form holds -/

namespace Domain

/-- The characters of an ASCII form: printable ASCII without those that separate the parts of a URL.
-/
def inName (c : Char) : Bool := isAscii c && !isForbidden c

theorem inName_iff {c : Char} : inName c = true ↔ isAscii c = true ∧ isForbidden c = false := by
  rw [inName, Bool.and_eq_true, Bool.not_eq_true']

theorem of_inName {c : Char} (h : inName c = true) :
    0x20 < c.toNat ∧ c.toNat < 0x7F ∧ c ∉ "%#/:<>?@[\\]^|".toList := by
  have ascii : c.toNat < 128 := of_decide_eq_true (inName_iff.1 h).1
  revert h
  exact Ascii.forall_ascii (P := fun c => inName c = true →
    0x20 < c.toNat ∧ c.toNat < 0x7F ∧ c ∉ "%#/:<>?@[\\]^|".toList) (by decide) ascii

/-- What Punycode writes may stand in a name. -/
theorem inName_of_isDigit {c : Char} (h : Punycode.isDigit c = true) : inName c = true := by
  have ascii : c.toNat < 128 := by
    rw [Punycode.isDigit, Bool.or_eq_true, beq_iff_eq, Punycode.value?] at h
    rcases h with rfl | h
    · decide
    · split_ifs at h with small capital figure
      · exact Nat.lt_of_le_of_lt small.2 (by decide : 'z'.toNat < 128)
      · exact Nat.lt_of_le_of_lt capital.2 (by decide : 'Z'.toNat < 128)
      · exact Nat.lt_of_le_of_lt figure.2 (by decide : '9'.toNat < 128)
      · simp at h
  revert h
  exact Ascii.forall_ascii (P := fun c => Punycode.isDigit c = true → inName c = true) (by decide)
    ascii

/-- Small and capital letters are allowed alike. -/
theorem isForbidden_lower (c : Char) : isForbidden (Ascii.lower c) = isForbidden c := by
  by_cases ascii : c.toNat < 128
  · exact Ascii.forall_ascii (P := fun c => isForbidden (Ascii.lower c) = isForbidden c) (by decide)
      ascii
  · rw [Ascii.lower_of_not_ascii ascii]

theorem inName_of_mem_marker : ∀ c ∈ marker, inName c = true := forall_mem_of_all (by decide)

variable {label : List Char} {c : Char}

/-- A sound label holds no character that separates the parts of a URL. -/
theorem isForbidden_of_isSound (sound : isSound label = true) (mem : c ∈ label) :
    isForbidden c = false := by
  rw [isSound, Bool.and_eq_true, Bool.and_eq_true, Bool.not_eq_true', List.any_eq_false] at sound
  exact Bool.eq_false_iff.2 (sound.1.1 c mem)

theorem inName_of_decodeLabel? {read : Label} (h : decodeLabel? label = some read)
    (mem : c ∈ read.ascii) : inName c = true := by
  rw [decodeLabel?] at h
  split_ifs at h with fit
  cases hshown : Punycode.decode? label with
  | none => simp [hshown] at h
  | some shown =>
    simp only [hshown] at h
    split_ifs at h with good
    cases h
    rcases List.mem_append.1 mem with hmarker | hwritten
    · exact inName_of_mem_marker c hmarker
    · rcases Punycode.mem_of_decode? hshown hwritten with digit | back
      · exact inName_of_isDigit digit
      · have allowed : isForbidden (Ascii.lower c) = false := isForbidden_of_isSound good.2.2 back
        exact inName_iff.2 ⟨List.all_eq_true.1 fit.1 c hwritten, isForbidden_lower c ▸ allowed⟩

/-- A label in ASCII is written in characters of names. -/
theorem inName_of_finishLabel? {read : Label} (h : finishLabel? label = some read)
    (mem : c ∈ read.ascii) : inName c = true := by
  rw [finishLabel?] at h
  split at h
  · exact inName_of_decodeLabel? h mem
  · split_ifs at h with sound ascii short
    · cases h
      exact inName_iff.2 ⟨List.all_eq_true.1 ascii c mem, isForbidden_of_isSound sound mem⟩
    · cases h
      rcases List.mem_append.1 mem with hmarker | hwritten
      · exact inName_of_mem_marker c hmarker
      · rcases Punycode.mem_encode hwritten with ⟨kept, small⟩ | digit
        · exact inName_iff.2 ⟨decide_eq_true small, isForbidden_of_isSound sound kept⟩
        · exact inName_of_isDigit digit

theorem inName_of_readLabel? {labels : List Label} (h : readLabel? label = some labels)
    {read : Label} (hread : read ∈ labels) (mem : c ∈ read.ascii) : inName c = true := by
  rw [readLabel?] at h
  split_ifs at h with ascii
  · obtain ⟨only, honly, rfl⟩ := Option.map_eq_some_iff.1 h
    rw [List.mem_singleton] at hread
    exact inName_of_finishLabel? honly (hread ▸ mem)
  · split at h
    · simp at h
    · obtain ⟨piece, -, hpiece⟩ := exists_of_mem_mapM h hread
      exact inName_of_finishLabel? hpiece mem

/-- **The ASCII form of a name has only characters that may stand in the place of a host.** -/
theorem inName_of_toAscii? {cs name : List Char} (h : toAscii? cs = some name) {c : Char}
    (mem : c ∈ name) : inName c = true := by
  rw [toAscii?] at h
  cases hlabels : readLabels? cs with
  | none => simp [hlabels] at h
  | some labels =>
    simp only [hlabels] at h
    split_ifs at h
    cases h
    rcases Text.mem_intercalate mem with rfl | ⟨ascii, hascii, hc⟩
    · rfl
    · obtain ⟨read, hread, rfl⟩ := List.mem_map.1 hascii
      obtain ⟨groups, hgroups, rfl⟩ := Option.map_eq_some_iff.1 hlabels
      obtain ⟨group, hgroup, hread⟩ := List.mem_flatten.1 hread
      obtain ⟨written, -, hwritten⟩ := exists_of_mem_mapM hgroups hgroup
      exact inName_of_readLabel? hwritten hread hc

/-! ## Names that are their own ASCII form -/

theorem joinersAllowed_of_ascii {before : List Char} (ascii : ∀ c ∈ label, isAscii c = true) :
    joinersAllowed before label = true := by
  induction label generalizing before with
  | nil => rfl
  | cons d rest ih =>
    have noJoiner : ¬(d = '\u200C' ∨ d = '\u200D') := by
      have small : isAscii d = true := ascii d List.mem_cons_self
      rintro (rfl | rfl) <;> exact absurd small (by decide)
    rw [joinersAllowed, if_neg noJoiner, Bool.true_and]
    exact ih fun e mem => ascii e (List.mem_cons_of_mem _ mem)

/-- Characters of names make a sound label. -/
theorem isSound_of_inName (good : ∀ c ∈ label, inName c = true) : isSound label = true := by
  have ascii (c : Char) (mem : c ∈ label) : isAscii c = true := (inName_iff.1 (good c mem)).1
  have allowed : label.any isForbidden = false :=
    List.any_eq_false.2 fun c mem => Bool.eq_false_iff.1 (inName_iff.1 (good c mem)).2
  have noMark : label.head?.any Unicode.marks.has = false := by
    cases label with
    | nil => rfl
    | cons c rest =>
      rw [List.head?_cons, Option.any_some]
      exact Unicode.marks_of_ascii (of_decide_eq_true (ascii c List.mem_cons_self))
  rw [isSound, allowed, noMark, joinersAllowed_of_ascii ascii]
  rfl

/-- A character of ASCII has no direction that matters. The function goes by a name of its own
before it is unfolded: in front of `c` it would have the kernel search the tables for `c`. -/
theorem isDirected_of_ascii (ascii : isAscii c = true) : isDirected c = false := by
  have small : c.toNat < 0x80 := of_decide_eq_true ascii
  obtain ⟨directed, eq⟩ : ∃ directed, directed = isDirected := ⟨_, rfl⟩
  rw [← eq]
  delta isDirected at eq
  rw [eq]
  dsimp only
  rw [Direction.of, Unicode.rightToLeft_of_ascii small, Unicode.arabicLetters_of_ascii small,
    Unicode.arabicNumbers_of_ascii small]
  simp only [Bool.or_false, Bool.false_eq_true, if_false]
  split_ifs <;> rfl

/-- A label that is its own ASCII form: small, allowed and without a marker. -/
structure IsPlain (label : List Char) : Prop where
  allowed : ∀ c ∈ label, inName c = true
  small : ∀ c ∈ label, Ascii.lower c = c
  unmarked : afterMarker? label = none

theorem readLabel?_of_isPlain (plain : IsPlain label) :
    readLabel? label = some [⟨label, label⟩] := by
  have ascii : label.all isAscii = true :=
    List.all_eq_true.2 fun c mem => (inName_iff.1 (plain.allowed c mem)).1
  have same : label.map Ascii.lower = label := by
    rw [List.map_congr_left plain.small, List.map_id']
  rw [readLabel?, if_pos ascii, same, finishLabel?, plain.unmarked]
  simp [isSound_of_inName plain.allowed, ascii]

/-- **A name of plain labels is its own ASCII form.** -/
theorem toAscii?_of_plain {name : List Char}
    (plain : ∀ label ∈ Text.splitOn (· = '.') name, IsPlain label) : toAscii? name = some name := by
  have labels : readLabels? name =
      some ((Text.splitOn (· = '.') name).map fun label => ⟨label, label⟩) := by
    rw [readLabels?, mapM_eq_map (g := fun label => [⟨label, label⟩])
      fun label mem => readLabel?_of_isPlain (plain label mem), Option.map_some, ← List.flatMap_def,
      ← List.map_eq_flatMap]
  have undirected : (Text.splitOn (· = '.') name).any (·.any isDirected) = false := by
    refine List.any_eq_false.2 fun label hlabel => ?_
    simp only [Bool.not_eq_true, List.any_eq_false]
    intro c mem
    exact isDirected_of_ascii (inName_iff.1 ((plain label hlabel).allowed c mem)).1
  simp only [toAscii?, labels, List.map_map, Function.comp_def, List.map_id']
  have joined : joinLabels (Text.splitOn (· = '.') name) = name := by
    rw [joinLabels, Text.splitOn_eq_splitOnP]
    exact List.intercalate_splitOn '.'
  rw [directionsAgree, undirected, if_neg Bool.false_ne_true, if_pos rfl, joined]

end Domain
end HttpFetch
