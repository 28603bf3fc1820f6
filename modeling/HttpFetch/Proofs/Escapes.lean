import HttpFetch.Proofs.Text
import HttpFetch.Text.Percent
import HttpFetch.Url.Path
/-!
# Text that is cut and escaped

Pieces that are joined by a separator come apart again (`Text.splitOn_intercalate`). What
`Percent.encode` writes has only characters that the part of the URL keeps
(`Percent.keep_of_mem_encode`), and what has only such characters is encoded as it is
(`Percent.encode_of_kept`). Text without a percent sign is what `Percent.decode` makes of it
(`Percent.decode_of_absent`).
-/

namespace HttpFetch

/-- What holds of every member of a list can be checked along the list, however many other values
there are. -/
theorem forall_mem_of_all {α : Type} {P : α → Prop} [DecidablePred P] {l : List α}
    (all : l.all (decide <| P ·) = true) : ∀ a ∈ l, P a :=
  fun a mem => of_decide_eq_true (List.all_eq_true.1 all a mem)

/-! ## Characters -/

namespace Ascii

/-- What holds of the first 128 characters holds of every character in ASCII. -/
theorem forall_ascii {P : Char → Prop} (each : ∀ n < 128, P (Char.ofNat n)) {c : Char}
    (ascii : c.toNat < 128) : P c := by
  rw [← Char.ofNat_toNat c]
  exact each _ ascii

/-- Beyond ASCII there are no capitals to make small. -/
theorem lower_of_not_ascii {c : Char} (beyond : ¬c.toNat < 128) : lower c = c := by
  refine if_neg fun capital => beyond ?_
  have last : c.toNat ≤ 'Z'.toNat := capital.2
  exact Nat.lt_of_le_of_lt last (by decide)

/-- Hexadecimal digits are in ASCII. -/
theorem toNat_lt_of_isHexDigit {c : Char} (h : isHexDigit c = true) : c.toNat < 128 := by
  rw [isHexDigit, digitValue?] at h
  split_ifs at h with figure small capital
  · exact Nat.lt_of_le_of_lt figure.2 (by decide : '9'.toNat < 128)
  · exact Nat.lt_of_le_of_lt small.2 (by decide : 'f'.toNat < 128)
  · exact Nat.lt_of_le_of_lt capital.2 (by decide : 'F'.toNat < 128)
  · simp at h

end Ascii

/-! ## Pieces -/

/-- What is read piece by piece comes from pieces. -/
theorem exists_of_mem_mapM {α β : Type} {f : α → Option β} {xs : List α} {ys : List β}
    (h : xs.mapM f = some ys) {y : β} (mem : y ∈ ys) : ∃ x ∈ xs, f x = some y := by
  induction xs generalizing ys with
  | nil =>
    cases h
    simp at mem
  | cons x rest ih =>
    rw [List.mapM_cons] at h
    obtain ⟨first, hfirst, h⟩ := Option.bind_eq_some_iff.1 h
    obtain ⟨later, hlater, h⟩ := Option.bind_eq_some_iff.1 h
    cases h
    rcases List.mem_cons.1 mem with rfl | mem
    · exact ⟨x, List.mem_cons_self, hfirst⟩
    · obtain ⟨x', hx', h⟩ := ih hlater mem
      exact ⟨x', List.mem_cons_of_mem _ hx', h⟩

/-- If each piece can be read, all can. -/
theorem mapM_eq_map {α β : Type} {f : α → Option β} {g : α → β} {xs : List α}
    (each : ∀ x ∈ xs, f x = some (g x)) : xs.mapM f = some (xs.map g) := by
  induction xs with
  | nil => rfl
  | cons x rest ih =>
    rw [List.mapM_cons, each x List.mem_cons_self,
      ih fun y mem => each y (List.mem_cons_of_mem _ mem)]
    rfl

namespace Text

variable {p : Char → Bool}

/-- Cutting is the library's `splitOnP`. -/
theorem splitOn_eq_splitOnP (cs : List Char) : splitOn p cs = cs.splitOnP p := by
  induction cs with
  | nil => rfl
  | cons c rest ih =>
    rw [splitOn, List.splitOnP_cons_eq_if_modifyHead, ih]
    split_ifs
    · rfl
    · cases h : rest.splitOnP p with
      | nil => exact absurd h (List.splitOnP_ne_nil p rest)
      | cons piece pieces => rfl

/-- There is always a piece. -/
theorem splitOn_ne_nil (cs : List Char) : splitOn p cs ≠ [] := by
  rw [splitOn_eq_splitOnP]
  exact List.splitOnP_ne_nil p cs

/-- A text without a separator is one piece. -/
theorem splitOn_of_absent {cs : List Char} (absent : ∀ c ∈ cs, p c = false) :
    splitOn p cs = [cs] := by
  rw [splitOn_eq_splitOnP, List.splitOnP_eq_singleton absent]

/-- The text before the first separator is the first piece. -/
theorem splitOn_append_cons {cs : List Char} (absent : ∀ c ∈ cs, p c = false) {mark : Char}
    (separates : p mark = true) (rest : List Char) :
    splitOn p (cs ++ mark :: rest) = cs :: splitOn p rest := by
  simp only [splitOn_eq_splitOnP]
  exact List.splitOnP_append_cons_of_forall_mem absent mark separates rest

/-- **Pieces joined by a separator come apart again.** -/
theorem splitOn_intercalate {mark : Char} (separates : p mark = true) {pieces : List (List Char)}
    (absent : ∀ piece ∈ pieces, ∀ c ∈ piece, p c = false) (someThere : pieces ≠ []) :
    splitOn p ([mark].intercalate pieces) = pieces := by
  induction pieces with
  | nil => exact absurd rfl someThere
  | cons piece rest ih =>
    have first : ∀ c ∈ piece, p c = false := absent piece List.mem_cons_self
    cases rest with
    | nil => rw [List.intercalate_singleton, splitOn_of_absent first]
    | cons next rest =>
      rw [List.intercalate_cons_cons, List.append_assoc, List.singleton_append,
        splitOn_append_cons first separates,
        ih (fun q mem => absent q (List.mem_cons_of_mem _ mem)) (List.cons_ne_nil _ _)]

/-- Joined pieces have nothing but their own characters and the separator. -/
theorem mem_intercalate {mark c : Char} {pieces : List (List Char)}
    (h : c ∈ [mark].intercalate pieces) : c = mark ∨ ∃ piece ∈ pieces, c ∈ piece := by
  induction pieces with
  | nil => simp at h
  | cons first rest ih =>
    cases rest with
    | nil => exact .inr ⟨first, List.mem_cons_self, by simpa using h⟩
    | cons next rest =>
      rw [List.intercalate_cons_cons, List.mem_append, List.mem_append, List.mem_singleton] at h
      rcases h with (here | separator) | later
      · exact .inr ⟨first, List.mem_cons_self, here⟩
      · exact .inl separator
      · obtain separator | ⟨piece, mem, h⟩ := ih later
        · exact .inl separator
        · exact .inr ⟨piece, List.mem_cons_of_mem _ mem, h⟩

/-- A piece has characters of the text, none of which separates. -/
theorem mem_of_mem_splitOn {cs piece : List Char} {c : Char} (hpiece : piece ∈ splitOn p cs)
    (hc : c ∈ piece) : c ∈ cs ∧ p c = false := by
  induction cs generalizing piece with
  | nil =>
    rw [splitOn, List.mem_singleton] at hpiece
    simp [hpiece] at hc
  | cons d rest ih =>
    rw [splitOn] at hpiece
    split_ifs at hpiece with hd
    · rcases List.mem_cons.1 hpiece with rfl | later
      · simp at hc
      · exact ⟨List.mem_cons_of_mem _ (ih later hc).1, (ih later hc).2⟩
    · obtain ⟨first, pieces, h⟩ := List.exists_cons_of_ne_nil (splitOn_ne_nil (p := p) rest)
      rw [h] at ih hpiece
      rcases List.mem_cons.1 hpiece with rfl | later
      · rcases List.mem_cons.1 hc with rfl | hc
        · exact ⟨List.mem_cons_self, by simpa using hd⟩
        · have := ih List.mem_cons_self hc
          exact ⟨List.mem_cons_of_mem _ this.1, this.2⟩
      · have := ih (List.mem_cons_of_mem _ later) hc
        exact ⟨List.mem_cons_of_mem _ this.1, this.2⟩

/-- A text is cut at the first of the characters, and only there. -/
theorem cutAt?_append {c : Char} {before : List Char} (absent : ∀ d ∈ before, d ≠ c)
    (after : List Char) : cutAt? c (before ++ c :: after) = some (before, after) := by
  induction before with
  | nil => rw [List.nil_append, cutAt?, if_pos rfl]
  | cons d before ih =>
    rw [List.cons_append, cutAt?, if_neg (absent d List.mem_cons_self),
      ih fun e mem => absent e (List.mem_cons_of_mem d mem)]
    rfl

theorem cutAt?_of_absent {c : Char} {cs : List Char} (absent : ∀ d ∈ cs, d ≠ c) :
    cutAt? c cs = none := by
  induction cs with
  | nil => rfl
  | cons d cs ih =>
    rw [cutAt?, if_neg (absent d List.mem_cons_self),
      ih fun e mem => absent e (List.mem_cons_of_mem d mem)]
    rfl

/-- Either the whole text satisfies `p`, or it is cut after its last character that does not. -/
theorem cut_at_last (p : Char → Bool) (cs : List Char) :
    (cs.reverse.takeWhile p).reverse = cs ∨
      ∃ before mark, p mark = false ∧ cs = before ++ mark :: (cs.reverse.takeWhile p).reverse := by
  have parts : cs.reverse.takeWhile p ++ cs.reverse.dropWhile p = cs.reverse :=
    List.takeWhile_append_dropWhile
  cases rest : cs.reverse.dropWhile p with
  | nil =>
    rw [rest, List.append_nil] at parts
    exact .inl (by rw [parts, List.reverse_reverse])
  | cons mark before =>
    have fails : p mark = false := by
      have first := List.head_dropWhile_not (l := cs.reverse) p
        (by rw [rest]; exact List.cons_ne_nil _ _)
      simpa [rest] using first
    rw [rest] at parts
    exact .inr ⟨before.reverse, mark, fails, by simpa using (congrArg List.reverse parts).symm⟩

end Text

/-! ## UTF-8 -/

namespace Utf8

/-- Characters that are written are read as they were. -/
theorem decode?_encodeChars (cs : List Char) :
    decode? (encodeChars cs) = some (String.ofList cs) := by
  have values : (cs.map some).mapM id = some cs := by
    rw [mapM_eq_map (g := (·.getD replacement)) (by simp), List.map_map]
    simp [Function.comp_def]
  rw [decode?, decodeFrom_encodeChars, values, Option.map_some]

end Utf8

/-! ## Escapes -/

namespace Percent

variable {keep : Char → Bool}

/-- What `keep` allows is written as it is. -/
theorem encode_of_kept {cs : List Char} (kept : ∀ c ∈ cs, keep c = true) : encode keep cs = cs := by
  induction cs with
  | nil => rfl
  | cons c rest ih =>
    have here : encodeChar keep c = [c] := if_pos (kept c List.mem_cons_self)
    have later := ih fun d mem => kept d (List.mem_cons_of_mem _ mem)
    rw [encode, List.flatMap_cons, here]
    exact congrArg (c :: ·) later

/-- A character of an escape is the percent sign or a hexadecimal digit. -/
def inEscape (c : Char) : Bool := c == '%' || Ascii.isHexDigit c

theorem inEscape_hexDigit : ∀ n < 16, inEscape (Ascii.hexDigit n) = true := by decide

/-- What holds of the characters of escapes among the first 128 holds of all of them. -/
theorem forall_inEscape {P : Char → Prop}
    (each : ∀ n < 128, inEscape (Char.ofNat n) = true → P (Char.ofNat n)) {c : Char}
    (h : inEscape c = true) : P c := by
  have ascii : c.toNat < 128 := by
    rw [inEscape, Bool.or_eq_true, beq_iff_eq] at h
    rcases h with rfl | digit
    · decide
    · exact Ascii.toNat_lt_of_isHexDigit digit
  exact Ascii.forall_ascii (P := fun c => inEscape c = true → P c) each ascii h

/-- A character that `encode` writes is kept, or stands in an escape. -/
theorem mem_encode {cs : List Char} {c : Char} (h : c ∈ encode keep cs) :
    (c ∈ cs ∧ keep c = true) ∨ inEscape c = true := by
  obtain ⟨d, hd, h⟩ := List.mem_flatMap.1 h
  rw [encodeChar] at h
  split_ifs at h with kept
  · rw [List.mem_singleton] at h
    subst h
    exact .inl ⟨hd, kept⟩
  · obtain ⟨b, -, h⟩ := List.mem_flatMap.1 h
    have high : b.toNat / 16 < 16 := by have := b.toNat_lt; omega
    simp only [escape, List.mem_cons, List.not_mem_nil, or_false] at h
    rcases h with rfl | rfl | rfl
    · exact .inr rfl
    · exact .inr (inEscape_hexDigit _ high)
    · exact .inr (inEscape_hexDigit _ (Nat.mod_lt _ (by decide)))

/-- A part of a URL that keeps the characters of escapes holds nothing but what it keeps. -/
theorem keep_of_mem_encode (escapes : ∀ c, inEscape c = true → keep c = true) {cs : List Char}
    {c : Char} (h : c ∈ encode keep cs) : keep c = true :=
  (mem_encode h).elim And.right (escapes c)

/-- Bytes without a percent sign are what they stand for. -/
theorem decode_of_absent {bytes : Bytes} (absent : ∀ b ∈ bytes, b ≠ 0x25) :
    decode bytes = bytes := by
  fun_induction decode bytes with
  | case1 => rfl
  | case5 b rest plain ih => rw [ih fun c mem => absent c (List.mem_cons_of_mem _ mem)]
  | _ => exact absurd rfl (absent _ List.mem_cons_self)

/-- What is kept is printable and none of the characters left out. -/
theorem of_keepsAllBut {excluded : List Char} {c : Char} (kept : keepsAllBut excluded c = true) :
    0x20 < c.toNat ∧ c.toNat < 0x7F ∧ c ∉ excluded := by
  simpa [keepsAllBut, and_assoc] using kept

/-- Whether a character is printable ASCII and no space, as all characters of a URL are. -/
def isVisible : Char → Bool := keepsAllBut []

theorem isVisible_of_keepsAllBut {excluded : List Char} {c : Char}
    (kept : keepsAllBut excluded c = true) : isVisible c = true := by
  obtain ⟨above, below, -⟩ := of_keepsAllBut kept
  simp [isVisible, keepsAllBut, above, below]

theorem toNat_of_isVisible {c : Char} (visible : isVisible c = true) :
    0x20 < c.toNat ∧ c.toNat < 0x7F :=
  ⟨(of_keepsAllBut visible).1, (of_keepsAllBut visible).2.1⟩

theorem isBlank_of_isVisible {c : Char} (visible : isVisible c = true) :
    Text.isBlank c = false := by
  obtain ⟨above, below⟩ := toNat_of_isVisible visible
  simp only [Text.isBlank, Bool.or_eq_false_iff, Bool.and_eq_false_iff, decide_eq_false_iff_not,
    beq_eq_false_iff_ne]
  omega

end Percent
end HttpFetch
