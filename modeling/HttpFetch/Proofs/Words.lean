import HttpFetch.Proofs.Escapes
import Mathlib.Data.List.TakeWhile
/-!
# The words of a text

What separates in a text takes no part in its words, at either end or between them
(`Text.tokens_append_marks`, `Text.tokens_concat_mark`), and a word goes as far as it can
(`Text.tokens_word`, `Text.exists_word`). So which word is the second one can be read off the text
(`Text.getElem?_tokens_one`).
-/

namespace HttpFetch.Text

variable {p : Char → Bool} {c : Char} {cs word rest : List Char}

/-- What separates in front of a text gives no word. -/
theorem tokens_cons_mark (separates : p c = true) : tokens p (c :: cs) = tokens p cs := by
  simp [tokens, splitOn, separates]

theorem tokens_append_marks {marks : List Char} (separate : ∀ c ∈ marks, p c = true) :
    tokens p (marks ++ cs) = tokens p cs := by
  induction marks with
  | nil => rfl
  | cons c marks ih =>
    rw [List.cons_append, tokens_cons_mark (separate c List.mem_cons_self),
      ih fun d mem => separate d (List.mem_cons_of_mem c mem)]

theorem splitOn_concat_mark (separates : p c = true) (cs : List Char) :
    splitOn p (cs ++ [c]) = splitOn p cs ++ [[]] := by
  induction cs with
  | nil => simp [splitOn, separates]
  | cons d cs ih =>
    obtain ⟨piece, pieces, split⟩ := List.exists_cons_of_ne_nil (splitOn_ne_nil (p := p) cs)
    rw [List.cons_append, splitOn, splitOn, ih, split]
    split_ifs <;> rfl

/-- What separates at the end of a text gives no word. -/
theorem tokens_concat_mark (separates : p c = true) (cs : List Char) :
    tokens p (cs ++ [c]) = tokens p cs := by
  rw [tokens, splitOn_concat_mark separates, List.filter_append]
  exact List.append_nil _

/-- Blanks around a text have no part in its words. -/
theorem tokens_stripChars (cs : List Char) : tokens p (stripChars p cs) = tokens p cs := by
  have front := List.takeWhile_append_dropWhile (p := p) (l := cs)
  have back := congrArg List.reverse
    (List.takeWhile_append_dropWhile (p := p) (l := (cs.dropWhile p).reverse))
  rw [List.reverse_append, List.reverse_reverse] at back
  have ends (marks : List Char) (separate : ∀ c ∈ marks, p c = true) (cs : List Char) :
      tokens p (cs ++ marks) = tokens p cs := by
    induction marks generalizing cs with
    | nil => rw [List.append_nil]
    | cons c marks ih =>
      rw [← List.singleton_append, ← List.append_assoc,
        ih (fun d mem => separate d (List.mem_cons_of_mem c mem)),
        tokens_concat_mark (separate c List.mem_cons_self)]
  rw [stripChars, ← ends _ (fun c mem => List.mem_takeWhile_imp (List.mem_reverse.1 mem)), back,
    ← tokens_append_marks fun c mem => List.mem_takeWhile_imp mem, front]

/-- A word is whole where the text ends after it or something separates it from the rest. -/
theorem tokens_word (filled : word ≠ []) (solid : ∀ c ∈ word, p c = false)
    (edge : ∀ c ∈ rest.head?, p c = true) : tokens p (word ++ rest) = word :: tokens p rest := by
  have isWord (words : List (List Char)) :
      (word :: words).filter (!·.isEmpty) = word :: words.filter (!·.isEmpty) :=
    List.filter_cons_of_pos (by simpa using filled)
  cases rest with
  | nil =>
    rw [List.append_nil, tokens, splitOn_of_absent solid, isWord]
    rfl
  | cons c rest =>
    rw [tokens_cons_mark (edge c rfl), tokens, splitOn_append_cons solid (edge c rfl), isWord]
    rfl

/-- A text with a word is what separates in front of it, the word, and the rest. -/
theorem exists_word {more : List (List Char)} (words : tokens p cs = word :: more) :
    ∃ before rest, cs = before ++ (word ++ rest) ∧ (∀ c ∈ before, p c = true) ∧ word ≠ [] ∧
      (∀ c ∈ word, p c = false) ∧ (∀ c ∈ rest.head?, p c = true) ∧ tokens p rest = more := by
  have parts := List.takeWhile_append_dropWhile (p := p) (l := cs)
  have separate : ∀ c ∈ cs.takeWhile p, p c = true := fun c mem => List.mem_takeWhile_imp mem
  have follows : tokens p (cs.dropWhile p) = word :: more := by
    rw [← tokens_append_marks separate, parts, words]
  have first := List.takeWhile_append_dropWhile (p := fun c => !p c) (l := cs.dropWhile p)
  have solid : ∀ c ∈ (cs.dropWhile p).takeWhile (fun c => !p c), p c = false := fun c mem => by
    simpa using List.mem_takeWhile_imp mem
  have edge : ∀ c ∈ ((cs.dropWhile p).dropWhile fun c => !p c).head?, p c = true := fun c mem => by
    have stops := List.head?_dropWhile_not (fun c => !p c) (cs.dropWhile p)
    rw [mem] at stops
    simpa using stops
  have filled : (cs.dropWhile p).takeWhile (fun c => !p c) ≠ [] := by
    rcases left : cs.dropWhile p with _ | ⟨d, later⟩
    · rw [left] at follows
      cases follows
    · have notMark := List.head?_dropWhile_not p cs
      rw [left] at notMark
      have starts : p d = false := notMark
      simp [starts]
  rw [← first, tokens_word filled solid edge] at follows
  obtain ⟨rfl, same⟩ := List.cons.inj follows
  exact ⟨_, _, by rw [first, parts], separate, filled, solid, edge, same⟩

/-- A line in which a word comes second, after a first one and something that separates the two. -/
structure ComesSecond (p : Char → Bool) (word line before first gap after : List Char) : Prop where
  parts : line = before ++ (first ++ (gap ++ (word ++ after)))
  before : ∀ c ∈ before, p c = true
  filled : first ≠ []
  solid : ∀ c ∈ first, p c = false
  apart : gap ≠ []
  gap : ∀ c ∈ gap, p c = true
  edge : ∀ c ∈ after.head?, p c = true

/-- **The second word of a line.** -/
theorem getElem?_tokens_one (filled : word ≠ []) (solid : ∀ c ∈ word, p c = false)
    (line : List Char) : (tokens p line)[1]? = some word ↔
      ∃ before first gap after, ComesSecond p word line before first gap after := by
  constructor
  · intro second
    rcases words : tokens p line with _ | ⟨first, more⟩ <;> rw [words] at second
    · cases second
    rcases more with _ | ⟨next, more⟩
    · cases second
    obtain rfl : next = word := Option.some.inj second
    obtain ⟨before, rest, parts, separate, filled', solid', edge, later⟩ := exists_word words
    obtain ⟨gap, after, rfl, separate', -, -, edge', -⟩ := exists_word later
    refine ⟨before, first, gap, after, parts, separate, filled', solid', ?_, separate', edge'⟩
    rintro rfl
    obtain ⟨c, others, rfl⟩ := List.exists_cons_of_ne_nil filled
    have mark := edge c (by simp)
    rw [solid c List.mem_cons_self] at mark
    cases mark
  · rintro ⟨before, first, gap, after, h⟩
    have starts : ∀ c ∈ (gap ++ (word ++ after)).head?, p c = true := by
      obtain ⟨c, others, same⟩ := List.exists_cons_of_ne_nil h.apart
      have separates := h.gap
      rw [same] at separates ⊢
      intro d mem
      obtain rfl : c = d := by simpa using mem
      exact separates c List.mem_cons_self
    rw [h.parts, tokens_append_marks h.before, tokens_word h.filled h.solid starts,
      tokens_append_marks h.gap, tokens_word filled solid h.edge]
    rfl

end HttpFetch.Text
