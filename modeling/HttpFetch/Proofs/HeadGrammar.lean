import HttpFetch.Proofs.HeadLines
/-!
# The grammar of a head

A head is a version and a space, a status, fields in lines, and an empty line (`Head.IsHead`); in what
follows the version, carriage returns do not count. A reader has states and not a grammar, so this is
found state by state: carriage returns can be left out (`Reader.after_filter`), the version goes up to
a space (`Reader.exists_version`), the line after it leads to the fields if it has a status
(`Reader.after_status`), and a line with a field leads to the next line (`Reader.after_line`). Put
together, a reader comes to the end of a head exactly if there is one (`Reader.past_start_iff`).

Numbers are read with a sign, so there are more heads than those whose numbers are digits alone
(`Reader.not_endsHead_iff_digits`).
-/

namespace HttpFetch

/-! ## Numbers -/

namespace Decimal

/-- The number that digits stand for, with those of `n` before them. -/
def valueFrom (n : Nat) (digits : List Char) : Nat :=
  digits.foldl (fun n c => n * 10 + (c.toNat - 48)) n

/-- One or more digits, of a number that is not above a limit. -/
structure IsNumber (limit : Nat) (cs : List Char) : Prop where
  filled : cs ≠ []
  digits : ∀ c ∈ cs, Ascii.isDigit c = true
  small : valueFrom 0 cs ≤ limit

/-- Such digits with or without a plus sign in front. -/
def IsSigned (limit : Nat) (cs : List Char) : Prop :=
  IsNumber limit cs ∨ ∃ digits, cs = '+' :: digits ∧ IsNumber limit digits

theorem le_valueFrom (n : Nat) (digits : List Char) : n ≤ valueFrom n digits := by
  induction digits generalizing n with
  | nil => exact Nat.le_refl n
  | cons c digits ih => exact Nat.le_trans (by omega) (ih (n * 10 + (c.toNat - 48)))

/-- Digits are folded onto a number as long as it stays below the limit. -/
theorem exists_readDigits {limit n : Nat} (fits : n ≤ limit) (excess : Fault) (cs : List Char) :
    (∃ m, readDigits limit excess n cs = .ok m) ↔
      (∀ c ∈ cs, Ascii.isDigit c = true) ∧ valueFrom n cs ≤ limit := by
  induction cs generalizing n with
  | nil => simpa [readDigits, valueFrom] using fits
  | cons c cs ih =>
    rw [readDigits, List.forall_mem_cons]
    by_cases digit : Ascii.isDigit c = true
    · by_cases small : n * 10 + (c.toNat - 48) ≤ limit
      · simp only [if_pos small, digit, true_and]
        exact ih small
      · simp only [if_pos digit, if_neg small, reduceCtorEq, exists_false, false_iff, not_and]
        intro _ below
        exact small (Nat.le_trans (le_valueFrom _ cs) below)
    · simp [digit]

theorem exists_readSome (limit : Nat) (excess : Fault) (cs : List Char) :
    (∃ m, readSome limit excess cs = .ok m) ↔ IsNumber limit cs := by
  rw [readSome]
  split_ifs with empty
  · obtain rfl := List.isEmpty_iff.1 empty
    simpa using fun number : IsNumber limit [] => number.filled rfl
  · rw [exists_readDigits (Nat.zero_le limit)]
    exact ⟨fun ⟨digits, small⟩ => ⟨by simpa using empty, digits, small⟩,
      fun number => ⟨number.digits, number.small⟩⟩

/-- **What is read as a number.** -/
theorem exists_readNat (limit : Nat) (cs : List Char) :
    (∃ n, readNat limit cs = .ok n) ↔ IsSigned limit cs := by
  unfold readNat IsSigned
  split
  · have none : ¬ IsNumber limit [] := fun number => number.filled rfl
    simp [none]
  · rename_i rest
    have signed : ¬ IsNumber limit ('+' :: rest) := fun number =>
      absurd (number.digits '+' List.mem_cons_self) (by decide)
    rw [exists_readSome]
    simp [signed]
  · rename_i unsigned
    rw [exists_readSome]
    exact ⟨.inl, fun number => number.resolve_right fun ⟨digits, same, _⟩ => unsigned digits same⟩

end Decimal

/-! ## Heads -/

namespace Head

/-- A line after the first one, without its end. It is not empty, and if its name, which goes up to a
colon, is that of the length of the body, then what follows the colon is a number. -/
structure IsField (number : Nat → List Char → Prop) (line : Bytes) : Prop where
  filled : line ≠ []
  plain : 10 ∉ line
  length :
    Ascii.sameName (Text.trim (Utf8.decodeLossy (line.takeWhile (· ≠ 58)))) "content-length" = true →
    number Decimal.max64
      (Text.trim (Utf8.decodeLossy ((line.dropWhile (· ≠ 58)).drop 1))).toList

/-- What follows the version in the first line: spaces, a word, and then nothing or what a space
separates from the word. -/
structure StatusParts (line blanks status described : Bytes) : Prop where
  parts : line = blanks ++ (status ++ described)
  blank : ∀ b ∈ blanks, b = 32
  solid : 32 ∉ status
  edge : ∀ b ∈ described.head?, b = 32

/-- A line of which the word is a number. -/
def IsStatus (number : Nat → List Char → Prop) (line : Bytes) : Prop :=
  10 ∉ line ∧ ∃ blanks status described, StatusParts line blanks status described ∧
    number Decimal.max16 (Utf8.decodeLossy status).toList

/-- A head, up to the line feed that ends it: a version and a space, a status, fields, and an empty
line. After the version, carriage returns do not count. -/
inductive IsHead (number : Nat → List Char → Prop) : Bytes → Prop where
  | parts {version rest first : Bytes} {lines : List Bytes}
    (plain : ∀ b ∈ version, b ≠ 32 ∧ b ≠ 13 ∧ b ≠ 10)
    (counts : rest.filter (· ≠ 13) = first ++ 10 :: lines.flatMap (· ++ [10]))
    (status : IsStatus number first) (fields : ∀ line ∈ lines, IsField number line) :
    IsHead number (version ++ 32 :: (rest ++ [10]))

/-- Bytes that begin with fields and the empty line after them. -/
def HasFields (number : Nat → List Char → Prop) (bytes : Bytes) : Prop :=
  ∃ (lines : List Bytes) (tail : Bytes), bytes = lines.flatMap (· ++ [10]) ++ 10 :: tail ∧
    ∀ line ∈ lines, IsField number line

section Fields

variable {number : Nat → List Char → Prop}

theorem HasFields.mem {bytes : Bytes} (h : HasFields number bytes) : 10 ∈ bytes := by
  obtain ⟨lines, tail, rfl, -⟩ := h
  exact List.mem_append_right _ List.mem_cons_self

theorem hasFields_emptyLine (rest : Bytes) : HasFields number (10 :: rest) :=
  ⟨[], rest, rfl, by simp⟩

/-- Where the first line ends is known from the bytes. -/
theorem line_unique {a b c d : Bytes} (plain : 10 ∉ a) (plain' : 10 ∉ b)
    (same : a ++ 10 :: c = b ++ 10 :: d) : a = b ∧ c = d := by
  have ends {line : Bytes} (plain : 10 ∉ line) (rest : Bytes) :
      (line ++ 10 :: rest).takeWhile (· ≠ 10) = line ∧
        (line ++ 10 :: rest).dropWhile (· ≠ 10) = 10 :: rest := by
    have inLine : ∀ b ∈ line, decide (b ≠ 10) = true := fun b mem => by
      simpa using fun same : b = 10 => plain (same ▸ mem)
    rw [List.takeWhile_append_of_pos inLine, List.dropWhile_append_of_pos inLine]
    simp
  obtain ⟨first, later⟩ := ends plain c
  obtain ⟨first', later'⟩ := ends plain' d
  rw [same] at first later
  exact ⟨first.symm.trans first', (List.cons.inj (later.symm.trans later')).2⟩

/-- The first of the lines goes up to the first line feed. -/
theorem hasFields_line {line : Bytes} (plain : 10 ∉ line) (filled : line ≠ []) (rest : Bytes) :
    HasFields number (line ++ 10 :: rest) ↔ IsField number line ∧ HasFields number rest := by
  constructor
  · rintro ⟨_ | ⟨first, lines⟩, tail, parts, fields⟩
    · exact absurd (line_unique (b := []) plain List.not_mem_nil parts).1 filled
    · obtain ⟨isField, others⟩ := List.forall_mem_cons.1 fields
      rw [List.flatMap_cons, List.append_assoc, List.append_assoc, List.singleton_append] at parts
      obtain ⟨rfl, rfl⟩ := line_unique plain isField.plain parts
      exact ⟨isField, lines, tail, rfl, others⟩
  · rintro ⟨isField, lines, tail, parts, fields⟩
    refine ⟨line :: lines, tail, ?_, List.forall_mem_cons.2 ⟨isField, fields⟩⟩
    rw [parts]
    simp

end Fields

/-! ## The parts of the first line -/

section Status

variable {line blanks status described : Bytes}

/-- Every line has such parts, and a description only if there is a word in front of it. -/
theorem exists_statusParts (line : Bytes) : ∃ blanks status described,
    StatusParts line blanks status described ∧ (status = [] → described = []) := by
  have front := List.takeWhile_append_dropWhile (p := fun b : UInt8 => b = 32) (l := line)
  have unblank := List.head?_dropWhile_not (fun b : UInt8 => b = 32) line
  generalize line.dropWhile (· = 32) = rest at front unblank
  have back := List.takeWhile_append_dropWhile (p := fun b : UInt8 => b ≠ 32) (l := rest)
  refine ⟨line.takeWhile (· = 32), rest.takeWhile (· ≠ 32), rest.dropWhile (· ≠ 32),
    ⟨?_, ?_, ?_, ?_⟩, fun none => ?_⟩
  · rw [back, front]
  · exact fun b mem => by simpa using List.mem_takeWhile_imp mem
  · exact fun mem => by simpa using List.mem_takeWhile_imp mem
  · intro b mem
    have stops := List.head?_dropWhile_not (fun b : UInt8 => b ≠ 32) rest
    rw [mem] at stops
    simpa using stops
  · rcases rest with _ | ⟨b, rest⟩
    · rfl
    · have starts : b ≠ 32 := by simpa using unblank
      simp [starts] at none

/-- It is known which word that is. -/
theorem StatusParts.status_eq (h : StatusParts line blanks status described)
    (whole : status = [] → described = []) :
    (line.dropWhile (· = 32)).takeWhile (· ≠ 32) = status := by
  have solid : ∀ c ∈ status, decide (c ≠ 32) = true := fun c mem => by
    simpa using fun space : c = 32 => h.solid (space ▸ mem)
  rw [h.parts, List.dropWhile_append_of_pos fun c mem => by simpa using h.blank c mem]
  rcases status with _ | ⟨b, status⟩
  · rw [whole rfl]
    rfl
  · have starts : b ≠ 32 := fun space => h.solid (space ▸ List.mem_cons_self)
    rw [List.cons_append, List.dropWhile_cons_of_neg (by simpa using starts), ← List.cons_append,
      List.takeWhile_append_of_pos solid]
    rcases described with _ | ⟨c, described⟩
    · exact List.append_nil _
    · simp [h.edge c rfl]

/-- So it is the one that has to be a number. -/
theorem isStatus_iff {number : Nat → List Char → Prop} (none : ¬ number Decimal.max16 [])
    (plain : 10 ∉ line) (h : StatusParts line blanks status described)
    (whole : status = [] → described = []) :
    IsStatus number line ↔ number Decimal.max16 (Utf8.decodeLossy status).toList := by
  refine ⟨fun ⟨_, _, status', _, h', isNumber⟩ => ?_, fun isNumber => ⟨plain, _, _, _, h, isNumber⟩⟩
  have same := h'.status_eq fun empty => by
    rw [empty] at isNumber
    exact absurd isNumber none
  rw [← h.status_eq whole, same]
  exact isNumber

end Status

end Head

namespace Reader

variable {r : Reader} {bytes : Bytes}

/-! ## Where the head ends -/

/-- An error leaves the reader in the head. -/
theorem isHead_of_error (head : r.phase.isHead = true) {taken : Nat} {e : TransferError}
    (h : (r.feedFrom taken bytes).1 = .error e) : (r.feedFrom taken bytes).2.phase.isHead = true := by
  induction bytes generalizing r taken with
  | nil =>
    simp only [feedFrom] at h
    cases h
  | cons b rest ih =>
    have takes := takes_step head b
    rw [feedFrom_head head] at h ⊢
    rcases step : r.step b with ⟨e | ended, next⟩ <;> rw [step] at h takes
    · exact takes.isHead_of_error head
    cases ended
    · exact ih (takes.isHead head) h
    · cases h

/-- Whether a portion brings the head to its end, after so many bytes of it. -/
def EndsHead (r : Reader) (bytes : Bytes) (k : Nat) : Prop :=
  (r.feed bytes).1 = .ok (.headEnded k) ∨ (r.feed bytes).1 = .ok (.done k)

/-- A portion brings the head to its end exactly if the reader leaves the head. -/
theorem exists_endsHead (head : r.phase.isHead = true) :
    (∃ k, r.EndsHead bytes k) ↔ (r.after bytes).phase.isHead = false := by
  have failed (e : TransferError) (h : (r.feedFrom 0 bytes).1 = .error e) :=
    isHead_of_error head h
  rw [after]
  simp only [EndsHead]
  rcases fed : r.feed bytes with ⟨e | _ | k | k, next⟩
  · rw [feed] at fed
    simp [fed] at failed
    simp [failed]
  · simp [feedFrom_needMore head fed]
  · simp [(feedFrom_headEnded fed).1]
  · simp [feedFrom_ended fed, Phase.isHead]

/-- The bytes after the end of the head have no part in it. -/
theorem feedFrom_take {next : Reader} (head : r.phase.isHead = true) {taken k : Nat} {feed : Feed}
    (fed : r.feedFrom taken bytes = (.ok feed, next))
    (final : feed = .headEnded k ∨ feed = .done k) :
    ∃ j, k = taken + j ∧ j ≤ bytes.length ∧
      r.feedFrom taken (bytes.take j) = (.ok feed, next) := by
  induction bytes generalizing r taken with
  | nil =>
    rw [feedFrom, if_neg (Phase.ne_done head)] at fed
    cases fed
    rcases final with final | final <;> cases final
  | cons b rest ih =>
    have takes := takes_step head b
    rw [feedFrom_head head] at fed
    rcases step : r.step b with ⟨e | ended, after⟩ <;> rw [step] at fed takes
    · cases fed
    cases ended with
    | false =>
      obtain ⟨j, rfl, within, same⟩ := ih (takes.isHead head) fed
      refine ⟨j + 1, by omega, Nat.succ_le_succ within, ?_⟩
      rw [List.take_succ_cons, feedFrom_head head, step]
      exact same
    | true =>
      refine ⟨1, ?_, Nat.succ_le_succ (Nat.zero_le _), ?_⟩
      · simp only [Prod.mk.injEq, Except.ok.injEq] at fed
        obtain ⟨rfl, -⟩ := fed
        rcases final with final | final <;> split_ifs at final <;> cases final <;> rfl
      · rw [List.take_succ_cons, feedFrom_head head, step]
        exact fed

theorem EndsHead.take (head : r.phase.isHead = true) {k : Nat} (h : r.EndsHead bytes k) :
    k ≤ bytes.length ∧ r.EndsHead (bytes.take k) k := by
  obtain ⟨feed, final, fed⟩ : ∃ feed, (feed = .headEnded k ∨ feed = .done k) ∧
      (r.feed bytes).1 = .ok feed := by
    rcases h with fed | fed
    · exact ⟨_, .inl rfl, fed⟩
    · exact ⟨_, .inr rfl, fed⟩
  have whole : r.feedFrom 0 bytes = (.ok feed, (r.feed bytes).2) := Prod.ext fed rfl
  obtain ⟨j, same, within, fed'⟩ := feedFrom_take head whole final
  obtain rfl : k = j := same.trans (Nat.zero_add j)
  refine ⟨within, ?_⟩
  rw [EndsHead, Reader.feed, fed']
  rcases final with rfl | rfl
  · exact .inl rfl
  · exact .inr rfl

/-- A head ends at one place, whatever follows. -/
theorem EndsHead.append {k : Nat} (h : r.EndsHead bytes k) (more : Bytes) :
    r.EndsHead (bytes ++ more) k := by
  rcases h with fed | fed
  · exact .inl (by rw [feed_append_of_ended fed (by simp) more, fed])
  · exact .inr (by rw [feed_append_of_ended fed (by simp) more, fed])

theorem EndsHead.unique {j k : Nat} (h : r.EndsHead bytes j) (h' : r.EndsHead bytes k) :
    j = k := by
  rcases h with fed | fed <;> rcases h' with fed' | fed' <;> rw [fed] at fed' <;> cases fed' <;> rfl

/-! ## The lines of a head -/

/-- After the version carriage returns do not count. -/
theorem after_filter (head : r.phase.isHead = true) (past : r.phase ≠ .version) (bytes : Bytes) :
    r.after (bytes.filter (· ≠ 13)) = r.after bytes := by
  induction bytes generalizing r with
  | nil => rfl
  | cons b rest ih =>
    have takes := takes_step head b
    by_cases skip : b = 13
    · have step : r.step b = (.ok false, r) := by
        rw [Reader.step]
        cases phase : r.phase <;> simp [skip, phase, Phase.isHead] at head past ⊢
      rw [after_step head step, ← ih head past, List.filter_cons_of_neg (by simp [skip])]
    · rw [List.filter_cons_of_pos (by simpa using skip)]
      rcases step : r.step b with ⟨outcome, next⟩
      rw [step] at takes
      by_cases goesOn : outcome = .ok false
      · rw [goesOn] at step takes
        have past' : next.phase ≠ .version := by
          cases takes with
          | status _ ends => rcases ends with ⟨-, rfl⟩ | ⟨-, rfl⟩ <;> simp
          | skipped | blank | kept | keptValue => exact past
          | version => simp
          | _ => exact Phase.noConfusion
        rw [after_step head step, after_step head step, ih (takes.isHead head) past']
      · rw [after_stop head step goesOn, after_stop head step goesOn]

theorem lineText_of_plain {line : Bytes} (noReturn : 13 ∉ line) :
    lineText line = Text.trim (Utf8.decodeLossy line) := by
  have all : line.filter (· ≠ 13) = line := List.filter_eq_self.2 fun b mem => by
    simpa using fun same : b = 13 => noReturn (same ▸ mem)
  rw [lineText, all]

/-- What a reader asks of a line. -/
theorem isField_iff {line : Bytes} (noReturn : 13 ∉ line) (plain : 10 ∉ line)
    (filled : line ≠ []) :
    Head.IsField Decimal.IsSigned line ↔ ∀ name value, fieldOf? line = some (name, value) →
      isLengthName name = true → ∃ n, Decimal.readNat Decimal.max64 value.toList = .ok n := by
  have nameText : Text.trim (Utf8.decodeLossy (line.takeWhile (· ≠ 58))) =
      lineText (line.takeWhile (· ≠ 58)) :=
    (lineText_of_plain fun mem => noReturn (List.takeWhile_subset _ mem)).symm
  have valueText : Text.trim (Utf8.decodeLossy ((line.dropWhile (· ≠ 58)).drop 1)) =
      lineText ((line.dropWhile (· ≠ 58)).drop 1) :=
    (lineText_of_plain fun mem =>
      noReturn (List.dropWhile_subset _ (List.drop_subset 1 _ mem))).symm
  simp only [Decimal.exists_readNat]
  constructor
  · intro isField name value field named
    rw [fieldOf?] at field
    split_ifs at field
    obtain ⟨rfl, rfl⟩ := Prod.mk.inj (Option.some.inj field)
    rw [← nameText] at named
    rw [← valueText]
    exact isField.length named
  · refine fun length => ⟨filled, plain, fun named => ?_⟩
    rw [nameText] at named
    rw [valueText]
    refine length _ _ ?_ named
    rw [fieldOf?, if_neg]
    intro nameless
    rw [String.isEmpty_iff.1 nameless] at named
    exact absurd named (by decide)

/-- **A line with a field** leads to the next line, and one that should have a number and does not
leads nowhere. -/
theorem after_line (atField : r.AtField) {line : Bytes} (noReturn : 13 ∉ line) (plain : 10 ∉ line)
    (filled : line ≠ []) (rest : Bytes) :
    (Head.IsField Decimal.IsSigned line ∧
      ∃ next : Reader, next.AtField ∧ r.after (line ++ 10 :: rest) = next.after rest) ∨
    (¬ Head.IsField Decimal.IsSigned line ∧
      (r.after (line ++ 10 :: rest)).phase.isHead = true) := by
  have filled' : ¬ ∀ b ∈ line, b = 13 := fun returns => by
    obtain ⟨b, others, rfl⟩ := List.exists_cons_of_ne_nil filled
    exact noReturn (returns b List.mem_cons_self ▸ List.mem_cons_self)
  rw [isField_iff noReturn plain filled]
  rcases field : fieldOf? line with _ | ⟨name, value⟩
  · exact .inl ⟨nofun, r, atField, after_nameless atField plain filled' field rest⟩
  have asked : (∀ name' value', some (name, value) = some (name', value') →
        isLengthName name' = true → ∃ n, Decimal.readNat Decimal.max64 value'.toList = .ok n) ↔
      (isLengthName name = true → ∃ n, Decimal.readNat Decimal.max64 value.toList = .ok n) :=
    ⟨fun h => h name value rfl, fun h name' value' same => by cases same; exact h⟩
  rw [asked]
  by_cases length : isLengthName name = true
  · rcases number : Decimal.readNat Decimal.max64 value.toList with e | n
    · refine .inr ⟨fun h => ?_, after_noLength atField plain field length number rest⟩
      obtain ⟨n, read⟩ := h length
      cases read
    · exact .inl ⟨fun _ => ⟨n, rfl⟩,
        { r with contentLength := some n, sink := r.sink.addHeader name value },
        ⟨atField.phase, atField.token, atField.value⟩,
        after_length atField plain field length number rest⟩
  · rw [Bool.not_eq_true] at length
    refine .inl ⟨fun named => ?_, { r with sink := r.sink.addHeader name value },
      ⟨atField.phase, atField.token, atField.value⟩, after_plain atField plain field length rest⟩
    rw [length] at named
    cases named

/-- **The lines after the first one**, of bytes without carriage returns. -/
theorem past_fields_iff (atField : r.AtField) (noReturn : 13 ∉ bytes) :
    (r.after bytes).phase.isHead = false ↔ Head.HasFields Decimal.IsSigned bytes := by
  have head {r : Reader} (atField : r.AtField) : r.phase.isHead = true := by
    rw [atField.phase]
    rfl
  induction bytes using lines_induction generalizing r with
  | open' bytes plain =>
    rw [isHead_after_line (head atField) plain]
    exact ⟨nofun, fun h => absurd h.mem plain⟩
  | line line rest plain ih =>
    have noReturn' : 13 ∉ line ∧ 13 ∉ rest :=
      ⟨fun mem => noReturn (List.mem_append_left _ mem),
        fun mem => noReturn (List.mem_append_right _ (List.mem_cons_of_mem 10 mem))⟩
    by_cases filled : line = []
    · subst filled
      rw [after_emptyLine atField (by simp)]
      refine ⟨fun _ => Head.hasFields_emptyLine rest, fun _ => ?_⟩
      rcases length : r.contentLength with _ | n
      · simp [finishHead, length, Phase.isHead]
      · simp only [finishHead, length]
        split_ifs <;> rfl
    · rw [Head.hasFields_line plain filled]
      rcases after_line atField noReturn'.1 plain filled rest with
        ⟨isField, next, atField', goesOn⟩ | ⟨noField, stays⟩
      · rw [goesOn]
        exact (ih atField' noReturn'.2).trans (and_iff_right isField).symm
      · simp [stays, noField]

/-! ## The first line -/

/-- A description goes up to the end of the line. -/
theorem after_description (phase : r.phase = .description) (value : r.value = #[])
    {text : Bytes} (plain : 10 ∉ text) (rest : Bytes) :
    ∃ next : Reader, next.AtField ∧ r.after (text ++ 10 :: rest) = next.after rest := by
  have head : r.phase.isHead = true := by rw [phase]; rfl
  have keeps : ∀ b ∈ text, Keeps r.phase b := fun b mem => by
    rw [phase]
    exact keeps_description fun line => plain (line ▸ mem)
  have step : (r.keepAll text).step 10 = (.ok false, (r.keepAll text).finishDescription) := by
    simp [Reader.step, keepAll, phase]
  exact ⟨(r.keepAll text).finishDescription, ⟨rfl, rfl, value⟩, by
    rw [after_keeps head keeps, after_step (r := r.keepAll text) head step]⟩

/-- The word of a status is read after the blanks in front of it. -/
theorem after_statusParts (phase : r.phase = .status) (empty : r.token = #[])
    {line blanks status described : Bytes} (h : Head.StatusParts line blanks status described)
    (plain : 10 ∉ line) (rest : Bytes) :
    r.after (line ++ rest) = (r.keepAll status).after (described ++ rest) := by
  have blank : ∀ b ∈ blanks, StatusLine.isBlank b = true := fun b mem => by
    simp [StatusLine.isBlank, h.blank b mem]
  have keeps : ∀ b ∈ status, Keeps r.phase b := fun b mem => by
    have inLine : b ∈ line :=
      h.parts ▸ List.mem_append_right _ (List.mem_append_left _ mem)
    rw [phase]
    exact keeps_status (fun same => h.solid (same ▸ mem)) fun same => plain (same ▸ inLine)
  rw [h.parts, List.append_assoc, List.append_assoc, after_blanks phase empty blank,
    after_keeps (by rw [phase]; rfl) keeps]

/-- **The first line after the version** leads to the fields if it has a number where it should. -/
theorem after_status (phase : r.phase = .status) (empty : r.token = #[]) (value : r.value = #[])
    {line : Bytes} (noReturn : 13 ∉ line) (plain : 10 ∉ line) (rest : Bytes) :
    (Head.IsStatus Decimal.IsSigned line ∧
      ∃ next : Reader, next.AtField ∧ r.after (line ++ 10 :: rest) = next.after rest) ∨
    (¬ Head.IsStatus Decimal.IsSigned line ∧
      (r.after (line ++ 10 :: rest)).phase.isHead = true) := by
  obtain ⟨blanks, status, described, parts, whole⟩ := Head.exists_statusParts line
  have kept : (r.keepAll status).token = status.toArray := by
    have all : status.filter (· ≠ 13) = status := List.filter_eq_self.2 fun b mem => by
      rw [parts.parts] at noReturn
      simpa using fun same : b = 13 => noReturn (same ▸ by simp [mem])
    rw [keepAll, empty, all]
    simp
  have none : ¬ Decimal.IsSigned Decimal.max16 [] := by
    rw [← Decimal.exists_readNat]
    rintro ⟨n, read⟩
    cases read
  have isStatus : Head.IsStatus Decimal.IsSigned line ↔
      ∃ n, Decimal.readNat Decimal.max16 (textOf (r.keepAll status).token).toList = .ok n := by
    rw [Head.isStatus_iff none plain parts whole, kept, textOf, Decimal.exists_readNat]
  rw [after_statusParts phase empty parts plain, isStatus]
  have phase' : (r.keepAll status).phase = .status := phase
  rcases described with _ | ⟨b, text⟩
  · have ends := after_status_end phase' (.inr ⟨rfl, rfl⟩) rest
    rw [List.nil_append]
    rcases number : Decimal.readNat Decimal.max16 (textOf (r.keepAll status).token).toList with
      e | n <;> simp only [number] at ends
    · refine .inr ⟨?_, ?_⟩
      · rintro ⟨n, read⟩
        cases read
      · rw [ends]
        simp [phase', Phase.isHead]
    · refine .inl ⟨⟨n, rfl⟩, _, ?_, ends⟩
      exact ⟨rfl, rfl, value⟩
  · obtain rfl : b = 32 := parts.edge b rfl
    have filled : (r.keepAll status).token.isEmpty = false := by
      rw [kept]
      simpa using fun none : status = [] => List.cons_ne_nil 32 text (whole none)
    have ends := after_status_end phase' (.inl ⟨rfl, filled, rfl⟩) (text ++ 10 :: rest)
    rw [List.cons_append]
    rcases number : Decimal.readNat Decimal.max16 (textOf (r.keepAll status).token).toList with
      e | n <;> simp only [number] at ends
    · refine .inr ⟨?_, ?_⟩
      · rintro ⟨n, read⟩
        cases read
      · rw [ends]
        simp [phase', Phase.isHead]
    · rw [ends]
      refine .inl ⟨⟨n, rfl⟩, after_description ?_ ?_ ?_ rest⟩
      · rfl
      · exact value
      · rw [parts.parts] at plain
        exact fun mem => plain (by simp [mem])

/-! ## Whole heads -/

/-- **The bytes after the version** of a head that comes to its end. -/
theorem past_status_iff (phase : r.phase = .status) (empty : r.token = #[])
    (value : r.value = #[]) (noReturn : 13 ∉ bytes) :
    (r.after bytes).phase.isHead = false ↔ ∃ line rest, bytes = line ++ 10 :: rest ∧
      Head.IsStatus Decimal.IsSigned line ∧ Head.HasFields Decimal.IsSigned rest := by
  have head : r.phase.isHead = true := by rw [phase]; rfl
  rcases StatusLine.until_or 10 bytes with ⟨none, -⟩ | ⟨-, rest, ends⟩
  · rw [isHead_after_line head none]
    refine ⟨nofun, ?_⟩
    rintro ⟨line, rest, rfl, -⟩
    exact absurd (List.mem_append_right line List.mem_cons_self) none
  have parts := List.takeWhile_append_dropWhile (p := fun b : UInt8 => b ≠ 10) (l := bytes)
  have plain : 10 ∉ bytes.takeWhile (· ≠ 10) := fun mem => by
    simpa using List.mem_takeWhile_imp mem
  rw [ends] at parts
  generalize bytes.takeWhile (· ≠ 10) = line at parts plain
  subst parts
  have noReturn' : 13 ∉ line ∧ 13 ∉ rest :=
    ⟨fun mem => noReturn (List.mem_append_left _ mem),
      fun mem => noReturn (List.mem_append_right _ (List.mem_cons_of_mem 10 mem))⟩
  have only : (∃ line' rest', line ++ 10 :: rest = line' ++ 10 :: rest' ∧
        Head.IsStatus Decimal.IsSigned line' ∧ Head.HasFields Decimal.IsSigned rest') ↔
      Head.IsStatus Decimal.IsSigned line ∧ Head.HasFields Decimal.IsSigned rest := by
    refine ⟨?_, fun h => ⟨line, rest, rfl, h⟩⟩
    rintro ⟨line', rest', same, isStatus, hasFields⟩
    obtain ⟨rfl, rfl⟩ := Head.line_unique plain isStatus.1 same
    exact ⟨isStatus, hasFields⟩
  rw [only]
  rcases after_status phase empty value noReturn'.1 plain rest with
    ⟨isStatus, next, atField, goesOn⟩ | ⟨noStatus, stays⟩
  · rw [goesOn, past_fields_iff atField noReturn'.2]
    exact (and_iff_right isStatus).symm
  · simp [stays, noStatus]

/-- A version goes up to a space. -/
theorem exists_after_version (phase : r.phase = .version) (value : r.value = #[]) {version : Bytes}
    (plain : ∀ b ∈ version, b ≠ 32 ∧ b ≠ 13 ∧ b ≠ 10) :
    ∃ next : Reader, next.phase = .status ∧ next.token = #[] ∧ next.value = #[] ∧
      ∀ rest, r.after (version ++ 32 :: rest) = next.after rest := by
  have head : r.phase.isHead = true := by rw [phase]; rfl
  have keeps : ∀ b ∈ version, Keeps r.phase b := fun b mem => by
    rw [phase]
    exact keeps_version (plain b mem).1 (plain b mem).2.1 (plain b mem).2.2
  have step : (r.keepAll version).step 32 = (.ok false, (r.keepAll version).finishVersion) := by
    simp [Reader.step, keepAll, phase]
  refine ⟨(r.keepAll version).finishVersion, rfl, rfl, value, fun rest => ?_⟩
  rw [after_keeps head keeps, after_step (r := r.keepAll version) head step]

/-- In a head that comes to its end there is such a version. -/
theorem exists_version (phase : r.phase = .version)
    (past : (r.after bytes).phase.isHead = false) : ∃ version rest,
      bytes = version ++ 32 :: rest ∧ ∀ b ∈ version, b ≠ 32 ∧ b ≠ 13 ∧ b ≠ 10 := by
  have head : r.phase.isHead = true := by rw [phase]; rfl
  induction bytes generalizing r with
  | nil =>
    rw [after_nil, head] at past
    cases past
  | cons b rest ih =>
    by_cases space : b = 32
    · exact ⟨[], rest, by rw [space]; rfl, by simp⟩
    by_cases ends : b = 13 ∨ b = 10
    · have step : r.step b = (.error (.malformedResponse .version), r) := by
        simp [Reader.step, phase, space, ends]
      rw [after_stop head step (by simp), head] at past
      cases past
    · rw [not_or] at ends
      rw [after_step head (keeps_version space ends.1 ends.2 r phase), if_neg ends.1] at past
      obtain ⟨version, rest', parts, plain⟩ := ih (r := r.keep b) phase past head
      exact ⟨b :: version, rest', by rw [parts]; rfl,
        List.forall_mem_cons.2 ⟨⟨space, ends⟩, plain⟩⟩

/-- **A head comes to its end** exactly if bytes begin with one. -/
theorem past_start_iff (size : Nat) (sink : Sink) (bytes : Bytes) :
    ((start size sink).after bytes).phase.isHead = false ↔
      ∃ head, head <+: bytes ∧ Head.IsHead Decimal.IsSigned head := by
  constructor
  · intro past
    obtain ⟨version, rest, rfl, plain⟩ := exists_version rfl past
    obtain ⟨next, phase, empty, value, same⟩ :=
      exists_after_version (r := start size sink) rfl rfl plain
    rw [same, ← after_filter (by rw [phase]; rfl) (by simp [phase]),
      past_status_iff phase empty value (by simp)] at past
    obtain ⟨line, _, parts, status, lines, tail, rfl, fields⟩ := past
    rw [← List.cons_append, ← List.append_assoc] at parts
    obtain ⟨before, after, rfl, counts, ends⟩ := List.filter_eq_append_iff.1 parts
    obtain ⟨returns, later, rfl, skipped, -, -⟩ := List.filter_eq_cons_iff.1 ends
    refine ⟨version ++ 32 :: (before ++ returns ++ [10]), ⟨later, by simp⟩,
      .parts plain ?_ status fields⟩
    rw [List.filter_append, List.filter_eq_nil_iff.2 skipped, List.append_nil, counts]
  · rintro ⟨_, ⟨more, rfl⟩, isHead⟩
    obtain @⟨version, rest, first, lines, plain, counts, status, fields⟩ := isHead
    obtain ⟨next, phase, empty, value, same⟩ :=
      exists_after_version (r := start size sink) rfl rfl plain
    rw [List.append_assoc, List.cons_append, List.append_assoc, same,
      ← after_filter (by rw [phase]; rfl) (by simp [phase]),
      past_status_iff phase empty value (by simp), List.filter_append, counts]
    refine ⟨first, _, ?_, status, lines, more.filter (· ≠ 13), rfl, fields⟩
    simp

/-- **Which heads are read.** A reader comes to the end of a head exactly if the bytes begin with a
version, a status that is a number of 16 bits, and fields of which every one that tells the length of
the body has a number of 64 bits; and then the end is the one of these bytes. A number may have a plus
sign in front of its digits. -/
theorem endsHead_iff_isHead (size : Nat) (sink : Sink) (bytes : Bytes) :
    ((∃ k, (start size sink).EndsHead bytes k) ↔
      ∃ head, head <+: bytes ∧ Head.IsHead Decimal.IsSigned head) ∧
    ∀ k, (start size sink).EndsHead bytes k →
      k ≤ bytes.length ∧ Head.IsHead Decimal.IsSigned (bytes.take k) := by
  have reads (bytes : Bytes) : (∃ k, (start size sink).EndsHead bytes k) ↔
      ∃ head, head <+: bytes ∧ Head.IsHead Decimal.IsSigned head :=
    (exists_endsHead rfl).trans (past_start_iff size sink bytes)
  refine ⟨reads bytes, fun k ends => ?_⟩
  obtain ⟨within, ends'⟩ := ends.take rfl
  refine ⟨within, ?_⟩
  obtain ⟨head, ⟨more, parts⟩, isHead⟩ := (reads (bytes.take k)).1 ⟨k, ends'⟩
  obtain ⟨j, alone⟩ := (reads head).2 ⟨head, List.prefix_rfl, isHead⟩
  have same : j = k := EndsHead.unique (parts ▸ alone.append more) ends'
  have whole : (head ++ more).length = k := by rw [parts, List.length_take_of_le within]
  have longer := (alone.take rfl).1
  obtain rfl : more = [] := by
    rw [List.length_append] at whole
    exact List.length_eq_zero_iff.1 (by omega)
  rwa [← parts, List.append_nil]

/-- A head with carriage returns and a length, and the bytes after it. -/
theorem isHead_of_five_bytes :
    (start 1 (.inMemory "")).EndsHead
      (Utf8.encode "V  200 O\r\ncontent-length : 5\r\n\r\nhello") 32 ∧
    Head.IsHead Decimal.IsSigned
      ((Utf8.encode "V  200 O\r\ncontent-length : 5\r\n\r\nhello").take 32) := by
  have ends : (start 1 (.inMemory "")).EndsHead
      (Utf8.encode "V  200 O\r\ncontent-length : 5\r\n\r\nhello") 32 := .inl (by rfl)
  exact ⟨ends, ((endsHead_iff_isHead 1 (.inMemory "") _).2 32 ends).2⟩

/-- A status with a plus sign in front of it is read, and so more heads than those with digits
alone. -/
theorem not_endsHead_iff_digits : ¬ ∀ (size : Nat) (sink : Sink) (bytes : Bytes),
    (∃ k, (start size sink).EndsHead bytes k) ↔
      ∃ head, head <+: bytes ∧ Head.IsHead Decimal.IsNumber head := by
  intro claim
  have ends : (start 1 (.inMemory "")).EndsHead [86, 32, 43, 50, 48, 48, 10, 10] 8 := .inl rfl
  obtain ⟨_, ⟨more, parts⟩, isHead⟩ := (claim _ _ _).1 ⟨8, ends⟩
  obtain @⟨version, rest, first, lines, plain, counts, status, -⟩ := isHead
  obtain ⟨-, blanks, status, described, isParts, isNumber⟩ := status
  obtain ⟨b, status, rfl⟩ : ∃ b others, status = b :: others :=
    List.exists_cons_of_ne_nil fun empty => isNumber.filled (by rw [empty]; rfl)
  obtain rfl : b = 43 := by
    rcases version with _ | ⟨v, _ | ⟨w, version⟩⟩
    · simp at parts
    · rcases rest with _ | ⟨c, rest⟩
      · simp at parts
      · obtain ⟨-, rfl, -⟩ : v = 86 ∧ c = 43 ∧ _ := by simpa using parts
        rw [isParts.parts, List.filter_cons_of_pos (by decide)] at counts
        rcases blanks with _ | ⟨blank, blanks⟩
        · exact (List.cons.inj counts).1.symm
        · have space := isParts.blank blank List.mem_cons_self
          rw [← (List.cons.inj counts).1] at space
          cases space
    · obtain ⟨-, rfl, -⟩ : v = 86 ∧ w = 32 ∧ _ := by simpa using parts
      exact absurd rfl (plain 32 (by simp)).1
  have sign : '+' ∈ (Utf8.decodeLossy (43 :: status)).toList := by
    simp [Utf8.decodeLossy, Utf8.decodeFrom, Utf8.step, Utf8.start]
  exact absurd (isNumber.digits '+' sign) (by decide)

end Reader
end HttpFetch
