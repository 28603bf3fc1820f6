import HttpFetch.Proofs.Addresses
import HttpFetch.Proofs.HeadEnd
import HttpFetch.Request.Wire
/-!
# The lines of a request

Nothing looks for ends of lines in the texts that a caller puts into a request. So those that stand in
the head of a request are the ends of its lines and the ones in these texts, and no others
(`Template.occurrences_head`, `count_wireLines`): what comes of an address, a number or credentials
breaks no line. If the texts break none either, each line of the head takes up one line
(`Template.isLine_of_mem_head`), and the first empty line is the last one of the head
(`afterBlank_wireMessage`).
-/

namespace HttpFetch

/-! ## Characters among bytes -/

/-- An ASCII character stands among the bytes of a text as often as in the text. -/
theorem Utf8.count_encode {c : Char} (ascii : c.toNat < 0x80) (text : String) :
    (encode text).count c.toNat.toUInt8 = text.toList.count c := by
  have code : c.toNat.toUInt8.toNat = c.toNat := toNat_toUInt8 (by omega)
  have one (d : Char) : (encodeChar d).count c.toNat.toUInt8 = if d = c then 1 else 0 := by
    split_ifs with same
    · simp [encodeChar, same, ascii]
    · refine List.count_eq_zero.2 fun mem => ?_
      rcases mem_encodeChar mem with equal | large
      · exact same (Char.toNat_inj.1 (equal.symm.trans code))
      · omega
  rw [encode]
  induction text.toList with
  | nil => rfl
  | cons d cs ih =>
    rw [encodeChars_cons, List.count_append, ih, one, List.count_cons, Nat.add_comm]
    simp

/-- How often a character stands in texts. -/
def occurrences (c : Char) (texts : List String) : Nat := (texts.flatMap String.toList).count c

section Occurrences

variable {c : Char}

@[simp] theorem occurrences_nil : occurrences c [] = 0 := rfl

@[simp] theorem occurrences_cons (text : String) (texts : List String) :
    occurrences c (text :: texts) = text.toList.count c + occurrences c texts := by
  rw [occurrences, List.flatMap_cons, List.count_append, occurrences]

@[simp] theorem occurrences_append (texts more : List String) :
    occurrences c (texts ++ more) = occurrences c texts + occurrences c more := by
  rw [occurrences, List.flatMap_append, List.count_append, occurrences, occurrences]

theorem occurrences_flatMap {α : Type} {f g : α → List String} {xs : List α}
    (same : ∀ x ∈ xs, occurrences c (f x) = occurrences c (g x)) :
    occurrences c (xs.flatMap f) = occurrences c (xs.flatMap g) := by
  induction xs with
  | nil => rfl
  | cons x xs ih =>
    rw [List.flatMap_cons, List.flatMap_cons, occurrences_append, occurrences_append,
      same x List.mem_cons_self, ih fun y mem => same y (List.mem_cons_of_mem x mem)]

/-- One text in the place of several. -/
theorem occurrences_map {α : Type} {f : α → String} {g : α → List String} {xs : List α}
    (same : ∀ x ∈ xs, (f x).toList.count c = occurrences c (g x)) :
    occurrences c (xs.map f) = occurrences c (xs.flatMap g) := by
  rw [List.map_eq_flatMap]
  exact occurrences_flatMap fun x mem => by simpa using same x mem

theorem occurrences_eq_zero_iff {texts : List String} :
    occurrences c texts = 0 ↔ ∀ text ∈ texts, c ∉ text.toList := by
  simp only [occurrences, List.count_eq_zero, List.mem_flatMap, not_exists, not_and]

end Occurrences

/-! ## Lines -/

/-- Each line has one end, and what else breaks lines stands in their texts. -/
theorem count_wireLines {b : UInt8} {c : Char} (isBreak : b = 13 ∧ c = '\r' ∨ b = 10 ∧ c = '\n')
    (lines : List String) :
    (wireLines lines).count b = lines.length + occurrences c lines := by
  have code : b = c.toNat.toUInt8 ∧ c.toNat < 0x80 := by
    rcases isBreak with ⟨rfl, rfl⟩ | ⟨rfl, rfl⟩ <;> decide
  have ends : List.count b [13, 10] = 1 := by
    rcases isBreak with ⟨rfl, rfl⟩ | ⟨rfl, rfl⟩ <;> decide
  induction lines with
  | nil => rfl
  | cons line lines ih =>
    have parts : wireLines (line :: lines) =
        Utf8.encode line ++ [13, 10] ++ wireLines lines := rfl
    rw [parts, List.count_append, List.count_append, ends, ih, code.1,
      Utf8.count_encode code.2, occurrences_cons, List.length_cons]
    omega

/-- A line that is not empty is passed over on the way to the first empty one. -/
theorem afterBlankFrom_line {line : Bytes} (filled : line ≠ []) (plain : 10 ∉ line)
    (noReturn : 13 ∉ line) (rest : Bytes) :
    afterBlankFrom true (line ++ [13, 10] ++ rest) = afterBlankFrom true rest := by
  have goesOn {line : Bytes} (plain : 10 ∉ line) (noReturn : 13 ∉ line) :
      afterBlankFrom false (line ++ [13, 10] ++ rest) = afterBlankFrom true rest := by
    induction line with
    | nil => simp [afterBlankFrom]
    | cons b line ih =>
      have other : b ≠ 10 := fun same => plain (same ▸ List.mem_cons_self)
      rw [List.cons_append, List.cons_append, afterBlankFrom, if_neg (by simp [other])]
      simp only [other, decide_false, Bool.false_and, Bool.or_false]
      exact ih (fun mem => plain (List.mem_cons_of_mem b mem))
        fun mem => noReturn (List.mem_cons_of_mem b mem)
  obtain ⟨b, others, rfl⟩ := List.exists_cons_of_ne_nil filled
  have other : b ≠ 10 ∧ b ≠ 13 :=
    ⟨fun same => plain (same ▸ List.mem_cons_self), fun same => noReturn (same ▸ List.mem_cons_self)⟩
  rw [List.cons_append, List.cons_append, afterBlankFrom, if_neg (by simp [other])]
  simp only [other, decide_false, Bool.and_false, Bool.or_false]
  exact goesOn (fun mem => plain (List.mem_cons_of_mem b mem))
    fun mem => noReturn (List.mem_cons_of_mem b mem)

/-- Whether a text has no character that breaks a line. -/
def Unbroken (text : String) : Prop := ∀ c ∈ text.toList, c ≠ '\r' ∧ c ≠ '\n'

instance (text : String) : Decidable (Unbroken text) :=
  decidable_of_iff (text.toList.all (fun c => c ≠ '\r' ∧ c ≠ '\n') = true) (by simp [Unbroken])

/-- A text that takes up one line. -/
structure IsLine (line : String) : Prop where
  filled : line ≠ ""
  unbroken : Unbroken line

theorem IsLine.bytes {line : String} (h : IsLine line) :
    Utf8.encode line ≠ [] ∧ 10 ∉ Utf8.encode line ∧ 13 ∉ Utf8.encode line := by
  refine ⟨fun none => h.filled (Utf8.eq_empty_of_encode none), fun mem => ?_, fun mem => ?_⟩
  · exact Utf8.ne_of_mem_encode (c := '\n') (by decide) (fun d inLine => (h.unbroken d inLine).2)
      mem rfl
  · exact Utf8.ne_of_mem_encode (c := '\r') (by decide) (fun d inLine => (h.unbroken d inLine).1)
      mem rfl

/-- Where each line of a head takes up one line, the first empty line is the one after them. -/
theorem afterBlank_wireMessage {lines : List String} (plain : ∀ line ∈ lines, IsLine line)
    (body : Bytes) : afterBlank (wireMessage lines body) = some body := by
  rw [afterBlank, wireMessage]
  induction lines with
  | nil => rfl
  | cons line lines ih =>
    have parts : wireLines (line :: lines ++ [""]) ++ body =
        Utf8.encode line ++ [13, 10] ++ (wireLines (lines ++ [""]) ++ body) := by
      simp [wireLines]
    obtain ⟨filled, plain', noReturn⟩ := (plain line List.mem_cons_self).bytes
    rw [parts, afterBlankFrom_line filled plain' noReturn]
    exact ih fun next mem => plain next (List.mem_cons_of_mem line mem)

/-! ## Texts that break no line -/

theorem Unbroken.count {text : String} (h : Unbroken text) {c : Char}
    (isBreak : c = '\r' ∨ c = '\n') : text.toList.count c = 0 := by
  refine List.count_eq_zero.2 fun mem => ?_
  rcases isBreak with rfl | rfl
  · exact (h _ mem).1 rfl
  · exact (h _ mem).2 rfl

theorem Unbroken.append {a b : String} (first : Unbroken a) (second : Unbroken b) :
    Unbroken (a ++ b) := by
  intro c mem
  rw [String.toList_append, List.mem_append] at mem
  exact mem.elim (first c) (second c)

theorem unbroken_of_visible {text : String}
    (visible : ∀ c ∈ text.toList, Percent.isVisible c = true) : Unbroken text := by
  refine fun c mem => ⟨?_, ?_⟩ <;> rintro rfl <;> exact absurd (visible _ mem) (by decide)

theorem unbroken_toString (n : Nat) : Unbroken (toString n) := by
  refine fun c mem => ⟨?_, ?_⟩ <;> rintro rfl <;>
    exact absurd (Decimal.isDigit_of_mem_toString mem) (by decide)

namespace Base64

theorem isVisible_letter (n : Nat) : Percent.isVisible (letter n) = true := by
  have small : ∀ n < 64, Percent.isVisible (letter n) = true := by decide
  by_cases fits : n < 64
  · exact small n fits
  · have large : letter n = '/' := by
      rw [letter, if_neg (by omega), if_neg (by omega), if_neg (by omega), if_neg (by omega)]
    rw [large]
    rfl

theorem isVisible_of_mem_encodeChars {bytes : Bytes} {c : Char} (mem : c ∈ encodeChars bytes) :
    Percent.isVisible c = true := by
  fun_induction encodeChars bytes with
  | case1 => cases mem
  | case2 a n =>
    simp only [List.mem_cons, List.not_mem_nil, or_false] at mem
    rcases mem with rfl | rfl | rfl | rfl <;> first | exact isVisible_letter _ | rfl
  | case3 a b n =>
    simp only [List.mem_cons, List.not_mem_nil, or_false] at mem
    rcases mem with rfl | rfl | rfl | rfl <;> first | exact isVisible_letter _ | rfl
  | case4 a b d rest n ih =>
    simp only [List.mem_cons] at mem
    rcases mem with rfl | rfl | rfl | rfl | mem
    · exact isVisible_letter _
    · exact isVisible_letter _
    · exact isVisible_letter _
    · exact isVisible_letter _
    · exact ih mem

end Base64

theorem Credentials.unbroken_basic (credentials : Credentials) : Unbroken credentials.basic := by
  refine Unbroken.append (by decide) (unbroken_of_visible fun c mem => ?_)
  rw [Base64.encode, String.toList_ofList] at mem
  exact Base64.isVisible_of_mem_encodeChars mem

namespace Url

variable {url : Url}

theorem unbroken_path (proper : url.Proper) : Unbroken url.path := by
  refine unbroken_of_visible fun c mem => ?_
  rw [toList_path proper.filled] at mem
  rcases List.mem_cons.1 mem with rfl | mem
  · rfl
  · exact isVisible_of_mem_path proper mem

theorem unbroken_query (proper : url.Proper) : Unbroken (queryText url.query) :=
  unbroken_of_visible fun _ mem => isVisible_of_mem_query proper mem

theorem unbroken_hostHeader (proper : url.Proper) : Unbroken url.hostHeader :=
  unbroken_of_visible fun _ mem =>
    Percent.isVisible_of_keepsAllBut (Host.inHost_of_mem_bracketed proper.host mem)

theorem unbroken_authority (proper : url.Proper) : Unbroken url.authority :=
  ((unbroken_hostHeader proper).append (by decide)).append (unbroken_toString _)

theorem unbroken_origin (proper : url.Proper) : Unbroken url.origin := by
  refine Unbroken.append (Unbroken.append ?_ (by decide)) (unbroken_authority proper)
  cases url.scheme <;> decide

end Url

/-! ## The head of a request -/

namespace Template

/-- The texts of the caller's own that stand in the head of a request: the method, names and values
of arguments and header fields as far as they are sent. -/
def sentTexts (template : Template) : List String :=
  template.method ::
    (template.arguments.entries.flatMap fun (name, value) =>
      (argumentValues value).flatMap fun token => [name, token]) ++
    (template.headers.find? "host").toList ++
    template.ownFields.flatMap fun (name, value) => [name, value]

/-- How many lines there are of credentials. -/
def credentialLines (template : Template) (via : Via) : Nat :=
  (if (active template.httpAuth).isSome then 1 else 0) +
    if via = .forward ∧ (active template.proxyAuth).isSome then 1 else 0

/-- How many lines a head has: the one of the request, `Host`, `Content-Length`, the fields of the
caller's own, those of credentials, and the empty one. -/
def lineCount (template : Template) (via : Via) : Nat :=
  1 + 1 + 1 + template.ownFields.length + template.credentialLines via + 1

section Count

variable {c : Char} {template : Template} {url : Url} {via : Via}

theorem count_queryString (isBreak : c = '\r' ∨ c = '\n') (template : Template) :
    (template.queryString.getD "").toList.count c = occurrences c
      (template.arguments.entries.flatMap fun (name, value) =>
        (argumentValues value).flatMap fun token => [name, token]) := by
  have other : c ≠ '&' := by rcases isBreak with rfl | rfl <;> decide
  have equals : "=".toList.count c = 0 := Unbroken.count (by decide) isBreak
  have joined (pairs : List String) : ("&".intercalate pairs).toList.count c =
      occurrences c pairs := by
    rw [String.toList_intercalate]
    induction pairs with
    | nil => rfl
    | cons pair pairs ih =>
      rcases pairs with _ | ⟨next, pairs⟩
      · simp
      · rw [occurrences_cons, ← ih, List.map_cons, List.map_cons, List.intercalate_cons_cons,
          List.count_append, List.count_append,
          List.count_eq_zero_of_not_mem (l := "&".toList) (by simpa using other)]
        rfl
  have whole : (template.queryString.getD "").toList.count c = occurrences c template.queryPairs := by
    rw [queryString]
    split_ifs with none
    · rw [List.isEmpty_iff.1 none]
      rfl
    · exact joined _
  rw [whole, queryPairs]
  refine occurrences_flatMap fun (name, value) _ => occurrences_map fun token _ => ?_
  simp only [String.toList_append, List.count_append, occurrences_cons, occurrences_nil, equals,
    Nat.add_zero]

/-- A text that stands in a line alone is as good as the line. -/
theorem count_requestLine (isBreak : c = '\r' ∨ c = '\n') (proper : url.Proper)
    (template : Template) (via : Via) :
    (template.requestLine url via).toList.count c =
      template.method.toList.count c + (template.queryString.getD "").toList.count c := by
  have server : (if via = .forward then url.origin else "").toList.count c = 0 := by
    split_ifs
    · exact (Url.unbroken_origin proper).count isBreak
    · rfl
  have space : " ".toList.count c = 0 := Unbroken.count (by decide) isBreak
  have version : protocolVersion.toList.count c = 0 := Unbroken.count (by decide) isBreak
  have path := (Url.unbroken_path proper).count isBreak
  have query := (Url.unbroken_query proper).count isBreak
  have target : (template.target url).toList.count c =
      (template.queryString.getD "").toList.count c := by
    rw [target]
    rcases template.queryString with _ | arguments
    · simp [path, query]
    · have mark : (if url.query.isSome then "&" else "?").toList.count c = 0 := by
        split_ifs <;> exact Unbroken.count (by decide) isBreak
      simp only [String.toList_append, List.count_append, path, query, mark, Option.getD_some]
      omega
  simp only [requestLine, String.toList_append, List.count_append, server, space, version, target]
  omega

theorem count_hostValue (isBreak : c = '\r' ∨ c = '\n') (proper : url.Proper)
    (template : Template) (via : Via) :
    (template.hostValue url via).toList.count c =
      occurrences c (template.headers.find? "host").toList := by
  rw [hostValue]
  rcases template.headers.find? "host" with _ | own
  · split_ifs
    · exact (Url.unbroken_authority proper).count isBreak
    · exact (Url.unbroken_hostHeader proper).count isBreak
  · simp

theorem count_fieldLine (isBreak : c = '\r' ∨ c = '\n') (name value : String) :
    (fieldLine name value).toList.count c = name.toList.count c + value.toList.count c := by
  have mark : ": ".toList.count c = 0 := Unbroken.count (by decide) isBreak
  simp only [fieldLine, String.toList_append, List.count_append, mark]
  omega

theorem occurrences_authLine (isBreak : c = '\r' ∨ c = '\n') {name : String}
    (unbroken : Unbroken name) (auth : Option Credentials) :
    occurrences c (authLine name auth) = 0 := by
  rw [authLine]
  rcases active auth with _ | credentials
  · rfl
  · simp only [occurrences_cons, occurrences_nil, count_fieldLine isBreak, unbroken.count isBreak,
      credentials.unbroken_basic.count isBreak]

/-- **What breaks the lines of a head** stands in the texts of the caller's own. -/
theorem occurrences_head (isBreak : c = '\r' ∨ c = '\n') (proper : url.Proper)
    (template : Template) (via : Via) :
    occurrences c (template.head url via) = occurrences c template.sentTexts := by
  have host : "Host".toList.count c = 0 := Unbroken.count (by decide) isBreak
  have length : "Content-Length".toList.count c = 0 := Unbroken.count (by decide) isBreak
  have own : occurrences c (template.ownFields.map fun (name, value) => fieldLine name value) =
      occurrences c (template.ownFields.flatMap fun (name, value) => [name, value]) := by
    refine occurrences_map fun (name, value) _ => ?_
    simp only [count_fieldLine isBreak, occurrences_cons, occurrences_nil, Nat.add_zero]
  have proxy : occurrences c
      (if via = .forward then authLine "Proxy-Authorization" template.proxyAuth else []) = 0 := by
    split_ifs
    · exact occurrences_authLine isBreak (by decide) _
    · rfl
  simp only [head, sentTexts, occurrences_append, occurrences_cons, occurrences_nil, own, proxy,
    occurrences_authLine isBreak (by decide : Unbroken "Authorization"),
    count_requestLine isBreak proper, count_fieldLine isBreak, host, length,
    count_hostValue isBreak proper, (unbroken_toString _).count isBreak,
    count_queryString isBreak]
  omega

/-- A head has a request line and fields. -/
theorem mem_head {line : String} (mem : line ∈ template.head url via) :
    line = template.requestLine url via ∨ ∃ name value, line = fieldLine name value := by
  have auth {name : String} {auth : Option Credentials} (mem : line ∈ authLine name auth) :
      ∃ name value, line = fieldLine name value := by
    rw [authLine] at mem
    rcases shown : active auth with _ | credentials <;> rw [shown] at mem
    · cases mem
    · exact ⟨_, _, List.mem_singleton.1 mem⟩
  simp only [head, List.mem_append, List.mem_cons, List.not_mem_nil, or_false] at mem
  rcases mem with (((rfl | rfl | rfl) | own) | mem) | mem
  · exact .inl rfl
  · exact .inr ⟨_, _, rfl⟩
  · exact .inr ⟨_, _, rfl⟩
  · obtain ⟨⟨name, value⟩, -, rfl⟩ := List.mem_map.1 own
    exact .inr ⟨_, _, rfl⟩
  · exact .inr (auth mem)
  · split_ifs at mem
    · exact .inr (auth mem)
    · cases mem

theorem ne_empty_of_mem_head {line : String} (mem : line ∈ template.head url via) : line ≠ "" := by
  rintro rfl
  rcases mem_head mem with same | ⟨name, value, same⟩
  · have chars := congrArg String.toList same
    simp [requestLine] at chars
  · have chars := congrArg String.toList same
    simp [fieldLine] at chars

/-- Without a character that breaks a line each line of a head takes up one line. -/
theorem isLine_of_mem_head (proper : url.Proper)
    (plain : ∀ text ∈ template.sentTexts, Unbroken text) :
    ∀ line ∈ template.head url via, IsLine line := by
  intro line mem
  refine ⟨ne_empty_of_mem_head mem, fun c inLine => ?_⟩
  · have none (c : Char) (isBreak : c = '\r' ∨ c = '\n') : c ∉ line.toList := by
      refine occurrences_eq_zero_iff.1 ?_ line mem
      rw [occurrences_head isBreak proper]
      refine occurrences_eq_zero_iff.2 fun text sent inText => ?_
      rcases isBreak with rfl | rfl
      · exact (plain text sent _ inText).1 rfl
      · exact (plain text sent _ inText).2 rfl
    exact ⟨fun same => none c (.inl same) inLine, fun same => none c (.inr same) inLine⟩

theorem length_head (template : Template) (url : Url) (via : Via) :
    (template.head url via).length + 1 = template.lineCount via := by
  have lines (name : String) (auth : Option Credentials) :
      (authLine name auth).length = if (active auth).isSome then 1 else 0 := by
    rw [authLine]
    rcases active auth with _ | credentials <;> rfl
  simp only [head, lineCount, credentialLines, List.length_append, List.length_map, lines]
  split_ifs <;> simp_all

end Count

/-- **Only the caller's own texts break lines.** What stands in front of the body has, of carriage
returns and of line feeds, one for each of its lines and those that stand in the texts of the
caller's own that are sent. If there are none in these, then each line has one end and the only empty
line is the last one. -/
theorem count_lineBreaks {url : Url} (produced : url.Produced) (template : Template) (via : Via) :
    ∃ head, template.request url via = head ++ template.body ∧
      head.count 13 = template.lineCount via + occurrences '\r' template.sentTexts ∧
      head.count 10 = template.lineCount via + occurrences '\n' template.sentTexts ∧
      ((∀ text ∈ template.sentTexts, Unbroken text) →
        head.count 13 = template.lineCount via ∧ head.count 10 = template.lineCount via ∧
          afterBlank (template.request url via) = some template.body) := by
  have proper := produced.proper
  have counts {b : UInt8} {c : Char} (isBreak : b = 13 ∧ c = '\r' ∨ b = 10 ∧ c = '\n') :
      (wireLines (template.head url via ++ [""])).count b =
        template.lineCount via + occurrences c template.sentTexts := by
    have nothing : occurrences c [""] = 0 := rfl
    rw [count_wireLines isBreak, List.length_append, List.length_singleton, length_head,
      occurrences_append, occurrences_head (isBreak.imp And.right And.right) proper, nothing,
      Nat.add_zero]
  refine ⟨wireLines (template.head url via ++ [""]), rfl, counts (.inl ⟨rfl, rfl⟩),
    counts (.inr ⟨rfl, rfl⟩), fun plain => ⟨?_, ?_, ?_⟩⟩
  · rw [counts (.inl ⟨rfl, rfl⟩), occurrences_eq_zero_iff.2 fun text sent mem =>
      (plain text sent _ mem).1 rfl, Nat.add_zero]
  · rw [counts (.inr ⟨rfl, rfl⟩), occurrences_eq_zero_iff.2 fun text sent mem =>
      (plain text sent _ mem).2 rfl, Nat.add_zero]
  · exact afterBlank_wireMessage (isLine_of_mem_head proper plain) template.body

/-- A template with an argument of two words, a field, and a body that looks like ends of lines. -/
theorem count_lineBreaks_five_lines :
    let url : Url :=
      ⟨.http, "", none, .ipv6 ⟨[0, 0, 0, 0, 0, 0, 0, 1], rfl⟩, none, [""], some "q", none⟩
    let template : Template :=
      ⟨"GET", Fields.empty.set "a" "1, 2", Fields.empty.set "X" "y", [13, 10, 13, 10], none, none⟩
    Url.read "http://[::1]?q" = .ok url ∧ (∀ text ∈ template.sentTexts, Unbroken text) ∧
      ∃ head, template.request url .forward = head ++ [13, 10, 13, 10] ∧ head.count 10 = 5 := by
  intro url template
  have read : Url.read "http://[::1]?q" = .ok url := by decide +kernel
  have unbroken : ∀ text ∈ template.sentTexts, Unbroken text :=
    forall_mem_of_all (by decide +kernel)
  obtain ⟨head, parts, -, -, plain⟩ := count_lineBreaks (.read read) template .forward
  exact ⟨read, unbroken, head, parts, (plain unbroken).2.1⟩

/-- A header field whose value goes over two lines. -/
theorem not_lineCount_of_broken_value :
    ¬ ∀ (url : Url), url.Produced → ∀ (template : Template) (via : Via),
      ∃ head, template.request url via = head ++ template.body ∧
        head.count 10 = template.lineCount via ∧
        afterBlank (template.request url via) = some template.body := by
  intro claim
  have read : Url.read "http://[::1]" = .ok ⟨.http, "", none,
      .ipv6 ⟨[0, 0, 0, 0, 0, 0, 0, 1], rfl⟩, none, [""], none, none⟩ := by decide +kernel
  obtain ⟨head, parts, count, -⟩ := claim _ (.read read)
    { headers := Fields.empty.set "X" "a\r\nY: b" } .direct
  rw [List.append_nil] at parts
  rw [← parts] at count
  exact absurd count (by decide +kernel)

end Template

end HttpFetch
