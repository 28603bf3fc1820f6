import HttpFetch.Proofs.Hosts
import HttpFetch.Url.Read
import Mathlib.Data.List.TakeWhile
/-!
# Addresses that are written and read again

Every hop of a transfer goes through the text of an address: it is stored where the response is kept
and read from there. `Url.Proper` is what `Url.read` and `Url.join` ensure of the parts of an
address (`Url.Produced.proper`), and it is enough for the way back (`Url.read_text`,
`Url.read_origin`): reading the text of a proper address gives the address without its user
information and its fragment.
-/

namespace HttpFetch

/-- What a function makes of a result is made of a result. -/
theorem exists_of_map_ok {ε α β : Type} {f : α → β} {x : Except ε α} {b : β} (h : x.map f = .ok b) :
    ∃ a, x = .ok a ∧ f a = b := by
  cases x with
  | error e => cases h
  | ok a =>
    cases h
    exact ⟨a, rfl, rfl⟩

/-! ## Paths -/

namespace Path

/-- A segment as it stands in an address: nothing in it has to be escaped or separates, and it is
neither a dot nor a double dot. -/
structure IsSegment (segment : List Char) : Prop where
  kept : ∀ c ∈ segment, Percent.inPath c = true ∧ isSlash c = false
  noDot : isDot segment = false
  noDoubleDot : isDoubleDot segment = false

theorem isSegment_nil : IsSegment [] := ⟨by simp, by decide, by decide⟩

variable {segments : List (List Char)}

theorem mem_up {segment : List Char} (h : segment ∈ up segments) : segment ∈ segments := by
  rw [up] at h
  split at h
  · split_ifs at h
    · exact h
    · exact List.dropLast_subset _ h
  · simp at h

/-- Reading pieces onto segments leaves nothing but segments. -/
theorem isSegment_of_mem_extend {pieces : List (List Char)}
    (before : ∀ segment ∈ segments, IsSegment segment)
    (kept : ∀ piece ∈ pieces, ∀ c ∈ piece, Percent.inPath c = true ∧ isSlash c = false) :
    ∀ segment ∈ extend segments pieces, IsSegment segment := by
  have append {first : List (List Char)} {last : List Char} (h : ∀ s ∈ first, IsSegment s)
      (hlast : IsSegment last) : ∀ s ∈ first ++ [last], IsSegment s := by
    intro s mem
    rcases List.mem_append.1 mem with old | new
    · exact h s old
    · exact List.mem_singleton.1 new ▸ hlast
  have taken {first : List (List Char)} (h : ∀ s ∈ first, IsSegment s) :
      ∀ s ∈ up first, IsSegment s := fun s mem => h s (mem_up mem)
  fun_induction extend segments pieces with
  | case1 => exact before
  | case2 segments last double => exact append (taken before) isSegment_nil
  | case3 segments last double dot => exact append before isSegment_nil
  | case4 segments last double dot =>
    exact append before ⟨kept last (by simp), by simpa using dot, by simpa using double⟩
  | case5 segments piece pieces _ double ih =>
    exact ih (taken before) fun p mem => kept p (List.mem_cons_of_mem _ mem)
  | case6 segments piece pieces _ double dot ih =>
    exact ih before fun p mem => kept p (List.mem_cons_of_mem _ mem)
  | case7 segments piece pieces _ double dot ih =>
    have here : IsSegment piece := ⟨kept piece (by simp), by simpa using dot, by simpa using double⟩
    exact ih (append before here) fun p mem => kept p (List.mem_cons_of_mem _ mem)

theorem extend_ne_nil {pieces : List (List Char)} (someThere : pieces ≠ []) :
    extend segments pieces ≠ [] := by
  fun_induction extend segments pieces with
  | case1 => exact absurd rfl someThere
  | case2 | case3 | case4 => simp
  | case5 _ _ _ more _ ih | case6 _ _ _ more _ _ ih | case7 _ _ _ more _ _ ih => exact ih more

/-- Segments are read as they are. -/
theorem extend_of_isSegment {pieces : List (List Char)} (good : ∀ piece ∈ pieces, IsSegment piece) :
    extend segments pieces = segments ++ pieces := by
  fun_induction extend segments pieces with
  | case1 => rw [List.append_nil]
  | case4 => rfl
  | case7 segments piece pieces _ double dot ih =>
    rw [ih fun p mem => good p (List.mem_cons_of_mem _ mem), List.append_assoc,
      List.singleton_append]
  | case2 segments last double | case5 segments last _ _ double =>
    rw [(good last List.mem_cons_self).noDoubleDot] at double
    exact absurd double Bool.false_ne_true
  | case3 segments last _ dot | case6 segments last _ _ _ dot =>
    rw [(good last List.mem_cons_self).noDot] at dot
    exact absurd dot Bool.false_ne_true

/-- A path keeps the characters of escapes, and none of them separates. -/
theorem keeps_inEscape {c : Char} (h : Percent.inEscape c = true) :
    Percent.inPath c = true ∧ isSlash c = false :=
  Percent.forall_inEscape (P := fun c => Percent.inPath c = true ∧ isSlash c = false) (by decide) h

/-- The pieces of any path are escaped where they have to be. -/
theorem kept_of_mem_pieces {cs piece : List Char} (h : piece ∈ pieces cs) :
    ∀ c ∈ piece, Percent.inPath c = true ∧ isSlash c = false := by
  obtain ⟨written, hwritten, rfl⟩ := List.mem_map.1 h
  intro c mem
  rcases Percent.mem_encode mem with ⟨here, kept⟩ | escape
  · exact ⟨kept, (Text.mem_of_mem_splitOn hwritten here).2⟩
  · exact keeps_inEscape escape

/-- Segments apart by slashes are the pieces of their path. -/
theorem pieces_intercalate (good : ∀ segment ∈ segments, IsSegment segment)
    (someThere : segments ≠ []) : pieces (['/'].intercalate segments) = segments := by
  rw [pieces, Text.splitOn_intercalate rfl (fun s mem c hc => ((good s mem).kept c hc).2) someThere]
  have each : ∀ segment ∈ segments, Percent.encode Percent.inPath segment = segment :=
    fun s mem => Percent.encode_of_kept fun c hc => ((good s mem).kept c hc).1
  rw [List.map_congr_left each, List.map_id']

end Path
/-! ## What reading ensures -/

namespace Url

/-- What reading ensures of the parts of an address. -/
structure Proper (url : Url) : Prop where
  host : url.host.Proper
  port : url.explicitPort ≠ some url.scheme.defaultPort
  path : ∀ segment ∈ url.segments, Path.IsSegment segment.toList
  filled : url.segments ≠ []
  query : ∀ q, url.query = some q → ∀ c ∈ q.toList, Percent.inQuery c = true

end Url

namespace Reference

theorem inQuery_of_readTail {cs : List Char} {q : String} (h : (readTail cs).1 = some q) :
    ∀ c ∈ q.toList, Percent.inQuery c = true := by
  rw [readTail.eq_def] at h
  split at h
  · rename_i rest
    cases h
    intro c mem
    rw [String.toList_ofList] at mem
    refine Percent.keep_of_mem_encode (fun d => ?_) mem
    exact Percent.forall_inEscape (P := fun d => Percent.inQuery d = true) (by decide)
  · cases h

/-- An address whose path was read onto proper segments is proper. -/
theorem proper_withPath {url : Url} {segments : List String} (host : url.host.Proper)
    (port : url.explicitPort ≠ some url.scheme.defaultPort)
    (before : ∀ segment ∈ segments, Path.IsSegment segment.toList) (cs : List Char) :
    (withPath url segments cs).Proper where
  host := host
  port := port
  path := by
    intro segment mem
    obtain ⟨chars, hchars, rfl⟩ := List.mem_map.1 mem
    rw [String.toList_ofList]
    refine Path.isSegment_of_mem_extend ?_ (fun piece => Path.kept_of_mem_pieces) chars hchars
    simpa using before
  filled := by
    have pieces : Path.pieces (cut endsPath cs).1 ≠ [] := by
      rw [Path.pieces, Ne, List.map_eq_nil_iff]
      exact Text.splitOn_ne_nil _
    rw [withPath, Ne, List.map_eq_nil_iff]
    exact Path.extend_ne_nil pieces
  query := fun q h => inQuery_of_readTail h

/-- Host and port of a web address, from the text after the user information. -/
def readPlace (cs : List Char) : Except UrlFault (Host × Option UInt16) :=
  if (cutAtPort false cs).1.isEmpty then .error .emptyHost
  else match Host.read (cutAtPort false cs).1, readPort ((cutAtPort false cs).2.getD []) with
    | .ok host, .ok port => .ok (host, port)
    | .error fault, _ => .error fault
    | .ok _, .error fault => .error fault

/-- An authority is its user information and its place. -/
theorem readAuthority_eq (cs : List Char) :
    readAuthority cs = (readPlace (cutAtLastAt cs).2).map fun place =>
      { userName := (readUserInfo ((cutAtLastAt cs).1.getD [])).1
        secret := (readUserInfo ((cutAtLastAt cs).1.getD [])).2
        host := place.1
        port := place.2 } := by
  rw [readAuthority, readPlace]
  by_cases empty : (cutAtPort false (cutAtLastAt cs).2).1.isEmpty = true
  · rw [if_pos empty]
    simp only [empty]
    rfl
  · rw [if_neg empty]
    simp only [empty]
    cases Host.read (cutAtPort false (cutAtLastAt cs).2).1 with
    | error fault => rfl
    | ok host =>
      cases readPort ((cutAtPort false (cutAtLastAt cs).2).2.getD []) with
      | error fault => rfl
      | ok port => rfl

theorem proper_of_readPlace {cs : List Char} {place : Host × Option UInt16}
    (h : readPlace cs = .ok place) : place.1.Proper := by
  rw [readPlace] at h
  split_ifs at h
  split at h
  · rename_i hhost _
    cases h
    exact Host.proper_of_read hhost
  · cases h
  · cases h

/-- The text of the path, from the character on that ended the authority. -/
def afterSlash : List Char → List Char
  | '/' :: rest => rest
  | '\\' :: rest => rest
  | rest => rest

/-- A web address at a place. -/
def atPlace (scheme : Scheme) (userInfo : String × Option String) (place : Host × Option UInt16)
    (cs : List Char) : Url :=
  withPath
    { scheme, userName := userInfo.1, secret := userInfo.2, host := place.1
      explicitPort := place.2.filter (· ≠ scheme.defaultPort)
      segments := [], query := none, fragment := none } [] (afterSlash cs)

/-- A web address is its authority and what follows it. -/
theorem readWeb_eq (scheme : Scheme) (cs : List Char) :
    readWeb scheme cs =
      (readPlace (cutAtLastAt (cut endsAuthority cs).1).2).map fun place =>
        atPlace scheme (readUserInfo ((cutAtLastAt (cut endsAuthority cs).1).1.getD [])) place
          (cut endsAuthority cs).2 := by
  rw [readWeb]
  generalize cut endsAuthority cs = parts
  obtain ⟨authority, rest⟩ := parts
  simp only [readAuthority_eq]
  cases readPlace (cutAtLastAt authority).2 with
  | error fault => rfl
  | ok place => rfl

theorem proper_of_readWeb {scheme : Scheme} {cs : List Char} {url : Url}
    (h : readWeb scheme cs = .ok url) : url.Proper := by
  rw [readWeb_eq] at h
  obtain ⟨place, hplace, rfl⟩ := exists_of_map_ok h
  refine proper_withPath (proper_of_readPlace hplace) ?_ (by simp) _
  simp [Option.filter_eq_some_iff]

theorem proper_of_readRelative {base url : Url} (proper : base.Proper) {cs : List Char}
    (h : readRelative base cs = .ok url) : url.Proper := by
  rw [readRelative.eq_def] at h
  split at h
  · cases h
    exact ⟨proper.host, proper.port, proper.path, proper.filled, proper.query⟩
  · split_ifs at h
    · cases h
      exact ⟨proper.host, proper.port, proper.path, proper.filled, fun q => inQuery_of_readTail⟩
    · cases h
      exact ⟨proper.host, proper.port, proper.path, proper.filled, proper.query⟩
    · exact proper_of_readWeb h
    · cases h
      exact proper_withPath proper.host proper.port (by simp) _
    · cases h
      exact proper_withPath proper.host proper.port
        (fun s mem => proper.path s (List.dropLast_subset _ mem)) _

theorem proper_of_readAfterScheme {base : Option Url} (proper : ∀ b ∈ base, b.Proper)
    {scheme : Scheme} {cs : List Char} {url : Url}
    (h : readAfterScheme base scheme cs = .ok url) : url.Proper := by
  rw [readAfterScheme.eq_def] at h
  split at h
  · split_ifs at h
    · exact proper_of_readRelative (proper _ rfl) h
    · exact proper_of_readWeb h
  · exact proper_of_readWeb h

/-- Every web address that a text names is proper. -/
theorem proper_of_resolve {base : Option Url} (proper : ∀ b ∈ base, b.Proper) {cs : List Char}
    {url : Url} (h : resolve base cs = .ok (.web url)) : url.Proper := by
  rw [resolve.eq_def] at h
  simp only at h
  split at h
  · split at h
    · obtain ⟨read, hread, same⟩ := exists_of_map_ok h
      cases same
      exact proper_of_readAfterScheme proper hread
    · split at h <;> cases h
  · split at h
    · obtain ⟨read, hread, same⟩ := exists_of_map_ok h
      cases same
      exact proper_of_readRelative (proper _ rfl) hread
    · cases h

end Reference

namespace Url

theorem eq_of_ofTarget {text : String} {target : Except UrlFault Reference.Target} {url : Url}
    (h : ofTarget text target = .ok url) : target = .ok (.web url) := by
  rw [ofTarget.eq_def] at h
  split at h
  · cases h
    rfl
  · cases h
  · cases h

theorem proper_of_read {text : String} {url : Url} (h : read text = .ok url) : url.Proper := by
  rw [read] at h
  split_ifs at h
  split at h
  · split_ifs at h
    exact Reference.proper_of_resolve (by simp) (eq_of_ofTarget h)
  · exact Reference.proper_of_resolve (by simp) (eq_of_ofTarget h)

theorem proper_of_join {base url : Url} {location : String} (proper : base.Proper)
    (h : base.join location = .ok url) : url.Proper := by
  rw [join] at h
  exact Reference.proper_of_resolve (by simpa using proper) (eq_of_ofTarget h)

/-- An address that `read` or `join` gave. -/
inductive Produced : Url → Prop
  | read {text : String} {url : Url} (h : Url.read text = .ok url) : Produced url
  | join {base url : Url} {location : String} (produced : Produced base)
      (h : base.join location = .ok url) : Produced url

/-- **Whatever `read` and `join` give is proper.** -/
theorem Produced.proper {url : Url} (produced : url.Produced) : url.Proper := by
  induction produced with
  | read h => exact proper_of_read h
  | join produced h ih => exact proper_of_join ih h

end Url
/-! ## The way back -/

namespace Reference

/-- The text of a port, with its colon. -/
def portText : Option UInt16 → List Char
  | none => []
  | some port => ':' :: Nat.toDigits 10 port.toNat

variable {host : Host} {cs rest : List Char}

/-- The port is not looked for among brackets and what is between them. -/
theorem cutAtPort_append {inBrackets : Bool}
    (plain : ∀ c ∈ cs, c ≠ '[' ∧ c ≠ ']' ∧ (c = ':' → inBrackets = true)) (rest : List Char) :
    cutAtPort inBrackets (cs ++ rest) =
      (cs ++ (cutAtPort inBrackets rest).1, (cutAtPort inBrackets rest).2) := by
  induction cs with
  | nil => rfl
  | cons c cs ih =>
    obtain ⟨noOpen, noClose, colon⟩ := plain c List.mem_cons_self
    have here : ¬(c = ':' ∧ ¬inBrackets = true) := fun h => h.2 (colon h.1)
    have later := ih fun d mem => plain d (List.mem_cons_of_mem _ mem)
    simp only [List.cons_append, cutAtPort, if_neg here, if_neg noOpen, if_neg noClose, later]

/-- The colons of an address in brackets are no mark of a port. -/
theorem cutAtPort_bracketed (proper : host.Proper) (rest : List Char) :
    cutAtPort false (host.bracketed.toList ++ rest) =
      (host.bracketed.toList ++ (cutAtPort false rest).1, (cutAtPort false rest).2) := by
  have named {cs : List Char} (allowed : ∀ c ∈ cs, Domain.inName c = true) :
      ∀ c ∈ cs, c ≠ '[' ∧ c ≠ ']' ∧ (c = ':' → false = true) := fun c mem =>
    ⟨Host.ne_of_inName (allowed c mem) (by decide), Host.ne_of_inName (allowed c mem) (by decide),
      fun colon => absurd colon (Host.ne_of_inName (allowed c mem) (by decide))⟩
  cases host with
  | domain name =>
    rw [Host.bracketed_domain]
    exact cutAtPort_append (named proper.allowed) rest
  | ipv4 address =>
    rw [Host.bracketed_ipv4]
    exact cutAtPort_append (named fun c => Host.inName_of_mem_ipv4) rest
  | ipv6 address =>
    have inside : ∀ c ∈ address.text.toList, c ≠ '[' ∧ c ≠ ']' ∧ (c = ':' → true = true) := by
      intro c mem
      rcases Ipv6.mem_text mem with digit | rfl | rfl
      · refine ⟨?_, ?_, fun _ => rfl⟩ <;> rintro rfl <;> exact absurd digit (by decide)
      · decide
      · decide
    have closed := cutAtPort_append inside (']' :: rest)
    rw [Host.toList_bracketed_ipv6, List.cons_append, List.append_assoc, List.singleton_append]
    simp [cutAtPort, closed]

theorem cutAtLastAt_of_absent (absent : ∀ c ∈ cs, c ≠ '@') : cutAtLastAt cs = (none, cs) := by
  have whole : cs.reverse.takeWhile (· ≠ '@') = cs.reverse := by
    refine List.takeWhile_eq_self_iff.2 fun c mem => ?_
    simpa using absent c (List.mem_reverse.1 mem)
  simp only [cutAtLastAt, whole, List.reverse_reverse, Nat.lt_irrefl, if_false]

/-- A text is cut at the first character that stops, or not at all. -/
theorem cut_append {stop : Char → Bool} (before : ∀ c ∈ cs, stop c = false)
    (edge : ∀ c ∈ rest.head?, stop c = true) : cut stop (cs ++ rest) = (cs, rest) := by
  have inside : ∀ c ∈ cs, (!stop c) = true := fun c mem => by rw [before c mem]; rfl
  have outside : rest.takeWhile (!stop ·) = [] ∧ rest.dropWhile (!stop ·) = rest := by
    cases rest with
    | nil => exact ⟨rfl, rfl⟩
    | cons c rest => simp [edge c rfl]
  rw [cut, List.takeWhile_append_of_pos inside, List.dropWhile_append_of_pos inside, outside.1,
    outside.2, List.append_nil]

/-- The digits of a port are read as the port. -/
theorem readPort_digits (port : UInt16) :
    readPort (Nat.toDigits 10 port.toNat) = .ok (some port) := by
  have small : port.toNat < 65536 := port.toNat_lt
  have filled : (Nat.toDigits 10 port.toNat).isEmpty = false :=
    List.isEmpty_eq_false_iff.2 Nat.toDigits_ne_nil
  have digits : (Nat.toDigits 10 port.toNat).all Ascii.isDigit = true := by
    refine List.all_eq_true.2 fun c mem => ?_
    obtain ⟨d, small, rfl⟩ := Ascii.exists_digit_of_mem_toDigits (by decide) mem
    exact Decimal.isDigit_digitChar d small
  rw [readPort, filled, digits, Ascii.valueInBase?_toDigits (by decide) (by decide)]
  simp only [Bool.false_eq_true, if_false, if_true]
  rw [if_pos (by omega), Nat.toUInt16_eq, UInt16.ofNat_toNat]

/-- A place is read as it was written. -/
theorem readPlace_written (proper : host.Proper)
    (settled : ∀ name, host = .domain name → Domain.toAscii? name.toList = some name.toList)
    (port : Option UInt16) :
    readPlace (host.bracketed.toList ++ portText port) = .ok (host, port) := by
  have parts : cutAtPort false (host.bracketed.toList ++ portText port) =
      (host.bracketed.toList, port.map fun port => Nat.toDigits 10 port.toNat) := by
    rw [cutAtPort_bracketed proper]
    cases port <;> simp [portText, cutAtPort]
  have filled : host.bracketed.toList.isEmpty = false :=
    List.isEmpty_eq_false_iff.2 (Host.bracketed_ne_nil proper)
  rw [readPlace, parts]
  simp only [filled, Host.read_bracketed proper settled]
  cases port with
  | none => rfl
  | some port => simp [readPort_digits]

/-- Host and port are written in characters of hosts. -/
theorem inHost_of_mem_place (proper : host.Proper) {port : Option UInt16} {c : Char}
    (mem : c ∈ host.bracketed.toList ++ portText port) : Host.inHost c = true := by
  rcases List.mem_append.1 mem with inHost | inPort
  · exact Host.inHost_of_mem_bracketed proper inHost
  · cases port with
    | none => simp [portText] at inPort
    | some port =>
      rcases List.mem_cons.1 inPort with rfl | digit
      · rfl
      · obtain ⟨d, small, rfl⟩ := Ascii.exists_digit_of_mem_toDigits (by decide) digit
        exact Host.inHost_of_isHexDigit (Ascii.isHexDigit_digitChar d (by omega))

/-- A web address that was written without user information is read without any. -/
theorem readWeb_written (scheme : Scheme) (proper : host.Proper) (port : Option UInt16)
    (edge : ∀ c ∈ rest.head?, endsAuthority c = true) :
    readWeb scheme (host.bracketed.toList ++ portText port ++ rest) =
      (readPlace (host.bracketed.toList ++ portText port)).map fun place =>
        atPlace scheme ("", none) place rest := by
  have inside (c : Char) (mem : c ∈ host.bracketed.toList ++ portText port) :
      endsAuthority c = false ∧ c ≠ '@' := by
    have ascii : c.toNat < 128 := by
      have := (Percent.of_keepsAllBut (inHost_of_mem_place proper mem)).2.1
      omega
    exact Ascii.forall_ascii
      (P := fun c => Host.inHost c = true → endsAuthority c = false ∧ c ≠ '@') (by decide) ascii
      (inHost_of_mem_place proper mem)
  rw [readWeb_eq, cut_append (fun c mem => (inside c mem).1) edge,
    cutAtLastAt_of_absent fun c mem => (inside c mem).2]
  rfl

/-- A visible text has nothing to drop. -/
theorem clean_of_isVisible (visible : ∀ c ∈ cs, Percent.isVisible c = true) : clean cs = cs := by
  have solid : ∀ c ∈ cs, decide (c.toNat ≤ 0x20) = false := by
    intro c mem
    have := (Percent.toNat_of_isVisible (visible c mem)).1
    exact decide_eq_false (by omega)
  rw [clean, Text.stripChars_of_absent solid, List.filter_eq_self]
  intro c mem
  have above := (Percent.toNat_of_isVisible (visible c mem)).1
  simp only [Bool.and_eq_true, bne_iff_ne]
  refine ⟨⟨?_, ?_⟩, ?_⟩ <;> rintro rfl <;> exact absurd above (by decide)

/-- Scheme and mark are visible. -/
theorem isVisible_of_mem_written (scheme : Scheme)
    (visible : ∀ c ∈ rest, Percent.isVisible c = true) :
    ∀ c ∈ scheme.name.toList ++ ':' :: '/' :: '/' :: rest, Percent.isVisible c = true := by
  have front : ∀ c ∈ scheme.name.toList ++ [':', '/', '/'], Percent.isVisible c = true := by
    cases scheme <;> exact forall_mem_of_all (by decide)
  intro c mem
  rw [show ':' :: '/' :: '/' :: rest = [':', '/', '/'] ++ rest from rfl, ← List.append_assoc] at mem
  exact (List.mem_append.1 mem).elim (front c) (visible c)

/-- Two slashes after the scheme start a web address, whatever the base is. -/
theorem readAfterScheme_slashes (base : Option Url) (scheme : Scheme) (rest : List Char) :
    readAfterScheme base scheme ('/' :: '/' :: rest) =
      readWeb scheme (rest.dropWhile Path.isSlash) := by
  cases base with
  | none => rfl
  | some base =>
    have slashes :
        ¬((('/' :: '/' :: rest).takeWhile Path.isSlash).length < 2 ∧ base.scheme = scheme) := by
      rintro ⟨few, -⟩
      rw [List.takeWhile_cons_of_pos (by rfl), List.takeWhile_cons_of_pos (by rfl),
        List.length_cons, List.length_cons] at few
      omega
    simp only [readAfterScheme, if_neg slashes]
    rfl

/-- A visible text with a scheme and two slashes names what follows them. -/
theorem resolve_written (base : Option Url) (scheme : Scheme)
    (visible : ∀ c ∈ rest, Percent.isVisible c = true) :
    resolve base (scheme.name.toList ++ ':' :: '/' :: '/' :: rest) =
      (readWeb scheme (rest.dropWhile Path.isSlash)).map .web := by
  have scheme_eq : splitScheme? (scheme.name.toList ++ ':' :: '/' :: '/' :: rest) =
      some (scheme.name, '/' :: '/' :: rest) := by
    cases scheme <;> rfl
  have known : Scheme.ofName? scheme.name = some scheme := by cases scheme <;> rfl
  rw [resolve.eq_def, clean_of_isVisible (isVisible_of_mem_written scheme visible)]
  simp only [scheme_eq, known, readAfterScheme_slashes]

end Reference

namespace Url

/-- **Reading what was written** of a place and what follows it. -/
theorem read_written {scheme : Scheme} {host : Host} (proper : host.Proper)
    (port : Option UInt16) {rest : List Char} (edge : ∀ c ∈ rest.head?, c = '/')
    (visible : ∀ c ∈ rest, Percent.isVisible c = true) {text : String}
    (written : text.toList = scheme.name.toList ++
      ':' :: '/' :: '/' :: (host.bracketed.toList ++ Reference.portText port ++ rest)) :
    read text = ofTarget text
      ((Reference.readPlace (host.bracketed.toList ++ Reference.portText port)).map fun place =>
        .web (Reference.atPlace scheme ("", none) place rest)) := by
  have place (c : Char) (mem : c ∈ host.bracketed.toList ++ Reference.portText port) :
      Percent.isVisible c = true ∧ endsAddress c = false ∧ Path.isSlash c = false := by
    have ascii : c.toNat < 128 := by
      have := (Percent.of_keepsAllBut (Reference.inHost_of_mem_place proper mem)).2.1
      omega
    exact Ascii.forall_ascii (P := fun c => Host.inHost c = true →
      Percent.isVisible c = true ∧ endsAddress c = false ∧ Path.isSlash c = false) (by decide) ascii
      (Reference.inHost_of_mem_place proper mem)
  have all : ∀ c ∈ host.bracketed.toList ++ Reference.portText port ++ rest,
      Percent.isVisible c = true := fun c mem =>
    (List.mem_append.1 mem).elim (fun mem => (place c mem).1) (visible c)
  obtain ⟨first, others, hplace⟩ : ∃ first others,
      host.bracketed.toList ++ Reference.portText port = first :: others :=
    List.exists_cons_of_ne_nil (List.append_ne_nil_of_left_ne_nil (Host.bracketed_ne_nil proper) _)
  have outset := (place first (hplace ▸ List.mem_cons_self)).2
  have ends : ∀ c ∈ rest.head?, Reference.endsAuthority c = true := fun c mem => by
    rw [edge c mem]
    rfl
  have web := Reference.readWeb_written scheme proper port ends
  rw [hplace] at web all written ⊢
  have shown := Reference.isVisible_of_mem_written scheme all
  have trimmed := Text.trimChars_of_solid fun c mem => Percent.isBlank_of_isVisible (shown c mem)
  have marked :
      afterScheme? (scheme.name.toList ++ ':' :: '/' :: '/' :: (first :: others ++ rest)) =
        some (first :: others ++ rest) := by
    cases scheme <;> rfl
  have filled : (scheme.name.toList ++ ':' :: '/' :: '/' :: (first :: others ++ rest)).isEmpty =
      false := by
    cases scheme <;> rfl
  have named : ((first :: others ++ rest).takeWhile (!endsAddress ·)).isEmpty = false := by
    rw [List.cons_append, List.takeWhile_cons_of_pos (by rw [outset.1]; rfl)]
    rfl
  have start : (first :: others ++ rest).dropWhile Path.isSlash = first :: others ++ rest := by
    rw [List.cons_append, List.dropWhile_cons_of_neg (by rw [outset.2]; exact Bool.false_ne_true)]
  rw [read, written, trimmed, filled, if_neg Bool.false_ne_true]
  simp only [marked, named, Bool.false_eq_true, if_false]
  rw [Reference.resolve_written none scheme all, start, web]
  cases Reference.readPlace (first :: others) <;> rfl

/-- An address without what its text leaves out: user information and fragment. -/
def bare (url : Url) : Url := { url with userName := "", secret := none, fragment := none }

variable {url : Url}

/-- A path is a slash and its segments apart by slashes. -/
theorem toList_path (filled : url.segments ≠ []) :
    url.path.toList = '/' :: ['/'].intercalate (url.segments.map String.toList) := by
  rw [path, String.toList_join]
  generalize url.segments = segments at filled
  induction segments with
  | nil => exact absurd rfl filled
  | cons first rest ih =>
    cases rest with
    | nil => simp
    | cons next rest =>
      have later := ih (List.cons_ne_nil _ _)
      simp only [List.map_cons, List.flatMap_cons, List.intercalate_cons_cons] at later ⊢
      rw [later]
      simp

/-- The text of a query is read as the query. -/
theorem readTail_queryText {query : Option String}
    (kept : ∀ q, query = some q → ∀ c ∈ q.toList, Percent.inQuery c = true) :
    Reference.readTail (queryText query).toList = (query, none) := by
  cases query with
  | none => rfl
  | some q =>
    have noMark (c : Char) (mem : c ∈ q.toList) : (c == '#') = false := by
      have absent := (Percent.of_keepsAllBut (kept q rfl c mem)).2.2
      refine beq_eq_false_iff_ne.2 ?_
      rintro rfl
      exact absent (by decide)
    have cut : Reference.cut (· == '#') (q.toList ++ []) = (q.toList, []) :=
      Reference.cut_append noMark (by simp)
    rw [List.append_nil] at cut
    have chars : (queryText (some q)).toList = '?' :: q.toList := by simp [queryText]
    rw [chars, Reference.readTail]
    simp only [cut, Percent.encode_of_kept (kept q rfl), String.ofList_toList]
    rfl

/-- A proper path has characters of paths. -/
theorem inPath_of_mem_path (proper : url.Proper) {c : Char}
    (mem : c ∈ ['/'].intercalate (url.segments.map String.toList)) : Percent.inPath c = true := by
  rcases Text.mem_intercalate mem with rfl | ⟨segment, there, mem⟩
  · rfl
  · obtain ⟨written, hwritten, rfl⟩ := List.mem_map.1 there
    exact ((proper.path written hwritten).kept c mem).1

/-- A proper path and query are read as they are. -/
theorem withPath_written (proper : url.Proper) (place : Url) :
    Reference.withPath place [] (['/'].intercalate (url.segments.map String.toList) ++
      (queryText url.query).toList) =
      { place with segments := url.segments, query := url.query, fragment := none } := by
  have good : ∀ segment ∈ url.segments.map String.toList, Path.IsSegment segment := by
    simpa using proper.path
  have inside (c : Char) (mem : c ∈ ['/'].intercalate (url.segments.map String.toList)) :
      Reference.endsPath c = false := by
    have absent := (Percent.of_keepsAllBut (inPath_of_mem_path proper mem)).2.2
    rw [Reference.endsPath, Bool.or_eq_false_iff, beq_eq_false_iff_ne, beq_eq_false_iff_ne]
    refine ⟨?_, ?_⟩ <;> rintro rfl <;> exact absent (by decide)
  have edge : ∀ c ∈ (queryText url.query).toList.head?, Reference.endsPath c = true := by
    cases url.query with
    | none => simp [queryText]
    | some q => simp [queryText, Reference.endsPath]
  rw [Reference.withPath, Reference.cut_append inside edge]
  simp only [readTail_queryText proper.query,
    Path.pieces_intercalate good (by simpa using proper.filled), Path.extend_of_isSegment good,
    List.map_nil, List.nil_append, List.map_map]
  simp [Function.comp_def]

theorem isVisible_of_mem_path (proper : url.Proper) {c : Char}
    (mem : c ∈ ['/'].intercalate (url.segments.map String.toList)) :
    Percent.isVisible c = true :=
  Percent.isVisible_of_keepsAllBut (inPath_of_mem_path proper mem)

theorem isVisible_of_mem_query (proper : url.Proper) {c : Char}
    (mem : c ∈ (queryText url.query).toList) : Percent.isVisible c = true := by
  cases h : url.query with
  | none => simp [h, queryText] at mem
  | some q =>
    have parts : c = '?' ∨ c ∈ q.toList := by simpa [h, queryText] using mem
    rcases parts with rfl | mem
    · rfl
    · exact Percent.isVisible_of_keepsAllBut (proper.query q h c mem)

/-- Whatever port is written, the one that the scheme implies is left out when it is read. -/
theorem filter_port (proper : url.Proper) :
    (some url.port).filter (· ≠ url.scheme.defaultPort) = url.explicitPort := by
  have other := proper.port
  rw [port]
  cases h : url.explicitPort with
  | none => simp
  | some p =>
    rw [h] at other
    simpa using other

/-- The port that the text of an address names. -/
def namedPort (url : Url) : Option UInt16 :=
  if url.port = url.scheme.defaultPort then none else some url.port

/-- The text of an address part by part. -/
theorem toList_text (proper : url.Proper) :
    url.text.toList = url.scheme.name.toList ++
      ':' :: '/' :: '/' :: (url.host.bracketed.toList ++ Reference.portText url.namedPort ++
        '/' :: (['/'].intercalate (url.segments.map String.toList) ++
          (queryText url.query).toList)) := by
  have path := toList_path proper.filled
  rw [text, namedPort]
  split_ifs <;> simp [path, hostHeader, Reference.portText]

/-- Path and query are written in visible characters. -/
theorem isVisible_of_mem_rest (proper : url.Proper) :
    ∀ c ∈ '/' :: (['/'].intercalate (url.segments.map String.toList) ++
      (queryText url.query).toList), Percent.isVisible c = true := by
  intro c mem
  rcases List.mem_cons.1 mem with rfl | mem
  · rfl
  · exact (List.mem_append.1 mem).elim (isVisible_of_mem_path proper)
      (isVisible_of_mem_query proper)

/-- **The text of an address is read as the address it shows.** -/
theorem read_text (proper : url.Proper)
    (settled : ∀ name, url.host = .domain name → Domain.toAscii? name.toList = some name.toList) :
    read url.text = .ok url.bare := by
  have port : url.namedPort.filter (· ≠ url.scheme.defaultPort) = url.explicitPort := by
    rw [← filter_port proper, namedPort]
    split_ifs with implied
    · simp [implied, Option.filter_some]
    · rfl
  rw [read_written proper.host url.namedPort (by simp) (isVisible_of_mem_rest proper)
      (toList_text proper),
    Reference.readPlace_written proper.host settled, Except.map, ofTarget, Reference.atPlace,
    Reference.afterSlash, withPath_written proper]
  simp only [port]
  rfl

/-- **The origin of an address is read as the address of its root.** -/
theorem read_origin (proper : url.Proper)
    (settled : ∀ name, url.host = .domain name → Domain.toAscii? name.toList = some name.toList) :
    read url.origin = .ok { url.bare with segments := [""], query := none } := by
  have written : url.origin.toList = url.scheme.name.toList ++ ':' :: '/' :: '/' ::
      (url.host.bracketed.toList ++ Reference.portText (some url.port) ++ []) := by
    simp [origin, authority, hostHeader, Reference.portText]
  rw [read_written proper.host (some url.port) (by simp) (by simp) written,
    Reference.readPlace_written proper.host settled, Except.map, ofTarget, Reference.atPlace]
  simp only [filter_port proper]
  rfl

/-- What an address shows has the same text. -/
theorem text_bare : url.bare.text = url.text := rfl

/-- **An address comes back from its text and from its origin.** Reading the text of an address that
`read` or `join` gave leads to the same scheme, host, port, path and query, without user name and
password, and to the same text again; reading its origin leads to the same scheme, host and port. Of
a domain name it is assumed that it is its own ASCII form. -/
theorem exists_read_text_and_origin (produced : url.Produced)
    (settled : ∀ name, url.host = .domain name → Domain.toAscii? name.toList = some name.toList) :
    (∃ again, read url.text = .ok again ∧ again.scheme = url.scheme ∧ again.host = url.host ∧
      again.port = url.port ∧ again.path = url.path ∧ again.query = url.query ∧
      again.username = none ∧ again.password = none ∧ again.text = url.text) ∧
    ∃ again, read url.origin = .ok again ∧ again.scheme = url.scheme ∧ again.host = url.host ∧
      again.port = url.port :=
  ⟨⟨url.bare, read_text produced.proper settled, rfl, rfl, rfl, rfl, rfl, rfl, rfl, text_bare⟩,
    ⟨_, read_origin produced.proper settled, rfl, rfl, rfl⟩⟩

/-- The location `/a b?q#f` of a redirect, resolved against `http://ex.test`. -/
theorem exists_read_text_and_origin_location : ∃ url : Url,
    url.text = "http://ex.test/a%20b?q" ∧ (∃ again, read url.text = .ok again ∧
      again.host = .domain "ex.test" ∧ again.query = some "q") ∧
    ∃ again, read url.origin = .ok again ∧ again.port = 80 := by
  have plain : ∀ label ∈ Text.splitOn (· = '.') "ex.test".toList, Domain.IsPlain label := by
    intro label mem
    have cases : label = ['e', 'x'] ∨ label = ['t', 'e', 's', 't'] := by
      revert mem
      simp [Text.splitOn]
    rcases cases with rfl | rfl <;>
      exact ⟨forall_mem_of_all (by decide), forall_mem_of_all (by decide), rfl⟩
  have settled := Domain.toAscii?_of_plain plain
  have proper : (Host.domain "ex.test").Proper :=
    ⟨by decide, forall_mem_of_all (by decide), by decide⟩
  have written : "http://ex.test".toList = Scheme.http.name.toList ++
      ':' :: '/' :: '/' :: ((Host.domain "ex.test").bracketed.toList ++
        Reference.portText none ++ []) := by
    decide +kernel
  have base := read_written proper none (by simp) (by simp) written
  rw [Reference.readPlace_written proper (by rintro name ⟨⟩; exact settled)] at base
  have joined : join (Reference.atPlace .http ("", none) (.domain "ex.test", none) []) "/a b?q#f" =
      .ok ⟨.http, "", none, .domain "ex.test", none, ["a%20b"], some "q", some "f"⟩ := by
    decide +kernel
  obtain ⟨⟨again, hread, -, host, -, -, query, -⟩, origin, horigin, -, -, port⟩ :=
    exists_read_text_and_origin (.join (.read base) joined) (by rintro name ⟨⟩; exact settled)
  exact ⟨_, by decide +kernel, ⟨again, hread, host, query⟩, origin, horigin, port⟩

end Url
end HttpFetch
