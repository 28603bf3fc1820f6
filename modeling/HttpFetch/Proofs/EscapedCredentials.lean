import HttpFetch.Proofs.MissingHosts
import HttpFetch.Proofs.UserInfo
import HttpFetch.Request.Credentials
/-!
# Credentials in an address

A text is spelled with letters, digits and escapes alone: `Percent.Spells` holds of every such
spelling, whatever the case of its hexadecimal digits. Reading the escapes back gives the bytes of
the text (`Percent.Spells.decode`), and none of its characters has a meaning of its own in an address
(`Percent.Spells.mem`). So the two sides of a colon in front of an `@` come back as user name and
password, and host and path are what they are without them (`Credentials.ofUrl?_spelled`).
-/

namespace HttpFetch

/-! ## Spellings -/

namespace Percent

/-- Whether a character is an ASCII letter or digit. -/
def isPlain (c : Char) : Bool := Ascii.isLetter c || Ascii.isDigit c

/-- The ways to spell bytes: each is an escape, or the letter or digit that it is. -/
inductive Spells : Bytes → List Char → Prop where
  | nil : Spells [] []
  | plain {c : Char} {bytes : Bytes} {cs : List Char} : isPlain c = true → Spells bytes cs →
    Spells (c.toNat.toUInt8 :: bytes) (c :: cs)
  | escaped {b : UInt8} {high low : Char} {bytes : Bytes} {cs : List Char} :
    Ascii.digitValue? high = some (b.toNat / 16) → Ascii.digitValue? low = some (b.toNat % 16) →
    Spells bytes cs → Spells (b :: bytes) ('%' :: high :: low :: cs)

variable {bytes more : Bytes} {cs ds : List Char}

theorem Spells.append (spells : Spells bytes cs) (later : Spells more ds) :
    Spells (bytes ++ more) (cs ++ ds) := by
  induction spells with
  | nil => exact later
  | plain kept _ ih => exact .plain kept ih
  | escaped high low _ ih => exact .escaped high low ih

/-- What may stand in a spelling. -/
def inSpelling (c : Char) : Bool := isPlain c || c == '%'

/-- What holds of the characters of spellings among the first 128 holds of all of them. -/
theorem forall_inSpelling {P : Char → Prop}
    (each : ∀ n < 128, inSpelling (Char.ofNat n) = true → P (Char.ofNat n)) {c : Char}
    (h : inSpelling c = true) : P c := by
  have ascii : c.toNat < 128 := by
    simp only [inSpelling, isPlain, Ascii.isLetter, Ascii.isDigit, Bool.or_eq_true,
      Bool.and_eq_true, decide_eq_true_eq, beq_iff_eq] at h
    rcases h with ((small | capital) | figure) | rfl
    · exact Nat.lt_of_le_of_lt small.2 (by decide : 'z'.toNat < 128)
    · exact Nat.lt_of_le_of_lt capital.2 (by decide : 'Z'.toNat < 128)
    · exact Nat.lt_of_le_of_lt figure.2 (by decide : '9'.toNat < 128)
    · decide
  exact Ascii.forall_ascii (P := fun c => inSpelling c = true → P c) each ascii h

theorem inSpelling_of_digitValue? {c : Char} {n : Nat} (digit : Ascii.digitValue? c = some n) :
    inSpelling c = true := by
  have isDigit : Ascii.isHexDigit c = true := by rw [Ascii.isHexDigit, digit, Option.isSome_some]
  exact Ascii.forall_ascii (P := fun c => Ascii.isHexDigit c = true → inSpelling c = true)
    (by decide) (Ascii.toNat_lt_of_isHexDigit isDigit) isDigit

theorem Spells.mem (spells : Spells bytes cs) : ∀ c ∈ cs, inSpelling c = true := by
  induction spells with
  | nil => simp
  | plain kept _ ih =>
    intro c mem
    rcases List.mem_cons.1 mem with rfl | mem
    · rw [inSpelling, kept, Bool.true_or]
    · exact ih c mem
  | escaped high low _ ih =>
    intro c mem
    simp only [List.mem_cons] at mem
    rcases mem with rfl | rfl | rfl | mem
    · rfl
    · exact inSpelling_of_digitValue? high
    · exact inSpelling_of_digitValue? low
    · exact ih c mem

theorem Spells.eq_nil (spells : Spells bytes []) : bytes = [] := by
  cases spells
  rfl

/-- A character of a spelling is one byte. -/
theorem encodeChar_of_inSpelling {c : Char} (h : inSpelling c = true) :
    Utf8.encodeChar c = [c.toNat.toUInt8] :=
  forall_inSpelling (P := fun c => Utf8.encodeChar c = [c.toNat.toUInt8]) (by decide) h

/-- The byte of a digit is read as the digit. -/
theorem hexByte?_of_digitValue? {c : Char} {n : Nat} (digit : Ascii.digitValue? c = some n) :
    hexByte? c.toNat.toUInt8 = some n := by
  have same : hexByte? c.toNat.toUInt8 = Ascii.digitValue? c :=
    forall_inSpelling (P := fun c => hexByte? c.toNat.toUInt8 = Ascii.digitValue? c) (by decide)
      (inSpelling_of_digitValue? digit)
  rw [same, digit]

/-- **A spelling is read as the bytes it spells.** -/
theorem Spells.decode (spells : Spells bytes cs) : Percent.decode (Utf8.encodeChars cs) = bytes := by
  induction spells with
  | nil => rfl
  | @plain c bytes cs kept _ ih =>
    have inside : inSpelling c = true := by rw [inSpelling, kept, Bool.true_or]
    have other : c.toNat.toUInt8 ≠ 0x25 :=
      forall_inSpelling (P := fun c => isPlain c = true → c.toNat.toUInt8 ≠ 0x25) (by decide)
        inside kept
    rw [Utf8.encodeChars_cons, encodeChar_of_inSpelling inside, List.singleton_append,
      Percent.decode.eq_def]
    simp only [if_neg other, ih]
  | @escaped b high low bytes cs hhigh hlow _ ih =>
    have byte : (b.toNat / 16 * 16 + b.toNat % 16).toUInt8 = b := by
      rw [Nat.div_add_mod', Nat.toUInt8_eq, UInt8.ofNat_toNat]
    rw [Utf8.encodeChars_cons, Utf8.encodeChars_cons, Utf8.encodeChars_cons,
      encodeChar_of_inSpelling rfl, encodeChar_of_inSpelling (inSpelling_of_digitValue? hhigh),
      encodeChar_of_inSpelling (inSpelling_of_digitValue? hlow)]
    simp only [List.singleton_append]
    rw [Percent.decode, if_pos (by decide)]
    simp only [hexByte?_of_digitValue? hhigh, hexByte?_of_digitValue? hlow, byte, ih]

theorem spells_escape (bytes : Bytes) : Spells bytes (bytes.flatMap escape) := by
  have digit : ∀ n < 16, Ascii.digitValue? (Ascii.hexDigit n) = some n := by decide
  induction bytes with
  | nil => exact .nil
  | cons b bytes ih =>
    have := b.toNat_lt
    exact .escaped (digit _ (by omega)) (digit _ (Nat.mod_lt _ (by decide))) ih

/-- What escapes all but letters and digits is a spelling. -/
theorem spells_encode (cs : List Char) : Spells (Utf8.encodeChars cs) (encode isPlain cs) := by
  induction cs with
  | nil => exact .nil
  | cons c cs ih =>
    have here : Spells (Utf8.encodeChar c) (encodeChar isPlain c) := by
      rw [encodeChar]
      split_ifs with kept
      · rw [encodeChar_of_inSpelling (by rw [inSpelling, kept, Bool.true_or])]
        exact .plain kept .nil
      · exact spells_escape _
    exact here.append ih

end Percent

namespace Credentials

/-- The text that was spelled is read, since its bytes are text again. -/
theorem unescape_of_spells {text : String} {cs : List Char}
    (spells : Percent.Spells (Utf8.encode text) cs) : unescape (String.ofList cs) = text := by
  have read := Utf8.decode?_encodeChars text.toList
  rw [String.ofList_toList] at read
  rw [unescape, Utf8.encode, String.toList_ofList, spells.decode, Utf8.encode, read,
    Option.getD_some]

end Credentials

/-! ## User information in front of a place -/

namespace Reference

variable {info cs place : List Char}

/-- What is kept of user information is read as it is, cut at its colon. -/
theorem readUserInfo_kept {user password : List Char} (noColon : ∀ c ∈ user, c ≠ ':')
    (keptUser : ∀ c ∈ user, Percent.inUserInfo c = true)
    (keptPassword : ∀ c ∈ password, Percent.inUserInfo c = true) :
    readUserInfo (user ++ ':' :: password) =
      (String.ofList user, if password.isEmpty then none else some (String.ofList password)) := by
  simp only [readUserInfo, Text.cutAt?_append noColon, Percent.encode_of_kept keptUser,
    Percent.encode_of_kept keptPassword]

/-- What counts of a text that a slash ends, without the slashes in front. -/
theorem afterGap_slash (cs : List Char) :
    afterGap (cs ++ ['/']) = (cs.filter counts ++ ['/']).dropWhile Path.isSlash := by
  have ends : (cs ++ ['/']).rdropWhile isEdge = cs ++ ['/'] :=
    Text.rdropWhile_append_cons (p := isEdge) (c := '/') (by decide) cs []
  rw [← dropWhile_isSlash, ends, List.filter_append]
  rfl

/-- There are none in front of a character of an authority. -/
theorem afterGap_of_head {c : Char} (first : cs.head? = some c) (inside : endsAuthority c = false)
    (count : counts c = true) : afterGap (cs ++ ['/']) = cs.filter counts ++ ['/'] := by
  obtain ⟨rest, rfl⟩ := List.head?_eq_some_iff.1 first
  rw [afterGap_slash, List.filter_cons_of_pos count, List.cons_append,
    List.dropWhile_cons_of_neg (by rw [isSlash_eq_false inside]; exact Bool.false_ne_true)]

/-- A text that begins inside an authority names something there. -/
theorem takeWhile_of_head {c : Char} (first : cs.head? = some c)
    (inside : endsAuthority c = false) : (cs ++ ['/']).takeWhile (!Url.endsAddress ·) ≠ [] := by
  obtain ⟨rest, rfl⟩ := List.head?_eq_some_iff.1 first
  have address : Url.endsAddress c = false := by
    simp only [endsAuthority, Url.endsAddress, Bool.or_eq_false_iff] at inside ⊢
    exact ⟨⟨inside.1.1.1, inside.1.2⟩, inside.2⟩
  rw [List.cons_append, List.takeWhile_cons_of_pos (by rw [address]; rfl)]
  exact List.cons_ne_nil _ _

end Reference

namespace Url

open Reference

variable {info place : List Char} {text text' : String} {plain : Url}

/-- An address that a slash ends is read from what follows its scheme. -/
theorem toOption_read_http {cs : List Char} (written : text.toList = "http://".toList ++ (cs ++ ['/']))
    (named : (cs ++ ['/']).takeWhile (!endsAddress ·) ≠ []) :
    (read text).toOption = (readWeb .http (afterGap (cs ++ ['/']))).toOption := by
  have trimmed : Text.trimChars text.toList = text.toList := by
    refine Text.IsTrimmed.trimChars ⟨?_, ?_⟩
    · rw [written]
      rintro c ⟨⟩
      decide
    · rw [written, ← List.append_assoc, List.getLast?_concat]
      rintro c ⟨⟩
      decide
  have noColon : ':' ∉ "http".toList := by decide
  have explicit : afterScheme? text.toList = some (cs ++ ['/']) := by
    rw [written]
    exact afterScheme?_append noColon (forall_mem_of_all (by decide)) (cs ++ ['/'])
  have parts : schemeAndRest text.toList = ("http".toList, '/' :: '/' :: (cs ++ ['/'])) := by
    have cut : Text.cutAt? ':' text.toList = some ("http".toList, '/' :: '/' :: (cs ++ ['/'])) := by
      have absent : ∀ c ∈ "http".toList, c ≠ ':' := forall_mem_of_all (by decide)
      rw [written]
      exact Text.cutAt?_append absent _
    rw [schemeAndRest, explicit, cut]
  have has : lacksHost (Text.trimChars text.toList) = false := by
    rw [trimmed, lacksHost, explicit, Option.any_some, List.isEmpty_eq_false_iff]
    exact named
  have http : schemeOf? "http".toList = some .http := by decide +kernel
  rw [toOption_read has, trimmed, located?, parts, http, Option.bind_some, afterGap_slashes]

/-- What is read of a place that a slash ends is read of those of its characters that count, without
any of which there would be no host. -/
theorem readWeb_of_read (inside : ∀ c ∈ place, endsAuthority c = false)
    (written : text.toList = "http://".toList ++ (place ++ ['/'])) (h : read text = .ok plain) :
    readWeb .http (place.filter counts ++ ['/']) = .ok plain := by
  rcases first : place.head? with _ | c
  · rw [List.head?_eq_none_iff.1 first] at written
    have bare : text = "http:///" := String.toList_injective (written.trans (by decide))
    have refused : (read "http:///").toOption = none := by decide +kernel
    rw [← bare, h] at refused
    cases refused
  have web := toOption_read_http written
    (takeWhile_of_head first (inside c (List.mem_of_head? first)))
  rw [h, afterGap_slash] at web
  rcases kept : place.filter counts with _ | ⟨d, rest⟩ <;> rw [kept] at web
  · rw [List.nil_append, List.dropWhile_cons_of_pos (by decide), List.dropWhile_nil,
      readWeb_empty .http (by simp)] at web
    cases web
  · have among : d ∈ place := List.mem_of_mem_filter (kept ▸ List.mem_cons_self)
    rw [List.cons_append, List.dropWhile_cons_of_neg
      (by rw [isSlash_eq_false (inside d among)]; exact Bool.false_ne_true)] at web
    rw [List.cons_append]
    rcases result : readWeb .http (d :: (rest ++ ['/'])) with e | url <;> rw [result] at web <;>
      cases web
    rfl

/-- **User information in front of an address** is added to what is read of it. -/
theorem read_withUserInfo (inside : ∀ c ∈ info, endsAuthority c = false ∧ counts c = true)
    (isPlace : ∀ c ∈ place, endsAuthority c = false ∧ c ≠ '@')
    (written : text.toList = "http://".toList ++ (place ++ ['/']))
    (written' : text'.toList = "http://".toList ++ (info ++ '@' :: place ++ ['/']))
    (h : read text = .ok plain) : read text' = .ok (withUserInfo info plain) := by
  have isRead := readWeb_of_read (fun c mem => (isPlace c mem).1) written h
  have noAt : ∀ c ∈ (cut endsAuthority (place.filter counts ++ ['/'])).1, c ≠ '@' := by
    intro c mem
    rcases List.mem_append.1 ((List.takeWhile_sublist _).subset mem) with mem | mem
    · exact (isPlace c (List.mem_of_mem_filter mem)).2
    · rw [List.mem_singleton.1 mem]
      decide
  have both : readWeb .http (info ++ '@' :: (place.filter counts ++ ['/'])) =
      .ok (withUserInfo info plain) := by
    rw [readWeb_append .http (fun c mem => (inside c mem).1) noAt, isRead]
    rfl
  obtain ⟨c, first, ends, count⟩ : ∃ c, (info ++ '@' :: place).head? = some c ∧
      endsAuthority c = false ∧ counts c = true := by
    cases info with
    | nil => exact ⟨'@', rfl, by decide, by decide⟩
    | cons c info => exact ⟨c, rfl, inside c List.mem_cons_self⟩
  have counted : (info ++ '@' :: place).filter counts = info ++ '@' :: place.filter counts := by
    rw [List.filter_append, List.filter_eq_self.2 fun c mem => (inside c mem).2,
      List.filter_cons_of_pos (by decide)]
  have found := toOption_read_http written' (takeWhile_of_head first ends)
  rw [afterGap_of_head first ends count, counted, List.append_assoc, List.cons_append, both] at found
  rcases result : read text' with e | url <;> rw [result] at found <;> cases found
  rfl

end Url

namespace Credentials

/-- An address with user name and password in front of a place. -/
def address (user password : List Char) (place : String) : String :=
  String.ofList ("http://".toList ++ (user ++ ':' :: password ++ '@' :: place.toList ++ ['/']))

theorem toList_address (user password : List Char) (place : String) :
    (address user password place).toList =
      "http://".toList ++ (user ++ ':' :: password ++ '@' :: place.toList ++ ['/']) :=
  String.toList_ofList

variable {u w : String} {user password : List Char} {place : String} {plain : Url}

/-- Credentials that are spelled in front of a place are read, and the place as without them. -/
theorem exists_ofUrl?_address (filled : u ≠ "")
    (spellsUser : Percent.Spells (Utf8.encode u) user)
    (spellsPassword : Percent.Spells (Utf8.encode w) password)
    (isPlace : ∀ c ∈ place.toList, Reference.endsAuthority c = false ∧ c ≠ '@')
    (h : Url.read ("http://" ++ place ++ "/") = .ok plain) :
    ∃ url, Url.read (address user password place) = .ok url ∧
      { url with userName := plain.userName, secret := plain.secret } = plain ∧
      ofUrl? url = some ⟨u, w⟩ := by
  have some : user ≠ [] := by
    rintro rfl
    exact filled (Utf8.eq_empty_of_encode spellsUser.eq_nil)
  have each {c : Char} (spelled : Percent.inSpelling c = true) : c ≠ ':' ∧
      Percent.inUserInfo c = true ∧ Reference.endsAuthority c = false ∧
      Reference.counts c = true :=
    Percent.forall_inSpelling (P := fun c => c ≠ ':' ∧ Percent.inUserInfo c = true ∧
      Reference.endsAuthority c = false ∧ Reference.counts c = true) (by decide) spelled
  have inside : ∀ c ∈ user ++ ':' :: password,
      Reference.endsAuthority c = false ∧ Reference.counts c = true := by
    intro c mem
    rcases List.mem_append.1 mem with mem | mem
    · exact (each (spellsUser.mem c mem)).2.2
    rcases List.mem_cons.1 mem with rfl | mem
    · decide
    · exact (each (spellsPassword.mem c mem)).2.2
  have info := Reference.readUserInfo_kept (fun c mem => (each (spellsUser.mem c mem)).1)
    (fun c mem => (each (spellsUser.mem c mem)).2.1)
    (fun c mem => (each (spellsPassword.mem c mem)).2.1)
  have whole : ("http://" ++ place ++ "/").toList = "http://".toList ++ (place.toList ++ ['/']) := by
    rw [String.toList_append, String.toList_append, List.append_assoc]
    rfl
  have isRead := Url.read_withUserInfo inside isPlace whole (toList_address user password place) h
  have named : (String.ofList user).isEmpty = false := by
    rw [← Bool.not_eq_true, String.isEmpty_iff, ← String.toList_inj, String.toList_ofList]
    exact some
  refine ⟨_, isRead, rfl, ?_⟩
  rw [ofUrl?, Url.username, Reference.withUserInfo, Url.password, info]
  simp only [named, Bool.false_eq_true, if_false, Option.map_some, unescape_of_spells spellsUser]
  by_cases none : password.isEmpty = true
  · rw [List.isEmpty_iff] at none
    have empty : w = "" := by
      rw [none] at spellsPassword
      exact Utf8.eq_empty_of_encode spellsPassword.eq_nil
    rw [none, empty]
    rfl
  · rw [if_neg none, Option.getD_some, unescape_of_spells spellsPassword]

/-- **Escapes carry any user name and any password.** However the two are spelled in letters, digits
and escapes, an address with them in front of the host `h` is read, and its credentials are those
that were spelled. The same holds in front of every other place that can be read; all but user name
and password stays as it is without them. -/
theorem ofUrl?_spelled (filled : u ≠ "") (spellsUser : Percent.Spells (Utf8.encode u) user)
    (spellsPassword : Percent.Spells (Utf8.encode w) password) :
    (∃ url, Url.read (address user password "h") = .ok url ∧ url.host = .domain "h" ∧
      ofUrl? url = some ⟨u, w⟩) ∧
    ∀ (place : String) (plain : Url),
      (∀ c ∈ place.toList, Reference.endsAuthority c = false ∧ c ≠ '@') →
      Url.read ("http://" ++ place ++ "/") = .ok plain →
      ∃ url, Url.read (address user password place) = .ok url ∧
        { url with userName := plain.userName, secret := plain.secret } = plain ∧
        ofUrl? url = some ⟨u, w⟩ := by
  have settled : Domain.toAscii? "h".toList = some "h".toList := by
    apply Domain.toAscii?_of_plain
    intro label mem
    obtain rfl : label = ['h'] := by simpa [Text.splitOn] using mem
    exact ⟨forall_mem_of_all (by decide), forall_mem_of_all (by decide), rfl⟩
  have proper : (Host.domain "h").Proper :=
    ⟨by decide, forall_mem_of_all (by decide), by decide⟩
  have written : ("http://" ++ "h" ++ "/").toList = Scheme.http.name.toList ++
      ':' :: '/' :: '/' :: ((Host.domain "h").bracketed.toList ++ Reference.portText none ++ ['/']) :=
    by decide +kernel
  have isRead := Url.read_written proper none (by simp) (forall_mem_of_all (by decide)) written
  rw [Reference.readPlace_written proper (by rintro name ⟨⟩; exact settled)] at isRead
  obtain ⟨url, named, same, credentials⟩ := exists_ofUrl?_address filled spellsUser spellsPassword
    (forall_mem_of_all (by decide)) isRead
  exact ⟨⟨url, named, congrArg Url.host same, credentials⟩, fun place plain isPlace h =>
    exists_ofUrl?_address filled spellsUser spellsPassword isPlace h⟩

/-- The user `é@` with digits of either case, and the password `p:`. -/
theorem ofUrl?_spelled_two_bytes :
    ("é@" ≠ "" ∧ Percent.Spells (Utf8.encode "é@") "%c3%A9%40".toList ∧
      Percent.Spells (Utf8.encode "p:") "p%3A".toList) ∧
    ∃ url, Url.read "http://%c3%A9%40:p%3A@h/" = .ok url ∧ url.host = .domain "h" ∧
      ofUrl? url = some ⟨"é@", "p:"⟩ := by
  have filled : "é@" ≠ "" := by decide
  have spellsUser : Percent.Spells (Utf8.encode "é@") "%c3%A9%40".toList :=
    .escaped (by decide) (by decide) (.escaped (by decide) (by decide)
      (.escaped (by decide) (by decide) .nil))
  have escapes : Percent.encode Percent.isPlain "p:".toList = "p%3A".toList := by decide
  have spellsPassword : Percent.Spells (Utf8.encode "p:") "p%3A".toList :=
    escapes ▸ Percent.spells_encode "p:".toList
  exact ⟨⟨filled, spellsUser, spellsPassword⟩,
    (ofUrl?_spelled filled spellsUser spellsPassword).1⟩

end Credentials
end HttpFetch
