import HttpFetch.Proofs.Hosts
import HttpFetch.Transfer.Shown
import Mathlib.Data.List.Forall2
/-!
# What the diagnostic text of a transfer discloses

Two transfers that are alike but for their passwords have the same diagnostic text if and only if
the addresses of their proxies have the same passwords (`shownEngine_eq_iff`). The passwords for the
server and for the proxy make no difference, since the text of credentials does not depend on theirs
(`Template.shown_concealed`). A password in the address of a proxy is written out, and twice at that.
It can be recovered from the text: a text in quotation marks is read back character by character
(`Text.readQuoted?_quotedChar`) and shows where it ends (`Text.quoted_inj`). What is put together
from texts that show where they end shows it as well (`Record.fields_inj`), so that an address, the
proxies and the settings are found again in a text that begins with theirs (`Url.shown_inj`,
`Proxies.shown_inj`, `Settings.shown_inj`).
-/

namespace HttpFetch

/-! ## Quoted texts -/

namespace Text

/-- The character for which an escape stands, from what follows the backslash. -/
def readEscape? : List Char → Option (Char × List Char)
  | 't' :: rest => some ('\t', rest)
  | 'n' :: rest => some ('\n', rest)
  | 'r' :: rest => some ('\r', rest)
  | '0' :: rest => some ('\x00', rest)
  | '"' :: rest => some ('"', rest)
  | '\\' :: rest => some ('\\', rest)
  | 'u' :: '\x7b' :: rest =>
    (Ascii.valueInBase? 16 (rest.takeWhile Ascii.isHexDigit)).map fun n =>
      (Char.ofNat n, (rest.dropWhile Ascii.isHexDigit).tail)
  | _ => none

/-- The first character of a quoted text, unless the text ends here. -/
def readQuoted? : List Char → Option (Char × List Char)
  | [] => none
  | '"' :: _ => none
  | '\\' :: rest => readEscape? rest
  | c :: rest => some (c, rest)

theorem readEscape?_hexText (c : Char) (rest : List Char) :
    readEscape? ('u' :: '\x7b' :: ((Ascii.hexText c.toNat).toList ++ '\x7d' :: rest)) =
      some (c, rest) := by
  have digits : ∀ d ∈ Nat.toDigits 16 c.toNat, Ascii.isHexDigit d = true := by
    intro d mem
    obtain ⟨n, small, rfl⟩ := Ascii.exists_digit_of_mem_toDigits (by decide) mem
    exact Ascii.isHexDigit_digitChar n small
  have stop : Ascii.isHexDigit '\x7d' = false := by decide
  rw [Ascii.hexText, String.toList_ofList, readEscape?,
    List.takeWhile_append_of_pos digits, List.takeWhile_cons_of_neg (by simp [stop]),
    List.append_nil, List.dropWhile_append_of_pos digits,
    List.dropWhile_cons_of_neg (by simp [stop]), List.tail_cons,
    Ascii.valueInBase?_toDigits (by decide) (by decide), Option.map_some, Char.ofNat_toNat]

theorem readQuoted?_cons {c : Char} (quote : c ≠ '"') (backslash : c ≠ '\\') (rest : List Char) :
    readQuoted? (c :: rest) = some (c, rest) := by
  rw [readQuoted?]
  · exact quote
  · exact backslash

/-- A character between quotation marks is read as the character, whatever follows. -/
theorem readQuoted?_quotedChar (c : Char) (rest : List Char) :
    readQuoted? (quotedChar c ++ rest) = some (c, rest) := by
  unfold quotedChar
  split
  case h_7 quote backslash =>
    split_ifs
    · simp only [List.cons_append, List.nil_append, List.append_assoc]
      exact readEscape?_hexText c rest
    · exact readQuoted?_cons quote backslash rest
  all_goals rfl

/-- The quotation mark after a text shows where the text ends. -/
theorem flatMap_quotedChar_inj {as bs x y : List Char}
    (h : as.flatMap quotedChar ++ '"' :: x = bs.flatMap quotedChar ++ '"' :: y) :
    as = bs ∧ x = y := by
  have ends (rest : List Char) : readQuoted? ('"' :: rest) = none := rfl
  induction as generalizing bs with
  | nil =>
    cases bs with
    | nil => exact ⟨rfl, (List.cons.inj h).2⟩
    | cons b bs =>
      have read := readQuoted?_quotedChar b (bs.flatMap quotedChar ++ '"' :: y)
      rw [← List.append_assoc, ← List.flatMap_cons, ← h] at read
      exact nomatch (ends x).symm.trans read
  | cons a as ih =>
    have read := readQuoted?_quotedChar a (as.flatMap quotedChar ++ '"' :: x)
    rw [← List.append_assoc, ← List.flatMap_cons, h] at read
    cases bs with
    | nil => exact nomatch (ends y).symm.trans read
    | cons b bs =>
      rw [List.flatMap_cons, List.append_assoc, readQuoted?_quotedChar] at read
      obtain ⟨rfl, rest⟩ := Prod.mk.inj (Option.some.inj read)
      obtain ⟨rfl, same⟩ := ih rest.symm
      exact ⟨rfl, same⟩

/-- A quoted text is found again in what begins with it. -/
theorem quoted_inj {v w x y : String} (h : quoted v ++ x = quoted w ++ y) : v = w := by
  rw [← String.toList_inj] at h
  simp only [quoted, String.toList_append, String.toList_ofList, List.append_assoc,
    List.append_cancel_left_eq] at h
  exact String.toList_inj.1 (flatMap_quotedChar_inj h).1

theorem quoted_injective : Function.Injective quoted := fun _ _ h =>
  quoted_inj (congrArg (· ++ "") h)

end Text

/-! ## Texts that are told apart -/

namespace Record

variable {v w v' w' x y name : String} {parts parts' : List (String × String)}

/-- Neither of two texts is the beginning of the other, unless they are the same: where one of them
stands it is not taken for the other, whatever follows. -/
def Apart (v w : String) : Prop := ∀ ⦃x y : String⦄, v ++ x = w ++ y → v = w

@[simp]
theorem Apart.refl (v : String) : Apart v v := fun _ _ _ => rfl

/-- The texts of two values are apart if a text that begins with both makes the values the same. -/
theorem Apart.of_inj {shown : α → String} {a b : α}
    (inj : ∀ {x y : String}, shown a ++ x = shown b ++ y → a = b) : Apart (shown a) (shown b) := by
  intro x y h
  rw [inj h]

/-- Texts that are apart are found again in what begins with them. -/
theorem Apart.append_inj (apart : Apart v w) (h : v ++ x = w ++ y) : v = w ∧ x = y := by
  obtain rfl := apart h
  exact ⟨rfl, (String.append_right_inj v).1 h⟩

theorem Apart.append (first : Apart v w) (second : Apart v' w') : Apart (v ++ v') (w ++ w') := by
  intro x y h
  rw [String.append_assoc, String.append_assoc] at h
  obtain ⟨rfl, rest⟩ := first.append_inj h
  rw [second rest]

/-- Fields of the same names with values that are apart. -/
def FieldsApart : List (String × String) → List (String × String) → Prop :=
  List.Forall₂ fun part part' => part.1 = part'.1 ∧ Apart part.2 part'.2

theorem fields_singleton (name value : String) :
    fields [(name, value)] = name ++ ": " ++ value :=
  String.intercalate_singleton

theorem fields_cons_cons (name value : String) (part : String × String)
    (parts : List (String × String)) :
    fields ((name, value) :: part :: parts) =
      name ++ ": " ++ value ++ ", " ++ fields (part :: parts) :=
  String.intercalate_cons_cons

/-- The values of the fields are found again in the text of the fields. -/
theorem fields_inj (apart : FieldsApart parts parts') (h : fields parts ++ x = fields parts' ++ y) :
    parts = parts' := by
  induction apart with
  | nil => rfl
  | @cons part part' rest rest' first later ih =>
    obtain ⟨name, value⟩ := part
    obtain ⟨name', value'⟩ := part'
    obtain ⟨rfl : name = name', values : Apart value value'⟩ := first
    cases later with
    | nil =>
      simp only [fields_singleton, String.append_assoc, String.append_right_inj] at h
      rw [values h]
    | cons second others =>
      simp only [fields_cons_cons, String.append_assoc, String.append_right_inj] at h
      obtain ⟨rfl, tail⟩ := values.append_inj h
      rw [ih ((String.append_right_inj _).1 tail)]

theorem closed_inj (apart : FieldsApart parts parts')
    (h : closed name parts ++ x = closed name parts' ++ y) : parts = parts' := by
  simp only [closed, String.append_assoc, String.append_right_inj] at h
  exact fields_inj apart h

theorem opened_inj (apart : FieldsApart parts parts') (h : opened name parts = opened name parts') :
    parts = parts' := by
  simp only [opened, String.append_assoc, String.append_right_inj] at h
  exact fields_inj apart h

theorem apart_quoted (v w : String) : Apart (Text.quoted v) (Text.quoted w) :=
  .of_inj Text.quoted_inj

/-- Optional values are apart if their values are. -/
theorem apart_optional {shown : α → String} {a b : Option α}
    (apart : ∀ v ∈ a, ∀ w ∈ b, Apart (shown v) (shown w)) :
    Apart (optional shown a) (optional shown b) := by
  intro x y h
  cases a with
  | none =>
    cases b with
    | none => rfl
    | some w => simp [optional, tagged, ← String.toList_inj] at h
  | some v =>
    cases b with
    | none => simp [optional, tagged, ← String.toList_inj] at h
    | some w =>
      exact (((Apart.refl _).append (apart v rfl w rfl)).append (Apart.refl _)) h

theorem optional_inj {shown : α → String} {a b : Option α}
    (h : optional shown a = optional shown b) : a.map shown = b.map shown := by
  cases a <;> cases b <;> simp [optional, tagged, ← String.toList_inj] at h ⊢
  exact h

end Record

/-! ## Addresses -/

namespace Url

/-- An address but for its password. -/
def concealed (url : Url) : Url := { url with secret := none }

/-- Addresses that are alike but for their passwords are the same with the same password. -/
theorem eq_withSecret {url other : Url} (alike : url.concealed = other.concealed) :
    url = { other with secret := url.secret } :=
  calc url = { url.concealed with secret := url.secret } := rfl
    _ = { other with secret := url.secret } := by rw [alike]; rfl

variable {a b : Url} {x y : String}

/-- The parts of an address tell its password. -/
theorem shownParts_inj (alike : a.concealed = b.concealed)
    (h : a.shownParts ++ x = b.shownParts ++ y) : a = b := by
  rw [eq_withSecret alike] at h ⊢
  generalize a.secret = secret at h ⊢
  rw [shownParts, shownParts] at h
  have parts := Record.closed_inj
    (by simp [Record.FieldsApart, path, Record.apart_optional, Record.apart_quoted]) h
  have password : Record.optional Text.quoted secret = Record.optional Text.quoted b.secret := by
    simpa [path] using parts
  rw [Option.map_injective Text.quoted_injective (Record.optional_inj password)]

/-- The text of an address tells it from all that are alike but for the password. -/
theorem shown_inj (alike : a.concealed = b.concealed) (h : a.shown ++ x = b.shown ++ y) :
    a = b := by
  have inner : Record.Apart a.shownParts b.shownParts := .of_inj (shownParts_inj alike)
  rw [shown, shown] at h
  have parts := Record.closed_inj ?_ h
  · have first : a.shownParts = b.shownParts := by
      simpa using congrArg List.head? parts
    exact shownParts_inj alike (congrArg (· ++ "") first)
  · rw [eq_withSecret alike] at inner ⊢
    simp [Record.FieldsApart, inner, port, username, Record.apart_optional, Record.apart_quoted]

theorem cases_of_map_concealed {a b : Option Url} (alike : a.map concealed = b.map concealed) :
    a = none ∧ b = none ∨ ∃ u v, a = some u ∧ b = some v ∧ u.concealed = v.concealed := by
  cases a with
  | none =>
    cases b with
    | none => exact .inl ⟨rfl, rfl⟩
    | some v => cases alike
  | some u =>
    cases b with
    | none => cases alike
    | some v => exact .inr ⟨u, v, rfl, rfl, Option.some.inj alike⟩

theorem optional_shown_inj {a b : Option Url} (alike : a.map concealed = b.map concealed)
    (h : Record.optional shown a ++ x = Record.optional shown b ++ y) : a = b := by
  obtain ⟨rfl, rfl⟩ | ⟨u, v, rfl, rfl, within⟩ := cases_of_map_concealed alike
  · rfl
  · simp only [Record.optional, Record.tagged, String.append_assoc, String.append_right_inj] at h
    rw [shown_inj within h]

/-- Alike addresses with the same password are the same, if there are any. -/
theorem eq_of_bind_password {a b : Option Url} (alike : a.map concealed = b.map concealed)
    (same : a.bind password = b.bind password) : a = b := by
  obtain ⟨rfl, rfl⟩ | ⟨u, v, rfl, rfl, within⟩ := cases_of_map_concealed alike
  · rfl
  · have secret : u.secret = v.secret := same
    rw [eq_withSecret within, secret]

end Url

/-! ## Proxies and settings -/

namespace Proxies

/-- The proxies but for the passwords in their addresses. -/
def concealed (proxies : Proxies) : Proxies where
  http := proxies.http.map Url.concealed
  https := proxies.https.map Url.concealed

variable {p q : Proxies} {x y : String}

/-- The text of proxies tells them from all that are alike but for the passwords. -/
theorem shown_inj (alike : p.concealed = q.concealed) (h : p.shown ++ x = q.shown ++ y) :
    p = q := by
  obtain ⟨http, https⟩ := Proxies.mk.inj alike
  have first : Record.Apart (Record.optional Url.shown p.http) (Record.optional Url.shown q.http) :=
    .of_inj (Url.optional_shown_inj http)
  have second :
      Record.Apart (Record.optional Url.shown p.https) (Record.optional Url.shown q.https) :=
    .of_inj (Url.optional_shown_inj https)
  rw [shown, shown] at h
  have parts := Record.closed_inj (by simp [Record.FieldsApart, first, second]) h
  simp only [List.cons.injEq, Prod.mk.injEq, true_and, and_true] at parts
  calc p = ⟨p.http, p.https⟩ := rfl
    _ = ⟨q.http, q.https⟩ := by
      rw [Url.optional_shown_inj http (congrArg (· ++ "") parts.1),
        Url.optional_shown_inj https (congrArg (· ++ "") parts.2)]
    _ = q := rfl

/-- Alike proxies with the same passwords are the same. -/
theorem eq_of_password (alike : p.concealed = q.concealed)
    (same : ∀ scheme,
      (p.forScheme scheme).bind Url.password = (q.forScheme scheme).bind Url.password) :
    p = q := by
  obtain ⟨http, https⟩ := Proxies.mk.inj alike
  have first : p.http = q.http := Url.eq_of_bind_password http (same .http)
  have second : p.https = q.https := Url.eq_of_bind_password https (same .https)
  calc p = ⟨p.http, p.https⟩ := rfl
    _ = q := by rw [first, second]

end Proxies

namespace Settings

/-- The settings but for the passwords in the addresses of the proxies. -/
def concealed (settings : Settings) : Settings :=
  { settings with proxies := settings.proxies.concealed }

variable {s t : Settings} {x y : String}

theorem eq_withProxies (alike : s.concealed = t.concealed) : s = { t with proxies := s.proxies } :=
  calc s = { s.concealed with proxies := s.proxies } := rfl
    _ = { t with proxies := s.proxies } := by rw [alike]; rfl

theorem proxies_concealed (alike : s.concealed = t.concealed) :
    s.proxies.concealed = t.proxies.concealed :=
  congrArg proxies alike

/-- The text of settings tells them from all that are alike but for the passwords. -/
theorem shown_inj (alike : s.concealed = t.concealed) (h : s.shown ++ x = t.shown ++ y) :
    s = t := by
  have inner : Record.Apart s.proxies.shown t.proxies.shown :=
    .of_inj (Proxies.shown_inj (proxies_concealed alike))
  have proxies : s.proxies = t.proxies := by
    rw [shown, shown] at h
    have parts := Record.closed_inj ?_ h
    · simp only [List.cons.injEq, Prod.mk.injEq, true_and] at parts
      obtain ⟨-, -, -, -, fifth, -⟩ := parts
      exact Proxies.shown_inj (proxies_concealed alike) (congrArg (· ++ "") fifth)
    · rw [eq_withProxies alike]
      simp [Record.FieldsApart, inner]
  rw [eq_withProxies alike, proxies]

end Settings

/-! ## Templates -/

namespace Credentials

/-- Credentials but for the password. -/
def concealed (c : Credentials) : Credentials := { c with password := "" }

end Credentials

namespace Template

/-- A template but for the passwords. -/
def concealed (template : Template) : Template :=
  { template with
    httpAuth := template.httpAuth.map Credentials.concealed
    proxyAuth := template.proxyAuth.map Credentials.concealed }

/-- The text of a template tells no password. -/
theorem shown_concealed (template : Template) : template.concealed.shown = template.shown := by
  have hidden (auth : Option Credentials) :
      Record.optional Credentials.shown (auth.map Credentials.concealed) =
        Record.optional Credentials.shown auth := by
    cases auth <;> rfl
  rw [shown, shown, concealed, hidden, hidden]

theorem shown_eq_of_concealed {template template' : Template}
    (alike : template.concealed = template'.concealed) : template.shown = template'.shown := by
  rw [← shown_concealed, alike, shown_concealed]

end Template

/-! ## Transfers -/

section

variable {settings settings' : Settings} {template template' : Template} {callback : Bool}

/-- The text of a transfer tells its settings from all that are alike but for the passwords. -/
theorem settings_eq_of_shownEngine (alike : settings.concealed = settings'.concealed)
    (requests : template.concealed = template'.concealed)
    (h : shownEngine settings template callback = shownEngine settings' template' callback) :
    settings = settings' := by
  rw [shownEngine, shownEngine, Template.shown_eq_of_concealed requests] at h
  have parts := Record.opened_inj ?_ h
  · have first : settings.shown = settings'.shown := by
      simpa using congrArg List.head? parts
    exact Settings.shown_inj alike (congrArg (· ++ "") first)
  · have config : Record.Apart settings.shown settings'.shown := .of_inj (Settings.shown_inj alike)
    simp [Record.FieldsApart, config]

/-- **Of transfers that are alike but for their passwords the diagnostic texts are the same if and
only if the addresses of the proxies have the same passwords.** -/
theorem shownEngine_eq_iff (alike : settings.concealed = settings'.concealed)
    (requests : template.concealed = template'.concealed) :
    shownEngine settings template callback = shownEngine settings' template' callback ↔
      ∀ scheme, (settings.proxies.forScheme scheme).bind Url.password =
        (settings'.proxies.forScheme scheme).bind Url.password := by
  constructor
  · intro h scheme
    rw [settings_eq_of_shownEngine alike requests h]
  · intro same
    have proxies : settings.proxies = settings'.proxies :=
      Proxies.eq_of_password (Settings.proxies_concealed alike) same
    rw [Settings.eq_withProxies alike, proxies, shownEngine, shownEngine,
      Template.shown_eq_of_concealed requests]

end

/-- A proxy whose address has a password. -/
def Proxies.locked (password : String) : Proxies where
  https := some {
    scheme := .http, userName := "user", secret := some password, host := .domain "proxy.test"
    explicitPort := none, segments := [""], query := none, fragment := none }

/-- Other credentials for the server do not show, another password in the address of a proxy does. -/
theorem shownEngine_eq_iff_locked :
    shownEngine { proxies := .locked "a" } { httpAuth := some ⟨"user", "a"⟩ } true =
        shownEngine { proxies := .locked "a" } { httpAuth := some ⟨"user", "b"⟩ } true ∧
      shownEngine { proxies := .locked "a" } {} true ≠
        shownEngine { proxies := .locked "b" } {} true :=
  ⟨(shownEngine_eq_iff rfl rfl).2 fun _ => rfl,
    fun same => absurd ((shownEngine_eq_iff (by rfl) (by rfl)).1 same .https) (by decide)⟩

/-- Transfers that are alike but for their passwords need not have the same text. -/
theorem not_shownEngine_eq_of_concealed :
    ¬ ∀ (settings settings' : Settings) (template template' : Template) (callback : Bool),
      settings.concealed = settings'.concealed → template.concealed = template'.concealed →
        shownEngine settings template callback = shownEngine settings' template' callback := by
  intro same
  have settings : ({ proxies := .locked "a" } : Settings) = { proxies := .locked "b" } :=
    settings_eq_of_shownEngine rfl rfl (same _ _ {} {} true rfl rfl)
  exact absurd settings (by decide)

end HttpFetch
