import HttpFetch.Proofs.Names
import HttpFetch.Url.Host
/-!
# Hosts that are written and read again

The text of a host is read back as the host (`Host.read_bracketed`): four decimal numbers as the
IPv4 address, hexadecimal groups in brackets as the IPv6 address whether or not a run of zeros was
left out of them, and a domain name as itself, provided it is its own ASCII form.
-/

namespace HttpFetch

/-! ## Numbers -/

namespace Ascii

theorem digitValue?_digitChar : ∀ d < 16, digitValue? d.digitChar = some d := by decide

/-- The digits of a number denote it. -/
theorem valueInBase?_toDigits {base : Nat} (low : 1 < base) (high : base ≤ 16) (n : Nat) :
    valueInBase? base (Nat.toDigits base n) = some n := by
  have single {d m : Nat} (digit : d < base) : [d.digitChar].foldlM (fun n c => do
      let d ← digitValue? c
      if d < base then some (n * base + d) else none) m = some (m * base + d) := by
    simp [digitValue?_digitChar d (by omega), digit]
  induction n using Nat.strongRecOn with
  | ind n ih =>
    rw [Nat.toDigits_eq_if low]
    split_ifs with small
    · rw [valueInBase?, single small, Nat.zero_mul, Nat.zero_add]
    · have shorter : n / base < n := Nat.div_lt_self (by omega) low
      have front := ih (n / base) shorter
      rw [valueInBase?] at front ⊢
      rw [List.foldlM_append, front, Option.bind_eq_bind, Option.bind_some]
      exact (single (Nat.mod_lt n (by omega))).trans (by rw [Nat.mul_comm, Nat.div_add_mod])

/-- A number is written in digits of its base. -/
theorem exists_digit_of_mem_toDigits {base n : Nat} (low : 1 < base) {c : Char}
    (h : c ∈ Nat.toDigits base n) : ∃ d < base, c = d.digitChar := by
  induction n using Nat.strongRecOn with
  | ind n ih =>
    rw [Nat.toDigits_eq_if low] at h
    split_ifs at h with small
    · exact ⟨n, small, List.mem_singleton.1 h⟩
    · rcases List.mem_append.1 h with front | last
      · exact ih (n / base) (Nat.div_lt_self (by omega) low) front
      · exact ⟨n % base, Nat.mod_lt n (by omega), List.mem_singleton.1 last⟩

theorem isHexDigit_digitChar : ∀ d < 16, isHexDigit d.digitChar = true := by decide

end Ascii

/-! ## IPv4 addresses -/

namespace Ipv4

/-- The decimal digits of a byte. -/
def digits (octet : UInt8) : List Char := Nat.toDigits 10 octet.toNat

theorem octet?_toDigits : ∀ n < 256, octet? (Nat.toDigits 10 n) = some n.toUInt8 := by
  decide +kernel

theorem number?_toDigits : ∀ n < 256, number? (Nat.toDigits 10 n) = some n := by
  decide +kernel

theorem octet?_digits (octet : UInt8) : octet? (digits octet) = some octet := by
  rw [digits, octet?_toDigits _ octet.toNat_lt, Nat.toUInt8_eq, UInt8.ofNat_toNat]

theorem number?_digits (octet : UInt8) : number? (digits octet) = some octet.toNat :=
  number?_toDigits _ octet.toNat_lt

theorem isDigit_of_mem_digits {octet : UInt8} {c : Char} (h : c ∈ digits octet) :
    c.isDigit = true :=
  Nat.isDigit_of_mem_toDigits (by decide) (by decide) h

/-- The octets make up the number of their address. -/
theorem ofNat_octets (a b c d : UInt8) :
    ofNat (((a.toNat * 256 + b.toNat) * 256 + c.toNat) * 256 + d.toNat) = ⟨a, b, c, d⟩ := by
  have ha := a.toNat_lt
  have hb := b.toNat_lt
  have hc := c.toNat_lt
  have hd := d.toNat_lt
  have first :
      (((a.toNat * 256 + b.toNat) * 256 + c.toNat) * 256 + d.toNat) / 16777216 = a.toNat := by
    omega
  have second : (((a.toNat * 256 + b.toNat) * 256 + c.toNat) * 256 + d.toNat) / 65536 % 256 =
      b.toNat := by omega
  have third : (((a.toNat * 256 + b.toNat) * 256 + c.toNat) * 256 + d.toNat) / 256 % 256 =
      c.toNat := by omega
  have fourth : (((a.toNat * 256 + b.toNat) * 256 + c.toNat) * 256 + d.toNat) % 256 = d.toNat := by
    omega
  simp only [ofNat, first, second, third, fourth, Nat.toUInt8_eq, UInt8.ofNat_toNat]

variable (address : Ipv4)

/-- The four numbers of the text. -/
def pieces : List (List Char) := address.octets.map digits

theorem toList_text : address.text.toList = ['.'].intercalate address.pieces := by
  rw [text, String.toList_intercalate]
  simp only [pieces, List.map_map, Function.comp_def, Nat.toString_eq_repr, Nat.toList_repr]
  rfl

theorem splitOn_text : Text.splitOn (· = '.') address.text.toList = address.pieces := by
  rw [toList_text, Text.splitOn_intercalate rfl _ (by simp [pieces, octets])]
  intro piece hpiece c mem
  obtain ⟨octet, -, rfl⟩ := List.mem_map.1 hpiece
  have digit : c.isDigit = true := isDigit_of_mem_digits mem
  refine decide_eq_false ?_
  rintro rfl
  exact absurd digit (by decide)

theorem pieces_ne_nil {piece : List Char} (h : piece ∈ address.pieces) : piece ≠ [] := by
  obtain ⟨octet, -, rfl⟩ := List.mem_map.1 h
  exact Nat.toDigits_ne_nil

/-- The canonical text is read as the address. -/
theorem readDotted?_text : readDotted? address.text.toList = some address := by
  rw [readDotted?, splitOn_text]
  simp [pieces, octets, octet?_digits]

theorem parts_text : parts address.text.toList = address.pieces := by
  have filled : address.pieces.getLast? ≠ some [] := by
    intro h
    exact address.pieces_ne_nil (List.mem_of_getLast? h) rfl
  simp only [parts, splitOn_text, if_neg filled]

theorem endsInNumber_text : endsInNumber address.text.toList = true := by
  have last : address.pieces.getLast? = some (digits address.d) := rfl
  simp only [endsInNumber, parts_text, last, number?_digits, Option.isSome_some, Bool.or_true]

/-- **The text of an address in the place of a host is read as the address.** -/
theorem readHost?_text : readHost? address.text.toList = some address := by
  have numbers : address.pieces.mapM number? = some (address.octets.map UInt8.toNat) := by
    rw [pieces, List.mapM_map]
    exact mapM_eq_map fun octet _ => number?_digits octet
  have small : address.d.toNat < 256 := address.d.toNat_lt
  have number : combine? (address.octets.map UInt8.toNat) = some
      (((address.a.toNat * 256 + address.b.toNat) * 256 + address.c.toNat) * 256 +
        address.d.toNat) := by
    have ha := address.a.toNat_lt
    have hb := address.b.toNat_lt
    have hc := address.c.toNat_lt
    simp [combine?, octets]
    omega
  simp [readHost?, parts_text, numbers, number, ofNat_octets]

/-- The text has digits and dots. -/
theorem mem_text {c : Char} (h : c ∈ address.text.toList) : c = '.' ∨ c.isDigit = true := by
  rw [toList_text] at h
  rcases Text.mem_intercalate h with dot | ⟨piece, hpiece, mem⟩
  · exact .inl dot
  · obtain ⟨octet, -, rfl⟩ := List.mem_map.1 hpiece
    exact .inr (isDigit_of_mem_digits mem)

theorem text_ne_nil : address.text.toList ≠ [] := by
  intro empty
  have number := address.endsInNumber_text
  rw [empty] at number
  exact absurd number (by decide)

end Ipv4
/-! ## IPv6 addresses -/

namespace Ipv6

/-- The hexadecimal digits of a group. -/
def digits (group : UInt16) : List Char := Nat.toDigits 16 group.toNat

theorem digits_ne_nil (group : UInt16) : digits group ≠ [] := Nat.toDigits_ne_nil

/-- A group is written in letters and figures. -/
theorem isHexDigit_of_mem_digits {group : UInt16} {c : Char} (h : c ∈ digits group) :
    Ascii.isHexDigit c = true := by
  obtain ⟨d, small, rfl⟩ := Ascii.exists_digit_of_mem_toDigits (by decide) h
  exact Ascii.isHexDigit_digitChar d small

theorem ne_of_mem_digits {group : UInt16} {c mark : Char} (h : c ∈ digits group)
    (noDigit : Ascii.isHexDigit mark = false) : c ≠ mark := by
  rintro rfl
  rw [isHexDigit_of_mem_digits h] at noDigit
  exact Bool.noConfusion noDigit

theorem group?_digits (group : UInt16) : group? (digits group) = some group := by
  have short : (digits group).length ≤ 4 :=
    (Nat.length_toDigits_le_iff (by decide) (by decide)).2 group.toNat_lt
  rw [group?, if_pos ⟨digits_ne_nil group, short⟩, digits,
    Ascii.valueInBase?_toDigits (by decide) (by decide), Option.map_some, Nat.toUInt16_eq,
    UInt16.ofNat_toNat]

/-- A group at the end is no IPv4 address. -/
theorem lastGroups?_digits (group : UInt16) : lastGroups? (digits group) = some [group] := by
  have noDot : (digits group).contains '.' = false := by
    refine Bool.eq_false_iff.2 fun dot => ?_
    have noHex : Ascii.isHexDigit '.' = false := rfl
    exact ne_of_mem_digits (List.contains_iff_mem.1 dot) noHex rfl
  rw [lastGroups?, noDot, if_neg Bool.false_ne_true, group?_digits, Option.map_some]

theorem toList_groupsText (groups : List UInt16) :
    (groupsText groups).toList = [':'].intercalate (groups.map digits) := by
  rw [groupsText, String.toList_intercalate]
  simp only [List.map_map, Function.comp_def, Ascii.hexText, String.toList_ofList]
  rfl

theorem splitOn_groupsText {groups : List UInt16} (filled : groups ≠ []) :
    Text.splitOn (· = ':') (groupsText groups).toList = groups.map digits := by
  rw [toList_groupsText, Text.splitOn_intercalate rfl _ (by simpa using filled)]
  intro piece hpiece c mem
  obtain ⟨group, -, rfl⟩ := List.mem_map.1 hpiece
  exact decide_eq_false (ne_of_mem_digits mem rfl)

/-- Groups are read as they were written. -/
theorem groups?_groupsText (atEnd : Bool) (groups : List UInt16) :
    groups? atEnd (groupsText groups).toList = some groups := by
  rcases List.eq_nil_or_concat groups with rfl | ⟨leading, last, rfl⟩
  · rfl
  · have pieces : Text.splitOn (· = ':') (groupsText (leading ++ [last])).toList =
        leading.map digits ++ [digits last] := by
      rw [splitOn_groupsText (by simp), List.map_append, List.map_singleton]
    have filled : (groupsText (leading ++ [last])).toList.isEmpty = false := by
      refine Bool.eq_false_iff.2 fun empty => ?_
      rw [List.isEmpty_iff.1 empty] at pieces
      have last : some [] = some (digits last) := by
        simpa [Text.splitOn] using congrArg List.getLast? pieces
      exact digits_ne_nil _ (Option.some.inj last).symm
    have front : (leading.map digits).mapM group? = some leading := by
      rw [List.mapM_map]
      exact (mapM_eq_map (g := id) fun group _ => group?_digits group).trans (by rw [List.map_id])
    rw [List.concat_eq_append, groups?, filled]
    simp only [pieces, Bool.false_eq_true, if_false]
    cases atEnd <;> simp [front, lastGroups?_digits, group?_digits]

/-! ### The gap -/

/-- Without a colon there is no gap to find. -/
theorem cutAtGap?_append {piece : List Char} (noColon : ∀ c ∈ piece, c ≠ ':') (rest : List Char) :
    cutAtGap? (piece ++ rest) =
      (cutAtGap? rest).map fun (before, after) => (piece ++ before, after) := by
  induction piece with
  | nil => simp
  | cons c cs ih =>
    have here : c ≠ ':' := noColon c List.mem_cons_self
    rw [List.cons_append, cutAtGap?, ih fun d mem => noColon d (List.mem_cons_of_mem _ mem)]
    · simp [Function.comp_def]
    · rintro rest rfl
      exact absurd rfl here

/-- A colon that no other follows is no gap. -/
theorem cutAtGap?_colon {rest : List Char} (single : rest.head? ≠ some ':') :
    cutAtGap? (':' :: rest) =
      (cutAtGap? rest).map fun (before, after) => (':' :: before, after) := by
  rw [cutAtGap?]
  rintro later - rfl
  exact single rfl

/-- Groups apart by single colons have no gap. -/
theorem cutAtGap?_groupsText (groups : List UInt16) (tail : List Char) :
    cutAtGap? ((groupsText groups).toList ++ tail) =
      (cutAtGap? tail).map fun (before, after) =>
        ((groupsText groups).toList ++ before, after) := by
  have noColon {group : UInt16} : ∀ c ∈ digits group, c ≠ ':' := fun c mem =>
    ne_of_mem_digits mem rfl
  simp only [toList_groupsText]
  induction groups with
  | nil => simp
  | cons g rest ih =>
    cases rest with
    | nil => simpa using cutAtGap?_append noColon tail
    | cons next rest =>
      have single : ([':'].intercalate ((next :: rest).map digits) ++ tail).head? ≠ some ':' := by
        obtain ⟨c, cs, hnext⟩ := List.exists_cons_of_ne_nil (digits_ne_nil next)
        have first : c ≠ ':' := noColon c (hnext ▸ List.mem_cons_self)
        cases rest <;> simp [hnext, first]
      simp only [List.map_cons, List.intercalate_cons_cons, List.append_assoc,
        List.singleton_append] at ih single ⊢
      rw [cutAtGap?_append noColon, List.cons_append, cutAtGap?_colon single, ih]
      simp [Function.comp_def]

/-- The longest run is a run of zeros. -/
theorem longestRun_spec (index : Nat) (groups : List UInt16) :
    ∃ before after, (longestRun index groups).1 = index + before.length ∧
      groups = before ++ List.replicate (longestRun index groups).2 0 ++ after := by
  induction groups generalizing index with
  | nil => exact ⟨[], [], rfl, rfl⟩
  | cons g rest ih =>
    rw [longestRun]
    obtain ⟨before, after, start, parts⟩ := ih (index + 1)
    split_ifs with later
    · have zeros : (g :: rest).takeWhile (· == 0) = List.replicate (zeroRun (g :: rest)) 0 :=
        List.eq_replicate_iff.2 ⟨rfl, fun b mem => by
          simpa using List.all_eq_true.1 List.all_takeWhile b mem⟩
      refine ⟨[], (g :: rest).dropWhile (· == 0), rfl, ?_⟩
      rw [List.nil_append, ← zeros, List.takeWhile_append_dropWhile]
    · refine ⟨g :: before, after, ?_, ?_⟩
      · rw [start, List.length_cons]
        omega
      · rw [List.cons_append, List.cons_append, ← parts]

theorem ofGroups?_groups (address : Ipv6) : ofGroups? address.groups = some address :=
  dif_pos address.length_eq

/-- Groups around a gap are filled up with zeros. -/
theorem read?_gap {left right : List UInt16} {n : Nat} (wide : 0 < n)
    (length : left.length + n + right.length = 8) :
    read? ((groupsText left).toList ++ ':' :: ':' :: (groupsText right).toList) =
      ofGroups? (left ++ List.replicate n 0 ++ right) := by
  have missing : 8 - left.length - right.length = n := by omega
  have few : left.length + right.length ≤ 7 := by omega
  simp [read?, cutAtGap?_groupsText, cutAtGap?, groups?_groupsText, missing, few]

/-- Two groups and the octets that stand for them. -/
theorem groups_ofNat {high low : UInt16} {v4 : Ipv4}
    (h : Ipv4.ofNat (high.toNat * 65536 + low.toNat) = v4) :
    (v4.a.toNat * 256 + v4.b.toNat).toUInt16 = high ∧
      (v4.c.toNat * 256 + v4.d.toNat).toUInt16 = low := by
  have upper (m n : Nat) (small : n < 65536) :
      (m * 65536 + n) / 16777216 * 256 + (m * 65536 + n) / 65536 % 256 = m := by omega
  have lower (m n : Nat) (small : n < 65536) :
      (m * 65536 + n) / 256 % 256 * 256 + (m * 65536 + n) % 256 = n := by omega
  have first (m n : Nat) (small : m < 65536) (small' : n < 65536) :
      (m * 65536 + n) / 16777216 < 256 := by omega
  have byte {n : Nat} (small : n < 256) : n.toUInt8.toNat = n := Utf8.toNat_toUInt8 small
  subst h
  simp only [Ipv4.ofNat, byte (first _ _ high.toNat_lt low.toNat_lt),
    byte (Nat.mod_lt _ (by decide : 0 < 256)), upper _ _ low.toNat_lt, lower _ _ low.toNat_lt,
    Nat.toUInt16_eq, UInt16.ofNat_toNat, and_self]

/-- An IPv4 address at the end stands for two groups. -/
theorem lastGroups?_ipv4 (v4 : Ipv4) : lastGroups? v4.text.toList = some
    [(v4.a.toNat * 256 + v4.b.toNat).toUInt16, (v4.c.toNat * 256 + v4.d.toNat).toUInt16] := by
  have dot : v4.text.toList.contains '.' = true := by
    rw [Ipv4.toList_text, List.contains_iff_mem]
    simp [Ipv4.pieces, Ipv4.octets, List.intercalate_cons_cons]
  rw [lastGroups?, dot, if_pos rfl, Ipv4.readDotted?_text, Option.map_some]

/-- A mapped address keeps the dots of its IPv4 address. -/
theorem read?_mapped (v4 : Ipv4) : read? ("::ffff:" ++ v4.text).toList = ofGroups?
    [0, 0, 0, 0, 0, 0xFFFF, (v4.a.toNat * 256 + v4.b.toNat).toUInt16,
      (v4.c.toNat * 256 + v4.d.toNat).toUInt16] := by
  have pieces : Text.splitOn (· = ':') ("ffff:".toList ++ v4.text.toList) =
      ["ffff".toList, v4.text.toList] := by
    have absent : ∀ c ∈ v4.text.toList, decide (c = ':') = false := by
      intro c mem
      refine decide_eq_false ?_
      rintro rfl
      exact (v4.mem_text mem).elim (absurd · (by decide)) (absurd · (by decide))
    have first : ∀ c ∈ "ffff".toList, decide (c = ':') = false := forall_mem_of_all (by decide)
    have cut : Text.splitOn (· = ':') ("ffff".toList ++ ':' :: v4.text.toList) = _ :=
      Text.splitOn_append_cons first rfl v4.text.toList
    rwa [Text.splitOn_of_absent absent] at cut
  have group : group? "ffff".toList = some 0xFFFF := by decide
  have right : groups? true ("ffff:".toList ++ v4.text.toList) =
      some [0xFFFF, (v4.a.toNat * 256 + v4.b.toNat).toUInt16,
        (v4.c.toNat * 256 + v4.d.toNat).toUInt16] := by
    generalize "ffff".toList = marks at pieces group
    rw [groups?]
    simp only [pieces]
    simp [group, lastGroups?_ipv4]
  have cut : cutAtGap? ("::ffff:" ++ v4.text).toList =
      some ([], "ffff:".toList ++ v4.text.toList) := by
    rw [String.toList_append]
    rfl
  rw [read?, cut]
  simp only [right]
  rfl

/-- **The text of an address is read as the address.** -/
theorem read?_text (address : Ipv6) : read? address.text.toList = some address := by
  rw [text]
  split
  · rename_i v4 hmapped
    rw [mapped?] at hmapped
    split at hmapped
    · rename_i high low hgroups
      obtain ⟨hhigh, hlow⟩ := groups_ofNat (Option.some.inj hmapped)
      rw [read?_mapped, hhigh, hlow, ← hgroups, ofGroups?_groups]
    · simp at hmapped
  · obtain ⟨before, after, start, parts⟩ := longestRun_spec 0 address.groups
    cases hrun : longestRun 0 address.groups with
    | mk s n =>
    rw [hrun, Nat.zero_add] at start
    rw [hrun] at parts
    simp only at start parts ⊢
    split_ifs with gap
    · have left : address.groups.take s = before := by
        rw [parts, start, List.append_assoc, List.take_left]
      have right : address.groups.drop (s + n) = after := by
        rw [parts, start, List.drop_left' (by simp)]
      have length := address.length_eq
      rw [parts, List.length_append, List.length_append, List.length_replicate] at length
      rw [left, right, String.toList_append, String.toList_append, List.append_assoc]
      exact (read?_gap (by omega) length).trans (by rw [← parts, ofGroups?_groups])
    · have whole : cutAtGap? (groupsText address.groups).toList = none := by
        simpa [cutAtGap?] using cutAtGap?_groupsText address.groups []
      simp [read?, whole, groups?_groupsText, ofGroups?_groups]

/-- The text has hexadecimal digits, colons and dots. -/
theorem mem_text {address : Ipv6} {c : Char} (h : c ∈ address.text.toList) :
    Ascii.isHexDigit c = true ∨ c = ':' ∨ c = '.' := by
  have group {groups : List UInt16} (h : c ∈ (groupsText groups).toList) :
      Ascii.isHexDigit c = true ∨ c = ':' ∨ c = '.' := by
    rw [toList_groupsText] at h
    rcases Text.mem_intercalate h with colon | ⟨piece, hpiece, mem⟩
    · exact .inr (.inl colon)
    · obtain ⟨group, -, rfl⟩ := List.mem_map.1 hpiece
      exact .inl (isHexDigit_of_mem_digits mem)
  have figure {c : Char} (h : c.isDigit = true) : Ascii.isHexDigit c = true := by
    rw [Ascii.isHexDigit, Ascii.digitValue?, if_pos]
    · rfl
    · rwa [Char.isDigit, Bool.and_eq_true, decide_eq_true_eq, decide_eq_true_eq] at h
  rw [text] at h
  split at h
  · rename_i v4 _
    rw [String.toList_append, List.mem_append] at h
    rcases h with mark | mem
    · have marks : ∀ d ∈ "::ffff:".toList, Ascii.isHexDigit d = true ∨ d = ':' ∨ d = '.' :=
        forall_mem_of_all (by decide)
      exact marks c mark
    · exact (v4.mem_text mem).elim (fun dot => .inr (.inr dot)) fun digit => .inl (figure digit)
  · simp only at h
    split_ifs at h
    · rw [String.toList_append, String.toList_append, List.mem_append, List.mem_append] at h
      rcases h with (left | gap) | right
      · exact group left
      · exact .inr (.inl (by simpa using gap))
      · exact group right
    · exact group h

end Ipv6

/-! ## Hosts -/

namespace Host

theorem bracketed_domain (name : String) : (domain name).bracketed = name := rfl

theorem bracketed_ipv4 (address : Ipv4) : (ipv4 address).bracketed = address.text := rfl

theorem toList_bracketed_ipv6 (address : Ipv6) :
    (ipv6 address).bracketed.toList = '[' :: (address.text.toList ++ [']']) := by
  simp [bracketed]

/-- What reading ensures of a domain name: it is not empty, has only characters that may stand in
the place of a host, and is not taken for an IPv4 address. -/
structure IsName (name : List Char) : Prop where
  filled : name ≠ []
  allowed : ∀ c ∈ name, Domain.inName c = true
  noNumber : Ipv4.endsInNumber name = false

/-- What reading ensures of a host. -/
def Proper : Host → Prop
  | .domain name => IsName name.toList
  | .ipv4 _ => True
  | .ipv6 _ => True

/-- A host that was read is proper. -/
theorem proper_of_read {cs : List Char} {host : Host} (h : read cs = .ok host) : host.Proper := by
  rw [read] at h
  split_ifs at h
  · rw [readBracketed] at h
    split at h
    · cases h
      trivial
    · cases h
  · rw [readName] at h
    cases hname : (Utf8.decode? (Percent.decode (Utf8.encodeChars cs))).bind
      fun name => Domain.toAscii? name.toList with
    | none => simp [hname] at h
    | some name =>
      obtain ⟨decoded, -, hascii⟩ := Option.bind_eq_some_iff.1 hname
      rw [hname] at h
      cases name with
      | nil => cases h
      | cons c rest =>
        simp only at h
        split_ifs at h with number
        · split at h
          · cases h
            trivial
          · cases h
        · cases h
          refine ⟨?_, ?_, ?_⟩ <;> rw [String.toList_ofList]
          · exact List.cons_ne_nil c rest
          · exact fun d mem => Domain.inName_of_toAscii? hascii mem
          · exact Bool.eq_false_iff.2 number

/-- A text without a percent sign is decoded as it is. -/
theorem toAscii?_decoded {cs : List Char} (plain : ∀ c ∈ cs, c ≠ '%') :
    (Utf8.decode? (Percent.decode (Utf8.encodeChars cs))).bind
      (fun name => Domain.toAscii? name.toList) = Domain.toAscii? cs := by
  have absent : ∀ b ∈ Utf8.encodeChars cs, b ≠ 0x25 := by
    intro b mem
    have mem : b ∈ Utf8.encode (String.ofList cs) := by rwa [Utf8.encode, String.toList_ofList]
    exact Utf8.ne_of_mem_encode (c := '%') (by decide) (by simpa using plain) mem
  rw [Percent.decode_of_absent absent, Utf8.decode?_encodeChars, Option.bind_some,
    String.toList_ofList]

/-- A text that is its own ASCII form is an address or a name as it stands. -/
theorem readName_of_settled {cs : List Char} (filled : cs ≠ []) (plain : ∀ c ∈ cs, c ≠ '%')
    (settled : Domain.toAscii? cs = some cs) :
    readName cs =
      if Ipv4.endsInNumber cs then
        match Ipv4.readHost? cs with
        | some address => .ok (.ipv4 address)
        | none => .error .ipv4Address
      else .ok (.domain (String.ofList cs)) := by
  rw [readName, toAscii?_decoded plain, settled]
  obtain ⟨c, rest, rfl⟩ := List.exists_cons_of_ne_nil filled
  rfl

/-- A label of figures is its own ASCII form. -/
theorem isPlain_of_isDigit {label : List Char} (digits : ∀ c ∈ label, c.isDigit = true) :
    Domain.IsPlain label := by
  have figure {c : Char} (digit : c.isDigit = true) :
      Domain.inName c = true ∧ Ascii.lower c = c ∧ c ≠ 'x' := by
    have ascii : c.toNat < 128 := by
      simp only [Char.isDigit, Bool.and_eq_true, decide_eq_true_eq, UInt32.le_iff_toNat_le] at digit
      exact Nat.lt_of_le_of_lt digit.2 (by decide)
    revert digit
    exact Ascii.forall_ascii (P := fun c => c.isDigit = true →
      Domain.inName c = true ∧ Ascii.lower c = c ∧ c ≠ 'x') (by decide) ascii
  refine ⟨fun c mem => (figure (digits c mem)).1, fun c mem => (figure (digits c mem)).2.1, ?_⟩
  rw [Domain.afterMarker?]
  rintro rest rfl
  exact (figure (digits 'x' List.mem_cons_self)).2.2 rfl

/-- Decimal numbers apart by dots are their own ASCII form. -/
theorem toAscii?_ipv4 (address : Ipv4) :
    Domain.toAscii? address.text.toList = some address.text.toList := by
  refine Domain.toAscii?_of_plain fun label mem => isPlain_of_isDigit fun c hc => ?_
  rw [Ipv4.splitOn_text] at mem
  obtain ⟨octet, -, rfl⟩ := List.mem_map.1 mem
  exact Ipv4.isDigit_of_mem_digits hc

/-- The characters of a host, its brackets and what is between them apart, may stand in a name. -/
theorem inName_of_mem_ipv4 {address : Ipv4} {c : Char} (mem : c ∈ address.text.toList) :
    Domain.inName c = true :=
  Domain.inName_of_toAscii? (toAscii?_ipv4 address) mem

theorem ne_of_inName {c mark : Char} (h : Domain.inName c = true)
    (separates : mark ∈ "%#/:<>?@[\\]^|".toList) : c ≠ mark := by
  rintro rfl
  exact (Domain.of_inName h).2.2 separates

/-- What is no bracketed address is read as a name. -/
theorem read_of_inName {cs : List Char} (allowed : ∀ c ∈ cs, Domain.inName c = true) :
    read cs = readName cs := by
  refine if_neg fun opens => ?_
  exact ne_of_inName (allowed '[' (List.mem_of_head? opens)) (by decide) rfl

/-- **The text of a host is read as the host**, provided a domain name is its own ASCII form. -/
theorem read_bracketed {host : Host} (proper : host.Proper)
    (settled : ∀ name, host = .domain name → Domain.toAscii? name.toList = some name.toList) :
    read host.bracketed.toList = .ok host := by
  cases host with
  | domain name =>
    have plain : ∀ c ∈ name.toList, c ≠ '%' := fun c mem =>
      ne_of_inName (proper.allowed c mem) (by decide)
    rw [bracketed_domain, read_of_inName proper.allowed,
      readName_of_settled proper.filled plain (settled name rfl), proper.noNumber,
      if_neg Bool.false_ne_true, String.ofList_toList]
  | ipv4 address =>
    have plain : ∀ c ∈ address.text.toList, c ≠ '%' := fun c mem =>
      ne_of_inName (inName_of_mem_ipv4 mem) (by decide)
    rw [bracketed_ipv4, read_of_inName fun c => inName_of_mem_ipv4,
      readName_of_settled address.text_ne_nil plain (toAscii?_ipv4 address),
      address.endsInNumber_text, if_pos rfl, address.readHost?_text]
  | ipv6 address =>
    have inner : unbracket? ('[' :: (address.text.toList ++ [']'])) = some address.text.toList := by
      simp [unbracket?]
    rw [toList_bracketed_ipv6, read, if_pos List.head?_cons, readBracketed, inner, Option.bind_some,
      Ipv6.read?_text]

/-! ### The host in the text of a URL -/

/-- The characters of a host as a URL writes it. -/
def inHost : Char → Bool := Percent.keepsAllBut ['#', '/', '?', '@', '\\']

theorem inHost_of_inName {c : Char} (h : Domain.inName c = true) : inHost c = true := by
  have ascii : c.toNat < 128 := of_decide_eq_true (Domain.inName_iff.1 h).1
  revert h
  exact Ascii.forall_ascii (P := fun c => Domain.inName c = true → inHost c = true) (by decide)
    ascii

theorem inHost_of_isHexDigit {c : Char} (h : Ascii.isHexDigit c = true) : inHost c = true := by
  have ascii : c.toNat < 128 := Ascii.toNat_lt_of_isHexDigit h
  revert h
  exact Ascii.forall_ascii (P := fun c => Ascii.isHexDigit c = true → inHost c = true) (by decide)
    ascii

/-- A host is written in characters of hosts. -/
theorem inHost_of_mem_bracketed {host : Host} (proper : host.Proper) {c : Char}
    (mem : c ∈ host.bracketed.toList) : inHost c = true := by
  cases host with
  | domain name =>
    rw [bracketed_domain] at mem
    exact inHost_of_inName (proper.allowed c mem)
  | ipv4 address =>
    rw [bracketed_ipv4] at mem
    exact inHost_of_inName (inName_of_mem_ipv4 mem)
  | ipv6 address =>
    rw [toList_bracketed_ipv6, List.mem_cons, List.mem_append, List.mem_singleton] at mem
    rcases mem with rfl | mem | rfl
    · rfl
    · rcases Ipv6.mem_text mem with digit | rfl | rfl
      · exact inHost_of_isHexDigit digit
      · rfl
      · rfl
    · rfl

/-- A host is never empty. -/
theorem bracketed_ne_nil {host : Host} (proper : host.Proper) : host.bracketed.toList ≠ [] := by
  cases host with
  | domain name => exact proper.filled
  | ipv4 address => exact address.text_ne_nil
  | ipv6 address =>
    rw [toList_bracketed_ipv6]
    exact List.cons_ne_nil _ _

end Host
end HttpFetch
