import HttpFetch.Proofs.Escapes
import HttpFetch.Request.Credentials
/-!
# Credentials in a field

An authorization field carries its pair in Base64. `Base64.decode?` reads that back by the standard:
each letter is worth six bits, four letters make three bytes, and the last four may be filled up. It
reads exactly what is written (`Base64.decode?_eq_some_iff`), so the field of `user:password` gives
the bytes of that text, and different credentials have different fields
(`Credentials.basic_ofPair`).
-/

namespace HttpFetch

/-! ## Reading Base64 -/

namespace Base64

/-- The six bits that a letter of the standard alphabet is worth. -/
def value? (c : Char) : Option Nat :=
  if 'A' ≤ c ∧ c ≤ 'Z' then some (c.toNat - 65)
  else if 'a' ≤ c ∧ c ≤ 'z' then some (c.toNat - 71)
  else if '0' ≤ c ∧ c ≤ '9' then some (c.toNat + 4)
  else if c = '+' then some 62
  else if c = '/' then some 63
  else none

/-- The bytes that values of six bits make, four by four. The last ones may be two or three; `fill`
has to fill them up to four, and their bits beyond the last byte have to be zero. -/
def regroup? (fill : List Char) : List Nat → Option Bytes
  | [] => if fill = [] then some [] else none
  | [_] => none
  | [a, b] =>
    if fill = ['=', '='] ∧ b % 16 = 0 then some [(a * 4 + b / 16).toUInt8] else none
  | [a, b, c] =>
    if fill = ['='] ∧ c % 4 = 0 then
      some [(a * 4 + b / 16).toUInt8, (b % 16 * 16 + c / 4).toUInt8]
    else none
  | a :: b :: c :: d :: rest =>
    (regroup? fill rest).map fun later =>
      (a * 4 + b / 16).toUInt8 :: (b % 16 * 16 + c / 4).toUInt8 :: (c % 4 * 64 + d).toUInt8 :: later

/-- The bytes that a text in Base64 stands for. -/
def decode? (cs : List Char) : Option Bytes :=
  ((cs.takeWhile (· ≠ '=')).mapM value?).bind (regroup? (cs.dropWhile (· ≠ '=')))

/-- The values of the letters that are written for some bytes. -/
def sextets : Bytes → List Nat
  | [] => []
  | [a] => [a.toNat / 4, a.toNat % 4 * 16]
  | [a, b] =>
    let n := a.toNat * 256 + b.toNat
    [n / 1024, n / 16 % 64, n % 16 * 4]
  | a :: b :: c :: rest =>
    let n := (a.toNat * 256 + b.toNat) * 256 + c.toNat
    n / 262144 :: n / 4096 % 64 :: n / 64 % 64 :: n % 64 :: sextets rest

/-- What the letters for some bytes are filled up with. -/
def filling : Bytes → List Char
  | [] => []
  | [_] => ['=', '=']
  | [_, _] => ['=']
  | _ :: _ :: _ :: rest => filling rest

/-- What is written are the letters and what fills them up. -/
theorem encodeChars_eq (bytes : Bytes) :
    encodeChars bytes = (sextets bytes).map letter ++ filling bytes := by
  fun_induction encodeChars bytes with
  | case1 | case2 | case3 => rfl
  | case4 a b c rest n ih => simp only [ih, sextets, filling, List.map_cons, List.cons_append, n]

theorem sextets_lt (bytes : Bytes) : ∀ n ∈ sextets bytes, n < 64 := by
  fun_induction sextets bytes with
  | case1 => simp
  | case2 a =>
    have := a.toNat_lt
    simp only [List.mem_cons, List.not_mem_nil, or_false]
    rintro n (rfl | rfl) <;> omega
  | case3 a b n =>
    have := a.toNat_lt
    have := b.toNat_lt
    simp only [List.mem_cons, List.not_mem_nil, or_false, n]
    rintro n (rfl | rfl | rfl) <;> omega
  | case4 a b c rest n ih =>
    have := a.toNat_lt
    have := b.toNat_lt
    have := c.toNat_lt
    simp only [List.mem_cons, n]
    rintro n (rfl | rfl | rfl | rfl | mem)
    · omega
    · omega
    · omega
    · omega
    · exact ih n mem

theorem filling_eq (bytes : Bytes) : ∀ c ∈ filling bytes, c = '=' := by
  fun_induction filling bytes with
  | case1 | case2 | case3 => simp
  | case4 a b c rest ih => exact ih

/-- A letter is worth the bits it is written for, and no other character is worth them. -/
theorem value?_eq_some_iff {c : Char} {n : Nat} : value? c = some n ↔ n < 64 ∧ c = letter n := by
  constructor
  · intro worth
    have ascii : c.toNat < 128 := by
      rw [value?] at worth
      split_ifs at worth with capital small figure plus slash
      · exact Nat.lt_of_le_of_lt capital.2 (by decide : 'Z'.toNat < 128)
      · exact Nat.lt_of_le_of_lt small.2 (by decide : 'z'.toNat < 128)
      · exact Nat.lt_of_le_of_lt figure.2 (by decide : '9'.toNat < 128)
      · rw [plus]
        decide
      · rw [slash]
        decide
    have each : ∀ n ∈ value? c, n < 64 ∧ c = letter n :=
      Ascii.forall_ascii (P := fun c => ∀ n ∈ value? c, n < 64 ∧ c = letter n) (by decide) ascii
    exact each n worth
  · rintro ⟨small, rfl⟩
    have each : ∀ n < 64, value? (letter n) = some n := by decide
    exact each n small

theorem letter_ne : ∀ n < 64, letter n ≠ '=' := by decide

theorem mapM_value?_eq_some_iff {cs : List Char} {values : List Nat} :
    cs.mapM value? = some values ↔ (∀ n ∈ values, n < 64) ∧ cs = values.map letter := by
  induction cs generalizing values with
  | nil => cases values <;> simp
  | cons c cs ih =>
    rw [List.mapM_cons]
    constructor
    · intro read
      obtain ⟨n, here, read⟩ := Option.bind_eq_some_iff.1 read
      obtain ⟨later, there, same⟩ := Option.bind_eq_some_iff.1 read
      cases same
      obtain ⟨small, rfl⟩ := value?_eq_some_iff.1 here
      obtain ⟨smaller, rfl⟩ := ih.1 there
      refine ⟨fun m mem => ?_, rfl⟩
      rcases List.mem_cons.1 mem with rfl | mem
      · exact small
      · exact smaller m mem
    · rintro ⟨small, written⟩
      cases values with
      | nil => cases written
      | cons n later =>
        obtain ⟨rfl, rfl⟩ := List.cons.inj written
        rw [value?_eq_some_iff.2 ⟨small n List.mem_cons_self, rfl⟩,
          ih.2 ⟨fun m mem => small m (List.mem_cons_of_mem n mem), rfl⟩]
        rfl

theorem toUInt8_eq {n : Nat} {b : UInt8} (same : n = b.toNat) : n.toUInt8 = b := by
  rw [same, Nat.toUInt8_eq, UInt8.ofNat_toNat]

/-- The values for some bytes make these bytes again. -/
theorem regroup?_sextets (bytes : Bytes) :
    regroup? (filling bytes) (sextets bytes) = some bytes := by
  fun_induction sextets bytes with
  | case1 => rfl
  | case2 a =>
    have byte : (a.toNat / 4 * 4 + a.toNat % 4 * 16 / 16).toUInt8 = a := toUInt8_eq (by omega)
    rw [filling, regroup?, if_pos ⟨rfl, by omega⟩, byte]
  | case3 a b n =>
    have := b.toNat_lt
    have first : (n / 1024 * 4 + n / 16 % 64 / 16).toUInt8 = a := toUInt8_eq (by omega)
    have second : (n / 16 % 64 % 16 * 16 + n % 16 * 4 / 4).toUInt8 = b := toUInt8_eq (by omega)
    rw [filling, regroup?, if_pos ⟨rfl, by omega⟩, first, second]
  | case4 a b c rest n ih =>
    have := b.toNat_lt
    have := c.toNat_lt
    have first : (n / 262144 * 4 + n / 4096 % 64 / 16).toUInt8 = a := toUInt8_eq (by omega)
    have second : (n / 4096 % 64 % 16 * 16 + n / 64 % 64 / 4).toUInt8 = b := toUInt8_eq (by omega)
    have third : (n / 64 % 64 % 4 * 64 + n % 64).toUInt8 = c := toUInt8_eq (by omega)
    rw [filling, regroup?, ih, first, second, third]
    rfl

/-- Values that make some bytes are those for these bytes: what is left of a value where a byte
ends are the bits that the next byte begins with. -/
theorem eq_of_regroup? {fill : List Char} {values : List Nat} {bytes : Bytes}
    (small : ∀ n ∈ values, n < 64) (made : regroup? fill values = some bytes) :
    values = sextets bytes ∧ fill = filling bytes := by
  fun_induction regroup? fill values generalizing bytes with
  | case1 none =>
    cases made
    exact ⟨rfl, none⟩
  | case3 => cases made
  | case4 a b full =>
    obtain ⟨two, rest⟩ := full
    cases made
    have hb : b < 64 := small b (by simp)
    have ha : a < 64 := small a (by simp)
    have byte := Utf8.toNat_toUInt8 (n := a * 4 + b / 16) (by omega)
    refine ⟨?_, two⟩
    simp only [sextets, byte, List.cons.injEq, and_true]
    omega
  | case6 a b c full =>
    obtain ⟨one, rest⟩ := full
    cases made
    have ha : a < 64 := small a (by simp)
    have hb : b < 64 := small b (by simp)
    have hc : c < 64 := small c (by simp)
    have first := Utf8.toNat_toUInt8 (n := a * 4 + b / 16) (by omega)
    have second := Utf8.toNat_toUInt8 (n := b % 16 * 16 + c / 4) (by omega)
    refine ⟨?_, one⟩
    simp only [sextets, first, second, List.cons.injEq, and_true]
    omega
  | case8 a b c d values ih =>
    obtain ⟨later, there, rfl⟩ := Option.map_eq_some_iff.1 made
    have ha : a < 64 := small a (by simp)
    have hb : b < 64 := small b (by simp)
    have hc : c < 64 := small c (by simp)
    have hd : d < 64 := small d (by simp)
    have first := Utf8.toNat_toUInt8 (n := a * 4 + b / 16) (by omega)
    have second := Utf8.toNat_toUInt8 (n := b % 16 * 16 + c / 4) (by omega)
    have third := Utf8.toNat_toUInt8 (n := c % 4 * 64 + d) (by omega)
    obtain ⟨same, fills⟩ := ih (fun n mem => small n (by simp [mem])) there
    refine ⟨?_, fills⟩
    simp only [sextets, first, second, third, same, List.cons.injEq, and_true]
    omega
  | _ => cases made

/-- **What is read is exactly what is written.** -/
theorem decode?_eq_some_iff {cs : List Char} {bytes : Bytes} :
    decode? cs = some bytes ↔ cs = encodeChars bytes := by
  rw [decode?, encodeChars_eq]
  constructor
  · intro read
    obtain ⟨values, letters, made⟩ := Option.bind_eq_some_iff.1 read
    obtain ⟨small, written⟩ := mapM_value?_eq_some_iff.1 letters
    obtain ⟨rfl, fills⟩ := eq_of_regroup? small made
    rw [← fills, ← written, List.takeWhile_append_dropWhile]
  · rintro rfl
    have inside : ∀ c ∈ (sextets bytes).map letter, decide (c ≠ '=') = true := by
      intro c mem
      obtain ⟨n, here, rfl⟩ := List.mem_map.1 mem
      exact decide_eq_true (letter_ne n (sextets_lt bytes n here))
    have ends : (filling bytes).takeWhile (· ≠ '=') = [] ∧
        (filling bytes).dropWhile (· ≠ '=') = filling bytes := by
      rcases fill : filling bytes with _ | ⟨c, rest⟩
      · exact ⟨rfl, rfl⟩
      · have mark : c = '=' := filling_eq bytes c (by rw [fill]; exact List.mem_cons_self)
        rw [mark]
        exact ⟨List.takeWhile_cons_of_neg (by decide), List.dropWhile_cons_of_neg (by decide)⟩
    rw [List.takeWhile_append_of_pos inside, List.dropWhile_append_of_pos inside, ends.1, ends.2,
      List.append_nil, mapM_value?_eq_some_iff.2 ⟨sextets_lt bytes, rfl⟩, Option.bind_some,
      regroup?_sextets]

example : decode? "Zm9vYmE=".toList = some (Utf8.encode "fooba") := by decide

end Base64

/-! ## Pairs -/

namespace Credentials

/-- A text as a pair: with a colon at its end if it has none. -/
def withColon (text : String) : String := if ':' ∈ text.toList then text else text ++ ":"

/-- A pair is kept whole, whatever is cut at its first colon. -/
theorem pair_ofPair (text : String) : (ofPair text).pair = withColon text := by
  by_cases colon : ':' ∈ text.toList
  · obtain ⟨user, password, parts, noColon⟩ := List.eq_append_cons_of_mem colon
    have absent : ∀ c ∈ user, c ≠ ':' := by
      rintro c mem rfl
      exact noColon mem
    have cut : Text.cutAt? ':' text.toList = some (user, password) := by
      rw [parts]
      exact Text.cutAt?_append absent password
    rw [ofPair, cut, withColon, if_pos colon, pair]
    apply String.toList_injective
    simp [parts]
  · have uncut : Text.cutAt? ':' text.toList = none :=
      Text.cutAt?_of_absent fun c mem same => colon (same ▸ mem)
    rw [ofPair, uncut, withColon, if_neg colon, pair, String.append_assoc]
    rfl

/-- The colon at the end changes nothing. -/
theorem ofPair_withColon (text : String) : ofPair (withColon text) = ofPair text := by
  by_cases colon : ':' ∈ text.toList
  · rw [withColon, if_pos colon]
  · have absent : ∀ c ∈ text.toList, c ≠ ':' := fun c mem same => colon (same ▸ mem)
    have cut : Text.cutAt? ':' (text ++ ":").toList = some (text.toList, []) := by
      rw [String.toList_append]
      exact Text.cutAt?_append absent []
    rw [withColon, if_neg colon, ofPair, cut, ofPair, Text.cutAt?_of_absent absent]
    simp

/-- Texts that differ by more than a colon at the end are different credentials. -/
theorem ofPair_eq_iff (text other : String) :
    ofPair text = ofPair other ↔ withColon text = withColon other := by
  constructor
  · intro same
    rw [← pair_ofPair, ← pair_ofPair, same]
  · intro same
    rw [← ofPair_withColon text, same, ofPair_withColon]

/-- **The field of `user:password` carries that text.** What follows `Basic ` in it stands in Base64
for the bytes of the text, with a colon at the end if it has none. So texts that differ by more than
that colon, which are different credentials, have different fields. -/
theorem basic_ofPair (text : String) :
    (∃ letters : String, (ofPair text).basic = "Basic " ++ letters ∧
      Base64.decode? letters.toList = some (Utf8.encode (withColon text))) ∧
    ∀ other : String,
      ((ofPair text).basic = (ofPair other).basic ↔ ofPair text = ofPair other) ∧
      (ofPair text = ofPair other ↔ withColon text = withColon other) := by
  have carried (text : String) : ∃ letters : String, (ofPair text).basic = "Basic " ++ letters ∧
      Base64.decode? letters.toList = some (Utf8.encode (withColon text)) := by
    refine ⟨Base64.encode (Utf8.encode (ofPair text).pair), rfl, ?_⟩
    rw [Base64.encode, String.toList_ofList, pair_ofPair]
    exact Base64.decode?_eq_some_iff.2 rfl
  refine ⟨carried text, fun other => ⟨⟨fun same => ?_, congrArg basic⟩, ofPair_eq_iff text other⟩⟩
  obtain ⟨letters, field, read⟩ := carried text
  obtain ⟨letters', field', read'⟩ := carried other
  have letters_eq : letters = letters' := by
    rw [field, field'] at same
    exact (String.append_right_inj _).1 same
  rw [letters_eq, read', Option.some.injEq] at read
  rw [ofPair_eq_iff, ← Utf8.decodeLossy_encode (withColon text), ← read, Utf8.decodeLossy_encode]

end Credentials
end HttpFetch
