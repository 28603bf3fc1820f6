import HttpFetch.Text.Utf8
import HttpFetch.Text.Blank
import HttpFetch.Unicode.Bidi
import HttpFetch.Unicode.DomainMapping
import HttpFetch.Unicode.Joining
import HttpFetch.Unicode.Normal
import HttpFetch.Url.Punycode
/-!
# Domain names

The ASCII form of a domain name, as it is looked up and written on the wire. ASCII labels are made
small; a label with other characters is mapped, composed, checked and written in Punycode behind
the marker `xn--`. A label that carries the marker already must decode to a label that passes the
same checks.

* `mapLabel?` applies the table of internationalized names;
* `Label.isSound` holds the checks on one label: no mark in front, joiners only where letters join;
* `directionsAgree` is the rule on right-to-left names, which looks at all labels together.
-/

namespace HttpFetch.Domain

open Unicode

/-- ASCII characters that no host name may hold: controls, space, delete and the characters that
separate the parts of a URL. -/
def isForbidden (c : Char) : Bool :=
  c.toNat ≤ 0x20 || c.toNat == 0x7F || "%#/:<>?@[\\]^|".toList.contains c

/-- Whether a character is in ASCII. -/
def isAscii (c : Char) : Bool := c.toNat < 0x80

/-- The marker in front of a label in Punycode. -/
def marker : List Char := ['x', 'n', '-', '-']

/-- The rest of a label that carries the marker. -/
def afterMarker? : List Char → Option (List Char)
  | 'x' :: 'n' :: '-' :: '-' :: rest => some rest
  | _ => none

/-! ## Mapping -/

/-- What one character becomes; `none` if names may not hold it. -/
def mapChar? (c : Char) : Option (List Nat) :=
  if isAscii c then some [(Ascii.lower c).toNat]
  else if domainKept.has c then some [c.toNat]
  else if domainDropped.has c then some []
  else (domainReplaced.find? c.toNat).map (·.image c.toNat)

/-- The characters of a label after mapping and composition. -/
def mapLabel? (label : List Char) : Option (List Char) :=
  (label.mapM mapChar?).map fun parts => (compose parts.flatten).map Char.ofNat

/-! ## Checks on one label -/

/-- Whether the text before a joiner, nearest character first, ends in a letter of `letters`, looking
through transparent characters. -/
def joinsThrough (letters : Char → Bool) (cs : List Char) : Bool :=
  match cs.dropWhile transparent.has with
  | c :: _ => letters c
  | [] => false

/-- Whether a joiner control may stand between `before`, nearest character first, and `after`. -/
def joinerAllowed (joiner : Char) (before after : List Char) : Bool :=
  match before with
  | [] => false
  | c :: _ =>
    combiningClass c.toNat == 9 ||
      (joiner == '\u200C' &&
        joinsThrough (fun c => joinsBoth.has c || joinsBefore.has c) before &&
        joinsThrough (fun c => joinsBoth.has c || joinsAfter.has c) after)

/-- Whether every joiner control stands where it is allowed; `before` is what is already passed, nearest
character first. -/
def joinersAllowed (before : List Char) : List Char → Bool
  | [] => true
  | c :: after =>
    (if c = '\u200C' ∨ c = '\u200D' then joinerAllowed c before after else true) &&
      joinersAllowed (c :: before) after

/-- The checks on one label in its final characters. -/
def isSound (label : List Char) : Bool :=
  !label.any isForbidden && !(label.head?.any marks.has) && joinersAllowed [] label

/-! ## Directions -/

/-- The classes of characters that the rule on directions tells apart. -/
inductive Direction where
  /-- letters written left to right -/
  | left
  /-- letters written right to left -/
  | right
  | europeanNumber
  | arabicNumber
  /-- separators and neutral characters -/
  | neutral
  /-- marks without a width of their own -/
  | mark
  /-- anything else -/
  | other
  deriving Repr, DecidableEq

/-- The class of a character. -/
def Direction.of (c : Char) : Direction :=
  if rightToLeft.has c || arabicLetters.has c then .right
  else if arabicNumbers.has c then .arabicNumber
  else if europeanNumbers.has c then .europeanNumber
  else if neutrals.has c then .neutral
  else if nonspacing.has c then .mark
  else if undirected.has c then .other
  else .left

/-- The rule for a label of a name that holds right-to-left characters. The first character fixes the
direction; only characters of that direction, numbers, neutral characters and marks follow; the
last one, marks apart, is a letter or number; and the two kinds of numbers do not mix. -/
def labelAgrees (label : List Char) : Bool :=
  match label.map Direction.of with
  | [] => true
  | first :: rest =>
    let last := ((first :: rest).reverse.dropWhile (· == .mark)).headD first
    match first with
    | .left =>
      (last == .left || last == .europeanNumber) &&
        rest.all fun d => d == .left || d == .europeanNumber || d == .neutral || d == .mark
    | .right =>
      (last == .right || last == .europeanNumber || last == .arabicNumber) &&
        (rest.all fun d => d == .right || d == .europeanNumber || d == .arabicNumber ||
          d == .neutral || d == .mark) &&
        !(rest.contains .europeanNumber && rest.contains .arabicNumber)
    | _ => false

/-- Whether a character makes its whole name subject to the rule on directions. -/
def isDirected (c : Char) : Bool :=
  match Direction.of c with
  | .right | .arabicNumber => true
  | _ => false

/-- The rule on directions for all labels of a name. -/
def directionsAgree (labels : List (List Char)) : Bool :=
  if labels.any (·.any isDirected) then labels.all labelAgrees else true

/-! ## The ASCII form -/

/-- A label in its final characters and in ASCII. -/
structure Label where
  shown : List Char
  ascii : List Char
  deriving Repr, DecidableEq

/-- The longest text after the marker that is decoded. -/
def decodeLimit : Nat := 2000

/-- The longest label beyond ASCII, counted in its final characters. -/
def encodeLimit : Nat := 1000

/-- A label whose ASCII form, behind the marker, is `written`. What stands there must be ASCII, and
decoding must give a label that mapping leaves as it is. -/
def decodeLabel? (written : List Char) : Option Label :=
  if written.all isAscii ∧ written.length ≤ decodeLimit ∧ written.getLast? ≠ none ∧
      written.getLast? ≠ some '-' then
    match Punycode.decode? written with
    | none => none
    | some shown =>
      if shown.length ≤ encodeLimit ∧ mapLabel? shown = some shown ∧ isSound shown then
        some ⟨shown, marker ++ written⟩
      else none
  else none

/-- A label of mapped characters. -/
def finishLabel? (label : List Char) : Option Label :=
  match afterMarker? label with
  | some written => decodeLabel? written
  | none =>
    if isSound label then
      if label.all isAscii then some ⟨label, label⟩
      else if label.length ≤ encodeLimit then some ⟨label, marker ++ Punycode.encode label⟩
      else none
    else none

/-- The labels that one label as written stands for: mapping can turn a character into a dot. -/
def readLabel? (label : List Char) : Option (List Label) :=
  if label.all isAscii then
    (finishLabel? (label.map Ascii.lower)).map ([·])
  else
    match mapLabel? label with
    | none => none
    | some mapped => (Text.splitOn (· = '.') mapped).mapM finishLabel?

/-- The labels of a name. -/
def readLabels? (name : List Char) : Option (List Label) :=
  ((Text.splitOn (· = '.') name).mapM readLabel?).map List.flatten

/-- Joins labels by dots. -/
def joinLabels (labels : List (List Char)) : List Char :=
  ['.'].intercalate labels

/-- The ASCII form of a domain name, `none` if it has none. -/
def toAscii? (name : List Char) : Option (List Char) :=
  match readLabels? name with
  | none => none
  | some labels =>
    if directionsAgree (labels.map (·.shown)) then some (joinLabels (labels.map (·.ascii)))
    else none

end HttpFetch.Domain
