import HttpFetch.Text.Ascii
/-!
# Tables over code points

A property of characters is kept as a text of entries in ascending order, apart by blanks:

* `300-314` is a run of code points, `AD` a single one;
* `41-5A=61` maps a run onto the run that starts at `61`, `BC=31+2044+34` one code point onto three;
* a stride stands after a slash: `100-12E/2=101` takes every second code point of the run, and
  `/0` maps the whole run onto one and the same target.

`Table.read` turns such a text into an array once; `find?` searches it by halving.
-/

namespace HttpFetch.Unicode

/-- A run of code points and what it is mapped onto. -/
structure Entry where
  /-- the first code point of the run -/
  first : Nat
  /-- the last code point of the run -/
  last : Nat
  /-- 1 for every code point of the run, 2 for every second one, 0 for one common target -/
  stride : Nat := 1
  /-- the target of the first code point; empty where the table only lists members -/
  target : List Nat := []
  deriving Repr, DecidableEq, Inhabited

/-- Entries in ascending order, no two of which overlap. -/
abbrev Table := Array Entry

namespace Table

/-- The state of reading one entry: the number under way and the part of the entry it is in. -/
structure Reading where
  entry : Entry := ⟨0, 0, 1, []⟩
  /-- the separator that came last -/
  part : Char := ' '
  number : Nat := 0

/-- Puts the number that has just ended where its separator says it belongs. -/
def Reading.settle (r : Reading) : Reading :=
  let e := r.entry
  let e := match r.part with
    | ' ' => { e with first := r.number, last := r.number }
    | '-' => { e with last := r.number }
    | '/' => { e with stride := r.number }
    | _ => { e with target := e.target ++ [r.number] }
  { r with entry := e, number := 0 }

/-- Reads one entry. -/
def readEntry (cs : List Char) : Entry :=
  (cs.foldl (fun r c =>
    match Ascii.digitValue? c with
    | some d => { r with number := r.number * 16 + d }
    | none => { r.settle with part := c }) ({} : Reading)).settle.entry

/-- Reads entries that blanks keep apart; `word` holds the characters of the one under way, last
first. -/
def readFrom (word : List Char) (entries : Table) : List Char → Table
  | [] => if word.isEmpty then entries else entries.push (readEntry word.reverse)
  | c :: rest =>
    if c = ' ' ∨ c = '\n' then
      readFrom [] (if word.isEmpty then entries else entries.push (readEntry word.reverse)) rest
    else readFrom (c :: word) entries rest

/-- The table that a text of entries describes. -/
def read (text : String) : Table := readFrom [] #[] text.toList

/-- Searches the entries from index `low` up to, not including, `high`. -/
def search (table : Table) (n : Nat) (low high : Nat) : Option Entry :=
  if low < high then
    let middle := (low + high) / 2
    let e := table.getD middle default
    if n < e.first then search table n low middle
    else if e.last < n then search table n (middle + 1) high
    else if e.stride = 2 ∧ (n - e.first) % 2 = 1 then none
    else some e
  else none
termination_by high - low

/-- The entry that a code point falls under. -/
def find? (table : Table) (n : Nat) : Option Entry := search table n 0 table.size

/-- Whether a character falls under an entry. -/
def has (table : Table) (c : Char) : Bool := (table.find? c.toNat).isSome

end Table

/-- What an entry maps one of its code points onto. -/
def Entry.image (e : Entry) (n : Nat) : List Nat :=
  match e.stride, e.target with
  | 0, target => target
  | _, [t] => [t + (n - e.first)]
  | _, target => target

end HttpFetch.Unicode
