import HttpFetch.Text.Ascii
/-!
# Named values

A set of fields gives each of its names one value and lists them in the order of the names. Two
ways to add one differ only in what happens to a name that is already there: `set` replaces the
value, `add` keeps the first one. Names are told apart to the letter; `find?` looks one up as the
protocol does, without regard to the case of ASCII letters.
-/

namespace HttpFetch

/-- Names with their values, in strictly ascending order of the names. -/
structure Fields where
  entries : List (String × String)
  /-- no name stands twice, and none out of order -/
  ascending : entries.Pairwise (·.1 < ·.1)

namespace Fields

instance : DecidableEq Fields := fun a b =>
  if h : a.entries = b.entries then .isTrue (by cases a; cases b; simp_all)
  else .isFalse (fun e => h (e ▸ rfl))

/-- No fields at all. -/
def empty : Fields := ⟨[], .nil⟩

instance : Inhabited Fields := ⟨empty⟩

/-- Puts a name at its place; `merge` makes the value of a name that is there already. -/
def place (merge : String → String) (name value : String) :
    List (String × String) → List (String × String)
  | [] => [(name, value)]
  | (n, v) :: rest =>
    if name < n then (name, value) :: (n, v) :: rest
    else if name = n then (n, merge v) :: rest
    else (n, v) :: place merge name value rest

/-- Every name after `place` is the new one or was there before. -/
theorem name_of_mem_place {merge : String → String} {name value : String} {entry : String × String}
    {entries : List (String × String)} (h : entry ∈ place merge name value entries) :
    entry.1 = name ∨ ∃ old ∈ entries, entry.1 = old.1 := by
  induction entries with
  | nil => simp [place] at h; simp [h]
  | cons head rest ih =>
    obtain ⟨n, v⟩ := head
    rw [place] at h
    split at h
    · rcases List.mem_cons.1 h with rfl | h
      · exact .inl rfl
      · exact .inr ⟨entry, h, rfl⟩
    · split at h
      · rcases List.mem_cons.1 h with rfl | h
        · exact .inr ⟨(n, v), by simp, rfl⟩
        · exact .inr ⟨entry, by simp [h], rfl⟩
      · rcases List.mem_cons.1 h with rfl | h
        · exact .inr ⟨(n, v), by simp, rfl⟩
        · rcases ih h with h | ⟨old, hold, h⟩
          · exact .inl h
          · exact .inr ⟨old, by simp [hold], h⟩

/-- `place` keeps the order. -/
theorem place_ascending (merge : String → String) (name value : String)
    {entries : List (String × String)} (h : entries.Pairwise (·.1 < ·.1)) :
    (place merge name value entries).Pairwise (·.1 < ·.1) := by
  induction entries with
  | nil => simp [place]
  | cons head rest ih =>
    obtain ⟨n, v⟩ := head
    have after := (List.pairwise_cons.1 h).1
    have later := (List.pairwise_cons.1 h).2
    rw [place]
    split
    · rename_i lt
      refine List.pairwise_cons.2 ⟨fun entry mem => ?_, h⟩
      rcases List.mem_cons.1 mem with rfl | mem
      · exact lt
      · exact String.lt_trans lt (after entry mem)
    · split
      · exact List.pairwise_cons.2 ⟨after, later⟩
      · rename_i notLt ne
        refine List.pairwise_cons.2 ⟨fun entry mem => ?_, ih later⟩
        rcases name_of_mem_place mem with e | ⟨old, hold, e⟩
        · rw [e]
          exact Decidable.byContradiction fun notGt =>
            ne (String.le_antisymm (String.not_lt.1 notGt) (String.not_lt.1 notLt))
        · rw [e]; exact after old hold

/-- Gives a name a value, in place of any it had. -/
def set (fields : Fields) (name value : String) : Fields :=
  ⟨place (fun _ => value) name value fields.entries, place_ascending _ name value fields.ascending⟩

/-- Gives a name a value unless it has one. -/
def add (fields : Fields) (name value : String) : Fields :=
  ⟨place id name value fields.entries, place_ascending _ name value fields.ascending⟩

/-- The value of exactly this name. -/
def get? (fields : Fields) (name : String) : Option String :=
  (fields.entries.find? (·.1 = name)).map (·.2)

/-- The value of the first name that is this one but for the case of ASCII letters. -/
def find? (fields : Fields) (name : String) : Option String :=
  (fields.entries.find? fun entry => Ascii.sameName entry.1 name).map (·.2)

end Fields
end HttpFetch
