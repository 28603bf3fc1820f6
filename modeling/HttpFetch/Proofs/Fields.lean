import HttpFetch.Fields
import Mathlib.Data.List.Pairwise
import Mathlib.Tactic.SplitIfs
/-!
# Values of fields

What adding a value leaves to be found, under its name and under every other. Fields tell names apart
to the letter, and a name is looked for without regard to case; where no two names differ only in
case, the two agree (`Fields.find?_addAll`).
-/

theorem HttpFetch.Ascii.sameName_trans {a b c : String} (first : sameName a b = true)
    (second : sameName b c = true) : sameName a c = true := by
  rw [sameName, beq_iff_eq] at first second ⊢
  exact first.trans second

namespace HttpFetch.Fields

theorem get?_empty (name : String) : empty.get? name = none := rfl

/-- Looking for a name that is below all there are finds nothing. -/
theorem find?_below {entries : List (String × String)} {name : String}
    (below : ∀ entry ∈ entries, name < entry.1) : entries.find? (·.1 = name) = none := by
  refine List.find?_eq_none.2 fun entry mem same => ?_
  have lt := below entry mem
  rw [of_decide_eq_true same] at lt
  exact String.lt_irrefl name lt

theorem find?_place (merge : String → String) (name value other : String)
    {entries : List (String × String)} (ascending : entries.Pairwise (·.1 < ·.1)) :
    ((place merge name value entries).find? (·.1 = other)).map (·.2) =
      if other = name
      then some (((entries.find? (·.1 = name)).map fun entry => merge entry.2).getD value)
      else (entries.find? (·.1 = other)).map (·.2) := by
  induction entries with
  | nil => by_cases same : other = name <;> simp [place, same, eq_comm]
  | cons head rest ih =>
    obtain ⟨n, v⟩ := head
    obtain ⟨after, later⟩ := List.pairwise_cons.1 ascending
    rw [place]
    by_cases first : name < n
    · have absent : ((n, v) :: rest).find? (·.1 = name) = none := by
        refine find?_below fun entry mem => ?_
        rcases List.mem_cons.1 mem with rfl | mem
        · exact first
        · exact String.lt_trans first (after entry mem)
      rw [if_pos first, absent]
      by_cases same : other = name
      · simp [same]
      · rw [if_neg same, List.find?_cons_of_neg (by simpa using Ne.symm same)]
    rw [if_neg first]
    by_cases here : name = n
    · rw [if_pos here]
      subst here
      by_cases same : other = name
      · simp [same]
      · simp [same, Ne.symm same]
    · rw [if_neg here]
      have passed : ((n, v) :: rest).find? (·.1 = name) = rest.find? (·.1 = name) :=
        List.find?_cons_of_neg (by simpa using Ne.symm here)
      rw [passed]
      by_cases head : n = other
      · subst head
        simp [Ne.symm here]
      · rw [List.find?_cons_of_neg (by simpa using head), ih later,
          List.find?_cons_of_neg (by simpa using head)]

/-- The first value of a name stays, and no other name is touched. -/
theorem get?_add (fields : Fields) (name value other : String) :
    (fields.add name value).get? other =
      if other = name then some ((fields.get? name).getD value) else fields.get? other := by
  rw [get?, add, find?_place id name value other fields.ascending]
  rfl

/-- The fields after several have been added, the first one first. -/
def addAll (fields : Fields) (entries : List (String × String)) : Fields :=
  entries.foldl (fun fields entry => fields.add entry.1 entry.2) fields

/-- Of several values that are added for a name the first one stays. -/
theorem get?_addAll (fields : Fields) (entries : List (String × String)) (name : String) :
    (fields.addAll entries).get? name =
      (fields.get? name).or ((entries.find? (·.1 = name)).map (·.2)) := by
  induction entries generalizing fields with
  | nil => simp [addAll]
  | cons head rest ih =>
    obtain ⟨n, v⟩ := head
    have step : fields.addAll ((n, v) :: rest) = (fields.add n v).addAll rest := rfl
    rw [step, ih, get?_add]
    by_cases same : name = n
    · subst same
      rcases fields.get? name with _ | old <;> simp
    · rw [if_neg same, List.find?_cons_of_neg (by simpa using Ne.symm same)]

/-! ## Names in any case -/

/-- A value is found under its name. -/
theorem get?_of_mem {fields : Fields} {entry : String × String} (mem : entry ∈ fields.entries) :
    fields.get? entry.1 = some entry.2 := by
  obtain ⟨entries, ascending⟩ := fields
  simp only [get?] at mem ⊢
  induction entries with
  | nil => cases mem
  | cons head rest ih =>
    obtain ⟨after, later⟩ := List.pairwise_cons.1 ascending
    rcases List.mem_cons.1 mem with rfl | mem
    · simp
    · have other : head.1 ≠ entry.1 := by
        intro same
        have lt := after entry mem
        rw [same] at lt
        exact String.lt_irrefl entry.1 lt
      rw [List.find?_cons_of_neg (by simpa using other)]
      exact ih later mem

theorem mem_of_get? {fields : Fields} {name value : String} (found : fields.get? name = some value) :
    (name, value) ∈ fields.entries := by
  rw [get?, Option.map_eq_some_iff] at found
  obtain ⟨entry, first, rfl⟩ := found
  have same : entry.1 = name := by simpa using List.find?_some first
  rw [← same]
  exact List.mem_of_find?_eq_some first

/-- The names are told apart without regard to the case of ASCII letters. -/
def Distinct (fields : Fields) : Prop :=
  fields.entries.Pairwise fun a b => Ascii.sameName a.1 b.1 = false

instance (fields : Fields) : Decidable fields.Distinct :=
  inferInstanceAs (Decidable (List.Pairwise _ _))

theorem Distinct.eq_of_sameName {fields : Fields} (distinct : fields.Distinct)
    {a b : String × String} (memA : a ∈ fields.entries) (memB : b ∈ fields.entries)
    (same : Ascii.sameName a.1 b.1 = true) : a = b := by
  have : Std.Symm fun a b : String × String => Ascii.sameName a.1 b.1 = false :=
    ⟨fun a b different => by rw [Ascii.sameName_comm, different]⟩
  by_contra other
  have different := List.Pairwise.forall distinct memA memB other
  rw [same] at different
  cases different

/-- The value that stays under a name is the first one that was added under it. -/
theorem mem_addAll_of_first {entries : List (String × String)} {name : String}
    {entry : String × String}
    (first : entries.find? (fun entry => Ascii.sameName entry.1 name) = some entry) :
    entry ∈ (empty.addAll entries).entries := by
  obtain ⟨named, before, after, rfl, others⟩ := List.find?_eq_some_iff_append.1 first
  refine mem_of_get? ?_
  have exactly : (before ++ entry :: after).find? (·.1 = entry.1) = some entry := by
    refine List.find?_eq_some_iff_append.2 ⟨by simp, before, after, rfl, fun earlier mem => ?_⟩
    have other := others earlier mem
    rw [Bool.not_eq_true', decide_eq_false_iff_not]
    intro same
    rw [same, named] at other
    cases other
  rw [get?_addAll, get?_empty, Option.none_or, exactly]
  rfl

/-- What stays was added. -/
theorem exists_of_mem_addAll {entries : List (String × String)} {entry : String × String}
    (mem : entry ∈ (empty.addAll entries).entries) : ∃ origin ∈ entries, origin.1 = entry.1 := by
  have added := get?_of_mem mem
  rw [get?_addAll, get?_empty, Option.none_or, Option.map_eq_some_iff] at added
  obtain ⟨origin, found, -⟩ := added
  exact ⟨origin, List.mem_of_find?_eq_some found, by simpa using List.find?_some found⟩

/-- **Where names are told apart without regard to case**, the value that is found is the first one
that was added under such a name. -/
theorem find?_addAll {entries : List (String × String)}
    (distinct : (empty.addAll entries).Distinct) (name : String) :
    (empty.addAll entries).find? name =
      (entries.find? fun entry => Ascii.sameName entry.1 name).map (·.2) := by
  rw [find?]
  congr 1
  rcases first : entries.find? (fun entry => Ascii.sameName entry.1 name) with _ | entry <;>
    rw [first]
  · refine List.find?_eq_none.2 fun entry mem => ?_
    obtain ⟨origin, added, same⟩ := exists_of_mem_addAll mem
    rw [← same]
    exact List.find?_eq_none.1 first origin added
  · have mem := mem_addAll_of_first first
    have named := (List.find?_eq_some_iff_append.1 first).1
    rcases stored : (empty.addAll entries).entries.find? (fun entry => Ascii.sameName entry.1 name)
      with _ | found <;> rw [stored]
    · exact absurd named (List.find?_eq_none.1 stored entry mem)
    · have named' := (List.find?_eq_some_iff_append.1 stored).1
      rw [distinct.eq_of_sameName (List.mem_of_find?_eq_some stored) mem
        (Ascii.sameName_trans named' (Ascii.sameName_comm .. ▸ named))]

end HttpFetch.Fields
