import HttpFetch.Proofs.Escapes
import HttpFetch.Proofs.Storing
/-!
# A body stays in its directory

The name of a file comes from an address that a server may have chosen. Whatever text that is, the
name is one that only something in the directory itself can have (`FileName.isSafe_ofUrl`), also
with a number (`FileName.isSafe_unique`). So a file that a sink creates is a child of the sink's
directory. No call makes a directory, so what is a child now was one from the start, and every call
keeps all other nodes as they were (`Sink.Confined.perform`).
-/

namespace HttpFetch

/-! ## Names -/

namespace FileName

/-- A name that leads out of no directory and that every system takes for a file. -/
structure IsSafe (name : String) : Prop where
  filled : name ≠ ""
  notHere : name ≠ "."
  notUp : name ≠ ".."
  unmarked : ∀ c ∈ name.toList, c ∉ ['/', '\\', ':', '*', '?', '"', '<', '>', '|']
  noControl : ∀ c ∈ name.toList, ¬ (c.toNat < 0x20 ∨ 0x7F ≤ c.toNat ∧ c.toNat ≤ 0x9F)

theorem isSafe_iff {name : String} :
    IsSafe name ↔ name ≠ "" ∧ name ≠ "." ∧ name ≠ ".." ∧
      ∀ c ∈ name.toList, isForbidden c = false := by
  have parts (c : Char) : isForbidden c = false ↔
      c ∉ ['/', '\\', ':', '*', '?', '"', '<', '>', '|'] ∧
        ¬ (c.toNat < 0x20 ∨ 0x7F ≤ c.toNat ∧ c.toNat ≤ 0x9F) := by
    have marks : "/\\:*?\"<>|".toList = ['/', '\\', ':', '*', '?', '"', '<', '>', '|'] := by decide
    rw [isForbidden, marks, Bool.or_eq_false_iff, Ascii.isControl, ← Bool.not_eq_true,
      List.contains_iff_mem, ← Bool.not_eq_true]
    simp only [Bool.or_eq_true, Bool.and_eq_true, decide_eq_true_eq]
  constructor
  · intro safe
    refine ⟨safe.filled, safe.notHere, safe.notUp, fun c mem => ?_⟩
    exact (parts c).2 ⟨safe.unmarked c mem, safe.noControl c mem⟩
  · rintro ⟨filled, notHere, notUp, allowed⟩
    exact ⟨filled, notHere, notUp, fun c mem => ((parts c).1 (allowed c mem)).1,
      fun c mem => ((parts c).1 (allowed c mem)).2⟩

theorem isForbidden_of_mem_sanitize {cs : List Char} {c : Char} (mem : c ∈ sanitize cs) :
    isForbidden c = false := by
  obtain ⟨old, -, rfl⟩ := List.mem_map.1 mem
  split_ifs with forbidden
  · decide
  · exact Bool.eq_false_iff.2 forbidden

/-- **The end of any path gives a safe name.** -/
theorem isSafe_ofSegment (cs : List Char) : IsSafe (ofSegment cs) := by
  rw [ofSegment]
  split_ifs with unusable
  · exact isSafe_iff.2 ⟨by decide, by decide, by decide, forall_mem_of_all (by decide)⟩
  · have usable : sanitize cs ≠ ['.'] ∧ sanitize cs ≠ ['.', '.'] ∧ sanitize cs ≠ [] := by
      refine ⟨?_, ?_, ?_⟩ <;> intro same <;> exact unusable (by rw [same]; rfl)
    refine isSafe_iff.2 ⟨?_, ?_, ?_, fun c mem => ?_⟩
    · exact fun same => usable.2.2 (by simpa using congrArg String.toList same)
    · exact fun same => usable.1 (by simpa using congrArg String.toList same)
    · exact fun same => usable.2.1 (by simpa using congrArg String.toList same)
    · rw [String.toList_ofList] at mem
      exact isForbidden_of_mem_sanitize mem

example : ofSegment ['.', '.'] = "index.html" := by decide

/-- Every text gives a safe name, whether or not it is an address. -/
theorem isSafe_ofUrl (text : String) : IsSafe (ofUrl text) := isSafe_ofSegment _

variable {name : String}

/-- A safe name is safe with a number as well: with the name itself, the dot and a digit it has
three characters at least. -/
theorem isSafe_numbered (safe : IsSafe name) (n : Nat) : IsSafe (numbered name n) := by
  obtain ⟨filled, -, -, allowed⟩ := isSafe_iff.1 safe
  have chars : (numbered name n).toList = name.toList ++ '.' :: (toString n).toList := by
    simp [numbered]
  have digit (c : Char) (mem : c ∈ (toString n).toList) : c.isDigit = true :=
    Decimal.isDigit_of_mem_toString mem
  have someDigit : (toString n).toList ≠ [] := fun none =>
    Decimal.toString_ne_empty n (String.toList_eq_nil_iff.1 none)
  have someChar : name.toList ≠ [] := fun none => filled (String.toList_eq_nil_iff.1 none)
  obtain ⟨first, others, digits⟩ := List.exists_cons_of_ne_nil someDigit
  obtain ⟨start, rest, front⟩ := List.exists_cons_of_ne_nil someChar
  have long : 3 ≤ (numbered name n).toList.length := by
    rw [chars, front, digits]
    simp only [List.length_append, List.length_cons]
    omega
  have longer {short : String} (few : short.toList.length < 3) : numbered name n ≠ short := by
    rintro rfl
    omega
  refine isSafe_iff.2 ⟨longer (by decide), longer (by decide), longer (by decide), fun c mem => ?_⟩
  rw [chars] at mem
  rcases List.mem_append.1 mem with own | added
  · exact allowed c own
  rcases List.mem_cons.1 added with rfl | inNumber
  · decide
  · have small : c.toNat < 128 := by
      have := digit c inNumber
      simp only [Char.isDigit, Bool.and_eq_true, decide_eq_true_eq, UInt32.le_iff_toNat_le] at this
      have high : c.toNat ≤ 57 := this.2
      omega
    exact Ascii.forall_ascii (P := fun c => c.isDigit = true → isForbidden c = false) (by decide)
      small (digit c inNumber)

theorem isSafe_firstFree (safe : IsSafe name) (taken : String → Bool) (n count : Nat) :
    IsSafe (firstFree taken name n count) := by
  induction count generalizing n with
  | zero => exact isSafe_numbered safe n
  | succ count ih =>
    rw [firstFree]
    split_ifs
    · exact ih (n + 1)
    · exact isSafe_numbered safe n

/-- A safe name stays safe with the number that makes it unique. -/
theorem isSafe_unique (safe : IsSafe name) (taken : String → Bool) :
    IsSafe (unique taken name) := by
  rw [unique]
  split_ifs
  · exact isSafe_firstFree safe taken 1 _
  · exact safe

end FileName

/-! ## Children of a directory -/

namespace Disk

/-- Whether a path leads to a place of a safe name right in a directory. -/
def IsChild (disk : Disk) (dir : String) (path : Path) : Prop :=
  ∃ base name, disk.directory? dir = .ok base ∧ FileName.IsSafe name ∧ path = base ++ [name]

theorem exists_of_locate {disk : Disk} {dir name : String} {path : Path}
    (h : disk.locate dir name = .ok path) :
    ∃ base, disk.directory? dir = .ok base ∧ path = base ++ [name] := by
  rw [locate] at h
  split at h
  · cases h
  split at h
  · cases h
  · rename_i base found
    split_ifs at h
    cases h
    exact ⟨base, found, rfl⟩

variable {disk next : Disk}

/-- Where no directory has come up, every way through directories was there before. -/
theorem directory?_of_next
    (old : ∀ path, next.node? path = some .directory → disk.node? path = some .directory)
    {dir : String} {base : Path} (h : next.directory? dir = .ok base) :
    disk.directory? dir = .ok base := by
  have enter {here there : Path} {name : String} (h : next.enter here name = .ok there) :
      disk.enter here name = .ok there := by
    rw [Disk.enter] at h ⊢
    split_ifs at h ⊢
    · exact h
    · exact h
    · split at h
      · rename_i found
        rw [old _ found]
        exact h
      · cases h
      · cases h
  have walk (names : List String) (here there : Path)
      (h : names.foldlM next.enter here = .ok there) :
      names.foldlM disk.enter here = .ok there := by
    induction names generalizing here with
    | nil => exact h
    | cons name names ih =>
      rw [List.foldlM_cons] at h ⊢
      rcases entered : next.enter here name with fault | inside
      · rw [entered] at h
        cases h
      · rw [entered] at h
        rw [enter entered]
        exact ih inside h
  exact walk _ _ _ h

end Disk

/-! ## Calls -/

namespace Sink

/-- A flush makes no directory. -/
theorem directory_of_flush (sink : Sink) (disk : Disk) {path : Path}
    (h : (sink.flush disk).2.2.node? path = some .directory) :
    disk.node? path = some .directory := by
  have opening {body : FileBody} {name : String} {place : Path} {opened : Disk}
      (opens : body.Opens disk name place opened)
      (h : opened.node? path = some .directory) : disk.node? path = some .directory := by
    cases opens with
    | already => exact h
    | created new located free =>
      by_cases here : path = place
      · rw [here, Disk.node?_put_self (Disk.ne_nil_of_locate located)] at h
        cases h
      · rwa [Disk.node?_put_of_ne here] at h
  have flushes := sink.flushes_flush disk
  generalize sink.flush disk = result at flushes h
  obtain ⟨outcome, sink', disk'⟩ := result
  cases flushes with
  | nothing | uncreated => exact h
  | unwritten stores opens => exact opening opens h
  | @written body name place opened _ stores opens next =>
    rw [next] at h
    by_cases here : path = place
    · rcases place with _ | ⟨top, rest⟩
      · rw [here]
        rfl
      · rw [here, Disk.node?_put_self (List.cons_ne_nil top rest)] at h
        cases h
    · rw [Disk.node?_put_of_ne here] at h
      exact opening opens h

/-- A sink has kept to its directory since the disk was `before`. -/
structure Confined (dir : String) (before : Disk) (sink : Sink) (disk : Disk) : Prop where
  aims : ∀ body, sink.body = .file body → body.dir = dir ∧ FileName.IsSafe body.fileName
  opened : ∀ path, sink.openPath? = some path → before.IsChild dir path
  directories : ∀ path, disk.node? path = some .directory → before.node? path = some .directory
  elsewhere : ∀ path, ¬ before.IsChild dir path → disk.node? path = before.node? path

theorem confined_toFile (url dir : String) (disk : Disk) :
    Confined dir disk (toFile url dir) disk where
  aims body h := by
    cases h
    simp only [FileBody.start, true_and]
    exact FileName.isSafe_ofUrl url
  opened path h := by cases h
  directories path h := h
  elsewhere path _ := rfl

namespace Confined

variable {dir : String} {before disk : Disk} {sink : Sink}

/-- The file that a flush would create has a safe name, in the directory. -/
theorem newFile (confined : Confined dir before sink disk) {place name : String}
    (h : sink.newFile? disk = some (place, name)) : place = dir ∧ FileName.IsSafe name := by
  rcases stores : sink.body with memory | body <;> simp only [newFile?, stores] at h
  · cases h
  obtain ⟨sameDir, safe⟩ := confined.aims body stores
  obtain ⟨new, hnew, same⟩ := Option.map_eq_some_iff.1 h
  cases same
  refine ⟨sameDir, ?_⟩
  rw [FileBody.newName?] at hnew
  split_ifs at hnew
  split at hnew
  · cases hnew
  · cases hnew
    exact FileName.isSafe_unique safe _

/-- So it is a child of the directory. -/
theorem isChild (confined : Confined dir before sink disk) {path : Path}
    (creates : sink.Creates disk path) : before.IsChild dir path := by
  obtain ⟨place, name, new, located⟩ := creates
  obtain ⟨rfl, safe⟩ := confined.newFile new
  obtain ⟨base, found, rfl⟩ := Disk.exists_of_locate located
  exact ⟨base, name, Disk.directory?_of_next confined.directories found, safe, rfl⟩

/-- A sink with the same aims that has no other file open is as confined. -/
theorem congr (confined : Confined dir before sink disk) {sink' : Sink}
    (aims : ∀ body', sink'.body = .file body' →
      ∃ body, sink.body = .file body ∧ body'.dir = body.dir ∧
        (body'.fileName = body.fileName ∨ FileName.IsSafe body'.fileName))
    (openPath : sink'.openPath? = none ∨ sink'.openPath? = sink.openPath?) :
    Confined dir before sink' disk where
  aims body' stores' := by
    obtain ⟨body, stores, sameDir, name⟩ := aims body' stores'
    obtain ⟨sameDir', safe⟩ := confined.aims body stores
    refine ⟨sameDir.trans sameDir', ?_⟩
    rcases name with same | safe'
    · rwa [same]
    · exact safe'
  opened path h := by
    rcases openPath with closed | same
    · rw [closed] at h
      cases h
    · exact confined.opened path (by rw [← same, h])
  directories := confined.directories
  elsewhere := confined.elsewhere

theorem append (confined : Confined dir before sink disk) (bytes : Bytes) :
    Confined dir before (sink.append bytes) disk := by
  refine confined.congr (fun body' stores' => ?_)
    (.inr (by rw [openPath?, openPath?, openFile?_append]))
  rcases stores : sink.body with memory | body <;> simp only [Sink.append, stores] at stores' <;>
    cases stores'
  exact ⟨body, rfl, rfl, .inl rfl⟩

theorem setUrl (confined : Confined dir before sink disk) (url : String) :
    Confined dir before (sink.setUrl url) disk := by
  refine confined.congr (fun body' stores' => ?_) (.inl (by rw [openPath?, openFile?_setUrl]; rfl))
  rcases stores : sink.body with memory | body <;> simp only [Sink.setUrl, stores] at stores' <;>
    cases stores'
  simp only [FileBody.retarget]
  exact ⟨body, rfl, rfl, .inr (FileName.isSafe_ofUrl url)⟩

theorem reset (confined : Confined dir before sink disk) :
    Confined dir before sink.reset disk := by
  refine confined.congr (fun body' stores' => ?_) (.inl (by rw [openPath?, openFile?_reset]; rfl))
  rcases stores : sink.body with memory | body <;> simp only [Sink.reset, stores] at stores' <;>
    cases stores'
  exact ⟨body, rfl, rfl, .inl rfl⟩

theorem close (confined : Confined dir before sink disk) :
    Confined dir before sink.close disk := by
  refine confined.congr (fun body' stores' => ?_) (.inl (by rw [openPath?, openFile?_close]; rfl))
  rcases stores : sink.body with memory | body <;> simp only [Sink.close, stores] at stores' <;>
    cases stores'
  refine ⟨body, rfl, ?_⟩
  simp only [FileBody.close]
  cases body.target <;> exact ⟨rfl, .inl rfl⟩

/-- A flush stays in the directory. -/
theorem flush (confined : Confined dir before sink disk) :
    Confined dir before (sink.flush disk).2.1 (sink.flush disk).2.2 where
  aims := by
    have flushes := sink.flushes_flush disk
    generalize sink.flush disk = result at flushes
    obtain ⟨outcome, sink', disk'⟩ := result
    intro body' stores'
    cases flushes with
    | nothing | uncreated => exact confined.aims body' stores'
    | @unwritten body _ _ _ _ stores | @written body _ _ _ _ stores =>
      cases stores'
      exact confined.aims body stores
  opened := by
    intro path isOpen
    rcases sink.openPath?_flush disk with same | ⟨-, created, isOpen', creates⟩
    · exact confined.opened path (same ▸ isOpen)
    · obtain rfl : created = path := Option.some.inj (isOpen'.symm.trans isOpen)
      exact confined.isChild creates
  directories path h := confined.directories path (sink.directory_of_flush disk h)
  elsewhere path outside := by
    have closed : sink.openPath? ≠ some path := fun isOpen => outside (confined.opened path isOpen)
    have uncreated : ¬ sink.Creates disk path := fun creates => outside (confined.isChild creates)
    exact (sink.node?_flush disk closed uncreated).trans (confined.elsewhere path outside)

/-- **Every call stays in the directory.** -/
theorem perform (confined : Confined dir before sink disk) (call : Call) :
    Confined dir before (sink.perform disk call).1 (sink.perform disk call).2 := by
  cases call with
  | setVersion | setStatus | setDescription | addHeader | setBodySize =>
    exact ⟨confined.aims, confined.opened, confined.directories, confined.elsewhere⟩
  | setUrl url => exact confined.setUrl url
  | append bytes => exact confined.append bytes
  | appendByte b => exact confined.append [b]
  | reset => exact confined.reset
  | flush => exact confined.flush
  | complete =>
    simp only [Sink.perform]
    by_cases ended : sink.completed = true
    · rw [Sink.complete, if_pos ended]
      exact confined
    · rw [Bool.not_eq_true] at ended
      rw [Sink.complete_eq ended]
      exact confined.flush.close

/-- So do calls of any kind and order. -/
theorem run {s : Storing} (confined : Confined dir before s.sink s.disk) (calls : List Call) :
    Confined dir before (s.run calls).sink (s.run calls).disk := by
  induction calls generalizing s with
  | nil => exact confined
  | cons call calls ih => exact ih (confined.perform call)

end Confined

end Sink

/-- **Nothing is stored outside the directory.** Take a new sink for a directory of any disk and any
text in place of an address, and calls of any kind and order, among them other addresses. A file that
the next flush would create has a safe name and is for the directory, and where it is created it is a
child of the directory, which was one before the first call; and every node that is another one now
than before the first call is such a child. -/
theorem run_confined (url dir : String) (disk : Disk) (calls : List Sink.Call) :
    let s := (Storing.start url dir disk).run calls
    (∀ place name, s.sink.newFile? s.disk = some (place, name) →
      place = dir ∧ FileName.IsSafe name) ∧
    (∀ path, s.sink.Creates s.disk path → disk.IsChild dir path) ∧
    ∀ path, s.disk.node? path ≠ disk.node? path → disk.IsChild dir path := by
  intro s
  have start : Sink.Confined dir disk (Storing.start url dir disk).sink disk :=
    Sink.confined_toFile url dir disk
  have confined : Sink.Confined dir disk s.sink s.disk :=
    Sink.Confined.run (s := Storing.start url dir disk) start calls
  refine ⟨fun place name new => confined.newFile new,
    fun path creates => confined.isChild creates, fun path changed => ?_⟩
  by_contra outside
  exact changed (confined.elsewhere path outside)

end HttpFetch
