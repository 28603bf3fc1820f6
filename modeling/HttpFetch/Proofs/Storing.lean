import HttpFetch.Proofs.Storage
/-!
# Everything that is given to a sink is kept

A sink is used in calls of any kind and order (`Sink.Call`). A record of what it was given and of the
files that have come up meanwhile goes along with it (`Storing`), and every call keeps the two in
agreement (`Storing.Sound.step`): the bytes are in the files and in what waits, once each and in
order. No call touches a file that is not open (`Storing.content?_step`), so what was there before
or has been closed stays as it is.
-/

namespace HttpFetch

/-! ## Free names -/

namespace FileName

/-- The names that are tried for a file, in their order: the name itself and then it with a number. -/
def candidates (name : String) : List String :=
  name :: (List.range (maxNumber - 1)).map fun n => numbered name (n + 1)

variable {taken : String → Bool} {name : String}

theorem firstFree_free {n count : Nat} (free : ∃ i < count, taken (numbered name (n + i)) = false) :
    taken (firstFree taken name n count) = false := by
  induction count generalizing n with
  | zero =>
    obtain ⟨i, within, -⟩ := free
    exact absurd within (Nat.not_lt_zero i)
  | succ count ih =>
    rw [firstFree]
    by_cases here : taken (numbered name n) = true
    · rw [if_pos here]
      obtain ⟨i, within, free⟩ := free
      apply ih
      cases i with
      | zero =>
        rw [Nat.add_zero, here] at free
        cases free
      | succ i => exact ⟨i, Nat.lt_of_succ_lt_succ within, by rwa [Nat.add_assoc, Nat.add_comm 1 i]⟩
    · rw [if_neg here]
      simpa using here

/-- As long as one of the names is free, a free one is found. -/
theorem unique_free (free : ∃ candidate ∈ candidates name, taken candidate = false) :
    taken (unique taken name) = false := by
  rw [unique]
  by_cases own : taken name = true
  · rw [if_pos own]
    obtain ⟨candidate, mem, free⟩ := free
    rcases List.mem_cons.1 mem with rfl | mem
    · rw [own] at free
      cases free
    · obtain ⟨n, within, rfl⟩ := List.mem_map.1 mem
      exact firstFree_free ⟨n, List.mem_range.1 within, by rwa [Nat.add_comm 1 n]⟩
  · rw [if_neg own]
    simpa using own

end FileName

namespace Sink

/-- Whether a name is left for the file of a sink. -/
def HasRoom (sink : Sink) (disk : Disk) : Prop :=
  match sink.body with
  | .memory _ => True
  | .file body => ∃ name ∈ FileName.candidates body.fileName, disk.holds body.dir name = false

instance (sink : Sink) (disk : Disk) : Decidable (sink.HasRoom disk) :=
  match stores : sink.body with
  | .memory _ => .isTrue (by rw [HasRoom, stores]; trivial)
  | .file body =>
    decidable_of_iff
      (∃ name ∈ FileName.candidates body.fileName, disk.holds body.dir name = false)
      (by rw [HasRoom, stores])

/-- With a name left, no file is created over another. -/
theorem HasRoom.fresh {sink : Sink} {disk : Disk} (room : sink.HasRoom disk) {path : Path}
    (creates : sink.Creates disk path) : path ∉ disk.paths := by
  obtain ⟨dir, name, new, located⟩ := creates
  rcases stores : sink.body with memory | body
  · rw [newFile?, stores] at new
    cases new
  have free : disk.holds body.dir (body.freeName disk) = false := by
    rw [HasRoom, stores] at room
    exact FileName.unique_free room
  obtain ⟨rfl, rfl⟩ : body.dir = dir ∧ body.freeName disk = name := by
    simp only [newFile?, stores, FileBody.newName?] at new
    split_ifs at new
    · cases new
    · split at new
      · cases new
      · cases new
        exact ⟨rfl, rfl⟩
  intro present
  have there := (Disk.isSome_node? (Disk.ne_nil_of_locate located) disk).2 present
  simp only [Disk.holds, located, there] at free
  cases free

/-! ## Calls -/

/-- What can be asked of a sink that changes it. -/
inductive Call where
  | setVersion (version : String)
  | setStatus (status : UInt16)
  | setDescription (description : String)
  | addHeader (name value : String)
  | setBodySize (size : Nat)
  | setUrl (url : String)
  | append (bytes : Bytes)
  | appendByte (b : UInt8)
  | flush
  | reset
  | complete
  deriving DecidableEq

/-- Does what is asked. -/
def perform (sink : Sink) (disk : Disk) : Call → Sink × Disk
  | .setVersion version => ({ sink with version }, disk)
  | .setStatus status => ({ sink with status }, disk)
  | .setDescription description => ({ sink with description }, disk)
  | .addHeader name value => (sink.addHeader name value, disk)
  | .setBodySize size => ({ sink with bodySize := some size }, disk)
  | .setUrl url => (sink.setUrl url, disk)
  | .append bytes => (sink.append bytes, disk)
  | .appendByte b => (sink.append [b], disk)
  | .flush => (sink.flush disk).2
  | .reset => (sink.reset, disk)
  | .complete => (sink.complete disk).2

/-- Whether a call moves what waits to a file. -/
def Call.flushes (call : Call) (sink : Sink) : Bool :=
  match call with
  | .flush => true
  | .complete => !sink.completed
  | _ => false

/-- The bytes since the last reset, after a call that comes after `given`. -/
def Call.given (call : Call) (given : Bytes) : Bytes :=
  match call with
  | .append bytes => given ++ bytes
  | .appendByte b => given ++ [b]
  | .reset => []
  | _ => given

end Sink

/-- The paths that have come up on a disk since it was `before`. -/
def Disk.added (before disk : Disk) : List Path := disk.paths.filter (· ∉ before.paths)

theorem Disk.added_self (disk : Disk) : disk.added disk = [] := by
  simp [added]

theorem Disk.added_of_paths {before disk : Disk} {opened : List Path}
    (paths : disk.paths = before.paths ++ opened) (fresh : ∀ path ∈ opened, path ∉ before.paths) :
    before.added disk = opened := by
  have old : before.paths.filter (· ∉ before.paths) = [] := by simp
  rw [added, paths, List.filter_append, old, List.nil_append, List.filter_eq_self]
  exact fun path mem => decide_eq_true (fresh path mem)

/-- A sink in use, with a record of what has been asked of it. -/
structure Storing where
  sink : Sink
  disk : Disk
  /-- the bytes that it was given since the last reset -/
  given : Bytes := []
  /-- the files that have come up since then, in their order -/
  files : List Path := []

namespace Storing

/-- A new sink that stores in a directory. -/
def start (url dir : String) (disk : Disk) : Storing := { sink := .toFile url dir, disk }

/-- One call. -/
def step (s : Storing) (call : Sink.Call) : Storing where
  sink := (s.sink.perform s.disk call).1
  disk := (s.sink.perform s.disk call).2
  given := call.given s.given
  files := (if call = .reset then [] else s.files) ++ s.disk.added (s.sink.perform s.disk call).2

/-- Calls, one after the other. -/
def run (s : Storing) (calls : List Sink.Call) : Storing := calls.foldl step s

/-- Whether a name is left wherever a call is going to create a file. -/
def HasRoom (s : Storing) (call : Sink.Call) : Prop :=
  call.flushes s.sink = true → (s.sink.newFile? s.disk).isSome = true → s.sink.HasRoom s.disk

instance (s : Storing) (call : Sink.Call) : Decidable (s.HasRoom call) :=
  inferInstanceAs (Decidable (_ → _ → _))

/-- The record agrees with the sink. -/
structure Sound (s : Storing) : Prop where
  keeps : s.sink.Keeps s.disk s.files s.given
  writable : ∀ write ∈ s.disk.writes, write = none

variable {s : Storing}

/-- A file that is created is new, where a name is left. -/
theorem fresh_of_creates
    (room : (s.sink.newFile? s.disk).isSome = true → s.sink.HasRoom s.disk) {path : Path}
    (creates : s.sink.Creates s.disk path) : path ∉ s.disk.paths := by
  have creates' := creates
  obtain ⟨dir, name, new, -⟩ := creates'
  exact (room (by rw [new]; rfl)).fresh creates

namespace Sound

/-- A flush keeps the agreement. -/
theorem flush (sound : s.Sound)
    (room : (s.sink.newFile? s.disk).isSome = true → s.sink.HasRoom s.disk) :
    (s.sink.flush s.disk).2.1.Keeps (s.sink.flush s.disk).2.2
      (s.files ++ s.disk.added (s.sink.flush s.disk).2.2) s.given := by
  have stored : ∀ path ∈ s.files, path ∈ s.disk.paths := by
    intro path mem
    obtain ⟨content, here⟩ := sound.keeps.stored path mem
    exact Disk.mem_paths_of_content? here
  have keeps := sound.keeps.flush fun path creates mem =>
    fresh_of_creates room creates (stored path mem)
  have present : ∀ path, s.sink.openPath? = some path → path ∈ s.disk.paths := by
    intro path isOpen
    obtain ⟨⟨dir, name, place⟩, isOpen', rfl⟩ := Option.map_eq_some_iff.1 isOpen
    exact stored place (List.mem_of_getLast? (sound.keeps.opened dir name place isOpen').2)
  have paths := s.sink.paths_flush s.disk present fun path creates => fresh_of_creates room creates
  have added : s.disk.added (s.sink.flush s.disk).2.2 =
      s.sink.opened (s.sink.flush s.disk).2.1 := by
    apply Disk.added_of_paths paths
    intro path mem
    rw [Sink.opened] at mem
    rcases s.sink.openPath?_flush s.disk with same | ⟨before, created, isOpen, creates⟩
    · rw [same] at mem
      rcases before : s.sink.openPath? with _ | other <;> simp [before] at mem
    · simp only [before, isOpen, Option.isSome_none, Bool.false_eq_true, if_false,
        Option.toList_some, List.mem_singleton] at mem
      exact mem ▸ fresh_of_creates room creates
  rw [added]
  exact keeps

/-- **Every call keeps the agreement.** -/
theorem step (sound : s.Sound) {call : Sink.Call} (room : s.HasRoom call) :
    (s.step call).Sound := by
  have files : s.files ++ s.disk.added s.disk = s.files := by
    rw [Disk.added_self, List.append_nil]
  refine ⟨?_, ?_⟩
  · cases call with
    | setVersion | setStatus | setDescription | addHeader | setBodySize =>
      simp only [Storing.step, Sink.perform, reduceCtorEq, if_false, files]
      exact sound.keeps.congr rfl rfl (.inr rfl)
    | setUrl url =>
      simp only [Storing.step, Sink.perform, reduceCtorEq, if_false, files]
      exact sound.keeps.setUrl url
    | append bytes =>
      simp only [Storing.step, Sink.perform, reduceCtorEq, if_false, files]
      exact sound.keeps.append bytes
    | appendByte b =>
      simp only [Storing.step, Sink.perform, reduceCtorEq, if_false, files]
      exact sound.keeps.append [b]
    | flush => exact sound.flush (room rfl)
    | reset =>
      simp only [Storing.step, Sink.perform, if_true, Disk.added_self,
        List.append_nil]
      exact s.sink.keeps_reset s.disk
    | complete =>
      simp only [Storing.step, Sink.perform, reduceCtorEq, if_false]
      by_cases ended : s.sink.completed = true
      · rw [Sink.complete, if_pos ended, files]
        exact sound.keeps
      · rw [Bool.not_eq_true] at ended
        rw [Sink.complete_eq ended]
        exact (sound.flush (room (by simp [Sink.Call.flushes, ended]))).close
  · intro write mem
    apply sound.writable
    cases call with
    | flush => exact s.sink.writes_flush s.disk mem
    | complete =>
      by_cases ended : s.sink.completed = true
      · simp only [Storing.step, Sink.perform, Sink.complete, if_pos ended] at mem
        exact mem
      · rw [Bool.not_eq_true] at ended
        simp only [Storing.step, Sink.perform, Sink.complete_eq ended] at mem
        exact s.sink.writes_flush s.disk mem
    | _ => exact mem

end Sound

/-- **No call touches a file that is not open**, nor does it open one again. -/
theorem content?_step {call : Sink.Call} (room : s.HasRoom call) {path : Path}
    {content : Array UInt8} (closed : s.sink.openPath? ≠ some path)
    (here : s.disk.content? path = some content) :
    (s.step call).disk.content? path = some content ∧
      (s.step call).sink.openPath? ≠ some path := by
  have flush (room : (s.sink.newFile? s.disk).isSome = true → s.sink.HasRoom s.disk) :
      (s.sink.flush s.disk).2.2.content? path = some content ∧
        (s.sink.flush s.disk).2.1.openPath? ≠ some path := by
    have uncreated : ¬ s.sink.Creates s.disk path := fun creates =>
      fresh_of_creates room creates (Disk.mem_paths_of_content? here)
    refine ⟨(Disk.content?_congr (s.sink.node?_flush s.disk closed uncreated)).trans here, ?_⟩
    rcases s.sink.openPath?_flush s.disk with same | ⟨-, created, isOpen, creates⟩
    · rwa [same]
    · rw [isOpen]
      rintro ⟨⟩
      exact uncreated creates
  have none (sink : Sink) (h : sink.openFile? = none) : sink.openPath? ≠ some path := by
    rw [Sink.openPath?, h]
    simp
  cases call with
  | setVersion | setStatus | setDescription | addHeader | setBodySize => exact ⟨here, closed⟩
  | setUrl url => exact ⟨here, none _ (s.sink.openFile?_setUrl url)⟩
  | append bytes =>
    refine ⟨here, ?_⟩
    rw [Sink.openPath?, ← s.sink.openFile?_append bytes] at closed
    exact closed
  | appendByte b =>
    refine ⟨here, ?_⟩
    rw [Sink.openPath?, ← s.sink.openFile?_append [b]] at closed
    exact closed
  | reset => exact ⟨here, none _ s.sink.openFile?_reset⟩
  | flush => exact flush (room rfl)
  | complete =>
    by_cases ended : s.sink.completed = true
    · simp only [Storing.step, Sink.perform, Sink.complete, if_pos ended]
      exact ⟨here, closed⟩
    · rw [Bool.not_eq_true] at ended
      simp only [Storing.step, Sink.perform, Sink.complete_eq ended]
      exact ⟨(flush (room (by simp [Sink.Call.flushes, ended]))).1,
        none _ (Sink.openFile?_close _)⟩

/-! ## All calls -/

/-- Whether a name is left wherever one of some calls is going to create a file. -/
def HasRoomFor (s : Storing) : List Sink.Call → Prop
  | [] => True
  | call :: calls => s.HasRoom call ∧ (s.step call).HasRoomFor calls

instance decidableHasRoomFor (s : Storing) : ∀ calls, Decidable (s.HasRoomFor calls)
  | [] => .isTrue trivial
  | call :: calls => @instDecidableAnd _ _ _ (decidableHasRoomFor (s.step call) calls)

theorem HasRoomFor.drop {s : Storing} {before later : List Sink.Call}
    (room : s.HasRoomFor (before ++ later)) : (s.run before).HasRoomFor later := by
  induction before generalizing s with
  | nil => exact room
  | cons call before ih => exact ih room.2

/-- Calls of any kind and order keep the agreement. -/
theorem Sound.run {s : Storing} (sound : s.Sound) {calls : List Sink.Call}
    (room : s.HasRoomFor calls) : (s.run calls).Sound := by
  induction calls generalizing s with
  | nil => exact sound
  | cons call calls ih => exact ih (sound.step room.1) room.2

theorem content?_run {s : Storing} {calls : List Sink.Call} (room : s.HasRoomFor calls)
    {path : Path} {content : Array UInt8} (closed : s.sink.openPath? ≠ some path)
    (here : s.disk.content? path = some content) :
    (s.run calls).disk.content? path = some content := by
  induction calls generalizing s with
  | nil => exact here
  | cons call calls ih =>
    obtain ⟨here', closed'⟩ := content?_step room.1 closed here
    exact ih room.2 closed' here'

theorem sound_start (url dir : String) {disk : Disk}
    (writable : ∀ write ∈ disk.writes, write = none) : (start url dir disk).Sound :=
  ⟨(Sink.toFile url dir).keeps_reset disk, writable⟩

end Storing

/-! ## Flushes that fail -/

namespace Sink

variable {sink : Sink} {disk : Disk}

/-- A flush that cannot create its file leaves everything as it was. -/
theorem flush_uncreated {dir name : String} {fault : Fault}
    (new : sink.newFile? disk = some (dir, name))
    (fails : (disk.create dir name).1 = .error fault) :
    sink.flush disk = (.error (.sinkIo (Disk.pathText dir name) fault), sink,
      { disk with creations := disk.creations.tail }) := by
  rcases stores : sink.body with memory | body <;> simp only [newFile?, stores] at new
  · cases new
  obtain ⟨name, new, same⟩ := Option.map_eq_some_iff.1 new
  cases same
  have unchanged : { sink with body := .file body } = sink := by rw [← stores]
  rcases created : disk.create body.dir name with ⟨own | path, next⟩ <;> rw [created] at fails
  · cases fails
    simp only [flush, stores, FileBody.flush_of_newName? new, created, Disk.create_error created,
      unchanged, stored]
  · cases fails

/-- Where writes succeed, no other flush fails. -/
theorem exists_of_flush_error (writable : ∀ write ∈ disk.writes, write = none) {e : TransferError}
    (fails : (sink.flush disk).1 = .error e) :
    ∃ dir name fault, sink.newFile? disk = some (dir, name) ∧
      (disk.create dir name).1 = .error fault := by
  have flushes := sink.flushes_flush disk
  generalize sink.flush disk = result at flushes fails
  obtain ⟨outcome, sink', disk'⟩ := result
  cases flushes with
  | nothing | written => cases fails
  | uncreated new created => exact ⟨_, _, _, new, created⟩
  | unwritten stores opens mem =>
    rw [opens.writes] at mem
    cases writable _ mem

end Sink

/-- **Nothing that a sink is given is lost, repeated or overwritten.** Take a new sink for a directory
of any disk on which writes succeed, and calls of any kind and order, such that a name is left
wherever one of them creates a file. Then the bytes that were given since the last reset are those of
the files that have come up since then, one after the other, and after them those that wait; and the
progress counts them. What was on the disk before the sink, or in a file that was not open before
some of the calls, is still there after all of them. A flush fails only if it cannot create its file,
and then it changes nothing. -/
theorem storing_run {url dir : String} {disk : Disk}
    (writable : ∀ write ∈ disk.writes, write = none) {calls : List Sink.Call}
    (room : (Storing.start url dir disk).HasRoomFor calls) :
    let s := (Storing.start url dir disk).run calls
    (s.disk.bytesIn s.files ++ s.sink.buffered = s.given ∧ s.sink.progress = s.given.length ∧
      s.files.Nodup ∧ ∀ path ∈ s.files, ∃ content, s.disk.content? path = some content) ∧
    (∀ path content, disk.content? path = some content → s.disk.content? path = some content) ∧
    (∀ before later, calls = before ++ later →
      let earlier := (Storing.start url dir disk).run before
      ∀ path content, earlier.sink.openPath? ≠ some path →
        earlier.disk.content? path = some content → s.disk.content? path = some content) ∧
    (∀ place name fault, s.sink.newFile? s.disk = some (place, name) →
      (s.disk.create place name).1 = .error fault →
      s.sink.flush s.disk = (.error (.sinkIo (Disk.pathText place name) fault), s.sink,
        { s.disk with creations := s.disk.creations.tail })) ∧
    ∀ e, (s.sink.flush s.disk).1 = .error e →
      ∃ place name fault, s.sink.newFile? s.disk = some (place, name) ∧
        (s.disk.create place name).1 = .error fault := by
  intro s
  have sound : s.Sound := (Storing.sound_start url dir writable).run room
  refine ⟨⟨sound.keeps.whole, sound.keeps.progress, sound.keeps.nodup, sound.keeps.stored⟩, ?_, ?_,
    ?_, ?_⟩
  · intro path content here
    have closed : (Storing.start url dir disk).sink.openPath? ≠ some path := nofun
    exact Storing.content?_run room closed here
  · rintro before later rfl earlier path content closed here
    have whole : s = earlier.run later := List.foldl_append
    rw [whole]
    exact Storing.content?_run room.drop closed here
  · exact fun place name fault new fails => Sink.flush_uncreated new fails
  · exact fun e fails => Sink.exists_of_flush_error sound.writable fails

/-- Where the name is taken and the first attempt to create a file fails, and the address changes
while a file is open. -/
theorem storing_run_renamed :
    let disk : Disk := { nodes := [(["a"], .file #[1])], creations := [some .slow] }
    let calls : List Sink.Call :=
      [.append [2], .flush, .appendByte 3, .flush, .setUrl "http://[::1]/b", .append [4], .flush,
        .append [5], .complete, .append [6]]
    let s := (Storing.start "http://[::1]/a" "" disk).run calls
    (Storing.start "http://[::1]/a" "" disk).HasRoomFor calls ∧ s.files = [["a.1"], ["b"]] ∧
      s.given = [2, 3, 4, 5, 6] ∧ s.sink.buffered = [6] ∧
      s.disk.bytesIn s.files ++ s.sink.buffered = s.given ∧
      s.disk.content? ["a"] = some #[1] := by
  intro disk calls s
  have room : (Storing.start "http://[::1]/a" "" disk).HasRoomFor calls := by decide +kernel
  obtain ⟨⟨whole, -⟩, old, -⟩ := storing_run (by decide) room
  exact ⟨room, by decide +kernel, by decide +kernel, by decide +kernel, whole,
    old ["a"] #[1] (by decide +kernel)⟩

end HttpFetch
