import HttpFetch.Proofs.DiskChanges
import HttpFetch.Sink.Basic
/-!
# Where a body is kept

A body that goes to the disk is in files, one after the other in the order in which they were
opened, and what has not been flushed yet waits in memory (`Sink.Keeps`). Everything that a flush
can come to is listed once (`Sink.flushes_flush`), and from that follows that no flush loses or
repeats a byte, whether or not it succeeds (`Sink.Keeps.flush`).
-/

namespace HttpFetch

/-! ## Opening and writing -/

namespace FileBody

/-- The name of the file that a flush would create, if it would create one. -/
def newName? (body : FileBody) (disk : Disk) : Option String :=
  if body.pending.isEmpty then none
  else match body.target with
    | .opened _ _ => none
    | _ => some (body.freeName disk)

/-- A file is open once there is one: the one that was open, or else a new one. -/
inductive Opens (body : FileBody) (disk : Disk) (name : String) (path : Path) : Disk → Prop where
  | already : body.target = .opened name path → Opens body disk name path disk
  | created : body.newName? disk = some name → disk.locate body.dir name = .ok path →
    disk.node? path ≠ some .directory →
    Opens body disk name path
      ({ disk with creations := disk.creations.tail }.put path (.file #[]))

theorem Opens.writes {body : FileBody} {disk opened : Disk} {name : String} {path : Path}
    (opens : body.Opens disk name path opened) : opened.writes = disk.writes := by
  cases opens with
  | already => rfl
  | created => exact Disk.writes_put _ path _

/-- Everything that a flush can come to. -/
inductive Flushes (body : FileBody) (disk : Disk) :
    Except (String × Fault) Unit → FileBody → Disk → Prop where
  | nothing : body.pending = #[] → Flushes body disk (.ok ()) body disk
  | uncreated {name : String} {fault : Fault} : body.newName? disk = some name →
    (disk.create body.dir name).1 = .error fault →
    Flushes body disk (.error (Disk.pathText body.dir name, fault)) body
      { disk with creations := disk.creations.tail }
  | unwritten {name : String} {path : Path} {opened : Disk} {fault : Fault} :
    body.Opens disk name path opened → some fault ∈ opened.writes →
    Flushes body disk (.error (Disk.pathText body.dir name, fault))
      { body with target := .opened name path } { opened with writes := opened.writes.tail }
  | written {name : String} {path : Path} {opened : Disk} :
    body.Opens disk name path opened →
    Flushes body disk (.ok ()) { body with pending := #[], target := .opened name path }
      ({ opened with writes := opened.writes.tail }.put path
        (.file ((opened.content? path).getD #[] ++ body.pending)))

/-- Without an open file, bytes that wait go to a new one. -/
theorem flush_of_newName? {body : FileBody} {disk : Disk} {name : String}
    (h : body.newName? disk = some name) :
    body.flush disk =
      match disk.create body.dir name with
      | (.ok path, next) => { body with target := .opened name path }.writePending name path next
      | (.error fault, next) => (.error (Disk.pathText body.dir name, fault), body, next) := by
  rw [newName?] at h
  split_ifs at h with waits
  rw [flush, if_neg waits]
  rcases target : body.target with _ | _ | _ <;> simp only [target] at h <;> cases h <;> rfl

/-- Bytes are written to an open file, or not. -/
theorem Opens.flushes {body : FileBody} {disk opened : Disk} {name : String} {path : Path}
    (opens : body.Opens disk name path opened) :
    let result := { body with target := .opened name path }.writePending name path opened
    body.Flushes disk result.1 result.2.1 result.2.2 := by
  rw [writePending, Disk.append]
  rcases fails : opened.writes.head?.join with _ | fault
  · exact .written opens
  · exact .unwritten opens (List.mem_of_head? (Option.join_eq_some_iff.1 fails))

/-- A flush comes to one of these things. -/
theorem flushes_flush (body : FileBody) (disk : Disk) :
    body.Flushes disk (body.flush disk).1 (body.flush disk).2.1 (body.flush disk).2.2 := by
  rcases new : body.newName? disk with _ | name
  · rw [newName?] at new
    rw [flush]
    split_ifs at new ⊢ with waits
    · exact .nothing (Array.isEmpty_iff.1 waits)
    · rcases target : body.target with _ | ⟨name, path⟩ | _ <;> simp only [target] at new ⊢
      · cases new
      · have same : { body with target := .opened name path } = body := by rw [← target]
        have opens : body.Opens disk name path disk := .already target
        have result := opens.flushes
        rw [same] at result
        exact result
      · cases new
  · rw [flush_of_newName? new]
    rcases created : disk.create body.dir name with ⟨fault | path, next⟩
    · rw [Disk.create_error created]
      exact .uncreated new (congrArg Prod.fst created)
    · obtain ⟨located, free, rfl⟩ := Disk.create_ok created
      exact Opens.flushes (.created new located free)

end FileBody

/-! ## Sinks -/

namespace Sink

/-- Directory, name and path of the file that is open, if one is. -/
def openFile? (sink : Sink) : Option (String × String × Path) :=
  match sink.body with
  | .memory _ => none
  | .file body =>
    match body.target with
    | .opened name path => some (body.dir, name, path)
    | _ => none

/-- The path of the file that is open, if one is. -/
def openPath? (sink : Sink) : Option Path := sink.openFile?.map (·.2.2)

/-- Directory and name of the file that a flush would create, if it would create one. -/
def newFile? (sink : Sink) (disk : Disk) : Option (String × String) :=
  match sink.body with
  | .memory _ => none
  | .file body => (body.newName? disk).map fun name => (body.dir, name)

/-- Whether a flush would create a file in a place. -/
def Creates (sink : Sink) (disk : Disk) (path : Path) : Prop :=
  ∃ dir name, sink.newFile? disk = some (dir, name) ∧ disk.locate dir name = .ok path

/-- What has been opened since there was a sink `before`. -/
def opened (before sink : Sink) : List Path :=
  if before.openPath?.isSome then [] else sink.openPath?.toList

/-- The bytes of a body are in files, in their order, and in what waits in memory after them. A file
that is open is the last one, in the place that its directory and its name lead to. -/
structure Keeps (sink : Sink) (disk : Disk) (files : List Path) (bytes : Bytes) : Prop where
  whole : disk.bytesIn files ++ sink.buffered = bytes
  progress : sink.progress = bytes.length
  nodup : files.Nodup
  stored : ∀ path ∈ files, ∃ content, disk.content? path = some content
  opened : ∀ dir name path, sink.openFile? = some (dir, name, path) →
    disk.locate dir name = .ok path ∧ files.getLast? = some path

theorem opened_self (sink : Sink) : sink.opened sink = [] := by
  rw [Sink.opened]
  rcases sink.openPath? with _ | path <;> rfl

/-- A sink that differs in nothing that counts keeps the same. -/
theorem Keeps.congr {sink sink' : Sink} {disk : Disk} {files : List Path} {bytes : Bytes}
    (keeps : sink.Keeps disk files bytes) (buffered : sink'.buffered = sink.buffered)
    (progress : sink'.progress = sink.progress)
    (openFile : sink'.openFile? = none ∨ sink'.openFile? = sink.openFile?) :
    sink'.Keeps disk files bytes where
  whole := by rw [buffered, keeps.whole]
  progress := by rw [progress, keeps.progress]
  nodup := keeps.nodup
  stored := keeps.stored
  opened dir name path h := by
    rcases openFile with closed | same
    · rw [closed] at h
      cases h
    · exact keeps.opened dir name path (by rw [← same, h])

theorem openFile?_reset (sink : Sink) : sink.reset.openFile? = none := by
  rw [openFile?, reset]
  rcases sink.body with memory | body <;> rfl

theorem openFile?_setUrl (sink : Sink) (url : String) : (sink.setUrl url).openFile? = none := by
  rw [openFile?, setUrl]
  rcases sink.body with memory | body <;> rfl

theorem openFile?_append (sink : Sink) (bytes : Bytes) :
    (sink.append bytes).openFile? = sink.openFile? := by
  rw [openFile?, openFile?, append]
  rcases sink.body with memory | body <;> rfl

theorem buffered_reset (sink : Sink) : sink.reset.buffered = [] := by
  rw [buffered, reset]
  rcases sink.body with memory | body <;> rfl

theorem buffered_setUrl (sink : Sink) (url : String) :
    (sink.setUrl url).buffered = sink.buffered := by
  rw [buffered, buffered, setUrl]
  rcases sink.body with memory | body <;> rfl

theorem buffered_append (sink : Sink) (bytes : Bytes) :
    (sink.append bytes).buffered = sink.buffered ++ bytes := by
  rw [buffered, buffered, append]
  rcases sink.body with memory | body <;> simp

/-- Nothing is kept of what was before a reset. -/
theorem keeps_reset (sink : Sink) (disk : Disk) : sink.reset.Keeps disk [] [] where
  whole := by rw [buffered_reset]; rfl
  progress := rfl
  nodup := List.nodup_nil
  stored _ mem := by cases mem
  opened dir name path h := by
    rw [openFile?_reset] at h
    cases h

/-- Bytes that are added wait in memory. -/
theorem Keeps.append {sink : Sink} {disk : Disk} {files : List Path} {bytes : Bytes}
    (keeps : sink.Keeps disk files bytes) (more : Bytes) :
    (sink.append more).Keeps disk files (bytes ++ more) where
  whole := by rw [buffered_append, ← List.append_assoc, keeps.whole]
  progress := by rw [List.length_append, ← keeps.progress, Sink.append]
  nodup := keeps.nodup
  stored := keeps.stored
  opened := by
    rw [openFile?_append]
    exact keeps.opened

/-- Another address closes the file that is open; what waits goes on waiting. -/
theorem Keeps.setUrl {sink : Sink} {disk : Disk} {files : List Path} {bytes : Bytes}
    (keeps : sink.Keeps disk files bytes) (url : String) :
    (sink.setUrl url).Keeps disk files bytes :=
  keeps.congr (sink.buffered_setUrl url) rfl (.inl (sink.openFile?_setUrl url))

section Flush

variable {sink : Sink} {body : FileBody} {disk opened : Disk} {files : List Path} {bytes : Bytes}
  {name : String} {path : Path}

theorem openFile?_eq_none (stores : sink.body = .file body) (new : body.newName? disk = some name) :
    sink.openFile? = none := by
  rw [FileBody.newName?] at new
  rw [openFile?, stores]
  split_ifs at new
  cases target : body.target with
  | opened => simp [target] at new
  | none | closed => simp only [target]

theorem creates_of_newName? (stores : sink.body = .file body) (new : body.newName? disk = some name)
    (located : disk.locate body.dir name = .ok path) : sink.Creates disk path :=
  ⟨body.dir, name, by simp only [newFile?, stores, new, Option.map_some], located⟩

/-- A file is created only where none is open. -/
theorem Creates.openPath? (creates : sink.Creates disk path) : sink.openPath? = none := by
  obtain ⟨dir, name, new, -⟩ := creates
  rcases stores : sink.body with memory | body <;> simp only [newFile?, stores] at new
  · cases new
  · obtain ⟨name, new, -⟩ := Option.map_eq_some_iff.1 new
    rw [Sink.openPath?, openFile?_eq_none stores new]
    rfl

theorem openPath?_of_target (stores : sink.body = .file body)
    (target : body.target = .opened name path) : sink.openPath? = some path := by
  simp only [openPath?, openFile?, stores, target, Option.map_some]

/-- An open file takes what waits. -/
theorem Keeps.write (keeps : sink.Keeps disk files bytes) (stores : sink.body = .file body)
    (target : body.target = .opened name path) :
    Keeps { sink with body := .file { body with pending := #[] } }
      ({ disk with writes := disk.writes.tail }.put path
        (.file ((disk.content? path).getD #[] ++ body.pending))) files bytes := by
  have isOpen : sink.openFile? = some (body.dir, name, path) := by
    simp only [openFile?, stores, target]
  obtain ⟨located, last⟩ := keeps.opened _ _ _ isOpen
  obtain ⟨closed, rfl⟩ := List.getLast?_eq_some_iff.1 last
  obtain ⟨content, stored⟩ := keeps.stored path (List.mem_append_right closed (by simp))
  have puts := Disk.puts_put (Disk.ne_nil_of_locate located)
    { disk with writes := disk.writes.tail } ((disk.content? path).getD #[] ++ body.pending)
  have absent : path ∉ closed := fun mem =>
    (List.nodup_append.1 keeps.nodup).2.2 path mem path (by simp) rfl
  have free : disk.node? path ≠ some .directory := by
    rw [Disk.content?_eq_some.1 stored]
    simp
  refine ⟨?_, keeps.progress, keeps.nodup, ?_, ?_⟩
  · have before : sink.buffered = body.pending.toList := by rw [buffered, stores]
    have old : ((disk.content? path).getD #[]).toList = disk.bytesAt path := rfl
    rw [Disk.bytesIn_append_singleton, puts.bytesIn absent, puts.bytesAt, Array.toList_append, old,
      ← before, ← keeps.whole, Disk.bytesIn_append_singleton, ← List.append_assoc]
    exact List.append_nil _
  · intro other mem
    by_cases same : other = path
    · exact ⟨_, Disk.content?_eq_some.2 (by rw [same, puts.here])⟩
    · obtain ⟨old, here⟩ := keeps.stored other mem
      exact ⟨old, (Disk.content?_congr (puts.elsewhere other same)).trans here⟩
  · intro dir name' path' h
    have still : sink.openFile? = some (dir, name', path') := by
      rw [isOpen, ← h]
      simp only [openFile?, target]
    obtain ⟨place, end'⟩ := keeps.opened dir name' path' still
    exact ⟨puts.locate free place, end'⟩

/-- A file that is opened is one more, and still empty. -/
theorem Keeps.open (keeps : sink.Keeps disk files bytes) (stores : sink.body = .file body)
    (opens : body.Opens disk name path opened)
    (fresh : ∀ path, sink.Creates disk path → path ∉ files) :
    let sink' := { sink with body := .file { body with target := .opened name path } }
    sink'.Keeps opened (files ++ sink.opened sink') bytes := by
  intro sink'
  have isOpen : sink'.openFile? = some (body.dir, name, path) := rfl
  cases opens with
  | already target =>
    have same : sink' = sink := by
      simp only [sink', ← target, ← stores]
    rw [same, opened_self, List.append_nil]
    exact keeps
  | created new located free =>
    have puts := Disk.puts_put (Disk.ne_nil_of_locate located)
      { disk with creations := disk.creations.tail } #[]
    have absent : path ∉ files :=
      fresh path (creates_of_newName? stores new located)
    have list : sink.opened sink' = [path] := by
      rw [Sink.opened, openPath?, openFile?_eq_none stores new, openPath?, isOpen]
      rfl
    rw [list]
    refine ⟨?_, keeps.progress, ?_, ?_, ?_⟩
    · have same : sink'.buffered = sink.buffered := by rw [buffered, buffered, stores]
      rw [Disk.bytesIn_append_singleton, puts.bytesIn absent, puts.bytesAt, same, ← keeps.whole]
      exact congrArg (· ++ _) (List.append_nil _)
    · rw [List.nodup_append]
      refine ⟨keeps.nodup, by simp, ?_⟩
      rintro other mem last single rfl
      exact absent (List.mem_singleton.1 single ▸ mem)
    · intro other mem
      rcases List.mem_append.1 mem with mem | mem
      · obtain ⟨content, here⟩ := keeps.stored other mem
        have ne : other ≠ path := fun same => absent (same ▸ mem)
        exact ⟨content, (Disk.content?_congr (puts.elsewhere other ne)).trans here⟩
      · rw [List.mem_singleton.1 mem]
        exact ⟨_, Disk.content?_eq_some.2 puts.here⟩
    · intro dir name' path' h
      obtain ⟨rfl, rfl, rfl⟩ : body.dir = dir ∧ name = name' ∧ path = path' := by
        rw [isOpen] at h
        cases h
        exact ⟨rfl, rfl, rfl⟩
      exact ⟨puts.locate free located, by simp⟩

/-- Everything that a flush of a sink can come to. -/
inductive Flushes (sink : Sink) (disk : Disk) : Except TransferError Unit → Sink → Disk → Prop where
  | nothing : (sink.isFile = true → sink.buffered = []) → Flushes sink disk (.ok ()) sink disk
  | uncreated {dir name : String} {fault : Fault} : sink.newFile? disk = some (dir, name) →
    (disk.create dir name).1 = .error fault →
    Flushes sink disk (.error (.sinkIo (Disk.pathText dir name) fault)) sink
      { disk with creations := disk.creations.tail }
  | unwritten {body : FileBody} {name : String} {path : Path} {opened : Disk} {fault : Fault} :
    sink.body = .file body → body.Opens disk name path opened → some fault ∈ opened.writes →
    Flushes sink disk (.error (.sinkIo (Disk.pathText body.dir name) fault))
      { sink with body := .file { body with target := .opened name path } }
      { opened with writes := opened.writes.tail }
  | written {body : FileBody} {name : String} {path : Path} {opened next : Disk} :
    sink.body = .file body → body.Opens disk name path opened →
    next = { opened with writes := opened.writes.tail }.put path
      (.file ((opened.content? path).getD #[] ++ body.pending)) →
    Flushes sink disk (.ok ())
      { sink with body := .file { body with pending := #[], target := .opened name path } } next

theorem flushes_flush (sink : Sink) (disk : Disk) :
    sink.Flushes disk (sink.flush disk).1 (sink.flush disk).2.1 (sink.flush disk).2.2 := by
  rcases stores : sink.body with memory | body
  · rw [flush, stores]
    exact .nothing fun isFile => by simp [Sink.isFile, stores] at isFile
  have unchanged : { sink with body := .file body } = sink := by rw [← stores]
  have flushes := body.flushes_flush disk
  simp only [flush, stores]
  generalize body.flush disk = result at flushes
  obtain ⟨outcome, body', disk'⟩ := result
  simp only at flushes ⊢
  cases flushes with
  | nothing none =>
    rw [unchanged]
    exact .nothing fun _ => by simp only [buffered, stores, none]
  | @uncreated name fault new fails =>
    rw [unchanged]
    exact .uncreated (by simp only [newFile?, stores, new, Option.map_some]) fails
  | unwritten opens mem => exact .unwritten stores opens mem
  | written opens => exact .written stores opens rfl

/-- **No flush loses or repeats a byte**, whether or not it succeeds, as long as no file is created
over one that is in use. -/
theorem Keeps.flush (keeps : sink.Keeps disk files bytes)
    (fresh : ∀ path, sink.Creates disk path → path ∉ files) :
    (sink.flush disk).2.1.Keeps (sink.flush disk).2.2
      (files ++ sink.opened (sink.flush disk).2.1) bytes := by
  have flushes := sink.flushes_flush disk
  generalize sink.flush disk = result at flushes
  obtain ⟨outcome, sink', disk'⟩ := result
  cases flushes with
  | nothing =>
    rw [opened_self, List.append_nil]
    exact keeps
  | uncreated =>
    rw [opened_self, List.append_nil]
    exact ⟨keeps.whole, keeps.progress, keeps.nodup, keeps.stored, keeps.opened⟩
  | unwritten stores opens =>
    have keeps' := keeps.open stores opens fresh
    exact ⟨keeps'.whole, keeps'.progress, keeps'.nodup, keeps'.stored, keeps'.opened⟩
  | written stores opens next =>
    rw [next]
    exact (keeps.open stores opens fresh).write rfl rfl

/-- A flush changes no file but the one that is open and the one that it creates. -/
theorem node?_flush (sink : Sink) (disk : Disk) {other : Path}
    (closed : sink.openPath? ≠ some other) (uncreated : ¬ sink.Creates disk other) :
    (sink.flush disk).2.2.node? other = disk.node? other := by
  have elsewhere {body : FileBody} {name : String} {path : Path} {opened : Disk}
      (stores : sink.body = .file body) (opens : body.Opens disk name path opened) :
      other ≠ path ∧ opened.node? other = disk.node? other := by
    cases opens with
    | already target =>
      exact ⟨fun same => closed (same ▸ openPath?_of_target stores target), rfl⟩
    | created new located =>
      have ne : other ≠ path := fun same =>
        uncreated (same ▸ creates_of_newName? stores new located)
      exact ⟨ne, Disk.node?_put_of_ne ne _ _⟩
  have flushes := sink.flushes_flush disk
  generalize sink.flush disk = result at flushes
  obtain ⟨outcome, sink', disk'⟩ := result
  cases flushes with
  | nothing | uncreated => rfl
  | unwritten stores opens => exact (elsewhere stores opens).2
  | written stores opens next =>
    obtain ⟨ne, same⟩ := elsewhere stores opens
    rw [next]
    exact (Disk.node?_put_of_ne ne _ _).trans same

/-- A flush uses up what is listed for the next writes. -/
theorem writes_flush (sink : Sink) (disk : Disk) :
    (sink.flush disk).2.2.writes ⊆ disk.writes := by
  have flushes := sink.flushes_flush disk
  generalize sink.flush disk = result at flushes
  obtain ⟨outcome, sink', disk'⟩ := result
  cases flushes with
  | nothing | uncreated => exact List.Subset.refl _
  | unwritten stores opens =>
    rw [← opens.writes]
    exact fun _ mem => List.mem_of_mem_tail mem
  | written stores opens next =>
    rw [next, Disk.writes_put, ← opens.writes]
    exact fun _ mem => List.mem_of_mem_tail mem

/-- What is open after a flush was open before, and stays so, or has been created. -/
theorem openPath?_flush (sink : Sink) (disk : Disk) :
    (sink.flush disk).2.1.openPath? = sink.openPath? ∨
      sink.openPath? = none ∧ ∃ path, (sink.flush disk).2.1.openPath? = some path ∧
        sink.Creates disk path := by
  have opening {body body' : FileBody} {name : String} {path : Path} {opened : Disk}
      (stores : sink.body = .file body) (opens : body.Opens disk name path opened)
      (target : body'.target = .opened name path) :
      { sink with body := .file body' }.openPath? = sink.openPath? ∨
        sink.openPath? = none ∧ ∃ path, { sink with body := .file body' }.openPath? = some path ∧
          sink.Creates disk path := by
    have isOpen : { sink with body := .file body' }.openPath? = some path :=
      openPath?_of_target rfl target
    cases opens with
    | already own => exact .inl (isOpen.trans (openPath?_of_target stores own).symm)
    | created new located =>
      refine .inr ⟨?_, path, isOpen, creates_of_newName? stores new located⟩
      rw [openPath?, openFile?_eq_none stores new]
      rfl
  have flushes := sink.flushes_flush disk
  generalize sink.flush disk = result at flushes
  obtain ⟨outcome, sink', disk'⟩ := result
  cases flushes with
  | nothing | uncreated => exact .inl rfl
  | unwritten stores opens => exact opening stores opens rfl
  | written stores opens => exact opening stores opens rfl

/-- What a flush opens is new on the disk, if it creates no file over another. -/
theorem paths_flush (sink : Sink) (disk : Disk)
    (present : ∀ path, sink.openPath? = some path → path ∈ disk.paths)
    (fresh : ∀ path, sink.Creates disk path → path ∉ disk.paths) :
    (sink.flush disk).2.2.paths = disk.paths ++ sink.opened (sink.flush disk).2.1 := by
  have opening {body body' : FileBody} {name : String} {path : Path} {opened : Disk}
      (stores : sink.body = .file body) (opens : body.Opens disk name path opened)
      (target : body'.target = .opened name path) :
      opened.paths = disk.paths ++ sink.opened { sink with body := .file body' } ∧
        path ∈ opened.paths := by
    have isOpen : { sink with body := .file body' }.openPath? = some path :=
      openPath?_of_target rfl target
    cases opens with
    | already own =>
      have before := openPath?_of_target stores own
      rw [Sink.opened, before]
      exact ⟨(List.append_nil _).symm, present path before⟩
    | created new located =>
      have absent := fresh path (creates_of_newName? stores new located)
      have paths := Disk.paths_put { disk with creations := disk.creations.tail } path (.file #[])
      have before : sink.openPath? = none := by
        rw [openPath?, openFile?_eq_none stores new]
        rfl
      have same : { disk with creations := disk.creations.tail }.paths = disk.paths := rfl
      rw [Sink.opened, before, isOpen, paths, same, if_neg absent]
      exact ⟨rfl, List.mem_append_right disk.paths (List.mem_singleton_self path)⟩
  have flushes := sink.flushes_flush disk
  generalize sink.flush disk = result at flushes
  obtain ⟨outcome, sink', disk'⟩ := result
  cases flushes with
  | nothing => rw [opened_self, List.append_nil]
  | uncreated =>
    rw [opened_self, List.append_nil]
    rfl
  | unwritten stores opens => exact (opening stores opens rfl).1
  | @written body name path opened _ stores opens next =>
    have target : { body with pending := #[], target := .opened name path }.target =
        .opened name path := rfl
    obtain ⟨paths, mem⟩ := opening stores opens target
    rw [next]
    exact (Disk.paths_put _ path _).trans ((if_pos mem).trans paths)

/-- A flush that succeeds leaves nothing waiting. -/
theorem buffered_flush (isFile : sink.isFile = true) (ok : (sink.flush disk).1 = .ok ()) :
    (sink.flush disk).2.1.buffered = [] := by
  have flushes := sink.flushes_flush disk
  generalize sink.flush disk = result at flushes ok
  obtain ⟨outcome, sink', disk'⟩ := result
  cases flushes with
  | nothing none => exact none isFile
  | written => rfl
  | uncreated | unwritten => cases ok

/-- Without anything that waits a flush does nothing. -/
theorem flush_of_buffered (nothing : sink.isFile = true → sink.buffered = []) (disk : Disk) :
    sink.flush disk = (.ok (), sink, disk) := by
  rcases stores : sink.body with memory | body
  · rw [flush, stores]
  have none : body.pending.isEmpty = true := by
    have empty := nothing (by rw [isFile, stores])
    rw [buffered, stores] at empty
    exact Array.isEmpty_iff.2 (Array.toList_eq_nil_iff.1 empty)
  have unchanged : { sink with body := .file body } = sink := by rw [← stores]
  simp only [flush, stores, FileBody.flush, if_pos none, unchanged, stored]

end Flush

/-! ## The end -/

/-- The sink once the transfer has ended. -/
def close (sink : Sink) : Sink :=
  { sink with
    completed := true
    body := match sink.body with
      | .memory bytes => .memory bytes
      | .file body => .file body.close }

/-- The end is a flush, after which the file is closed. -/
theorem complete_eq {sink : Sink} (going : sink.completed = false) (disk : Disk) :
    sink.complete disk =
      ((sink.flush disk).1, (sink.flush disk).2.1.close, (sink.flush disk).2.2) := by
  have first : ¬ sink.completed = true := by rw [going]; exact Bool.false_ne_true
  rw [complete, if_neg first, flush]
  rcases stores : sink.body with memory | body
  · simp only [close, stores]
  · rfl

theorem buffered_close (sink : Sink) : sink.close.buffered = sink.buffered := by
  rw [buffered, buffered, close]
  rcases sink.body with memory | body
  · rfl
  · simp only [FileBody.close]
    cases body.target <;> rfl

theorem openFile?_close (sink : Sink) : sink.close.openFile? = none := by
  rw [openFile?, close]
  rcases sink.body with memory | body
  · rfl
  · simp only [FileBody.close]
    cases target : body.target <;> simp [target]

/-- What is kept stays where it is at the end. -/
theorem Keeps.close {sink : Sink} {disk : Disk} {files : List Path} {bytes : Bytes}
    (keeps : sink.Keeps disk files bytes) : sink.close.Keeps disk files bytes :=
  keeps.congr sink.buffered_close rfl (.inl sink.openFile?_close)

end Sink
end HttpFetch
