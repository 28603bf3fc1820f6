import HttpFetch.Proofs.HeadEnd
import HttpFetch.Proofs.LastHop
/-!
# A transfer that succeeds has delivered its body

While a body is read, what has been taken of it is kept in one file or in memory, everything that was
taken has been flushed, and what is still to come follows it (`Reader.Taking`). Every read that is
flushed without a fault keeps this (`Reader.Taking.portion`), and reading ends well only where the
body does (`Reader.Taking.readBodyFrom`). A transfer ends without an error only if its last hop took
a body in this way, as `fetch_success` says.
-/

namespace HttpFetch

/-- Which of the bytes that follow a head are its body: as many as it says, and there are as many, or
all of them, if it does not say and they do not break off. -/
def IsBody (length : Option Nat) (follows : Bytes) (fault : Option Fault) (body : Bytes) : Prop :=
  match length with
  | some n => n ≤ follows.length ∧ body = follows.take n
  | none => fault = none ∧ body = follows

namespace Sink

/-! ## One file at most -/

/-- A sink that keeps a body in one place: in the file that it has open, or in memory. -/
structure KeepsWhole (sink : Sink) (kind : SinkKind) (origin disk : Disk) (body : Bytes) :
    Prop where
  kind : sink.body.kind = kind
  keeps : sink.Keeps disk sink.openPath?.toList body
  /-- the path that the sink shows is that of the open file -/
  named : sink.filePath = sink.openFile?.map fun (dir, name, _) => Disk.pathText dir name
  flushed : sink.isFile = true → sink.buffered = []
  /-- without a body for a file nothing happens to the disk -/
  untouched : body = [] ∨ sink.isFile = false → disk = origin ∧ sink.openFile? = none

theorem isFile_append (sink : Sink) (bytes : Bytes) : (sink.append bytes).isFile = sink.isFile := by
  rw [isFile, isFile, append]
  rcases sink.body with memory | body <;> rfl

theorem kind_append (sink : Sink) (bytes : Bytes) :
    (sink.append bytes).body.kind = sink.body.kind := by
  rw [append]
  rcases sink.body with memory | body <;> rfl

theorem kind_flush (sink : Sink) (disk : Disk) :
    (sink.flush disk).2.1.body.kind = sink.body.kind := by
  have flushes := sink.flushes_flush disk
  generalize sink.flush disk = result at flushes
  obtain ⟨outcome, sink', disk'⟩ := result
  cases flushes with
  | nothing | uncreated => rfl
  | unwritten stores | written stores => simp only [stores, Body.kind]

theorem filePath_append (sink : Sink) (bytes : Bytes) :
    (sink.append bytes).filePath = sink.filePath := by
  rw [filePath, filePath, append]
  rcases sink.body with memory | body <;> rfl

theorem filePath_reset (sink : Sink) : sink.reset.filePath = none := by
  rw [filePath, reset]
  rcases sink.body with memory | body <;> rfl

theorem isFile_flush (sink : Sink) (disk : Disk) : (sink.flush disk).2.1.isFile = sink.isFile := by
  rcases stores : sink.body with memory | body <;> simp [flush, isFile, stores]

theorem bodySize_flush (sink : Sink) (disk : Disk) :
    (sink.flush disk).2.1.bodySize = sink.bodySize := by
  rcases stores : sink.body with memory | body <;> simp [flush, stores]

section Whole

variable {sink : Sink} {kind : SinkKind} {origin disk : Disk} {body : Bytes}

/-- A flush shows the path of the file that it opens. -/
theorem filePath_flush
    (named : sink.filePath = sink.openFile?.map fun (dir, name, _) => Disk.pathText dir name) :
    (sink.flush disk).2.1.filePath =
      (sink.flush disk).2.1.openFile?.map fun (dir, name, _) => Disk.pathText dir name := by
  have flushes := sink.flushes_flush disk
  generalize sink.flush disk = result at flushes
  obtain ⟨outcome, sink', disk'⟩ := result
  cases flushes with
  | nothing | uncreated => exact named
  | unwritten | written => rfl

/-- A sink that has just started over keeps an empty body. -/
theorem keepsWhole_nil {sink' : Sink} (keeps : sink'.Keeps disk [] [])
    (same : sink'.body = sink.reset.body) : sink'.KeepsWhole sink.body.kind disk disk [] := by
  have closed : sink'.openFile? = none := by
    rw [openFile?, same]
    exact sink.openFile?_reset
  have unnamed : sink'.filePath = none := by
    rw [filePath, same]
    exact sink.filePath_reset
  have empty : sink'.buffered = [] := by
    rw [buffered, same]
    exact sink.buffered_reset
  refine ⟨?_, ?_, ?_, fun _ => empty, fun _ => ⟨rfl, closed⟩⟩
  · rw [same, kind_reset]
  · rw [openPath?, closed]
    exact keeps
  · rw [closed, unnamed]
    rfl

/-- Bytes that are added and flushed without a fault are kept in the same place. -/
theorem KeepsWhole.take (h : sink.KeepsWhole kind origin disk body) {more : Bytes}
    (ok : ((sink.append more).flush disk).1 = .ok ()) :
    ((sink.append more).flush disk).2.1.KeepsWhole kind origin ((sink.append more).flush disk).2.2
      (body ++ more) := by
  have openPath : (sink.append more).openPath? = sink.openPath? := by
    rw [openPath?, openPath?, openFile?_append]
  have waits :
      (sink.append more).Keeps disk (sink.append more).openPath?.toList (body ++ more) := by
    rw [openPath]
    exact h.keeps.append more
  refine ⟨?_, ?_, ?_, ?_, ?_⟩
  · rw [kind_flush, kind_append, h.kind]
  · have fresh : ∀ path, (sink.append more).Creates disk path →
        path ∉ (sink.append more).openPath?.toList := by
      intro path creates
      rw [creates.openPath?]
      exact List.not_mem_nil
    have keeps := waits.flush fresh
    have files : (sink.append more).openPath?.toList ++
        (sink.append more).opened ((sink.append more).flush disk).2.1 =
        ((sink.append more).flush disk).2.1.openPath?.toList := by
      rw [Sink.opened]
      rcases (sink.append more).openPath?_flush disk with same | ⟨before, -⟩
      · rw [same]
        rcases (sink.append more).openPath? with _ | path <;> rfl
      · rw [before]
        rfl
    rwa [files] at keeps
  · refine filePath_flush ?_
    rw [filePath_append, openFile?_append]
    exact h.named
  · intro isFile
    rw [isFile_flush] at isFile
    exact buffered_flush isFile ok
  · intro nothing
    rw [isFile_flush, isFile_append] at nothing
    have idle : (sink.append more).isFile = true → (sink.append more).buffered = [] := by
      rw [isFile_append, buffered_append]
      intro isFile
      have none : body ++ more = [] := nothing.resolve_right (by simp [isFile])
      rw [h.flushed isFile, (List.append_eq_nil_iff.1 none).2, List.append_nil]
    rw [flush_of_buffered idle, openFile?_append]
    exact h.untouched (nothing.imp_left fun none => (List.append_eq_nil_iff.1 none).1)

end Whole

/-! ## The end -/

theorem filePath_close (sink : Sink) : sink.close.filePath = sink.filePath := by
  rw [filePath, filePath, close]
  rcases sink.body with memory | body
  · rfl
  · simp only [FileBody.close]
    cases target : body.target <;> simp only [FileBody.path?, target]

/-- Where nothing waits, the end succeeds and changes nothing that counts. -/
theorem complete_of_flushed {sink : Sink} (flushed : sink.isFile = true → sink.buffered = [])
    (disk : Disk) :
    ∃ sink', sink.complete disk = (.ok (), sink', disk) ∧ sink'.completed = true ∧
      sink'.progress = sink.progress ∧ sink'.bodySize = sink.bodySize ∧
      sink'.buffered = sink.buffered ∧ sink'.filePath = sink.filePath := by
  by_cases ended : sink.completed = true
  · exact ⟨sink, by rw [complete, if_pos ended], ended, rfl, rfl, rfl, rfl⟩
  · refine ⟨sink.close, ?_, rfl, rfl, rfl, sink.buffered_close, sink.filePath_close⟩
    rw [complete_eq (Bool.eq_false_iff.2 ended), flush_of_buffered flushed]

end Sink
namespace Reader

/-! ## Reading a body -/

/-- A reader that has `taken` bytes of a body and is to get the `rest` of what follows the head, all
of which is `follows`. -/
structure Taking (r : Reader) (kind : SinkKind) (length : Option Nat) (origin disk : Disk)
    (follows rest taken : Bytes) : Prop where
  keeps : r.sink.KeepsWhole kind origin disk taken
  sized : r.contentLength = length
  received : r.received = taken.length
  size : ∀ n, length = some n → r.sink.bodySize = some n
  body : r.phase = .body → taken ++ rest = follows ∧ ∀ n, length = some n → taken.length < n
  done : r.phase ≠ .body → ∃ n, length = some n ∧ n ≤ follows.length ∧ taken = follows.take n

variable {r next : Reader} {kind : SinkKind} {length : Option Nat} {origin disk disk' : Disk}
  {follows rest taken bytes : Bytes}

theorem Taking.withWindow (h : r.Taking kind length origin disk follows rest taken) (capacity : Nat)
    (window : Bytes) (mark : Nat) :
    (r.withWindow capacity window mark).Taking kind length origin disk follows rest taken :=
  ⟨h.keeps, h.sized, h.received, h.size, h.body, h.done⟩

theorem wanted_le (r : Reader) (available : Nat) : r.wanted available ≤ available := by
  rw [wanted]
  rcases r.contentLength with _ | n
  · exact Nat.le_refl available
  · exact Nat.min_le_right _ available

/-- A portion that completes a body completes it with its first bytes. -/
theorem take_portion {n : Nat} (open' : taken.length ≤ n)
    (complete : n ≤ taken.length + bytes.length) (rest : Bytes) :
    (taken ++ (bytes ++ rest)).take n = taken ++ bytes.take (n - taken.length) := by
  have within : n - taken.length - bytes.length = 0 := by omega
  rw [List.take_append, List.take_of_length_le open', List.take_append, within, List.take_zero,
    List.append_nil]

/-- **A read that is flushed without a fault** takes as much of the body as it has. -/
theorem Taking.portion (h : r.Taking kind length origin disk follows (bytes ++ rest) taken)
    (body : r.phase = .body) (flushed : (r.takeBody bytes).flush disk = (.ok (), next, disk')) :
    ∃ taken', next.Taking kind length origin disk' follows rest taken' := by
  have ok : ((r.sink.append (bytes.take (r.wanted bytes.length))).flush disk).1 = .ok () :=
    congrArg Prod.fst flushed
  obtain ⟨whole, short⟩ := h.body body
  have count := r.wanted_le bytes.length
  obtain rfl : ((r.takeBody bytes).flush disk).2.1 = next := congrArg (·.2.1) flushed
  obtain rfl : ((r.takeBody bytes).flush disk).2.2 = disk' := congrArg (·.2.2) flushed
  refine ⟨taken ++ bytes.take (r.wanted bytes.length), h.keeps.take ok, h.sized, ?_, ?_, ?_, ?_⟩
  · rw [List.length_append, ← h.received, List.length_take, Nat.min_eq_left count]
    rfl
  · intro n sized
    exact (Sink.bodySize_flush _ disk).trans (h.size n sized)
  · intro going
    have phase : (r.takeBody bytes).phase = .body := going
    rcases sized : length with _ | n
    · have all : r.wanted bytes.length = bytes.length := by rw [wanted, h.sized, sized]
      rw [all, List.take_length, List.append_assoc]
      exact ⟨whole, fun n same => absurd same.symm (Option.some_ne_none n)⟩
    · rw [takeBody_sized (h.sized.trans sized)] at phase
      simp only [body, ite_eq_right_iff, reduceCtorEq, imp_false, Nat.not_le] at phase
      have all : r.wanted bytes.length = bytes.length := by
        rw [wanted, h.sized, sized]
        exact Nat.min_eq_right (by omega)
      rw [all, List.take_length, List.append_assoc]
      refine ⟨whole, fun m same => ?_⟩
      cases same
      rw [List.length_append, ← h.received]
      exact phase
  · intro past
    have phase : (r.takeBody bytes).phase ≠ .body := past
    rcases sized : length with _ | n
    · rw [takeBody_unsized (h.sized.trans sized)] at phase
      exact absurd body phase
    · rw [takeBody_sized (h.sized.trans sized)] at phase
      simp only [body, ne_eq, ite_eq_right_iff, reduceCtorEq, imp_false, Decidable.not_not] at phase
      have count : r.wanted bytes.length = n - taken.length := by
        rw [wanted, h.sized, sized, ← h.received]
        exact Nat.min_eq_left (by omega)
      rw [h.received] at phase
      refine ⟨n, rfl, ?_, ?_⟩
      · rw [← whole, List.length_append, List.length_append]
        omega
      · rw [count, ← whole, take_portion (Nat.le_of_lt (short n sized)) phase]

/-- A reader that has taken all of a body. -/
structure Took (r : Reader) (kind : SinkKind) (length : Option Nat) (origin disk : Disk)
    (follows : Bytes) (fault : Option Fault) (body : Bytes) : Prop where
  keeps : r.sink.KeepsWhole kind origin disk body
  size : r.sink.bodySize = some body.length
  isBody : IsBody length follows fault body

theorem flush_of_keepsWhole (keeps : r.sink.KeepsWhole kind origin disk taken) :
    r.flush disk = (.ok (), r, disk) := by
  rw [Reader.flush, Sink.flush_of_buffered keeps.flushed]

/-- A body that is complete ends as it is. -/
theorem Taking.endBody (h : r.Taking kind length origin disk follows rest taken)
    (past : r.phase ≠ .body) (fault : Option Fault) (s : Stream) :
    ∃ body, (r.endBody s disk).reader.Took kind length origin (r.endBody s disk).disk follows fault
      body := by
  obtain ⟨n, sized, enough, body⟩ := h.done past
  have count : taken.length = n := by rw [body, List.length_take, Nat.min_eq_left enough]
  rw [Reader.endBody, flush_of_keepsWhole h.keeps]
  refine ⟨taken, h.keeps, ?_, ?_⟩
  · rw [h.size n sized, count]
  · rw [sized]
    exact ⟨enough, body⟩

/-- The end of the stream ends a body of unknown length. -/
theorem Taking.endBodyEarly (h : r.Taking kind length origin disk follows [] taken)
    (body : r.phase = .body) (s : Stream) (ok : (r.endBodyEarly s disk).outcome = .ok ()) :
    ∃ body, (r.endBodyEarly s disk).reader.Took kind length origin (r.endBodyEarly s disk).disk
      follows none body := by
  obtain ⟨whole, -⟩ := h.body body
  rcases sized : length with _ | n
  · have ends : r.finishAtEnd = (.ok (), { r with
        phase := .done, sink := { r.sink with bodySize := some r.received } }) := by
      simp [finishAtEnd, body, h.sized, sized]
    have keeps : Sink.KeepsWhole { r.sink with bodySize := some r.received } kind origin
        disk taken :=
      ⟨h.keeps.kind, h.keeps.keeps.congr rfl rfl (.inr rfl), h.keeps.named, h.keeps.flushed,
        h.keeps.untouched⟩
    simp only [Reader.endBodyEarly, ends, Reader.endBody]
    rw [flush_of_keepsWhole (r := { r with
      phase := .done, sink := { r.sink with bodySize := some r.received } }) keeps]
    exact ⟨taken, keeps, congrArg some h.received, rfl, by rw [← whole, List.append_nil]⟩
  · have ends : r.finishAtEnd = (.error (.incompleteBody n r.received), r) := by
      simp [finishAtEnd, body, h.sized, sized]
    simp only [Reader.endBodyEarly, ends] at ok
    cases ok

/-- **Reading a body ends well only with all of it.** -/
theorem Taking.readBodyFrom {cancelled : Bool} {deliveries : List Delivery}
    (h : r.Taking kind length origin disk follows (Stream.waitingIn deliveries) taken)
    (ok : (r.readBodyFrom disk cancelled deliveries).outcome = .ok ()) :
    ∃ body, (r.readBodyFrom disk cancelled deliveries).reader.Took kind length origin
      (r.readBodyFrom disk cancelled deliveries).disk follows (Stream.breakIn deliveries) body := by
  induction deliveries generalizing r disk cancelled taken with
  | nil =>
    rw [Reader.readBodyFrom] at ok ⊢
    split_ifs at ok ⊢ with past gone
    · exact h.endBody past _ _
    · exact h.endBodyEarly (not_not.1 past) _ ok
  | cons d later ih =>
    rw [Reader.readBodyFrom] at ok ⊢
    by_cases past : r.phase ≠ .body
    · simp only [if_pos past] at ok ⊢
      exact h.endBody past _ _
    by_cases gone : cancelled = true
    · simp only [if_neg past, if_pos gone] at ok
      cases ok
    simp only [if_neg past, if_neg gone] at ok ⊢
    rw [ne_eq, Decidable.not_not] at past
    rcases event : d.event with _ | bytes | _ | fault <;>
      simp only [event, Stream.waitingIn, Stream.breakIn] at ok h ⊢
    · exact ih h ok
    · rcases flushed : ((r.hold bytes).takeBody bytes).flush disk with ⟨e | _, next, disk'⟩ <;>
        simp only [flushed] at ok ⊢
      · cases ok
      · have held := h.withWindow r.capacity bytes bytes.length
        obtain ⟨taken', h'⟩ := held.portion past flushed
        exact ih h' ok
    · split_ifs at ok ⊢
      · exact h.endBodyEarly past _ ok
    · cases ok

/-- Nothing has been taken of a body at its start. -/
theorem AtBody.taking (h : r.AtBody disk) {sink : Sink} (same : r.sink.body = sink.reset.body)
    (all : r.phase = .body → rest = follows) :
    r.Taking sink.body.kind r.contentLength disk disk follows rest [] where
  keeps := Sink.keepsWhole_nil h.keeps same
  sized := rfl
  received := h.received
  size := h.size
  body body := by
    refine ⟨all body, fun n sized => Nat.pos_of_ne_zero ?_⟩
    rintro rfl
    rw [h.phase, if_pos sized] at body
    cases body
  done past := by
    by_cases empty : r.contentLength = some 0
    · exact ⟨0, empty, Nat.zero_le _, rfl⟩
    · exact absurd (by rw [h.phase, if_neg empty]) past

/-- So does reading a body from its start, where some of it may have come with the head. -/
theorem AtBody.readBody (h : r.AtBody disk) {sink : Sink} (same : r.sink.body = sink.reset.body)
    (positive : 0 < r.capacity) {s : Stream} (ok : (r.readBody s disk).outcome = .ok ()) :
    ∃ body, (r.readBody s disk).reader.Took sink.body.kind r.contentLength disk
      (r.readBody s disk).disk (r.unread ++ s.waiting) (Stream.breakIn s.deliveries) body := by
  have waiting : Stream.waitingIn (s.inPieces r.capacity).deliveries = s.waiting :=
    Stream.waitingIn_inPieces positive s.deliveries
  have breaks : Stream.breakIn (s.inPieces r.capacity).deliveries = Stream.breakIn s.deliveries :=
    Stream.breakIn_inPieces positive s.deliveries
  rw [Reader.readBody] at ok ⊢
  rw [← breaks]
  by_cases nothing : r.unread.isEmpty = true ∨ r.phase ≠ .body
  · have skip : r.takeUnread disk =
        (.ok (), r.withWindow r.capacity r.window r.window.length, disk) := by
      simp only [takeUnread, if_pos nothing]
      rfl
    have taking : (r.withWindow r.capacity r.window r.window.length).Taking sink.body.kind
        r.contentLength disk disk (r.unread ++ s.waiting)
        (Stream.waitingIn (s.inPieces r.capacity).deliveries) [] := by
      refine (h.withWindow r.capacity r.window r.window.length).taking same fun body => ?_
      have empty := nothing.resolve_right (not_not.2 body)
      rw [List.isEmpty_iff.1 empty, List.nil_append, waiting]
    simp only [skip] at ok ⊢
    exact taking.readBodyFrom ok
  · have first : r.takeUnread disk =
        ((r.withWindow r.capacity r.window r.window.length).takeBody r.unread).flush disk := by
      simp only [takeUnread, if_neg nothing]
      rfl
    obtain ⟨-, body⟩ := not_or.1 nothing
    have taking : (r.withWindow r.capacity r.window r.window.length).Taking sink.body.kind
        r.contentLength disk disk (r.unread ++ s.waiting)
        (r.unread ++ Stream.waitingIn (s.inPieces r.capacity).deliveries) [] :=
      (h.withWindow r.capacity r.window r.window.length).taking same fun _ => by rw [waiting]
    rcases flushed : r.takeUnread disk with ⟨e | _, next, disk'⟩ <;> simp only [flushed] at ok ⊢
    · cases ok
    · obtain ⟨taken, taking⟩ := taking.portion (not_not.1 body) (first.symm.trans flushed)
      exact taking.readBodyFrom ok

end Reader

/-- What a sink and a disk have to show for a body of a kind of sink, started on a disk `origin`: the
body in memory, or in the file whose path the sink shows, which is not there for an empty body. -/
def Sink.Shows (sink : Sink) (kind : SinkKind) (origin disk : Disk) (body : Bytes) : Prop :=
  match kind with
  | .memory => sink.buffered = body ∧ disk = origin
  | .file dir =>
    sink.buffered = [] ∧
      (body = [] → sink.filePath = none ∧ disk = origin) ∧
      (body ≠ [] → ∃ name path, sink.filePath = some (Disk.pathText dir name) ∧
        disk.locate dir name = .ok path ∧ disk.content? path = some body.toArray)

theorem Sink.KeepsWhole.shows {sink : Sink} {kind : SinkKind} {origin disk : Disk} {body : Bytes}
    (h : sink.KeepsWhole kind origin disk body) : sink.Shows kind origin disk body := by
  obtain rfl := h.kind
  rcases stores : sink.body with memory | file
  · have memory : sink.isFile = false := by rw [Sink.isFile, stores]
    obtain ⟨disk, closed⟩ := h.untouched (.inr memory)
    have whole := h.keeps.whole
    rw [Sink.openPath?, closed] at whole
    exact ⟨whole, disk⟩
  · have isFile : sink.isFile = true := by rw [Sink.isFile, stores]
    have whole := h.keeps.whole
    rw [h.flushed isFile, List.append_nil] at whole
    refine ⟨h.flushed isFile, fun empty => ?_, fun filled => ?_⟩
    · obtain ⟨disk, closed⟩ := h.untouched (.inl empty)
      rw [h.named, closed]
      exact ⟨rfl, disk⟩
    · rcases isOpen : sink.openFile? with _ | ⟨dir, name, path⟩
      · rw [Sink.openPath?, isOpen] at whole
        exact absurd whole.symm filled
      have place : dir = file.dir := by
        simp only [Sink.openFile?, stores] at isOpen
        split at isOpen <;> cases isOpen
        rfl
      subst place
      obtain ⟨located, -⟩ := h.keeps.opened file.dir name path isOpen
      rw [Sink.openPath?, isOpen] at whole
      obtain ⟨content, stored⟩ := h.keeps.stored path (by
        rw [Sink.openPath?, isOpen]
        exact List.mem_singleton_self path)
      have same : content.toList = body := by
        rw [← whole, ← Disk.bytesAt_of_content? stored]
        exact (List.append_nil _).symm
      refine ⟨name, path, by rw [h.named, isOpen, Option.map_some], located, ?_⟩
      rw [stored, ← same]

theorem Sink.Shows.congr {sink sink' : Sink} {kind : SinkKind} {origin disk : Disk} {body : Bytes}
    (shows : sink.Shows kind origin disk body) (buffered : sink'.buffered = sink.buffered)
    (filePath : sink'.filePath = sink.filePath) : sink'.Shows kind origin disk body := by
  cases kind <;> simpa only [Sink.Shows, buffered, filePath] using shows

/-- **A transfer that succeeds has delivered its body.** If it ends without an error, then its last
hop has a response with a status below 300, whose body is what follows the first empty line: as many
bytes as the length that was taken from the head, or all of them up to the end of the stream. The
progress and the size are its length, the sink is closed, and the body is in memory, or in the file
whose path the sink shows, which there is none of for an empty body. -/
theorem fetch_success {settings : Settings} {template : Template} {network : Network} {sink : Sink}
    {disk : Disk} {cancelled : Bool}
    (success : (fetch settings template network sink disk cancelled).completion.error = none) :
    let result := fetch settings template network sink disk cancelled
    ∃ (t : Transfer) (url : Url) (connection : Connection) (reader : Reader) (cancels : Bool)
        (later : Stream) (follows body : Bytes),
      ((Transfer.start settings sink disk cancelled).hops settings template network).getLast? =
        some t ∧
      Url.read t.sink.url = .ok url ∧
      (Transfer.opening settings template (network t.redirects.followed) url).outcome =
        .ok connection ∧
      (Reader.start settings.readBufferSize t.sink.reset).readHead
        ⟨connection.channel.inbound, cancels⟩ = (.ok (), reader, later) ∧
      result.completion.sink.heading = reader.sink.heading ∧
      result.completion.sink.status < 300 ∧
      afterBlank (Stream.waitingIn connection.channel.inbound) = some follows ∧
      IsBody reader.contentLength follows (Stream.breakIn connection.channel.inbound) body ∧
      result.completion.sink.progress = body.length ∧
      result.completion.sink.bodySize = some body.length ∧
      result.completion.sink.completed = true ∧
      result.completion.sink.Shows sink.body.kind disk result.disk body := by
  intro result
  let start := Transfer.start settings sink disk cancelled
  obtain ⟨t, end', last⟩ : ∃ t, (start.hops settings template network).getLast? = some t ∧
      t.IsLast settings template network := start.exists_last
  have mem := List.mem_of_getLast? end'
  obtain ⟨sameDisk, kind⟩ := Transfer.kept_of_mem_hops mem
  have run := (Transfer.run_of_mem_hops mem).trans (Transfer.run_last last)
  have whole : result = _ := fetch_of_run run
  have success : result.completion.error = none := success
  rw [whole] at success ⊢
  rcases hop : t.hop settings template network with ⟨e | _ | next, after⟩ <;>
    rw [hop] at success
  · cases success
  · obtain ⟨url, reader, later, trace, heard, fine, ok, rfl⟩ := Transfer.heard_of_success hop
    have hears := Transfer.hears_hear settings template (network t.redirects.followed) t.sink
      t.cancelled
    rw [← Transfer.heard, heard] at hears
    cases hears with
    | @opened url' connection _ going read outcome same =>
    obtain ⟨rfl, cancels, head⟩ := connection.readHead_of_listen same.symm
    obtain ⟨atBody, positive, follows, breaks⟩ :=
      Reader.rest_readHead (t.sink.keeps_reset t.disk) head
    have sameBody : reader.sink.body = t.sink.reset.body := by
      have body := (Reader.start settings.readBufferSize t.sink.reset).body_readHead
        ⟨connection.channel.inbound, cancels⟩
      rwa [head] at body
    obtain ⟨body, took⟩ := atBody.readBody sameBody positive ok
    obtain ⟨sink', complete, completed, progress, size, buffered, filePath⟩ :=
      Sink.complete_of_flushed took.keeps.flushed (reader.readBody later t.disk).disk
    have heading : sink'.heading = reader.sink.heading := by
      have closed := (reader.readBody later t.disk).reader.sink.heading_complete
        (reader.readBody later t.disk).disk
      rw [complete] at closed
      exact closed.trans (reader.heading_readBody later t.disk)
    have status := congrArg Sink.status heading
    have shows := took.keeps.shows.congr buffered filePath
    rw [kind] at shows
    nth_rewrite 1 [sameDisk] at shows
    simp only [Transfer.finish, complete]
    refine ⟨t, url, connection, reader, cancels, later, _, body, end', read, outcome, head, heading,
      ?_, follows, ?_, ?_, size.trans took.size, completed, shows⟩
    · exact lt_of_eq_of_lt status fine
    · rw [← breaks]
      exact took.isBody
    · rw [progress, took.keeps.keeps.progress]
  · exact absurd hop (last next after)

/-- A body that comes partly with its head, and with a byte after it. -/
theorem fetch_success_file :
    let network : Network := fun _ _ _ => .ok [⟨"::1", false, .ok { plain := { inbound :=
      [⟨false, .ok (Utf8.encode "V 200 O\nContent-Length: 2\n\nx")⟩,
        ⟨false, .ok (Utf8.encode "yz")⟩] } }⟩]
    let result := fetch {} {} network (.toFile "http://[::1]/a" "") {} false
    result.completion.error = none ∧ result.completion.sink.progress = 2 ∧
      result.disk.content? ["a"] = some #[120, 121] ∧
      ∃ body : Bytes, result.completion.sink.progress = body.length ∧
        result.completion.sink.Shows (.file "") {} result.disk body := by
  intro network result
  have success : result.completion.error = none := by decide +kernel
  obtain ⟨t, url, connection, reader, cancels, later, follows, body, -, -, -, -, -, -, -, -,
    progress, -, -, shows⟩ := fetch_success success
  exact ⟨success, by decide +kernel, by decide +kernel, body, progress, shows⟩

end HttpFetch
