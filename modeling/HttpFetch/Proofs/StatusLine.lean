import HttpFetch.Proofs.Arrival
import HttpFetch.Proofs.Requests
import Mathlib.Data.List.TakeWhile
/-!
# The status line that a sink shows

A sink is emptied when a connection opens and shows a status line once that has arrived
(`Reader.line_after_start`). Nothing that comes later on the connection changes it. So in the end
the sink shows the status line of the last hop with a connection (`fetch_statusLine`), which need
not be the last one that arrived: a hop that fails early leaves none.
-/

namespace HttpFetch

/-! ## First lines -/

/-- The status and the description of a response. -/
structure StatusLine where
  status : UInt16
  description : String
  deriving Repr, DecidableEq

namespace StatusLine

/-- What may stand in front of the status: spaces and carriage returns. -/
def isBlank (b : UInt8) : Bool := b = 32 || b = 13

/-- The text of bytes, of which carriage returns do not count. -/
def textOf (bytes : Bytes) : String := Utf8.decodeLossy (bytes.filter (· ≠ 13))

/-- The status line in a first line after the version: a number, a blank, and a description. -/
def ofLine? (line : Bytes) : Option StatusLine :=
  let line := line.dropWhile isBlank
  match Decimal.readNat Decimal.max16 (textOf (line.takeWhile (· ≠ 32))).toList with
  | .ok n => some ⟨n.toUInt16, textOf ((line.dropWhile (· ≠ 32)).drop 1)⟩
  | .error _ => none

/-- The status line that bytes start with, once it has come to its end. -/
def read? (bytes : Bytes) : Option StatusLine :=
  let version := bytes.takeWhile (· ≠ 32)
  let rest := (bytes.dropWhile (· ≠ 32)).drop 1
  if version.all (fun b => b ≠ 13 ∧ b ≠ 10) ∧ 10 ∈ rest then ofLine? (rest.takeWhile (· ≠ 10))
  else none

/-- Bytes go up to a stop, or they hold none. -/
theorem until_or (stop : UInt8) (bytes : Bytes) :
    (stop ∉ bytes ∧ bytes.dropWhile (· ≠ stop) = []) ∨
      (stop ∈ bytes ∧ ∃ rest, bytes.dropWhile (· ≠ stop) = stop :: rest) := by
  rcases dropped : bytes.dropWhile (· ≠ stop) with _ | ⟨b, rest⟩
  · refine .inl ⟨fun mem => ?_, rfl⟩
    simpa using List.dropWhile_eq_nil_iff.1 dropped stop mem
  · have first := List.head?_dropWhile_not (fun b : UInt8 => b ≠ stop) bytes
    have mem : b ∈ bytes.dropWhile (· ≠ stop) := by rw [dropped]; exact List.mem_cons_self
    rw [dropped] at first
    obtain rfl : b = stop := by simpa using first
    exact .inr ⟨List.dropWhile_subset _ mem, rest, rfl⟩

/-- The status line that a sink shows. -/
def ofSink (sink : Sink) : StatusLine := ⟨sink.status, sink.description⟩

/-- What a sink shows of a status line: all of it, or no description if none has come. -/
def Shown (sink : Sink) : Option StatusLine → Prop
  | some line => ofSink sink = line
  | none => sink.description = ""

/-- It is part of what a body leaves as it is. -/
theorem line_of_heading {sink sink' : Sink} (same : sink.heading = sink'.heading) :
    ofSink sink = ofSink sink' := by
  have lines := congrArg ofSink same
  exact lines

theorem shown_congr {sink sink' : Sink} (same : ofSink sink = ofSink sink')
    (read : Option StatusLine) : Shown sink read ↔ Shown sink' read := by
  cases read with
  | some line => rw [Shown, Shown, same]
  | none =>
    have described : sink.description = sink'.description := congrArg description same
    rw [Shown, Shown, described]

end StatusLine

namespace Reader

/-! ## Before the status -/

/-- Blanks in front of the status are skipped. -/
theorem after_blanks {r : Reader} (status : r.phase = .status) (empty : r.token = #[])
    {bytes : Bytes} (blank : ∀ b ∈ bytes, StatusLine.isBlank b = true) (rest : Bytes) :
    r.after (bytes ++ rest) = r.after rest := by
  induction bytes with
  | nil => rfl
  | cons b bytes ih =>
    have here := blank b List.mem_cons_self
    have step : r.step b = (.ok false, r) := by
      simp only [StatusLine.isBlank, Bool.or_eq_true, decide_eq_true_eq] at here
      rcases here with rfl | rfl <;> simp [step, status, empty]
    rw [List.cons_append, after_step (by rw [status]; rfl) step,
      ih fun c mem => blank c (List.mem_cons_of_mem _ mem)]

/-! ## After the first line -/

/-- Whether the first line is over. -/
def isPastLine (r : Reader) : Bool :=
  match r.phase with
  | .version | .status | .description => false
  | _ => true

/-- A byte after the first line leaves it as it is. -/
theorem Takes.line {r next : Reader} {b : UInt8} {outcome : Except TransferError Bool}
    (past : r.isPastLine = true) (h : Takes r b outcome next) :
    StatusLine.ofSink next.sink = StatusLine.ofSink r.sink ∧ next.isPastLine = true := by
  cases h with
  | version phase | noVersion phase | status phase | noStatus phase | description phase =>
    simp [isPastLine, phase] at past
  | headEnded =>
    rcases h : r.contentLength with _ | n
    · simp [finishHead, h, isPastLine]
    · simp only [finishHead, h, isPastLine]
      split_ifs <;> exact ⟨rfl, rfl⟩
  | noLength => exact ⟨rfl, past⟩
  | skipped | blank | kept | keptValue => exact ⟨rfl, past⟩
  | colon | nameless | field | length => exact ⟨rfl, rfl⟩

/-- Nothing that comes after the first line changes what it said. -/
theorem line_after {r : Reader} (past : r.isPastLine = true) (bytes : Bytes) :
    StatusLine.ofSink (r.after bytes).sink = StatusLine.ofSink r.sink := by
  induction bytes generalizing r with
  | nil => rfl
  | cons b rest ih =>
    rcases r.phase.isHead_or with head | body | done
    · have takes := takes_step head b
      rcases step : r.step b with ⟨outcome, next⟩
      rw [step] at takes
      obtain ⟨same, past'⟩ := takes.line past
      by_cases goesOn : outcome = .ok false
      · rw [goesOn] at step
        rw [after_step head step, ih past', same]
      · rw [after_stop head step goesOn, same]
    · rw [after, feed, feedFrom_body body]
      rfl
    · rw [after, feed, feedFrom_done done]

/-! ## The first line -/

/-- The description ends with the line. -/
theorem line_after_description {r : Reader} (phase : r.phase = .description)
    (empty : r.token = #[]) (bytes : Bytes) :
    StatusLine.ofSink (r.after bytes).sink = ⟨r.sink.status,
      if 10 ∈ bytes then StatusLine.textOf (bytes.takeWhile (· ≠ 10)) else r.sink.description⟩ := by
  have head : r.phase.isHead = true := by rw [phase]; rfl
  have keeps : ∀ b ∈ bytes.takeWhile (· ≠ 10), Keeps r.phase b := fun b mem => by
    rw [phase]
    exact keeps_description (by simpa using List.mem_takeWhile_imp mem)
  have whole := after_keeps head keeps (bytes.dropWhile (· ≠ 10))
  rw [List.takeWhile_append_dropWhile] at whole
  rw [whole]
  rcases StatusLine.until_or 10 bytes with ⟨open', rest⟩ | ⟨ends, more, rest⟩ <;> rw [rest]
  · rw [if_neg open']
    rfl
  · have step : (r.keepAll (bytes.takeWhile (· ≠ 10))).step 10 =
        (.ok false, (r.keepAll (bytes.takeWhile (· ≠ 10))).finishDescription) := by
      simp [step, keepAll, phase]
    rw [if_pos ends, after_step (r := r.keepAll _) head step, line_after rfl]
    simp [StatusLine.ofSink, finishDescription, keepAll, empty, textOf, StatusLine.textOf]

/-- The status ends with a blank or with the line, and it has to be a number. -/
theorem after_status_end {r : Reader} {b : UInt8} {next : Phase} (phase : r.phase = .status)
    (ends : b = 32 ∧ r.token.isEmpty = false ∧ next = .description ∨ b = 10 ∧ next = .name)
    (rest : Bytes) :
    match Decimal.readNat Decimal.max16 (textOf r.token).toList with
    | .ok n => r.after (b :: rest) = { r with
        phase := next, token := #[], sink := { r.sink with status := n.toUInt16 } }.after rest
    | .error _ => r.after (b :: rest) = { r with token := #[] } := by
  have head : r.phase.isHead = true := by rw [phase]; rfl
  have step : r.step b =
      ((r.finishStatus next).1.map fun _ => false, (r.finishStatus next).2) := by
    rcases ends with ⟨rfl, filled, rfl⟩ | ⟨rfl, rfl⟩
    · simp [Reader.step, phase, filled]
    · simp [Reader.step, phase]
  rcases number : Decimal.readNat Decimal.max16 (textOf r.token).toList with e | n <;>
    simp only [finishStatus, number, Except.map] at step ⊢
  · rw [after_stop head step (by simp)]
  · exact after_step head step rest

/-- The number of a status comes after the blanks in front of it. -/
theorem after_number {r : Reader} (phase : r.phase = .status) (empty : r.token = #[])
    (bytes : Bytes) :
    let rest := (bytes.takeWhile (· ≠ 10)).dropWhile StatusLine.isBlank
    r.after bytes = (r.keepAll (rest.takeWhile (· ≠ 32))).after
      (rest.dropWhile (· ≠ 32) ++ bytes.dropWhile (· ≠ 10)) := by
  intro rest
  have parts : bytes = (bytes.takeWhile (· ≠ 10)).takeWhile StatusLine.isBlank ++
      (rest.takeWhile (· ≠ 32) ++ (rest.dropWhile (· ≠ 32) ++ bytes.dropWhile (· ≠ 10))) := by
    rw [← List.append_assoc (rest.takeWhile _), List.takeWhile_append_dropWhile,
      ← List.append_assoc, List.takeWhile_append_dropWhile, List.takeWhile_append_dropWhile]
  have keeps : ∀ b ∈ rest.takeWhile (· ≠ 32), Keeps r.phase b := fun b mem => by
    have inLine : b ∈ bytes.takeWhile (· ≠ 10) :=
      List.dropWhile_subset _ (List.takeWhile_subset _ mem)
    rw [phase]
    exact keeps_status (by simpa using List.mem_takeWhile_imp mem)
      (by simpa using List.mem_takeWhile_imp inLine)
  conv => lhs; rw [parts]
  rw [after_blanks phase empty fun b mem => List.mem_takeWhile_imp mem,
    after_keeps (by rw [phase]; rfl) keeps]

/-- Without a blank after the number there is no description. -/
theorem line_after_bareNumber {r : Reader} (phase : r.phase = .status)
    (blank : r.sink.description = "") (bytes : Bytes) :
    StatusLine.Shown (r.after (bytes.dropWhile (· ≠ 10))).sink
      (if 10 ∈ bytes then
        match Decimal.readNat Decimal.max16 (textOf r.token).toList with
        | .ok n => some ⟨n.toUInt16, ""⟩
        | .error _ => none
      else none) := by
  rcases StatusLine.until_or 10 bytes with ⟨open', tail⟩ | ⟨ends, later, tail⟩ <;> rw [tail]
  · rw [if_neg open']
    exact blank
  have line := after_status_end phase (.inr ⟨rfl, rfl⟩) later
  rw [if_pos ends]
  rcases number : Decimal.readNat Decimal.max16 (textOf r.token).toList with e | n <;>
    simp only [number] at line ⊢
  · rw [StatusLine.Shown, line]
    exact blank
  · rw [line, StatusLine.shown_congr (line_after rfl later)]
    exact congrArg (StatusLine.mk n.toUInt16) blank

/-- The blank after the number sets the status, and then the description follows. -/
theorem line_after_numberBlank {r : Reader} (phase : r.phase = .status)
    (filled : r.token.isEmpty = false) (blank : r.sink.description = "") {described : Bytes}
    (plain : 10 ∉ described) (bytes : Bytes) :
    StatusLine.Shown (r.after (32 :: (described ++ bytes.dropWhile (· ≠ 10)))).sink
      (if 10 ∈ bytes then
        match Decimal.readNat Decimal.max16 (textOf r.token).toList with
        | .ok n => some ⟨n.toUInt16, StatusLine.textOf described⟩
        | .error _ => none
      else none) := by
  have line := after_status_end phase (.inl ⟨rfl, filled, rfl⟩)
    (described ++ bytes.dropWhile (· ≠ 10))
  rcases number : Decimal.readNat Decimal.max16 (textOf r.token).toList with e | n <;>
    simp only [number] at line ⊢
  · rw [ite_self, StatusLine.Shown, line]
    exact blank
  have description := line_after_description (r := { r with
    phase := .description, token := #[], sink := { r.sink with status := n.toUInt16 } }) rfl rfl
    (described ++ bytes.dropWhile (· ≠ 10))
  rw [line]
  rcases StatusLine.until_or 10 bytes with ⟨open', tail⟩ | ⟨ends, later, tail⟩ <;>
    rw [tail] at description ⊢
  · rw [List.append_nil, if_neg plain] at description
    rw [if_neg open', List.append_nil]
    exact (congrArg StatusLine.description description).trans blank
  · have whole : (described ++ 10 :: later).takeWhile (· ≠ 10) = described := by
      rw [List.takeWhile_append_of_pos fun b mem => by
        simpa using fun same : b = 10 => plain (same ▸ mem)]
      simp
    rw [if_pos (by simp), whole] at description
    rw [if_pos ends]
    exact description

/-- The status and the description, once the version is over. -/
theorem line_after_version {r : Reader} (phase : r.phase = .status) (empty : r.token = #[])
    (blank : r.sink.description = "") (bytes : Bytes) :
    StatusLine.Shown (r.after bytes).sink
      (if 10 ∈ bytes then StatusLine.ofLine? (bytes.takeWhile (· ≠ 10)) else none) := by
  rw [after_number phase empty bytes]
  simp only [StatusLine.ofLine?]
  have unblank := List.head?_dropWhile_not StatusLine.isBlank (bytes.takeWhile (· ≠ 10))
  have inLine : ∀ b ∈ (bytes.takeWhile (· ≠ 10)).dropWhile StatusLine.isBlank, b ≠ 10 :=
    fun b mem => by simpa using List.mem_takeWhile_imp (List.dropWhile_subset _ mem)
  generalize (bytes.takeWhile (· ≠ 10)).dropWhile StatusLine.isBlank = rest at unblank inLine
  have token : textOf (r.keepAll (rest.takeWhile (· ≠ 32))).token =
      StatusLine.textOf (rest.takeWhile (· ≠ 32)) := by
    simp [keepAll, empty, textOf, StatusLine.textOf]
  rw [← token]
  rcases StatusLine.until_or 32 rest with ⟨-, more⟩ | ⟨mem, described, more⟩ <;> rw [more]
  · exact line_after_bareNumber (r := r.keepAll _) phase blank bytes
  · have filled : (r.keepAll (rest.takeWhile (· ≠ 32))).token.isEmpty = false := by
      cases rest with
      | nil => cases mem
      | cons b rest =>
        simp only [List.head?_cons, StatusLine.isBlank, Bool.or_eq_false_iff,
          decide_eq_false_iff_not] at unblank
        simp [keepAll, empty, unblank]
    have plain : 10 ∉ described := fun mem =>
      inLine 10 (List.dropWhile_subset _ (by rw [more]; exact List.mem_cons_of_mem 32 mem)) rfl
    exact line_after_numberBlank (r := r.keepAll _) phase filled blank plain bytes

/-- A version with the end of a line in it is refused. -/
theorem after_noVersion {r : Reader} (phase : r.phase = .version) {version : Bytes}
    (space : ∀ b ∈ version, b ≠ 32) (refused : ¬ version.all (fun b => b ≠ 13 ∧ b ≠ 10) = true)
    (rest : Bytes) : (r.after (version ++ rest)).sink = r.sink := by
  have head : r.phase.isHead = true := by rw [phase]; rfl
  induction version generalizing r with
  | nil => exact absurd List.all_nil refused
  | cons b version ih =>
    have noSpace := space b List.mem_cons_self
    rw [List.cons_append]
    by_cases ends : b = 13 ∨ b = 10
    · have step : r.step b = (.error (.malformedResponse .version), r) := by
        simp [Reader.step, phase, noSpace, ends]
      rw [after_stop head step (by simp)]
    · rw [not_or] at ends
      rw [after_step head (keeps_version noSpace ends.1 ends.2 r phase), if_neg ends.1,
        ih (r := r.keep b) phase (fun c mem => space c (List.mem_cons_of_mem b mem)) _ head]
      · rfl
      · simpa [ends] using refused

/-- **A sink shows the status line of a response** once the line has come to its end. -/
theorem line_after_start (size : Nat) {sink : Sink} (blank : sink.description = "")
    (bytes : Bytes) :
    StatusLine.Shown ((start size sink).after bytes).sink (StatusLine.read? bytes) := by
  have head : (start size sink).phase.isHead = true := rfl
  have parts := List.takeWhile_append_dropWhile (p := fun b : UInt8 => b ≠ 32) (l := bytes)
  have space : ∀ b ∈ bytes.takeWhile (· ≠ 32), b ≠ 32 := fun b mem => by
    simpa using List.mem_takeWhile_imp mem
  simp only [StatusLine.read?]
  by_cases fine : (bytes.takeWhile (· ≠ 32)).all (fun b => b ≠ 13 ∧ b ≠ 10) = true
  · have keeps : ∀ b ∈ bytes.takeWhile (· ≠ 32), Keeps (start size sink).phase b := fun b mem => by
      have others := List.all_eq_true.1 fine b mem
      simp only [decide_eq_true_eq] at others
      exact keeps_version (space b mem) others.1 others.2
    have whole := after_keeps head keeps (bytes.dropWhile (· ≠ 32))
    rw [parts] at whole
    simp only [whole, fine, true_and]
    rcases StatusLine.until_or 32 bytes with ⟨-, rest⟩ | ⟨-, later, rest⟩ <;> rw [rest]
    · exact blank
    · have step : ((start size sink).keepAll (bytes.takeWhile (· ≠ 32))).step 32 =
          (.ok false, ((start size sink).keepAll (bytes.takeWhile (· ≠ 32))).finishVersion) := rfl
      rw [after_step (r := (start size sink).keepAll _) head step]
      exact line_after_version rfl rfl blank later
  · have refused := after_noVersion (r := start size sink) rfl space fine (bytes.dropWhile (· ≠ 32))
    rw [parts] at refused
    rw [if_neg fun both => fine both.1, StatusLine.Shown, refused]
    exact blank

/-- However reading the head ends, the sink shows the status line that has arrived. -/
theorem shown_readHead (size : Nat) {sink : Sink} (blank : sink.description = "") (s : Stream) :
    StatusLine.Shown ((start size sink).readHead s).2.1.sink
      (StatusLine.read? (s.arriving (max size 1))) := by
  have same : ((start size sink).readHead s).2.1.sink =
      ((start size sink).after (s.arriving (max size 1))).sink := by
    have bare := congrArg Reader.sink (readHead_arriving (r := start size sink) rfl s)
    exact bare
  rw [same]
  exact line_after_start size blank _

end Reader

/-! ## The status line of a hop -/

/-- The stream that a response is read from, once the request is sent. -/
def Connection.replies? (connection : Connection) (template : Template) (url : Url)
    (cancelled : Bool) : Option Stream :=
  if cancelled then none
  else
    let written := connection.channel.outlet.write (template.request url connection.via)
    match written.outcome with
    | .error _ => none
    | .ok () => some ⟨connection.channel.inbound, written.cancels⟩

/-- The bytes of a response that arrive over a connection. -/
def Connection.arrives (connection : Connection) (settings : Settings) (template : Template)
    (url : Url) (cancelled : Bool) : Bytes :=
  ((connection.replies? template url cancelled).map
    (·.arriving (max settings.readBufferSize 1))).getD []

/-- The sink of a response that is settled shows the status line of its head. -/
theorem Transfer.line_settle (t : Transfer) (url : Url) (reader : Reader) (stream : Stream)
    (sink : t.sink = reader.sink) :
    StatusLine.ofSink (t.settle url reader stream).2.sink = StatusLine.ofSink reader.sink := by
  rw [settle]
  rcases t.redirects.judge t.sink url with ⟨_ | _ | _, _⟩
  · exact StatusLine.line_of_heading (reader.heading_readBody stream t.disk)
  · rw [← sink]
  · rw [← sink]

theorem Connection.isConnected_listen (connection : Connection) (settings : Settings)
    (template : Template) (url : Url) (sink : Sink) (cancelled : Bool) (trace : Trace) :
    (connection.listen settings template url sink cancelled trace).isConnected = true := by
  have listens := connection.listens_listen settings template url sink cancelled trace
  generalize connection.listen settings template url sink cancelled trace = heard at listens
  cases listens <;> rfl

/-- A hop shows the status line that arrives over its connection. -/
theorem Connection.shown_listen (connection : Connection) (settings : Settings)
    (template : Template) (url : Url) {sink : Sink} (blank : sink.description = "")
    (cancelled : Bool) (trace : Trace) (t : Transfer) :
    StatusLine.Shown
      (t.conclude (connection.listen settings template url sink cancelled trace)).2.sink
      (StatusLine.read? (connection.arrives settings template url cancelled)) := by
  rw [arrives, replies?, listen]
  by_cases gone : cancelled = true
  · rw [if_pos gone, if_pos gone]
    exact blank
  rw [if_neg gone, if_neg gone]
  simp only
  rcases (connection.channel.outlet.write (template.request url connection.via)).outcome with
    fault | _
  · exact blank
  simp only [Option.map_some, Option.getD_some]
  generalize (connection.channel.outlet.write (template.request url connection.via)).cancels =
    cancels
  have shown := Reader.shown_readHead settings.readBufferSize blank
    ⟨connection.channel.inbound, cancels⟩
  rcases read : (Reader.start settings.readBufferSize sink).readHead
    ⟨connection.channel.inbound, cancels⟩ with ⟨e | _, reader, stream⟩ <;> rw [read] at shown
  · exact shown
  · exact (StatusLine.shown_congr (Transfer.line_settle _ url reader stream rfl) _).2 shown

namespace Transfer

section Run

variable {settings : Settings} {template : Template} {network : Network}

/-- The bytes of a response that arrive on a hop. -/
def arrives (t : Transfer) (settings : Settings) (template : Template) (network : Network) :
    Bytes :=
  if t.cancelled then []
  else match Url.read t.sink.url with
    | .error _ => []
    | .ok url =>
      let opened := opening settings template (network t.redirects.followed) url
      match opened.outcome with
      | .error _ => []
      | .ok connection =>
        connection.arrives settings (templateFor settings template url) url opened.cancelled

/-- The status line that a hop receives, if it comes to its end. -/
def statusLine? (t : Transfer) (settings : Settings) (template : Template) (network : Network) :
    Option StatusLine := StatusLine.read? (t.arrives settings template network)

/-- A hop with a connection shows the status line that it receives, or no description; one without
shows what was there before. -/
theorem line_hop (settings : Settings) (template : Template) (network : Network) (t : Transfer) :
    if (t.heard settings template network).isConnected then
      StatusLine.Shown (t.hop settings template network).2.sink
        (t.statusLine? settings template network)
    else (t.hop settings template network).2.sink = t.sink ∧
      t.statusLine? settings template network = none := by
  rw [hop_eq, statusLine?, arrives]
  have hears := hears_hear settings template (network t.redirects.followed) t.sink t.cancelled
  rw [← heard] at hears
  generalize t.heard settings template network = heard at hears
  cases hears with
  | cancelled gone =>
    rw [if_pos gone]
    exact ⟨rfl, rfl⟩
  | malformed going read =>
    simp only [going, read]
    exact ⟨rfl, rfl⟩
  | unopened going read outcome =>
    simp only [going, read, outcome]
    exact ⟨rfl, rfl⟩
  | @opened url connection _ going read outcome same =>
    have connected : heard.isConnected = true := by
      rw [same]
      exact connection.isConnected_listen ..
    simp only [going, read, outcome, connected, if_true, Bool.false_eq_true, if_false]
    rw [same]
    exact connection.shown_listen settings _ url rfl _ _ t

/-- The hops of a transfer that have a connection, in their order. -/
def connectedHops (t : Transfer) (settings : Settings) (template : Template) (network : Network) :
    List Transfer :=
  (t.hops settings template network).filter fun s =>
    (s.heard settings template network).isConnected

theorem connectedHops_last {t : Transfer} (last : t.IsLast settings template network) :
    t.connectedHops settings template network =
      if (t.heard settings template network).isConnected then [t] else [] := by
  rw [connectedHops, hops_last last, List.filter_cons, List.filter_nil]

/-- A hop that leads on has a connection. -/
theorem connectedHops_redirect {t after : Transfer} {next : Url}
    (hop : t.hop settings template network = (.ok (some next), after)) :
    (t.heard settings template network).isConnected = true ∧
      t.connectedHops settings template network =
        t :: (after.goOn next).connectedHops settings template network := by
  obtain ⟨url, reader, stream, trace, heard, -, -⟩ := heard_of_redirect hop
  have connected : (t.heard settings template network).isConnected = true := by rw [heard]; rfl
  refine ⟨connected, ?_⟩
  rw [connectedHops, hops_redirect hop, List.filter_cons, if_pos connected]
  rfl

/-- The status lines that a transfer receives, in their order. -/
def statusLines (t : Transfer) (settings : Settings) (template : Template) (network : Network) :
    List StatusLine :=
  (t.hops settings template network).filterMap (·.statusLine? settings template network)

/-- Status lines come only over connections. -/
theorem statusLines_eq (settings : Settings) (template : Template) (network : Network)
    (t : Transfer) :
    t.statusLines settings template network = (t.connectedHops settings template network).filterMap
      (·.statusLine? settings template network) := by
  rw [statusLines, connectedHops, List.filterMap_filter]
  congr 1
  funext s
  have line := s.line_hop settings template network
  split_ifs at line ⊢
  · rfl
  · exact line.2

/-- After a transfer the sink shows the status line of the last hop with a connection. -/
theorem line_run (settings : Settings) (template : Template) (network : Network)
    (t : Transfer) :
    match (t.connectedHops settings template network).getLast? with
    | none => StatusLine.ofSink (t.run settings template network).2.sink =
        StatusLine.ofSink t.sink
    | some s => StatusLine.Shown (t.run settings template network).2.sink
        (s.statusLine? settings template network) := by
  induction t using hop_induction settings template network with
  | last t last =>
    have line := t.line_hop settings template network
    rw [connectedHops_last last, run_last last]
    split_ifs at line ⊢
    · exact line
    · exact congrArg StatusLine.ofSink line.1
  | redirect t after next hop ih =>
    have line := t.line_hop settings template network
    obtain ⟨connected, hops⟩ := connectedHops_redirect hop
    rw [if_pos connected, hop] at line
    rw [hops, run_redirect hop, List.getLast?_cons]
    rcases later : ((after.goOn next).connectedHops settings template network).getLast? with
      _ | s <;> rw [later] at ih
    · exact (StatusLine.shown_congr ih _).2 line
    · exact ih

end Run

end Transfer

/-- **The status line that is shown in the end** is that of the last hop whose connection opens,
however the transfer ends. If that hop receives one, it is the last one received. If it receives
none, there is no description, although an earlier hop may have received one. Before a connection
opens, the sink shows what it showed at the start. -/
theorem fetch_statusLine (settings : Settings) (template : Template) (network : Network)
    (sink : Sink) (disk : Disk) (cancelled : Bool) :
    let start := Transfer.start settings sink disk cancelled
    let shown := (fetch settings template network sink disk cancelled).completion.sink
    (start.connectedHops settings template network = [] →
      StatusLine.ofSink shown = StatusLine.ofSink sink ∧
        start.statusLines settings template network = []) ∧
    ∀ t, (start.connectedHops settings template network).getLast? = some t →
      (∀ line, t.statusLine? settings template network = some line →
        StatusLine.ofSink shown = line ∧
          (start.statusLines settings template network).getLast? = some line) ∧
      (t.statusLine? settings template network = none → shown.description = "") := by
  intro start shown
  have lines := start.statusLines_eq settings template network
  have line := start.line_run settings template network
  have closed : StatusLine.ofSink shown =
      StatusLine.ofSink (start.run settings template network).2.sink :=
    StatusLine.line_of_heading (Sink.heading_complete ..)
  refine ⟨fun unconnected => ?_, fun t last => ⟨fun received status => ?_, fun status => ?_⟩⟩
  · rw [unconnected] at line lines
    exact ⟨closed.trans line, lines⟩
  · rw [last] at line
    simp only [status] at line
    obtain ⟨before, hops⟩ := List.getLast?_eq_some_iff.1 last
    refine ⟨closed.trans line, ?_⟩
    rw [lines, hops, List.filterMap_append]
    simp [status]
  · rw [last] at line
    simp only [status] at line
    exact (congrArg StatusLine.description closed).trans line

/-- A redirect to a server that closes the connection without an answer. -/
def unanswered : Network := fun hop =>
  if hop = 0 then answering "V 301 M\nLocation: /b\n\n" else answering ""

theorem hops_unanswered :
    let start := Transfer.start {} (.inMemory "http://[::1]/a") {} false
    ∃ t, start.hops {} {} unanswered = [start, t] ∧
      start.connectedHops {} {} unanswered = [start, t] ∧
      start.statusLine? {} {} unanswered = some ⟨301, "M"⟩ ∧
      t.statusLine? {} {} unanswered = none := by
  intro start
  have first : start.statusLine? {} {} unanswered = some ⟨301, "M"⟩ := by decide +kernel
  have check : (start.next? {} {} unanswered).any (fun t =>
      (t.next? {} {} unanswered).isNone && (t.heard {} {} unanswered).isConnected &&
        decide (t.statusLine? {} {} unanswered = none)) = true := by
    decide +kernel
  obtain ⟨t, next, check⟩ := (Option.any_eq_true _ _).1 check
  rw [Bool.and_eq_true, Bool.and_eq_true, Option.isNone_iff_eq_none, decide_eq_true_eq] at check
  obtain ⟨⟨ends, connected⟩, second⟩ := check
  refine ⟨t, Transfer.hops_next? next ends, ?_, first, second⟩
  obtain ⟨_, _, redirect, rfl⟩ := Transfer.exists_hop_of_next? next
  rw [(Transfer.connectedHops_redirect redirect).2,
    Transfer.connectedHops_last (Transfer.isLast_of_next? ends), if_pos connected]

/-- The description of the redirect is gone when the server that it leads to does not answer. -/
theorem fetch_statusLine_unanswered :
    (Transfer.start {} (.inMemory "http://[::1]/a") {} false).statusLine? {} {} unanswered =
      some ⟨301, "M"⟩ ∧
    (fetch {} {} unanswered (.inMemory "http://[::1]/a") {} false).completion.sink.description =
      "" := by
  obtain ⟨t, -, connected, first, second⟩ := hops_unanswered
  refine ⟨first, ?_⟩
  have last : ((Transfer.start {} (.inMemory "http://[::1]/a") {} false).connectedHops {} {}
      unanswered).getLast? = some t := by
    rw [connected]
    rfl
  exact ((fetch_statusLine {} {} unanswered (.inMemory "http://[::1]/a") {} false).2 t last).2
    second

/-- So the last status line received is not always the one that is shown. -/
theorem not_lastStatusLine_shown :
    ¬ ∀ (settings : Settings) (template : Template) (network : Network) (sink : Sink) (disk : Disk)
      (cancelled : Bool) (line : StatusLine),
      ((Transfer.start settings sink disk cancelled).statusLines settings template
        network).getLast? = some line →
      StatusLine.ofSink (fetch settings template network sink disk cancelled).completion.sink =
        line := by
  intro claim
  obtain ⟨t, hops, connected, first, second⟩ := hops_unanswered
  have received : ((Transfer.start {} (.inMemory "http://[::1]/a") {} false).statusLines {} {}
      unanswered).getLast? = some ⟨301, "M"⟩ := by
    rw [Transfer.statusLines, hops]
    simp [first, second]
  have shown := Transfer.line_run {} {} unanswered
    (Transfer.start {} (.inMemory "http://[::1]/a") {} false)
  rw [connected] at shown
  simp only [List.getLast?_cons_cons, List.getLast?_singleton, second] at shown
  have claimed := claim {} {} unanswered (.inMemory "http://[::1]/a") {} false _ received
  have kept : StatusLine.ofSink
      (fetch {} {} unanswered (.inMemory "http://[::1]/a") {} false).completion.sink = _ :=
    StatusLine.line_of_heading (Sink.heading_complete ..)
  rw [kept] at claimed
  exact absurd ((congrArg StatusLine.description claimed).symm.trans shown) (by decide)

end HttpFetch
