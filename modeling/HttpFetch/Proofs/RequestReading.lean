import HttpFetch.Proofs.RequestLines
/-!
# A request as its receiver reads it

`ReceivedRequest.read?` takes a request apart by its grammar alone: the head ends at the first empty
line, lines end where they end, a field's name goes up to its first colon, a target's query starts
after its first question mark. What it finds in the request of a template is the template
(`Template.read?_request`), if no text in it has a character that means something else where it is
written (`Template.Plain`).

The way back goes part by part: the lines of a message (`ReceivedRequest.read?_wireMessage`), then a
field (`readField?_fieldLine`), the request line (`readRequestLine?_append`), and the target with the
two sources of its query (`Template.Plain.readTarget_target`). That the names of the two fields that
come first stand there once each follows from what is left out of the others
(`Template.sameName_of_mem`).
-/

namespace HttpFetch

/-! ## Reading -/

/-- What a receiver makes of a request. -/
structure ReceivedRequest where
  method : String
  /-- the target up to its first question mark -/
  place : String
  /-- what follows the question mark, in pieces -/
  query : Option (List String)
  version : String
  fields : List (String × String)
  body : Bytes
  deriving DecidableEq

namespace ReceivedRequest

/-- The bytes in front of the first empty line, and those after it. -/
def cutAtBlank? : Bytes → Option (Bytes × Bytes)
  | [] => none
  | b :: rest =>
    if [13, 10, 13, 10] <+: b :: rest then some ([], rest.drop 3)
    else (cutAtBlank? rest).map fun (head, body) => (b :: head, body)

/-- Bytes cut at the ends of lines. -/
def linesOf : Bytes → List Bytes
  | 13 :: 10 :: rest => [] :: linesOf rest
  | [] => [[]]
  | b :: rest =>
    match linesOf rest with
    | [] => [[b]]
    | line :: lines => (b :: line) :: lines

/-- The method in front of the first space, the version after the last one, and the target between
the two. -/
def readRequestLine? (line : List Char) : Option (String × List Char × String) := do
  let (method, rest) ← Text.cutAt? ' ' line
  let (version, target) ← Text.cutAt? ' ' rest.reverse
  some (String.ofList method, target.reverse, String.ofList version.reverse)

/-- A target up to its first question mark, and the pieces of what follows it. -/
def readTarget (target : List Char) : String × Option (List String) :=
  match Text.cutAt? '?' target with
  | none => (String.ofList target, none)
  | some (place, query) => (String.ofList place, some ((query.splitOn '&').map String.ofList))

/-- The name in front of the first colon, and the value after the colon and a space. -/
def readField? (line : List Char) : Option (String × String) :=
  match Text.cutAt? ':' line with
  | some (name, ' ' :: value) => some (String.ofList name, String.ofList value)
  | _ => none

/-- Reads the lines of a head. -/
def readHead? : List String → Bytes → Option ReceivedRequest
  | [], _ => none
  | first :: others, body => do
    let (method, target, version) ← readRequestLine? first.toList
    let fields ← others.mapM fun line => readField? line.toList
    some ⟨method, (readTarget target).1, (readTarget target).2, version, fields, body⟩

/-- Reads a request. -/
def read? (bytes : Bytes) : Option ReceivedRequest := do
  let (head, body) ← cutAtBlank? bytes
  let lines ← (linesOf head).mapM Utf8.decode?
  readHead? lines body

/-- The values of the fields with a name, in whatever case it is written. -/
def valuesOf (fields : List (String × String)) (name : String) : List String :=
  (fields.filter (Ascii.sameName ·.1 name)).map (·.2)

/-- The fields that tell neither the host nor the length. -/
def othersOf (fields : List (String × String)) : List (String × String) :=
  fields.filter fun field =>
    !Ascii.sameName field.1 "host" && !Ascii.sameName field.1 "content-length"

end ReceivedRequest

/-! ## What is to be read -/

/-- Whether names are in the order of their bytes. -/
def Fields.InByteOrder (fields : Fields) : Prop :=
  fields.entries.Pairwise fun one other => Utf8.encode one.1 < Utf8.encode other.1

theorem Fields.inByteOrder (fields : Fields) : fields.InByteOrder :=
  fields.ascending.imp Utf8.encode_lt

/-- The pieces of the query of an address. -/
def Url.queryPieces (url : Url) : List String :=
  match url.query with
  | none => []
  | some query => (query.toList.splitOn '&').map String.ofList

namespace Template

/-- The pieces of the arguments: for each argument one for every word of its value, where commas and
spaces are what is between words. -/
def argumentPieces (template : Template) : List String :=
  template.arguments.entries.flatMap fun (name, value) =>
    ((value.toList.splitOnP fun c => c = ',' ∨ c = ' ').filter (· ≠ [])).map fun word =>
      name ++ "=" ++ String.ofList word

/-- The fields of credentials. -/
def credentialFields (template : Template) (via : Via) : List (String × String) :=
  (active template.httpAuth).toList.map (fun auth => ("Authorization", auth.basic)) ++
    if via = .forward
    then (active template.proxyAuth).toList.map fun auth => ("Proxy-Authorization", auth.basic)
    else []

/-- Texts in which no character stands that means something else where they are written: none breaks
a line, the method has no space, the names of fields have no colon, and arguments have no `&`. -/
structure Plain (template : Template) : Prop where
  method : ∀ c ∈ template.method.toList, c ≠ ' ' ∧ c ≠ '\r' ∧ c ≠ '\n'
  arguments : ∀ argument ∈ template.arguments.entries,
    ∀ c ∈ argument.1.toList ++ argument.2.toList, c ≠ '&' ∧ c ≠ '\r' ∧ c ≠ '\n'
  names : ∀ field ∈ template.headers.entries, ∀ c ∈ field.1.toList, c ≠ ':' ∧ c ≠ '\r' ∧ c ≠ '\n'
  values : ∀ field ∈ template.headers.entries, ∀ c ∈ field.2.toList, c ≠ '\r' ∧ c ≠ '\n'

end Template

namespace ReceivedRequest

/-- Whether a request that has been read is the one that a template makes for an address on a way. -/
structure Recovers (request : ReceivedRequest) (template : Template) (url : Url) (via : Via) :
    Prop where
  method : request.method = template.method
  version : request.version = "HTTP/1.0"
  place : request.place =
    (if via = .forward
      then url.scheme.name ++ "://" ++ url.host.bracketed ++ ":" ++ toString url.port.toNat
      else "") ++ url.path
  query : request.query =
    if url.queryPieces ++ template.argumentPieces = [] then none
    else some (url.queryPieces ++ template.argumentPieces)
  /-- there is one such field, with the first value that the caller has for it -/
  host : valuesOf request.fields "host" =
    [(valuesOf template.headers.entries "host").headD
      (if via = .forward then url.host.bracketed ++ ":" ++ toString url.port.toNat
        else url.host.bracketed)]
  /-- and one such field -/
  length : valuesOf request.fields "content-length" = [toString request.body.length]
  body : request.body = template.body
  /-- the other fields are those of the caller's own, in their order, and those of credentials -/
  others : othersOf request.fields =
    othersOf template.headers.entries ++ template.credentialFields via

end ReceivedRequest

/-! ## Lines that are read -/

namespace ReceivedRequest

/-- A byte that begins no end of a head is part of it. -/
theorem cutAtBlank?_cons {b : UInt8} {rest : Bytes} (goesOn : ¬[13, 10, 13, 10] <+: b :: rest) :
    cutAtBlank? (b :: rest) = (cutAtBlank? rest).map fun (head, body) => (b :: head, body) := by
  rw [cutAtBlank?, if_neg goesOn]

/-- The text of a line is passed over. -/
theorem cutAtBlank?_text {line : Bytes} (noReturn : 13 ∉ line) (rest : Bytes) :
    cutAtBlank? (line ++ rest) =
      (cutAtBlank? rest).map fun (head, body) => (line ++ head, body) := by
  induction line with
  | nil => simp
  | cons b line ih =>
    have other : 13 ≠ b := fun same => noReturn (same ▸ List.mem_cons_self)
    rw [List.cons_append, cutAtBlank?_cons (by simp [other]),
      ih fun mem => noReturn (List.mem_cons_of_mem b mem), Option.map_map]
    rfl

/-- So is its end, where another line follows. -/
theorem cutAtBlank?_end {b : UInt8} (other : b ≠ 13) (rest : Bytes) :
    cutAtBlank? (13 :: 10 :: b :: rest) =
      (cutAtBlank? (b :: rest)).map fun (head, body) => (13 :: 10 :: head, body) := by
  rw [cutAtBlank?_cons (by simp [other.symm]), cutAtBlank?_cons (by simp), Option.map_map]
  rfl

/-- **A message is cut after its last line**: there the empty one stops the search, and any other
line begins with a byte that lets it go on. -/
theorem cutAtBlank?_wireMessage {lines : List String} (someThere : lines ≠ [])
    (plain : ∀ line ∈ lines, IsLine line) (body : Bytes) :
    cutAtBlank? (wireMessage lines body) =
      some ([13, 10].intercalate (lines.map Utf8.encode), body) := by
  induction lines with
  | nil => exact absurd rfl someThere
  | cons line lines ih =>
    have noReturn := (plain line List.mem_cons_self).bytes.2.2
    have parts : wireMessage (line :: lines) body =
        Utf8.encode line ++ 13 :: 10 :: wireMessage lines body := by
      simp [wireMessage, wireLines]
    rw [parts, cutAtBlank?_text noReturn]
    rcases lines with _ | ⟨next, lines⟩
    · have empty : wireMessage [] body = 13 :: 10 :: body := rfl
      rw [empty, cutAtBlank?, if_pos (by simp)]
      simp
    · have later := fun line mem => plain line (List.mem_cons_of_mem _ mem)
      obtain ⟨filled, -, noReturn'⟩ := (later next List.mem_cons_self).bytes
      obtain ⟨b, others, starts⟩ := List.exists_cons_of_ne_nil filled
      obtain ⟨rest, same⟩ : ∃ rest, wireMessage (next :: lines) body = b :: rest := by
        simp [wireMessage, wireLines, starts]
      have other : b ≠ 13 := by
        rintro rfl
        exact noReturn' (starts ▸ List.mem_cons_self)
      have read := ih (List.cons_ne_nil _ _) later
      rw [same] at read ⊢
      rw [cutAtBlank?_end other, read]
      simp [List.intercalate_cons_cons]

theorem linesOf_of_absent {line : Bytes} (noReturn : 13 ∉ line) : linesOf line = [line] := by
  induction line with
  | nil => rfl
  | cons b line ih =>
    have other : b ≠ 13 := fun same => noReturn (same ▸ List.mem_cons_self)
    rw [linesOf, ih fun mem => noReturn (List.mem_cons_of_mem b mem)]
    exact fun _ same => absurd same other

theorem linesOf_append {line : Bytes} (noReturn : 13 ∉ line) (rest : Bytes) :
    linesOf (line ++ 13 :: 10 :: rest) = line :: linesOf rest := by
  induction line with
  | nil => rw [List.nil_append, linesOf]
  | cons b line ih =>
    have other : b ≠ 13 := fun same => noReturn (same ▸ List.mem_cons_self)
    rw [List.cons_append, linesOf, ih fun mem => noReturn (List.mem_cons_of_mem b mem)]
    exact fun _ same => absurd same other

/-- Lines that are apart by their ends come apart there. -/
theorem linesOf_intercalate {lines : List Bytes} (someThere : lines ≠ [])
    (noReturn : ∀ line ∈ lines, 13 ∉ line) : linesOf ([13, 10].intercalate lines) = lines := by
  induction lines with
  | nil => exact absurd rfl someThere
  | cons line lines ih =>
    have here := noReturn line List.mem_cons_self
    rcases lines with _ | ⟨next, lines⟩
    · rw [List.intercalate_singleton, linesOf_of_absent here]
    · have read := ih (List.cons_ne_nil _ _) fun line mem =>
        noReturn line (List.mem_cons_of_mem _ mem)
      rw [List.intercalate_cons_cons, List.append_assoc, List.cons_append, List.singleton_append,
        linesOf_append here, read]

/-- **Of a message the lines and the body are read.** -/
theorem read?_wireMessage {lines : List String} (someThere : lines ≠ [])
    (plain : ∀ line ∈ lines, IsLine line) (body : Bytes) :
    read? (wireMessage lines body) = readHead? lines body := by
  have texts : (lines.map Utf8.encode).mapM Utf8.decode? = some lines := by
    rw [List.mapM_map, mapM_eq_map (g := id), List.map_id]
    intro line _
    refine (Utf8.decode?_encodeChars line.toList).trans ?_
    rw [String.ofList_toList]
    rfl
  have noReturn : ∀ line ∈ lines.map Utf8.encode, 13 ∉ line := by
    intro line mem
    obtain ⟨text, there, rfl⟩ := List.mem_map.1 mem
    exact (plain text there).bytes.2.2
  rw [read?, cutAtBlank?_wireMessage someThere plain]
  simp only [Option.bind_eq_bind, Option.bind_some,
    linesOf_intercalate (by simpa using someThere) noReturn, texts]

/-- The line of a field is read as the field. -/
theorem readField?_fieldLine {name : String} (noColon : ∀ c ∈ name.toList, c ≠ ':')
    (value : String) : readField? (fieldLine name value).toList = some (name, value) := by
  have parts : (fieldLine name value).toList = name.toList ++ ':' :: ' ' :: value.toList := by
    simp [fieldLine]
  simp only [readField?, parts, Text.cutAt?_append noColon, String.ofList_toList]

/-- Method and version are read at the two ends of their line. -/
theorem readRequestLine?_append {method version : String} (one : ∀ c ∈ method.toList, c ≠ ' ')
    (other : ∀ c ∈ version.toList, c ≠ ' ') (target : List Char) :
    readRequestLine? (method.toList ++ ' ' :: (target ++ ' ' :: version.toList)) =
      some (method, target, version) := by
  have backwards : (target ++ ' ' :: version.toList).reverse =
      version.toList.reverse ++ ' ' :: target.reverse := by simp
  have last : ∀ c ∈ version.toList.reverse, c ≠ ' ' := fun c mem => other c (List.mem_reverse.1 mem)
  simp only [readRequestLine?, Text.cutAt?_append one, backwards, Text.cutAt?_append last,
    Option.bind_eq_bind, Option.bind_some, List.reverse_reverse, String.ofList_toList]

theorem readTarget_of_absent {place : String} (noMark : ∀ c ∈ place.toList, c ≠ '?') :
    readTarget place.toList = (place, none) := by
  simp only [readTarget, Text.cutAt?_of_absent noMark, String.ofList_toList]

theorem readTarget_append {place : String} (noMark : ∀ c ∈ place.toList, c ≠ '?')
    (query : List Char) : readTarget (place.toList ++ '?' :: query) =
      (place, some ((query.splitOn '&').map String.ofList)) := by
  simp only [readTarget, Text.cutAt?_append noMark, String.ofList_toList]

end ReceivedRequest

/-! ## What is written of a template -/

namespace Url

variable {url : Url}

/-- A path has no question mark. -/
theorem noMark_path (proper : url.Proper) : ∀ c ∈ url.path.toList, c ≠ '?' := by
  rintro c mem rfl
  rw [toList_path proper.filled] at mem
  rcases List.mem_cons.1 mem with same | mem
  · exact absurd same (by decide)
  · exact absurd (inPath_of_mem_path proper mem) (by decide)

/-- Nor has what stands in front of it. -/
theorem noMark_origin (proper : url.Proper) : ∀ c ∈ url.origin.toList, c ≠ '?' := by
  rintro c mem rfl
  simp only [origin, authority, hostHeader, String.toList_append, List.mem_append] at mem
  rcases mem with (name | slashes) | (host | colon) | port
  · revert name
    cases url.scheme <;> decide
  · exact absurd slashes (by decide)
  · exact absurd (Host.inHost_of_mem_bracketed proper.host host) (by decide)
  · exact absurd colon (by decide)
  · exact absurd (Decimal.isDigit_of_mem_toString port) (by decide)

end Url

namespace Template

variable {template : Template} {url : Url} {via : Via}

/-- The words of an argument are what is left of it between commas and spaces. -/
theorem queryPairs_eq (template : Template) : template.queryPairs = template.argumentPieces := by
  have separates : separatesValues = fun c => decide (c = ',' ∨ c = ' ') := by
    funext c
    simp [separatesValues, Bool.beq_eq_decide_eq]
  have filled : (fun word : List Char => !word.isEmpty) = fun word => decide (word ≠ []) := by
    funext word
    cases word <;> rfl
  simp only [queryPairs, argumentPieces, argumentValues, Text.tokens, Text.splitOn_eq_splitOnP,
    separates, filled, List.map_map]
  rfl

/-- The fields of a request as they are sent. -/
def sentFields (template : Template) (url : Url) (via : Via) : List (String × String) :=
  ("Host", template.hostValue url via) :: ("Content-Length", toString template.body.length) ::
    (template.ownFields ++ template.credentialFields via)

/-- What is read of a request that is made from a template. -/
def received (template : Template) (url : Url) (via : Via) : ReceivedRequest where
  method := template.method
  place := (if via = .forward then url.origin else "") ++ url.path
  query :=
    if url.queryPieces ++ template.queryPairs = [] then none
    else some (url.queryPieces ++ template.queryPairs)
  version := protocolVersion
  fields := template.sentFields url via
  body := template.body

theorem authLine_eq (name : String) (auth : Option Credentials) :
    authLine name auth = ((active auth).toList.map fun auth => (name, auth.basic)).map
      fun field => fieldLine field.1 field.2 := by
  rw [authLine]
  cases active auth <;> rfl

/-- The lines of a head are the one of the request and those of its fields. -/
theorem head_eq_fields (template : Template) (url : Url) (via : Via) :
    template.head url via = template.requestLine url via ::
      (template.sentFields url via).map fun field => fieldLine field.1 field.2 := by
  simp only [head, sentFields, credentialFields, authLine_eq, List.map_cons, List.map_append,
    List.cons_append, List.nil_append, List.append_assoc]
  split_ifs <;> rfl

theorem name_of_mem_credentialFields {field : String × String}
    (mem : field ∈ template.credentialFields via) :
    field.1 = "Authorization" ∨ field.1 = "Proxy-Authorization" := by
  rw [credentialFields, List.mem_append] at mem
  rcases mem with mem | mem
  · obtain ⟨auth, -, rfl⟩ := List.mem_map.1 mem
    exact .inl rfl
  · split_ifs at mem
    · obtain ⟨auth, -, rfl⟩ := List.mem_map.1 mem
      exact .inr rfl
    · cases mem

/-- A field of the caller's own or of credentials is none of the two that come first. -/
theorem sameName_of_mem {field : String × String}
    (mem : field ∈ template.ownFields ++ template.credentialFields via) :
    Ascii.sameName field.1 "host" = false ∧ Ascii.sameName field.1 "content-length" = false := by
  rcases List.mem_append.1 mem with own | credentials
  · have other := (List.mem_filter.1 own).2
    simpa [isReserved] using other
  · rcases name_of_mem_credentialFields credentials with name | name <;> rw [name] <;> decide

namespace Plain

variable (plain : template.Plain)
include plain

/-- What is sent of an argument has characters of the argument. -/
theorem of_mem_argumentValues {argument : String × String}
    (there : argument ∈ template.arguments.entries) {word : String}
    (mem : word ∈ argumentValues argument.2) :
    ∀ c ∈ word.toList, c ≠ '&' ∧ c ≠ '\r' ∧ c ≠ '\n' := by
  intro c inWord
  obtain ⟨chars, token, rfl⟩ := List.mem_map.1 mem
  rw [String.toList_ofList] at inWord
  exact plain.arguments argument there c (List.mem_append_right _
    (Text.mem_of_mem_splitOn (List.mem_filter.1 token).1 inWord).1)

/-- Nothing that is sent of a plain template breaks a line. -/
theorem unbroken : ∀ text ∈ template.sentTexts, Unbroken text := by
  intro text mem
  simp only [sentTexts, List.mem_append, List.mem_cons, List.mem_flatMap, List.not_mem_nil,
    or_false, Option.mem_toList] at mem
  rcases mem with ((rfl | ⟨argument, there, word, mem, rfl | rfl⟩) | host) |
    ⟨field, own, rfl | rfl⟩
  · exact fun c mem => (plain.method c mem).2
  · exact fun c mem => (plain.arguments argument there c (List.mem_append_left _ mem)).2
  · exact fun c inWord => (plain.of_mem_argumentValues there mem c inWord).2
  · obtain ⟨field, found, rfl⟩ := Option.map_eq_some_iff.1 host
    exact plain.values field (List.mem_of_find?_eq_some found)
  · exact fun c mem => (plain.names field (List.mem_of_mem_filter own) c mem).2
  · exact plain.values field (List.mem_of_mem_filter own)

/-- The pairs of a plain template have no separator but those between them. -/
theorem separator_not_mem : ∀ pair ∈ template.queryPairs, '&' ∉ pair.toList := by
  intro pair mem inPair
  obtain ⟨argument, there, mem⟩ := List.mem_flatMap.1 mem
  obtain ⟨word, sent, rfl⟩ := List.mem_map.1 mem
  simp only [String.toList_append, List.mem_append] at inPair
  rcases inPair with (name | equals) | inWord
  · exact (plain.arguments argument there '&' (List.mem_append_left _ name)).1 rfl
  · exact absurd equals (by decide)
  · exact (plain.of_mem_argumentValues there sent '&' inWord).1 rfl

/-- Its pairs come apart again. -/
theorem splitOn_queryPairs (someThere : template.queryPairs ≠ []) :
    ("&".intercalate template.queryPairs).toList.splitOn '&' =
      template.queryPairs.map String.toList := by
  rw [String.toList_intercalate]
  refine List.splitOn_intercalate '&' (fun pair mem => ?_) (by simpa using someThere)
  obtain ⟨text, there, rfl⟩ := List.mem_map.1 mem
  exact plain.separator_not_mem text there

/-- No field of a plain template has a colon in its name. -/
theorem noColon {field : String × String} (mem : field ∈ template.sentFields url via) :
    ∀ c ∈ field.1.toList, c ≠ ':' := by
  simp only [sentFields, List.mem_cons, List.mem_append] at mem
  rcases mem with rfl | rfl | own | credentials
  · exact forall_mem_of_all (l := "Host".toList) (by decide)
  · exact forall_mem_of_all (l := "Content-Length".toList) (by decide)
  · exact fun c mem => (plain.names field (List.mem_of_mem_filter own) c mem).1
  · rcases name_of_mem_credentialFields credentials with name | name <;> rw [name] <;>
      exact forall_mem_of_all (by decide)

/-- **The target is read in its parts.** -/
theorem readTarget_target {server : String} (noMark : ∀ c ∈ (server ++ url.path).toList, c ≠ '?') :
    ReceivedRequest.readTarget (server ++ template.target url).toList =
      (server ++ url.path, if url.queryPieces ++ template.queryPairs = [] then none
        else some (url.queryPieces ++ template.queryPairs)) := by
  have pieces (texts : List String) : (texts.map String.toList).map String.ofList = texts := by
    simp [Function.comp_def]
  rw [target, queryString, Url.queryPieces]
  cases url.query with
  | none =>
    by_cases empty : template.queryPairs = []
    · have chars : (server ++ (url.path ++ Url.queryText none)).toList =
          (server ++ url.path).toList := by simp [Url.queryText]
      simp only [empty, List.isEmpty_nil, if_true, chars,
        ReceivedRequest.readTarget_of_absent noMark, List.append_nil]
    · have chars : (server ++ (url.path ++ Url.queryText none ++ "?" ++
          "&".intercalate template.queryPairs)).toList = (server ++ url.path).toList ++
            '?' :: ("&".intercalate template.queryPairs).toList := by simp [Url.queryText]
      simp only [empty, List.isEmpty_iff, Option.isSome_none, Bool.false_eq_true, if_false, chars,
        ReceivedRequest.readTarget_append noMark, plain.splitOn_queryPairs empty, pieces,
        List.nil_append]
  | some query =>
    have someThere : (query.toList.splitOn '&').map String.ofList ++ template.queryPairs ≠ [] := by
      simp [List.splitOn_ne_nil]
    by_cases empty : template.queryPairs = []
    · have chars : (server ++ (url.path ++ Url.queryText (some query))).toList =
          (server ++ url.path).toList ++ '?' :: query.toList := by simp [Url.queryText]
      rw [if_neg someThere]
      simp only [empty, List.isEmpty_nil, if_true, chars,
        ReceivedRequest.readTarget_append noMark, List.append_nil]
    · have chars : (server ++ (url.path ++ Url.queryText (some query) ++ "&" ++
          "&".intercalate template.queryPairs)).toList = (server ++ url.path).toList ++
            '?' :: (query.toList ++ '&' :: ("&".intercalate template.queryPairs).toList) := by
        simp [Url.queryText]
      have both : (query.toList ++ '&' :: ("&".intercalate template.queryPairs).toList).splitOn '&' =
          query.toList.splitOn '&' ++ template.queryPairs.map String.toList := by
        rw [← plain.splitOn_queryPairs empty]
        exact List.splitOnP_append_cons _ _ (beq_self_eq_true '&')
      rw [if_neg someThere]
      simp only [empty, List.isEmpty_iff, Option.isSome_some, if_true, if_false, chars,
        ReceivedRequest.readTarget_append noMark, both, List.map_append, pieces]

/-- **The head of a plain template is read as it is.** -/
theorem readHead?_head (proper : url.Proper) (via : Via) :
    ReceivedRequest.readHead? (template.head url via) template.body =
      some (template.received url via) := by
  have fields : ((template.sentFields url via).map fun field => fieldLine field.1 field.2).mapM
      (fun line => ReceivedRequest.readField? line.toList) =
        some (template.sentFields url via) := by
    rw [List.mapM_map, mapM_eq_map (g := id), List.map_id]
    exact fun field mem => ReceivedRequest.readField?_fieldLine (plain.noColon mem) field.2
  generalize server : (if via = .forward then url.origin else "") = place
  have noMark : ∀ c ∈ (place ++ url.path).toList, c ≠ '?' := by
    intro c mem
    rw [String.toList_append, List.mem_append, ← server] at mem
    rcases mem with mem | mem
    · split_ifs at mem
      · exact Url.noMark_origin proper c mem
      · cases mem
    · exact Url.noMark_path proper c mem
  have line : (template.requestLine url via).toList = template.method.toList ++
      ' ' :: ((place ++ template.target url).toList ++ ' ' :: protocolVersion.toList) := by
    simp [requestLine, server]
  have noSpace : ∀ c ∈ protocolVersion.toList, c ≠ ' ' := forall_mem_of_all (by decide)
  have first := ReceivedRequest.readRequestLine?_append (fun c mem => (plain.method c mem).1) noSpace
    (place ++ template.target url).toList
  rw [head_eq_fields, ReceivedRequest.readHead?, received, server]
  simp only [line, first, fields, plain.readTarget_target noMark, Option.bind_eq_bind,
    Option.bind_some]

end Plain

/-- A name that neither a field of the caller's own nor one of credentials has gets its values from
the two fields that come first. -/
theorem valuesOf_sentFields {name : String}
    (absent : ∀ field ∈ template.ownFields ++ template.credentialFields via,
      Ascii.sameName field.1 name = false) :
    ReceivedRequest.valuesOf (template.sentFields url via) name =
      (if Ascii.sameName "Host" name then [template.hostValue url via] else []) ++
        if Ascii.sameName "Content-Length" name then [toString template.body.length] else [] := by
  have others : (template.ownFields ++ template.credentialFields via).filter
      (Ascii.sameName ·.1 name) = [] :=
    List.filter_eq_nil_iff.2 fun field mem => by simp [absent field mem]
  simp only [ReceivedRequest.valuesOf, sentFields, List.filter_cons, others]
  split_ifs <;> rfl

theorem othersOf_sentFields : ReceivedRequest.othersOf (template.sentFields url via) =
    ReceivedRequest.othersOf template.headers.entries ++ template.credentialFields via := by
  have kept : ReceivedRequest.othersOf (template.ownFields ++ template.credentialFields via) =
      template.ownFields ++ template.credentialFields via :=
    List.filter_eq_self.2 fun field mem => by simp [sameName_of_mem mem]
  have own : template.ownFields = ReceivedRequest.othersOf template.headers.entries := by
    simp only [ownFields, isReserved, Bool.not_or, ReceivedRequest.othersOf]
  have first : Ascii.sameName "Host" "host" = true := by decide
  have second : Ascii.sameName "Content-Length" "content-length" = true := by decide
  rw [← own, ← kept]
  simp only [ReceivedRequest.othersOf, sentFields, List.filter_cons, first, second, Bool.not_true,
    Bool.false_and, Bool.and_false, Bool.false_eq_true, if_false]

/-- The value of the `Host` field is the first one that the caller has, or else the address's. -/
theorem hostValue_eq : template.hostValue url via =
    (ReceivedRequest.valuesOf template.headers.entries "host").headD
      (if via = .forward then url.authority else url.hostHeader) := by
  rw [hostValue, Fields.find?, ReceivedRequest.valuesOf, List.headD_eq_head?_getD, List.head?_map,
    List.head?_filter]

/-- **What is read is what the template says.** -/
theorem recovers_received (template : Template) (url : Url) (via : Via) :
    (template.received url via).Recovers template url via where
  method := rfl
  version := rfl
  place := by
    simp only [received, Url.origin, Url.authority, Url.hostHeader, String.append_assoc]
  query := by
    rw [← queryPairs_eq]
    rfl
  host := by
    have first : Ascii.sameName "Host" "host" = true := by decide
    have second : Ascii.sameName "Content-Length" "host" = false := by decide
    rw [received, valuesOf_sentFields fun field mem => (sameName_of_mem mem).1, first, second,
      hostValue_eq]
    rfl
  length := by
    have first : Ascii.sameName "Host" "content-length" = false := by decide
    have second : Ascii.sameName "Content-Length" "content-length" = true := by decide
    rw [received, valuesOf_sentFields fun field mem => (sameName_of_mem mem).2, first, second]
    rfl
  body := rfl
  others := othersOf_sentFields

/-- **A request is read as the template it was made from.** The bytes in front of the first empty line
give the parts of the template and of the address, those after it give the body, whatever that is;
arguments and fields stand in the order of the bytes of their names. -/
theorem read?_request {url : Url} (produced : url.Produced) {template : Template}
    (plain : template.Plain) (via : Via) :
    ∃ request, ReceivedRequest.read? (template.request url via) = some request ∧
      request.Recovers template url via ∧
      template.arguments.InByteOrder ∧ template.headers.InByteOrder := by
  have proper := produced.proper
  have someThere : template.head url via ≠ [] := by
    rw [head_eq_fields]
    exact List.cons_ne_nil _ _
  refine ⟨template.received url via, ?_, recovers_received template url via,
    template.arguments.inByteOrder, template.headers.inByteOrder⟩
  rw [request, ReceivedRequest.read?_wireMessage someThere
    (isLine_of_mem_head proper plain.unbroken)]
  exact plain.readHead?_head proper via

/-- A template with an argument of two words, a host of its own, and a body that looks like the end of
a head, for an address with a query. -/
theorem read?_request_own_host :
    let url : Url :=
      ⟨.http, "", none, .ipv6 ⟨[0, 0, 0, 0, 0, 0, 0, 1], rfl⟩, none, [""], some "q", none⟩
    let template : Template :=
      ⟨"GET", Fields.empty.set "a" "1, 2", (Fields.empty.set "X" "y").set "hOST" "own",
        [13, 10, 13, 10], none, none⟩
    Url.read "http://[::1]?q" = .ok url ∧ template.Plain ∧
      ∃ request, ReceivedRequest.read? (template.request url .forward) = some request ∧
        request.place = "http://[::1]:80/" ∧ request.query = some ["q", "a=1", "a=2"] ∧
        ReceivedRequest.valuesOf request.fields "host" = ["own"] ∧ request.body = [13, 10, 13, 10] := by
  intro url template
  have read : Url.read "http://[::1]?q" = .ok url := by decide +kernel
  have plain : template.Plain := by
    refine ⟨forall_mem_of_all ?_, fun argument mem => forall_mem_of_all ?_,
      fun field mem => forall_mem_of_all ?_, fun field mem => forall_mem_of_all ?_⟩
    · decide +kernel
    · revert argument
      exact forall_mem_of_all (by decide +kernel)
    · revert field
      exact forall_mem_of_all (by decide +kernel)
    · revert field
      exact forall_mem_of_all (by decide +kernel)
  obtain ⟨request, received, recovers, -, -⟩ := read?_request (.read read) plain .forward
  refine ⟨read, plain, request, received, recovers.place.trans ?_, recovers.query.trans ?_,
    recovers.host.trans ?_, recovers.body⟩ <;> decide +kernel

end Template
end HttpFetch
