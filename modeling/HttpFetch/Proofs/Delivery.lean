import HttpFetch.Response.Stream
/-!
# Ways to deliver bytes

The same bytes can come in reads of any sizes, with interruptions between them, and the stream can
end in more than one way. `Delivers` holds of every such course of deliveries, and cutting
deliveries into pieces for a read of limited size leads from one to another (`Delivers.inPieces`).
-/

namespace HttpFetch

/-- A way to deliver bytes and then the end, without cancellation. What would come after the end of
the stream does not matter. -/
inductive Delivers : List Delivery → Bytes → Prop where
  /-- nothing is left, so every read finds the end -/
  | silent : Delivers [] []
  /-- the peer closes the connection -/
  | closed (later : List Delivery) : Delivers (⟨false, .ok []⟩ :: later) []
  /-- the peer ends without saying so -/
  | brokenOff (text : String) (later : List Delivery) :
    Delivers (⟨false, .error ⟨.unexpectedEnd, text⟩⟩ :: later) []
  /-- a read is interrupted -/
  | interrupted (text : String) {later : List Delivery} {bytes : Bytes} :
    Delivers later bytes → Delivers (⟨false, .error ⟨.interrupted, text⟩⟩ :: later) bytes
  /-- a read gives at least one byte -/
  | portion {portion : Bytes} {later : List Delivery} {bytes : Bytes} :
    portion ≠ [] → Delivers later bytes →
      Delivers (⟨false, .ok portion⟩ :: later) (portion ++ bytes)

/-- The event of a read that gives bytes. -/
theorem Delivery.event_of_ne_nil {portion : Bytes} (some : portion ≠ []) :
    (Delivery.mk false (.ok portion)).event = .bytes portion := by
  cases portion with
  | nil => exact absurd rfl some
  | cons b rest => rfl

/-- A read that is tried again was interrupted. -/
theorem Delivery.outcome_of_again {d : Delivery} (again : d.event = .again) :
    ∃ fault, d.outcome = .error fault ∧ fault.kind = .interrupted := by
  rw [event] at again
  split at again
  · cases again
  · cases again
  · rename_i fault outcome
    refine ⟨fault, outcome, ?_⟩
    split at again
    · assumption
    · cases again
    · cases again

/-- A read that gives bytes gives at least one. -/
theorem Delivery.outcome_of_bytes {d : Delivery} {bytes : Bytes} (gives : d.event = .bytes bytes) :
    d.outcome = .ok bytes ∧ bytes ≠ [] := by
  rw [event] at gives
  split at gives
  · cases gives
  · rename_i some outcome
    cases gives
    exact ⟨outcome, some⟩
  · split at gives <;> cases gives

/-! ## Pieces -/

/-- Pieces put together give the bytes they were cut from. -/
theorem Delivery.flatten_cutFrom (size : Nat) (done : List Bytes) (piece : Bytes) (room : Nat)
    (bytes : Bytes) :
    (Delivery.cutFrom size done piece room bytes).flatten =
      done.reverse.flatten ++ piece.reverse ++ bytes := by
  induction bytes generalizing done piece room with
  | nil => simp [cutFrom]
  | cons b rest ih => cases room <;> simp [cutFrom, ih]

/-- No piece is empty. -/
theorem Delivery.ne_nil_of_mem_cutFrom {size : Nat} {done : List Bytes} {piece : Bytes} {room : Nat}
    {bytes : Bytes} (before : ∀ p ∈ done, p ≠ [])
    (fits : piece ≠ [] ∨ 0 < room ∧ bytes ≠ []) :
    ∀ p ∈ Delivery.cutFrom size done piece room bytes, p ≠ [] := by
  induction bytes generalizing done piece room with
  | nil =>
    have started : piece ≠ [] := fits.resolve_right fun h => h.2 rfl
    intro p hp
    simp only [cutFrom, List.reverse_cons, List.mem_append, List.mem_reverse,
      List.mem_singleton] at hp
    rcases hp with hp | rfl
    · exact before p hp
    · simpa using started
  | cons b rest ih =>
    cases room with
    | zero =>
      have started : piece ≠ [] := fits.resolve_right fun h => absurd h.1 (Nat.lt_irrefl 0)
      refine ih (fun p hp => ?_) (.inl (List.cons_ne_nil b []))
      rcases List.mem_cons.1 hp with rfl | hp
      · simpa using started
      · exact before p hp
    | succ room => exact ih before (.inl (List.cons_ne_nil b piece))

/-- Reads that give portions one after the other deliver them. -/
theorem Delivers.portions {later : List Delivery} {bytes : Bytes} (h : Delivers later bytes) :
    ∀ {portions : List Bytes}, (∀ p ∈ portions, p ≠ []) →
      Delivers (portions.map (⟨false, .ok ·⟩) ++ later) (portions.flatten ++ bytes) := by
  intro portions
  induction portions with
  | nil => intro _; exact h
  | cons p rest ih =>
    intro some
    rw [List.map_cons, List.cons_append, List.flatten_cons, List.append_assoc]
    exact .portion (some p (by simp)) (ih fun q hq => some q (by simp [hq]))

/-- The pieces of a portion. -/
theorem Delivery.pieces_ok (size : Nat) {portion : Bytes} (some : portion ≠ []) :
    Delivery.pieces size ⟨false, .ok portion⟩ =
      (Delivery.cut size portion).map (⟨false, .ok ·⟩) := by
  have whole : (Delivery.cut size portion).flatten = portion :=
    Delivery.flatten_cutFrom size [] [] size portion
  rcases h : Delivery.cut size portion with _ | ⟨piece, rest⟩
  · rw [h] at whole
    exact absurd whole.symm some
  · simp [Delivery.pieces, h]

/-- What a read of limited size takes of a delivery with bytes: at least one piece, none of them
empty, and together all of it. -/
theorem Delivery.exists_pieces {size : Nat} (positive : 0 < size) {bytes : Bytes}
    (filled : bytes ≠ []) (cancels : Bool) :
    ∃ (piece : Bytes) (later : List Bytes), Delivery.pieces size ⟨cancels, .ok bytes⟩ =
        ⟨cancels, .ok piece⟩ :: later.map (⟨false, .ok ·⟩) ∧
      piece ≠ [] ∧ (∀ p ∈ later, p ≠ []) ∧ piece ++ later.flatten = bytes := by
  have whole : (Delivery.cut size bytes).flatten = bytes :=
    Delivery.flatten_cutFrom size [] [] size bytes
  have full : ∀ p ∈ Delivery.cut size bytes, p ≠ [] :=
    Delivery.ne_nil_of_mem_cutFrom (by simp) (.inr ⟨positive, filled⟩)
  rcases cut : Delivery.cut size bytes with _ | ⟨piece, later⟩ <;> rw [cut] at whole full
  · exact absurd whole.symm filled
  · exact ⟨piece, later, by simp [pieces, cut], full piece List.mem_cons_self,
      fun p mem => full p (List.mem_cons_of_mem _ mem), whole⟩

/-- What can be said of deliveries is the same of their pieces, if it does not depend on whether two
reads give some bytes or one. -/
theorem Delivery.pieces_invariant {α : Type} {f : List Delivery → α} {size : Nat}
    (positive : 0 < size)
    (congr : ∀ d {rest rest'}, f rest = f rest' → f (d :: rest) = f (d :: rest'))
    (joins : ∀ cancels {piece more} rest, piece ≠ [] → more ≠ [] →
      f (⟨cancels, .ok piece⟩ :: ⟨false, .ok more⟩ :: rest) =
        f (⟨cancels, .ok (piece ++ more)⟩ :: rest))
    (deliveries : List Delivery) : f (deliveries.flatMap (pieces size)) = f deliveries := by
  have joined (cancels : Bool) {piece : Bytes} {later : List Bytes} (filled : piece ≠ [])
      (full : ∀ p ∈ later, p ≠ []) (rest : List Delivery) :
      f (⟨cancels, .ok piece⟩ :: (later.map (⟨false, .ok ·⟩) ++ rest)) =
        f (⟨cancels, .ok (piece ++ later.flatten)⟩ :: rest) := by
    induction later generalizing piece with
    | nil => rw [List.flatten_nil, List.append_nil, List.map_nil, List.nil_append]
    | cons next later ih =>
      rw [List.map_cons, List.cons_append, joins cancels _ filled (full next List.mem_cons_self),
        ih (by simp [filled]) fun p mem => full p (List.mem_cons_of_mem next mem),
        List.flatten_cons, List.append_assoc]
  induction deliveries with
  | nil => rfl
  | cons d rest ih =>
    rw [List.flatMap_cons, ← congr d ih]
    obtain ⟨cancels, fault | bytes⟩ := d
    · rfl
    by_cases empty : bytes = []
    · rw [empty]
      rfl
    obtain ⟨piece, later, cut, filled, full, whole⟩ := exists_pieces positive empty cancels
    rw [cut, List.cons_append, joined cancels filled full, whole]

/-- Reads of limited size deliver the same bytes. -/
theorem Delivers.inPieces {size : Nat} (positive : 0 < size) {deliveries : List Delivery}
    {bytes : Bytes} (h : Delivers deliveries bytes) :
    Delivers (deliveries.flatMap (Delivery.pieces size)) bytes := by
  induction h with
  | silent => exact .silent
  | closed later => exact .closed _
  | brokenOff text later => exact .brokenOff text _
  | interrupted text _ ih => exact .interrupted text ih
  | @portion portion later bytes some _ ih =>
    have whole : (Delivery.cut size portion).flatten = portion :=
      Delivery.flatten_cutFrom size [] [] size portion
    have full : ∀ p ∈ Delivery.cut size portion, p ≠ [] :=
      Delivery.ne_nil_of_mem_cutFrom (by simp) (.inr ⟨positive, some⟩)
    rw [List.flatMap_cons, Delivery.pieces_ok size some]
    have := ih.portions full
    rw [whole] at this
    exact this

/-! ## Deliveries that are cut -/

/-- Pieces are no longer than they may be. -/
theorem Delivery.length_le_of_mem_cutFrom {size : Nat} (positive : 0 < size) {done : List Bytes}
    {piece : Bytes} {room : Nat} {bytes : Bytes} (before : ∀ p ∈ done, p.length ≤ size)
    (fits : piece.length + room ≤ size) :
    ∀ p ∈ Delivery.cutFrom size done piece room bytes, p.length ≤ size := by
  induction bytes generalizing done piece room with
  | nil =>
    intro p hp
    simp only [cutFrom, List.reverse_cons, List.mem_append, List.mem_reverse,
      List.mem_singleton] at hp
    rcases hp with hp | rfl
    · exact before p hp
    · rw [List.length_reverse]
      omega
  | cons b rest ih =>
    cases room with
    | zero =>
      refine ih (fun p hp => ?_) (by simp only [List.length_singleton]; omega)
      rcases List.mem_cons.1 hp with rfl | hp
      · rw [List.length_reverse]
        omega
      · exact before p hp
    | succ room => exact ih before (by simp only [List.length_cons]; omega)

/-- Bytes for which there is room are one piece. -/
theorem Delivery.cutFrom_of_le {size room : Nat} (done : List Bytes) (piece : Bytes)
    {bytes : Bytes} (fits : bytes.length ≤ room) :
    Delivery.cutFrom size done piece room bytes = (done.reverse ++ [piece.reverse ++ bytes]) := by
  induction bytes generalizing piece room with
  | nil => simp [cutFrom]
  | cons b rest ih =>
    cases room with
    | zero => simp at fits
    | succ room =>
      rw [cutFrom, ih (b :: piece) (by simpa using fits)]
      simp

/-- Whether a read of limited size takes all that a delivery gives. -/
def Delivery.Fits (size : Nat) (d : Delivery) : Prop :=
  ∀ bytes, d.outcome = .ok bytes → bytes.length ≤ size

theorem Delivery.Fits.pieces {size : Nat} {d : Delivery} (fits : d.Fits size) :
    d.pieces size = [d] := by
  obtain ⟨cancels, fault | bytes⟩ := d
  · rfl
  · have whole : Delivery.cut size bytes = [bytes] := cutFrom_of_le [] [] (fits bytes rfl)
    rw [Delivery.pieces]
    simp only [whole]
    rfl

theorem Delivery.fits_of_mem_pieces {size : Nat} (positive : 0 < size) {d piece : Delivery}
    (mem : piece ∈ d.pieces size) : piece.Fits size := by
  obtain ⟨cancels, fault | bytes⟩ := d
  · obtain rfl := List.mem_singleton.1 mem
    rintro bytes ⟨⟩
  have whole : (Delivery.cut size bytes).flatten = bytes := flatten_cutFrom size [] [] size bytes
  have short : ∀ p ∈ Delivery.cut size bytes, p.length ≤ size :=
    length_le_of_mem_cutFrom positive (by simp) (by simp)
  rw [Delivery.pieces] at mem
  rcases cut : Delivery.cut size bytes with _ | ⟨first, later⟩ <;> rw [cut] at whole short <;>
    simp only [cut] at mem
  · obtain rfl := List.mem_singleton.1 mem
    rintro bytes ⟨⟩
    rw [← whole]
    exact Nat.zero_le size
  · rcases List.mem_cons.1 mem with rfl | mem
    · rintro bytes ⟨⟩
      exact short first List.mem_cons_self
    · obtain ⟨next, among, rfl⟩ := List.mem_map.1 mem
      rintro bytes ⟨⟩
      exact short next (List.mem_cons_of_mem first among)

/-- Deliveries that are cut already are cut no further. -/
theorem Delivery.flatMap_pieces {size : Nat} {deliveries : List Delivery}
    (fits : ∀ d ∈ deliveries, d.Fits size) : deliveries.flatMap (pieces size) = deliveries := by
  induction deliveries with
  | nil => rfl
  | cons d rest ih =>
    rw [List.flatMap_cons, (fits d List.mem_cons_self).pieces,
      ih fun d mem => fits d (List.mem_cons_of_mem _ mem)]
    rfl

theorem Delivery.fits_of_mem_flatMap {size : Nat} (positive : 0 < size)
    {deliveries : List Delivery} : ∀ d ∈ deliveries.flatMap (pieces size), d.Fits size := by
  intro d mem
  obtain ⟨whole, -, mem⟩ := List.mem_flatMap.1 mem
  exact fits_of_mem_pieces positive mem

end HttpFetch
