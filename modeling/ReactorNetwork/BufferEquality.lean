import ReactorNetwork.BufferFamily
import ReactorNetwork.BufferMemory

/-!
# Equality of buffers

`operator==` compares the vectors and not the indices. A retrieval moves an index and
leaves the bytes behind, and a vector is filled with zeros beyond what was written, so
two buffers may have one vector and read it differently.

Where the indices agree, or both buffers are drained, one vector means one content. At any
other indices it does not: the bytes that a retrieval left behind can be appended again up
to any position, so that two buffers come to share a vector and to read different parts of
it.
-/

namespace ReactorNetwork.BufferEquality

open Buffer CellStore Runs BufferLayout BufferFamily

/-- `append`, `retrieve`, `retrieve_all` and `retrieve_as_string`. -/
def Plain : BufferFamily.Op → Prop
  | .layout (.queue (.append _)) => True
  | .layout (.queue (.appendBytes _ _)) => True
  | .layout (.queue (.retrieve _)) => True
  | .layout (.queue .retrieveAll) => True
  | .layout (.queue .retrieveAsString) => True
  | _ => False

/-- Where the readable bytes lie in the vector: `reader_index_` and `writer_index_`. -/
def range (b : Buffer) : Nat × Nat := (b.readerIndex, b.writerIndex)

/-- Both indices agree, or nothing is readable in either buffer. -/
def RangesAgree (first second : Nat × Nat) : Prop :=
  first = second ∨ (first.1 = first.2 ∧ second.1 = second.2)

instance (first second : Nat × Nat) : Decidable (RangesAgree first second) :=
  inferInstanceAs (Decidable (_ ∨ _))

section Plain

variable {b after : Buffer}

/-- The indices of a well-formed buffer are in order. -/
theorem ordered_of_wellFormed (wellFormed : b.WellFormed) : Ordered b where
  ordered := wellFormed.ordered
  ranged := by
    have limit : vectorMaxSize < sizeLimit := by decide
    have inside := wellFormed.inside
    have sized := wellFormed.sized
    omega
  sized := wellFormed.sized

/-- Bytes that were stored inside the vector are too few to wrap a size around. -/
theorem stored_fits {len : Nat} {spacious : Buffer} {data written : List Byte}
    (wellFormed : b.WellFormed) (made : b.ensureWriteableBytes len = .ok spacious)
    (stored : store spacious.buffer spacious.beginWrite data = some written)
    (width : data.length = len) : b.writerIndex + len < sizeLimit := by
  have inside := wellFormed.inside
  have sized := wellFormed.sized
  have larger := (ensureWriteableBytes_ordered (ordered_of_wellFormed wellFormed) made).sized
  have room : len ≤ vectorMaxSize := by
    rcases (store_inside stored).2 with rfl | fits
    · rw [← width]
      exact Nat.zero_le _
    · omega
  unfold vectorMaxSize at *
  unfold sizeLimit
  omega

/-- A plain operation that returns does not wrap a size around. -/
theorem plain_noWrap {op : BufferQueue.Op} {reply : BufferQueue.Reply}
    (plain : Plain (.layout (.queue op))) (wellFormed : b.WellFormed)
    (returned : BufferQueue.perform b op = .ok (after, reply)) : BufferQueue.NoWrap b op := by
  have ranged := (ordered_of_wellFormed wellFormed).ranged
  cases BufferQueue.performed returned with
  | append str after done =>
    obtain ⟨spacious, written, made, stored, _⟩ := append_done done
    exact stored_fits wellFormed made stored rfl
  | appendBytes data len after done =>
    obtain ⟨spacious, source, written, made, loaded, stored, _⟩ := appendBytes_done done
    exact stored_fits wellFormed made stored (load_length loaded)
  | retrieve | retrieveAll | retrieveAsString => exact ranged
  | ensureWriteableBytes | retrieveUntil | failed | received => exact plain.elim

/-- The plain operations keep the writer index inside the vector, whatever they are
asked for. -/
theorem plain_wellFormed (b : Buffer) (op : BufferFamily.Op) (after : Buffer) (plain : Plain op)
    (wellFormed : b.WellFormed) (returned : BufferFamily.perform b op = .ok after) :
    after.WellFormed := by
  cases op with
  | layout op =>
    cases op with
    | queue op =>
      obtain ⟨⟨result, reply⟩, performed, same⟩ := (bind_ok _ _ _).mp returned
      obtain rfl := (pure_ok _ _).mp same
      exact BufferMemory.perform_wellFormed wellFormed (plain_noWrap plain wellFormed performed)
        performed
    | prepend => exact plain.elim
  | shrink | hasWritten => exact plain.elim

/-- Every buffer of such a run is well-formed. -/
theorem plain_reached_wellFormed {labels : List Label} {buffers : Nat → Buffer}
    (plain : ∀ label ∈ labels, label.Uses Plain)
    (reached : run BufferFamily.step BufferFamily.fresh labels = .ok buffers) (id : Nat) :
    (buffers id).WellFormed :=
  reached_each Plain plain_wellFormed fresh_wellFormed plain reached id

end Plain

section Ranges

variable {a b : Buffer}

/-- Over one vector, ranges that agree are read the same. -/
theorem content_of_rangesAgree (agree : RangesAgree (range a) (range b))
    (same : a.buffer = b.buffer) : a.content = b.content := by
  rcases agree with equal | ⟨drained, otherDrained⟩
  · obtain ⟨reader, writer⟩ := Prod.mk.inj equal
    rw [content, content, same, reader, writer]
  · have first : a.readerIndex = a.writerIndex := drained
    have second : b.readerIndex = b.writerIndex := otherDrained
    rw [content, content, first, second, slice_same, slice_same]

/-- The first append to a new buffer puts the bytes at the front of a vector that has room
for them, grown if need be. -/
theorem fresh_append (data : List Byte) (fits : kCheapPrepend + data.length ≤ vectorMaxSize) :
    ∃ cells, fresh.append data = .ok ⟨cells, kCheapPrepend, kCheapPrepend + data.length⟩ ∧
      slice cells kCheapPrepend (kCheapPrepend + data.length) = data ∧
      kCheapPrepend + data.length ≤ cells.length ∧ cells.length ≤ vectorMaxSize := by
  have limit : vectorMaxSize < sizeLimit := by decide
  have start : fresh.writerIndex = kCheapPrepend := rfl
  cases append_returns fresh_wellFormed data (by rw [start]; omega) with
  | threw _ tooLong =>
    rw [start] at tooLong
    omega
  | returned after appended met =>
    obtain ⟨wellFormed, content⟩ := met
    obtain ⟨spacious, written, made, _, rfl⟩ := append_done appended
    rw [fresh_content, List.nil_append] at content
    -- the third branch moves to the front what already lies there
    have kept : spacious.readerIndex = kCheapPrepend ∧ spacious.writerIndex = kCheapPrepend := by
      cases (ensured made).1 with
      | enough | grown => exact ⟨rfl, rfl⟩
      | moved _ _ reclaimable => exact absurd reclaimable (Nat.lt_irrefl _)
    have stop : sizeAdd spacious.writerIndex data.length = kCheapPrepend + data.length := by
      rw [kept.2]
      exact sizeAdd_exact _ _ (by omega)
    have inside := wellFormed.inside
    simp only [hasWritten, Buffer.content, kept.1, stop] at content inside
    refine ⟨written, ?_, content, inside, wellFormed.sized⟩
    rw [appended, hasWritten]
    simp only [kept.1, stop]

/-- Appending to a drained buffer the bytes that its vector still holds moves only the
writer index. -/
theorem append_again {cells : List Byte} {writer : Nat} (ordered : kCheapPrepend ≤ writer)
    (inside : writer ≤ cells.length) (sized : cells.length ≤ vectorMaxSize) :
    append ⟨cells, kCheapPrepend, kCheapPrepend⟩ (slice cells kCheapPrepend writer) =
      .ok ⟨cells, kCheapPrepend, writer⟩ := by
  have wellFormed : WellFormed ⟨cells, kCheapPrepend, kCheapPrepend⟩ :=
    ⟨Nat.le_refl _, Nat.le_refl _, Nat.le_trans ordered inside, sized⟩
  have width : (slice cells kCheapPrepend writer).length = writer - kCheapPrepend :=
    slice_length _ _ _ inside
  have room : (slice cells kCheapPrepend writer).length ≤
      writableBytes ⟨cells, kCheapPrepend, kCheapPrepend⟩ := by
    rw [width, writableBytes_exact wellFormed]
    simp only
    omega
  have made : ensureWriteableBytes ⟨cells, kCheapPrepend, kCheapPrepend⟩
      (slice cells kCheapPrepend writer).length = .ok ⟨cells, kCheapPrepend, kCheapPrepend⟩ := by
    rw [ensureWriteableBytes, if_neg (Nat.not_lt.mpr room)]
    exact require_passed room _
  have stored : store cells kCheapPrepend (slice cells kCheapPrepend writer) = some cells := by
    rw [store_exact _ _ _ (by omega), splice_slice _ _ _ ordered inside]
  have limit : vectorMaxSize < sizeLimit := by decide
  rw [append, made]
  refine (accessed_found stored _).trans ?_
  rw [width, hasWritten]
  simp only
  rw [sizeAdd_exact _ _ (by omega), Nat.add_sub_cancel' ordered]
  rfl

end Ranges

section Placed

variable {cells : List Byte}

/-- Operations on one buffer of the family change that buffer only. -/
theorem run_on (id : Nat) {ops : List BufferFamily.Op} {buffers : Nat → Buffer}
    {before after : Buffer} (here : buffers id = before)
    (performed : run BufferFamily.perform before ops = .ok after) :
    run BufferFamily.step buffers (ops.map (.on id)) = .ok (Function.update buffers id after) := by
  induction ops generalizing buffers before with
  | nil =>
    obtain rfl := Except.ok.inj performed
    rw [← here, Function.update_eq_self]
    rfl
  | cons op ops inductionHypothesis =>
    obtain ⟨next, taken, continued⟩ := (run_cons _ _ _ _ _).mp performed
    have stepped : BufferFamily.step buffers (.on id op) =
        .ok (Function.update buffers id next) := by
      simp only [BufferFamily.step, here, taken]
      rfl
    rw [List.map_cons, run_returned _ stepped,
      inductionHypothesis (Function.update_self id next buffers) continued, Function.update_idem]

/-- An append that returns is an operation of the family that returns. -/
theorem performed_append {b after : Buffer} {str : List Byte} (done : b.append str = .ok after) :
    BufferFamily.perform b (.layout (.queue (.append str))) = .ok after := by
  simp [BufferFamily.perform, BufferLayout.step, BufferQueue.perform, done, bind, Except.bind, pure,
    Except.pure]

/-- So is a retrieve. -/
theorem performed_retrieve {b after : Buffer} {len : Nat} (done : b.retrieve len = .ok after) :
    BufferFamily.perform b (.layout (.queue (.retrieve len))) = .ok after := by
  simp [BufferFamily.perform, BufferLayout.step, BufferQueue.perform, done, bind, Except.bind, pure,
    Except.pure]

/-- Store the data, drain the buffer, and append and retrieve up to the given range
again. -/
def placing (data : List Byte) (range : Nat × Nat) : List BufferFamily.Op :=
  [.layout (.queue (.append data)), .layout (.queue .retrieveAll),
    .layout (.queue (.append (data.take (range.2 - kCheapPrepend)))),
    .layout (.queue (.retrieve (range.1 - kCheapPrepend)))]

/-- A buffer comes to have any range inside its data, and the vector is the one that the
data made. -/
theorem placing_reaches {data : List Byte} {range : Nat × Nat}
    (stored : fresh.append data = .ok ⟨cells, kCheapPrepend, kCheapPrepend + data.length⟩)
    (found : slice cells kCheapPrepend (kCheapPrepend + data.length) = data)
    (held : kCheapPrepend + data.length ≤ cells.length) (sized : cells.length ≤ vectorMaxSize)
    (prependable : kCheapPrepend ≤ range.1) (ordered : range.1 ≤ range.2)
    (inside : range.2 ≤ kCheapPrepend + data.length) :
    run BufferFamily.perform Buffer.fresh (placing data range) =
      .ok ⟨cells, range.1, range.2⟩ := by
  have limit : vectorMaxSize < sizeLimit := by decide
  have front : data.take (range.2 - kCheapPrepend) = slice cells kCheapPrepend range.2 := by
    have cut := slice_take cells kCheapPrepend (kCheapPrepend + data.length)
      (range.2 - kCheapPrepend) (by omega)
    rwa [found, Nat.add_sub_cancel' (Nat.le_trans prependable ordered)] at cut
  have readable : readableBytes ⟨cells, kCheapPrepend, range.2⟩ = range.2 - kCheapPrepend :=
    readableBytes_exact ⟨Nat.le_refl _, Nat.le_trans prependable ordered,
      Nat.le_trans inside held, sized⟩
  have present : range.1 - kCheapPrepend ≤ readableBytes ⟨cells, kCheapPrepend, range.2⟩ := by
    rw [readable]
    omega
  have reader : sizeAdd kCheapPrepend (range.1 - kCheapPrepend) = range.1 := by
    rw [sizeAdd_exact _ _ (by omega), Nat.add_sub_cancel' prependable]
  have again : append ⟨cells, kCheapPrepend, kCheapPrepend⟩
      (data.take (range.2 - kCheapPrepend)) = .ok ⟨cells, kCheapPrepend, range.2⟩ := by
    rw [front]
    exact append_again (Nat.le_trans prependable ordered) (Nat.le_trans inside held) sized
  have retrieved : retrieve ⟨cells, kCheapPrepend, range.2⟩ (range.1 - kCheapPrepend) =
      .ok ⟨cells, range.1, range.2⟩ := by
    rw [retrieve, require_passed present, reader]
    rfl
  have drained : BufferFamily.perform ⟨cells, kCheapPrepend, kCheapPrepend + data.length⟩
      (.layout (.queue .retrieveAll)) = .ok ⟨cells, kCheapPrepend, kCheapPrepend⟩ := rfl
  rw [placing, run_returned _ (performed_append stored), run_returned _ drained,
    run_returned _ (performed_append again), run_single]
  exact performed_retrieve retrieved

/-- Zeros with a one at the given position. -/
def marked (size position : Nat) : List Byte := (List.replicate size 0).set position 1

/-- Ranges that do not agree read differently over a vector that is marked at the first
one's beginning. -/
theorem marked_told {size : Nat} {first second : Nat × Nat}
    (found : slice cells kCheapPrepend (kCheapPrepend + size) =
      marked size (first.1 - kCheapPrepend))
    (held : kCheapPrepend + size ≤ cells.length)
    (prependable : kCheapPrepend ≤ first.1) (ordered : first.1 ≤ first.2)
    (inside : first.2 ≤ kCheapPrepend + size)
    (otherPrependable : kCheapPrepend ≤ second.1) (otherOrdered : second.1 ≤ second.2)
    (otherInside : second.2 ≤ kCheapPrepend + size) (apart : ¬ RangesAgree first second) :
    slice cells first.1 first.2 ≠ slice cells second.1 second.2 := by
  intro same
  have cell : ∀ position, kCheapPrepend ≤ position → position < kCheapPrepend + size →
      cells[position]? = some (if position = first.1 then 1 else 0) := by
    intro position lower upper
    have read := congrArg (fun range => range[position - kCheapPrepend]?) found
    simp only [slice_getElem?, Nat.add_sub_cancel' lower, if_pos upper] at read
    rw [read, marked, List.getElem?_set, List.length_replicate,
      List.getElem?_replicate_of_lt (by omega)]
    by_cases here : position = first.1
    · rw [if_pos (by omega), if_pos (by omega), if_pos here]
    · rw [if_neg (by omega), if_neg here]
  have equally : first.2 - first.1 = second.2 - second.1 := by
    have lengths := congrArg List.length same
    rwa [slice_length _ _ _ (by omega), slice_length _ _ _ (by omega)] at lengths
  have heads := congrArg (fun range => range[0]?) same
  simp only [slice_getElem?, Nat.add_zero] at heads
  -- equally long ranges that do not agree are not empty and begin at different cells
  have moved : first.1 < first.2 ∧ second.1 ≠ first.1 := by
    unfold RangesAgree at apart
    rw [Prod.ext_iff] at apart
    omega
  rw [if_pos moved.1, if_pos (by omega), cell _ prependable (by omega),
    cell _ otherPrependable (by omega), if_pos rfl, if_neg moved.2] at heads
  exact absurd heads (by decide)

end Placed

/-- What a range of a buffer in a run of these operations is bounded by. -/
theorem plain_reached_inside {labels : List Label} {buffers : Nat → Buffer}
    (plain : ∀ label ∈ labels, label.Uses Plain)
    (reached : run BufferFamily.step BufferFamily.fresh labels = .ok buffers) (id : Nat) :
    kCheapPrepend ≤ (range (buffers id)).1 ∧ (range (buffers id)).1 ≤ (range (buffers id)).2 ∧
      (range (buffers id)).2 ≤ vectorMaxSize := by
  have wellFormed := plain_reached_wellFormed plain reached id
  exact ⟨wellFormed.prependable, wellFormed.ordered,
    Nat.le_trans wellFormed.inside wellFormed.sized⟩

/-- Placing a range takes plain operations only. -/
theorem placing_plain {id : Nat} {data : List Byte} {range : Nat × Nat} :
    ∀ label ∈ (placing data range).map (Label.on id), label.Uses Plain := by
  intro label member
  simp only [placing, List.map_cons, List.map_nil, List.mem_cons, List.not_mem_nil, or_false]
    at member
  rcases member with rfl | rfl | rfl | rfl <;> trivial

/-- At any two ranges that do not agree, two buffers of some run have one vector and read
differently.

Proof: both buffers store the same bytes, are drained and store a part of them again. -/
theorem told_apart {first second : Nat × Nat}
    (prependable : kCheapPrepend ≤ first.1) (ordered : first.1 ≤ first.2)
    (limited : first.2 ≤ vectorMaxSize)
    (otherPrependable : kCheapPrepend ≤ second.1) (otherOrdered : second.1 ≤ second.2)
    (otherLimited : second.2 ≤ vectorMaxSize) (apart : ¬ RangesAgree first second) :
    ∃ labels buffers, (∀ label ∈ labels, label.Uses Plain) ∧
      run BufferFamily.step BufferFamily.fresh labels = .ok buffers ∧
      range (buffers 0) = first ∧ range (buffers 1) = second ∧
      (buffers 0).equal (buffers 1) = true ∧ (buffers 0).content ≠ (buffers 1).content := by
  let size := max first.2 second.2 - kCheapPrepend
  have sum : kCheapPrepend + size = max first.2 second.2 := by omega
  have width : (marked size (first.1 - kCheapPrepend)).length = size := by
    rw [marked, List.length_set, List.length_replicate]
  obtain ⟨cells, stored, found, held, sized⟩ :=
    fresh_append (marked size (first.1 - kCheapPrepend)) (by rw [width]; omega)
  have reach := placing_reaches stored found held sized prependable ordered (by rw [width]; omega)
  have otherReach := placing_reaches stored found held sized otherPrependable otherOrdered
    (by rw [width]; omega)
  rw [width] at found held
  have untouched : Function.update BufferFamily.fresh 0 (⟨cells, first.1, first.2⟩ : Buffer) 1 =
      Buffer.fresh := Function.update_of_ne (by decide) _ _
  have placed := run_on 0 (show BufferFamily.fresh 0 = Buffer.fresh from rfl) reach
  have otherPlaced := run_on 1 untouched otherReach
  refine ⟨_, _, ?_, (run_append _ _ _ _ _).mpr ⟨_, placed, otherPlaced⟩, ?_⟩
  · intro label member
    rcases List.mem_append.mp member with here | here
    · exact placing_plain label here
    · exact placing_plain label here
  · rw [Function.update_self, Function.update_of_ne (by decide), Function.update_self]
    refine ⟨rfl, rfl, beq_iff_eq.mpr rfl, ?_⟩
    exact marked_told found held prependable ordered (by omega) otherPrependable otherOrdered
      (by omega) apart

/-- At the ranges of any two buffers of any run of these operations: equality implies the
same readable bytes, of every two buffers of every run that lie there, exactly when the
ranges agree.

Proof: ranges that agree are read the same over one vector; at ranges that do not, some
run leaves one vector in two buffers and lets them read differently. -/
theorem equality_respects_content_iff (labels : List Label) (buffers : Nat → Buffer)
    (plain : ∀ label ∈ labels, label.Uses Plain)
    (reached : run BufferFamily.step BufferFamily.fresh labels = .ok buffers) (a b : Nat) :
    (∀ labels' buffers', (∀ label ∈ labels', label.Uses Plain) →
        run BufferFamily.step BufferFamily.fresh labels' = .ok buffers' → ∀ a' b',
        range (buffers' a') = range (buffers a) → range (buffers' b') = range (buffers b) →
        (buffers' a').equal (buffers' b') = true →
        (buffers' a').content = (buffers' b').content) ↔
      RangesAgree (range (buffers a)) (range (buffers b)) := by
  obtain ⟨prependable, ordered, limited⟩ := plain_reached_inside plain reached a
  obtain ⟨otherPrependable, otherOrdered, otherLimited⟩ := plain_reached_inside plain reached b
  constructor
  · intro respected
    by_contra apart
    obtain ⟨labels', buffers', allowed, returned, first, second, equal, different⟩ :=
      told_apart prependable ordered limited otherPrependable otherOrdered otherLimited apart
    exact different (respected labels' buffers' allowed returned 0 1 first second equal)
  · intro agree labels' buffers' _ _ a' b' first second equal
    rw [← first, ← second] at agree
    exact content_of_rangesAgree agree (beq_iff_eq.mp equal)

/-- Three bytes in the first buffer and in the second, which is then exchanged with the
third. -/
def swapped : List Label :=
  [.on 0 (.layout (.queue (.append [97, 97, 97]))),
    .on 1 (.layout (.queue (.append [97, 97, 97]))), .swap 2 1]

/-- All three operations are plain. -/
theorem swapped_plain : ∀ label ∈ swapped, label.Uses Plain := by
  intro label member
  simp only [swapped, List.mem_cons, List.not_mem_nil, or_false] at member
  rcases member with rfl | rfl | rfl <;> trivial

/-- The repository's own comparison of a filled buffer with an exchanged one. -/
theorem equality_respects_content_swapped :
    ∃ buffers, run BufferFamily.step BufferFamily.fresh swapped = .ok buffers ∧
      (buffers 0).equal (buffers 2) = true ∧ (buffers 0).content = (buffers 2).content := by
  have computed : (run BufferFamily.step BufferFamily.fresh swapped).map (fun buffers =>
      ((buffers 0).equal (buffers 2), range (buffers 0), range (buffers 2))) =
      .ok (true, (8, 11), (8, 11)) := by
    decide +kernel
  obtain ⟨buffers, reached, computed⟩ := (map_returned _ _ _).mp computed
  simp only [Prod.mk.injEq] at computed
  obtain ⟨equal, first, second⟩ := computed
  refine ⟨buffers, reached, equal, ?_⟩
  refine (equality_respects_content_iff swapped buffers swapped_plain reached 0 2).mpr ?_ swapped
    buffers swapped_plain reached 0 2 rfl rfl equal
  rw [first, second]
  exact Or.inl rfl

/-- The same bytes in two buffers, of which the second is drained. -/
def drained : List Label :=
  [.on 0 (.layout (.queue (.append [97, 97, 97]))),
    .on 1 (.layout (.queue (.append [97, 97, 97]))), .on 1 (.layout (.queue .retrieveAll))]

/-- Its operations are plain. -/
theorem drained_plain : ∀ label ∈ drained, label.Uses Plain := by
  intro label member
  simp only [drained, List.mem_cons, List.not_mem_nil, or_false] at member
  rcases member with rfl | rfl | rfl <;> trivial

/-- A filled buffer equals a drained one. -/
theorem drained_equals_filled :
    ∃ buffers, run BufferFamily.step BufferFamily.fresh drained = .ok buffers ∧
      (∀ label ∈ drained, label.Uses Plain) ∧ (buffers 0).equal (buffers 1) = true ∧
      (buffers 0).content = [97, 97, 97] ∧ (buffers 1).content = [] := by
  have computed : (run BufferFamily.step BufferFamily.fresh drained).map (fun buffers =>
      ((buffers 0).equal (buffers 1), (buffers 0).content, (buffers 1).content)) =
      .ok (true, [97, 97, 97], []) := by decide +kernel
  obtain ⟨buffers, reached, computed⟩ := (map_returned _ _ _).mp computed
  simp only [Prod.mk.injEq] at computed
  exact ⟨buffers, reached, drained_plain, computed⟩

end ReactorNetwork.BufferEquality
