import ReactorNetwork.BufferQueue

/-!
# Prepending and shrinking

Two operations of `Buffer` depend on where the readable bytes lie and not only on
what they are. `prepend` is to put bytes in front of the readable ones, in the space
the reader index leaves; `shrink` is to copy the readable bytes to a new vector with
a given reserve behind them. The first computes its destination from both indices,
the second leaves the indices of the old vector in place.

The laws here hold of every buffer that the operations can produce, in any order and
with any sizes, earlier prepends included. A size that wraps around may leave the
writer index outside the vector, so only the order of the indices and the bounds of
their types are assumed. A failed assertion, an exception and a write outside the
vector end a run.
-/

namespace ReactorNetwork.BufferLayout

open Buffer CellStore Runs

/-- An operation of the queue, or a `prepend`. -/
inductive Op where
  | queue (op : BufferQueue.Op)
  | prepend (data : List Byte) (len : Nat)
deriving DecidableEq, Repr

/-- One operation, without what it returns. -/
def step (b : Buffer) : Op → Outcome Buffer
  | .queue op => do
      let (after, _) ← BufferQueue.perform b op
      pure after
  | .prepend data len => b.prepend data len

/-- The indices are in order, and both they and the vector are within the bounds of
their types. -/
structure Ordered (b : Buffer) : Prop where
  ordered : b.readerIndex ≤ b.writerIndex
  ranged : b.writerIndex < sizeLimit
  sized : b.buffer.length ≤ vectorMaxSize

section Operations

variable {b after : Buffer}

/-- The indices of a fresh buffer are in order. -/
theorem fresh_ordered : Ordered fresh where
  ordered := Nat.le_refl _
  ranged := by decide
  sized := fresh_wellFormed.sized

/-- With the indices in order the number of readable bytes is their difference. -/
theorem Ordered.readable (ordered : Ordered b) :
    b.readableBytes = b.writerIndex - b.readerIndex :=
  sizeSub_exact _ _ ordered.ordered ordered.ranged

/-- The reader index moves at most to the writer index. -/
theorem retrieved_ordered {len : Nat} (ordered : Ordered b) (present : len ≤ b.readableBytes) :
    Ordered { b with readerIndex := sizeAdd b.readerIndex len } := by
  have inOrder := ordered.ordered
  have ranged := ordered.ranged
  rw [ordered.readable] at present
  have stop : sizeAdd b.readerIndex len = b.readerIndex + len := sizeAdd_exact _ _ (by omega)
  exact ⟨by simp only [stop]; omega, ranged, ordered.sized⟩

/-- Both indices go back to the cheap prepend. -/
theorem retrieveAll_ordered (ordered : Ordered b) : Ordered b.retrieveAll where
  ordered := Nat.le_refl _
  ranged := by
    simp only [retrieveAll]
    decide
  sized := ordered.sized

/-- Growing resizes the vector or moves the content to its front, within the bounds. -/
theorem ensureWriteableBytes_ordered {len : Nat} (ordered : Ordered b)
    (returned : b.ensureWriteableBytes len = .ok after) : Ordered after := by
  have inOrder := ordered.ordered
  have ranged := ordered.ranged
  cases (ensured returned).1 with
  | enough room => exact ordered
  | grown short scarce cells resized =>
    obtain ⟨size, allowed⟩ := resize_length resized
    exact ⟨inOrder, ranged, le_of_eq_of_le size allowed⟩
  | moved short spare reclaimable cells copied =>
    have stop : sizeAdd kCheapPrepend b.readableBytes = kCheapPrepend + b.readableBytes := by
      refine sizeAdd_exact _ _ ?_
      rw [ordered.readable]
      omega
    refine ⟨?_, ?_, ?_⟩
    · simp only [stop]
      omega
    · simp only [stop]
      rw [ordered.readable]
      omega
    · simp only [copyRange_length copied]
      exact ordered.sized

/-- A write at the writer index that stays inside the vector moves the index by its
length. -/
theorem written_ordered {data written : List Byte} (ordered : Ordered b)
    (stored : store b.buffer b.beginWrite data = some written) :
    Ordered ({ b with buffer := written }.hasWritten data.length) := by
  have inOrder := ordered.ordered
  have ranged := ordered.ranged
  have sized := ordered.sized
  obtain ⟨width, room⟩ := store_inside stored
  have stop : sizeAdd b.writerIndex data.length = b.writerIndex + data.length ∧
      b.writerIndex + data.length < sizeLimit := by
    rcases room with rfl | fits
    · exact ⟨sizeAdd_exact _ _ ranged, ranged⟩
    · have below : b.writerIndex + data.length < sizeLimit := by
        unfold beginWrite at fits
        unfold vectorMaxSize at sized
        unfold sizeLimit
        omega
      exact ⟨sizeAdd_exact _ _ below, below⟩
  refine ⟨?_, ?_, ?_⟩
  · simp only [hasWritten, stop.1]
    omega
  · simp only [hasWritten, stop.1]
    exact stop.2
  · simp only [hasWritten, width]
    exact sized

/-- Appending moves the writer index behind what was written. -/
theorem append_ordered {str : List Byte} (ordered : Ordered b)
    (returned : b.append str = .ok after) : Ordered after := by
  obtain ⟨spacious, written, made, stored, rfl⟩ := append_done returned
  exact written_ordered (ensureWriteableBytes_ordered ordered made) stored

/-- So does appending a part of an array. -/
theorem appendBytes_ordered {data : List Byte} {len : Nat} (ordered : Ordered b)
    (returned : b.appendBytes data len = .ok after) : Ordered after := by
  obtain ⟨spacious, source, written, made, _, stored, rfl⟩ := appendBytes_done returned
  exact written_ordered (ensureWriteableBytes_ordered ordered made) stored

/-- A receive that spills had its writer index inside the vector: what fits was stored
there, or the writable tail was empty. -/
theorem spilled_inside {data filled : List Byte} (ordered : Ordered b)
    (stored : store b.buffer b.beginWrite (data.take b.writableBytes) = some filled)
    (long : ¬ data.length ≤ b.writableBytes) : b.writerIndex ≤ b.buffer.length := by
  have ranged := ordered.ranged
  have sized := ordered.sized
  rcases (store_inside stored).2 with none | fits
  · -- the writable tail is empty, so the writer index is the size
    have full : b.writableBytes = 0 := by
      have length := congrArg List.length none
      rw [List.length_take, List.length_nil] at length
      omega
    unfold writableBytes sizeSub at full
    unfold vectorMaxSize at sized
    unfold sizeLimit at full ranged
    omega
  · unfold beginWrite at fits
    omega

/-- `readv` stores inside the vector, or nothing; a spill leaves the writer index at
the end of the vector. -/
theorem readFd_ordered {data : List Byte} {n : Except Nat Nat} (ordered : Ordered b)
    (returned : b.readFd (.received data) = .ok (after, n)) : Ordered after := by
  cases received returned with
  | fitted short filled stored => exact written_ordered ordered stored
  | spilled long filled stored after appended =>
    have inOrder := ordered.ordered
    have sized := ordered.sized
    have limit : vectorMaxSize < sizeLimit := by decide
    have width : filled.length = b.buffer.length := (store_inside stored).1
    have inside : b.writerIndex ≤ b.buffer.length := spilled_inside ordered stored long
    refine appendBytes_ordered ⟨?_, ?_, ?_⟩ appended
    all_goals
      simp only [width]
      omega

/-- A prepend moves the reader index towards the front. -/
theorem prepend_ordered {data : List Byte} {len : Nat} (ordered : Ordered b)
    (returned : b.prepend data len = .ok after) : Ordered after := by
  obtain ⟨present, continued⟩ := (require_bind_ok _ _ _).mp returned
  obtain ⟨source, _, rest⟩ := (bind_ok _ _ _).mp continued
  obtain ⟨written, stored, same⟩ := (bind_ok _ _ _).mp rest
  obtain rfl := (pure_ok _ _).mp same
  have inOrder := ordered.ordered
  have ranged := ordered.ranged
  have present : len ≤ b.readerIndex := present
  have start : sizeSub b.readerIndex len = b.readerIndex - len :=
    sizeSub_exact _ _ present (by omega)
  refine ⟨?_, ranged, ?_⟩
  · simp only [start]
    omega
  · simp only [(store_inside ((accessed_ok _ _).mp stored)).1]
    exact ordered.sized

/-- Every operation of the queue keeps the indices in order. -/
theorem perform_ordered {op : BufferQueue.Op} {reply : BufferQueue.Reply} (ordered : Ordered b)
    (returned : BufferQueue.perform b op = .ok (after, reply)) : Ordered after := by
  cases BufferQueue.performed returned with
  | append str after done => exact append_ordered ordered done
  | appendBytes data len after done => exact appendBytes_ordered ordered done
  | ensureWriteableBytes len after done => exact ensureWriteableBytes_ordered ordered done
  | retrieve len present => exact retrieved_ordered ordered present
  | retrieveUntil stop lower upper present => exact retrieved_ordered ordered present
  | retrieveAll | retrieveAsString => exact retrieveAll_ordered ordered
  | failed errno => exact ordered
  | received data after n done => exact readFd_ordered ordered done

/-- Whatever an operation is asked for, it returns with the indices in order. -/
theorem step_ordered {op : Op} (ordered : Ordered b) (returned : step b op = .ok after) :
    Ordered after := by
  cases op with
  | queue op =>
    obtain ⟨⟨result, reply⟩, performed, same⟩ := (bind_ok _ _ _).mp returned
    obtain rfl := (pure_ok _ _).mp same
    exact perform_ordered ordered performed
  | prepend data len => exact prepend_ordered ordered returned

/-- They are in order after every sequence of operations that returns. -/
theorem reached_ordered {ops : List Op} (reached : run step fresh ops = .ok b) : Ordered b :=
  invariant step Ordered (fun _ _ _ ordered returned => step_ordered ordered returned) ops fresh b
    fresh_ordered reached

end Operations

section Shrink

variable {b : Buffer}

/-- `shrink` keeps the readable bytes and leaves exactly the reserve behind them and
the cheap prepend in front, with the indices in order inside the vector. -/
def ShrinksTo (b : Buffer) (reserve : Nat) : Prop :=
  ∃ shrunk, b.shrink reserve = .ok shrunk ∧ shrunk.content = b.content ∧
    shrunk.writableBytes = reserve ∧ shrunk.prependableBytes = kCheapPrepend ∧
    shrunk.readerIndex ≤ shrunk.writerIndex ∧ shrunk.writerIndex ≤ shrunk.buffer.length

/-- What `shrink` reads from the old vector is the content. -/
theorem shrink_reads (ordered : Ordered b) (inside : b.writerIndex ≤ b.buffer.length) :
    load b.buffer b.peek b.readableBytes = some b.content := by
  have inOrder := ordered.ordered
  have stop : b.peek + b.readableBytes = b.writerIndex := by
    rw [ordered.readable]
    unfold peek
    omega
  rw [load, stop, if_pos inside]
  rfl

/-- The new vector has the size asked for, and the indices are the old ones. -/
theorem shrink_kept {reserve : Nat} {shrunk : Buffer} (returned : b.shrink reserve = .ok shrunk) :
    shrunk.readerIndex = b.readerIndex ∧ shrunk.writerIndex = b.writerIndex ∧
      b.peek + b.readableBytes ≤ b.buffer.length ∧
      shrunk.buffer.length = sizeAdd (sizeAdd kCheapPrepend b.readableBytes) reserve ∧
      shrunk.buffer.length ≤ vectorMaxSize := by
  obtain ⟨buf, made, continued⟩ := (bind_ok _ _ _).mp returned
  obtain ⟨readable, loaded, rest⟩ := (bind_ok _ _ _).mp continued
  obtain ⟨copied, stored, same⟩ := (bind_ok _ _ _).mp rest
  obtain rfl := (pure_ok _ _).mp same
  have loaded := (accessed_ok _ _).mp loaded
  have width := (store_inside ((accessed_ok _ _).mp stored)).1
  obtain ⟨size, allowed⟩ := resize_length made
  refine ⟨rfl, rfl, load_inside loaded, width.trans size, ?_⟩
  exact le_of_eq_of_le (width.trans size) allowed

/-- A buffer whose readable bytes start at the cheap prepend is shrunk as it should
be. -/
theorem shrinksTo_of_front (ordered : Ordered b) (front : b.readerIndex = kCheapPrepend)
    (inside : b.writerIndex ≤ b.buffer.length) {reserve : Nat}
    (fits : kCheapPrepend + b.readableBytes + reserve ≤ vectorMaxSize) : ShrinksTo b reserve := by
  have inOrder := ordered.ordered
  have readable := ordered.readable
  have width : b.content.length = b.readableBytes := by
    rw [content, slice_length _ _ _ inside, readable]
  have limit : vectorMaxSize < sizeLimit := by decide
  have total : sizeAdd (sizeAdd kCheapPrepend b.readableBytes) reserve =
      kCheapPrepend + b.readableBytes + reserve := by
    rw [sizeAdd_exact kCheapPrepend _ (by omega), sizeAdd_exact _ _ (by omega)]
  have made : resize (0 : Byte) [] (kCheapPrepend + b.readableBytes + reserve) =
      .ok (List.replicate (kCheapPrepend + b.readableBytes + reserve) 0) := by
    rw [resize_grow _ _ _ (Nat.zero_le _) fits]
    rfl
  generalize cells : List.replicate (kCheapPrepend + b.readableBytes + reserve) (0 : Byte) = buf at made
  have size : buf.length = kCheapPrepend + b.readableBytes + reserve := by
    rw [← cells, List.length_replicate]
  have room : kCheapPrepend + b.content.length ≤ buf.length := by omega
  have returned : b.shrink reserve = .ok { b with buffer := splice buf kCheapPrepend b.content } := by
    unfold shrink
    rw [total, made]
    simp only [bind, Except.bind, shrink_reads ordered inside, accessed,
      store_exact buf kCheapPrepend b.content room]
    rfl
  have spliced : (splice buf kCheapPrepend b.content).length = buf.length :=
    splice_length _ _ _ room
  have stop : b.writerIndex = kCheapPrepend + b.content.length := by omega
  refine ⟨_, returned, ?_, ?_, front, inOrder, ?_⟩
  · have kept := slice_splice buf kCheapPrepend kCheapPrepend b.content (Nat.le_refl _) room
    rw [slice_same, List.nil_append, ← stop] at kept
    change slice _ b.readerIndex b.writerIndex = b.content
    rw [front]
    exact kept
  · unfold writableBytes
    simp only [spliced]
    rw [sizeSub_exact _ _ (by omega) (by omega)]
    omega
  · simp only [spliced]
    omega

/-- Of every buffer the operations can produce, `shrink` makes what it should exactly
when the readable bytes start at the cheap prepend, lie inside the vector, and fit a
vector together with the reserve.

Proof: the indices are those of the old vector, so the prependable size is the reader
index. If that is the cheap prepend, the new size is the writer index plus the reserve
unless the sum wraps around, and then the writer index is outside. -/
theorem shrink_exact_iff (ops : List Op) (b : Buffer) (reached : run step fresh ops = .ok b)
    (reserve : Nat) :
    ShrinksTo b reserve ↔ b.readerIndex = kCheapPrepend ∧ b.writerIndex ≤ b.buffer.length ∧
      kCheapPrepend + b.readableBytes + reserve ≤ vectorMaxSize := by
  have ordered := reached_ordered reached
  have inOrder := ordered.ordered
  have readable := ordered.readable
  have ranged := ordered.ranged
  constructor
  · rintro ⟨shrunk, returned, _, writable, prependable, _, inside⟩
    obtain ⟨sameReader, sameWriter, read, size, sized⟩ := shrink_kept returned
    have front : b.readerIndex = kCheapPrepend := sameReader.symm.trans prependable
    unfold peek at read
    have limit : vectorMaxSize < sizeLimit := by decide
    unfold writableBytes at writable
    rw [sizeSub_exact _ _ inside (by omega)] at writable
    exact ⟨front, by omega, by omega⟩
  · rintro ⟨front, inside, fits⟩
    exact shrinksTo_of_front ordered front inside fits

/-- Two bytes, not yet retrieved. -/
def filled : List Op := [.queue (.append [1, 2])]

/-- Nothing was retrieved, so the shrunk buffer has the reserve asked for. -/
theorem shrink_exact_filled :
    ∃ b, run step fresh filled = .ok b ∧ b.content = [1, 2] ∧ ShrinksTo b 40 := by
  have computed : (run step fresh filled).map (fun b =>
      (b.content, b.readerIndex, b.writerIndex, b.buffer.length)) = .ok ([1, 2], 8, 10, 1032) := by
    decide +kernel
  obtain ⟨b, reached, computed⟩ := (map_returned _ _ _).mp computed
  simp only [Prod.mk.injEq] at computed
  obtain ⟨content, reader, writer, size⟩ := computed
  refine ⟨b, reached, content, (shrink_exact_iff filled b reached 40).mpr ⟨reader, ?_, ?_⟩⟩
  · omega
  · rw [readableBytes, reader, writer]
    decide

/-- A buffer of which one byte was retrieved is left with its writer index outside the
new vector. -/
theorem shrink_after_retrieve :
    ∃ b, run step fresh (filled ++ [.queue (.retrieve 1)]) = .ok b ∧ b.content = [2] ∧
      (∃ shrunk, b.shrink 0 = .ok shrunk ∧ shrunk.buffer.length < shrunk.writerIndex ∧
        shrunk.prependableBytes = 9) ∧ ¬ ShrinksTo b 0 := by
  have computed : (run step fresh (filled ++ [.queue (.retrieve 1)])).map (fun b =>
      (b.content, (b.shrink 0).map fun shrunk =>
        (shrunk.buffer.length, shrunk.writerIndex, shrunk.prependableBytes))) =
      .ok ([2], .ok (9, 10, 9)) := by decide +kernel
  obtain ⟨b, reached, computed⟩ := (map_returned _ _ _).mp computed
  simp only [Prod.mk.injEq] at computed
  obtain ⟨content, computed⟩ := computed
  obtain ⟨shrunk, returned, computed⟩ := (map_returned _ _ _).mp computed
  simp only [Prod.mk.injEq] at computed
  obtain ⟨size, writer, prependable⟩ := computed
  refine ⟨b, reached, content, ⟨shrunk, returned, by omega, prependable⟩, ?_⟩
  rintro ⟨other, again, _, _, expected, _⟩
  rw [Except.ok.inj (again.symm.trans returned), prependable] at expected
  exact absurd expected (by decide)

end Shrink

section Prepend

variable {b : Buffer}

/-- `prepend` puts the bytes in front of the readable ones, writes inside the vector
only and leaves the writable size as it is. -/
def PrependsTo (b : Buffer) (data : List Byte) : Prop :=
  ∃ after, b.prepend data data.length = .ok after ∧ after.content = data ++ b.content ∧
    after.writableBytes = b.writableBytes

/-- What `prepend` does: the reader index moves back and the bytes go to the sum of the
two indices. -/
theorem prepend_eq {data : List Byte} (ordered : Ordered b)
    (present : data.length ≤ b.prependableBytes) :
    b.prepend data data.length = (accessed (store b.buffer
      (b.writerIndex + (b.readerIndex - data.length)) data)).map fun written =>
        { b with buffer := written, readerIndex := b.readerIndex - data.length } := by
  have inOrder := ordered.ordered
  have ranged := ordered.ranged
  have start : sizeSub b.readerIndex data.length = b.readerIndex - data.length :=
    sizeSub_exact _ _ present (by omega)
  unfold prepend
  rw [require_passed present, accessed_found (load_whole data), start]
  simp only [beginWrite]
  cases store b.buffer (b.writerIndex + (b.readerIndex - data.length)) data <;> rfl

/-- A write behind the readable bytes shows what was in front of them before. -/
theorem prepend_content {data : List Byte} (ordered : Ordered b)
    (present : data.length ≤ b.readerIndex) (inside : b.readerIndex + b.writerIndex ≤ b.buffer.length) :
    slice (splice b.buffer (b.writerIndex + (b.readerIndex - data.length)) data)
        (b.readerIndex - data.length) b.writerIndex =
      slice b.buffer (b.readerIndex - data.length) b.readerIndex ++ b.content := by
  have inOrder := ordered.ordered
  rw [slice_splice_below _ _ _ _ _ (by omega) (by omega),
    slice_append _ _ b.readerIndex _ (by omega) inOrder]
  rfl

/-- Of every buffer the operations can produce, `prepend` puts bytes in front exactly
when there are none, or when these very bytes are there already and the sum of the two
indices is inside the vector.

Proof: the destination lies behind the readable bytes, since the writer index is added to
it. Hence the bytes that become readable are the old ones, and the write is inside the
vector exactly when its end is. -/
theorem prepend_exact_iff (ops : List Op) (b : Buffer) (reached : run step fresh ops = .ok b)
    (data : List Byte) (present : data.length ≤ b.prependableBytes) :
    PrependsTo b data ↔ data = [] ∨
      slice b.buffer (b.readerIndex - data.length) b.readerIndex = data ∧
        b.readerIndex + b.writerIndex ≤ b.buffer.length := by
  have ordered := reached_ordered reached
  have inOrder := ordered.ordered
  have present' : data.length ≤ b.readerIndex := present
  have returned := prepend_eq ordered present
  constructor
  · rintro ⟨after, prepended, content_, _⟩
    by_cases empty : data = []
    · exact Or.inl empty
    · right
      rw [returned] at prepended
      obtain ⟨written, stored, same⟩ := (map_returned _ _ _).mp prepended
      have stored := (accessed_ok _ _).mp stored
      have room := (store_inside stored).2.resolve_left empty
      rw [store_exact _ _ _ room] at stored
      obtain rfl := Option.some.inj stored
      have inside : b.readerIndex + b.writerIndex ≤ b.buffer.length := by omega
      refine ⟨?_, inside⟩
      rw [← same] at content_
      have shown := (prepend_content ordered present' inside).symm.trans content_
      exact List.append_cancel_right shown
  · rintro (rfl | ⟨already, inside⟩)
    · refine ⟨b, ?_, rfl, rfl⟩
      rw [returned]
      rfl
    · have room : b.writerIndex + (b.readerIndex - data.length) + data.length ≤ b.buffer.length := by
        omega
      rw [store_exact _ _ _ room] at returned
      refine ⟨_, returned, ?_, ?_⟩
      · have shown := prepend_content ordered present' inside
        rw [already] at shown
        exact shown
      · unfold writableBytes
        simp only [splice_length _ _ _ room]

/-- Two bytes, appended and retrieved. -/
def drained : List Op := [.queue (.append [1, 2]), .queue (.retrieve 2)]

/-- The two bytes are already in front, left from before, where the prepend moves the
reader index. -/
theorem prepend_exact_drained :
    ∃ b, run step fresh drained = .ok b ∧ [1, 2].length ≤ b.prependableBytes ∧
      PrependsTo b [1, 2] := by
  have computed : (run step fresh drained).map (fun b =>
      (slice b.buffer 8 10, b.readerIndex, b.writerIndex, b.buffer.length)) =
      .ok ([1, 2], 10, 10, 1032) := by decide +kernel
  obtain ⟨b, reached, computed⟩ := (map_returned _ _ _).mp computed
  simp only [Prod.mk.injEq] at computed
  obtain ⟨stale, reader, writer, size⟩ := computed
  have present : [(1 : Byte), 2].length ≤ b.prependableBytes := by
    rw [prependableBytes, reader]
    decide
  refine ⟨b, reached, present, (prepend_exact_iff drained b reached [1, 2] present).mpr (Or.inr ⟨?_, ?_⟩)⟩
  · rw [reader]
    exact stale
  · omega

/-- A byte put in front of a fresh buffer is not the byte that is then readable. -/
theorem prepend_to_fresh :
    run step fresh [] = .ok fresh ∧ [1].length ≤ fresh.prependableBytes ∧
      (fresh.prepend [1] 1).map content = .ok [0] ∧ ¬ PrependsTo fresh [1] := by
  have computed : (fresh.prepend [1] 1).map content = .ok [0] := by decide +kernel
  refine ⟨rfl, by decide, computed, ?_⟩
  rintro ⟨after, returned, expected, _⟩
  obtain ⟨other, again, shown⟩ := (map_returned _ _ _).mp computed
  rw [Except.ok.inj (again.symm.trans returned), expected, fresh_content] at shown
  exact absurd shown (by decide)

end Prepend

end ReactorNetwork.BufferLayout
