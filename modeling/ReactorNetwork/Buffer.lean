import ReactorNetwork.Machine

/-!
# The growable byte buffer

`Buffer` keeps one vector and two indices. The bytes below the reader index are
prependable, those between the indices readable, those above writable. Space is
made by growing the vector or by copying the readable bytes to the front, chosen
from all three sizes; that copy overlaps its source and is modelled cell by
cell. Sizes are `size_t` values; pointers into the vector are offsets from its
beginning. `readv` is an environment choice: an error, or the bytes it scatters
over the writable tail and the stack array behind it.

Each operation has one law. It assumes a well-formed buffer and an append
that does not wrap `size_t`, and concludes that no assertion fails, no access
leaves the vector, and the readable bytes change as a queue's would. The only
other outcome is the vector's own refusal to exceed its maximal size.
-/

namespace ReactorNetwork

open CellStore

/-- A byte of the buffer, a `char` in the source. -/
abbrev Byte := UInt8

/-- A buffer: its vector and the two indices. -/
structure Buffer where
  buffer : List Byte
  readerIndex : Nat
  writerIndex : Nat
deriving DecidableEq, Repr

/-- What one `readv` call did: it failed with an `errno`, or it stored bytes. -/
inductive ReadvResult where
  | failed (errno : Nat)
  | received (data : List Byte)
deriving DecidableEq, Repr

namespace Buffer

/-- The bytes kept free in front of the content of a fresh buffer. -/
def kCheapPrepend : Nat := 8

/-- The bytes that a fresh buffer can be written. -/
def kInitialSize : Nat := 1024

/-- The size of the stack array behind the writable tail in `read_fd`. -/
def extraBuffSize : Nat := 65536

/-- The default constructor. -/
def fresh : Buffer where
  buffer := List.replicate (kCheapPrepend + kInitialSize) 0
  readerIndex := kCheapPrepend
  writerIndex := kCheapPrepend

/-- The two buffers after the exchange of their members. -/
def swap (b rhs : Buffer) : Buffer × Buffer :=
  (⟨rhs.buffer, rhs.readerIndex, rhs.writerIndex⟩, ⟨b.buffer, b.readerIndex, b.writerIndex⟩)

/-- `operator==` compares the vectors. -/
def equal (a b : Buffer) : Bool := a.buffer == b.buffer

/-- `readable_bytes`, a difference of two `size_t`. -/
def readableBytes (b : Buffer) : Nat := sizeSub b.writerIndex b.readerIndex

/-- `writable_bytes`, likewise. -/
def writableBytes (b : Buffer) : Nat := sizeSub b.buffer.length b.writerIndex

/-- `prependable_bytes`. -/
def prependableBytes (b : Buffer) : Nat := b.readerIndex

/-- The offset of the first readable byte. -/
def peek (b : Buffer) : Nat := b.readerIndex

/-- The offset of the first writable byte. -/
def beginWrite (b : Buffer) : Nat := b.writerIndex

/-- `retrieve`, which asserts that so many bytes are readable. -/
def retrieve (b : Buffer) (len : Nat) : Outcome Buffer := do
  require (len ≤ b.readableBytes)
  pure { b with readerIndex := sizeAdd b.readerIndex len }

/-- The end pointer is an offset into the vector. -/
def retrieveUntil (b : Buffer) (stop : Nat) : Outcome Buffer := do
  require (b.peek ≤ stop)
  require (stop ≤ b.beginWrite)
  b.retrieve (sizeSub stop b.peek)

/-- `retrieve_all`: both indices return to the cheap prepend. -/
def retrieveAll (b : Buffer) : Buffer :=
  { b with readerIndex := kCheapPrepend, writerIndex := kCheapPrepend }

/-- `retrieve_as_string`: the readable bytes are copied out before the indices
return. -/
def retrieveAsString (b : Buffer) : Outcome (Buffer × List Byte) := do
  let str ← accessed (load b.buffer b.peek b.readableBytes)
  pure (b.retrieveAll, str)

/-- `has_written`, which asserts nothing. -/
def hasWritten (b : Buffer) (len : Nat) : Buffer :=
  { b with writerIndex := sizeAdd b.writerIndex len }

/-- The growing branch of `make_space`. -/
def growSpace (b : Buffer) (len : Nat) : Outcome Buffer := do
  let grown ← resize 0 b.buffer (sizeAdd len b.writerIndex)
  pure { b with buffer := grown }

/-- The other branch of `make_space`: move readable data to the front, make
space inside the vector. -/
def moveToFront (b : Buffer) : Outcome Buffer := do
  require (kCheapPrepend < b.readerIndex)
  let moved ← accessed (copyRange b.buffer b.readerIndex b.writerIndex kCheapPrepend)
  let compacted : Buffer := ⟨moved, kCheapPrepend, sizeAdd kCheapPrepend b.readableBytes⟩
  require (b.readableBytes = compacted.readableBytes)
  pure compacted

/-- `make_space`: the vector grows, or the content moves to its front. -/
def makeSpace (b : Buffer) (len : Nat) : Outcome Buffer :=
  if sizeAdd b.writableBytes b.prependableBytes < sizeAdd len kCheapPrepend then
    b.growSpace len
  else
    b.moveToFront

/-- `ensure_writeable_bytes`. -/
def ensureWriteableBytes (b : Buffer) (len : Nat) : Outcome Buffer := do
  let spacious ← (if b.writableBytes < len then b.makeSpace len else .ok b)
  require (len ≤ spacious.writableBytes)
  pure spacious

/-- `append(std::string_view)`. The bytes are values: the argument is taken not to view
the buffer's own storage, which the growth in front of the copy may free. -/
def append (b : Buffer) (str : List Byte) : Outcome Buffer := do
  let spacious ← b.ensureWriteableBytes str.length
  let written ← accessed (store spacious.buffer spacious.beginWrite str)
  pure ({ spacious with buffer := written }.hasWritten str.length)

/-- `append(const void*, size_t)`: `data` is the memory behind the pointer, outside the
buffer's own storage. -/
def appendBytes (b : Buffer) (data : List Byte) (len : Nat) : Outcome Buffer := do
  let spacious ← b.ensureWriteableBytes len
  let source ← accessed (load data 0 len)
  let written ← accessed (store spacious.buffer spacious.beginWrite source)
  pure ({ spacious with buffer := written }.hasWritten len)

/-- The bytes are copied to `begin_write() + reader_index_`. -/
def prepend (b : Buffer) (data : List Byte) (len : Nat) : Outcome Buffer := do
  require (len ≤ b.prependableBytes)
  let moved : Buffer := { b with readerIndex := sizeSub b.readerIndex len }
  let source ← accessed (load data 0 len)
  let written ← accessed (store moved.buffer (moved.beginWrite + moved.readerIndex) source)
  pure { moved with buffer := written }

/-- A new vector takes the place of the old one; the indices stay. -/
def shrink (b : Buffer) (reserve : Nat) : Outcome Buffer := do
  let buf ← resize 0 [] (sizeAdd (sizeAdd kCheapPrepend b.readableBytes) reserve)
  let readable ← accessed (load b.buffer b.peek b.readableBytes)
  let copied ← accessed (store buf kCheapPrepend readable)
  pure { b with buffer := copied }

/-- `read_fd` with the result of its `readv`. The kernel fills the writable
tail first and the stack array with the rest. An `errno` is reported for `-1`. -/
def readFd (b : Buffer) : ReadvResult → Outcome (Buffer × Except Nat Nat)
  | .failed errno => pure (b, .error errno)
  | .received data => do
      let writable := b.writableBytes
      let filled ← accessed (store b.buffer b.beginWrite (data.take writable))
      let scattered : Buffer := { b with buffer := filled }
      let n := data.length
      if n ≤ writable then
        pure ({ scattered with writerIndex := sizeAdd scattered.writerIndex n }, .ok n)
      else do
        let full := { scattered with writerIndex := scattered.buffer.length }
        let appended ← full.appendBytes (data.drop writable) (sizeSub n writable)
        pure (appended, .ok n)

/-- The readable bytes, those of `[reader_index_, writer_index_)`. -/
def content (b : Buffer) : List Byte := slice b.buffer b.readerIndex b.writerIndex

/-- The order of the indices. The last field is the vector's own bound; it keeps
sums of two sizes below the `size_t` limit. -/
structure WellFormed (b : Buffer) : Prop where
  prependable : kCheapPrepend ≤ b.readerIndex
  ordered : b.readerIndex ≤ b.writerIndex
  inside : b.writerIndex ≤ b.buffer.length
  sized : b.buffer.length ≤ vectorMaxSize

/-- A fresh buffer has both indices at the cheap prepend. -/
theorem fresh_wellFormed : fresh.WellFormed where
  prependable := Nat.le_refl _
  ordered := Nat.le_refl _
  inside := by simp [fresh]
  sized := by
    simp only [fresh, List.length_replicate]
    decide

/-- It holds nothing. -/
theorem fresh_content : fresh.content = [] := slice_same _ _

variable {b : Buffer}

/-- On a well-formed buffer the subtraction of the indices does not wrap. -/
theorem readableBytes_exact (wellFormed : b.WellFormed) :
    b.readableBytes = b.writerIndex - b.readerIndex := by
  have inside := wellFormed.inside
  have sized := wellFormed.sized
  exact sizeSub_exact _ _ wellFormed.ordered (by unfold vectorMaxSize sizeLimit at *; omega)

/-- Nor does that of the writer index from the size. -/
theorem writableBytes_exact (wellFormed : b.WellFormed) :
    b.writableBytes = b.buffer.length - b.writerIndex := by
  have sized := wellFormed.sized
  exact sizeSub_exact _ _ wellFormed.inside (by unfold vectorMaxSize sizeLimit at *; omega)

/-- The readable bytes are as many as `readable_bytes` says. -/
theorem content_length (wellFormed : b.WellFormed) : b.content.length = b.readableBytes := by
  rw [content, slice_length _ _ _ wellFormed.inside, readableBytes_exact wellFormed]

/-- Growing sets the end of the vector exactly at the requested end. -/
theorem growSpace_extends (inside : b.writerIndex ≤ b.buffer.length) (len : Nat)
    (short : b.buffer.length - b.writerIndex < len) (fits : b.writerIndex + len < sizeLimit) :
    Returns (b.growSpace len) (vectorMaxSize < b.writerIndex + len) (fun spacious =>
      spacious.readerIndex = b.readerIndex ∧ spacious.writerIndex = b.writerIndex ∧
        spacious.buffer.length = b.writerIndex + len ∧ spacious.buffer.length ≤ vectorMaxSize ∧
        spacious.content = b.content) := by
  unfold growSpace
  rw [sizeAdd_exact len b.writerIndex (by omega)]
  by_cases allowed : len + b.writerIndex ≤ vectorMaxSize
  · rw [resize_grow 0 b.buffer _ (by omega) allowed]
    have longer : (b.buffer ++ List.replicate (len + b.writerIndex - b.buffer.length) 0).length =
        b.writerIndex + len := by
      rw [List.length_append, List.length_replicate]
      omega
    exact returns_ok ⟨rfl, rfl, longer, by rw [longer]; omega, slice_extend _ _ _ _ inside⟩
  · rw [resize, if_neg allowed]
    exact .threw rfl (by omega)

/-- `grow_space` returns with enough room and the same content, unless the vector would
be too long. -/
theorem growSpace_returns (wellFormed : b.WellFormed) (len : Nat)
    (short : b.writableBytes < len) (fits : b.writerIndex + len < sizeLimit) :
    Returns (b.growSpace len) (vectorMaxSize < b.writerIndex + len) (fun spacious =>
      spacious.WellFormed ∧ spacious.content = b.content ∧ len ≤ spacious.writableBytes) := by
  have inside := wellFormed.inside
  rw [writableBytes_exact wellFormed] at short
  refine (growSpace_extends inside len short fits).imp id ?_
  rintro spacious ⟨reader, writer, size, sized, same⟩
  have grown : spacious.WellFormed :=
    ⟨by rw [reader]; exact wellFormed.prependable, by rw [reader, writer]; exact wellFormed.ordered,
      by omega, sized⟩
  refine ⟨grown, same, ?_⟩
  rw [writableBytes_exact grown]
  omega

/-- Moving the readable bytes to the front keeps them and turns every byte
between `kCheapPrepend` and the reader index into writable space. -/
theorem moveToFront_returns (wellFormed : b.WellFormed)
    (reclaimable : kCheapPrepend < b.readerIndex) (tooLong : Prop) :
    Returns b.moveToFront tooLong (fun spacious =>
      spacious.WellFormed ∧ spacious.content = b.content ∧
        spacious.writableBytes = b.writableBytes + b.readerIndex - kCheapPrepend ∧
        spacious.buffer.length = b.buffer.length) := by
  have ordered := wellFormed.ordered
  have inside := wellFormed.inside
  have sized := wellFormed.sized
  have readable := readableBytes_exact wellFormed
  have width : (slice b.buffer b.readerIndex b.writerIndex).length = b.readableBytes :=
    content_length wellFormed
  have target : sizeAdd kCheapPrepend b.readableBytes = kCheapPrepend + b.readableBytes :=
    sizeAdd_exact _ _ (by unfold vectorMaxSize at sized; unfold sizeLimit; omega)
  unfold moveToFront
  apply Returns.assert reclaimable
  apply Returns.access (copyRange_exact _ _ _ _ ordered (Nat.le_of_lt reclaimable) inside)
  rw [target]
  generalize copied : splice b.buffer kCheapPrepend (slice b.buffer b.readerIndex b.writerIndex) = cells
  have room : kCheapPrepend + (slice b.buffer b.readerIndex b.writerIndex).length ≤
      b.buffer.length := by omega
  have same : cells.length = b.buffer.length := by
    rw [← copied]
    exact splice_length _ _ _ room
  have compacted : WellFormed ⟨cells, kCheapPrepend, kCheapPrepend + b.readableBytes⟩ :=
    ⟨Nat.le_refl _, Nat.le_add_right _ _, by simp only [same]; omega, by simp only [same]; exact sized⟩
  apply Returns.assert (by rw [readableBytes_exact compacted]; simp)
  refine returns_ok ⟨compacted, ?_, ?_, same⟩
  · simp only [content, ← copied]
    rw [← width, slice_splice _ _ _ _ (Nat.le_refl _) room, slice_same, List.nil_append]
  · rw [writableBytes_exact compacted, writableBytes_exact wellFormed]
    simp only [same]
    omega

/-- Make space for a request the writable tail cannot hold. The copying branch
is reached only with more than `kCheapPrepend` bytes in front of the readable
ones, so its assertion holds.

Proof: without wrap-around the branch condition compares the true sums. If the
tail and the prependable bytes together fit the request, subtracting the short
tail leaves the reader index above `kCheapPrepend`. -/
theorem makeSpace_returns (wellFormed : b.WellFormed) (len : Nat)
    (short : b.writableBytes < len) (fits : b.writerIndex + len < sizeLimit) :
    Returns (b.makeSpace len) (vectorMaxSize < b.writerIndex + len) (fun spacious =>
      spacious.WellFormed ∧ spacious.content = b.content ∧ len ≤ spacious.writableBytes) := by
  obtain ⟨prependable, ordered, inside, sized⟩ := wellFormed
  have wellFormed : b.WellFormed := ⟨prependable, ordered, inside, sized⟩
  have writable := writableBytes_exact wellFormed
  have free : sizeAdd b.writableBytes b.prependableBytes = b.writableBytes + b.readerIndex :=
    sizeAdd_exact _ _ (by
      unfold vectorMaxSize at sized
      unfold sizeLimit prependableBytes
      omega)
  have wanted : sizeAdd len kCheapPrepend = len + kCheapPrepend := sizeAdd_exact _ _ (by omega)
  unfold makeSpace
  rw [free, wanted]
  by_cases grows : b.writableBytes + b.readerIndex < len + kCheapPrepend
  · rw [if_pos grows]
    exact growSpace_returns wellFormed len short fits
  · rw [if_neg grows]
    refine (moveToFront_returns wellFormed (by omega) _).imp id ?_
    rintro spacious ⟨kept, same, enough, _⟩
    exact ⟨kept, same, by omega⟩

/-- After the request the writable tail holds it, and the readable bytes are
the same. -/
theorem ensureWriteableBytes_returns (wellFormed : b.WellFormed) (len : Nat)
    (fits : b.writerIndex + len < sizeLimit) :
    Returns (b.ensureWriteableBytes len) (vectorMaxSize < b.writerIndex + len) (fun spacious =>
      spacious.WellFormed ∧ spacious.content = b.content ∧ len ≤ spacious.writableBytes) := by
  have spaced : Returns (if b.writableBytes < len then b.makeSpace len else .ok b)
      (vectorMaxSize < b.writerIndex + len) (fun spacious =>
        spacious.WellFormed ∧ spacious.content = b.content ∧ len ≤ spacious.writableBytes) := by
    by_cases short : b.writableBytes < len
    · rw [if_pos short]
      exact makeSpace_returns wellFormed len short fits
    · rw [if_neg short]
      exact returns_ok ⟨wellFormed, rfl, by omega⟩
  apply spaced.bind
  rintro spacious ⟨kept, same, enough⟩
  exact Returns.assert enough (returns_ok ⟨kept, same, enough⟩)

/-- What a request that returned did, whatever the buffer was. -/
inductive Ensured (b : Buffer) (len : Nat) : Buffer → Prop where
  | enough (room : len ≤ b.writableBytes) : Ensured b len b
  | grown (short : b.writableBytes < len)
      (scarce : sizeAdd b.writableBytes b.prependableBytes < sizeAdd len kCheapPrepend)
      (cells : List Byte) (resized : resize 0 b.buffer (sizeAdd len b.writerIndex) = .ok cells) :
      Ensured b len { b with buffer := cells }
  | moved (short : b.writableBytes < len)
      (spare : ¬ sizeAdd b.writableBytes b.prependableBytes < sizeAdd len kCheapPrepend)
      (reclaimable : kCheapPrepend < b.readerIndex) (cells : List Byte)
      (copied : copyRange b.buffer b.readerIndex b.writerIndex kCheapPrepend = some cells) :
      Ensured b len ⟨cells, kCheapPrepend, sizeAdd kCheapPrepend b.readableBytes⟩

/-- A request that returns has done one of these, and there is room. -/
theorem ensured {after : Buffer} {len : Nat} (returned : b.ensureWriteableBytes len = .ok after) :
    Ensured b len after ∧ len ≤ after.writableBytes := by
  obtain ⟨spacious, spaced, finished⟩ := (bind_ok _ _ _).mp returned
  obtain ⟨room, same⟩ := (require_bind_ok _ _ _).mp finished
  obtain rfl := (pure_ok _ _).mp same
  refine ⟨?_, room⟩
  split at spaced
  case isFalse enough =>
    obtain rfl := Except.ok.inj spaced
    exact .enough (Nat.le_of_not_lt enough)
  case isTrue short =>
    unfold makeSpace at spaced
    split at spaced
    case isTrue scarce =>
      obtain ⟨cells, resized, same⟩ := (bind_ok _ _ _).mp spaced
      obtain rfl := (pure_ok _ _).mp same
      exact .grown short scarce cells resized
    case isFalse spare =>
      obtain ⟨reclaimable, continued⟩ := (require_bind_ok _ _ _).mp spaced
      obtain ⟨cells, copied, finished⟩ := (bind_ok _ _ _).mp continued
      obtain ⟨_, same⟩ := (require_bind_ok _ _ _).mp finished
      obtain rfl := (pure_ok _ _).mp same
      exact .moved short spare reclaimable cells ((accessed_ok _ _).mp copied)

/-- An append that returned made space and then stored inside the vector. -/
theorem append_done {after : Buffer} {str : List Byte} (returned : b.append str = .ok after) :
    ∃ spacious written, b.ensureWriteableBytes str.length = .ok spacious ∧
      store spacious.buffer spacious.beginWrite str = some written ∧
      after = { spacious with buffer := written }.hasWritten str.length := by
  obtain ⟨spacious, made, continued⟩ := (bind_ok _ _ _).mp returned
  obtain ⟨written, stored, same⟩ := (bind_ok _ _ _).mp continued
  exact ⟨spacious, written, made, (accessed_ok _ _).mp stored, ((pure_ok _ _).mp same).symm⟩

/-- So did one through the pointer overload, with bytes it could read. -/
theorem appendBytes_done {after : Buffer} {data : List Byte} {len : Nat}
    (returned : b.appendBytes data len = .ok after) :
    ∃ spacious source written, b.ensureWriteableBytes len = .ok spacious ∧
      load data 0 len = some source ∧
      store spacious.buffer spacious.beginWrite source = some written ∧
      after = { spacious with buffer := written }.hasWritten source.length := by
  obtain ⟨spacious, made, continued⟩ := (bind_ok _ _ _).mp returned
  obtain ⟨source, loaded, rest⟩ := (bind_ok _ _ _).mp continued
  obtain ⟨written, stored, same⟩ := (bind_ok _ _ _).mp rest
  have loaded := (accessed_ok _ _).mp loaded
  refine ⟨spacious, source, written, made, loaded, (accessed_ok _ _).mp stored, ?_⟩
  rw [load_length loaded]
  exact ((pure_ok _ _).mp same).symm

/-- What a receive that returned did. -/
inductive Received (b : Buffer) (data : List Byte) : Buffer → Prop where
  | fitted (short : data.length ≤ b.writableBytes) (filled : List Byte)
      (stored : store b.buffer b.beginWrite data = some filled) :
      Received b data ({ b with buffer := filled }.hasWritten data.length)
  | spilled (long : ¬ data.length ≤ b.writableBytes) (filled : List Byte)
      (stored : store b.buffer b.beginWrite (data.take b.writableBytes) = some filled)
      (after : Buffer)
      (appended : appendBytes { b with buffer := filled, writerIndex := filled.length }
        (data.drop b.writableBytes) (sizeSub data.length b.writableBytes) = .ok after) :
      Received b data after

/-- What `read_fd` leaves when it returns. -/
theorem received {after : Buffer} {data : List Byte} {n : Except Nat Nat}
    (returned : b.readFd (.received data) = .ok (after, n)) : Received b data after := by
  obtain ⟨filled, stored, continued⟩ := (bind_ok _ _ _).mp returned
  have stored := (accessed_ok _ _).mp stored
  simp only at continued
  split at continued
  case isTrue short =>
    obtain ⟨rfl, _⟩ := Prod.mk.inj ((pure_ok _ _).mp continued)
    rw [List.take_of_length_le short] at stored
    exact .fitted short filled stored
  case isFalse long =>
    obtain ⟨appended, spilled, same⟩ := (bind_ok _ _ _).mp continued
    obtain ⟨rfl, _⟩ := Prod.mk.inj ((pure_ok _ _).mp same)
    exact .spilled long filled stored appended spilled

/-- Writing at the writable end and advancing the writer index appends. -/
theorem written_returns (wellFormed : b.WellFormed) (data : List Byte) (tooLong : Prop)
    (enough : data.length ≤ b.writableBytes) :
    Returns (do
      let written ← accessed (store b.buffer b.beginWrite data)
      pure ({ b with buffer := written }.hasWritten data.length)) tooLong (fun appended =>
        appended.WellFormed ∧ appended.content = b.content ++ data) := by
  have inside := wellFormed.inside
  have ordered := wellFormed.ordered
  have sized := wellFormed.sized
  rw [writableBytes_exact wellFormed] at enough
  have room : b.writerIndex + data.length ≤ b.buffer.length := by omega
  have stop : sizeAdd b.writerIndex data.length = b.writerIndex + data.length :=
    sizeAdd_exact _ _ (by unfold vectorMaxSize at sized; unfold sizeLimit; omega)
  have same : (splice b.buffer b.writerIndex data).length = b.buffer.length :=
    splice_length _ _ _ room
  apply Returns.access (store_exact b.buffer b.writerIndex data room)
  refine returns_ok ⟨?_, ?_⟩
  · refine ⟨wellFormed.prependable, ?_, ?_, ?_⟩
    · simp only [hasWritten, stop]
      omega
    · simp only [hasWritten, stop, same]
      exact room
    · simp only [hasWritten, same]
      exact sized
  · simp only [content, hasWritten, stop]
    exact slice_splice _ _ _ _ ordered room

/-- `append` returns with the bytes behind the content, unless the vector would be too
long. -/
theorem append_returns (wellFormed : b.WellFormed) (str : List Byte)
    (fits : b.writerIndex + str.length < sizeLimit) :
    Returns (b.append str) (vectorMaxSize < b.writerIndex + str.length) (fun appended =>
      appended.WellFormed ∧ appended.content = b.content ++ str) := by
  apply (ensureWriteableBytes_returns wellFormed str.length fits).bind
  rintro spacious ⟨kept, same, enough⟩
  rw [← same]
  exact written_returns kept str _ enough

/-- The pointer overload appends the bytes it is given, in the same way. -/
theorem appendBytes_returns (wellFormed : b.WellFormed) (data : List Byte) (len : Nat)
    (provided : len ≤ data.length) (fits : b.writerIndex + len < sizeLimit) :
    Returns (b.appendBytes data len) (vectorMaxSize < b.writerIndex + len) (fun appended =>
      appended.WellFormed ∧ appended.content = b.content ++ data.take len) := by
  have width : (data.take len).length = len := by simp [provided]
  have source : load data 0 len = some (data.take len) := by simp [load, provided, slice]
  apply (ensureWriteableBytes_returns wellFormed len fits).bind
  rintro spacious ⟨kept, same, enough⟩
  apply Returns.access source
  have written := written_returns kept (data.take len) (vectorMaxSize < b.writerIndex + len)
    (by omega)
  rw [width, same] at written
  exact written

/-- Retrieving at most the readable bytes drops them from the front. -/
theorem retrieve_returns (wellFormed : b.WellFormed) (len : Nat) (present : len ≤ b.readableBytes)
    (tooLong : Prop) :
    Returns (b.retrieve len) tooLong (fun rest =>
      rest.WellFormed ∧ rest.content = b.content.drop len ∧ rest.buffer = b.buffer) := by
  obtain ⟨prependable, ordered, inside, sized⟩ := wellFormed
  have readable := readableBytes_exact ⟨prependable, ordered, inside, sized⟩
  have stop : sizeAdd b.readerIndex len = b.readerIndex + len :=
    sizeAdd_exact _ _ (by unfold vectorMaxSize at sized; unfold sizeLimit; omega)
  apply Returns.assert present
  rw [stop]
  exact returns_ok ⟨⟨by simp only; omega, by simp only; omega, inside, sized⟩,
    (slice_drop _ _ _ _).symm, rfl⟩

/-- `retrieve_until` drops what is in front of a position inside the readable bytes. -/
theorem retrieveUntil_returns (wellFormed : b.WellFormed) (stop : Nat) (lower : b.peek ≤ stop)
    (upper : stop ≤ b.beginWrite) (tooLong : Prop) :
    Returns (b.retrieveUntil stop) tooLong (fun rest =>
      rest.WellFormed ∧ rest.content = b.content.drop (stop - b.readerIndex)) := by
  have inside := wellFormed.inside
  have sized := wellFormed.sized
  unfold beginWrite at upper
  unfold peek at lower
  have distance : sizeSub stop b.peek = stop - b.readerIndex :=
    sizeSub_exact _ _ lower (by unfold vectorMaxSize at sized; unfold sizeLimit; omega)
  apply Returns.assert lower
  apply Returns.assert upper
  rw [distance]
  refine (retrieve_returns wellFormed _ ?_ tooLong).imp id (fun rest kept => ⟨kept.1, kept.2.1⟩)
  rw [readableBytes_exact wellFormed]
  omega

/-- After `retrieve_all` the buffer is well-formed. -/
theorem retrieveAll_wellFormed (wellFormed : b.WellFormed) : b.retrieveAll.WellFormed := by
  obtain ⟨prependable, ordered, inside, sized⟩ := wellFormed
  exact ⟨Nat.le_refl _, Nat.le_refl _, by simp only [retrieveAll]; omega, sized⟩

/-- It holds nothing. -/
theorem retrieveAll_content : b.retrieveAll.content = [] := slice_same _ _

/-- The returned string is the whole content, which is then gone. -/
theorem retrieveAsString_returns (wellFormed : b.WellFormed) (tooLong : Prop) :
    Returns b.retrieveAsString tooLong (fun result =>
      result.1 = b.retrieveAll ∧ result.2 = b.content) := by
  have ordered := wellFormed.ordered
  have inside := wellFormed.inside
  have stop : b.peek + b.readableBytes = b.writerIndex := by
    rw [readableBytes_exact wellFormed]
    unfold peek
    omega
  have read : load b.buffer b.peek b.readableBytes = some b.content := by
    rw [load, stop, if_pos inside]
    rfl
  apply Returns.access read
  exact returns_ok ⟨rfl, rfl⟩

/-- What `readv` stored is appended, whether it fits the writable tail or spills
into the stack array and is then appended from there. -/
theorem readFd_returns (wellFormed : b.WellFormed) (data : List Byte)
    (fits : b.writerIndex + data.length < sizeLimit) :
    Returns (b.readFd (.received data)) (vectorMaxSize < b.writerIndex + data.length)
      (fun result => result.1.WellFormed ∧ result.1.content = b.content ++ data ∧
        result.2 = .ok data.length) := by
  obtain ⟨prependable, ordered, inside, sized⟩ := wellFormed
  have wellFormed : b.WellFormed := ⟨prependable, ordered, inside, sized⟩
  have writable := writableBytes_exact wellFormed
  have room : b.writerIndex + (data.take b.writableBytes).length ≤ b.buffer.length := by
    rw [List.length_take]
    omega
  have same : (splice b.buffer b.writerIndex (data.take b.writableBytes)).length =
      b.buffer.length := splice_length _ _ _ room
  have reads := slice_splice b.buffer b.readerIndex b.writerIndex (data.take b.writableBytes)
    ordered room
  unfold readFd
  apply Returns.access (store_exact b.buffer b.writerIndex (data.take b.writableBytes) room)
  generalize splice b.buffer b.writerIndex (data.take b.writableBytes) = cells at same reads
  by_cases short : data.length ≤ b.writableBytes
  · rw [if_pos short, sizeAdd_exact _ _ fits]
    rw [List.take_of_length_le short] at reads
    refine returns_ok ⟨⟨prependable, ?_, ?_, ?_⟩, reads, rfl⟩
    · simp only
      omega
    · simp only [same]
      omega
    · simp only [same]
      exact sized
  · rw [if_neg short]
    have tail : (data.take b.writableBytes).length = b.writableBytes := by
      rw [List.length_take]
      omega
    have reached : b.writerIndex + b.writableBytes = cells.length := by omega
    rw [tail, reached] at reads
    have full : WellFormed { b with buffer := cells, writerIndex := cells.length } :=
      ⟨prependable, by simp only; omega, Nat.le_refl _, by simp only [same]; exact sized⟩
    have spilled : sizeSub data.length b.writableBytes = (data.drop b.writableBytes).length := by
      rw [List.length_drop]
      exact sizeSub_exact _ _ (by omega) (by omega)
    rw [spilled]
    have appended := appendBytes_returns full (data.drop b.writableBytes)
      (data.drop b.writableBytes).length (Nat.le_refl _) (by
        simp only [List.length_drop]
        omega)
    refine (appended.imp (fun tooLong => ?_) (fun _ kept => kept)).bind ?_
    · simp only [List.length_drop] at tooLong
      omega
    · rintro result ⟨kept, extended⟩
      refine returns_ok ⟨kept, ?_, rfl⟩
      simp only [content, List.take_length] at extended ⊢
      rw [extended, reads, List.append_assoc, List.take_append_drop]

end Buffer

end ReactorNetwork
