import ReactorNetwork.BufferQueue

/-!
# The memory of a buffer

A retrieval moves the reader index and leaves dead space in front of it; only a
request that the writable tail cannot hold looks at that space. It is reclaimed when
tail and dead space together suffice, and otherwise the vector grows by what is
missing behind the writer index, dead space and all. The vector is therefore at most
about twice what was readable and asked for at one time, in a run of any length.

Beside the buffer a run keeps the peak: the largest sum, over its steps, of the bytes
readable before the step and of the length the step appends, receives or asks for.
-/

namespace ReactorNetwork.BufferMemory

open Buffer BufferQueue CellStore Runs

/-- A buffer with the peak of the run so far. -/
structure Metered where
  buffer : Buffer
  peak : Nat

/-- A fresh buffer, for which nothing was needed yet. -/
def fresh : Metered := ⟨Buffer.fresh, 0⟩

/-- One operation, with the most bytes that were needed at once. -/
def step (m : Metered) (op : Op) : Outcome Metered := do
  let (buffer, _) ← perform m.buffer op
  pure ⟨buffer, max m.peak (m.buffer.readableBytes + request op)⟩

/-- No size of the step wraps around. -/
def unwrapped (m : Metered) (op : Op) : Prop := NoWrap m.buffer op

instance (m : Metered) (op : Op) : Decidable (unwrapped m op) :=
  inferInstanceAs (Decidable (_ < _))

/-- The vector keeps its size, or grows to at most twice the need. -/
def Grows (b after : Buffer) (need : Nat) : Prop :=
  b.buffer.length ≤ after.buffer.length ∧
    (after.buffer.length = b.buffer.length ∨ after.buffer.length ≤ 2 * need + kCheapPrepend)

section Operations

variable {b after : Buffer}

/-- An operation that keeps the vector's length has grown nothing. -/
theorem grows_same (need : Nat) (same : after.buffer.length = b.buffer.length) :
    Grows b after need := ⟨Nat.le_of_eq same.symm, Or.inl same⟩

/-- Growth in front of a step that keeps the length is growth of the whole. -/
theorem Grows.before_same {middle : Buffer} {need : Nat} (grows : Grows b middle need)
    (same : after.buffer.length = middle.buffer.length) : Grows b after need := by
  unfold Grows
  rw [same]
  exact grows

/-- So is growth behind such a step. -/
theorem Grows.after_same {middle : Buffer} {need : Nat} (grows : Grows middle after need)
    (same : middle.buffer.length = b.buffer.length) : Grows b after need := by
  unfold Grows
  rw [← same]
  exact grows

/-- Growing is chosen only when the dead space is less than the request, so the new end
of the vector is at most twice what is readable and asked for. -/
theorem ensureWriteableBytes_grows (wellFormed : b.WellFormed) {len : Nat}
    (fits : b.writerIndex + len < sizeLimit)
    (returned : b.ensureWriteableBytes len = .ok after) :
    Grows b after (b.readableBytes + len) := by
  obtain ⟨prependable, ordered, inside, sized⟩ := wellFormed
  have wellFormed : b.WellFormed := ⟨prependable, ordered, inside, sized⟩
  have readable := readableBytes_exact wellFormed
  have writable := writableBytes_exact wellFormed
  cases (ensured returned).1 with
  | enough room => exact grows_same _ rfl
  | grown short scarce cells resized =>
    have free : sizeAdd b.writableBytes b.prependableBytes = b.writableBytes + b.readerIndex := by
      refine sizeAdd_exact _ _ ?_
      unfold vectorMaxSize at sized
      unfold sizeLimit prependableBytes
      omega
    have wanted : sizeAdd len kCheapPrepend = len + kCheapPrepend := sizeAdd_exact _ _ (by omega)
    rw [free, wanted] at scarce
    rw [sizeAdd_exact len b.writerIndex (by omega)] at resized
    have size : cells.length = len + b.writerIndex := (resize_length resized).1
    refine ⟨?_, Or.inr ?_⟩
    · simp only [size]
      omega
    · simp only [size]
      omega
  | moved short spare reclaimable cells copied => exact grows_same _ (copyRange_length copied)

/-- An append grows the vector by no more than the content and the new bytes need. -/
theorem append_grows (wellFormed : b.WellFormed) {str : List Byte}
    (fits : b.writerIndex + str.length < sizeLimit) (returned : b.append str = .ok after) :
    Grows b after (b.readableBytes + str.length) := by
  obtain ⟨spacious, written, made, stored, rfl⟩ := append_done returned
  exact (ensureWriteableBytes_grows wellFormed fits made).before_same (store_inside stored).1

/-- Nor does an append from a pointer. -/
theorem appendBytes_grows (wellFormed : b.WellFormed) {data : List Byte} {len : Nat}
    (fits : b.writerIndex + len < sizeLimit) (returned : b.appendBytes data len = .ok after) :
    Grows b after (b.readableBytes + len) := by
  obtain ⟨spacious, source, written, made, _, stored, rfl⟩ := appendBytes_done returned
  exact (ensureWriteableBytes_grows wellFormed fits made).before_same (store_inside stored).1

/-- Bytes that spill are appended to a full buffer, whose readable bytes and request are
together as many as before. -/
theorem readFd_grows (wellFormed : b.WellFormed) {data : List Byte} {n : Except Nat Nat}
    (fits : b.writerIndex + data.length < sizeLimit)
    (returned : b.readFd (.received data) = .ok (after, n)) :
    Grows b after (b.readableBytes + data.length) := by
  obtain ⟨prependable, ordered, inside, sized⟩ := wellFormed
  have wellFormed : b.WellFormed := ⟨prependable, ordered, inside, sized⟩
  have readable := readableBytes_exact wellFormed
  have writable := writableBytes_exact wellFormed
  cases received returned with
  | fitted short filled stored => exact grows_same _ (store_inside stored).1
  | spilled long filled stored after appended =>
    have width : filled.length = b.buffer.length := (store_inside stored).1
    have full : WellFormed { b with buffer := filled, writerIndex := filled.length } :=
      ⟨prependable, by simp only [width]; omega, Nat.le_refl _, by simp only [width]; exact sized⟩
    rw [sizeSub_exact _ _ (by omega) (by omega)] at appended
    have grows := appendBytes_grows full (by simp only [width]; omega) appended
    have need : Buffer.readableBytes { b with buffer := filled, writerIndex := filled.length } +
        (data.length - b.writableBytes) = b.readableBytes + data.length := by
      rw [readableBytes_exact full]
      simp only [width]
      omega
    rw [need] at grows
    exact grows.after_same width

/-- Every operation that does not wrap around keeps the buffer well formed. -/
theorem perform_wellFormed {op : Op} {reply : Reply} (wellFormed : b.WellFormed) (noWrap : NoWrap b op)
    (returned : perform b op = .ok (after, reply)) : after.WellFormed := by
  have lawful : Owed b op → after.WellFormed := fun owed =>
    ((perform_returns b op wellFormed owed noWrap).of_ok returned).1
  cases performed returned with
  | append | ensureWriteableBytes | retrieveAll | retrieveAsString | failed => exact lawful trivial
  | appendBytes data len after done =>
    obtain ⟨_, _, _, _, loaded, _⟩ := appendBytes_done done
    have inside := load_inside loaded
    rw [Nat.zero_add] at inside
    exact lawful inside
  | retrieve len present => exact lawful present
  | retrieveUntil stop lower upper present => exact lawful ⟨lower, upper⟩
  | received data after n done => exact ((readFd_returns wellFormed data noWrap).of_ok done).1

/-- Each operation keeps the size, or grows to at most twice its need. -/
theorem perform_grows {op : Op} {reply : Reply} (wellFormed : b.WellFormed) (noWrap : NoWrap b op)
    (returned : perform b op = .ok (after, reply)) :
    Grows b after (b.readableBytes + request op) := by
  cases performed returned with
  | append str after done => exact append_grows wellFormed noWrap done
  | appendBytes data len after done => exact appendBytes_grows wellFormed noWrap done
  | ensureWriteableBytes len after done => exact ensureWriteableBytes_grows wellFormed noWrap done
  | retrieve | retrieveUntil | retrieveAll | retrieveAsString | failed => exact grows_same _ rfl
  | received data after n done => exact readFd_grows wellFormed noWrap done

end Operations

/-- The buffer is well formed and its vector within the bound. -/
structure Bounded (m : Metered) : Prop where
  wellFormed : m.buffer.WellFormed
  size : m.buffer.buffer.length ≤ max (kCheapPrepend + kInitialSize) (2 * m.peak + kCheapPrepend)

/-- A fresh buffer is within the bound. -/
theorem fresh_bounded : Bounded fresh where
  wellFormed := fresh_wellFormed
  size := by
    simp only [fresh, Buffer.fresh, List.length_replicate]
    exact Nat.le_max_left _ _

/-- Every step that does not wrap around keeps the bound and never shrinks the
vector. -/
theorem step_bounded {m n : Metered} {op : Op} (bounded : Bounded m) (fits : unwrapped m op)
    (taken : step m op = .ok n) :
    Bounded n ∧ m.buffer.buffer.length ≤ n.buffer.buffer.length := by
  obtain ⟨⟨after, reply⟩, performed, same⟩ := (bind_ok _ _ _).mp taken
  obtain rfl := (pure_ok _ _).mp same
  obtain ⟨more, size⟩ := perform_grows bounded.wellFormed fits performed
  have before := bounded.size
  refine ⟨⟨perform_wellFormed bounded.wellFormed fits performed, ?_⟩, more⟩
  simp only
  omega

/-- In every run in which no size wraps around, the vector never gets smaller, and at
each moment it is at most as long as a fresh one or eight bytes more than twice the
peak.

Proof: each operation keeps the size or grows to at most twice its need, and the peak is
the largest need so far. -/
theorem memory_bounded (before after : List Op) (m n : Metered)
    (fits : Along step unwrapped fresh (before ++ after))
    (reached : run step fresh before = .ok m) (continued : run step m after = .ok n) :
    m.buffer.buffer.length ≤ n.buffer.buffer.length ∧
      n.buffer.buffer.length ≤ max 1032 (2 * n.peak + 8) := by
  obtain ⟨front, back⟩ := (along_append step unwrapped fresh before after).mp fits
  have middle : Bounded m := guarded_invariant step unwrapped Bounded
    (fun _ _ _ bounded fits taken => (step_bounded bounded fits taken).1) before fresh m
    fresh_bounded front reached
  have last := guarded_invariant step unwrapped
    (fun k => Bounded k ∧ m.buffer.buffer.length ≤ k.buffer.buffer.length)
    (fun _ _ _ holds fits taken =>
      have next := step_bounded holds.1 fits taken
      ⟨next.1, Nat.le_trans holds.2 next.2⟩) after m n ⟨middle, Nat.le_refl _⟩ (back m reached)
    continued
  exact ⟨last.2, last.1.size⟩

/-- A buffer is filled beyond its first size, drained and filled again. -/
def filledTwice : List Op :=
  [.append [1, 2, 3], .ensureWriteableBytes 1100, .retrieve 2, .append [4], .retrieveAll]

/-- A buffer that is filled twice and asked for more room stays within the bound. -/
theorem memory_bounded_filledTwice :
    Along step unwrapped fresh (filledTwice ++ [.ensureWriteableBytes 1105]) ∧
      ∃ m n, run step fresh filledTwice = .ok m ∧ run step m [.ensureWriteableBytes 1105] = .ok n ∧
        m.buffer.buffer.length ≤ n.buffer.buffer.length ∧
          n.buffer.buffer.length ≤ max 1032 (2 * n.peak + 8) := by
  have fits : Along step unwrapped fresh (filledTwice ++ [.ensureWriteableBytes 1105]) := by
    decide +kernel
  have computed : (run step fresh filledTwice).map (fun m =>
      (run step m [.ensureWriteableBytes 1105]).map Metered.peak) = .ok (.ok 1105) := by
    decide +kernel
  obtain ⟨m, reached, computed⟩ := (map_returned _ _ _).mp computed
  obtain ⟨n, continued, _⟩ := (map_returned _ _ _).mp computed
  exact ⟨fits, m, n, reached, continued,
    memory_bounded filledTwice [.ensureWriteableBytes 1105] m n fits reached continued⟩

/-- A request whose end wraps around cuts the vector down, and returns. -/
theorem wrapped_request_shrinks :
    ¬ ∀ (before after : List Op) (m n : Metered), run step fresh before = .ok m →
      run step m after = .ok n → m.buffer.buffer.length ≤ n.buffer.buffer.length ∧
        n.buffer.buffer.length ≤ max 1032 (2 * n.peak + 8) := by
  intro claimed
  have computed : (run step fresh [.append (List.replicate 20 7)]).map (fun m =>
      (m.buffer.buffer.length, (run step m [.ensureWriteableBytes (2 ^ 64 - 20)]).map fun n =>
        n.buffer.buffer.length)) = .ok (1032, .ok 8) := by decide +kernel
  obtain ⟨m, reached, computed⟩ := (map_returned _ _ _).mp computed
  simp only [Prod.mk.injEq] at computed
  obtain ⟨size, computed⟩ := computed
  obtain ⟨n, continued, smaller⟩ := (map_returned _ _ _).mp computed
  have grows := (claimed _ _ m n reached continued).1
  omega

end ReactorNetwork.BufferMemory
