import ReactorNetwork.Buffer
import ReactorNetwork.FifoHistory

/-!
# A buffer is a byte queue

Every operation of `Buffer` is run beside a first-in first-out history. An
append or a receive enqueues its bytes; a retrieval serves the number of bytes
it takes from the front. Whatever the sequence of operations did to the indices
and the vector, the readable bytes are the unserved suffix of the history.

The callers' obligations and the absence of a `size_t` wrap-around are the
guard of the run. `readv` is bounded by the space it is offered. No assertion
of the buffer can fail in such a run; it can only end early where the vector is
asked for more than its maximal size.
-/

namespace ReactorNetwork.BufferQueue

open Buffer Runs

/-- The operations on a buffer, with what the environment supplies. -/
inductive Op where
  | append (str : List Byte)
  | appendBytes (data : List Byte) (len : Nat)
  | ensureWriteableBytes (len : Nat)
  | retrieve (len : Nat)
  | retrieveUntil (stop : Nat)
  | retrieveAll
  | retrieveAsString
  | readFd (result : ReadvResult)
deriving DecidableEq, Repr

/-- What an operation returns to its caller. -/
inductive Reply where
  | unit
  | text (str : List Byte)
  | count (n : Except Nat Nat)
deriving DecidableEq

/-- An operation of the buffer, with what it returns. -/
def perform (b : Buffer) : Op → Outcome (Buffer × Reply)
  | .append str => do pure (← b.append str, .unit)
  | .appendBytes data len => do pure (← b.appendBytes data len, .unit)
  | .ensureWriteableBytes len => do pure (← b.ensureWriteableBytes len, .unit)
  | .retrieve len => do pure (← b.retrieve len, .unit)
  | .retrieveUntil stop => do pure (← b.retrieveUntil stop, .unit)
  | .retrieveAll => pure (b.retrieveAll, .unit)
  | .retrieveAsString => do
      let (rest, str) ← b.retrieveAsString
      pure (rest, .text str)
  | .readFd result => do
      let (filled, n) ← b.readFd result
      pure (filled, .count n)

/-- The bytes an operation appends or receives. -/
def arrivals : Op → List Byte
  | .append str => str
  | .appendBytes data len => data.take len
  | .readFd (.received data) => data
  | _ => []

/-- The number of bytes an operation retrieves from the front. -/
def departures (b : Buffer) : Op → Nat
  | .retrieve len => len
  | .retrieveUntil stop => stop - b.readerIndex
  | .retrieveAll => b.readableBytes
  | .retrieveAsString => b.readableBytes
  | _ => 0

/-- The length an operation appends, receives or asks to be writable. -/
def request : Op → Nat
  | .append str => str.length
  | .appendBytes _ len => len
  | .ensureWriteableBytes len => len
  | .readFd (.received data) => data.length
  | _ => 0

/-- What the caller owes an operation, and the kernel a `readv`. -/
def Owed (b : Buffer) : Op → Prop
  | .appendBytes data len => len ≤ data.length
  | .retrieve len => len ≤ b.readableBytes
  | .retrieveUntil stop => b.peek ≤ stop ∧ stop ≤ b.beginWrite
  | .readFd (.received data) => data.length ≤ b.writableBytes + extraBuffSize
  | _ => True

/-- No `size_t` sum wraps around. -/
def NoWrap (b : Buffer) (op : Op) : Prop := b.writerIndex + request op < sizeLimit

/-- A buffer beside the history of what entered and left it. -/
structure Tracked where
  buffer : Buffer
  history : FifoHistory Byte

/-- A fresh buffer with its empty history. -/
def fresh : Tracked := ⟨Buffer.fresh, FifoHistory.empty⟩

/-- Perform the operation and record its bytes. -/
def step (tracked : Tracked) (op : Op) : Outcome Tracked := do
  let (buffer, _) ← perform tracked.buffer op
  pure ⟨buffer, (tracked.history.enqueue (arrivals op)).serve (departures tracked.buffer op)⟩

/-- The guard of a run: obligations met, sizes in range. -/
def Permitted (tracked : Tracked) (op : Op) : Prop :=
  Owed tracked.buffer op ∧ NoWrap tracked.buffer op

instance (b : Buffer) (op : Op) : Decidable (Owed b op) := by
  unfold Owed
  split <;> infer_instance

instance (tracked : Tracked) (op : Op) : Decidable (Permitted tracked op) :=
  inferInstanceAs (Decidable (_ ∧ _ < _))

/-- The reply an operation owes, given the readable bytes before it. A failed
`read_fd` must also leave the buffer as it was. -/
def Answers (b : Buffer) (queued : List Byte) (op : Op) (result : Buffer × Reply) : Prop :=
  match op with
  | .retrieveAsString => result.2 = .text queued
  | .readFd (.failed errno) => result.1 = b ∧ result.2 = .count (.error errno)
  | .readFd (.received data) => result.2 = .count (.ok data.length)
  | _ => result.2 = .unit

/-- What an operation that returned did, whatever the buffer was. -/
inductive Performed (b : Buffer) : Op → Buffer → Prop where
  | append (str : List Byte) (after : Buffer) (done : b.append str = .ok after) :
      Performed b (.append str) after
  | appendBytes (data : List Byte) (len : Nat) (after : Buffer)
      (done : b.appendBytes data len = .ok after) : Performed b (.appendBytes data len) after
  | ensureWriteableBytes (len : Nat) (after : Buffer)
      (done : b.ensureWriteableBytes len = .ok after) : Performed b (.ensureWriteableBytes len) after
  | retrieve (len : Nat) (present : len ≤ b.readableBytes) :
      Performed b (.retrieve len) { b with readerIndex := sizeAdd b.readerIndex len }
  | retrieveUntil (stop : Nat) (lower : b.peek ≤ stop) (upper : stop ≤ b.beginWrite)
      (present : sizeSub stop b.peek ≤ b.readableBytes) :
      Performed b (.retrieveUntil stop)
        { b with readerIndex := sizeAdd b.readerIndex (sizeSub stop b.peek) }
  | retrieveAll : Performed b .retrieveAll b.retrieveAll
  | retrieveAsString : Performed b .retrieveAsString b.retrieveAll
  | failed (errno : Nat) : Performed b (.readFd (.failed errno)) b
  | received (data : List Byte) (after : Buffer) (n : Except Nat Nat)
      (done : b.readFd (.received data) = .ok (after, n)) :
      Performed b (.readFd (.received data)) after

/-- An operation that returns did one of these. -/
theorem performed {b after : Buffer} {op : Op} {reply : Reply}
    (returned : perform b op = .ok (after, reply)) : Performed b op after := by
  cases op with
  | append str =>
    obtain ⟨appended, done, same⟩ := (bind_ok _ _ _).mp returned
    obtain ⟨rfl, _⟩ := Prod.mk.inj ((pure_ok _ _).mp same)
    exact .append str appended done
  | appendBytes data len =>
    obtain ⟨appended, done, same⟩ := (bind_ok _ _ _).mp returned
    obtain ⟨rfl, _⟩ := Prod.mk.inj ((pure_ok _ _).mp same)
    exact .appendBytes data len appended done
  | ensureWriteableBytes len =>
    obtain ⟨spacious, done, same⟩ := (bind_ok _ _ _).mp returned
    obtain ⟨rfl, _⟩ := Prod.mk.inj ((pure_ok _ _).mp same)
    exact .ensureWriteableBytes len spacious done
  | retrieve len =>
    obtain ⟨rest, done, same⟩ := (bind_ok _ _ _).mp returned
    obtain ⟨rfl, _⟩ := Prod.mk.inj ((pure_ok _ _).mp same)
    obtain ⟨present, retrieved⟩ := (require_bind_ok _ _ _).mp done
    obtain rfl := (pure_ok _ _).mp retrieved
    exact .retrieve len present
  | retrieveUntil stop =>
    obtain ⟨rest, done, same⟩ := (bind_ok _ _ _).mp returned
    obtain ⟨rfl, _⟩ := Prod.mk.inj ((pure_ok _ _).mp same)
    obtain ⟨lower, inside⟩ := (require_bind_ok _ _ _).mp done
    obtain ⟨upper, moved⟩ := (require_bind_ok _ _ _).mp inside
    obtain ⟨present, retrieved⟩ := (require_bind_ok _ _ _).mp moved
    obtain rfl := (pure_ok _ _).mp retrieved
    exact .retrieveUntil stop lower upper present
  | retrieveAll =>
    obtain ⟨rfl, _⟩ := Prod.mk.inj ((pure_ok _ _).mp returned)
    exact .retrieveAll
  | retrieveAsString =>
    obtain ⟨⟨rest, str⟩, done, same⟩ := (bind_ok _ _ _).mp returned
    obtain ⟨rfl, _⟩ := Prod.mk.inj ((pure_ok _ _).mp same)
    obtain ⟨_, _, emptied⟩ := (bind_ok _ _ _).mp done
    obtain ⟨rfl, _⟩ := Prod.mk.inj ((pure_ok _ _).mp emptied)
    exact .retrieveAsString
  | readFd result =>
    obtain ⟨⟨filled, n⟩, done, same⟩ := (bind_ok _ _ _).mp returned
    obtain ⟨rfl, _⟩ := Prod.mk.inj ((pure_ok _ _).mp same)
    cases result with
    | failed errno =>
      obtain ⟨rfl, _⟩ := Prod.mk.inj ((pure_ok _ _).mp done)
      exact .failed errno
    | received data => exact .received data filled n done

/-- One operation on a well-formed buffer: bytes arrive at the back, leave at
the front, and the reply is the owed one. -/
theorem perform_returns (b : Buffer) (op : Op) (wellFormed : b.WellFormed) (owed : Owed b op)
    (noWrap : NoWrap b op) :
    Returns (perform b op) (vectorMaxSize < b.writerIndex + request op) (fun result =>
      result.1.WellFormed ∧
        result.1.content = (b.content ++ arrivals op).drop (departures b op) ∧
        Answers b b.content op result) := by
  have whole : b.content.drop b.readableBytes = [] := by
    rw [← content_length wellFormed, List.drop_length]
  cases op with
  | append str =>
    refine (append_returns wellFormed str noWrap).bind ?_
    rintro appended ⟨kept, extended⟩
    exact returns_ok ⟨kept, extended, rfl⟩
  | appendBytes data len =>
    refine (appendBytes_returns wellFormed data len owed noWrap).bind ?_
    rintro appended ⟨kept, extended⟩
    exact returns_ok ⟨kept, extended, rfl⟩
  | ensureWriteableBytes len =>
    refine (ensureWriteableBytes_returns wellFormed len noWrap).bind ?_
    rintro spacious ⟨kept, same, _⟩
    exact returns_ok ⟨kept, same.trans (List.append_nil _).symm, rfl⟩
  | retrieve len =>
    refine (retrieve_returns wellFormed len owed _).bind ?_
    rintro rest ⟨kept, dropped, _⟩
    refine returns_ok ⟨kept, ?_, rfl⟩
    simpa [arrivals, departures] using dropped
  | retrieveUntil stop =>
    refine (retrieveUntil_returns wellFormed stop owed.1 owed.2 _).bind ?_
    rintro rest ⟨kept, dropped⟩
    refine returns_ok ⟨kept, ?_, rfl⟩
    simpa [arrivals, departures] using dropped
  | retrieveAll =>
    refine returns_ok ⟨retrieveAll_wellFormed wellFormed, ?_, rfl⟩
    simp [arrivals, departures, whole, retrieveAll_content]
  | retrieveAsString =>
    refine (retrieveAsString_returns wellFormed _).bind ?_
    rintro ⟨rest, str⟩ ⟨emptied, read⟩
    simp only at emptied read
    subst emptied
    refine returns_ok ⟨retrieveAll_wellFormed wellFormed, ?_, by rw [read]; rfl⟩
    simp [arrivals, departures, whole, retrieveAll_content]
  | readFd result =>
    cases result with
    | failed errno =>
      refine returns_ok ⟨wellFormed, ?_, rfl, rfl⟩
      simp [arrivals, departures]
    | received data =>
      refine (readFd_returns wellFormed data noWrap).bind ?_
      rintro ⟨filled, n⟩ ⟨kept, extended, counted⟩
      simp only at kept extended counted
      exact returns_ok ⟨kept, extended, by rw [counted]; rfl⟩

/-- The concrete buffer represents the recorded queue of all past operations. -/
structure Represents (past : List Op) (tracked : Tracked) : Prop where
  wellFormed : tracked.buffer.WellFormed
  readable : tracked.buffer.content = tracked.history.queued
  recorded : tracked.history.arrived = past.flatMap arrivals

/-- A fresh buffer represents the empty queue. -/
theorem fresh_represents : Represents [] fresh :=
  ⟨fresh_wellFormed, fresh_content, rfl⟩

/-- Every permitted operation keeps the representation. -/
theorem step_represents (past : List Op) (tracked : Tracked) (op : Op)
    (represents : Represents past tracked) (permitted : Permitted tracked op) :
    Returns (step tracked op) (vectorMaxSize < tracked.buffer.writerIndex + request op)
      (Represents (past ++ [op])) := by
  refine (perform_returns tracked.buffer op represents.wellFormed permitted.1 permitted.2).bind ?_
  rintro ⟨buffer, reply⟩ ⟨kept, moved, _⟩
  refine returns_ok ⟨kept, ?_, ?_⟩
  · rw [moved, represents.readable]
    simp
  · simp [represents.recorded]

/-- Some request of the run exceeds the vector's maximal size. -/
def Exceeds (ops : List Op) : Prop :=
  ∃ before op after tracked, ops = before ++ op :: after ∧
    run step fresh before = .ok tracked ∧
    vectorMaxSize < tracked.buffer.writerIndex + request op

/-- For every sequence of operations on a fresh buffer that meets the callers'
obligations and does not wrap `size_t`, the readable bytes are everything
appended or received so far less what was retrieved from the front. The indices
stay ordered inside the vector, every further permitted operation gives the
owed reply, and no assertion fails. The run ends early only by the exception
of a vector at its maximal size.

Proof: the representation holds initially and each operation keeps it; the
replies follow from the law of one operation at the represented content. -/
theorem buffer_refines_fifo (ops : List Op) (permitted : Along step Permitted fresh ops) :
    Returns (run step fresh ops) (Exceeds ops) (fun tracked =>
      tracked.buffer.content = tracked.history.queued ∧
      tracked.history.arrived = ops.flatMap arrivals ∧
      (kCheapPrepend ≤ tracked.buffer.readerIndex ∧
        tracked.buffer.readerIndex ≤ tracked.buffer.writerIndex ∧
        tracked.buffer.writerIndex ≤ tracked.buffer.buffer.length) ∧
      ∀ op, Permitted tracked op →
        Returns (perform tracked.buffer op)
          (vectorMaxSize < tracked.buffer.writerIndex + request op)
          (Answers tracked.buffer tracked.history.queued op)) := by
  have reached := run_returns step Permitted
    (fun tracked op => vectorMaxSize < tracked.buffer.writerIndex + request op)
    Represents step_represents [] ops fresh fresh_represents permitted
  refine reached.imp id ?_
  intro tracked represents
  obtain ⟨wellFormed, readable, recorded⟩ := represents
  refine ⟨readable, recorded, ⟨wellFormed.prependable, wellFormed.ordered, wellFormed.inside⟩, ?_⟩
  intro op allowed
  refine (perform_returns tracked.buffer op wellFormed allowed.1 allowed.2).imp id ?_
  rintro result ⟨_, _, answered⟩
  rw [← readable]
  exact answered

/-- A run that appends, retrieves, receives and drains. -/
def shortRun : List Op :=
  [.append [7, 8, 9], .retrieve 1, .readFd (.received [5]), .retrieveAsString]

/-- The short run meets the callers' obligations without wrapping a size. -/
theorem buffer_refines_fifo_short_run :
    Along step Permitted fresh shortRun ∧
      Returns (run step fresh shortRun) (Exceeds shortRun) (fun tracked =>
        tracked.buffer.content = tracked.history.queued) := by
  have permitted : Along step Permitted fresh shortRun := by decide +kernel
  have refined := buffer_refines_fifo shortRun permitted
  exact ⟨permitted, refined.imp id (fun tracked holds => holds.1)⟩

end ReactorNetwork.BufferQueue
