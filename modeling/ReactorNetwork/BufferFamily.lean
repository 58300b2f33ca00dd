import ReactorNetwork.BufferLayout

/-!
# Runs of several buffers

A program holds any number of buffers, uses each through its operations and exchanges
two of them with `swap`. The operations are those of the queue, `prepend`, `shrink`, and
a write of the caller's own at `begin_write()` that `has_written` completes. Nothing is
assumed of the sizes they are given. A failed assertion, an exception and a write
outside the vector end a run.

Two of the operations may leave the writer index outside the vector, `shrink` and a
request that wraps around. What holds of every buffer in every run is the order of the
indices, and that the writer index lies between the cheap prepend and the largest size
of a vector.
-/

namespace ReactorNetwork.BufferFamily

open Buffer CellStore Runs BufferLayout

/-- An operation on one buffer. -/
inductive Op where
  | layout (op : BufferLayout.Op)
  | shrink (reserve : Nat)
  | hasWritten (data : List Byte)
deriving DecidableEq, Repr

/-- What an operation makes of a buffer. -/
def perform (b : Buffer) : Op → Outcome Buffer
  | .layout op => BufferLayout.step b op
  | .shrink reserve => b.shrink reserve
  | .hasWritten data => do
      let written ← accessed (store b.buffer b.beginWrite data)
      pure ({ b with buffer := written }.hasWritten data.length)

/-- An operation on one buffer, or an exchange of two. -/
inductive Label where
  | on (id : Nat) (op : Op)
  | swap (id rhs : Nat)
deriving DecidableEq, Repr

/-- The buffers by their names, each as its constructor left it. -/
def fresh : Nat → Buffer := fun _ => Buffer.fresh

/-- One operation on the buffers. -/
def step (buffers : Nat → Buffer) : Label → Outcome (Nat → Buffer)
  | .on id op => do
      let after ← perform (buffers id) op
      pure (Function.update buffers id after)
  | .swap id rhs =>
      let swapped := (buffers id).swap (buffers rhs)
      pure (Function.update (Function.update buffers id swapped.1) rhs swapped.2)

/-- The label uses an allowed operation; `swap` always is. -/
def Label.Uses (allowed : Op → Prop) : Label → Prop
  | .on _ op => allowed op
  | .swap _ _ => True

section Family

variable (allowed : Op → Prop) {holds : Buffer → Prop}

/-- What each allowed operation keeps of a buffer, a step keeps of all of them. -/
theorem step_each
    (kept : ∀ b op after, allowed op → holds b → perform b op = .ok after → holds after)
    {buffers next : Nat → Buffer} {label : Label} (uses : label.Uses allowed)
    (each : ∀ id, holds (buffers id)) (taken : step buffers label = .ok next) (id : Nat) :
    holds (next id) := by
  cases label with
  | on target op =>
    obtain ⟨after, performed, same⟩ := (bind_ok _ _ _).mp taken
    obtain rfl := (pure_ok _ _).mp same
    by_cases here : id = target
    · subst here
      rw [Function.update_self]
      exact kept _ op after uses (each id) performed
    · rw [Function.update_of_ne here]
      exact each id
  | swap target rhs =>
    obtain rfl := (pure_ok _ _).mp taken
    by_cases second : id = rhs
    · subst second
      rw [Function.update_self]
      exact each target
    · rw [Function.update_of_ne second]
      by_cases first : id = target
      · subst first
        rw [Function.update_self]
        exact each rhs
      · rw [Function.update_of_ne first]
        exact each id

/-- A law of one buffer that the allowed operations keep holds of every buffer of a
run. -/
theorem reached_each
    (kept : ∀ b op after, allowed op → holds b → perform b op = .ok after → holds after)
    (initial : holds Buffer.fresh) {labels : List Label} {buffers : Nat → Buffer}
    (uses : ∀ label ∈ labels, label.Uses allowed) (reached : run step fresh labels = .ok buffers)
    (id : Nat) : holds (buffers id) :=
  guarded_invariant step (fun _ label => label.Uses allowed) (fun family => ∀ id, holds (family id))
    (fun _ _ _ each used taken => step_each allowed kept used each taken) labels fresh buffers
    (fun _ => initial) (along_labels step (Label.Uses allowed) fresh labels uses) reached id

end Family

/-- What holds of every buffer, whatever its operations were asked for. -/
structure Kept (b : Buffer) : Prop where
  ordered : Ordered b
  low : kCheapPrepend ≤ b.writerIndex
  high : b.writerIndex ≤ vectorMaxSize

section Operations

variable {b after : Buffer}

/-- A fresh buffer has both indices behind the reserve and fits into a vector. -/
theorem fresh_kept : Kept Buffer.fresh where
  ordered := fresh_ordered
  low := Nat.le_refl _
  high := by
    simp only [Buffer.fresh]
    decide

/-- Retrieving everything puts both indices back behind the reserve. -/
theorem retrieveAll_kept (kept : Kept b) : Kept b.retrieveAll where
  ordered := retrieveAll_ordered kept.ordered
  low := Nat.le_refl _
  high := by
    simp only [retrieveAll]
    decide

/-- A request leaves the writer index where it is, or moves it to the front by the
reclaimed bytes. -/
theorem ensureWriteableBytes_kept {len : Nat} (kept : Kept b)
    (returned : b.ensureWriteableBytes len = .ok after) : Kept after := by
  have inOrder := kept.ordered.ordered
  have readable := kept.ordered.readable
  have low := kept.low
  have high := kept.high
  have limit : vectorMaxSize < sizeLimit := by decide
  suffices bounds : kCheapPrepend ≤ after.writerIndex ∧ after.writerIndex ≤ vectorMaxSize from
    ⟨ensureWriteableBytes_ordered kept.ordered returned, bounds.1, bounds.2⟩
  cases (ensured returned).1 with
  | enough room => exact ⟨low, high⟩
  | grown short scarce cells resized => exact ⟨low, high⟩
  | moved short spare reclaimable cells copied =>
    have stop : sizeAdd kCheapPrepend b.readableBytes = kCheapPrepend + b.readableBytes :=
      sizeAdd_exact _ _ (by omega)
    simp only [stop]
    omega

/-- A write inside the vector moves the writer index at most to its end. -/
theorem written_kept {data written : List Byte} (kept : Kept b)
    (stored : store b.buffer b.beginWrite data = some written) :
    Kept ({ b with buffer := written }.hasWritten data.length) := by
  have low := kept.low
  have high := kept.high
  have sized := kept.ordered.sized
  have limit : vectorMaxSize < sizeLimit := by decide
  have below : b.writerIndex + data.length ≤ vectorMaxSize := by
    rcases (store_inside stored).2 with rfl | fits
    · exact high
    · unfold beginWrite at fits
      omega
  have stop : sizeAdd b.writerIndex data.length = b.writerIndex + data.length :=
    sizeAdd_exact _ _ (by omega)
  refine ⟨written_ordered kept.ordered stored, ?_, ?_⟩
  · simp only [hasWritten, stop]
    omega
  · simp only [hasWritten, stop]
    exact below

/-- An append that returns has found or made room in front of the writer index it
leaves. -/
theorem append_kept {str : List Byte} (kept : Kept b) (returned : b.append str = .ok after) :
    Kept after := by
  obtain ⟨spacious, written, made, stored, rfl⟩ := append_done returned
  exact written_kept (ensureWriteableBytes_kept kept made) stored

/-- So has an append from a pointer. -/
theorem appendBytes_kept {data : List Byte} {len : Nat} (kept : Kept b)
    (returned : b.appendBytes data len = .ok after) : Kept after := by
  obtain ⟨spacious, source, written, made, _, stored, rfl⟩ := appendBytes_done returned
  exact written_kept (ensureWriteableBytes_kept kept made) stored

/-- A read fills the writable tail, and appends what the stack array took. -/
theorem readFd_kept {data : List Byte} {n : Except Nat Nat} (kept : Kept b)
    (returned : b.readFd (.received data) = .ok (after, n)) : Kept after := by
  cases received returned with
  | fitted short filled stored => exact written_kept kept stored
  | spilled long filled stored after appended =>
    have inOrder := kept.ordered.ordered
    have low := kept.low
    have sized := kept.ordered.sized
    have limit : vectorMaxSize < sizeLimit := by decide
    have width : filled.length = b.buffer.length := (store_inside stored).1
    have inside : b.writerIndex ≤ b.buffer.length := spilled_inside kept.ordered stored long
    refine appendBytes_kept ⟨⟨?_, ?_, ?_⟩, ?_, ?_⟩ appended
    all_goals
      simp only [width]
      omega

/-- Every operation of the byte queue keeps a buffer's indices in order. -/
theorem queue_kept {op : BufferQueue.Op} {reply : BufferQueue.Reply} (kept : Kept b)
    (returned : BufferQueue.perform b op = .ok (after, reply)) : Kept after := by
  cases BufferQueue.performed returned with
  | append str after done => exact append_kept kept done
  | appendBytes data len after done => exact appendBytes_kept kept done
  | ensureWriteableBytes len after done => exact ensureWriteableBytes_kept kept done
  | retrieve len present =>
    exact ⟨retrieved_ordered kept.ordered present, kept.low, kept.high⟩
  | retrieveUntil stop lower upper present =>
    exact ⟨retrieved_ordered kept.ordered present, kept.low, kept.high⟩
  | retrieveAll | retrieveAsString => exact retrieveAll_kept kept
  | failed errno => exact kept
  | received data after n done => exact readFd_kept kept done

/-- Prepending moves the reader index back and leaves the writer index. -/
theorem prepend_kept {data : List Byte} {len : Nat} (kept : Kept b)
    (returned : b.prepend data len = .ok after) : Kept after := by
  have ordered := prepend_ordered kept.ordered returned
  obtain ⟨_, continued⟩ := (require_bind_ok _ _ _).mp returned
  obtain ⟨_, _, rest⟩ := (bind_ok _ _ _).mp continued
  obtain ⟨_, _, same⟩ := (bind_ok _ _ _).mp rest
  obtain rfl := (pure_ok _ _).mp same
  exact ⟨ordered, kept.low, kept.high⟩

/-- Shrinking keeps both indices, over a vector that still holds them. -/
theorem shrink_keeps {reserve : Nat} (kept : Kept b) (returned : b.shrink reserve = .ok after) :
    Kept after := by
  obtain ⟨reader, writer, _, _, sized⟩ := shrink_kept returned
  exact ⟨⟨by rw [reader, writer]; exact kept.ordered.ordered,
    by rw [writer]; exact kept.ordered.ranged, sized⟩, by rw [writer]; exact kept.low,
    by rw [writer]; exact kept.high⟩

/-- Every operation keeps the indices in order, whatever it was asked for. -/
theorem perform_kept {op : Op} (kept : Kept b) (returned : perform b op = .ok after) :
    Kept after := by
  cases op with
  | layout op =>
    cases op with
    | queue op =>
      obtain ⟨⟨result, reply⟩, performed, same⟩ := (bind_ok _ _ _).mp returned
      obtain rfl := (pure_ok _ _).mp same
      exact queue_kept kept performed
    | prepend data len => exact prepend_kept kept returned
  | shrink reserve => exact shrink_keeps kept returned
  | hasWritten data =>
    obtain ⟨written, stored, same⟩ := (bind_ok _ _ _).mp returned
    obtain rfl := (pure_ok _ _).mp same
    exact written_kept kept ((accessed_ok _ _).mp stored)

/-- Every buffer of every run. -/
theorem reached_kept {labels : List Label} {buffers : Nat → Buffer}
    (reached : run step fresh labels = .ok buffers) (id : Nat) : Kept (buffers id) :=
  reached_each (fun _ => True) (fun _ _ _ _ kept returned => perform_kept kept returned) fresh_kept
    (fun label _ => by cases label <;> trivial) reached id

end Operations

end ReactorNetwork.BufferFamily
