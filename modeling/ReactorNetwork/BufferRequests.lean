import ReactorNetwork.BufferFamily

/-!
# Requests near the size limit

`ensure_writeable_bytes` takes any `size_t`. It adds the length to the cheap prepend and
to the writer index, and both sums may wrap around: the first then selects the copying
branch, where an assertion fails, the second asks the vector for fewer bytes than it
has.

The request is written here as its statements, over the members of the buffer: an
assignment stays when a later statement does not return, so that what an exception
leaves behind can be seen. The outcome is the one of the buffer's own model.
-/

namespace ReactorNetwork.BufferRequests

open Buffer CellStore Runs BufferLayout BufferFamily

/-- A member function, over the members it changes. -/
abbrev Method := EStateM Fault Buffer

/-- A part that changes no member. -/
def evaluate {α : Type} (outcome : Outcome α) : Method α := fun b =>
  match outcome with
  | .ok value => .ok value b
  | .error fault => .error fault b

/-- The growing branch of `make_space`. -/
def growSpace (len : Nat) : Method Unit := do
  let b ← get
  let grown ← evaluate (resize 0 b.buffer (sizeAdd len b.writerIndex))
  set { b with buffer := grown }

/-- The other branch of `make_space`, assignment by assignment. -/
def moveToFront : Method Unit := do
  let b ← get
  evaluate (require (kCheapPrepend < b.readerIndex))
  let readable := b.readableBytes
  let moved ← evaluate (accessed (copyRange b.buffer b.readerIndex b.writerIndex kCheapPrepend))
  modify fun b => { b with buffer := moved }
  modify fun b => { b with readerIndex := kCheapPrepend }
  modify fun b => { b with writerIndex := sizeAdd b.readerIndex readable }
  let compacted ← get
  evaluate (require (readable = compacted.readableBytes))

/-- `make_space`, statement by statement. -/
def makeSpace (len : Nat) : Method Unit := do
  let b ← get
  if sizeAdd b.writableBytes b.prependableBytes < sizeAdd len kCheapPrepend then
    growSpace len
  else
    moveToFront

/-- `assert(writable_bytes() >= len)`. -/
def assertWritable (len : Nat) : Method Unit := do
  let b ← get
  evaluate (require (len ≤ b.writableBytes))

/-- `ensure_writeable_bytes`, statement by statement. -/
def ensureWriteableBytes (len : Nat) : Method Unit := do
  let b ← get
  if b.writableBytes < len then
    makeSpace len
  assertWritable len

/-- The statements end as the operation does. After a `std::length_error` every member
is as it was. -/
inductive Agrees (b : Buffer) : EStateM.Result Fault Buffer Unit → Outcome Buffer → Prop where
  | returned (after : Buffer) : Agrees b (.ok () after) (.ok after)
  | failed (fault : Fault) (left : Buffer) (unchanged : fault = .lengthError → left = b) :
      Agrees b (.error fault left) (.error fault)

/-- Enough space behind the same readable bytes, all inside a vector that is not
smaller. -/
structure Provided (b : Buffer) (len : Nat) (after : Buffer) : Prop where
  room : len ≤ after.writableBytes
  readable : after.content = b.content
  inside : after.writerIndex ≤ after.buffer.length
  size : b.buffer.length ≤ after.buffer.length

/-- The request returns with what was asked for, or throws and changes nothing. -/
def Clean (b : Buffer) (len : Nat) : Prop :=
  (∃ after, (ensureWriteableBytes len).run b = .ok () after ∧ Provided b len after) ∨
    (ensureWriteableBytes len).run b = .error .lengthError b

section Statements

variable {start b : Buffer} (len : Nat)

/-- A part in front: if it throws, the members are still those of the beginning. -/
theorem agrees_before {α : Type} {outcome : Outcome α} {next : α → Method Unit}
    {rest : α → Outcome Buffer} (untouched : outcome = .error .lengthError → b = start)
    (continued : ∀ value, outcome = .ok value → Agrees start ((next value).run b) (rest value)) :
    Agrees start ((evaluate outcome >>= next).run b) (outcome >>= rest) := by
  cases outcome with
  | error fault =>
    refine .failed fault b ?_
    rintro rfl
    exact untouched rfl
  | ok value => exact continued value rfl

/-- A last assertion. -/
theorem agrees_assert (condition : Prop) [Decidable condition] :
    Agrees start ((evaluate (require condition)).run b)
      (require condition >>= fun _ => pure b) := by
  by_cases holds : condition
  · rw [require, if_pos holds]
    exact .returned b
  · rw [require, if_neg holds]
    refine .failed .assertion b ?_
    intro impossible
    cases impossible

/-- The statements of `grow_space` end as the operation does. -/
theorem growSpace_agrees : Agrees b ((growSpace len).run b) (b.growSpace len) := by
  refine agrees_before (fun _ => rfl) ?_
  intro grown _
  exact .returned _

/-- So do those that move the content to the front. -/
theorem moveToFront_agrees : Agrees b (moveToFront.run b) b.moveToFront := by
  refine agrees_before (fun _ => rfl) ?_
  intro _ _
  refine agrees_before (fun _ => rfl) ?_
  intro moved _
  exact agrees_assert _

/-- So do both branches together. -/
theorem makeSpace_agrees : Agrees b ((makeSpace len).run b) (b.makeSpace len) := by
  have branches : (makeSpace len).run b =
      if sizeAdd b.writableBytes b.prependableBytes < sizeAdd len kCheapPrepend then
        (growSpace len).run b
      else moveToFront.run b := by
    change (if sizeAdd b.writableBytes b.prependableBytes < sizeAdd len kCheapPrepend then
      growSpace len else moveToFront).run b = _
    split <;> rfl
  rw [branches, Buffer.makeSpace]
  split
  · exact growSpace_agrees len
  · exact moveToFront_agrees

/-- What follows a part that agrees is read from the members it left. -/
theorem agrees_after {first next : Method Unit} {outcome : Outcome Buffer}
    {rest : Buffer → Outcome Buffer} (agrees : Agrees b (first.run b) outcome)
    (continued : ∀ after, Agrees b (next.run after) (rest after)) :
    Agrees b ((first >>= fun _ => next).run b) (outcome >>= rest) := by
  simp only [EStateM.run, bind, EStateM.bind] at agrees continued ⊢
  generalize first b = result at agrees
  cases agrees with
  | returned after => exact continued after
  | failed fault left unchanged => exact .failed fault left unchanged

/-- The statements of a request end as the buffer's own model says. -/
theorem ensureWriteableBytes_agrees :
    Agrees b ((ensureWriteableBytes len).run b) (b.ensureWriteableBytes len) := by
  have asserted : ∀ after : Buffer, Agrees b ((assertWritable len).run after)
      (require (len ≤ after.writableBytes) >>= fun _ => pure after) :=
    fun after => agrees_assert _
  have branches : (ensureWriteableBytes len).run b =
      (if b.writableBytes < len then makeSpace len >>= fun _ => assertWritable len
        else assertWritable len).run b := by
    rfl
  rw [branches, Buffer.ensureWriteableBytes]
  by_cases short : b.writableBytes < len
  · rw [if_pos short, if_pos short]
    exact agrees_after (makeSpace_agrees len) asserted
  · rw [if_neg short, if_neg short]
    exact asserted b

/-- The statements return exactly where the operation does, with the same buffer. -/
theorem run_returned_iff (after : Buffer) :
    (ensureWriteableBytes len).run b = .ok () after ↔ b.ensureWriteableBytes len = .ok after := by
  have agrees := ensureWriteableBytes_agrees (b := b) len
  generalize (ensureWriteableBytes len).run b = result at agrees
  generalize b.ensureWriteableBytes len = outcome at agrees
  cases agrees with
  | returned => simp
  | failed => simp

/-- They throw exactly where it does, and leave the buffer as it was. -/
theorem run_threw_iff :
    (ensureWriteableBytes len).run b = .error .lengthError b ↔
      b.ensureWriteableBytes len = .error .lengthError := by
  have agrees := ensureWriteableBytes_agrees (b := b) len
  generalize (ensureWriteableBytes len).run b = result at agrees
  generalize b.ensureWriteableBytes len = outcome at agrees
  cases agrees with
  | returned => simp
  | failed fault left unchanged =>
    simp only [EStateM.Result.error.injEq, Except.error.injEq]
    exact ⟨And.left, fun threw => ⟨threw, unchanged threw⟩⟩

/-- Whether a request ends well is decided by the buffer's own model. -/
theorem clean_iff : Clean b len ↔
    (∃ after, b.ensureWriteableBytes len = .ok after ∧ Provided b len after) ∨
      b.ensureWriteableBytes len = .error .lengthError := by
  unfold Clean
  rw [run_threw_iff]
  simp only [run_returned_iff]

end Statements

section Requests

variable {b : Buffer} {len : Nat}

/-- With the writer index inside the vector the number of writable bytes is exact. -/
theorem writable_inside (kept : Kept b) (inside : b.writerIndex ≤ b.buffer.length) :
    b.writableBytes = b.buffer.length - b.writerIndex := by
  have limit : vectorMaxSize < sizeLimit := by decide
  have sized := kept.ordered.sized
  exact sizeSub_exact _ _ inside (by omega)

/-- A request whose end does not wrap around, on a buffer whose writer index is inside
the vector, also if less than the cheap prepend is left in front. -/
theorem request_provided (kept : Kept b) (inside : b.writerIndex ≤ b.buffer.length)
    (fits : b.writerIndex + len < sizeLimit) :
    Returns (b.ensureWriteableBytes len) (vectorMaxSize < b.writerIndex + len)
      (Provided b len) := by
  have limit : vectorMaxSize < sizeLimit := by decide
  have inOrder := kept.ordered.ordered
  have sized := kept.ordered.sized
  have low := kept.low
  have writable := writable_inside kept inside
  have spaced : Returns (if b.writableBytes < len then b.makeSpace len else .ok b)
      (vectorMaxSize < b.writerIndex + len) (Provided b len) := by
    by_cases short : b.writableBytes < len
    · have free : sizeAdd b.writableBytes b.prependableBytes = b.writableBytes + b.readerIndex :=
        sizeAdd_exact _ _ (by unfold prependableBytes; omega)
      have wanted : sizeAdd len kCheapPrepend = len + kCheapPrepend := sizeAdd_exact _ _ (by omega)
      rw [if_pos short, Buffer.makeSpace, free, wanted]
      by_cases grows : b.writableBytes + b.readerIndex < len + kCheapPrepend
      · rw [if_pos grows]
        refine (growSpace_extends inside len (by omega) fits).imp id ?_
        rintro spacious ⟨_, writer, size, bounded, same⟩
        refine ⟨?_, same, by omega, by omega⟩
        rw [writableBytes, sizeSub_exact _ _ (by omega) (by omega)]
        omega
      · -- the tail is too short, so more than the cheap prepend lies in front
        rw [if_neg grows]
        have wellFormed : b.WellFormed := ⟨by omega, inOrder, inside, sized⟩
        refine (moveToFront_returns wellFormed (by omega) _).imp id ?_
        rintro spacious ⟨well, same, enough, size⟩
        exact ⟨by omega, same, well.inside, by omega⟩
    · rw [if_neg short]
      exact returns_ok ⟨by omega, rfl, inside, Nat.le_refl _⟩
  refine spaced.bind ?_
  intro spacious provided
  exact Returns.assert provided.room (returns_ok provided)

/-- The copying branch does not throw: it only asserts and copies. -/
theorem moveToFront_unthrown : b.moveToFront ≠ .error .lengthError := by
  intro threw
  rcases (bind_error _ _ _).mp threw with asserted | ⟨_, _, continued⟩
  · cases ((require_error _ _).mp asserted).2
  · rcases (bind_error _ _ _).mp continued with copied | ⟨moved, _, finished⟩
    · cases ((accessed_error _ _).mp copied).2
    · rcases (bind_error _ _ _).mp finished with asserted | ⟨_, _, same⟩
      · cases ((require_error _ _).mp asserted).2
      · cases same

/-- A request throws only where the vector is asked for more than its maximal size. -/
theorem request_threw (threw : b.ensureWriteableBytes len = .error .lengthError) :
    vectorMaxSize < sizeAdd len b.writerIndex := by
  rcases (bind_error _ _ _).mp threw with spaced | ⟨spacious, _, finished⟩
  · split at spaced
    case isFalse => cases spaced
    case isTrue =>
      unfold Buffer.makeSpace at spaced
      split at spaced
      · rcases (bind_error _ _ _).mp spaced with resized | ⟨_, _, same⟩
        · unfold resize at resized
          split at resized
          case isTrue => cases resized
          case isFalse exceeded => omega
        · cases same
      · exact absurd spaced moveToFront_unthrown
  · rcases (bind_error _ _ _).mp finished with asserted | ⟨_, _, same⟩
    · cases ((require_error _ _).mp asserted).2
    · cases same

/-- The end of a request that wraps around lies below the writer index. -/
theorem wrapped_end (kept : Kept b) (ranged : len < sizeLimit)
    (wraps : sizeLimit ≤ b.writerIndex + len) : sizeAdd len b.writerIndex < b.writerIndex := by
  have limit : vectorMaxSize < sizeLimit := by decide
  have high := kept.high
  have reduced : sizeAdd len b.writerIndex = len + b.writerIndex - sizeLimit := by
    rw [sizeAdd, Nat.mod_eq_sub_mod (by omega), Nat.mod_eq_of_lt (by omega)]
  omega

/-- A request that ends well does not wrap around.

Proof: one that does is longer than any vector, so the copying branch cannot provide it.
The growing branch gives the vector a size below the writer index, which is no reason to
throw and leaves that index outside. -/
theorem clean_fits (kept : Kept b) (ranged : len < sizeLimit) (clean : Clean b len) :
    b.writerIndex + len < sizeLimit := by
  by_contra wraps
  have wraps : sizeLimit ≤ b.writerIndex + len := Nat.le_of_not_lt wraps
  have high := kept.high
  have sized := kept.ordered.sized
  have stop := wrapped_end kept ranged wraps
  have long : vectorMaxSize < len := by
    unfold vectorMaxSize at *
    unfold sizeLimit at wraps
    omega
  rcases (clean_iff len).mp clean with ⟨after, returned, provided⟩ | threw
  · have room := provided.room
    have inside := provided.inside
    rw [writableBytes] at room
    cases (ensured returned).1 with
    | enough _ => 
      rw [sizeSub_exact _ _ inside (by omega)] at room
      omega
    | grown short scarce cells resized =>
      have size := (resize_length resized).1
      simp only at inside
      omega
    | moved short spare reclaimable cells copied =>
      simp only [copyRange_length copied] at room inside
      rw [sizeSub_exact _ _ inside (by omega)] at room
      omega
  · have exceeded := request_threw threw
    omega

/-- A request that ends well has found the writer index inside the vector. -/
theorem clean_inside (kept : Kept b) (ranged : len < sizeLimit) (clean : Clean b len) :
    b.writerIndex ≤ b.buffer.length := by
  have fits := clean_fits kept ranged clean
  by_contra outside
  have high := kept.high
  have limit : vectorMaxSize < sizeLimit := by decide
  -- the writable size has wrapped around, so that every request seems to fit
  have writable : b.writableBytes = sizeLimit + b.buffer.length - b.writerIndex := by
    rw [writableBytes, sizeSub, Nat.mod_eq_of_lt (by omega)]
    omega
  have same : b.ensureWriteableBytes len = .ok b := by
    rw [Buffer.ensureWriteableBytes, if_neg (by omega)]
    exact require_passed (by omega) _
  rcases (clean_iff len).mp clean with ⟨after, returned, provided⟩ | threw
  · obtain rfl := Except.ok.inj (same.symm.trans returned)
    exact outside provided.inside
  · cases same.symm.trans threw

end Requests

/-- For every buffer of every run and every `size_t`: the request returns with the space
asked for and everything else as it was, or throws and changes nothing, exactly when the
writer index is inside the vector and its sum with the length does not wrap around.

Proof: without wrap-around the branch taken has room for the request or throws. With it
the size asked of the vector lies below the writer index. A writer index outside lets
every other request return at once. -/
theorem request_clean_iff (labels : List Label) (buffers : Nat → Buffer)
    (reached : run BufferFamily.step BufferFamily.fresh labels = .ok buffers) (id len : Nat)
    (ranged : len < sizeLimit) :
    Clean (buffers id) len ↔ (buffers id).writerIndex ≤ (buffers id).buffer.length ∧
      (buffers id).writerIndex + len < sizeLimit := by
  have kept := reached_kept reached id
  constructor
  · intro clean
    exact ⟨clean_inside kept ranged clean, clean_fits kept ranged clean⟩
  · rintro ⟨inside, fits⟩
    refine (clean_iff len).mpr ?_
    cases request_provided kept inside fits with
    | returned after returned provided => exact Or.inl ⟨after, returned, provided⟩
    | threw threw _ => exact Or.inr threw

/-- Twenty bytes in one buffer. -/
def twentyBytes : List Label := [.on 0 (.layout (.queue (.append (List.replicate 20 7))))]

/-- On this buffer a request that can be met and one that is too long both end well. -/
theorem request_clean_twentyBytes :
    ∃ buffers, run BufferFamily.step BufferFamily.fresh twentyBytes = .ok buffers ∧
      (buffers 0).content.length = 20 ∧ Clean (buffers 0) 2000 ∧ Clean (buffers 0) (2 ^ 63) := by
  have computed : (run BufferFamily.step BufferFamily.fresh twentyBytes).map (fun buffers =>
      ((buffers 0).content.length, (buffers 0).writerIndex, (buffers 0).buffer.length)) =
      .ok (20, 28, 1032) := by decide +kernel
  obtain ⟨buffers, reached, computed⟩ := (map_returned _ _ _).mp computed
  simp only [Prod.mk.injEq] at computed
  obtain ⟨readable, writer, size⟩ := computed
  refine ⟨buffers, reached, readable, ?_, ?_⟩
  · refine (request_clean_iff twentyBytes buffers reached 0 2000 (by decide)).mpr ?_
    rw [writer, size]
    decide
  · refine (request_clean_iff twentyBytes buffers reached 0 (2 ^ 63) (by decide)).mpr ?_
    rw [writer, size]
    decide

/-- A request whose end wraps around returns with the vector cut down in front of the
readable bytes. -/
theorem wrapped_request_cuts :
    ∃ buffers, run BufferFamily.step BufferFamily.fresh twentyBytes = .ok buffers ∧
      (buffers 0).content.length = 20 ∧
      (∃ after, (ensureWriteableBytes (2 ^ 64 - 20)).run (buffers 0) = .ok () after ∧
        after.buffer.length = 8 ∧ after.content = []) ∧ ¬ Clean (buffers 0) (2 ^ 64 - 20) := by
  have computed : (run BufferFamily.step BufferFamily.fresh twentyBytes).map (fun buffers =>
      ((buffers 0).content.length, (buffers 0).buffer.length,
        ((buffers 0).ensureWriteableBytes (2 ^ 64 - 20)).map fun after =>
          (after.buffer.length, after.content))) = .ok (20, 1032, .ok (8, [])) := by
    decide +kernel
  obtain ⟨buffers, reached, computed⟩ := (map_returned _ _ _).mp computed
  simp only [Prod.mk.injEq] at computed
  obtain ⟨readable, size, computed⟩ := computed
  obtain ⟨after, returned, computed⟩ := (map_returned _ _ _).mp computed
  simp only [Prod.mk.injEq] at computed
  obtain ⟨smaller, lost⟩ := computed
  refine ⟨buffers, reached, readable, ⟨after, (run_returned_iff _ after).mpr returned, smaller, lost⟩, ?_⟩
  intro clean
  rcases (clean_iff _).mp clean with ⟨other, again, provided⟩ | threw
  · obtain rfl := Except.ok.inj (returned.symm.trans again)
    have larger := provided.size
    omega
  · cases returned.symm.trans threw

-- A still longer request wraps the other sum and fails an assertion.
example : Buffer.fresh.ensureWriteableBytes (2 ^ 64 - 1) = .error .assertion := by decide +kernel

end ReactorNetwork.BufferRequests
