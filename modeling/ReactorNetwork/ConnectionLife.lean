import ReactorNetwork.TcpConnection

/-!
# The life of the connections of one loop

Connections that belong to a server or to a client on a single loop, from their
establishment to `connect_destoryed`. An owner says how connections come about,
which of them it holds, and what its close callback does before it queues the
destruction. The loop polls, dispatches the active channels in order, and runs
the queued destructions before it polls again. A dispatch invokes the callbacks
of its mask one by one, and the close callback is a step of its own.

A mask is arbitrary, and so are the results of reading and writing. The poller
may report any connections, each at most once in an iteration; the laws do not
depend on what it knows. User code may send on a connection and shut it down at
any time, from any thread, and owners may act at any time.

Functors that are not destructions are not kept in the queue: what they do is
taken as steps of user code or of the owner.
-/

namespace ReactorNetwork.ConnectionLife

open TcpConnection

/-- Why a step did not return. The named assertions are those of `handle_close`,
of the owner's removal and of `connect_destoryed`. -/
inductive Failure where
  | notEnabled
  | closeState
  | removal
  | destroyedState
  | connIdOverflow
  | fault (fault : Fault)
deriving DecidableEq, Repr

/-- A server or a client: a step of its own may hand over a connected socket,
with whether a write-complete callback is set. -/
structure Owner where
  State : Type
  Label : Type
  Choice : Type
  initial : State
  act : State → Label → Except Failure (State × Option (Int × Bool))
  enroll : State → Nat → State
  remove : State → Nat → Choice → Except Failure State
  holds : State → Nat → Prop

/-- Where the loop is: outside dispatching, between two channels, between two
callbacks of one dispatch, inside a close callback, or running functors. -/
inductive Phase where
  | polling
  | dispatching (active : List Nat)
  | handling (id : Nat) (revents : EventMask) (callbacks : List Callback) (active : List Nat)
  | removing (id : Nat) (revents : EventMask) (callbacks : List Callback) (active : List Nat)
  | running (batch : List Nat)

/-- The loop's connections by number, its queued destructions, and a record of
the close callbacks invoked and of the destructions executed. -/
structure System (O : Owner) where
  owner : O.State
  objects : Nat → TcpConnection
  created : Nat
  phase : Phase
  pending : List Nat
  closed : List Nat
  destroyed : List Nat

/-- A step of the loop, of the owner, or of user code that calls a connection. -/
inductive Label (O : Owner) where
  | poll (active : List Nat)
  | dispatch (revents : EventMask)
  | callback (read : ReadvResult) (write : WriteResult)
  | remove (choice : O.Choice)
  | finishEvent
  | swap
  | runFunctor
  | finishFunctors
  | shutdown (id : Nat)
  | send (id : Nat) (message : StringView) (result : WriteResult)
  | owner (label : O.Label)

variable {O : Owner}

/-- The loop before its first connection. -/
def initial (O : Owner) : System O where
  owner := O.initial
  objects := fun _ => create 0 false
  created := 0
  phase := .polling
  pending := []
  closed := []
  destroyed := []

/-- The connections with one of them changed. -/
def setObject (objects : Nat → TcpConnection) (id : Nat) (c : TcpConnection) :
    Nat → TcpConnection :=
  fun other => if other = id then c else objects other

/-- A fault inside a connection's function. -/
def lift {α : Type} : Outcome α → Except Failure α
  | .ok value => .ok value
  | .error fault => .error (.fault fault)

/-- Name the assertion that ended a function. -/
def asserted {α : Type} (failure : Failure) : Outcome α → Except Failure α
  | .ok value => .ok value
  | .error _ => .error failure

/-- Naming a fault changes no outcome that returns. -/
@[simp] theorem lift_ok {α : Type} (outcome : Outcome α) (value : α) :
    lift outcome = .ok value ↔ outcome = .ok value := by
  cases outcome <;> simp [lift]

/-- Nor does naming an assertion. -/
@[simp] theorem asserted_ok {α : Type} (failure : Failure) (outcome : Outcome α) (value : α) :
    asserted failure outcome = .ok value ↔ outcome = .ok value := by
  cases outcome <;> simp [asserted]

/-- The function a channel callback is bound to. -/
def handle (c : TcpConnection) (callback : Callback) (read : ReadvResult) (write : WriteResult) :
    Except Failure (TcpConnection × List Effect) :=
  match callback with
  | .close => asserted .closeState c.handleClose
  | .error => pure (c, [])
  | .read => lift (c.handleRead read)
  | .write => lift (c.handleWrite write)

/-- All four callbacks of a connection's channel are set by its constructor. -/
def connectionCallbacks (_ : Callback) : Bool := true

/-- The compare-and-exchange of `shutdown`. -/
def exchangeState (c : TcpConnection) : TcpConnection :=
  if c.state = .connected then { c with state := .disconnecting } else c

/-- `next_conn_id_` is an `int` that starts at one. -/
def maxConnections : Nat := 2 ^ 31 - 2

/-- One step. The phases follow the loop: events first, then the queued functors. -/
def step (s : System O) : Label O → Except Failure (System O)
  | .poll active =>
      match s.phase with
      | .polling =>
          if active.Nodup ∧ ∀ id ∈ active, id < s.created then
            pure { s with phase := .dispatching active }
          else .error .notEnabled
      | _ => .error .notEnabled
  | .dispatch revents =>
      match s.phase with
      | .dispatching (id :: active) =>
          pure { s with
            phase := .handling id revents (Channel.handleEvent connectionCallbacks revents) active }
      | _ => .error .notEnabled
  | .callback read write =>
      match s.phase with
      | .handling id revents (callback :: callbacks) active => do
          let (c, effects) ← handle (s.objects id) callback read write
          let handled := { s with objects := setObject s.objects id c }
          if Effect.closeCallback ∈ effects then
            pure { handled with
              closed := s.closed ++ [id]
              phase := .removing id revents callbacks active }
          else pure { handled with phase := .handling id revents callbacks active }
      | _ => .error .notEnabled
  | .remove choice =>
      match s.phase with
      | .removing id revents callbacks active => do
          let owner ← O.remove s.owner id choice
          pure { s with
            owner := owner
            pending := s.pending ++ [id]
            phase := .handling id revents callbacks active }
      | _ => .error .notEnabled
  | .finishEvent =>
      match s.phase with
      | .handling _ _ [] active => pure { s with phase := .dispatching active }
      | _ => .error .notEnabled
  | .swap =>
      match s.phase with
      | .dispatching [] => pure { s with phase := .running s.pending, pending := [] }
      | _ => .error .notEnabled
  | .runFunctor =>
      match s.phase with
      | .running (id :: rest) => do
          let (c, _) ← asserted .destroyedState (s.objects id).connectDestoryed
          pure { s with
            objects := setObject s.objects id c
            destroyed := s.destroyed ++ [id]
            phase := .running rest }
      | _ => .error .notEnabled
  | .finishFunctors =>
      match s.phase with
      | .running [] => pure { s with phase := .polling }
      | _ => .error .notEnabled
  | .shutdown id =>
      if id < s.created then
        pure { s with objects := setObject s.objects id (exchangeState (s.objects id)) }
      else .error .notEnabled
  | .send id message result =>
      if id < s.created then do
        let (c, _) ← lift ((s.objects id).sendInLoop message result)
        pure { s with objects := setObject s.objects id c }
      else .error .notEnabled
  | .owner label => do
      let (owner, socket) ← O.act s.owner label
      match socket with
      | none => pure { s with owner := owner }
      | some (sockFd, writeCompleteCallback) =>
          if s.created < maxConnections then do
            let (c, _) ← lift (create sockFd writeCompleteCallback).connectEstablished
            pure { s with
              owner := O.enroll owner s.created
              objects := setObject s.objects s.created c
              created := s.created + 1 }
          else .error .connIdOverflow

/-- The hang-up branch of `handle_event` is taken. -/
def hangup (revents : EventMask) : Bool := anySet revents POLLHUP && !anySet revents POLLIN

/-- The next callback of the dispatch reads an end of file, and the hang-up branch
is taken in the same dispatch. -/
def readsEofAfterHangup (read : ReadvResult) : Phase → Bool
  | .handling _ revents (.read :: _) _ => hangup revents && read == .received []
  | _ => false

/-- In a dispatch that takes the hang-up branch the read callback, if it is
invoked too, does not read an end of file. -/
def noEofAfterHangup (s : System O) : Label O → Prop
  | .callback read _ => readsEofAfterHangup read s.phase = false
  | _ => True

instance (s : System O) (label : Label O) : Decidable (noEofAfterHangup s label) :=
  match label with
  | .callback _ _ => inferInstanceAs (Decidable (_ = false))
  | .poll _ | .dispatch _ | .remove _ | .finishEvent | .swap | .runFunctor | .finishFunctors
  | .shutdown _ | .send _ _ _ | .owner _ => isTrue trivial

/-- What a removal and an enrolment do to the connections an owner holds. The
owner's own assertion passes for a connection it holds. -/
structure Lawful (O : Owner) (valid : O.State → Prop) : Prop where
  initial_valid : valid O.initial
  initial_empty : ∀ id, ¬ O.holds O.initial id
  act_kept : ∀ s label t socket, valid s → O.act s label = .ok (t, socket) →
    valid t ∧ ∀ id, O.holds t id ↔ O.holds s id
  enroll_kept : ∀ s label t socket id, valid s → O.act s label = .ok (t, some socket) →
    ¬ O.holds s id →
    valid (O.enroll t id) ∧ ∀ other, O.holds (O.enroll t id) other ↔ other = id ∨ O.holds s other
  remove_kept : ∀ s id choice t, valid s → O.remove s id choice = .ok t →
    valid t ∧ ∀ other, O.holds t other ↔ O.holds s other ∧ other ≠ id
  remove_held : ∀ s id choice, valid s → O.holds s id → O.remove s id choice ≠ .error .removal
  act_quiet : ∀ s label, O.act s label ≠ .error .removal ∧ O.act s label ≠ .error .destroyedState
  remove_quiet : ∀ s id choice, O.remove s id choice ≠ .error .destroyedState

section Connections

/-- The states `handle_close` and `connect_destoryed` assert. -/
def Open (c : TcpConnection) : Prop := c.state = .connected ∨ c.state = .disconnecting

/-- The callback reaches `handle_close`. -/
def closes (callback : Callback) (read : ReadvResult) : Prop :=
  callback = .close ∨ callback = .read ∧ read = .received []

/-- What sending and flushing may do outside: neither callbacks of the user or the
owner nor a removal from the poller. -/
def outgoing : Effect → Bool
  | .wrote _ | .updateChannel | .queueWriteComplete | .shutdownWrite => true
  | _ => false

/-- A queued write-complete callback is an effect of sending. -/
theorem notify_outgoing (c : TcpConnection) : ∀ effect ∈ c.notify, outgoing effect = true := by
  unfold notify
  split <;> simp [outgoing]

/-- A direct write has effects of sending only. -/
theorem writeDirectly_outgoing (c : TcpConnection) (message : List Byte) (result : WriteResult) :
    ∀ effect ∈ (c.writeDirectly message result).2, outgoing effect = true := by
  have notified := notify_outgoing c
  unfold writeDirectly
  split
  · split
    · split
      · simp [outgoing]
      · simpa [outgoing] using notified
    · simp
  · simp

/-- `send_in_loop` leaves the state as it is and has effects of sending only. -/
theorem sendInLoop_state {c after : TcpConnection} {message : StringView} {result : WriteResult}
    {effects : List Effect} (returned : c.sendInLoop message result = .ok (after, effects)) :
    after.state = c.state ∧ ∀ effect ∈ effects, outgoing effect = true := by
  have direct := writeDirectly_outgoing c message.bytes result
  unfold sendInLoop at returned
  generalize c.writeDirectly message.bytes result = written at returned direct
  simp only at returned
  split at returned
  · obtain ⟨buffered, _, continued⟩ := (bind_ok _ _ _).mp returned
    split at continued
    · obtain ⟨rfl, rfl⟩ := Prod.mk.inj ((pure_ok _ _).mp continued)
      exact ⟨rfl, direct⟩
    · obtain ⟨rfl, rfl⟩ := Prod.mk.inj ((pure_ok _ _).mp continued)
      refine ⟨rfl, ?_⟩
      intro effect member
      rcases List.mem_append.mp member with earlier | last
      · exact direct effect earlier
      · rw [List.mem_singleton.mp last]
        rfl
  · obtain ⟨rfl, rfl⟩ := Prod.mk.inj ((pure_ok _ _).mp returned)
    exact ⟨rfl, direct⟩

/-- So does `handle_write`. -/
theorem handleWrite_state {c after : TcpConnection} {result : WriteResult} {effects : List Effect}
    (returned : c.handleWrite result = .ok (after, effects)) :
    after.state = c.state ∧ ∀ effect ∈ effects, outgoing effect = true := by
  have notified := notify_outgoing c
  unfold handleWrite at returned
  split at returned
  · obtain ⟨offered, _, continued⟩ := (bind_ok _ _ _).mp returned
    split at continued
    · obtain ⟨rest, _, finished⟩ := (bind_ok _ _ _).mp continued
      split at finished
      · obtain ⟨rfl, rfl⟩ := Prod.mk.inj ((pure_ok _ _).mp finished)
        refine ⟨rfl, ?_⟩
        have shutdown : ∀ effect ∈ (if c.state = .disconnecting then
            shutdownInLoop { c with outputBuffer := rest, channel := c.channel.disableWriting }
            else []), outgoing effect = true := by
          unfold shutdownInLoop
          split
          · split <;> simp [outgoing]
          · simp
        intro effect member
        rcases List.mem_append.mp member with earlier | last
        · rcases List.mem_append.mp earlier with first | told
          · rcases List.mem_pair.mp first with rfl | rfl <;> rfl
          · exact notified effect told
        · exact shutdown effect last
      · obtain ⟨rfl, rfl⟩ := Prod.mk.inj ((pure_ok _ _).mp finished)
        exact ⟨rfl, by simp [outgoing]⟩
    · obtain ⟨rfl, rfl⟩ := Prod.mk.inj ((pure_ok _ _).mp continued)
      exact ⟨rfl, by simp⟩
  · obtain ⟨rfl, rfl⟩ := Prod.mk.inj ((pure_ok _ _).mp returned)
    exact ⟨rfl, by simp⟩

/-- A read reports zero bytes exactly at the end of file. -/
theorem readFd_count {b filled : Buffer} {read : ReadvResult} {n : Except Nat Nat}
    (returned : b.readFd read = .ok (filled, n)) : n = .ok 0 ↔ read = .received [] := by
  cases read with
  | failed errno =>
    obtain ⟨_, rfl⟩ := Prod.mk.inj ((pure_ok _ _).mp returned)
    simp
  | received data =>
    have count : n = .ok data.length := by
      unfold Buffer.readFd at returned
      obtain ⟨stored, _, continued⟩ := (bind_ok _ _ _).mp returned
      simp only at continued
      split at continued
      · exact (Prod.mk.inj ((pure_ok _ _).mp continued)).2.symm
      · obtain ⟨appended, _, finished⟩ := (bind_ok _ _ _).mp continued
        exact (Prod.mk.inj ((pure_ok _ _).mp finished)).2.symm
    rw [count]
    simp

/-- `handle_read` leaves the state as it is, and closes exactly at an end of file, in a
state that `handle_close` asserts. -/
theorem handleRead_state {c after : TcpConnection} {read : ReadvResult} {effects : List Effect}
    (returned : c.handleRead read = .ok (after, effects)) :
    after.state = c.state ∧ (Effect.closeCallback ∈ effects ↔ read = .received []) ∧
      (Effect.closeCallback ∈ effects → Open c) := by
  obtain ⟨⟨filled, n⟩, readBytes, continued⟩ := (bind_ok _ _ _).mp returned
  have count := readFd_count readBytes
  simp only at continued
  split at continued
  case h_1 =>
    obtain ⟨isOpen, same⟩ := (handleClose_ok _ _).mp continued
    obtain ⟨rfl, rfl⟩ := Prod.mk.inj same
    exact ⟨rfl, by simp [count.mp rfl], fun _ => isOpen⟩
  case h_2 other =>
    obtain ⟨rfl, rfl⟩ := Prod.mk.inj ((pure_ok _ _).mp continued)
    have notEof : read ≠ .received [] := fun eof => by
      have zero := count.mpr eof
      simp only [Except.ok.injEq] at zero
      exact other zero
    exact ⟨rfl, by simp [notEof], by simp⟩
  case h_3 =>
    obtain ⟨rfl, rfl⟩ := Prod.mk.inj ((pure_ok _ _).mp continued)
    have notEof : read ≠ .received [] := fun eof => by
      have zero := count.mpr eof
      simp at zero
    exact ⟨rfl, by simp [notEof], by simp⟩

/-- A callback keeps the connection's state. It invokes the close callback
exactly when it reaches `handle_close`, and then the asserted state holds. -/
theorem handle_state {c after : TcpConnection} {callback : Callback} {read : ReadvResult}
    {write : WriteResult} {effects : List Effect}
    (returned : handle c callback read write = .ok (after, effects)) :
    after.state = c.state ∧ (Effect.closeCallback ∈ effects ↔ closes callback read) ∧
      (Effect.closeCallback ∈ effects → Open c) := by
  cases callback with
  | close =>
    obtain ⟨isOpen, same⟩ := (handleClose_ok _ _).mp ((asserted_ok _ _ _).mp returned)
    obtain ⟨rfl, rfl⟩ := Prod.mk.inj same
    exact ⟨rfl, by simp [closes], fun _ => isOpen⟩
  | error =>
    obtain ⟨rfl, rfl⟩ := Prod.mk.inj ((pure_ok _ _).mp returned)
    exact ⟨rfl, by simp [closes], by simp⟩
  | read =>
    obtain ⟨same, eof, isOpen⟩ := handleRead_state ((lift_ok _ _).mp returned)
    exact ⟨same, by simpa [closes] using eof, isOpen⟩
  | write =>
    obtain ⟨same, sending⟩ := handleWrite_state ((lift_ok _ _).mp returned)
    have quiet : Effect.closeCallback ∉ effects := fun member => by cases sending _ member
    exact ⟨same, by simp [closes, quiet], fun member => absurd member quiet⟩

end Connections

section Dispatch

/-- The order in which `handle_event` tests its callbacks. -/
def rank : Callback → Nat
  | .close => 0
  | .error => 1
  | .read => 2
  | .write => 3

/-- The callbacks of a dispatch come in a fixed order, each at most once. -/
theorem handleEvent_ordered (revents : EventMask) :
    (Channel.handleEvent connectionCallbacks revents).Pairwise
      fun first second => rank first < rank second := by
  have ordered : ([.close, .error, .read, .write].filter connectionCallbacks).Pairwise
      fun first second => rank first < rank second := by decide
  exact ordered.sublist (Channel.handleEvent_in_order connectionCallbacks revents)

/-- The close callback of the channel is invoked only in the hang-up branch. -/
theorem close_mem_handleEvent {revents : EventMask}
    (member : Callback.close ∈ Channel.handleEvent connectionCallbacks revents) :
    hangup revents = true := by
  have reported := (List.mem_filter.mp member).1
  simpa [hangup] using reported

/-- What is left of a dispatch cannot close again, unless by reading an end of
file in the hang-up branch. -/
def Quiet (revents : EventMask) (callbacks : List Callback) : Prop :=
  Callback.close ∉ callbacks ∧ (Callback.read ∈ callbacks → hangup revents = true)

/-- After a callback that reached `handle_close` the rest of the dispatch is
quiet: the callbacks come in order, each once. -/
theorem quiet_after_close {revents : EventMask} {callback : Callback} {callbacks : List Callback}
    {read : ReadvResult}
    (suffix : callback :: callbacks <:+ Channel.handleEvent connectionCallbacks revents)
    (reached : closes callback read) : Quiet revents callbacks := by
  have later : ∀ other ∈ callbacks, rank callback < rank other :=
    (List.pairwise_cons.mp ((handleEvent_ordered revents).sublist suffix.sublist)).1
  rcases reached with rfl | ⟨rfl, _⟩
  · constructor
    · exact fun member => absurd (later _ member) (by decide)
    · intro _
      exact close_mem_handleEvent (suffix.subset List.mem_cons_self)
  · constructor
    · exact fun member => absurd (later _ member) (by decide)
    · exact fun member => absurd (later _ member) (by decide)

/-- A callback of a quiet rest does not reach `handle_close` if no end of file is
read after a hang-up. -/
theorem quiet_not_closes {revents : EventMask} {callback : Callback} {callbacks : List Callback}
    {read : ReadvResult} (quiet : Quiet revents (callback :: callbacks))
    (noEof : callback = .read → hangup revents = true → read ≠ .received []) :
    ¬ closes callback read := by
  rintro (rfl | ⟨rfl, eof⟩)
  · exact quiet.1 List.mem_cons_self
  · exact noEof rfl (quiet.2 List.mem_cons_self) eof

/-- What is left of a quiet dispatch is quiet. -/
theorem quiet_tail {revents : EventMask} {callback : Callback} {callbacks : List Callback}
    (quiet : Quiet revents (callback :: callbacks)) : Quiet revents callbacks :=
  ⟨fun member => quiet.1 (List.mem_cons_of_mem _ member),
    fun member => quiet.2 (List.mem_cons_of_mem _ member)⟩

end Dispatch

section Failures

/-- A composed function fails where its first part fails or where the rest does. -/
theorem bind_failed {α β : Type} (first : Except Failure α) (next : α → Except Failure β)
    (failure : Failure) :
    (first >>= next) = .error failure ↔
      first = .error failure ∨ ∃ value, first = .ok value ∧ next value = .error failure := by
  cases first <;> simp [bind, Except.bind]

/-- The assertions of the owner's removal and of `connect_destoryed`. -/
def Named (failure : Failure) : Prop := failure = .removal ∨ failure = .destroyedState

/-- A fault inside a function is none of the named assertions. -/
theorem lift_unnamed {α : Type} (outcome : Outcome α) {failure : Failure} (named : Named failure) :
    lift outcome ≠ .error failure := by
  rcases named with rfl | rfl <;> cases outcome <;> simp [lift]

/-- A channel callback fails none of the assertions of a removal or a destruction. -/
theorem handle_unnamed (c : TcpConnection) (callback : Callback) (read : ReadvResult)
    (write : WriteResult) {failure : Failure} (named : Named failure) :
    handle c callback read write ≠ .error failure := by
  cases callback with
  | close =>
    unfold handle
    rcases named with rfl | rfl <;> cases c.handleClose <;> simp [asserted]
  | error => simp [handle, pure, Except.pure]
  | read => exact lift_unnamed _ named
  | write => exact lift_unnamed _ named

end Failures

section Steps

/-- What each step finds and leaves, the closing and the plain callback apart, and
the owner's step with and without a handed-over socket. -/
inductive Stepped (s : System O) : Label O → System O → Prop where
  | poll (active : List Nat) (polling : s.phase = .polling) (distinct : active.Nodup)
      (created : ∀ id ∈ active, id < s.created) :
      Stepped s (.poll active) { s with phase := .dispatching active }
  | dispatch (id : Nat) (active : List Nat) (revents : EventMask)
      (dispatching : s.phase = .dispatching (id :: active)) :
      Stepped s (.dispatch revents) { s with
        phase := .handling id revents (Channel.handleEvent connectionCallbacks revents) active }
  | closing (id : Nat) (revents : EventMask) (callback : Callback) (callbacks : List Callback)
      (active : List Nat) (read : ReadvResult) (write : WriteResult) (c : TcpConnection)
      (effects : List Effect)
      (handling : s.phase = .handling id revents (callback :: callbacks) active)
      (handled : handle (s.objects id) callback read write = .ok (c, effects))
      (invoked : Effect.closeCallback ∈ effects) :
      Stepped s (.callback read write) { s with
        objects := setObject s.objects id c
        closed := s.closed ++ [id]
        phase := .removing id revents callbacks active }
  | callback (id : Nat) (revents : EventMask) (callback : Callback) (callbacks : List Callback)
      (active : List Nat) (read : ReadvResult) (write : WriteResult) (c : TcpConnection)
      (effects : List Effect)
      (handling : s.phase = .handling id revents (callback :: callbacks) active)
      (handled : handle (s.objects id) callback read write = .ok (c, effects))
      (uninvoked : Effect.closeCallback ∉ effects) :
      Stepped s (.callback read write) { s with
        objects := setObject s.objects id c
        phase := .handling id revents callbacks active }
  | remove (id : Nat) (revents : EventMask) (callbacks : List Callback) (active : List Nat)
      (choice : O.Choice) (owner : O.State)
      (removing : s.phase = .removing id revents callbacks active)
      (removed : O.remove s.owner id choice = .ok owner) :
      Stepped s (.remove choice) { s with
        owner := owner
        pending := s.pending ++ [id]
        phase := .handling id revents callbacks active }
  | finishEvent (id : Nat) (revents : EventMask) (active : List Nat)
      (handling : s.phase = .handling id revents [] active) :
      Stepped s .finishEvent { s with phase := .dispatching active }
  | swap (dispatching : s.phase = .dispatching []) :
      Stepped s .swap { s with phase := .running s.pending, pending := [] }
  | runFunctor (id : Nat) (rest : List Nat) (c : TcpConnection) (effects : List Effect)
      (running : s.phase = .running (id :: rest))
      (destroyed : (s.objects id).connectDestoryed = .ok (c, effects)) :
      Stepped s .runFunctor { s with
        objects := setObject s.objects id c
        destroyed := s.destroyed ++ [id]
        phase := .running rest }
  | finishFunctors (running : s.phase = .running []) :
      Stepped s .finishFunctors { s with phase := .polling }
  | shutdown (id : Nat) (created : id < s.created) :
      Stepped s (.shutdown id)
        { s with objects := setObject s.objects id (exchangeState (s.objects id)) }
  | send (id : Nat) (message : StringView) (result : WriteResult) (c : TcpConnection)
      (effects : List Effect) (created : id < s.created)
      (sent : (s.objects id).sendInLoop message result = .ok (c, effects)) :
      Stepped s (.send id message result) { s with objects := setObject s.objects id c }
  | acted (label : O.Label) (owner : O.State) (acted : O.act s.owner label = .ok (owner, none)) :
      Stepped s (.owner label) { s with owner := owner }
  | established (label : O.Label) (owner : O.State) (sockFd : Int) (writeCompleteCallback : Bool)
      (c : TcpConnection) (effects : List Effect)
      (acted : O.act s.owner label = .ok (owner, some (sockFd, writeCompleteCallback)))
      (room : s.created < maxConnections)
      (established :
        (create sockFd writeCompleteCallback).connectEstablished = .ok (c, effects)) :
      Stepped s (.owner label) { s with
        owner := O.enroll owner s.created
        objects := setObject s.objects s.created c
        created := s.created + 1 }

/-- A step that returns is one of the cases above. -/
theorem stepped {s t : System O} {label : Label O} (taken : step s label = .ok t) :
    Stepped s label t := by
  cases label
  case callback read write =>
    simp only [step] at taken
    split at taken
    case h_2 => cases taken
    case h_1 id revents callback callbacks active handling =>
      obtain ⟨⟨c, effects⟩, handled, continued⟩ := (bind_ok _ _ _).mp taken
      split at continued
      · rename_i invoked
        obtain rfl := (pure_ok _ _).mp continued
        exact .closing id revents callback callbacks active read write c effects handling handled
          invoked
      · rename_i uninvoked
        obtain rfl := (pure_ok _ _).mp continued
        exact .callback id revents callback callbacks active read write c effects handling handled
          uninvoked
  case poll active =>
    simp only [step] at taken
    split at taken
    case h_2 => cases taken
    case h_1 polling =>
      split at taken
      case isFalse => cases taken
      case isTrue possible =>
        obtain rfl := (pure_ok _ _).mp taken
        exact .poll active polling possible.1 possible.2
  case dispatch revents =>
    simp only [step] at taken
    split at taken
    case h_2 => cases taken
    case h_1 id active dispatching =>
      obtain rfl := (pure_ok _ _).mp taken
      exact .dispatch id active revents dispatching
  case remove choice =>
    simp only [step] at taken
    split at taken
    case h_2 => cases taken
    case h_1 id revents callbacks active removing =>
      obtain ⟨owner, removed, continued⟩ := (bind_ok _ _ _).mp taken
      obtain rfl := (pure_ok _ _).mp continued
      exact .remove id revents callbacks active choice owner removing removed
  case finishEvent =>
    simp only [step] at taken
    split at taken
    case h_2 => cases taken
    case h_1 id revents active handling =>
      obtain rfl := (pure_ok _ _).mp taken
      exact .finishEvent id revents active handling
  case swap =>
    simp only [step] at taken
    split at taken
    case h_2 => cases taken
    case h_1 dispatching =>
      obtain rfl := (pure_ok _ _).mp taken
      exact .swap dispatching
  case runFunctor =>
    simp only [step] at taken
    split at taken
    case h_2 => cases taken
    case h_1 id rest running =>
      obtain ⟨⟨c, effects⟩, destroyed, continued⟩ := (bind_ok _ _ _).mp taken
      obtain rfl := (pure_ok _ _).mp continued
      exact .runFunctor id rest c effects running ((asserted_ok _ _ _).mp destroyed)
  case finishFunctors =>
    simp only [step] at taken
    split at taken
    case h_2 => cases taken
    case h_1 running =>
      obtain rfl := (pure_ok _ _).mp taken
      exact .finishFunctors running
  case shutdown id =>
    simp only [step] at taken
    split at taken
    case isFalse => cases taken
    case isTrue created =>
      obtain rfl := (pure_ok _ _).mp taken
      exact .shutdown id created
  case send id message result =>
    simp only [step] at taken
    split at taken
    case isFalse => cases taken
    case isTrue created =>
      obtain ⟨⟨c, effects⟩, sent, continued⟩ := (bind_ok _ _ _).mp taken
      obtain rfl := (pure_ok _ _).mp continued
      exact .send id message result c effects created ((lift_ok _ _).mp sent)
  case owner label =>
    obtain ⟨⟨owner, socket⟩, acted, continued⟩ := (bind_ok _ _ _).mp taken
    cases socket with
    | none =>
      obtain rfl := (pure_ok _ _).mp continued
      exact .acted label owner acted
    | some socket =>
      simp only at continued
      split at continued
      case isFalse => cases continued
      case isTrue room =>
        obtain ⟨⟨c, effects⟩, established, finished⟩ := (bind_ok _ _ _).mp continued
        obtain rfl := (pure_ok _ _).mp finished
        exact .established label owner socket.1 socket.2 c effects acted room
          ((lift_ok _ _).mp established)

/-- The owner changes only by its own steps and by removals. -/
theorem step_owner {s t : System O} {label : Label O} (taken : step s label = .ok t)
    (foreign : ∀ action, label ≠ .owner action) (kept : ∀ choice, label ≠ .remove choice) :
    t.owner = s.owner := by
  cases stepped taken
  case acted label owner _ => exact absurd rfl (foreign label)
  case established label _ _ _ _ _ _ _ _ => exact absurd rfl (foreign label)
  case remove choice _ _ _ => exact absurd rfl (kept choice)
  all_goals rfl

end Steps

end ReactorNetwork.ConnectionLife
