import ReactorNetwork.OutputStream

/-!
# Sending and then shutting down

One thread sends some messages on an established connection and then shuts it
down, on the loop thread or on another one. Its calls are taken apart at their
accesses to shared state: the test of `state_`, the hand-over to the loop, the
compare-and-exchange, which the source repeats until it fails. The loop thread
swaps the queue of functors, runs the batch in order and handles writable
events between batches, with any answer of `write(2)`.

The bytes have to be written before the first `shutdown_write`. The queued
`shutdown_in_loop` comes after every queued send and is harmless. What is not is
`handle_write`: it reacts to the state the other thread has already set and shuts
down as soon as the buffer is empty, also when sends are still queued.

A queued message is a copy here; that the caller keeps the viewed bytes alive is
outside the model.
-/

namespace ReactorNetwork.GracefulShutdown

open Runs TcpConnection

/-- A queued functor of this connection. -/
inductive Functor where
  | send (message : StringView)
  | shutdown
  | writeComplete

/-- The bytes a functor will pass on. -/
def Functor.bytes : Functor → List Byte
  | .send message => message.bytes
  | _ => []

/-- Where the sending thread is. With nothing left to send it is at the exchange
of `shutdown`. -/
inductive Caller where
  | sending (rest : List StringView)
  | handingOver (message : StringView) (rest : List StringView)
  | closing
  | returned

/-- The messages not yet handed over. -/
def Caller.remaining : Caller → List StringView
  | .sending rest => rest
  | .handingOver message rest => message :: rest
  | _ => []

/-- The connection, the loop's queue and batch, the sending thread, and every
effect so far. -/
structure State where
  connection : TcpConnection
  pending : List Functor
  batch : List Functor
  caller : Caller
  inLoopThread : Bool
  trace : List Effect

/-- A step of the calling thread or of the loop. -/
inductive Label where
  | call (result : WriteResult)
  | swap
  | runFunctor (result : WriteResult)
  | handleWrite (result : WriteResult)

/-- A connection before the first of its messages is sent. -/
def initial (connection : TcpConnection) (inLoopThread : Bool) (messages : List StringView) :
    State where
  connection := connection
  pending := []
  batch := []
  caller := .sending messages
  inLoopThread := inLoopThread
  trace := []

/-- The functors some effects queue. -/
def queuedBy (effects : List Effect) : List Functor :=
  effects.filterMap fun
    | .queueWriteComplete => some .writeComplete
    | _ => none

/-- The result of a loop-thread function, with its effects. -/
def perform (s : State) (outcome : TcpConnection × List Effect) : State :=
  { s with
    connection := outcome.1
    trace := s.trace ++ outcome.2
    pending := s.pending ++ queuedBy outcome.2 }

/-- The next access of the sending thread. -/
def callStep (s : State) (result : WriteResult) : Outcome State :=
  match s.caller with
  | .sending (message :: rest) =>
      if s.connection.state = .connected then
        pure { s with caller := .handingOver message rest }
      else pure { s with caller := .sending rest }
  | .handingOver message rest =>
      if s.inLoopThread then do
        let outcome ← s.connection.sendInLoop message result
        pure { perform s outcome with caller := .sending rest }
      else pure { s with pending := s.pending ++ [.send message], caller := .sending rest }
  | .sending [] =>
      if s.connection.state = .connected then
        pure { s with
          connection := { s.connection with state := .disconnecting }
          caller := .closing }
      else pure { s with caller := .returned }
  | .closing =>
      if s.inLoopThread then
        pure { perform s (s.connection, s.connection.shutdownInLoop) with caller := .sending [] }
      else pure { s with pending := s.pending ++ [.shutdown], caller := .sending [] }
  | .returned => .error .notEnabled

/-- One step. The functors are run in the order in which they were queued. -/
def step (s : State) : Label → Outcome State
  | .call result => callStep s result
  | .swap =>
      match s.batch with
      | [] => pure { s with batch := s.pending, pending := [] }
      | _ => .error .notEnabled
  | .runFunctor result =>
      match s.batch with
      | [] => .error .notEnabled
      | .send message :: rest => do
          let outcome ← s.connection.sendInLoop message result
          pure { perform s outcome with batch := rest }
      | .shutdown :: rest =>
          pure { perform s (s.connection, s.connection.shutdownInLoop) with batch := rest }
      | .writeComplete :: rest => pure { s with batch := rest }
  | .handleWrite result =>
      match s.batch with
      | [] => do
          let outcome ← s.connection.handleWrite result
          pure (perform s outcome)
      | _ => .error .notEnabled

/-- Functors in the order they will run. -/
def State.queue (s : State) : List Functor := s.batch ++ s.pending

/-- A writable event does not empty the output buffer of a connection that is
already disconnecting while a message is still queued. -/
def noneOvertaken (s : State) : Label → Prop
  | .handleWrite result =>
      ¬ (s.connection.state = .disconnecting ∧
        writeCount s.connection.unsent result = some s.connection.unsent.length ∧
        s.queue.flatMap Functor.bytes ≠ [])
  | _ => True

/-- All bytes are written when the write side is shut down, the bytes buffered
before included. -/
def Complete (total : List Byte) (trace : List Effect) : Prop :=
  ∀ before after, trace = before ++ .shutdownWrite :: after → written before = total

/-- Behind a queued shutdown no message is queued. -/
def sendsFirst : List Functor → Prop
  | [] => True
  | .shutdown :: rest => rest.flatMap Functor.bytes = []
  | _ :: rest => sendsFirst rest

/-- The account of a connection that is being shut down: what was written, what
is buffered, what is queued and what is not yet handed over. -/
structure Graceful (total : List Byte) (s : State) : Prop where
  wellFormed : s.connection.outputBuffer.WellFormed
  interest : s.connection.InterestExact
  accounted : written s.trace ++ s.connection.unsent ++ s.queue.flatMap Functor.bytes ++
    s.caller.remaining.flatMap StringView.bytes = total
  phase : s.connection.state = .connected ∧ Functor.shutdown ∉ s.queue ∧ s.caller ≠ .closing ∨
    s.connection.state = .disconnecting ∧ s.caller.remaining = []
  direct : s.inLoopThread = true → s.queue.flatMap Functor.bytes = []
  ordered : sendsFirst s.queue
  complete : Complete total s.trace

/-- A queue without messages is in order. -/
theorem sendsFirst_of_empty {queue : List Functor} (empty : queue.flatMap Functor.bytes = []) :
    sendsFirst queue := by
  induction queue with
  | nil => trivial
  | cons functor rest inductionHypothesis =>
    have restEmpty : rest.flatMap Functor.bytes = [] := by
      rw [List.flatMap_cons, List.append_eq_nil_iff] at empty
      exact empty.2
    cases functor with
    | shutdown => exact restEmpty
    | send message => exact inductionHypothesis restEmpty
    | writeComplete => exact inductionHypothesis restEmpty

/-- A queue without a shutdown is in order. -/
theorem sendsFirst_of_not_mem {queue : List Functor} (absent : Functor.shutdown ∉ queue) :
    sendsFirst queue := by
  induction queue with
  | nil => trivial
  | cons functor rest inductionHypothesis =>
    have restAbsent : Functor.shutdown ∉ rest := fun member =>
      absent (List.mem_cons_of_mem _ member)
    cases functor with
    | shutdown => exact absurd List.mem_cons_self absent
    | send message => exact inductionHypothesis restAbsent
    | writeComplete => exact inductionHypothesis restAbsent

/-- Functors without bytes may be queued behind anything. -/
theorem sendsFirst_append {queue more : List Functor} (ordered : sendsFirst queue)
    (empty : more.flatMap Functor.bytes = []) : sendsFirst (queue ++ more) := by
  induction queue with
  | nil => exact sendsFirst_of_empty empty
  | cons functor rest inductionHypothesis =>
    cases functor with
    | shutdown =>
      have restEmpty : rest.flatMap Functor.bytes = [] := ordered
      have whole : (rest ++ more).flatMap Functor.bytes = [] := by
        rw [List.flatMap_append, restEmpty, empty, List.append_nil]
      exact whole
    | send message => exact inductionHypothesis ordered
    | writeComplete => exact inductionHypothesis ordered

/-- Running the first functor leaves the rest ordered. -/
theorem sendsFirst_tail {functor : Functor} {rest : List Functor}
    (ordered : sendsFirst (functor :: rest)) : sendsFirst rest := by
  cases functor with
  | shutdown => exact sendsFirst_of_empty ordered
  | send message => exact ordered
  | writeComplete => exact ordered

/-- What a loop-thread function queues is no message. -/
theorem queuedBy_bytes (effects : List Effect) : (queuedBy effects).flatMap Functor.bytes = [] := by
  apply List.flatMap_eq_nil_iff.mpr
  intro functor member
  obtain ⟨effect, _, same⟩ := List.mem_filterMap.mp member
  cases effect <;> simp at same
  subst same
  rfl

/-- It is no shutdown either. -/
theorem shutdown_not_queuedBy (effects : List Effect) : Functor.shutdown ∉ queuedBy effects := by
  intro member
  obtain ⟨effect, _, same⟩ := List.mem_filterMap.mp member
  cases effect <;> simp at same

/-- More effects keep completeness if the total is written at each new shutdown. -/
theorem complete_append {total : List Byte} {trace effects : List Effect}
    (complete : Complete total trace)
    (new : ∀ before after, effects = before ++ .shutdownWrite :: after →
      written (trace ++ before) = total) : Complete total (trace ++ effects) := by
  intro before after split
  rcases List.append_eq_append_iff.mp split with ⟨more, inNew, rest⟩ | ⟨more, inOld, rest⟩
  · rw [inNew]
    exact new more after rest
  · cases more with
    | nil =>
      have same : trace = before := by simpa using inOld
      have atOnce := new [] after (by simpa using rest.symm)
      simpa [same] using atOnce
    | cons effect others =>
      obtain ⟨rfl, _⟩ := List.cons.inj rest
      exact complete before others inOld

/-- Effects without a shutdown keep completeness. -/
theorem complete_quiet {total : List Byte} {trace effects : List Effect}
    (complete : Complete total trace) (quiet : Effect.shutdownWrite ∉ effects) :
    Complete total (trace ++ effects) := by
  apply complete_append complete
  intro before after split
  exact absurd (by simp [split]) quiet

/-- A shutdown that is the last effect needs the total written before it. -/
theorem complete_last {total : List Byte} {trace effects : List Effect}
    (complete : Complete total trace) (earlier : List Effect)
    (last : effects = earlier ++ [.shutdownWrite]) (once : Effect.shutdownWrite ∉ earlier)
    (all : written (trace ++ earlier) = total) :
    Complete total (trace ++ effects) := by
  apply complete_append complete
  intro before after split
  have same : before = earlier := by
    rw [last] at split
    rcases List.append_eq_append_iff.mp split with ⟨more, inBefore, rest⟩ | ⟨more, inEarlier, rest⟩
    · cases more with
      | nil => simpa using inBefore
      | cons effect others => simp at rest
    · cases more with
      | nil => simpa using inEarlier.symm
      | cons effect others =>
        obtain ⟨rfl, _⟩ := List.cons.inj rest
        exact absurd (by simp [inEarlier]) once
  rw [same]
  exact all

/-- The write side is shut down from `shutdown_in_loop` only when nothing is
buffered; with nothing queued or left to send, everything is written. -/
theorem complete_shutdownInLoop {total : List Byte} {s : State} (graceful : Graceful total s)
    (queued : s.queue.flatMap Functor.bytes = []) (sent : s.caller.remaining = []) :
    Complete total (s.trace ++ s.connection.shutdownInLoop) ∧
      written s.connection.shutdownInLoop = [] := by
  unfold shutdownInLoop
  by_cases writing : s.connection.channel.isWriting = true
  · rw [if_pos writing]
    exact ⟨by simpa using graceful.complete, rfl⟩
  · rw [if_neg writing]
    have empty : s.connection.unsent = [] := by
      by_contra waiting
      exact writing (graceful.interest.mpr waiting)
    have all : written s.trace = total := by
      have accounted := graceful.accounted
      rw [empty, queued, sent] at accounted
      simpa using accounted
    exact ⟨complete_last graceful.complete [] rfl (by simp) (by simpa using all), rfl⟩

/-- A send that the loop thread performs moves its message from the front of what
is queued or left into the stream. -/
theorem graceful_sent {total : List Byte} {s t : State} (graceful : Graceful total s)
    (message : List Byte) (outcome : TcpConnection × List Effect)
    (sent : Sent s.connection outcome.1 message outcome.2)
    (connection : t.connection = outcome.1) (trace : t.trace = s.trace ++ outcome.2)
    (handed : message ++ (t.queue.flatMap Functor.bytes ++
        t.caller.remaining.flatMap StringView.bytes) =
      s.queue.flatMap Functor.bytes ++ s.caller.remaining.flatMap StringView.bytes)
    (phase : t.connection.state = .connected ∧ Functor.shutdown ∉ t.queue ∧ t.caller ≠ .closing ∨
      t.connection.state = .disconnecting ∧ t.caller.remaining = [])
    (direct : t.inLoopThread = true → t.queue.flatMap Functor.bytes = [])
    (ordered : sendsFirst t.queue) : Graceful total t where
  wellFormed := connection ▸ sent.wellFormed
  interest := connection ▸ sent.interest graceful.interest
  accounted := by
    have stream := sent.stream
    rw [trace, connection, written_append, List.append_assoc, List.append_assoc, List.append_assoc,
      ← List.append_assoc (written outcome.2), stream, List.append_assoc, handed,
      ← graceful.accounted]
    simp only [List.append_assoc]
  phase := phase
  direct := direct
  ordered := ordered
  complete := trace ▸ complete_quiet graceful.complete sent.quiet

/-- `shutdown_in_loop` with nothing queued or left to send keeps the account. -/
theorem graceful_shutdownInLoop {total : List Byte} {s t : State} (graceful : Graceful total s)
    (queued : s.queue.flatMap Functor.bytes = []) (sent : s.caller.remaining = [])
    (disconnecting : s.connection.state = .disconnecting) (others : List Functor)
    (empty : others.flatMap Functor.bytes = []) (connection : t.connection = s.connection)
    (trace : t.trace = s.trace ++ s.connection.shutdownInLoop)
    (queue : t.queue = others ++ queuedBy s.connection.shutdownInLoop)
    (left : t.caller.remaining = []) : Graceful total t := by
  obtain ⟨complete, silent⟩ := complete_shutdownInLoop graceful queued sent
  have noBytes : t.queue.flatMap Functor.bytes = [] := by
    rw [queue, List.flatMap_append, empty, queuedBy_bytes, List.append_nil]
  have accounted := graceful.accounted
  rw [queued, sent] at accounted
  refine ⟨connection ▸ graceful.wellFormed, connection ▸ graceful.interest, ?_,
    Or.inr ⟨connection ▸ disconnecting, left⟩, fun _ => noBytes, sendsFirst_of_empty noBytes,
    trace ▸ complete⟩
  rw [noBytes, left, trace, connection, written_append, silent]
  simpa only [List.append_nil] using accounted

/-- Another thread queues a functor for what it hands over. -/
theorem graceful_queued {total : List Byte} {s : State} (graceful : Graceful total s)
    (otherThread : ¬ s.inLoopThread = true) (functor : Functor) (rest : List StringView)
    (handed : functor.bytes ++ rest.flatMap StringView.bytes =
      s.caller.remaining.flatMap StringView.bytes)
    (phase : s.connection.state = .connected ∧ Functor.shutdown ∉ s.queue ++ [functor] ∨
      s.connection.state = .disconnecting ∧ rest = [])
    (ordered : sendsFirst (s.queue ++ [functor])) :
    Graceful total { s with pending := s.pending ++ [functor], caller := .sending rest } := by
  have queue : State.queue { s with
      pending := s.pending ++ [functor], caller := .sending rest } = s.queue ++ [functor] :=
    (List.append_assoc _ _ _).symm
  refine ⟨graceful.wellFormed, graceful.interest, ?_, ?_,
    fun onLoop => absurd onLoop otherThread, queue ▸ ordered, graceful.complete⟩
  · rw [queue, ← graceful.accounted, ← handed]
    simp [Caller.remaining]
  · rw [queue]
    rcases phase with ⟨connected, absent⟩ | closing
    · exact Or.inl ⟨connected, absent, by simp⟩
    · exact Or.inr closing

/-- Every access of the sending thread keeps the account. -/
theorem callStep_graceful (total : List Byte) (s t : State) (result : WriteResult)
    (graceful : Graceful total s) (taken : callStep s result = .ok t) : Graceful total t := by
  unfold callStep at taken
  cases position : s.caller with
  | sending rest =>
    cases rest with
    | cons message rest =>
      have left : s.caller.remaining ≠ [] := by simp [position, Caller.remaining]
      have connected := (graceful.phase.resolve_right (fun closing => left closing.2))
      simp only [position, connected.1, if_true, pure_ok] at taken
      subst taken
      have accounted := graceful.accounted
      rw [position] at accounted
      exact ⟨graceful.wellFormed, graceful.interest, accounted,
        Or.inl ⟨connected.1, connected.2.1, by simp⟩, graceful.direct, graceful.ordered,
        graceful.complete⟩
    | nil =>
      have accounted := graceful.accounted
      rw [position] at accounted
      simp only [position] at taken
      split at taken
      · obtain rfl := (pure_ok _ _).mp taken
        exact ⟨graceful.wellFormed, graceful.interest, accounted, Or.inr ⟨rfl, rfl⟩,
          graceful.direct, graceful.ordered, graceful.complete⟩
      · rename_i notConnected
        obtain rfl := (pure_ok _ _).mp taken
        have closing := graceful.phase.resolve_left (fun connected => notConnected connected.1)
        exact ⟨graceful.wellFormed, graceful.interest, accounted, Or.inr ⟨closing.1, rfl⟩,
          graceful.direct, graceful.ordered, graceful.complete⟩
  | handingOver message rest =>
    have left : s.caller.remaining = message :: rest := by rw [position]; rfl
    have connected := graceful.phase.resolve_right (fun closing => by simp [left] at closing)
    simp only [position] at taken
    split at taken
    · rename_i onLoop
      obtain ⟨outcome, returned, same⟩ := (bind_ok _ _ _).mp taken
      obtain rfl := (pure_ok _ _).mp same
      have sent := (sendInLoop_returns graceful.wellFormed message result).of_ok returned
      have noBytes : (s.queue ++ queuedBy outcome.2).flatMap Functor.bytes = [] := by
        rw [List.flatMap_append, graceful.direct onLoop, queuedBy_bytes, List.append_nil]
      have queue : State.queue { perform s outcome with caller := .sending rest } =
          s.queue ++ queuedBy outcome.2 := (List.append_assoc _ _ _).symm
      refine graceful_sent graceful message.bytes outcome sent rfl rfl ?_ ?_ ?_ ?_
      · rw [queue, noBytes, graceful.direct onLoop, left]
        rfl
      · refine Or.inl ⟨sent.state.trans connected.1, ?_, by simp⟩
        rw [queue, List.mem_append]
        exact not_or.mpr ⟨connected.2.1, shutdown_not_queuedBy _⟩
      · intro _
        rw [queue]
        exact noBytes
      · rw [queue]
        exact sendsFirst_of_empty noBytes
    · rename_i otherThread
      obtain rfl := (pure_ok _ _).mp taken
      have absent : Functor.shutdown ∉ s.queue ++ [.send message] := by
        simp [connected.2.1]
      refine graceful_queued graceful otherThread (.send message) rest ?_
        (Or.inl ⟨connected.1, absent⟩) (sendsFirst_of_not_mem absent)
      rw [left]
      rfl
  | closing =>
    have closing := graceful.phase.resolve_left (fun connected => connected.2.2 position)
    simp only [position] at taken
    split at taken
    · rename_i onLoop
      obtain rfl := (pure_ok _ _).mp taken
      exact graceful_shutdownInLoop graceful (graceful.direct onLoop) closing.2 closing.1 s.queue
        (graceful.direct onLoop) rfl rfl (List.append_assoc _ _ _).symm rfl
    · rename_i otherThread
      obtain rfl := (pure_ok _ _).mp taken
      refine graceful_queued graceful otherThread .shutdown [] ?_ (Or.inr ⟨closing.1, rfl⟩)
        (sendsFirst_append graceful.ordered rfl)
      rw [closing.2]
      rfl
  | returned => simp [position] at taken

/-- Running the first functor of the batch keeps the account. -/
theorem runFunctor_graceful (total : List Byte) (s t : State) (result : WriteResult)
    (graceful : Graceful total s) (taken : step s (.runFunctor result) = .ok t) :
    Graceful total t := by
  simp only [step] at taken
  split at taken
  case h_1 => cases taken
  case h_2 message rest first =>
    obtain ⟨outcome, returned, same⟩ := (bind_ok _ _ _).mp taken
    obtain rfl := (pure_ok _ _).mp same
    have sent := (sendInLoop_returns graceful.wellFormed message result).of_ok returned
    have before : s.queue = .send message :: (rest ++ s.pending) := by simp [State.queue, first]
    have queue : State.queue { perform s outcome with batch := rest } =
        (rest ++ s.pending) ++ queuedBy outcome.2 := (List.append_assoc _ _ _).symm
    have ordered := graceful.ordered
    have direct := graceful.direct
    have phase := graceful.phase
    rw [before] at ordered direct phase
    refine graceful_sent graceful message.bytes outcome sent rfl rfl ?_ ?_ ?_ ?_
    · rw [queue, before, List.flatMap_append, queuedBy_bytes, List.append_nil, List.flatMap_cons,
        List.append_assoc]
      rfl
    · rcases phase with ⟨connected, absent, notClosing⟩ | closing
      · refine Or.inl ⟨sent.state.trans connected, ?_, notClosing⟩
        rw [queue, List.mem_append]
        exact not_or.mpr ⟨fun member => absent (List.mem_cons_of_mem _ member),
          shutdown_not_queuedBy _⟩
      · exact Or.inr ⟨sent.state.trans closing.1, closing.2⟩
    · intro onLoop
      have empty := direct onLoop
      rw [List.flatMap_cons, List.append_eq_nil_iff] at empty
      rw [queue, List.flatMap_append, queuedBy_bytes, List.append_nil]
      exact empty.2
    · rw [queue]
      exact sendsFirst_append (sendsFirst_tail ordered) (queuedBy_bytes _)
  case h_3 rest first =>
    obtain rfl := (pure_ok _ _).mp taken
    have before : s.queue = .shutdown :: (rest ++ s.pending) := by simp [State.queue, first]
    have closing := graceful.phase.resolve_left (fun connected =>
      connected.2.1 (by simp [before]))
    have restEmpty : (rest ++ s.pending).flatMap Functor.bytes = [] := by
      have ordered := graceful.ordered
      rw [before] at ordered
      exact ordered
    have queued : s.queue.flatMap Functor.bytes = [] := by
      rw [before, List.flatMap_cons, restEmpty]
      rfl
    exact graceful_shutdownInLoop graceful queued closing.2 closing.1 (rest ++ s.pending) restEmpty
      rfl rfl (List.append_assoc _ _ _).symm closing.2
  case h_4 rest first =>
    obtain rfl := (pure_ok _ _).mp taken
    have before : s.queue = .writeComplete :: (rest ++ s.pending) := by simp [State.queue, first]
    obtain ⟨wellFormed, interest, accounted, phase, direct, ordered, complete⟩ := graceful
    rw [before] at accounted phase direct ordered
    refine ⟨wellFormed, interest, accounted, ?_, direct, ordered, complete⟩
    rcases phase with ⟨connected, absent, notClosing⟩ | closing
    · exact Or.inl ⟨connected, fun member => absent (List.mem_cons_of_mem _ member), notClosing⟩
    · exact Or.inr closing

/-- A writable event keeps the account unless it overtakes a queued message. -/
theorem handleWrite_graceful (total : List Byte) (s t : State) (result : WriteResult)
    (graceful : Graceful total s) (inTime : noneOvertaken s (.handleWrite result))
    (taken : step s (.handleWrite result) = .ok t) : Graceful total t := by
  simp only [step] at taken
  split at taken
  case h_2 => cases taken
  case h_1 noBatch =>
    obtain ⟨outcome, returned, same⟩ := (bind_ok _ _ _).mp taken
    obtain rfl := (pure_ok _ _).mp same
    have flushed := (handleWrite_returns graceful.wellFormed result False).of_ok returned
    have queue : State.queue (perform s outcome) = s.queue ++ queuedBy outcome.2 :=
      (List.append_assoc _ _ _).symm
    have bytes : (s.queue ++ queuedBy outcome.2).flatMap Functor.bytes =
        s.queue.flatMap Functor.bytes := by
      rw [List.flatMap_append, queuedBy_bytes, List.append_nil]
    have accounted : written (s.trace ++ outcome.2) ++ outcome.1.unsent ++
        s.queue.flatMap Functor.bytes ++ s.caller.remaining.flatMap StringView.bytes = total := by
      rw [written_append, List.append_assoc (written s.trace), flushed.stream]
      exact graceful.accounted
    refine ⟨flushed.wellFormed, flushed.interest graceful.interest, ?_, ?_, ?_, ?_, ?_⟩
    · rw [queue, bytes]
      exact accounted
    · rcases graceful.phase with ⟨connected, absent, notClosing⟩ | closing
      · refine Or.inl ⟨flushed.state.trans connected, ?_, notClosing⟩
        rw [queue, List.mem_append]
        exact not_or.mpr ⟨absent, shutdown_not_queuedBy _⟩
      · exact Or.inr ⟨flushed.state.trans closing.1, closing.2⟩
    · intro onLoop
      rw [queue, bytes]
      exact graceful.direct onLoop
    · rw [queue]
      exact sendsFirst_append graceful.ordered (queuedBy_bytes _)
    · by_cases shuts : Effect.shutdownWrite ∈ outcome.2
      · obtain ⟨closing, emptied, whole, earlier, last, once⟩ := flushed.shutdown shuts
        have nothingQueued : s.queue.flatMap Functor.bytes = [] := by
          by_contra queued
          exact inTime ⟨closing, whole, queued⟩
        have nothingLeft : s.caller.remaining = [] := by
          rcases graceful.phase with connected | closed
          · exact absurd (connected.1.symm.trans closing) (by simp)
          · exact closed.2
        have all : written (s.trace ++ earlier) = total := by
          rw [last, emptied, nothingQueued, nothingLeft] at accounted
          simpa [written] using accounted
        exact complete_last graceful.complete earlier last once all
      · exact complete_quiet graceful.complete shuts

/-- Every step keeps the account. -/
theorem step_graceful (total : List Byte) (s : State) (label : Label) (t : State)
    (graceful : Graceful total s) (inTime : noneOvertaken s label)
    (taken : step s label = .ok t) : Graceful total t := by
  cases label with
  | call result => exact callStep_graceful total s t result graceful taken
  | runFunctor result => exact runFunctor_graceful total s t result graceful taken
  | handleWrite result => exact handleWrite_graceful total s t result graceful inTime taken
  | swap =>
    simp only [step] at taken
    split at taken
    case h_2 => cases taken
    case h_1 noBatch =>
      obtain rfl := (pure_ok _ _).mp taken
      have queue : State.queue { s with batch := s.pending, pending := [] } = s.queue := by
        simp [State.queue, noBatch]
      obtain ⟨wellFormed, interest, accounted, phase, direct, ordered, complete⟩ := graceful
      rw [← queue] at accounted phase direct ordered
      exact ⟨wellFormed, interest, accounted, phase, direct, ordered, complete⟩

/-- Before the first call everything is still to be handed over. -/
theorem initial_graceful (c : TcpConnection) (inLoopThread : Bool) (messages : List StringView)
    (wellFormed : c.outputBuffer.WellFormed) (interest : c.InterestExact)
    (connected : c.state = .connected) :
    Graceful (c.unsent ++ messages.flatMap StringView.bytes) (initial c inLoopThread messages) where
  wellFormed := wellFormed
  interest := interest
  accounted := by simp [initial, State.queue, written, Caller.remaining]
  phase := Or.inl ⟨connected, by simp [initial, State.queue], by simp [initial]⟩
  direct := fun _ => rfl
  ordered := trivial
  complete := by
    intro before after split
    simp [initial] at split

/-- A thread sends messages on an established connection and shuts it down. In
every run in which no writable event empties the buffer of the disconnecting
connection while a message is still queued, all bytes buffered before and all
bytes of the messages have been accepted by a `write` when the write side is shut
down. -/
theorem sent_before_shutdown (sockFd : Int) (writeCompleteCallback : Bool)
    (past : List OutputStream.Label) (start : OutputStream.Stream)
    (established : run OutputStream.step (OutputStream.initial sockFd writeCompleteCallback) past =
      .ok start)
    (notClosed : ∀ label ∈ past, label.disables = false)
    (connected : start.connection.state = .connected) (inLoopThread : Bool)
    (messages : List StringView) (labels : List Label) (s : State)
    (inTime : Along step noneOvertaken (initial start.connection inLoopThread messages) labels)
    (reached : run step (initial start.connection inLoopThread messages) labels = .ok s)
    (before after : List Effect) (shutdown : s.trace = before ++ .shutdownWrite :: after) :
    written before = start.connection.unsent ++ messages.flatMap StringView.bytes := by
  have accounts := history OutputStream.step OutputStream.Accounts OutputStream.step_accounts past
    _ start (OutputStream.initial_accounts sockFd writeCompleteCallback) established
  have graceful := guarded_invariant step noneOvertaken
    (Graceful (start.connection.unsent ++ messages.flatMap StringView.bytes)) (step_graceful _)
    labels _ s
    (initial_graceful start.connection inLoopThread messages accounts.wellFormed
      (accounts.interest notClosed) connected) inTime reached
  exact graceful.complete before after shutdown

/-- A fresh connection that has been established. -/
def establishedStream : OutputStream.Stream :=
  ⟨{ create 5 false with
    state := .connected
    channel := (Channel.create 5).enableReading }, []⟩

/-- Two messages, of two bytes and of one. -/
def twoMessages : List StringView := [⟨[1, 2], by decide⟩, ⟨[3], by decide⟩]

/-- Another thread sends twice and shuts down before the loop runs the second
send, but no writable event comes between. -/
def queuedInOrder : List Label :=
  [.call (.accepted 0), .call (.accepted 0), .swap, .runFunctor (.accepted 1), .call (.accepted 0),
    .call (.accepted 0), .call (.accepted 0), .swap, .runFunctor (.accepted 0),
    .handleWrite (.accepted 9)]

/-- The same, with a writable event in front of the second batch. -/
def writableFirst : List Label :=
  [.call (.accepted 0), .call (.accepted 0), .swap, .runFunctor (.accepted 1), .call (.accepted 0),
    .call (.accepted 0), .call (.accepted 0), .handleWrite (.accepted 9)]

instance (s : State) (label : Label) : Decidable (noneOvertaken s label) :=
  match label with
  | .handleWrite _ => inferInstanceAs (Decidable (¬ (_ ∧ _ ∧ _)))
  | .call _ | .swap | .runFunctor _ => isTrue trivial

/-- All three bytes are written before the write side is closed. -/
theorem sent_before_shutdown_queued_in_order :
    ∃ s before after,
      run step (initial establishedStream.connection false twoMessages) queuedInOrder = .ok s ∧
      s.trace = before ++ .shutdownWrite :: after ∧ written before = [1, 2, 3] := by
  have computed : (run step (initial establishedStream.connection false twoMessages)
      queuedInOrder).map State.trace = .ok [.wrote [1], .updateChannel, .wrote [2, 3],
        .updateChannel, .shutdownWrite] := by decide +kernel
  obtain ⟨s, reached, computed⟩ := (map_returned _ _ _).mp computed
  refine ⟨s, [.wrote [1], .updateChannel, .wrote [2, 3], .updateChannel], [], reached, computed, ?_⟩
  exact sent_before_shutdown 5 false [.connectEstablished] establishedStream rfl (by decide) rfl
    false twoMessages queuedInOrder s (by decide +kernel) reached _ [] computed

/-- The writable event empties the buffer of the disconnecting connection and
shuts down in front of the queued message. -/
theorem shutdown_overtakes_queued_message :
    ¬ ∀ (sockFd : Int) (writeCompleteCallback : Bool) (past : List OutputStream.Label)
      (start : OutputStream.Stream),
      run OutputStream.step (OutputStream.initial sockFd writeCompleteCallback) past = .ok start →
      (∀ label ∈ past, label.disables = false) → start.connection.state = .connected →
      ∀ (inLoopThread : Bool) (messages : List StringView) (labels : List Label) (s : State),
      run step (initial start.connection inLoopThread messages) labels = .ok s →
      ∀ before after, s.trace = before ++ .shutdownWrite :: after →
      written before = start.connection.unsent ++ messages.flatMap StringView.bytes := by
  intro claimed
  have computed : (run step (initial establishedStream.connection false twoMessages)
      writableFirst).map State.trace = .ok [.wrote [1], .updateChannel, .wrote [2],
        .updateChannel, .shutdownWrite] := by decide +kernel
  obtain ⟨s, reached, computed⟩ := (map_returned _ _ _).mp computed
  have written_ := claimed 5 false [.connectEstablished] establishedStream rfl (by decide) rfl
    false twoMessages writableFirst s reached [.wrote [1], .updateChannel, .wrote [2],
      .updateChannel] [] computed
  exact absurd written_ (by decide +kernel)

end ReactorNetwork.GracefulShutdown
