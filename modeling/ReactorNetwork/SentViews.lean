import ReactorNetwork.TcpConnection

/-!
# Messages are views

`send` takes a `std::string_view`, a reference to bytes its caller owns. On the
loop thread the bytes are read before `send` returns. From any other thread the
view is captured by the queued functor, and the bytes are read when the loop
thread runs it. Here the callers' storage is explicit: a view names an object, an
offset and a size, an object can be overwritten or released at any step, and
reading released bytes is a refused access.

A call of another thread is taken apart at the test of `state_` and the push.
The loop thread runs its functors in batches and handles writable events between
any two of them, with any answer of `write(2)`. Each executed `send_in_loop` is
recorded with the bytes its view had at the call and with the bytes it passed on.
-/

namespace ReactorNetwork.SentViews

open Runs TcpConnection

/-- A `std::string_view` of an object that may change. -/
structure View where
  object : Nat
  offset : Nat
  size : Nat
deriving DecidableEq, Repr

/-- Part of an object. -/
def slice (object : StringView) (offset size : Nat) : StringView :=
  ⟨(object.bytes.drop offset).take size,
    Nat.le_trans ((List.take_sublist _ _).trans (List.drop_sublist _ _)).length_le
      object.addressable⟩

/-- The bytes seen through the view now. A view of nothing reads nothing. -/
def View.read (storage : Nat → Option StringView) (view : View) : Option StringView :=
  if view.size = 0 then some ⟨[], Nat.zero_le _⟩
  else match storage view.object with
    | none => none
    | some object =>
        if view.offset + view.size ≤ object.bytes.length then
          some (slice object view.offset view.size)
        else none

/-- A functor queued by a `send` or for a write-complete callback. The bytes the
view had at the call are recorded beside what the functor captures. -/
inductive Functor where
  | send (view : View) (atCall : List Byte)
  | writeComplete
deriving DecidableEq, Repr

/-- An executed `send_in_loop`. -/
structure Passed where
  atCall : List Byte
  passed : List Byte
deriving DecidableEq, Repr

/-- The connection, the callers' storage, the calls between the test of `state_`
and their push, the loop's queue and batch, and what has happened. -/
structure State (Thread : Type) where
  connection : TcpConnection
  storage : Nat → Option StringView
  callers : Thread → Option (View × List Byte)
  pending : List Functor
  batch : List Functor
  trace : List Effect
  sends : List Passed

/-- A call of a thread, its push, a change of the callers' storage, or a step of the
loop. -/
inductive Label (Thread : Type) where
  | send (thread : Thread) (view : View) (result : WriteResult)
  | push (thread : Thread)
  | overwrite (object : Nat) (content : StringView)
  | release (object : Nat)
  | swap
  | runFunctor (result : WriteResult)
  | handleWrite (result : WriteResult)

variable {Thread : Type}

/-- A connection before the first call. -/
def initial (connection : TcpConnection) (storage : Nat → Option StringView) : State Thread where
  connection := connection
  storage := storage
  callers := fun _ => none
  pending := []
  batch := []
  trace := []
  sends := []

/-- The functors some effects queue. -/
def queuedBy (effects : List Effect) : List Functor :=
  effects.filterMap fun
    | .queueWriteComplete => some .writeComplete
    | _ => none

/-- The result of a loop-thread function, with its effects. -/
def State.perform (s : State Thread) (outcome : TcpConnection × List Effect) : State Thread :=
  { s with
    connection := outcome.1
    trace := s.trace ++ outcome.2
    pending := s.pending ++ queuedBy outcome.2 }

/-- `send_in_loop` of a view whose bytes at the call are given. -/
def State.sendInLoop (s : State Thread) (view : View) (atCall : List Byte)
    (result : WriteResult) : Outcome (State Thread) := do
  let message ← accessed (view.read s.storage)
  let outcome ← s.connection.sendInLoop message result
  pure { s.perform outcome with sends := s.sends ++ [⟨atCall, message.bytes⟩] }

/-- What a step makes of the callers' storage. -/
def stored (storage : Nat → Option StringView) : Label Thread → Nat → Option StringView
  | .overwrite object content => fun other => if other = object then some content else storage other
  | .release object => fun other => if other = object then none else storage other
  | _ => storage

/-- A call that has passed its test and whose `send_in_loop` has not been run. -/
def Outstanding (s : State Thread) (view : View) (atCall : List Byte) : Prop :=
  (∃ thread, s.callers thread = some (view, atCall)) ∨
    Functor.send view atCall ∈ s.batch ++ s.pending

/-- The step leaves the bytes seen through the view of each outstanding call as
they are. Only overwriting and releasing can fail to. -/
def keepsViewed (s : State Thread) (label : Label Thread) : Prop :=
  ∀ view atCall, Outstanding s view atCall →
    (view.read (stored s.storage label)).map StringView.bytes =
      (view.read s.storage).map StringView.bytes

/-- Every view of an outstanding call still shows the bytes of the call, and what
was passed on so far was the bytes of the calls. -/
structure Intact (c : TcpConnection) (s : State Thread) : Prop where
  wellFormed : s.connection.outputBuffer.WellFormed
  viewed : ∀ view atCall, Outstanding s view atCall →
    (view.read s.storage).map StringView.bytes = some atCall
  faithful : ∀ send ∈ s.sends, send.passed = send.atCall
  account : written s.trace ++ s.connection.unsent = c.unsent ++ s.sends.flatMap Passed.atCall

/-- Before the first call nothing is outstanding. -/
theorem initial_intact (c : TcpConnection) (storage : Nat → Option StringView)
    (wellFormed : c.outputBuffer.WellFormed) :
    Intact c (initial c storage : State Thread) where
  wellFormed := wellFormed
  viewed := by
    rintro view atCall (⟨thread, called⟩ | queued)
    · cases called
    · cases queued
  faithful := by simp [initial]
  account := by simp [initial, written]

/-- The effects of a loop-thread function queue no send. -/
theorem queuedBy_send (effects : List Effect) (view : View) (atCall : List Byte) :
    Functor.send view atCall ∉ queuedBy effects := by
  intro member
  obtain ⟨effect, _, same⟩ := List.mem_filterMap.mp member
  cases effect <;> cases same

variable {c : TcpConnection} {s t : State Thread}

/-- What a loop-thread function queues is no send. -/
theorem outstanding_perform {outcome : TcpConnection × List Effect} {view : View}
    {atCall : List Byte} (outstanding : Outstanding (s.perform outcome) view atCall) :
    Outstanding s view atCall := by
  rcases outstanding with called | queued
  · exact Or.inl called
  · right
    have parts : Functor.send view atCall ∈ (s.batch ++ s.pending) ++ queuedBy outcome.2 := by
      simpa [State.perform] using queued
    exact (List.mem_append.mp parts).resolve_right (queuedBy_send outcome.2 view atCall)

/-- Changing only who holds the outstanding views keeps them. -/
theorem Intact.moved (intact : Intact c s) (connection : t.connection = s.connection)
    (trace : t.trace = s.trace) (sends : t.sends = s.sends)
    (viewed : ∀ view atCall, Outstanding t view atCall →
      (view.read t.storage).map StringView.bytes = some atCall) : Intact c t := by
  refine ⟨connection ▸ intact.wellFormed, viewed, sends ▸ intact.faithful, ?_⟩
  rw [trace, connection, sends]
  exact intact.account

/-- A `send_in_loop` whose view shows the bytes of its call passes them on. -/
theorem sendInLoop_intact (intact : Intact c s) (view : View) (atCall : List Byte)
    (shows : (view.read s.storage).map StringView.bytes = some atCall) (result : WriteResult) :
    Returns (s.sendInLoop view atCall result) True (Intact c) := by
  cases found : view.read s.storage with
  | none => simp [found] at shows
  | some message =>
    have same : message.bytes = atCall := by simpa [found] using shows
    unfold State.sendInLoop
    apply Returns.access found
    refine ((sendInLoop_returns intact.wellFormed message result).imp (fun _ => trivial)
      (fun _ sent => sent)).bind ?_
    rintro ⟨after, effects⟩ sent
    refine returns_ok ⟨sent.wellFormed, ?_, ?_, ?_⟩
    · intro other bytes outstanding
      exact intact.viewed other bytes (outstanding_perform outstanding)
    · intro send member
      rcases List.mem_append.mp member with earlier | last
      · exact intact.faithful send earlier
      · rw [List.mem_singleton.mp last]
        exact same
    · have stream : written effects ++ after.unsent = s.connection.unsent ++ message.bytes :=
        sent.stream
      simp only [State.perform, written_append, List.flatMap_append, List.append_assoc]
      rw [stream, ← List.append_assoc, intact.account]
      simp [same]

/-- Overwriting and releasing are seen through no outstanding view. -/
theorem stored_intact (label : Label Thread) (intact : Intact c s) (kept : keepsViewed s label) :
    Intact c { s with storage := stored s.storage label } :=
  intact.moved rfl rfl rfl fun view atCall outstanding =>
    (kept view atCall outstanding).trans (intact.viewed view atCall outstanding)

variable [DecidableEq Thread]

/-- The calls in progress, with one thread's changed. -/
def setCaller (callers : Thread → Option (View × List Byte)) (thread : Thread)
    (call : Option (View × List Byte)) : Thread → Option (View × List Byte) :=
  fun other => if other = thread then call else callers other

/-- A step of some thread. A view is valid when it is passed to `send`. -/
def step (loopThread : Thread) (s : State Thread) (label : Label Thread) :
    Outcome (State Thread) :=
  match label with
  | .send thread view result => do
      enabled (s.callers thread = none)
      match view.read s.storage with
      | none => .error .notEnabled
      | some message =>
          if s.connection.state = .connected then
            if thread = loopThread then s.sendInLoop view message.bytes result
            else pure { s with callers := setCaller s.callers thread (some (view, message.bytes)) }
          else pure s
  | .push thread =>
      match s.callers thread with
      | none => .error .notEnabled
      | some (view, atCall) =>
          pure { s with
            pending := s.pending ++ [.send view atCall]
            callers := setCaller s.callers thread none }
  | .overwrite _ _ => pure { s with storage := stored s.storage label }
  | .release _ => pure { s with storage := stored s.storage label }
  | .swap =>
      match s.batch with
      | [] => pure { s with batch := s.pending, pending := [] }
      | _ => .error .notEnabled
  | .runFunctor result =>
      match s.batch with
      | [] => .error .notEnabled
      | .send view atCall :: rest =>
          State.sendInLoop { s with batch := rest } view atCall result
      | .writeComplete :: rest => pure { s with batch := rest }
  | .handleWrite result => do
      let outcome ← s.connection.handleWrite result
      pure (s.perform outcome)

/-- A caller that holds a call after one thread's change holds that thread's or its own
from before. -/
theorem setCaller_some {callers : Thread → Option (View × List Byte)} {thread other : Thread}
    {call : Option (View × List Byte)} {found : View × List Byte}
    (called : setCaller callers thread call other = some found) :
    call = some found ∨ callers other = some found := by
  unfold setCaller at called
  split at called
  · exact Or.inl called
  · exact Or.inr called

variable {loopThread : Thread}

/-- A call records the bytes its view shows. -/
theorem send_intact (intact : Intact c s) (thread : Thread) (view : View) (result : WriteResult) :
    Safely (step loopThread s (.send thread view result)) (Intact c) := by
  by_cases free : s.callers thread = none
  · simp only [step, enabled, if_pos free, bind, Except.bind]
    cases found : view.read s.storage with
    | none => exact safely_error (by simp)
    | some message =>
      have shows : (view.read s.storage).map StringView.bytes = some message.bytes := by
        simp [found]
      by_cases connected : s.connection.state = .connected
      · by_cases inLoop : thread = loopThread
        · simp only [if_pos connected, if_pos inLoop]
          exact (sendInLoop_intact intact view message.bytes shows result).safely
        · simp only [if_pos connected, if_neg inLoop]
          refine safely_pure (intact.moved rfl rfl rfl ?_)
          rintro other atCall (⟨caller, called⟩ | queued)
          · rcases setCaller_some called with own | earlier
            · obtain ⟨rfl, rfl⟩ := Prod.mk.inj (Option.some.inj own)
              exact shows
            · exact intact.viewed other atCall (Or.inl ⟨caller, earlier⟩)
          · exact intact.viewed other atCall (Or.inr queued)
      · simp only [if_neg connected]
        exact safely_pure intact
  · simp only [step, enabled, if_neg free, bind, Except.bind]
    exact safely_error (by simp)

/-- Queueing a call that has passed its test keeps it outstanding with the same
bytes. -/
theorem push_intact (intact : Intact c s) (thread : Thread) :
    Safely (step loopThread s (.push thread)) (Intact c) := by
  cases called : s.callers thread with
  | none =>
    simp only [step, called]
    exact safely_error (by simp)
  | some call =>
    obtain ⟨view, atCall⟩ := call
    simp only [step, called]
    refine safely_pure (intact.moved rfl rfl rfl ?_)
    rintro other bytes (⟨caller, earlier⟩ | queued)
    · rcases setCaller_some earlier with own | still
      · cases own
      · exact intact.viewed other bytes (Or.inl ⟨caller, still⟩)
    · have parts : Functor.send other bytes ∈ (s.batch ++ s.pending) ++ [.send view atCall] := by
        simpa using queued
      rcases List.mem_append.mp parts with before | last
      · exact intact.viewed other bytes (Or.inr before)
      · obtain ⟨rfl, rfl⟩ := Functor.send.inj (List.mem_singleton.mp last)
        exact intact.viewed other bytes (Or.inl ⟨thread, called⟩)

/-- A queued send finds the bytes of its call, and passes these on. -/
theorem runFunctor_intact (intact : Intact c s) (result : WriteResult) :
    Safely (step loopThread s (.runFunctor result)) (Intact c) := by
  cases batch : s.batch with
  | nil =>
    simp only [step, batch]
    exact safely_error (by simp)
  | cons functor rest =>
    have shorter : Intact c { s with batch := rest } := by
      refine intact.moved rfl rfl rfl ?_
      rintro view atCall (called | queued)
      · exact intact.viewed view atCall (Or.inl called)
      · exact intact.viewed view atCall (Or.inr (by
          rw [batch]
          exact List.mem_cons_of_mem _ queued))
    cases functor with
    | send view atCall =>
      have shows := intact.viewed view atCall (Or.inr (by simp [batch]))
      simp only [step, batch]
      exact (sendInLoop_intact shorter view atCall shows result).safely
    | writeComplete =>
      simp only [step, batch]
      exact safely_pure shorter

/-- A swap keeps the outstanding calls. -/
theorem swap_intact (intact : Intact c s) :
    Safely (step loopThread s .swap) (Intact c) := by
  cases batch : s.batch with
  | cons functor rest =>
    simp only [step, batch]
    exact safely_error (by simp)
  | nil =>
    simp only [step, batch]
    refine safely_pure (intact.moved rfl rfl rfl ?_)
    rintro view atCall (called | queued)
    · exact intact.viewed view atCall (Or.inl called)
    · exact intact.viewed view atCall (Or.inr (by simpa [batch] using queued))

/-- A flush moves bytes of the output buffer to the kernel and touches no call. -/
theorem handleWrite_intact (intact : Intact c s) (result : WriteResult) :
    Returns (step loopThread s (.handleWrite result)) True (Intact c) := by
  simp only [step]
  refine (handleWrite_returns intact.wellFormed result True).bind ?_
  rintro ⟨after, effects⟩ flushed
  refine returns_ok ⟨flushed.wellFormed, ?_, intact.faithful, ?_⟩
  · intro view atCall outstanding
    exact intact.viewed view atCall (outstanding_perform outstanding)
  · have stream : written effects ++ after.unsent = s.connection.unsent := flushed.stream
    simp only [State.perform, written_append, List.append_assoc]
    rw [stream]
    exact intact.account

/-- A step that leaves the outstanding views alone keeps everything intact and
reads no released bytes. -/
theorem step_intact (label : Label Thread) (intact : Intact c s) (kept : keepsViewed s label) :
    Safely (step loopThread s label) (Intact c) := by
  cases label with
  | send thread view result => exact send_intact intact thread view result
  | push thread => exact push_intact intact thread
  | overwrite object content => exact safely_pure (stored_intact _ intact kept)
  | release object => exact safely_pure (stored_intact _ intact kept)
  | swap => exact swap_intact intact
  | runFunctor result => exact runFunctor_intact intact result
  | handleWrite result => exact (handleWrite_intact intact result).safely

/-- In every run in which no step changes or releases the bytes of a message that
is still outstanding, no released bytes are read, each executed `send_in_loop`
passes on the bytes its view had at the call, and what the kernel accepted
followed by what is buffered is made of exactly these bytes.

Proof: a view is outstanding from the call, where its bytes are recorded, until
its functor runs. In between the bytes do not change, so the functor reads the
recorded ones. -/
theorem sent_bytes_fixed (loopThread : Thread) (c : TcpConnection)
    (wellFormed : c.outputBuffer.WellFormed) (storage : Nat → Option StringView)
    (labels : List (Label Thread))
    (kept : Along (step loopThread) keepsViewed (initial c storage) labels) :
    run (step loopThread) (initial c storage) labels ≠ .error .outOfBounds ∧
      ∀ s, run (step loopThread) (initial c storage) labels = .ok s →
        (∀ send ∈ s.sends, send.passed = send.atCall) ∧
          written s.trace ++ s.connection.unsent = c.unsent ++ s.sends.flatMap Passed.atCall := by
  have start : Intact c (initial c storage : State Thread) := initial_intact c storage wellFormed
  have safe := run_safely (step loopThread) keepsViewed (Intact c)
    (fun _ label intact guard => step_intact label intact guard) labels _ start kept
  refine ⟨safe.accesses, ?_⟩
  intro s reached
  have intact := safe.met s reached
  exact ⟨intact.faithful, intact.account⟩

/-- A connection with nothing to send. -/
def quiet : TcpConnection := { TcpConnection.create 7 false with state := .connected }

/-- Object 0 holds a message of another thread. -/
def message : Nat → Option StringView
  | 0 => some ⟨[29, 30], by decide⟩
  | _ => none

/-- A view of the whole message. -/
def whole : View := ⟨0, 0, 2⟩

/-- The message is sent by thread 1, another object is filled meanwhile, and the
loop thread, thread 0, runs the functor. -/
def sentAndKept : List (Label Nat) :=
  [.send 1 whole (.accepted 2), .push 1, .overwrite 1 ⟨[31], by decide⟩, .swap,
    .runFunctor (.accepted 1)]

/-- A message in storage that stays as it is until the functor has run is passed on as
it was sent. -/
theorem sent_bytes_fixed_kept :
    quiet.outputBuffer.WellFormed ∧
      Along (step 0) keepsViewed (initial quiet message) sentAndKept ∧
      ∃ s : State Nat, run (step 0) (initial quiet message) sentAndKept = .ok s ∧
        s.sends = [⟨[29, 30], [29, 30]⟩] ∧ (∀ send ∈ s.sends, send.passed = send.atCall) := by
  have wellFormed : quiet.outputBuffer.WellFormed := Buffer.fresh_wellFormed
  have along : Along (step 0) keepsViewed (initial quiet message : State Nat) sentAndKept := by
    refine ⟨fun _ _ _ => rfl, ?_⟩
    intro first called
    obtain rfl := Except.ok.inj called
    refine ⟨fun _ _ _ => rfl, ?_⟩
    intro second pushed
    obtain rfl := Except.ok.inj pushed
    refine ⟨?_, fun _ _ => ⟨fun _ _ _ => rfl, fun _ _ => ⟨fun _ _ _ => rfl, fun _ _ => trivial⟩⟩⟩
    rintro view atCall (⟨thread, held⟩ | queued)
    · rcases setCaller_some held with none | earlier
      · cases none
      · rcases setCaller_some earlier with own | none
        · obtain ⟨rfl, rfl⟩ := Prod.mk.inj (Option.some.inj own)
          rfl
        · cases none
    · obtain ⟨rfl, rfl⟩ := Functor.send.inj (List.mem_singleton.mp queued)
      rfl
  have computed : (run (step 0) (initial quiet message : State Nat) sentAndKept).map
      State.sends = .ok [⟨[29, 30], [29, 30]⟩] := by decide +kernel
  obtain ⟨s, reached, computed⟩ := (map_returned _ _ _).mp computed
  exact ⟨wellFormed, along, s, reached, computed,
    ((sent_bytes_fixed 0 quiet wellFormed message sentAndKept along).2 s reached).1⟩

/-- A message overwritten between the call and its functor is sent as it is then,
and a message released in between is read all the same. -/
theorem sent_bytes_not_fixed :
    (∃ s : State Nat, run (step 0) (initial quiet message)
        [.send 1 whole (.accepted 2), .push 1, .overwrite 0 ⟨[32, 32], by decide⟩, .swap,
          .runFunctor (.accepted 2)] = .ok s ∧
      s.sends = [⟨[29, 30], [32, 32]⟩] ∧ written s.trace = [32, 32]) ∧
    run (step 0) (initial quiet message : State Nat)
        [.send 1 whole (.accepted 2), .push 1, .release 0, .swap, .runFunctor (.accepted 2)] =
      .error .outOfBounds := by
  have overwritten : (run (step 0) (initial quiet message : State Nat)
      [.send 1 whole (.accepted 2), .push 1, .overwrite 0 ⟨[32, 32], by decide⟩, .swap,
        .runFunctor (.accepted 2)]).map (fun s => (s.sends, written s.trace)) =
      .ok ([⟨[29, 30], [32, 32]⟩], [32, 32]) := by decide +kernel
  constructor
  · obtain ⟨s, reached, overwritten⟩ := (map_returned _ _ _).mp overwritten
    simp only [Prod.mk.injEq] at overwritten
    exact ⟨s, reached, overwritten⟩
  · rfl

end ReactorNetwork.SentViews
