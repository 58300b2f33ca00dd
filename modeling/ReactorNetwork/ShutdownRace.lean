import ReactorNetwork.ConnectionLife

/-!
# Concurrent shutdowns of one connection

Any number of threads call `shutdown` while the loop thread establishes the
connection, handles its events and destroys it. Every access to `state_` is a
step of its own: a compare-and-exchange of `shutdown`, a comparison of an
assertion, the load of the log line, a store. Between any two steps of one thread
the others may take theirs. The loop thread calls its functions in any order and
any number of times; an assertion that fails ends the run.

`shutdown` repeats its exchange while it succeeds. A failed exchange overwrites
`expected` and ends the call, so that every exchange expects `Connected`. What
the loop thread does to the rest of the connection happens with the last access
of the function, since no other thread reads it.

The calls that succeeded, the calls that scheduled `shutdown_in_loop` and the
exchanges of each call that returned are recorded beside.
-/

namespace ReactorNetwork.ShutdownRace

open Runs

/-- The place of a state in the order of a connection's life. -/
def rank : ConnectionState → Nat
  | .connecting => 0
  | .connected => 1
  | .disconnecting => 2
  | .disconnected => 3

/-- Where the loop thread is between two accesses of one function. -/
inductive Point where
  | idle
  /-- `connect_established` has passed its assertion. -/
  | establishing
  /-- `connect_destoryed` has found the state not `Connected`. -/
  | testing
  /-- `connect_destoryed` has passed its assertion. -/
  | destroying
  /-- `handle_close` has logged the state. -/
  | logged
  /-- `handle_close` has found the state not `Connected`. -/
  | closing
deriving DecidableEq, Repr

/-- The part of the loop in `shutdown` a call executes next. -/
inductive Phase where
  | attempting
  | scheduling
deriving DecidableEq, Repr

/-- A call of `shutdown` that has not returned, with the exchanges it has made. -/
structure Call where
  attempts : Nat
  phase : Phase
deriving DecidableEq, Repr

/-- A connection, its loop's thread and the calls of all threads. -/
structure State (Thread : Type) where
  connection : TcpConnection
  point : Point
  calls : Thread → Option Call
  /-- The threads whose `shutdown_in_loop` waits in the loop's queue. -/
  pending : List Thread
  trace : List Effect
  succeeded : List Thread
  scheduled : List Thread
  /-- The number of exchanges of each call that has returned. -/
  returned : List Nat

/-- A step of one thread's call, or of the loop's thread. -/
inductive Label (Thread : Type) where
  | shutdown (thread : Thread)
  | compareExchange (thread : Thread)
  | runInLoop (thread : Thread)
  | connectEstablished
  | connectDestoryed
  | handleClose
  | handleWrite (result : WriteResult)
  | resume
  | runFunctor
deriving DecidableEq, Repr

variable {Thread : Type}

/-- A connection that has just been created. -/
def initial (sockFd : Int) (writeCompleteCallback : Bool) : State Thread where
  connection := TcpConnection.create sockFd writeCompleteCallback
  point := .idle
  calls := fun _ => none
  pending := []
  trace := []
  succeeded := []
  scheduled := []
  returned := []

/-- The result of a loop-thread function, with its effects. -/
def State.perform (s : State Thread) (outcome : TcpConnection × List Effect) : State Thread :=
  { s with connection := outcome.1, trace := s.trace ++ outcome.2, point := .idle }

/-- The next access of the loop-thread function that is under way. -/
def resumed (s : State Thread) : Outcome (State Thread) :=
  let c := s.connection
  match s.point with
  | .idle => .error .notEnabled
  | .establishing =>
      pure (s.perform ({ c with state := .connected, channel := c.channel.enableReading },
        [.updateChannel, .connectCallback]))
  | .testing => do
      require (c.state = .disconnecting)
      pure { s with point := .destroying }
  | .destroying =>
      pure (s.perform ({ c with state := .disconnected, channel := c.channel.disableAll },
        [.updateChannel, .connectCallback, .removeChannel]))
  | .logged =>
      if c.state = .connected then
        pure (s.perform ({ c with channel := c.channel.disableAll },
          [.updateChannel, .closeCallback]))
      else pure { s with point := .closing }
  | .closing => do
      require (c.state = .disconnecting)
      pure (s.perform ({ c with channel := c.channel.disableAll },
        [.updateChannel, .closeCallback]))

/-- A step of the loop thread outside its own calls of `shutdown`. -/
def loopStep (s : State Thread) : Label Thread → Outcome (State Thread)
  | .connectEstablished => do
      enabled (s.point = .idle)
      require (s.connection.state = .connecting)
      pure { s with point := .establishing }
  | .connectDestoryed => do
      enabled (s.point = .idle)
      pure { s with
        point := if s.connection.state = .connected then .destroying else .testing }
  | .handleClose => do
      enabled (s.point = .idle)
      pure { s with point := .logged }
  | .handleWrite result => do
      enabled (s.point = .idle)
      let outcome ← s.connection.handleWrite result
      pure (s.perform outcome)
  | .runFunctor => do
      enabled (s.point = .idle)
      match s.pending with
      | [] => .error .notEnabled
      | _ :: rest =>
          pure { s.perform (s.connection, s.connection.shutdownInLoop) with pending := rest }
  | .resume => resumed s
  | _ => .error .notEnabled

/-- What holds of the calls in every reachable state: one exchange has succeeded at
most, one call has scheduled at most, no call is still in its loop after two
exchanges, and no call returned after more than two. -/
structure Settled (s : State Thread) : Prop where
  once : s.succeeded.length ≤ 1
  scheduledOnce : s.scheduled.length ≤ 1
  bySuccess : s.scheduled.Sublist s.succeeded
  underWay : ∀ thread call, s.calls thread = some call → call.attempts < 2
  attempts : ∀ attempts ∈ s.returned, attempts ≤ 2

/-- A call that has succeeded finds the state past `Connected` at its next
exchange. -/
def Call.Ready (s : State Thread) (thread : Thread) (call : Call) : Prop :=
  match call.phase with
  | .attempting => call.attempts = 0 ∨ call.attempts = 1 ∧ 2 ≤ rank s.connection.state
  | .scheduling => call.attempts = 1 ∧ 2 ≤ rank s.connection.state ∧
      s.succeeded = [thread] ∧ s.scheduled = []

/-- The loop thread is about to store `Connected` only over `Connecting`, no call
has succeeded before `Disconnecting`, and each call under way is ready for its
next step. -/
structure Orderly (s : State Thread) : Prop where
  establishing : s.point = .establishing → s.connection.state = .connecting
  unsucceeded : rank s.connection.state ≤ 1 → s.succeeded = []
  once : s.succeeded.length ≤ 1
  scheduled : s.scheduled = [] ∨ s.scheduled = s.succeeded
  ready : ∀ thread call, s.calls thread = some call → call.Ready s thread
  attempts : ∀ attempts ∈ s.returned, attempts ≤ 2

/-- Before the first step no call is under way. -/
theorem initial_orderly (sockFd : Int) (writeCompleteCallback : Bool) :
    Orderly (initial sockFd writeCompleteCallback : State Thread) where
  establishing := by simp [initial]
  unsucceeded := fun _ => rfl
  once := by simp [initial]
  scheduled := Or.inl rfl
  ready := by simp [initial]
  attempts := by simp [initial]

/-- What holds of the calls follows from the order of stores and exchanges. -/
theorem settled_of_orderly {s : State Thread} (orderly : Orderly s) : Settled s where
  once := orderly.once
  scheduledOnce := by
    rcases orderly.scheduled with none | same
    · simp [none]
    · exact same ▸ orderly.once
  bySuccess := by
    rcases orderly.scheduled with none | same
    · simp [none]
    · exact same ▸ List.Sublist.refl _
  underWay := fun thread call present => by
    have ready := orderly.ready thread call present
    unfold Call.Ready at ready
    split at ready <;> omega
  attempts := orderly.attempts

/-- A step of the loop thread leaves the calls alone and moves the state forward,
and only `connect_established` gets to its store. -/
structure LoopMoved (s t : State Thread) : Prop where
  calls : t.calls = s.calls
  succeeded : t.succeeded = s.succeeded
  scheduled : t.scheduled = s.scheduled
  returned : t.returned = s.returned
  forward : rank s.connection.state ≤ rank t.connection.state
  establishing : t.point = .establishing → t.connection.state = .connecting

variable {s t : State Thread}

/-- Performing a function whose outcome is not behind leaves the calls alone. -/
theorem perform_moved (outcome : TcpConnection × List Effect)
    (forward : rank s.connection.state ≤ rank outcome.1.state) :
    LoopMoved s (s.perform outcome) :=
  ⟨rfl, rfl, rfl, rfl, forward, by simp [State.perform]⟩

/-- Moving on inside a function, not to the store of `connect_established`. -/
theorem point_moved (point : Point) (other : point ≠ .establishing) :
    LoopMoved s { s with point := point } :=
  ⟨rfl, rfl, rfl, rfl, Nat.le_refl _, fun same => absurd same other⟩

/-- Nothing comes behind `Disconnected`. -/
theorem rank_le_disconnected (state : ConnectionState) : rank state ≤ rank .disconnected := by
  cases state <;> decide

/-- The next access of a function under way moves the state forward. -/
theorem resumed_moved (orderly : Orderly s) (taken : resumed s = .ok t) : LoopMoved s t := by
  unfold resumed at taken
  cases at_ : s.point with
  | idle => simp [at_] at taken
  | establishing =>
    simp only [at_, pure_ok] at taken
    subst taken
    apply perform_moved
    rw [orderly.establishing at_]
    exact Nat.zero_le _
  | testing =>
    simp only [at_, require_bind_ok, pure_ok] at taken
    obtain ⟨-, rfl⟩ := taken
    exact point_moved .destroying (by decide)
  | destroying =>
    simp only [at_, pure_ok] at taken
    subst taken
    exact perform_moved _ (rank_le_disconnected _)
  | logged =>
    simp only [at_] at taken
    split at taken
    · obtain rfl := (pure_ok _ _).mp taken
      exact perform_moved _ (Nat.le_refl _)
    · obtain rfl := (pure_ok _ _).mp taken
      exact point_moved .closing (by decide)
  | closing =>
    simp only [at_, require_bind_ok, pure_ok] at taken
    obtain ⟨-, rfl⟩ := taken
    exact perform_moved _ (Nat.le_refl _)

/-- So does every step of the loop thread outside its own calls. -/
theorem loopStep_moved (label : Label Thread) (orderly : Orderly s)
    (taken : loopStep s label = .ok t) : LoopMoved s t := by
  cases label with
  | shutdown thread => cases taken
  | compareExchange thread => cases taken
  | runInLoop thread => cases taken
  | connectEstablished =>
    simp only [loopStep, bind_ok, enabled_ok, require_ok, pure_ok] at taken
    obtain ⟨-, -, -, constructed, rfl⟩ := taken
    exact ⟨rfl, rfl, rfl, rfl, Nat.le_refl _, fun _ => constructed⟩
  | connectDestoryed =>
    simp only [loopStep, bind_ok, enabled_ok, pure_ok] at taken
    obtain ⟨-, -, rfl⟩ := taken
    apply point_moved
    split <;> decide
  | handleClose =>
    simp only [loopStep, bind_ok, enabled_ok, pure_ok] at taken
    obtain ⟨-, -, rfl⟩ := taken
    exact point_moved .logged (by decide)
  | handleWrite result =>
    simp only [loopStep, bind_ok, enabled_ok, pure_ok] at taken
    obtain ⟨-, -, ⟨after, effects⟩, handled, rfl⟩ := taken
    apply perform_moved
    exact Nat.le_of_eq (congrArg rank (ConnectionLife.handleWrite_state handled).1.symm)
  | resume => exact resumed_moved orderly taken
  | runFunctor =>
    simp only [loopStep, bind_ok, enabled_ok] at taken
    obtain ⟨-, -, called⟩ := taken
    split at called
    · cases called
    · obtain rfl := (pure_ok _ _).mp called
      exact ⟨rfl, rfl, rfl, rfl, Nat.le_refl _, by simp [State.perform]⟩

/-- A call stays ready while the state moves forward and no call advances. -/
theorem Call.Ready.forward {thread : Thread} {call : Call} (ready : call.Ready s thread)
    (forward : rank s.connection.state ≤ rank t.connection.state)
    (succeeded : t.succeeded = s.succeeded) (scheduled : t.scheduled = s.scheduled) :
    call.Ready t thread := by
  unfold Call.Ready at ready ⊢
  split at ready
  · omega
  · rw [succeeded, scheduled]
    exact ⟨ready.1, by omega, ready.2.2⟩

/-- A step that moves the state forward leaves every call ready for its next step. -/
theorem LoopMoved.orderly (moved : LoopMoved s t) (orderly : Orderly s) : Orderly t where
  establishing := moved.establishing
  unsucceeded := fun early => by
    rw [moved.succeeded]
    exact orderly.unsucceeded (Nat.le_trans moved.forward early)
  once := moved.succeeded ▸ orderly.once
  scheduled := by
    rw [moved.scheduled, moved.succeeded]
    exact orderly.scheduled
  ready := fun thread call present => by
    rw [moved.calls] at present
    exact (orderly.ready thread call present).forward moved.forward moved.succeeded moved.scheduled
  attempts := moved.returned ▸ orderly.attempts

variable [DecidableEq Thread]

/-- The calls with one thread's changed. -/
def setCall (calls : Thread → Option Call) (thread : Thread) (call : Option Call) :
    Thread → Option Call :=
  fun other => if other = thread then call else calls other

/-- A step of a call of `shutdown`. -/
def callStep (loopThread : Thread) (s : State Thread) : Label Thread → Outcome (State Thread)
  | .shutdown thread => do
      -- the loop thread calls it from user code, with no access outstanding
      enabled (s.calls thread = none ∧ (thread = loopThread → s.point = .idle))
      pure { s with calls := setCall s.calls thread (some ⟨0, .attempting⟩) }
  | .compareExchange thread =>
      match s.calls thread with
      | some ⟨attempts, .attempting⟩ =>
          if s.connection.state = .connected then
            pure { s with
              connection := { s.connection with state := .disconnecting }
              calls := setCall s.calls thread (some ⟨attempts + 1, .scheduling⟩)
              succeeded := s.succeeded ++ [thread] }
          else
            pure { s with
              calls := setCall s.calls thread none
              returned := s.returned ++ [attempts + 1] }
      | _ => .error .notEnabled
  | .runInLoop thread =>
      match s.calls thread with
      | some ⟨attempts, .scheduling⟩ =>
          let called := { s with
            calls := setCall s.calls thread (some ⟨attempts, .attempting⟩)
            scheduled := s.scheduled ++ [thread] }
          if thread = loopThread then
            pure (called.perform (s.connection, s.connection.shutdownInLoop))
          else pure { called with pending := s.pending ++ [thread] }
      | _ => .error .notEnabled
  | _ => .error .notEnabled

/-- A step of some thread. The loop thread advances only outside its own calls. -/
def step (loopThread : Thread) (s : State Thread) (label : Label Thread) :
    Outcome (State Thread) :=
  match label with
  | .shutdown _ | .compareExchange _ | .runInLoop _ => callStep loopThread s label
  | _ => do
      enabled (s.calls loopThread = none)
      loopStep s label

variable {loopThread : Thread}

/-- Setting a call finds it there. -/
theorem setCall_self (calls : Thread → Option Call) (thread : Thread) (call : Option Call) :
    setCall calls thread call thread = call :=
  if_pos rfl

/-- What a step of a call of `shutdown` can do. -/
inductive CallMoved (loopThread : Thread) (s t : State Thread) : Prop where
  | began (thread : Thread) (fresh : s.calls thread = none)
      (same : t = { s with calls := setCall s.calls thread (some ⟨0, .attempting⟩) })
  | exchanged (thread : Thread) (attempts : Nat)
      (present : s.calls thread = some ⟨attempts, .attempting⟩)
      (connected : s.connection.state = .connected)
      (same : t = { s with
        connection := { s.connection with state := .disconnecting }
        calls := setCall s.calls thread (some ⟨attempts + 1, .scheduling⟩)
        succeeded := s.succeeded ++ [thread] })
  | returned (thread : Thread) (attempts : Nat)
      (present : s.calls thread = some ⟨attempts, .attempting⟩)
      (refused : s.connection.state ≠ .connected)
      (same : t = { s with
        calls := setCall s.calls thread none
        returned := s.returned ++ [attempts + 1] })
  | scheduled (thread : Thread) (attempts : Nat)
      (present : s.calls thread = some ⟨attempts, .scheduling⟩)
      (connection : t.connection = s.connection)
      (point : t.point = .establishing → s.point = .establishing)
      (calls : t.calls = setCall s.calls thread (some ⟨attempts, .attempting⟩))
      (succeeded : t.succeeded = s.succeeded) (returned : t.returned = s.returned)
      (recorded : t.scheduled = s.scheduled ++ [thread])

/-- A step of a call is one of the cases above. -/
theorem callStep_moved (label : Label Thread) (taken : callStep loopThread s label = .ok t) :
    CallMoved loopThread s t := by
  unfold callStep at taken
  split at taken
  · rename_i thread
    simp only [bind_ok, enabled_ok, pure_ok] at taken
    obtain ⟨-, ⟨fresh, -⟩, rfl⟩ := taken
    exact .began thread fresh rfl
  · rename_i thread
    split at taken
    · rename_i attempts present
      split at taken
      · rename_i connected
        obtain rfl := (pure_ok _ _).mp taken
        exact .exchanged thread attempts present connected rfl
      · rename_i refused
        obtain rfl := (pure_ok _ _).mp taken
        exact .returned thread attempts present refused rfl
    · cases taken
  · rename_i thread
    split at taken
    · rename_i attempts present
      split at taken
      · obtain rfl := (pure_ok _ _).mp taken
        exact .scheduled thread attempts present rfl (by simp [State.perform]) rfl rfl rfl rfl
      · obtain rfl := (pure_ok _ _).mp taken
        exact .scheduled thread attempts present rfl id rfl rfl rfl rfl
    · cases taken
  · cases taken

/-- A step of a call moves the state forward. -/
theorem CallMoved.forward (moved : CallMoved loopThread s t) :
    rank s.connection.state ≤ rank t.connection.state := by
  cases moved with
  | began thread fresh same => exact same ▸ Nat.le_refl _
  | exchanged thread attempts present connected same =>
    rw [same, connected]
    exact Nat.le_succ 1
  | returned thread attempts present refused same => exact same ▸ Nat.le_refl _
  | scheduled thread attempts present connection point calls succeeded returned recorded =>
    exact Nat.le_of_eq (congrArg (fun c => rank c.state) connection.symm)

/-- Where one call was set, it has to be ready, and the others have to stay so. -/
theorem setCall_ready {thread : Thread} {call : Option Call}
    (calls : t.calls = setCall s.calls thread call)
    (own : ∀ mine, call = some mine → mine.Ready t thread)
    (others : ∀ other found, other ≠ thread → s.calls other = some found → found.Ready t other) :
    ∀ other found, t.calls other = some found → found.Ready t other := by
  intro other found present
  rw [calls] at present
  unfold setCall at present
  split at present
  · rename_i same
    rw [same]
    exact own found present
  · rename_i different
    exact others other found different present

/-- A step of a call keeps the order.

Proof: an exchange succeeds only over `Connected`, where no exchange has
succeeded, so it is the first of its call and the only success. A call that
schedules is the one that succeeded, and the state it left is past `Connected`
whatever has happened since; its next exchange ends it. -/
theorem CallMoved.orderly (moved : CallMoved loopThread s t) (orderly : Orderly s) :
    Orderly t := by
  cases moved with
  | began thread fresh same =>
    subst same
    refine ⟨orderly.establishing, orderly.unsucceeded, orderly.once, orderly.scheduled, ?_,
      orderly.attempts⟩
    apply setCall_ready rfl
    · rintro mine ⟨⟩
      exact Or.inl rfl
    · exact fun other call _ present => orderly.ready other call present
  | exchanged thread attempts present connected same =>
    subst same
    have none : s.succeeded = [] := orderly.unsucceeded (by rw [connected]; decide)
    have unscheduled : s.scheduled = [] := by
      rcases orderly.scheduled with empty | same
      · exact empty
      · exact same.trans none
    have first : attempts = 0 := by
      have ready := orderly.ready thread _ present
      rcases ready with zero | ⟨-, past⟩
      · exact zero
      · rw [connected] at past
        exact absurd past (by decide)
    refine ⟨?_, ?_, by simp [none], Or.inl unscheduled, ?_, orderly.attempts⟩
    · intro establishing
      have constructed := orderly.establishing establishing
      rw [connected] at constructed
      cases constructed
    · intro early
      exact absurd early (Nat.lt_irrefl 1)
    · apply setCall_ready rfl
      · rintro mine ⟨⟩
        exact ⟨by simp [first], by simp [rank], by simp [none], unscheduled⟩
      · intro other call _ found
        have ready := orderly.ready other call found
        unfold Call.Ready at ready ⊢
        split at ready
        · rw [connected] at ready
          simp only [rank] at ready ⊢
          omega
        · rw [connected] at ready
          exact absurd ready.2.1 (by decide)
  | returned thread attempts present refused same =>
    subst same
    refine ⟨orderly.establishing, orderly.unsucceeded, orderly.once, orderly.scheduled, ?_, ?_⟩
    · apply setCall_ready rfl
      · rintro mine ⟨⟩
      · exact fun other call _ found => orderly.ready other call found
    · intro count member
      rcases List.mem_append.mp member with earlier | last
      · exact orderly.attempts count earlier
      · have ready := orderly.ready thread _ present
        have same : count = attempts + 1 := List.mem_singleton.mp last
        have few : attempts = 0 ∨ attempts = 1 ∧ 2 ≤ rank s.connection.state := ready
        omega
  | scheduled thread attempts present connection point calls succeeded returned recorded =>
    obtain ⟨once, past, only, unscheduled⟩ := orderly.ready thread _ present
    refine ⟨?_, ?_, succeeded ▸ orderly.once, ?_, ?_, returned ▸ orderly.attempts⟩
    · intro establishing
      rw [connection]
      exact orderly.establishing (point establishing)
    · intro early
      rw [succeeded]
      exact orderly.unsucceeded (connection ▸ early)
    · right
      rw [recorded, unscheduled, succeeded, only]
      rfl
    · apply setCall_ready calls
      · rintro mine ⟨⟩
        exact Or.inr ⟨once, connection ▸ past⟩
      · intro other call different found
        have ready := orderly.ready other call found
        unfold Call.Ready at ready ⊢
        split at ready
        · rw [connection]
          exact ready
        · have same := ready.2.2.1.symm.trans only
          exact absurd (List.singleton_inj.mp same) different

/-- Every step keeps the order and moves the state forward or not at all. -/
theorem step_orderly (label : Label Thread) (orderly : Orderly s)
    (taken : step loopThread s label = .ok t) :
    Orderly t ∧ rank s.connection.state ≤ rank t.connection.state := by
  unfold step at taken
  split at taken
  case h_4 =>
    simp only [bind_ok, enabled_ok] at taken
    obtain ⟨-, -, moved⟩ := taken
    have loopMoved := loopStep_moved label orderly moved
    exact ⟨loopMoved.orderly orderly, loopMoved.forward⟩
  all_goals
    have callMoved := callStep_moved _ taken
    exact ⟨callMoved.orderly orderly, callMoved.forward⟩

/-- The step a call under way takes next. -/
def Call.next (thread : Thread) (call : Call) : Label Thread :=
  match call.phase with
  | .attempting => .compareExchange thread
  | .scheduling => .runInLoop thread

/-- Each call under way can take its next step, and a second exchange ends it. -/
def Proceeds (loopThread : Thread) (s : State Thread) : Prop :=
  ∀ thread call, s.calls thread = some call →
    ∃ t, step loopThread s (call.next thread) = .ok t ∧
      (call.phase = .attempting → call.attempts = 1 → t.calls thread = none)

/-- A call that is ready can take its next step, and is over after a second exchange. -/
theorem proceeds_of_orderly (orderly : Orderly s) : Proceeds loopThread s := by
  rintro thread ⟨attempts, phase⟩ present
  cases phase with
  | attempting =>
    simp only [Call.next, step, callStep, present]
    by_cases connected : s.connection.state = .connected
    · rw [if_pos connected]
      refine ⟨_, rfl, ?_⟩
      intro _ second
      have few : attempts = 0 ∨ attempts = 1 ∧ 2 ≤ rank s.connection.state :=
        orderly.ready thread _ present
      rw [connected] at few
      simp only [rank] at few
      omega
    · rw [if_neg connected]
      exact ⟨_, rfl, fun _ _ => setCall_self _ _ _⟩
  | scheduling =>
    simp only [Call.next, step, callStep, present]
    by_cases own : thread = loopThread
    · rw [if_pos own]
      refine ⟨_, rfl, ?_⟩
      intro attempting
      cases attempting
    · rw [if_neg own]
      refine ⟨_, rfl, ?_⟩
      intro attempting
      cases attempting

/-- Under every interleaving of shutdowns with the loop thread, the state only
moves forward, at most one call of `shutdown` succeeds and schedules
`shutdown_in_loop`, and each call ends after at most two exchanges.

Proof: the order of the calls is an invariant of the run from the constructed
connection, and each step from an orderly state moves the state forward; the
rest follows from the order. -/
theorem state_only_moves_forward (loopThread : Thread) (sockFd : Int)
    (writeCompleteCallback : Bool) (before after : List (Label Thread)) (s t : State Thread)
    (reached : run (step loopThread) (initial sockFd writeCompleteCallback) before = .ok s)
    (continued : run (step loopThread) s after = .ok t) :
    rank s.connection.state ≤ rank t.connection.state ∧ Settled t ∧ Proceeds loopThread t := by
  have orderly : Orderly s := invariant (step loopThread) Orderly
    (fun _ label _ holds taken => (step_orderly label holds taken).1) before _ s
    (initial_orderly sockFd writeCompleteCallback) reached
  have later : Orderly t ∧ rank s.connection.state ≤ rank t.connection.state :=
    invariant (step loopThread)
      (fun u => Orderly u ∧ rank s.connection.state ≤ rank u.connection.state)
      (fun u label v holds taken => by
        obtain ⟨kept, forward⟩ := step_orderly label holds.1 taken
        exact ⟨kept, Nat.le_trans holds.2 forward⟩)
      after s t ⟨orderly, Nat.le_refl _⟩ continued
  exact ⟨later.2, settled_of_orderly later.1, proceeds_of_orderly later.1⟩

/-- Two threads shut a connection down at once; one of them succeeds after the loop
thread has begun to destroy it. -/
def shutTwice : List (Label Nat) :=
  [.shutdown 1, .compareExchange 1, .connectEstablished, .shutdown 2, .resume, .shutdown 1,
    .connectDestoryed, .compareExchange 2, .compareExchange 1, .resume, .runInLoop 2,
    .runFunctor]

/-- The loop thread is thread 0. The state is `Disconnected` while the successful
call is between its two exchanges. -/
theorem state_only_moves_forward_shutTwice :
    ∃ s t : State Nat, run (step 0) (initial 7 false) (shutTwice.take 8) = .ok s ∧
      run (step 0) s (shutTwice.drop 8) = .ok t ∧
      s.connection.state = .disconnecting ∧ t.connection.state = .disconnected ∧
      t.succeeded = [2] ∧ t.scheduled = [2] ∧ t.returned = [1, 1] ∧
      t.calls 2 = some ⟨1, .attempting⟩ ∧
      rank s.connection.state ≤ rank t.connection.state ∧ Settled t ∧ Proceeds 0 t := by
  have first : (run (step 0) (initial 7 false) (shutTwice.take 8)).map
      (fun s => s.connection.state) = .ok .disconnecting := by decide +kernel
  have second : (run (step 0) (initial 7 false) (shutTwice.take 8) >>=
      fun s => run (step 0) s (shutTwice.drop 8)).map
      (fun t => (t.connection.state, t.succeeded, t.scheduled, t.returned, t.calls 2)) =
        .ok (.disconnected, [2], [2], [1, 1], some ⟨1, .attempting⟩) := by decide +kernel
  obtain ⟨s, reached, first⟩ := (map_returned _ _ _).mp first
  rw [reached] at second
  obtain ⟨t, continued, second⟩ := (map_returned _ _ _).mp second
  simp only [Prod.mk.injEq] at second
  obtain ⟨state, succeeded, scheduled, returned, call⟩ := second
  exact ⟨s, t, reached, continued, first, state, succeeded, scheduled, returned, call,
    state_only_moves_forward 0 7 false _ _ s t reached continued⟩

end ReactorNetwork.ShutdownRace
