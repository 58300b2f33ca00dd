import ReactorNetwork.Machine

/-!
# The event loop and its functor queue

The loop thread alternates between polling, dispatching the active channels and
running the queued functors; any thread may queue a functor or ask the loop to
quit. A step is one access to shared state: the push under `pending_mut_`, the
test of `calling_pending_functors_`, the call on the event descriptor, the swap
under `pending_mut_`. Other threads may take steps between any two of them.

User code runs on the loop thread before `loop()`, inside channel callbacks and
inside functors, and may queue functors from all three places. What such code
does besides is not modelled; a functor is an arbitrary value. `run_in_loop`
either calls its functor at once, which is no step of the queue, or is
`queue_in_loop`.

The event descriptor counts: a read of a nonzero counter resets it, a read of
zero fails and changes nothing. The source creates it at zero.
-/

namespace ReactorNetwork.EventLoop

/-- The channels a poll can report: the loop's own wake-up channel or another. -/
inductive Source where
  | wakeup
  | other
deriving DecidableEq, Repr

/-- Where the loop thread is. Between two functors `next` is the index of the
one to call; the vector swapped out of the queue is a local of the call. -/
inductive Position (Functor : Type) where
  | outside
  | atTest
  | polling
  | dispatching (rest : List Source)
  | handling (rest : List Source)
  | flagged
  | running (functors : List Functor) (next : Nat)
  | calling (functors : List Functor) (next : Nat)
deriving DecidableEq

/-- The progress of one thread's `queue_in_loop` or `quit`. -/
inductive Call where
  | idle
  | pushed
  | waking
  | quitting
deriving DecidableEq, Repr

/-- The call is a `queue_in_loop` that has not returned. -/
def Call.queueing : Call → Bool
  | .pushed => true
  | .waking => true
  | _ => false

/-- The shared state, the loop thread's position and every thread's call. Each
pending functor carries the thread that queued it; the functors begun so far
are recorded beside. -/
structure State (Thread : Type) (Functor : Type) where
  position : Position Functor
  looping : Bool
  quit : Bool
  callingPendingFunctors : Bool
  wakeupFd : Nat
  pendingFunctors : List (Thread × Functor)
  calls : Thread → Call
  executed : List Functor

/-- One step of some thread, with its environment's choice. -/
inductive Label (Thread : Type) (Functor : Type) where
  | push (thread : Thread) (functor : Functor)
  | test (thread : Thread)
  | wakeup (thread : Thread)
  | quit (thread : Thread)
  | enterLoop
  | leaveLoop
  | enterPoll
  | pollReturn (active : List Source)
  | dispatch
  | finishCallback
  | raiseFlag
  | swap
  | beginFunctor
  | finishFunctor
  | lowerFlag

variable {Thread Functor : Type}

/-- The steps that add, take, begin or finish functors. -/
def Label.movesFunctors : Label Thread Functor → Bool
  | .push _ _ => true
  | .swap => true
  | .beginFunctor => true
  | .finishFunctor => true
  | .lowerFlag => true
  | _ => false

/-- The constructor. -/
def initial : State Thread Functor where
  position := .outside
  looping := false
  quit := false
  callingPendingFunctors := false
  wakeupFd := 0
  pendingFunctors := []
  calls := fun _ => .idle
  executed := []

/-- A read of the event descriptor: the counter after it. -/
def eventfdRead (_counter : Nat) : Nat := 0

/-- The loop thread executes user code here and may call into the loop. -/
def Position.userCode : Position Functor → Bool
  | .outside => true
  | .handling _ => true
  | .calling _ _ => true
  | _ => false

variable [DecidableEq Thread]

/-- The calls of the threads, with one thread's changed. -/
def setCall (calls : Thread → Call) (thread : Thread) (call : Call) : Thread → Call :=
  fun other => if other = thread then call else calls other

/-- A thread can start a call when it is not inside one; the loop thread also
has to be executing user code. -/
def mayCall (loopThread : Thread) (s : State Thread Functor) (thread : Thread) : Prop :=
  s.calls thread = .idle ∧ (thread = loopThread → s.position.userCode = true)

instance (loopThread : Thread) (s : State Thread Functor) (thread : Thread) :
    Decidable (mayCall loopThread s thread) :=
  inferInstanceAs (Decidable (_ ∧ (_ → _)))

/-- The steps of `queue_in_loop`, `wakeup` and `quit`, taken by any thread. The
source's `wakeup` reads the event descriptor. -/
def callStep (loopThread : Thread) (s : State Thread Functor) :
    Label Thread Functor → Outcome (State Thread Functor)
  | .push thread functor => do
      enabled (mayCall loopThread s thread)
      pure { s with
        pendingFunctors := s.pendingFunctors ++ [(thread, functor)]
        calls := setCall s.calls thread .pushed }
  | .test thread => do
      enabled (s.calls thread = .pushed)
      let wakes := thread ≠ loopThread ∨ s.callingPendingFunctors = true
      pure { s with calls := setCall s.calls thread (if wakes then .waking else .idle) }
  | .wakeup thread => do
      enabled (s.calls thread = .waking ∨ s.calls thread = .quitting)
      pure { s with
        wakeupFd := eventfdRead s.wakeupFd
        calls := setCall s.calls thread .idle }
  | .quit thread => do
      enabled (mayCall loopThread s thread)
      pure { s with
        quit := true
        calls := setCall s.calls thread (if thread ≠ loopThread then .quitting else .idle) }
  | _ => .error .notEnabled

/-- The steps of `loop` and `do_pending_functors`, taken by the loop thread. -/
def loopStep (s : State Thread Functor) (label : Label Thread Functor) :
    Outcome (State Thread Functor) :=
  match label, s.position with
  | .enterLoop, .outside => do
      require (s.looping = false)
      pure { s with looping := true, quit := false, position := .atTest }
  | .leaveLoop, .atTest => do
      enabled (s.quit = true)
      pure { s with looping := false, position := .outside }
  | .enterPoll, .atTest => do
      enabled (s.quit = false)
      pure { s with position := .polling }
  | .pollReturn active, .polling => do
      enabled (Source.wakeup ∈ active → 0 < s.wakeupFd)
      pure { s with position := .dispatching active }
  -- `handle_read` of the wake-up channel
  | .dispatch, .dispatching (.wakeup :: rest) =>
      pure { s with wakeupFd := eventfdRead s.wakeupFd, position := .dispatching rest }
  | .dispatch, .dispatching (.other :: rest) => pure { s with position := .handling rest }
  | .finishCallback, .handling rest => pure { s with position := .dispatching rest }
  | .raiseFlag, .dispatching [] =>
      pure { s with callingPendingFunctors := true, position := .flagged }
  | .swap, .flagged =>
      pure { s with
        position := .running (s.pendingFunctors.map Prod.snd) 0
        pendingFunctors := [] }
  | .beginFunctor, .running functors next =>
      match functors[next]? with
      | none => .error .notEnabled
      | some functor =>
          pure { s with
            position := .calling functors next
            executed := s.executed ++ [functor] }
  | .finishFunctor, .calling functors next =>
      pure { s with position := .running functors (next + 1) }
  | .lowerFlag, .running functors next => do
      enabled (functors.length ≤ next)
      pure { s with callingPendingFunctors := false, position := .atTest }
  | _, _ => .error .notEnabled

/-- A step of some thread. The loop thread advances only outside its own calls. -/
def step (loopThread : Thread) (s : State Thread Functor) (label : Label Thread Functor) :
    Outcome (State Thread Functor) :=
  match label with
  | .push _ _ | .test _ | .wakeup _ | .quit _ => callStep loopThread s label
  | _ => do
      enabled (s.calls loopThread = .idle)
      loopStep s label

/-- The vector swapped out of the queue, while its functors are being called. -/
def Position.batch : Position Functor → Option (List Functor)
  | .running functors _ => some functors
  | .calling functors _ => some functors
  | _ => none

/-- The functors swapped out of the queue and not yet begun. -/
def Position.remaining : Position Functor → List Functor
  | .running functors next => functors.drop next
  | .calling functors next => functors.drop (next + 1)
  | _ => []

/-- The loop thread has entered its poll and not yet swapped the queue out. A
functor queued now is run in this iteration. -/
def Position.accepting : Position Functor → Bool
  | .polling => true
  | .dispatching _ => true
  | .handling _ => true
  | .flagged => true
  | _ => false

/-- Outside a batch nothing remains of one. -/
theorem remaining_of_batch_none {position : Position Functor} (none : position.batch = none) :
    position.remaining = [] := by
  cases position with
  | running functors next => simp [Position.batch] at none
  | calling functors next => simp [Position.batch] at none
  | _ => rfl

/-- What a step does to the queue, to the batch taken from it and to the record
of begun functors, one constructor a kind. Every other step moves the loop
thread between positions without a batch, and never out of the accepting ones. -/
inductive QueueMove (s t : State Thread Functor) : Label Thread Functor → Prop where
  | push (thread : Thread) (functor : Functor) (stays : t.position = s.position)
      (pending : t.pendingFunctors = s.pendingFunctors ++ [(thread, functor)])
      (executed : t.executed = s.executed) : QueueMove s t (.push thread functor)
  | swap (flagged : s.position = .flagged)
      (taken : t.position = .running (s.pendingFunctors.map Prod.snd) 0)
      (pending : t.pendingFunctors = []) (executed : t.executed = s.executed) :
      QueueMove s t .swap
  | beginFunctor (functors : List Functor) (next : Nat) (functor : Functor)
      (running : s.position = .running functors next) (present : functors[next]? = some functor)
      (moved : t.position = .calling functors next)
      (pending : t.pendingFunctors = s.pendingFunctors)
      (executed : t.executed = s.executed ++ [functor]) : QueueMove s t .beginFunctor
  | finishFunctor (functors : List Functor) (next : Nat)
      (calling : s.position = .calling functors next)
      (moved : t.position = .running functors (next + 1))
      (pending : t.pendingFunctors = s.pendingFunctors)
      (executed : t.executed = s.executed) : QueueMove s t .finishFunctor
  | lowerFlag (functors : List Functor) (next : Nat)
      (running : s.position = .running functors next) (done : functors.length ≤ next)
      (moved : t.position = .atTest) (pending : t.pendingFunctors = s.pendingFunctors)
      (executed : t.executed = s.executed) : QueueMove s t .lowerFlag
  | call (label : Label Thread Functor) (plain : label.movesFunctors = false)
      (stays : t.position = s.position) (pending : t.pendingFunctors = s.pendingFunctors)
      (executed : t.executed = s.executed) : QueueMove s t label
  | move (label : Label Thread Functor) (plain : label.movesFunctors = false)
      (leaves : s.position.batch = none) (enters : t.position.batch = none)
      (forward : s.position.accepting = true → t.position.accepting = true)
      (pending : t.pendingFunctors = s.pendingFunctors)
      (executed : t.executed = s.executed) : QueueMove s t label

/-- A call into the loop changes nothing but the queue, and that only by its
push. -/
theorem callStep_moves {loopThread : Thread} {s t : State Thread Functor}
    {label : Label Thread Functor} (taken : callStep loopThread s label = .ok t) :
    QueueMove s t label := by
  cases label with
  | push thread functor =>
    simp only [callStep, bind_ok, pure_ok] at taken
    obtain ⟨_, _, rfl⟩ := taken
    exact .push thread functor rfl rfl rfl
  | test thread =>
    simp only [callStep, bind_ok, pure_ok] at taken
    obtain ⟨_, _, rfl⟩ := taken
    exact .call _ rfl rfl rfl rfl
  | wakeup thread =>
    simp only [callStep, bind_ok, pure_ok] at taken
    obtain ⟨_, _, rfl⟩ := taken
    exact .call _ rfl rfl rfl rfl
  | quit thread =>
    simp only [callStep, bind_ok, pure_ok] at taken
    obtain ⟨_, _, rfl⟩ := taken
    exact .call _ rfl rfl rfl rfl
  | _ => simp [callStep] at taken

omit [DecidableEq Thread] in
/-- The loop thread's own steps, by the arms of `loopStep`. -/
theorem loopStep_moves {s t : State Thread Functor} {label : Label Thread Functor}
    (taken : loopStep s label = .ok t) : QueueMove s t label := by
  unfold loopStep at taken
  split at taken
  case h_1 at_ | h_2 at_ | h_3 at_ | h_4 at_ =>
    simp only [bind_ok, pure_ok] at taken
    obtain ⟨_, _, rfl⟩ := taken
    exact .move _ rfl (by simp [at_, Position.batch])
      (by simp [Position.batch]) (by simp [at_, Position.accepting]) rfl rfl
  case h_5 at_ | h_6 at_ | h_7 at_ | h_8 at_ =>
    simp only [pure_ok] at taken
    subst taken
    exact .move _ rfl (by simp [at_, Position.batch])
      (by simp [Position.batch]) (by simp [Position.accepting]) rfl rfl
  case h_9 at_ =>
    simp only [pure_ok] at taken
    subst taken
    exact .swap at_ rfl rfl rfl
  case h_10 functors next at_ =>
    split at taken
    · cases taken
    · rename_i functor present
      simp only [pure_ok] at taken
      subst taken
      exact .beginFunctor functors next functor at_ present rfl rfl rfl
  case h_11 functors next at_ =>
    simp only [pure_ok] at taken
    subst taken
    exact .finishFunctor functors next at_ rfl rfl rfl
  case h_12 functors next at_ =>
    simp only [bind_ok, pure_ok, enabled_ok] at taken
    obtain ⟨_, done, rfl⟩ := taken
    exact .lowerFlag functors next at_ done rfl rfl rfl
  case h_13 => cases taken

/-- Every step is a queue move. -/
theorem step_moves {loopThread : Thread} {s t : State Thread Functor}
    {label : Label Thread Functor} (taken : step loopThread s label = .ok t) :
    QueueMove s t label := by
  unfold step at taken
  split at taken
  case h_5 =>
    obtain ⟨_, _, continued⟩ := (bind_ok _ _ _).mp taken
    exact loopStep_moves continued
  all_goals exact callStep_moves taken

end ReactorNetwork.EventLoop
