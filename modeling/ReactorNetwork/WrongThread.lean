import ReactorNetwork.GuardedBodies

/-!
# Guarded operations on the wrong thread

`assert_in_loop_thread` reports a call from another thread to `LOG_FATAL` and
returns. What ends the process is the background writer: when it visits that logger
and finds a report, it takes the container, formats the lines and writes them to the
file, and only then aborts. It holds the logger's mutex all that time, so that no other
thread gets into a guard; those that have passed one go on.

A guarded operation is two steps here, up to its guard and the rest, and other
threads may take steps between them. The rest is one step: what a writer can cut
short in the middle of it is not followed, and neither are the guards of the
functions it calls, which only report again.
-/

namespace ReactorNetwork.WrongThread

open Runs GuardedBodies

/-- "EventLoop::abortNotInLoopThread - EventLoop was created in thread_id_ = {}
current thread id = {}". -/
structure Report (Thread : Type) where
  threadId : Thread
  current : Thread
deriving DecidableEq, Repr

/-- Where the background writer is. While it writes it holds the mutex of `LOG_FATAL`. -/
inductive Writer where
  | absent
  | elsewhere
  | writing
  | aborted
deriving DecidableEq, Repr

/-- `past` gives the operation a thread has entered and not finished; `fatal` is
the container of `LOG_FATAL`, and `taken` what the writer has swapped out of it. -/
structure State (Thread : Type) where
  components : Components
  past : Thread → Option Operation
  fatal : List (Report Thread)
  taken : List (Report Thread)
  writer : Writer

/-- A call of a thread, its way behind the guard, or a step of the log's background
thread. -/
inductive Label (Thread : Type) where
  | call (thread : Thread) (operation : Operation)
  | proceed (thread : Thread)
  | initLog
  | visit
  | abort

variable {Thread : Type}

/-- Any state of the components, with the writer started or not. -/
def initial (components : Components) (running : Bool) : State Thread where
  components := components
  past := fun _ => none
  fatal := []
  taken := []
  writer := if running then .elsewhere else .absent

/-- The thread that takes the step, for the steps of the callers. -/
def Label.caller : Label Thread → Option Thread
  | .call thread _ | .proceed thread => some thread
  | .initLog | .visit | .abort => none

variable [DecidableEq Thread] (name : List Char) (loopThread : Thread)

/-- `LOG_FATAL <<` from any thread but the loop's. -/
def assertInLoopThread (fatal : List (Report Thread)) (thread : Thread) : List (Report Thread) :=
  if thread = loopThread then fatal else fatal ++ [⟨loopThread, thread⟩]

/-- What an operation asserts in front of its guard. Every channel is owned by
this loop. -/
def asserted (s : Components) : Operation → Prop
  | .loop => s.looping = false
  | _ => True

instance (s : Components) (operation : Operation) : Decidable (asserted s operation) :=
  match operation with
  | .loop => inferInstanceAs (Decidable (_ = _))
  | .updateChannel _ | .removeChannel _ | .addTimerInLoop _ | .sendInLoop _ _ _
  | .connectEstablished _ | .connectDestoryed _ | .handleClose _ | .restart _ _
  | .newConnection _ _ | .removeConnectionInLoop _ => isTrue trivial

/-- One step. After an abort there is none. -/
def step (s : State Thread) (label : Label Thread) : Outcome (State Thread) := do
  enabled (s.writer ≠ .aborted)
  match label with
  | .call thread operation => do
      enabled (s.past thread = none)
      require (asserted s.components operation)
      -- the report waits for the mutex
      enabled (thread = loopThread ∨ s.writer ≠ .writing)
      pure { s with
        past := Function.update s.past thread (some operation)
        fatal := assertInLoopThread loopThread s.fatal thread }
  | .proceed thread =>
      match s.past thread with
      | none => .error .notEnabled
      | some operation => do
          let components ← s.components.body name (decide (thread = loopThread)) operation
          pure { s with components := components, past := Function.update s.past thread none }
  | .initLog => do
      enabled (s.writer = .absent)
      pure { s with writer := .elsewhere }
  | .visit => do
      enabled (s.writer = .elsewhere)
      -- an empty container lets the writer go on to the next logger
      if s.fatal = [] then pure s
      else pure { s with fatal := [], taken := s.fatal, writer := .writing }
  | .abort => do
      enabled (s.writer = .writing)
      pure { s with writer := .aborted }

/-- A thread behind a guard that is not its own has a report in the container, or among
those that the writer writes out before it aborts. -/
def Reported (s : State Thread) : Prop :=
  ∀ thread, thread ≠ loopThread → s.past thread ≠ none →
    (∃ report ∈ s.fatal, report.current = thread) ∨
      ∃ report ∈ s.taken, report.current = thread

/-- The writer has reports in hand once it writes them out, and not before. -/
def Busy (s : State Thread) : Prop :=
  s.taken ≠ [] → s.writer = .writing ∨ s.writer = .aborted

variable {name loopThread} {s t : State Thread}

omit [DecidableEq Thread] in
/-- Before the first step nothing was reported. -/
theorem initial_reported (components : Components) (running : Bool) :
    Reported loopThread (initial components running) ∧
      Busy (initial components running : State Thread) :=
  ⟨fun _ _ behind => absurd rfl behind, fun some_ => absurd rfl some_⟩

/-- The guard keeps earlier reports and adds the caller's. -/
theorem assertInLoopThread_reports (fatal : List (Report Thread)) (caller thread : Thread)
    (foreign : thread ≠ loopThread)
    (reported : thread = caller ∨ ∃ report ∈ fatal, report.current = thread) :
    ∃ report ∈ assertInLoopThread loopThread fatal caller, report.current = thread := by
  unfold assertInLoopThread
  rcases reported with rfl | ⟨report, member, same⟩
  · rw [if_neg foreign]
    exact ⟨⟨loopThread, thread⟩, by simp, rfl⟩
  · split
    · exact ⟨report, member, same⟩
    · exact ⟨report, by simp [member], same⟩

/-- What each step finds and leaves. -/
inductive Stepped (name : List Char) (loopThread : Thread) (s : State Thread) :
    Label Thread → State Thread → Prop where
  | call (thread : Thread) (operation : Operation) :
      Stepped name loopThread s (.call thread operation) { s with
        past := Function.update s.past thread (some operation)
        fatal := assertInLoopThread loopThread s.fatal thread }
  | proceed (thread : Thread) (operation : Operation) (components : Components)
      (entered : s.past thread = some operation)
      (returned : s.components.body name (decide (thread = loopThread)) operation =
        .ok components) :
      Stepped name loopThread s (.proceed thread)
        { s with components := components, past := Function.update s.past thread none }
  | initLog (absent : s.writer = .absent) :
      Stepped name loopThread s .initLog { s with writer := .elsewhere }
  | foundNothing : Stepped name loopThread s .visit s
  | foundReports (elsewhere : s.writer = .elsewhere) (some_ : s.fatal ≠ []) :
      Stepped name loopThread s .visit
        { s with fatal := [], taken := s.fatal, writer := .writing }
  | abort (writing : s.writer = .writing) :
      Stepped name loopThread s .abort { s with writer := .aborted }

/-- A step that returns is one of these. -/
theorem stepped {label : Label Thread} (taken : step name loopThread s label = .ok t) :
    Stepped name loopThread s label t := by
  obtain ⟨_, _, taken⟩ := (bind_ok _ _ _).mp taken
  cases label with
  | call thread operation =>
    obtain ⟨_, _, taken⟩ := (bind_ok _ _ _).mp taken
    obtain ⟨_, taken⟩ := (require_bind_ok _ _ _).mp taken
    obtain ⟨_, _, same⟩ := (bind_ok _ _ _).mp taken
    obtain rfl := (pure_ok _ _).mp same
    exact .call thread operation
  | proceed thread =>
    simp only at taken
    split at taken
    case h_1 => cases taken
    case h_2 operation entered =>
      obtain ⟨components, returned, same⟩ := (bind_ok _ _ _).mp taken
      obtain rfl := (pure_ok _ _).mp same
      exact .proceed thread operation components entered returned
  | initLog =>
    obtain ⟨_, absent, same⟩ := (bind_ok _ _ _).mp taken
    obtain rfl := (pure_ok _ _).mp same
    exact .initLog ((enabled_ok _ _).mp absent)
  | visit =>
    obtain ⟨_, elsewhere, taken⟩ := (bind_ok _ _ _).mp taken
    split at taken
    case isTrue =>
      obtain rfl := (pure_ok _ _).mp taken
      exact .foundNothing
    case isFalse some_ =>
      obtain rfl := (pure_ok _ _).mp taken
      exact .foundReports ((enabled_ok _ _).mp elsewhere) some_
  | abort =>
    obtain ⟨_, writing, same⟩ := (bind_ok _ _ _).mp taken
    obtain rfl := (pure_ok _ _).mp same
    exact .abort ((enabled_ok _ _).mp writing)

/-- Every step keeps both. -/
theorem step_reported (s : State Thread) (label : Label Thread) (t : State Thread)
    (reported : Reported loopThread s ∧ Busy s) (taken : step name loopThread s label = .ok t) :
    Reported loopThread t ∧ Busy t := by
  obtain ⟨reported, busy⟩ := reported
  cases stepped taken with
  | call caller operation =>
    refine ⟨?_, busy⟩
    intro thread foreign behind
    by_cases here : thread = caller
    · exact Or.inl (assertInLoopThread_reports s.fatal caller thread foreign (Or.inl here))
    · simp only [Function.update_of_ne here] at behind
      rcases reported thread foreign behind with waiting | held
      · exact Or.inl (assertInLoopThread_reports s.fatal caller thread foreign (Or.inr waiting))
      · exact Or.inr held
  | proceed caller operation components entered returned =>
    refine ⟨?_, busy⟩
    intro thread foreign behind
    by_cases here : thread = caller
    · simp [here] at behind
    · simp only [Function.update_of_ne here] at behind
      exact reported thread foreign behind
  | initLog absent =>
    refine ⟨reported, fun some_ => ?_⟩
    rcases busy some_ with writing | aborted
    · cases absent.symm.trans writing
    · cases absent.symm.trans aborted
  | foundNothing => exact ⟨reported, busy⟩
  | foundReports elsewhere _ =>
    refine ⟨?_, fun _ => Or.inl rfl⟩
    intro thread foreign behind
    rcases reported thread foreign behind with waiting | ⟨report, member, _⟩
    · exact Or.inr waiting
    · rcases busy (List.ne_nil_of_mem member) with writing | aborted
      · cases elsewhere.symm.trans writing
      · cases elsewhere.symm.trans aborted
  | abort => exact ⟨reported, fun _ => Or.inr rfl⟩

/-- In every run a thread behind a guard that is not its own has been reported, and what was
reported is in the container or being written out. -/
theorem reached_reported {components : Components} {running : Bool} {labels : List (Label Thread)}
    (reached : run (step name loopThread) (initial components running) labels = .ok s) :
    Reported loopThread s ∧ Busy s :=
  Runs.invariant (step name loopThread) (fun s => Reported loopThread s ∧ Busy s) step_reported
    labels (initial components running) s (initial_reported components running) reached

/-- The guard itself stops nothing: as long as the writer has not aborted, also while it
writes the reports out, the next step of a thread behind a guard is the rest of its
operation, whoever calls. -/
theorem guard_lets_proceed (alive : s.writer ≠ .aborted) {thread : Thread} {operation : Operation}
    (entered : s.past thread = some operation) :
    (step name loopThread s (.proceed thread)).map State.components =
      s.components.body name (decide (thread = loopThread)) operation := by
  simp only [step, enabled, if_pos alive, entered]
  cases s.components.body name (decide (thread = loopThread)) operation with
  | error fault => rfl
  | ok components => rfl

end ReactorNetwork.WrongThread
