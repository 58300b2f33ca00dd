import ReactorNetwork.TimerQueue

/-!
# The timer queue of a running loop

A run interleaves what user code asks for with what `handle_read` does. User
code on the loop thread adds and cancels timers at once, also from inside timer
callbacks; other threads queue the same operations, which the loop thread runs
in order between two `handle_read` calls. A `handle_read` is taken apart into
reading the descriptor and moving the expired entries out, one begin and one
finish for each callback, and the final `reset`. The clock reading is the
environment's choice, and the descriptor may fire at any time while it is armed,
also while it is not awaited.

Each begun callback is recorded with the expiration its timer has then, with the
number of its entry's insertion and with the call of `handle_read` it runs in.
-/

namespace ReactorNetwork.TimerLoop

/-- A queued operation of another thread. -/
inductive Functor where
  | add (id : Nat)
  | cancel (id : Option Nat)
deriving DecidableEq, Repr

/-- Where the loop thread is: outside `handle_read`, between two callbacks of
its expired vector, or inside one. -/
inductive Phase where
  | idle
  | running (now : Int) (expired : List Entry) (next : Nat)
  | calling (now : Int) (expired : List Entry) (next : Nat)
deriving DecidableEq, Repr

namespace Phase

/-- The expired vector of the running `handle_read`. -/
def expired : Phase → List Entry
  | .idle => []
  | .running _ expired _ => expired
  | .calling _ expired _ => expired

/-- The expired entries whose callback has not begun. -/
def awaiting : Phase → List Entry
  | .idle => []
  | .running _ expired next => expired.drop next
  | .calling _ expired next => expired.drop (next + 1)

/-- The clock reading of the running `handle_read`. -/
def now : Phase → Option Int
  | .idle => none
  | .running now _ _ => some now
  | .calling now _ _ => some now

/-- The loop thread may be executing user code. -/
def userCode : Phase → Bool
  | .idle => true
  | .running _ _ _ => false
  | .calling _ _ _ => true

end Phase

/-- A begun callback. -/
structure Firing where
  timer : Nat
  expiration : TimeStamp
  stamp : Nat
  now : Int
  handleRead : Nat
deriving DecidableEq, Repr

/-- The timer queue on its loop, with what was run so far. -/
structure System where
  queue : TimerQueue
  phase : Phase
  pending : List Functor
  handleReads : Nat
  fired : List Firing

/-- A call from either side of the loop, a queued functor, the descriptor, or the
handling of expired timers. -/
inductive Label where
  | add (time : TimeStamp) (interval : Interval)
  | addRemote (time : TimeStamp) (interval : Interval)
  | cancel (id : Option Nat)
  | cancelRemote (id : Option Nat)
  | runFunctor
  | handleRead (now : Int)
  | beginCallback
  | finishCallback
  | reset
  | fire
deriving DecidableEq, Repr

/-- The queue before its first timer. -/
def initial : System where
  queue := TimerQueue.fresh
  phase := .idle
  pending := []
  handleReads := 0
  fired := []

/-- A `TimerId` is the default one or names a timer that was created. -/
def System.handle (s : System) (id : Option Nat) : Bool :=
  id.all (fun x => x < s.queue.created)

/-- The record of the callback that begins. -/
def System.firing (s : System) (now : Int) (entry : Entry) : Firing where
  timer := entry.timer
  expiration := (s.queue.objects entry.timer).expiration
  stamp := entry.stamp
  now := now
  handleRead := s.handleReads

/-- One step. -/
def step (s : System) : Label → Outcome System
  | .add time interval => do
      enabled (s.phase.userCode = true)
      pure { s with queue := (s.queue.makeTimer time interval).addTimerInLoop s.queue.created }
  | .addRemote time interval =>
      pure { s with
        queue := s.queue.makeTimer time interval
        pending := s.pending ++ [.add s.queue.created] }
  | .cancel id => do
      enabled (s.phase.userCode = true ∧ s.handle id = true)
      pure { s with queue := s.queue.cancelInLoop id }
  | .cancelRemote id => do
      enabled (s.handle id = true)
      pure { s with pending := s.pending ++ [.cancel id] }
  | .runFunctor =>
      match s.phase, s.pending with
      | .idle, .add id :: rest =>
          pure { s with queue := s.queue.addTimerInLoop id, pending := rest }
      | .idle, .cancel id :: rest =>
          pure { s with queue := s.queue.cancelInLoop id, pending := rest }
      | _, _ => .error .notEnabled
  | .handleRead now =>
      match s.phase with
      | .idle => do
          let read := { s.queue with timerFd := s.queue.timerFd.readTimerFd }
          let (expired, queue) ← read.getExpired (TimeStamp.ofTimePoint now)
          pure { s with
            queue := queue
            phase := .running now expired 0
            handleReads := s.handleReads + 1 }
      | _ => .error .notEnabled
  | .beginCallback =>
      match s.phase with
      | .running now expired next =>
          match expired[next]? with
          | some entry =>
              pure { s with
                phase := .calling now expired next
                fired := s.fired ++ [s.firing now entry] }
          | none => .error .notEnabled
      | _ => .error .notEnabled
  | .finishCallback =>
      match s.phase with
      | .calling now expired next => pure { s with phase := .running now expired (next + 1) }
      | _ => .error .notEnabled
  | .reset =>
      match s.phase with
      | .running now expired next => do
          enabled (expired.length ≤ next)
          pure { s with queue := s.queue.reset expired (TimeStamp.ofTimePoint now), phase := .idle }
      | _ => .error .notEnabled
  | .fire => do
      enabled (s.queue.timerFd.armed = true)
      pure { s with queue := { s.queue with timerFd := s.queue.timerFd.fire } }

/-- Everything a step can do, one constructor a transition. -/
inductive Transition (s : System) : Label → System → Prop where
  | add (time : TimeStamp) (interval : Interval) (userCode : s.phase.userCode = true) :
      Transition s (.add time interval)
        { s with queue := (s.queue.makeTimer time interval).addTimerInLoop s.queue.created }
  | addRemote (time : TimeStamp) (interval : Interval) :
      Transition s (.addRemote time interval)
        { s with
          queue := s.queue.makeTimer time interval
          pending := s.pending ++ [.add s.queue.created] }
  | cancel (id : Option Nat) (handle : s.handle id = true) :
      Transition s (.cancel id) { s with queue := s.queue.cancelInLoop id }
  | cancelRemote (id : Option Nat) (handle : s.handle id = true) :
      Transition s (.cancelRemote id) { s with pending := s.pending ++ [.cancel id] }
  | runAdd (id : Nat) (rest : List Functor) (idle : s.phase = .idle)
      (first : s.pending = .add id :: rest) :
      Transition s .runFunctor { s with queue := s.queue.addTimerInLoop id, pending := rest }
  | runCancel (id : Option Nat) (rest : List Functor) (idle : s.phase = .idle)
      (first : s.pending = .cancel id :: rest) :
      Transition s .runFunctor { s with queue := s.queue.cancelInLoop id, pending := rest }
  | handleRead (now : Int) (expired : List Entry) (queue : TimerQueue) (idle : s.phase = .idle)
      (returned : { s.queue with timerFd := s.queue.timerFd.readTimerFd }.getExpired
        (TimeStamp.ofTimePoint now) = .ok (expired, queue)) :
      Transition s (.handleRead now)
        { s with
          queue := queue
          phase := .running now expired 0
          handleReads := s.handleReads + 1 }
  | beginCallback (now : Int) (expired : List Entry) (next : Nat) (entry : Entry)
      (running : s.phase = .running now expired next) (present : expired[next]? = some entry) :
      Transition s .beginCallback
        { s with phase := .calling now expired next, fired := s.fired ++ [s.firing now entry] }
  | finishCallback (now : Int) (expired : List Entry) (next : Nat)
      (calling : s.phase = .calling now expired next) :
      Transition s .finishCallback { s with phase := .running now expired (next + 1) }
  | reset (now : Int) (expired : List Entry) (next : Nat)
      (running : s.phase = .running now expired next) (done : expired.length ≤ next) :
      Transition s .reset
        { s with queue := s.queue.reset expired (TimeStamp.ofTimePoint now), phase := .idle }
  | fire (armed : s.queue.timerFd.armed = true) :
      Transition s .fire { s with queue := { s.queue with timerFd := s.queue.timerFd.fire } }

/-- A step that returns is one of the transitions. -/
theorem step_transition {s t : System} {label : Label} (taken : step s label = .ok t) :
    Transition s label t := by
  cases label with
  | add time interval =>
    simp only [step, bind_ok, enabled_ok, pure_ok] at taken
    obtain ⟨_, userCode, rfl⟩ := taken
    exact .add time interval userCode
  | addRemote time interval =>
    simp only [step, pure_ok] at taken
    subst taken
    exact .addRemote time interval
  | cancel id =>
    simp only [step, bind_ok, enabled_ok, pure_ok] at taken
    obtain ⟨_, ⟨_, handle⟩, rfl⟩ := taken
    exact .cancel id handle
  | cancelRemote id =>
    simp only [step, bind_ok, enabled_ok, pure_ok] at taken
    obtain ⟨_, handle, rfl⟩ := taken
    exact .cancelRemote id handle
  | runFunctor =>
    simp only [step] at taken
    split at taken
    case h_1 id rest idle first =>
      simp only [pure_ok] at taken
      subst taken
      exact .runAdd id rest idle first
    case h_2 id rest idle first =>
      simp only [pure_ok] at taken
      subst taken
      exact .runCancel id rest idle first
    case h_3 => cases taken
  | handleRead now =>
    simp only [step] at taken
    split at taken
    case h_1 idle =>
      obtain ⟨⟨expired, queue⟩, returned, same⟩ := (bind_ok _ _ _).mp taken
      obtain rfl := (pure_ok _ _).mp same
      exact .handleRead now expired queue idle returned
    case h_2 => cases taken
  | beginCallback =>
    simp only [step] at taken
    split at taken
    case h_1 now expired next running =>
      split at taken
      case h_1 entry present =>
        simp only [pure_ok] at taken
        subst taken
        exact .beginCallback now expired next entry running present
      case h_2 => cases taken
    case h_2 => cases taken
  | finishCallback =>
    simp only [step] at taken
    split at taken
    case h_1 now expired next calling =>
      simp only [pure_ok] at taken
      subst taken
      exact .finishCallback now expired next calling
    case h_2 => cases taken
  | reset =>
    simp only [step] at taken
    split at taken
    case h_1 now expired next running =>
      simp only [bind_ok, enabled_ok, pure_ok] at taken
      obtain ⟨_, done, rfl⟩ := taken
      exact .reset now expired next running done
    case h_2 => cases taken
  | fire =>
    simp only [step, bind_ok, enabled_ok, pure_ok] at taken
    obtain ⟨_, armed, rfl⟩ := taken
    exact .fire armed

/-- The timers whose addition is queued. -/
def System.queued (s : System) : List Nat :=
  s.pending.filterMap fun
    | .add id => some id
    | .cancel _ => none

/-- The places of the timers are consistent, and the running `handle_read` holds
due entries in container order. -/
structure Sound (s : System) : Prop where
  consistent : s.queue.Consistent s.queued s.phase.expired
  batch : Multimap.Ordered Entry.rank Entry.older s.phase.expired
  due : ∀ now, s.phase.now = some now → ∀ entry ∈ s.phase.expired, entry.key.val < now

/-- Before the first timer the queue is consistent. -/
theorem initial_sound : Sound initial where
  consistent := TimerQueue.fresh_consistent
  batch := List.Pairwise.nil
  due := by simp [initial, Phase.now]

/-- The timers queued for addition, the first of them apart. -/
theorem queued_first {s : System} {id : Nat} {rest : List Functor}
    (first : s.pending = .add id :: rest) :
    s.queued = id :: ({ s with pending := rest } : System).queued := by
  simp [System.queued, first]

/-- A queued addition that is run moves the timer from the queue to `timers_`. -/
theorem runAdd_holders {s : System} {id : Nat} {rest : List Functor}
    (first : s.pending = .add id :: rest) (taken : List Entry) :
    ((s.queue.addTimerInLoop id).holders ({ s with pending := rest } : System).queued taken).Perm
      (s.queue.holders s.queued taken) := by
  rw [queued_first first]
  exact TimerQueue.holders_addTimerInLoop _ _ _ _

/-- The callback that begins is that of the first waiting entry. -/
theorem awaiting_next {s : System} {now : Int} {expired : List Entry} {next : Nat} {entry : Entry}
    (running : s.phase = .running now expired next) (present : expired[next]? = some entry) :
    s.phase.awaiting = entry :: expired.drop (next + 1) := by
  rw [running]
  exact drop_at present

/-- A queued addition is a holder until it is run. -/
theorem Sound.queuedAdd {s : System} (sound : Sound s) {id : Nat} {rest : List Functor}
    (first : s.pending = .add id :: rest) :
    s.queue.Consistent ({ s with pending := rest } : System).queued s.phase.expired ∧
      id ∉ s.queue.holders ({ s with pending := rest } : System).queued s.phase.expired ∧
      id < s.queue.created := by
  have consistent := sound.consistent
  rw [queued_first first] at consistent
  refine ⟨consistent.forget (List.sublist_cons_self _ _) (List.Sublist.refl _), ?_, ?_⟩
  · exact (List.nodup_cons.mp consistent.distinct).1
  · exact consistent.existing id List.mem_cons_self

/-- Every step keeps the places of the timers, cancellations included. -/
theorem step_sound (s : System) (label : Label) (t : System) (sound : Sound s)
    (taken : step s label = .ok t) : Sound t := by
  have consistent := sound.consistent
  cases step_transition taken with
  | add time interval userCode =>
    obtain ⟨made, unheld⟩ := consistent.makeTimer time interval
    exact ⟨made.addTimerInLoop s.queue.created unheld (Nat.lt_succ_self _), sound.batch, sound.due⟩
  | addRemote time interval =>
    obtain ⟨made, unheld⟩ := consistent.makeTimer time interval
    refine ⟨?_, sound.batch, sound.due⟩
    have queued : System.queued { s with
        queue := s.queue.makeTimer time interval
        pending := s.pending ++ [.add s.queue.created] } = s.queued ++ [s.queue.created] := by
      simp [System.queued]
    rw [queued]
    have held : ((s.queue.makeTimer time interval).holders (s.queued ++ [s.queue.created])
        s.phase.expired).Perm (s.queue.created :: s.queue.holders s.queued s.phase.expired) := by
      simp [TimerQueue.holders, TimerQueue.makeTimer]
    refine ⟨?_, ?_, made.keyed, made.ordered, made.stamped⟩
    · exact held.nodup_iff.mpr (List.nodup_cons.mpr ⟨unheld, consistent.distinct⟩)
    · intro id member
      rcases List.mem_cons.mp (held.mem_iff.mp member) with rfl | earlier
      · exact Nat.lt_succ_self _
      · exact Nat.lt_succ_of_lt (consistent.existing id earlier)
  | cancel id handle => exact ⟨consistent.cancelInLoop id, sound.batch, sound.due⟩
  | cancelRemote id handle =>
    refine ⟨?_, sound.batch, sound.due⟩
    have queued : System.queued { s with pending := s.pending ++ [.cancel id] } = s.queued := by
      simp [System.queued]
    rw [queued]
    exact consistent
  | runAdd id rest idle first =>
    obtain ⟨others, unheld, exists_⟩ := sound.queuedAdd first
    exact ⟨others.addTimerInLoop id unheld exists_, sound.batch, sound.due⟩
  | runCancel id rest idle first =>
    refine ⟨?_, sound.batch, sound.due⟩
    have queued : System.queued { s with
        queue := s.queue.cancelInLoop id, pending := rest } = s.queued := by
      simp [System.queued, first]
    rw [queued]
    exact consistent.cancelInLoop id
  | handleRead now expired queue idle returned =>
    rw [idle] at consistent
    obtain ⟨_, _, _, kept, _, ordered, due, _⟩ :=
      (consistent.setTimerFd s.queue.timerFd.readTimerFd).getExpired _ returned
    refine ⟨kept, ordered, ?_⟩
    intro reading same
    obtain rfl : now = reading := by simpa [Phase.now] using same
    exact due
  | beginCallback now expired next entry running present =>
    rw [running] at consistent
    refine ⟨consistent, by simpa [running, Phase.expired] using sound.batch, ?_⟩
    simpa [running, Phase.now, Phase.expired] using sound.due
  | finishCallback now expired next calling =>
    rw [calling] at consistent
    refine ⟨consistent, by simpa [calling, Phase.expired] using sound.batch, ?_⟩
    simpa [calling, Phase.now, Phase.expired] using sound.due
  | reset now expired next running done =>
    rw [running] at consistent
    exact ⟨consistent.reset _, List.Pairwise.nil, by simp [Phase.now]⟩
  | fire armed => exact ⟨consistent.setTimerFd _, sound.batch, sound.due⟩

end ReactorNetwork.TimerLoop
