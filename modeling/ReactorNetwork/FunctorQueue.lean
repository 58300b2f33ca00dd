import ReactorNetwork.EventLoop

/-!
# Queued functors: order, batches and wake-ups

A run interleaves any number of threads with the loop thread, in any order of
their steps. The functors begun so far, the rest of the current batch and the
queue are together the functors pushed, in push order, after every step; so none
is lost, repeated or overtaken. A batch is fixed by its swap.

The wake-up is a different matter. `wakeup` reads the event descriptor, and so
does `handle_read`; nothing writes it, so a poll entered with work in the queue
finds the descriptor unreadable. What holds is that a functor whose call returns
between a poll's entry and the following swap is taken by that swap and needs no
wake-up. Nothing here measures time: that such a poll sleeps for its timeout is a
fact about `poll(2)`.
-/

namespace ReactorNetwork.FunctorQueue

open Runs EventLoop

variable {Thread Functor : Type} [DecidableEq Thread]

/-- The functor a step pushes. -/
def pushed : Label Thread Functor → Option Functor
  | .push _ functor => some functor
  | _ => none

/-- Every functor pushed is begun, waiting in the batch or waiting in the queue,
in push order. -/
def Conserved (past : List (Label Thread Functor)) (s : State Thread Functor) : Prop :=
  s.executed ++ s.position.remaining ++ s.pendingFunctors.map Prod.snd = past.filterMap pushed

omit [DecidableEq Thread] in
/-- Only a push pushes a functor. -/
theorem pushed_none (label : Label Thread Functor) (plain : label.movesFunctors = false) :
    pushed label = none := by
  cases label with
  | push thread functor => cases plain
  | _ => rfl

/-- A step moves functors along the three containers and never past each other.

Proof: a push extends the queue at its end, a swap makes the queue the batch
while no batch is left, and beginning a functor moves the head of the rest of
the batch to the end of the begun ones. -/
theorem step_conserved (loopThread : Thread) (past : List (Label Thread Functor))
    (s : State Thread Functor) (label : Label Thread Functor) (t : State Thread Functor)
    (conserved : Conserved past s) (taken : step loopThread s label = .ok t) :
    Conserved (past ++ [label]) t := by
  unfold Conserved at conserved ⊢
  rw [List.filterMap_append, ← conserved]
  cases step_moves taken with
  | push thread functor stays pending executed =>
    simp [stays, pending, executed, pushed]
  | swap flagged swapped pending executed =>
    simp [flagged, swapped, pending, executed, pushed, Position.remaining]
  | beginFunctor functors next functor running present moved pending executed =>
    have split := drop_at present
    simp [running, moved, pending, executed, pushed, Position.remaining, split]
  | finishFunctor functors next calling moved pending executed =>
    simp [calling, moved, pending, executed, pushed, Position.remaining]
  | lowerFlag functors next running done moved pending executed =>
    have finished : functors.drop next = [] := List.drop_of_length_le done
    simp [running, moved, pending, executed, pushed, Position.remaining, finished]
  | call _ plain stays pending executed =>
    simp [stays, pending, executed, pushed_none label plain]
  | move _ plain leaves enters _ pending executed =>
    simp [remaining_of_batch_none leaves, remaining_of_batch_none enters, pending, executed,
      pushed_none label plain]

/-- The loop thread is calling the functors of one batch: the functors begun so
far and the rest of the batch are those begun before it followed by the batch. -/
structure InBatch (begun batch : List Functor) (s : State Thread Functor) : Prop where
  current : s.position.batch = some batch
  progress : s.executed ++ s.position.remaining = begun ++ batch

/-- Until the flag is lowered no step changes the batch, pushes included. -/
theorem step_inBatch (loopThread : Thread) (begun batch : List Functor)
    (s : State Thread Functor) (label : Label Thread Functor) (t : State Thread Functor)
    (inBatch : InBatch begun batch s) (notLowered : label ≠ .lowerFlag)
    (taken : step loopThread s label = .ok t) : InBatch begun batch t := by
  obtain ⟨current, progress⟩ := inBatch
  cases step_moves taken with
  | push thread functor stays pending executed =>
    exact ⟨stays ▸ current, by rw [stays, executed, progress]⟩
  | swap flagged _ _ _ => simp [flagged, Position.batch] at current
  | beginFunctor functors next functor running present moved pending executed =>
    have split := drop_at present
    constructor
    · simpa [running, moved, Position.batch] using current
    · rw [← progress]
      simp [running, moved, executed, Position.remaining, split]
  | finishFunctor functors next calling moved pending executed =>
    constructor
    · simpa [calling, moved, Position.batch] using current
    · rw [← progress]
      simp [calling, moved, executed, Position.remaining]
  | lowerFlag => exact absurd rfl notLowered
  | call _ _ stays pending executed =>
    exact ⟨stays ▸ current, by rw [stays, executed, progress]⟩
  | move _ _ leaves _ _ _ _ => simp [leaves] at current

/-- After every run the functors begun so far, followed by the rest of the
current batch, followed by the queue, are the functors in the order they were
pushed. The batch of a `do_pending_functors` call is what its swap found in the
queue: until the flag is lowered the functors begun and the rest of the batch
are those begun before the swap followed by that batch, and the flag is lowered
only when the batch is finished. -/
theorem functors_run_once_in_order (loopThread : Thread) (labels : List (Label Thread Functor))
    (s : State Thread Functor) (reached : run (step loopThread) initial labels = .ok s) :
    s.executed ++ s.position.remaining ++ s.pendingFunctors.map Prod.snd =
      labels.filterMap pushed ∧
    (∀ before during swapping, labels = before ++ .swap :: during →
      (Label.lowerFlag : Label Thread Functor) ∉ during →
      run (step loopThread) initial before = .ok swapping →
      s.position.batch = some (swapping.pendingFunctors.map Prod.snd) ∧
      s.executed ++ s.position.remaining =
        swapping.executed ++ swapping.pendingFunctors.map Prod.snd) ∧
    (∀ t, step loopThread s .lowerFlag = .ok t →
      s.position.remaining = [] ∧ t.executed = s.executed) := by
  refine ⟨?_, ?_, ?_⟩
  · exact history (step loopThread) Conserved (step_conserved loopThread) labels initial s rfl
      reached
  · intro before during swapping split notLowered toSwap
    rw [split] at reached
    obtain ⟨middle, found, continued⟩ := (run_append _ _ _ _ _).mp reached
    obtain rfl := Except.ok.inj (found.symm.trans toSwap)
    obtain ⟨swapped, taken, rest⟩ := (run_cons _ _ _ _ _).mp continued
    have entered : InBatch middle.executed (middle.pendingFunctors.map Prod.snd) swapped := by
      cases step_moves taken with
      | swap flagged swappedOut pending executed =>
        exact ⟨by simp [swappedOut, Position.batch],
          by simp [swappedOut, executed, Position.remaining]⟩
      | call _ plain _ _ _ => cases plain
      | move _ plain _ _ _ _ _ => cases plain
    have still := guarded_invariant (step loopThread) (fun _ label => label ≠ .lowerFlag)
      (InBatch middle.executed (middle.pendingFunctors.map Prod.snd))
      (fun s label t inBatch notLowered taken =>
        step_inBatch loopThread _ _ s label t inBatch notLowered taken)
      during swapped s entered (along_labels _ _ _ _ (fun label member same =>
        notLowered (same ▸ member))) rest
    exact ⟨still.current, still.progress⟩
  · intro t taken
    cases step_moves taken with
    | lowerFlag functors next running done moved pending executed =>
      exact ⟨by simp [running, Position.remaining, done], executed⟩
    | call _ plain _ _ _ => cases plain
    | move _ plain _ _ _ _ _ => cases plain

/-- Thread 1 queues two functors before the swap; the first of them queues a
third, which waits for the next batch. -/
def requeueing : List (Label Nat Nat) :=
  [.enterLoop, .push 1 10, .enterPoll, .test 1, .wakeup 1, .push 1 20, .pollReturn [.other],
    .dispatch, .finishCallback, .raiseFlag, .swap, .beginFunctor, .push 0 30]

/-- The functor queued by a functor of the batch comes behind those already queued. -/
theorem functors_run_once_requeueing :
    ∃ s, run (step 0) initial requeueing = .ok s ∧
      s.executed ++ s.position.remaining ++ s.pendingFunctors.map Prod.snd = [10, 20, 30] := by
  have completed : (run (step 0) initial requeueing).isOk = true := by decide
  cases reached : run (step 0) initial requeueing with
  | error fault => simp [reached, Except.isOk, Except.toBool] at completed
  | ok s => exact ⟨s, rfl, (functors_run_once_in_order 0 requeueing s reached).1⟩

/-- Work is queued, every `queue_in_loop` that queued it has returned, and so
the event descriptor is readable. -/
def NoLostWakeup (s : State Thread Functor) : Prop :=
  s.pendingFunctors ≠ [] →
    (∀ entry ∈ s.pendingFunctors, (s.calls entry.1).queueing = false) → 0 < s.wakeupFd

/-- The thread has a functor in the queue. -/
def hasQueued (s : State Thread Functor) (thread : Thread) : Prop :=
  thread ∈ s.pendingFunctors.map Prod.fst

instance (s : State Thread Functor) (thread : Thread) : Decidable (hasQueued s thread) :=
  inferInstanceAs (Decidable (_ ∈ _))

/-- A `queue_in_loop` returns with its functor still queued only between a poll's
entry and the following swap. It returns from the test, on the loop thread
outside a batch, or from the wake-up. -/
def returnsWhileAccepting (loopThread : Thread) (s : State Thread Functor) :
    Label Thread Functor → Prop
  | .test thread => thread = loopThread ∧ s.callingPendingFunctors = false →
      hasQueued s thread → s.position.accepting = true
  | .wakeup thread => hasQueued s thread → s.position.accepting = true
  | _ => True

instance (loopThread : Thread) (s : State Thread Functor) (label : Label Thread Functor) :
    Decidable (returnsWhileAccepting loopThread s label) :=
  match label with
  | .test _ => inferInstanceAs (Decidable (_ ∧ _ → _ → _))
  | .wakeup _ => inferInstanceAs (Decidable (_ → _))
  | .push _ _ | .quit _ | .enterLoop | .leaveLoop | .enterPoll | .pollReturn _
  | .dispatch | .finishCallback | .raiseFlag | .swap | .beginFunctor | .finishFunctor
  | .lowerFlag => isTrue trivial

/-- Outside the accepting part of an iteration every queued functor belongs to a
call that has not returned. -/
def InProgress (s : State Thread Functor) : Prop :=
  s.position.accepting = false → ∀ thread, hasQueued s thread → (s.calls thread).queueing = true

omit [DecidableEq Thread] in
/-- A step of the loop leaves the calls of the threads alone. -/
theorem loopStep_calls {s t : State Thread Functor} {label : Label Thread Functor}
    (taken : loopStep s label = .ok t) : t.calls = s.calls := by
  unfold loopStep at taken
  split at taken
  case h_1 | h_2 | h_3 | h_4 | h_12 =>
    simp only [bind_ok, pure_ok] at taken
    obtain ⟨_, _, rfl⟩ := taken
    rfl
  case h_5 | h_6 | h_7 | h_8 | h_9 | h_11 =>
    simp only [pure_ok] at taken
    subst taken
    rfl
  case h_10 =>
    split at taken
    · cases taken
    · simp only [pure_ok] at taken
      subst taken
      rfl
  case h_13 => cases taken

omit [DecidableEq Thread] in
/-- The loop thread's own steps leave the calls alone. They leave the accepting
part only by a swap, which empties the queue. -/
theorem loopStep_inProgress {s t : State Thread Functor} {label : Label Thread Functor}
    (inProgress : InProgress s) (taken : loopStep s label = .ok t) : InProgress t := by
  have calls := loopStep_calls taken
  have kept : t.pendingFunctors = s.pendingFunctors →
      (t.position.accepting = false → s.position.accepting = false) → InProgress t := by
    intro pending back outside thread queued
    rw [calls]
    apply inProgress (back outside) thread
    rwa [hasQueued, ← pending]
  cases loopStep_moves taken with
  | push thread functor _ _ _ => simp [loopStep] at taken
  | swap flagged swapped pending executed =>
    intro _ thread queued
    simp [hasQueued, pending] at queued
  | beginFunctor functors next functor running present moved pending executed =>
    exact kept pending (fun _ => by simp [running, Position.accepting])
  | finishFunctor functors next calling moved pending executed =>
    exact kept pending (fun _ => by simp [calling, Position.accepting])
  | lowerFlag functors next running done moved pending executed =>
    exact kept pending (fun _ => by simp [running, Position.accepting])
  | call _ _ stays pending executed => exact kept pending (fun outside => stays ▸ outside)
  | move _ _ _ _ forward pending executed =>
    refine kept pending ?_
    intro outside
    cases accepting : s.position.accepting with
    | false => rfl
    | true => exact absurd (forward accepting) (by simp [outside])

/-- A step of one thread's call: the call goes on, or it returns and the thread
has nothing queued outside the accepting part. -/
theorem inProgress_call {s t : State Thread Functor} (thread : Thread) (call : Call)
    (inProgress : InProgress s) (position : t.position = s.position)
    (calls : t.calls = setCall s.calls thread call)
    (others : ∀ other, other ≠ thread → hasQueued t other → hasQueued s other)
    (own : call.queueing = true ∨ (s.position.accepting = false → ¬ hasQueued t thread)) :
    InProgress t := by
  intro outside other queued
  rw [position] at outside
  by_cases here : other = thread
  · subst here
    rcases own with goesOn | nothing
    · simpa [calls, setCall] using goesOn
    · exact absurd queued (nothing outside)
  · simpa [calls, setCall, here] using inProgress outside other (others other here queued)

/-- Every step of a thread's call that returns in time keeps this. -/
theorem callStep_inProgress {loopThread : Thread} {s t : State Thread Functor}
    {label : Label Thread Functor} (inProgress : InProgress s)
    (inTime : returnsWhileAccepting loopThread s label)
    (taken : callStep loopThread s label = .ok t) : InProgress t := by
  cases label with
  | push thread functor =>
    simp only [callStep, bind_ok, pure_ok] at taken
    obtain ⟨_, _, rfl⟩ := taken
    refine inProgress_call thread .pushed inProgress rfl rfl ?_ (Or.inl rfl)
    intro other different queued
    simpa [hasQueued, different] using queued
  | test thread =>
    simp only [callStep, bind_ok, pure_ok] at taken
    obtain ⟨_, _, rfl⟩ := taken
    refine inProgress_call thread _ inProgress rfl rfl (fun _ _ queued => queued) ?_
    by_cases wakes : thread ≠ loopThread ∨ s.callingPendingFunctors = true
    · exact Or.inl (by rw [if_pos wakes]; rfl)
    · simp only [not_or, not_not, Bool.not_eq_true] at wakes
      right
      intro outside queued
      have accepting := inTime wakes queued
      exact absurd accepting (by simp [outside])
  | wakeup thread =>
    simp only [callStep, bind_ok, pure_ok] at taken
    obtain ⟨_, _, rfl⟩ := taken
    refine inProgress_call thread .idle inProgress rfl rfl (fun _ _ queued => queued) (Or.inr ?_)
    intro outside queued
    exact absurd (inTime queued) (by simp [outside])
  | quit thread =>
    simp only [callStep, bind_ok, pure_ok, enabled_ok] at taken
    obtain ⟨_, ⟨idle, _⟩, rfl⟩ := taken
    refine inProgress_call thread _ inProgress rfl rfl (fun _ _ queued => queued) (Or.inr ?_)
    intro outside queued
    have queueing := inProgress outside thread queued
    simp [idle, Call.queueing] at queueing
  | _ => simp [callStep] at taken

/-- Every step whose calls return in time keeps this. -/
theorem step_inProgress (loopThread : Thread) (s : State Thread Functor)
    (label : Label Thread Functor) (t : State Thread Functor) (inProgress : InProgress s)
    (inTime : returnsWhileAccepting loopThread s label) (taken : step loopThread s label = .ok t) :
    InProgress t := by
  unfold step at taken
  split at taken
  case h_5 =>
    obtain ⟨_, _, continued⟩ := (bind_ok _ _ _).mp taken
    exact loopStep_inProgress inProgress continued
  all_goals exact callStep_inProgress inProgress inTime taken

/-- The loop enters its poll only from the test of `quit_`, where nothing is
accepted yet. -/
theorem enterPoll_ok {loopThread : Thread} {s t : State Thread Functor}
    (taken : step loopThread s .enterPoll = .ok t) :
    s.position.accepting = false ∧ t.pendingFunctors = s.pendingFunctors ∧ t.calls = s.calls := by
  obtain ⟨_, _, polled⟩ := (bind_ok _ _ _).mp taken
  unfold loopStep at polled
  split at polled
  case h_3 _ atTest =>
    simp only [bind_ok, pure_ok] at polled
    obtain ⟨_, _, rfl⟩ := polled
    exact ⟨by simp [atTest, Position.accepting], rfl, rfl⟩
  case h_13 => cases polled
  all_goals contradiction

/-- In a run in which no `queue_in_loop` returns with its functor still queued,
except between a poll's entry and the following swap, no poll is entered with
work that no wake-up announces.

Proof: at the entry of a poll every queued functor belongs to a call that has not
returned. -/
theorem poll_entry_wakeup (loopThread : Thread) (labels : List (Label Thread Functor))
    (s t : State Thread Functor)
    (inTime : Along (step loopThread) (returnsWhileAccepting loopThread) initial labels)
    (reached : run (step loopThread) initial labels = .ok s)
    (entered : step loopThread s .enterPoll = .ok t) : NoLostWakeup t := by
  have start : InProgress (initial : State Thread Functor) := by
    intro _ thread queued
    simp [hasQueued, initial] at queued
  have inProgress : InProgress s :=
    guarded_invariant (step loopThread) (returnsWhileAccepting loopThread) InProgress
      (step_inProgress loopThread) labels initial s start inTime reached
  obtain ⟨outside, pending, calls⟩ := enterPoll_ok entered
  intro queued returned
  obtain ⟨entry, member⟩ := List.exists_mem_of_ne_nil _ queued
  have queueing := inProgress outside entry.1 (by
    rw [hasQueued, ← pending]
    exact List.mem_map_of_mem member)
  rw [← calls, returned entry member] at queueing
  cases queueing

/-- Thread 1 queues a functor in front of a poll that times out, and its call
returns during the poll. -/
def duringPoll : List (Label Nat Nat) :=
  [.enterLoop, .push 1 10, .enterPoll, .test 1, .wakeup 1, .pollReturn [], .raiseFlag, .swap,
    .beginFunctor, .finishFunctor, .lowerFlag]

/-- The call returns during the poll, and the next poll finds nothing queued. -/
theorem poll_entry_wakeup_during_poll :
    ∃ s t, run (step 0) initial duringPoll = .ok s ∧ step 0 s .enterPoll = .ok t ∧
      NoLostWakeup t := by
  have completed : (run (step 0) initial (duringPoll ++ [.enterPoll])).isOk = true := by decide
  cases whole : run (step 0) initial (duringPoll ++ [.enterPoll]) with
  | error fault => simp [whole, Except.isOk, Except.toBool] at completed
  | ok t =>
    obtain ⟨s, reached, entered⟩ := (run_concat _ _ _ _ _).mp whole
    exact ⟨s, t, reached, entered,
      poll_entry_wakeup 0 duringPoll s t (by decide) reached entered⟩

/-- Thread 1 queues a functor, its call returns, and the loop enters its poll
with the descriptor at zero. -/
theorem wakeup_lost_before_poll :
    ¬ ∀ (labels : List (Label Nat Nat)) (s t : State Nat Nat),
      run (step 0) initial labels = .ok s → step 0 s .enterPoll = .ok t → NoLostWakeup t := by
  intro claimed
  have lost := claimed [.enterLoop, .push 1 10, .test 1, .wakeup 1] _ _ rfl rfl
  exact absurd (lost (by decide) (by decide)) (by decide)

end ReactorNetwork.FunctorQueue
