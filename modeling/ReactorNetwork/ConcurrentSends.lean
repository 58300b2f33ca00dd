import ReactorNetwork.SentViews

/-!
# The order of concurrent sends

Any number of threads call `send` on one connection. The loop's own thread passes its message
on at once, before messages of other threads that were queued earlier; the others pass theirs
to the queue, some time after the call has tested `state_`. A short write or a writable event
may come between any two messages, and in the middle of one.

The machine of the callers' views is run with a record beside it: whose calls were accepted,
whose messages wait in the queue and whose were passed on. The record changes no step. What
leaves the connection is whole messages, one after the other, and those of each thread in the
order of its calls.
-/

namespace ReactorNetwork.ConcurrentSends

open Runs TcpConnection
open SentViews (Functor View Label keepsViewed)

/-- A message as it was at the call of its thread. -/
structure Call (Thread : Type) where
  thread : Thread
  bytes : List Byte
deriving DecidableEq, Repr

/-- The calls that found the connection established, those that wait in the loop's queue or
batch, and those whose `send_in_loop` was executed. -/
structure State (Thread : Type) where
  views : SentViews.State Thread
  calls : List (Call Thread)
  waiting : List (Call Thread)
  executed : List (Call Thread)

variable {Thread : Type} [DecidableEq Thread]

/-- A connection before the first call. -/
def initial (connection : TcpConnection) (storage : Nat → Option StringView) : State Thread where
  views := SentViews.initial connection storage
  calls := []
  waiting := []
  executed := []

/-- What a step adds to the record, seen from the state before it. -/
def State.record (s : State Thread) (loopThread : Thread) : Label Thread → State Thread
  | .send thread view _ =>
      match view.read s.views.storage with
      | none => s
      | some message =>
          if s.views.connection.state = .connected then
            let call := ⟨thread, message.bytes⟩
            if thread = loopThread then
              { s with calls := s.calls ++ [call], executed := s.executed ++ [call] }
            else { s with calls := s.calls ++ [call] }
          else s
  | .push thread =>
      match s.views.callers thread with
      | none => s
      | some (_, atCall) => { s with waiting := s.waiting ++ [⟨thread, atCall⟩] }
  | .runFunctor _ =>
      match s.views.batch, s.waiting with
      | .send _ _ :: _, call :: rest =>
          { s with waiting := rest, executed := s.executed ++ [call] }
      | _, _ => s
  | _ => s

/-- One step of the connection, with the calls it is about recorded. -/
def step (loopThread : Thread) (s : State Thread) (label : Label Thread) :
    Outcome (State Thread) := do
  let views ← SentViews.step loopThread s.views label
  pure { s.record loopThread label with views := views }

/-- The messages of one thread, in order. -/
def of (thread : Thread) (calls : List (Call Thread)) : List (List Byte) :=
  (calls.filter fun call => call.thread = thread).map Call.bytes

/-- The message of a call that is between its test and its push. -/
def inHand (s : State Thread) (thread : Thread) : List (List Byte) :=
  ((s.views.callers thread).map Prod.snd).toList

/-- The messages of the functors of a queue. -/
def queuedBytes (functors : List Functor) : List (List Byte) :=
  functors.filterMap fun
    | .send _ atCall => some atCall
    | .writeComplete => none

/-- The record agrees with the queue and with what was passed on, and accounts for the calls
of each thread in their order. The loop's thread queues nothing. -/
structure Ordered (loopThread : Thread) (s : State Thread) : Prop where
  waiting : s.waiting.map Call.bytes = queuedBytes (s.views.batch ++ s.views.pending)
  executed : s.views.sends.map SentViews.Passed.atCall = s.executed.map Call.bytes
  calls : ∀ thread,
    of thread s.calls = of thread s.executed ++ of thread s.waiting ++ inHand s thread
  queued : of loopThread s.waiting = []
  direct : s.views.callers loopThread = none

section Lists

/-- The calls of a thread in a list of two parts. -/
@[simp] theorem of_append (thread : Thread) (left right : List (Call Thread)) :
    of thread (left ++ right) = of thread left ++ of thread right := by
  simp [of]

/-- The calls of a thread, the first call apart. -/
theorem of_cons (thread : Thread) (call : Call Thread) (rest : List (Call Thread)) :
    of thread (call :: rest) = of thread [call] ++ of thread rest :=
  of_append thread [call] rest

/-- A call of the thread is one of its calls. -/
theorem of_own (thread : Thread) (bytes : List Byte) : of thread [⟨thread, bytes⟩] = [bytes] := by
  simp [of]

/-- A call of another thread is none. -/
theorem of_other {thread other : Thread} (different : other ≠ thread) (bytes : List Byte) :
    of thread [⟨other, bytes⟩] = [] := by
  simp [of, different]

/-- The messages queued in a queue of two parts. -/
@[simp] theorem queuedBytes_append (left right : List Functor) :
    queuedBytes (left ++ right) = queuedBytes left ++ queuedBytes right := by
  simp [queuedBytes]

/-- What a loop-thread function queues is no message. -/
theorem queuedBytes_queuedBy (effects : List Effect) :
    queuedBytes (SentViews.queuedBy effects) = [] := by
  refine List.filterMap_eq_nil_iff.mpr ?_
  intro functor member
  cases functor with
  | send view atCall => exact absurd member (SentViews.queuedBy_send effects view atCall)
  | writeComplete => rfl

end Lists

section Steps

variable {loopThread : Thread} {s t : State Thread}

omit [DecidableEq Thread] in
/-- An executed `send_in_loop` is recorded, and queues notifications only. -/
theorem sendInLoop_changes {before after : SentViews.State Thread} {view : View}
    {atCall : List Byte} {result : WriteResult}
    (sent : before.sendInLoop view atCall result = .ok after) :
    after.callers = before.callers ∧ after.batch = before.batch ∧
      queuedBytes after.pending = queuedBytes before.pending ∧
      after.sends.map SentViews.Passed.atCall =
        before.sends.map SentViews.Passed.atCall ++ [atCall] := by
  obtain ⟨message, _, continued⟩ := (bind_ok _ _ _).mp sent
  obtain ⟨⟨c, effects⟩, _, same⟩ := (bind_ok _ _ _).mp continued
  obtain rfl := (pure_ok _ _).mp same
  refine ⟨rfl, rfl, ?_, by simp⟩
  change queuedBytes (before.pending ++ SentViews.queuedBy effects) = _
  rw [queuedBytes_append, queuedBytes_queuedBy, List.append_nil]

omit [DecidableEq Thread] in
/-- Before the first call nothing is recorded and nothing is queued. -/
theorem initial_ordered [DecidableEq Thread] (loopThread : Thread) (connection : TcpConnection)
    (storage : Nat → Option StringView) : Ordered loopThread (initial connection storage) :=
  ⟨rfl, rfl, fun _ => rfl, rfl, rfl⟩

/-- The hand of a thread, where only one thread's call has changed. -/
theorem inHand_set {callers : Thread → Option (View × List Byte)} {thread : Thread}
    {call : Option (View × List Byte)} (other : Thread) :
    ((SentViews.setCaller callers thread call other).map Prod.snd).toList =
      if other = thread then (call.map Prod.snd).toList
      else ((callers other).map Prod.snd).toList := by
  unfold SentViews.setCaller
  split <;> rfl

/-- A call on the loop's thread is executed at once, another one is in the hand of its thread
until it is pushed. -/
theorem send_ordered (ordered : Ordered loopThread s) {thread : Thread} {view : View}
    {result : WriteResult} (taken : step loopThread s (.send thread view result) = .ok t) :
    Ordered loopThread t := by
  obtain ⟨views, viewed, same⟩ := (bind_ok _ _ _).mp taken
  obtain rfl := (pure_ok _ _).mp same
  obtain ⟨_, allowed, continued⟩ := (bind_ok _ _ _).mp viewed
  have free : s.views.callers thread = none := (enabled_ok _ _).mp allowed
  cases found : view.read s.views.storage with
  | none =>
    rw [found] at continued
    cases continued
  | some message =>
    rw [found] at continued
    by_cases connected : s.views.connection.state = .connected
    · simp only [if_pos connected] at continued
      by_cases inLoop : thread = loopThread
      · subst inLoop
        rw [if_pos rfl] at continued
        obtain ⟨callers, batch, pending, sends⟩ := sendInLoop_changes continued
        simp only [State.record, found, if_pos connected, if_pos]
        refine ⟨?_, ?_, ?_, ordered.queued, by rw [callers]; exact ordered.direct⟩
        · rw [queuedBytes_append, batch, pending, ← queuedBytes_append]
          exact ordered.waiting
        · simp [sends, ordered.executed]
        · intro other
          simp only [inHand, callers, of_append, ordered.calls other]
          by_cases here : other = thread
          · subst here
            simp [ordered.queued, free]
          · simp [of_other (Ne.symm here)]
      · rw [if_neg inLoop] at continued
        obtain rfl := (pure_ok _ _).mp continued
        simp only [State.record, found, if_pos connected, if_neg inLoop]
        refine ⟨ordered.waiting, ordered.executed, ?_, ordered.queued, ?_⟩
        · intro other
          simp only [inHand, of_append, ordered.calls other, inHand_set]
          by_cases here : other = thread
          · subst here
            simp [free, of_own]
          · simp [of_other (Ne.symm here), here]
        · simp [SentViews.setCaller, Ne.symm inLoop, ordered.direct]
    · simp only [if_neg connected] at continued
      obtain rfl := (pure_ok _ _).mp continued
      simp only [State.record, found, if_neg connected]
      exact ordered

/-- A pushed message waits behind all others. -/
theorem push_ordered (ordered : Ordered loopThread s) {thread : Thread}
    (taken : step loopThread s (.push thread) = .ok t) : Ordered loopThread t := by
  obtain ⟨views, viewed, same⟩ := (bind_ok _ _ _).mp taken
  obtain rfl := (pure_ok _ _).mp same
  simp only [SentViews.step] at viewed
  cases called : s.views.callers thread with
  | none =>
    rw [called] at viewed
    cases viewed
  | some call =>
    obtain ⟨view, atCall⟩ := call
    rw [called] at viewed
    obtain rfl := (pure_ok _ _).mp viewed
    have elsewhere : thread ≠ loopThread := by
      rintro rfl
      rw [ordered.direct] at called
      cases called
    simp only [State.record, called]
    refine ⟨?_, ordered.executed, ?_, ?_, ?_⟩
    · have pushed : queuedBytes [Functor.send view atCall] = [atCall] := rfl
      simp only [List.map_append, ordered.waiting, queuedBytes_append, pushed]
      simp
    · intro other
      simp only [inHand, of_append, ordered.calls other, inHand_set]
      by_cases here : other = thread
      · subst here
        simp [called, of_own]
      · simp [of_other (Ne.symm here), here]
    · simp [ordered.queued, of_other elsewhere]
    · simp [SentViews.setCaller, ordered.direct]

/-- The message that waits longest is passed on whole. -/
theorem runFunctor_ordered (ordered : Ordered loopThread s) {result : WriteResult}
    (taken : step loopThread s (.runFunctor result) = .ok t) : Ordered loopThread t := by
  obtain ⟨views, viewed, same⟩ := (bind_ok _ _ _).mp taken
  obtain rfl := (pure_ok _ _).mp same
  have waiting := ordered.waiting
  simp only [SentViews.step] at viewed
  cases batch : s.views.batch with
  | nil =>
    rw [batch] at viewed
    cases viewed
  | cons functor rest =>
    rw [batch] at viewed waiting
    cases functor with
    | writeComplete =>
      obtain rfl := (pure_ok _ _).mp viewed
      simp only [State.record, batch]
      exact ⟨waiting, ordered.executed, ordered.calls, ordered.queued, ordered.direct⟩
    | send view atCall =>
      obtain ⟨callers, left, pending, sends⟩ := sendInLoop_changes viewed
      cases first : s.waiting with
      | nil =>
        rw [first] at waiting
        cases waiting
      | cons call others =>
        rw [first] at waiting
        obtain ⟨bytes, behind⟩ := List.cons.inj waiting
        have queued := ordered.queued
        rw [first, of_cons] at queued
        obtain ⟨elsewhere, later⟩ := List.append_eq_nil_iff.mp queued
        simp only [State.record, batch, first]
        refine ⟨?_, ?_, ?_, later, by rw [callers]; exact ordered.direct⟩
        · rw [queuedBytes_append, left, pending, ← queuedBytes_append]
          exact behind
        · simp [sends, ordered.executed, bytes]
        · intro other
          have account := ordered.calls other
          rw [first, of_cons] at account
          simp only [inHand, callers] at account ⊢
          rw [of_append, account]
          simp

/-- Every step of any thread keeps the account. -/
theorem step_ordered (s : State Thread) (label : Label Thread) (t : State Thread)
    (ordered : Ordered loopThread s) (taken : step loopThread s label = .ok t) :
    Ordered loopThread t := by
  cases label
  case send => exact send_ordered ordered taken
  case push => exact push_ordered ordered taken
  case runFunctor => exact runFunctor_ordered ordered taken
  case overwrite | release =>
    obtain ⟨views, viewed, same⟩ := (bind_ok _ _ _).mp taken
    obtain rfl := (pure_ok _ _).mp same
    obtain rfl := (pure_ok _ _).mp viewed
    exact ⟨ordered.waiting, ordered.executed, ordered.calls, ordered.queued, ordered.direct⟩
  case swap =>
    obtain ⟨views, viewed, same⟩ := (bind_ok _ _ _).mp taken
    obtain rfl := (pure_ok _ _).mp same
    have waiting := ordered.waiting
    simp only [SentViews.step] at viewed
    cases batch : s.views.batch with
    | cons functor rest =>
      rw [batch] at viewed
      cases viewed
    | nil =>
      rw [batch] at viewed waiting
      obtain rfl := (pure_ok _ _).mp viewed
      refine ⟨?_, ordered.executed, ordered.calls, ordered.queued, ordered.direct⟩
      simpa [State.record] using waiting
  case handleWrite result =>
    obtain ⟨views, viewed, same⟩ := (bind_ok _ _ _).mp taken
    obtain rfl := (pure_ok _ _).mp same
    obtain ⟨⟨c, effects⟩, _, performed⟩ := (bind_ok _ _ _).mp viewed
    obtain rfl := (pure_ok _ _).mp performed
    refine ⟨?_, ordered.executed, ordered.calls, ordered.queued, ordered.direct⟩
    have waiting := ordered.waiting
    simp only [State.record, SentViews.State.perform, ← List.append_assoc]
    rw [queuedBytes_append, queuedBytes_queuedBy, List.append_nil]
    exact waiting

/-- The record follows every run. -/
theorem recorded_run (labels : List (Label Thread)) (s : State Thread)
    (views : SentViews.State Thread)
    (reached : run (SentViews.step loopThread) s.views labels = .ok views) :
    ∃ t, run (step loopThread) s labels = .ok t ∧ t.views = views := by
  induction labels generalizing s with
  | nil => exact ⟨s, rfl, Except.ok.inj reached⟩
  | cons label rest inductionHypothesis =>
    obtain ⟨next, taken, continued⟩ := (run_cons _ _ _ label rest).mp reached
    obtain ⟨t, arrived, same⟩ :=
      inductionHypothesis { s.record loopThread label with views := next } continued
    refine ⟨t, (run_cons _ _ _ label rest).mpr ⟨_, ?_, arrived⟩, same⟩
    simp only [step, taken]
    rfl

end Steps

/-- In every run of a connection that any number of threads send on, in which the bytes of an
outstanding message stay as they are: what the kernel accepted followed by what is buffered is
made of whole messages, in the order their `send_in_loop` was executed. For every thread the
messages of its accepted calls, in the order of the calls, are those executed, then those
that wait in the queue, then the one it is about to push. The loop's own thread has none
waiting.

Proof: a push joins the queue behind all others and a functor leaves it at the front, so
neither changes the order of one thread; and the loop's thread queues nothing. -/
theorem concurrent_sends_in_order (loopThread : Thread) (c : TcpConnection)
    (wellFormed : c.outputBuffer.WellFormed) (storage : Nat → Option StringView)
    (labels : List (Label Thread)) (views : SentViews.State Thread)
    (kept : Along (SentViews.step loopThread) keepsViewed (SentViews.initial c storage) labels)
    (reached : run (SentViews.step loopThread) (SentViews.initial c storage) labels = .ok views) :
    ∃ s, run (step loopThread) (initial c storage) labels = .ok s ∧ s.views = views ∧
      written views.trace ++ views.connection.unsent = c.unsent ++ s.executed.flatMap Call.bytes ∧
      (∀ thread, of thread s.calls =
        of thread s.executed ++ of thread s.waiting ++ inHand s thread) ∧
      s.waiting.map Call.bytes = queuedBytes (views.batch ++ views.pending) ∧
      of loopThread s.waiting = [] ∧ inHand s loopThread = [] := by
  obtain ⟨s, recorded, rfl⟩ :=
    recorded_run labels (initial c storage : State Thread) views reached
  have ordered : Ordered loopThread s :=
    Runs.invariant (step loopThread) (Ordered loopThread) step_ordered labels
      (initial c storage) s (initial_ordered loopThread c storage) recorded
  have intact : SentViews.Intact c s.views :=
    (run_safely (SentViews.step loopThread) keepsViewed (SentViews.Intact c)
      (fun _ label before guard => SentViews.step_intact label before guard) labels _
      (SentViews.initial_intact c storage wellFormed) kept).met s.views reached
  refine ⟨s, recorded, rfl, ?_, ordered.calls, ordered.waiting, ordered.queued, ?_⟩
  · rw [intact.account, List.flatMap_def, ordered.executed, ← List.flatMap_def]
  · simp [inHand, ordered.direct]

/-- Messages of threads 1 and 2, and one of the loop's thread 0. -/
def messages : Nat → Option StringView
  | 0 => some ⟨[71], by decide⟩
  | 1 => some ⟨[72, 73], by decide⟩
  | 2 => some ⟨[74], by decide⟩
  | _ => none

/-- Thread 2 is overtaken between its call and its push, and the loop's thread sends before
either message is executed. The kernel takes one byte of three at a time. -/
def twoThreadsAndLoop : List (Label Nat) :=
  [.send 2 ⟨1, 0, 2⟩ (.accepted 9), .send 1 ⟨0, 0, 1⟩ (.accepted 9), .push 1, .push 2,
    .send 0 ⟨2, 0, 1⟩ (.accepted 0), .swap, .runFunctor (.accepted 1), .handleWrite (.accepted 1)]

/-- The call of thread 2 was made first and is executed last, and for each thread the
order is kept. -/
theorem in_order_twoThreadsAndLoop :
    SentViews.quiet.outputBuffer.WellFormed ∧
      Along (SentViews.step 0) keepsViewed (SentViews.initial SentViews.quiet messages)
        twoThreadsAndLoop ∧
      ∃ views s, run (SentViews.step 0) (SentViews.initial SentViews.quiet messages)
          twoThreadsAndLoop = .ok views ∧
        run (step 0) (initial SentViews.quiet messages) twoThreadsAndLoop = .ok s ∧
        s.executed = [⟨0, [74]⟩, ⟨1, [71]⟩] ∧ s.waiting = [⟨2, [72, 73]⟩] ∧
        written views.trace = [74] ∧ ∀ thread, of thread s.calls =
          of thread s.executed ++ of thread s.waiting ++ inHand s thread := by
  have wellFormed : SentViews.quiet.outputBuffer.WellFormed := Buffer.fresh_wellFormed
  have along : Along (SentViews.step 0) keepsViewed
      (SentViews.initial SentViews.quiet messages : SentViews.State Nat) twoThreadsAndLoop := by
    -- no step touches the storage
    refine ⟨fun _ _ _ => rfl, fun _ _ => ⟨fun _ _ _ => rfl, fun _ _ => ⟨fun _ _ _ => rfl, ?_⟩⟩⟩
    refine fun _ _ => ⟨fun _ _ _ => rfl, fun _ _ => ⟨fun _ _ _ => rfl, fun _ _ => ?_⟩⟩
    refine ⟨fun _ _ _ => rfl, fun _ _ => ⟨fun _ _ _ => rfl, fun _ _ => ?_⟩⟩
    exact ⟨fun _ _ _ => rfl, fun _ _ => trivial⟩
  have computed : (run (step 0) (initial SentViews.quiet messages) twoThreadsAndLoop).map
      (fun s => (s.executed, s.waiting)) = .ok ([⟨0, [74]⟩, ⟨1, [71]⟩], [⟨2, [72, 73]⟩]) := by
    decide +kernel
  have viewed : (run (SentViews.step 0) (SentViews.initial SentViews.quiet messages)
      twoThreadsAndLoop).map (fun views => written views.trace) = .ok [74] := by decide +kernel
  obtain ⟨views, reached, viewed⟩ := (map_returned _ _ _).mp viewed
  obtain ⟨s, recorded, computed⟩ := (map_returned _ _ _).mp computed
  simp only [Prod.mk.injEq] at computed
  obtain ⟨t, again, _, _, calls, _⟩ := concurrent_sends_in_order 0 SentViews.quiet wellFormed
    messages twoThreadsAndLoop views along reached
  obtain rfl : s = t := Except.ok.inj (recorded.symm.trans again)
  exact ⟨wellFormed, along, views, s, reached, recorded, computed.1, computed.2, viewed, calls⟩

end ReactorNetwork.ConcurrentSends
