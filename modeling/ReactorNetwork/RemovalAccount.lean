import ReactorNetwork.CloseAccount
import ReactorNetwork.ThreadConfinement

/-!
# Counting the removals of connections

A connection of an IO loop is closed by the thread of that loop, taken out of
`connections_` by the server's thread and destroyed by the thread of its loop again. What
passes between the threads are functors: `remove_connection` queues the removal to the
server's loop, and `remove_connection_in_loop` queues the destruction to the loop of the
connection.

Here are the counts of this way, for each connection: how often `handle_close` and
`connect_destoryed` have run, and how many removals and destructions are queued. Most steps
of a server leave them alone. What they then must keep is that a connection can be closed no
more than once and that a closed one has no interest.
-/

namespace ReactorNetwork.ThreadConfinement

open TcpConnection ConnectionLife TcpServer

/-- The functor removes this connection. -/
def Functor.removes (id : Nat) : Functor → Bool
  | .removeConnectionInLoop other => other == id
  | _ => false

/-- The functor destroys this connection. -/
def Functor.destroys (id : Nat) : Functor → Bool
  | .connectDestoryed other => other == id
  | _ => false

/-- The functors a loop still has to run. -/
def Loop.queued (loop : Loop) : List Functor := loop.phase.batch ++ loop.pending

/-- How often a place was accessed. -/
def made (s : State) (place : Place) : Nat :=
  s.accesses.countP fun access => access.place = place

/-- How often the connection's `handle_close` was run. -/
def closed (s : State) (id : Nat) : Nat := made s (.connection id .handleClose)

/-- How often its `connect_destoryed` was run. -/
def destroyed (s : State) (id : Nat) : Nat := made s (.connection id .connectDestoryed)

/-- The removals queued to the server's loop. -/
def removals (s : State) (id : Nat) : Nat := (s.loops 0).queued.countP (Functor.removes id)

/-- The destructions queued to the connection's loop. -/
def destructions (s : State) (id : Nat) : Nat :=
  (s.loops (s.loopOf id)).queued.countP (Functor.destroys id)

/-- The connection whose `send_in_loop` is the next functor to run. -/
def Phase.nextSend : Phase → Option Nat
  | .running (.sendInLoop id _ :: _) => some id
  | _ => none

/-- What is assumed of the steps of a run. The poller reports channels with an interest only,
and a hang-up without readable data not together with urgent data or a peer shutdown. No
`send_in_loop` runs on a closed connection. -/
def undisturbed (s : State) : Label → Prop
  | .poll _ active => ∀ id ∈ active, (s.objects id).channel.isNoneEvent = false
  | .dispatch _ revents => hangup revents = true → anySet revents (POLLPRI ||| POLLRDHUP) = false
  | .send thread id _ _ => thread = s.loopOf id → closed s id = 0
  | .runFunctor thread _ => ∀ id ∈ (s.loops thread).phase.nextSend, closed s id = 0
  | _ => True

instance (s : State) (label : Label) : Decidable (undisturbed s label) :=
  match label with
  | .poll _ _ | .dispatch _ _ => inferInstanceAs (Decidable (∀ _, _))
  | .send _ _ _ _ => inferInstanceAs (Decidable (_ → _))
  | .runFunctor _ _ => inferInstanceAs (Decidable (∀ _ ∈ Phase.nextSend _, _))
  | .accept _ _ | .callback _ _ _ | .finishEvent _ | .swap _ | .finishFunctors _ | .shutdown _ _ =>
      isTrue trivial

/-- The callbacks that can reach `handle_close`. -/
def closers (callbacks : List Callback) : Nat :=
  callbacks.countP fun callback => callback == .close || callback == .read

/-- How often a loop in this phase can still close a connection before it polls again. -/
def Phase.upcoming (id : Nat) : Phase → Nat
  | .dispatching active => active.count id
  | .handling current callbacks active =>
      (if current = id then closers callbacks else 0) + active.count id
  | _ => 0

/-- The way of the closed connections, and what keeps them on it. `hand` holds a connection
that a thread has closed or taken from its queue and not passed on yet. -/
structure Carried (name : List Char) (hand : List Nat) (s : State) : Prop where
  wellNamed : WellNamed name s.connections
  account : ∀ id, closed s id = hand.count id + removals s id + destructions s id + destroyed s id
  once : ∀ id, closed s id + (s.loops (s.loopOf id)).phase.upcoming id ≤ 1
  held : ∀ id, s.connections.lookup (connName name id) = some id ↔
    id < s.created ∧ destructions s id + destroyed s id = 0
  opened : ∀ id < s.created, destroyed s id = 0 → Open (s.objects id)
  silent : ∀ id, closed s id ≠ 0 → (s.objects id).channel.isNoneEvent = true
  registered : ∀ loop id, s.registered loop id = true → destroyed s id = 0
  dispatched : ∀ loop, ∀ id ∈ (s.loops loop).phase.dispatched, destroyed s id = 0

variable {name : List Char} {ioLoops : Nat} {hand : List Nat} {s t : State}

/-- Before the first connection nothing is closed, queued or registered. -/
theorem initial_carried (name : List Char) : Carried name [] initial where
  wellNamed := by
    intro key id found
    cases found
  account := fun _ => rfl
  once := fun _ => Nat.zero_le _
  held := by
    intro id
    constructor
    · intro found
      cases found
    · rintro ⟨created, _⟩
      cases created
  opened := by
    intro id created
    cases created
  silent := fun _ wasClosed => absurd rfl wasClosed
  registered := fun _ _ _ => rfl
  dispatched := fun _ _ _ => rfl

section Counts

/-- Accesses to several places add to each place those that are to it. -/
theorem made_access (s : State) (thread : Nat) (places : List Place) (place : Place) :
    made (s.access thread places) place = made s place + places.count place := by
  simp only [made, State.access, List.countP_append, List.countP_map, List.count]
  rfl

/-- The accesses of a connection's functions are to this connection. -/
theorem count_connections (confined : List Confined) (id other : Nat) (function : Confined) :
    (confined.map (Place.connection id)).count (.connection other function) =
      if other = id then confined.count function else 0 := by
  by_cases here : other = id
  · subst here
    rw [if_pos rfl]
    rw [List.count, List.countP_map]
    apply List.countP_congr
    intro other _
    simp
  · rw [if_neg here]
    refine List.count_eq_zero.mpr ?_
    intro member
    obtain ⟨_, _, same⟩ := List.mem_map.mp member
    exact here (Place.connection.inj same).1.symm

/-- A function of a connection that runs `count` times more. -/
theorem made_perform (s : State) (thread id : Nat) (functions : List Confined) (c : TcpConnection)
    (effects : List Effect) (other : Nat) (function : Confined) :
    made (s.perform thread id functions c effects) (.connection other function) =
      made s (.connection other function) +
        if other = id then (functions ++ effects.filterMap shown).count function else 0 := by
  have recorded : (s.perform thread id functions c effects).accesses =
      ({ s with objects := Function.update s.objects id c }.access thread
        ((functions ++ effects.filterMap shown).map (.connection id))).accesses :=
    (effects_kept _ id effects).2.2
  rw [made, recorded, ← made, made_access, count_connections]
  rfl

/-- A functor counts in its own loop. -/
theorem queueInLoop_counted (s : State) (loop : Nat) (functor : Functor) (other : Nat)
    (counted : Functor → Bool) :
    ((s.queueInLoop loop functor).loops other).queued.countP counted =
      (s.loops other).queued.countP counted +
        if other = loop ∧ counted functor = true then 1 else 0 := by
  by_cases here : other = loop
  · subst here
    simp only [State.queueInLoop, Function.update_self, Loop.queued, List.countP_append,
      List.countP_singleton, true_and]
    omega
  · simp [State.queueInLoop, here]

/-- Queueing a functor leaves the loops where they are. -/
theorem queueInLoop_phase (s : State) (loop : Nat) (functor : Functor) (other : Nat) :
    ((s.queueInLoop loop functor).loops other).phase = (s.loops other).phase := by
  by_cases here : other = loop
  · subst here
    simp [State.queueInLoop]
  · simp [State.queueInLoop, Function.update_of_ne here]

/-- A queued functor counts as a removal if it is one and is queued to the server's
loop. -/
theorem removals_queueInLoop (s : State) (loop : Nat) (functor : Functor) (id : Nat) :
    removals (s.queueInLoop loop functor) id =
      removals s id + if 0 = loop ∧ functor.removes id = true then 1 else 0 :=
  queueInLoop_counted s loop functor 0 _

/-- A queued functor counts as a destruction if it is one and is queued to the
connection's loop. -/
theorem destructions_queueInLoop (s : State) (loop : Nat) (functor : Functor) (id : Nat) :
    destructions (s.queueInLoop loop functor) id =
      destructions s id + if s.loopOf id = loop ∧ functor.destroys id = true then 1 else 0 :=
  queueInLoop_counted s loop functor (s.loopOf id) _

/-- The first functor of a batch has been taken off. -/
theorem popped_counted {thread : Nat} {functor : Functor} {rest : List Functor}
    (running : (s.loops thread).phase = .running (functor :: rest)) (other : Nat)
    (counted : Functor → Bool) :
    (s.loops other).queued.countP counted =
      ((s.setPhase thread (.running rest)).loops other).queued.countP counted +
        if other = thread ∧ counted functor = true then 1 else 0 := by
  by_cases here : other = thread
  · subst here
    simp [State.setPhase, Loop.queued, running, Phase.batch, List.countP_cons]
  · simp [State.setPhase, here]

/-- A removal that begins to run is no longer queued. -/
theorem popped_removals {thread : Nat} {functor : Functor} {rest : List Functor}
    (running : (s.loops thread).phase = .running (functor :: rest)) (id : Nat) :
    removals s id = removals (s.setPhase thread (.running rest)) id +
      if 0 = thread ∧ functor.removes id = true then 1 else 0 :=
  popped_counted running 0 _

/-- A destruction that begins to run is no longer queued. -/
theorem popped_destructions {thread : Nat} {functor : Functor} {rest : List Functor}
    (running : (s.loops thread).phase = .running (functor :: rest)) (id : Nat) :
    destructions s id = destructions (s.setPhase thread (.running rest)) id +
      if s.loopOf id = thread ∧ functor.destroys id = true then 1 else 0 :=
  popped_counted running (s.loopOf id) _

/-- Running functors, a loop dispatches nothing. -/
theorem popped_phase {thread : Nat} {functor : Functor} {rest : List Functor}
    (running : (s.loops thread).phase = .running (functor :: rest)) (loop : Nat) :
    ((s.setPhase thread (.running rest)).loops loop).phase.dispatched =
        (s.loops loop).phase.dispatched ∧
      ∀ id, ((s.setPhase thread (.running rest)).loops loop).phase.upcoming id =
        (s.loops loop).phase.upcoming id := by
  by_cases here : loop = thread
  · subst here
    simp [State.setPhase, running, Phase.dispatched, Phase.upcoming]
  · simp [State.setPhase, here]

/-- Effects queue nothing but notifications, and the rest of the state they leave is the
poller's. -/
theorem effects_rest (s : State) (id : Nat) (effects : List Effect) :
    let after := effects.foldl (fun state effect => state.effect id effect) s
    after.connections = s.connections ∧ after.objects = s.objects ∧
      (∀ loop, (after.loops loop).phase = (s.loops loop).phase) ∧
      ∀ counted : Functor → Bool, counted (.writeComplete id) = false → ∀ loop,
        (after.loops loop).queued.countP counted = (s.loops loop).queued.countP counted := by
  induction effects generalizing s with
  | nil => exact ⟨rfl, rfl, fun _ => rfl, fun _ _ _ => rfl⟩
  | cons effect rest inductionHypothesis =>
    obtain ⟨connections, objects, phase, queued⟩ := inductionHypothesis (s.effect id effect)
    have first : (s.effect id effect).connections = s.connections ∧
        (s.effect id effect).objects = s.objects ∧
        (∀ loop, ((s.effect id effect).loops loop).phase = (s.loops loop).phase) ∧
        ∀ counted : Functor → Bool, counted (.writeComplete id) = false → ∀ loop,
          ((s.effect id effect).loops loop).queued.countP counted =
            (s.loops loop).queued.countP counted := by
      cases effect
      case queueWriteComplete =>
        refine ⟨rfl, rfl, queueInLoop_phase s _ _, ?_⟩
        intro counted other loop
        rw [State.effect, queueInLoop_counted, other]
        simp
      all_goals exact ⟨rfl, rfl, fun _ => rfl, fun _ _ _ => rfl⟩
    exact ⟨connections.trans first.1, objects.trans first.2.1,
      fun loop => (phase loop).trans (first.2.2.1 loop),
      fun counted other loop => (queued counted other loop).trans (first.2.2.2 counted other loop)⟩

/-- A channel that is registered after effects was so before, or is the one they are about. -/
theorem effects_registered (s : State) (id : Nat) (effects : List Effect) (loop other : Nat)
    (registered : (effects.foldl (fun state effect => state.effect id effect) s).registered loop
      other = true) : s.registered loop other = true ∨ other = id := by
  induction effects generalizing s with
  | nil => exact Or.inl registered
  | cons effect rest inductionHypothesis =>
    rcases inductionHypothesis (s.effect id effect) registered with before | here
    · by_cases same : other = id
      · exact Or.inr same
      · left
        cases effect
        case updateChannel | removeChannel =>
          by_cases home : loop = s.loopOf id
          · subst home
            simpa [State.effect, Function.update_of_ne same] using before
          · simpa [State.effect, Function.update_of_ne home] using before
        all_goals exact before
    · exact Or.inr here

/-- `connect_destoryed` takes the channel out of its loop's poller. -/
theorem destroyed_registered (s : State) (thread id loop : Nat) (functions : List Confined)
    (c : TcpConnection) (registered : (s.perform thread id functions c
      [.updateChannel, .connectCallback, .removeChannel]).registered loop id = true) :
    loop ≠ s.loopOf id ∧ s.registered loop id = true := by
  by_cases home : loop = s.loopOf id
  · subst home
    simp [State.perform, State.effect, State.access] at registered
  · refine ⟨home, ?_⟩
    simpa [State.perform, State.effect, State.access, home] using registered

end Counts

section Connections

variable {c after : TcpConnection} {effects : List Effect}

/-- A callback that reaches `handle_close` is one that can, and leaves no interest. -/
theorem handle_closing {callback : Callback} {read : ReadvResult} {write : WriteResult}
    (handled : handle c callback read write = .ok (after, effects))
    (invoked : Effect.closeCallback ∈ effects) :
    (callback == .close || callback == .read) = true ∧ Open c ∧
      after.channel.isNoneEvent = true ∧ effects = [.updateChannel, .closeCallback] := by
  obtain ⟨_, reached, isOpen⟩ := handle_state handled
  refine ⟨?_, isOpen invoked, ?_⟩
  · rcases reached.mp invoked with rfl | ⟨rfl, _⟩ <;> rfl
  · cases callback with
    | close =>
      obtain ⟨_, same⟩ := (handleClose_ok _ _).mp ((asserted_ok _ _ _).mp handled)
      obtain ⟨rfl, rfl⟩ := Prod.mk.inj same
      exact ⟨rfl, rfl⟩
    | error =>
      obtain ⟨_, rfl⟩ := Prod.mk.inj ((pure_ok _ _).mp handled)
      cases invoked
    | read =>
      obtain ⟨⟨filled, n⟩, _, continued⟩ := (bind_ok _ _ _).mp ((lift_ok _ _).mp handled)
      simp only at continued
      split at continued
      · obtain ⟨_, same⟩ := (handleClose_ok _ _).mp continued
        obtain ⟨rfl, rfl⟩ := Prod.mk.inj same
        exact ⟨rfl, rfl⟩
      · obtain ⟨_, rfl⟩ := Prod.mk.inj ((pure_ok _ _).mp continued)
        simp at invoked
      · obtain ⟨_, rfl⟩ := Prod.mk.inj ((pure_ok _ _).mp continued)
        cases invoked
    | write =>
      obtain ⟨_, sending⟩ := handleWrite_state ((lift_ok _ _).mp handled)
      cases sending _ invoked

/-- A channel without interest is not writing. -/
theorem not_isWriting {channel : Channel} (none : channel.isNoneEvent = true) :
    channel.isWriting = false := by
  simp only [Channel.isNoneEvent, beq_iff_eq] at none
  simp [Channel.isWriting, none, Channel.kNoneEvent, anySet]

/-- No callback gives a channel without interest one. -/
theorem handle_silent {callback : Callback} {read : ReadvResult} {write : WriteResult}
    (handled : handle c callback read write = .ok (after, effects))
    (silent : c.channel.isNoneEvent = true) : after.channel.isNoneEvent = true := by
  cases callback with
  | close =>
    obtain ⟨_, same⟩ := (handleClose_ok _ _).mp ((asserted_ok _ _ _).mp handled)
    obtain ⟨rfl, _⟩ := Prod.mk.inj same
    rfl
  | error =>
    obtain ⟨rfl, _⟩ := Prod.mk.inj ((pure_ok _ _).mp handled)
    exact silent
  | read =>
    obtain ⟨⟨filled, n⟩, _, continued⟩ := (bind_ok _ _ _).mp ((lift_ok _ _).mp handled)
    simp only at continued
    split at continued
    · obtain ⟨_, same⟩ := (handleClose_ok _ _).mp continued
      obtain ⟨rfl, _⟩ := Prod.mk.inj same
      rfl
    · obtain ⟨rfl, _⟩ := Prod.mk.inj ((pure_ok _ _).mp continued)
      exact silent
    · obtain ⟨rfl, _⟩ := Prod.mk.inj ((pure_ok _ _).mp continued)
      exact silent
  | write =>
    have written := (lift_ok _ _).mp handled
    unfold handleWrite at written
    rw [not_isWriting silent] at written
    obtain ⟨rfl, _⟩ := Prod.mk.inj ((pure_ok _ _).mp written)
    exact silent

/-- The functions effects show are those of the close callback, once each, and no
destruction. -/
theorem shown_quiet (quiet : Effect.closeCallback ∉ effects) :
    (effects.filterMap shown).count .handleClose = 0 ∧
      (effects.filterMap shown).count .connectDestoryed = 0 := by
  constructor
  · refine List.count_eq_zero.mpr fun member => ?_
    obtain ⟨effect, inside, shows⟩ := List.mem_filterMap.mp member
    cases effect <;> simp [shown] at shows
    exact quiet inside
  · refine List.count_eq_zero.mpr fun member => ?_
    obtain ⟨effect, _, shows⟩ := List.mem_filterMap.mp member
    cases effect <;> simp [shown] at shows

/-- A dispatch can close once, if a hang-up comes without further data to read. -/
theorem closers_handleEvent {revents : EventMask}
    (plain : hangup revents = true → anySet revents (POLLPRI ||| POLLRDHUP) = false) :
    closers (Channel.handleEvent connectionCallbacks revents) ≤ 1 := by
  have unread : (anySet revents POLLHUP && !anySet revents POLLIN) = true →
      anySet revents (POLLIN ||| POLLPRI ||| POLLRDHUP) = false := by
    intro hungUp
    have further := plain hungUp
    simp only [Bool.and_eq_true, Bool.not_eq_true'] at hungUp
    rw [BitVec.or_assoc, Channel.anySet_or, hungUp.2, further]
    rfl
  unfold Channel.handleEvent closers
  generalize (anySet revents POLLHUP && !anySet revents POLLIN) = hungUp at unread ⊢
  generalize anySet revents (POLLIN ||| POLLPRI ||| POLLRDHUP) = readable at unread ⊢
  generalize anySet revents (POLLERR ||| POLLNVAL) = failed
  generalize anySet revents POLLOUT = writable
  revert unread
  cases hungUp <;> cases readable <;> cases failed <;> cases writable <;> decide

end Connections

section Unmoved

/-- Between two states connections have moved only from or to the queue of the server's loop.
`before` and `after` are those in a thread's hand. -/
structure Moved (before after : List Nat) (s t : State) : Prop where
  created : t.created = s.created
  loopOf : t.loopOf = s.loopOf
  connections : t.connections = s.connections
  closed : ∀ id, closed t id = closed s id
  destroyed : ∀ id, destroyed t id = destroyed s id
  removals : ∀ id, after.count id + removals t id = before.count id + removals s id
  destructions : ∀ id, destructions t id = destructions s id

/-- No connection has moved on its way. -/
abbrev Unmoved (s t : State) : Prop := Moved [] [] s t

/-- A state that differs in its loops only, and there not in the functors on the way. -/
theorem loops_unmoved (loops : Nat → Loop)
    (removals : ∀ loop id, (loops loop).queued.countP (Functor.removes id) =
      (s.loops loop).queued.countP (Functor.removes id))
    (destructions : ∀ loop id, (loops loop).queued.countP (Functor.destroys id) =
      (s.loops loop).queued.countP (Functor.destroys id)) :
    Unmoved s { s with loops := loops } where
  created := rfl
  loopOf := rfl
  connections := rfl
  closed := fun _ => rfl
  destroyed := fun _ => rfl
  removals := fun id => congrArg _ (removals 0 id)
  destructions := fun id => destructions (s.loopOf id) id

/-- One loop has replaced its phase and its queue. -/
theorem loop_unmoved (loop : Nat) (replaced : Loop)
    (removals : ∀ id, replaced.queued.countP (Functor.removes id) =
      (s.loops loop).queued.countP (Functor.removes id))
    (destructions : ∀ id, replaced.queued.countP (Functor.destroys id) =
      (s.loops loop).queued.countP (Functor.destroys id)) :
    Unmoved s { s with loops := Function.update s.loops loop replaced } := by
  apply loops_unmoved
  · intro other id
    by_cases here : other = loop
    · subst here
      rw [Function.update_self]
      exact removals id
    · rw [Function.update_of_ne here]
  · intro other id
    by_cases here : other = loop
    · subst here
      rw [Function.update_self]
      exact destructions id
    · rw [Function.update_of_ne here]

/-- A phase with the same batch moves nothing. -/
theorem setPhase_unmoved (loop : Nat) (phase : Phase)
    (same : phase.batch = (s.loops loop).phase.batch) : Unmoved s (s.setPhase loop phase) := by
  apply loop_unmoved
  · intro id
    simp only [Loop.queued, same]
  · intro id
    simp only [Loop.queued, same]

/-- A functor that is neither a removal nor a destruction. -/
def Functor.aside : Functor → Bool
  | .removeConnectionInLoop _ | .connectDestoryed _ => false
  | _ => true

/-- Such a functor counts as neither. -/
theorem aside_uncounted {functor : Functor} (aside : functor.aside = true) (id : Nat) :
    functor.removes id = false ∧ functor.destroys id = false := by
  cases functor <;> first | exact ⟨rfl, rfl⟩ | cases aside

/-- Queueing one moves nothing. -/
theorem queueInLoop_unmoved (loop : Nat) {functor : Functor} (aside : functor.aside = true) :
    Unmoved s (s.queueInLoop loop functor) := by
  apply loops_unmoved
  · intro other id
    exact (queueInLoop_counted s loop functor other _).trans
      (by simp [(aside_uncounted aside id).1])
  · intro other id
    exact (queueInLoop_counted s loop functor other _).trans
      (by simp [(aside_uncounted aside id).2])

/-- Nor does beginning to run one. -/
theorem popped_unmoved {thread : Nat} {functor : Functor} {rest : List Functor}
    (running : (s.loops thread).phase = .running (functor :: rest))
    (aside : functor.aside = true) : Unmoved s (s.setPhase thread (.running rest)) := by
  apply loops_unmoved
  · intro other id
    refine Eq.symm ((popped_counted running other _).trans ?_)
    simp only [(aside_uncounted aside id).1]
    simp [State.setPhase]
  · intro other id
    refine Eq.symm ((popped_counted running other _).trans ?_)
    simp only [(aside_uncounted aside id).2]
    simp [State.setPhase]

/-- A swap makes the queue the batch, so every functor stays queued. -/
theorem swap_unmoved {thread : Nat} (dispatching : (s.loops thread).phase = .dispatching []) :
    Unmoved s { s with
      loops := Function.update s.loops thread
        { phase := .running (s.loops thread).pending, pending := [] } } := by
  apply loop_unmoved
  · intro id
    simp [Loop.queued, Phase.batch, dispatching]
  · intro id
    simp [Loop.queued, Phase.batch, dispatching]

/-- Accesses other than by the two functions that are counted move nothing. -/
theorem access_unmoved (thread : Nat) {places : List Place}
    (aside : ∀ id, Place.connection id .handleClose ∉ places ∧
      Place.connection id .connectDestoryed ∉ places) : Unmoved s (s.access thread places) where
  created := rfl
  loopOf := rfl
  connections := rfl
  closed := by
    intro id
    rw [closed, made_access, List.count_eq_zero.mpr (aside id).1]
    rfl
  destroyed := by
    intro id
    rw [destroyed, made_access, List.count_eq_zero.mpr (aside id).2]
    rfl
  removals := fun _ => rfl
  destructions := fun _ => rfl

/-- What the connections hold is no part of the count. -/
theorem objects_unmoved (objects : Nat → TcpConnection) :
    Unmoved s { s with objects := objects } :=
  ⟨rfl, rfl, rfl, fun _ => rfl, fun _ => rfl, fun _ => rfl, fun _ => rfl⟩

/-- What a thread's functions of a connection leave besides their accesses. -/
theorem perform_rest (s : State) (thread id : Nat) (functions : List Confined) (c : TcpConnection)
    (effects : List Effect) :
    let after := s.perform thread id functions c effects
    after.created = s.created ∧ after.loopOf = s.loopOf ∧ after.connections = s.connections ∧
      after.objects = Function.update s.objects id c ∧
      (∀ loop, (after.loops loop).phase = (s.loops loop).phase) ∧
      (∀ other, removals after other = removals s other) ∧
      ∀ other, destructions after other = destructions s other := by
  obtain ⟨connections, objects, phase, queued⟩ := effects_rest
    ({ s with objects := Function.update s.objects id c }.access thread
      ((functions ++ effects.filterMap shown).map (.connection id))) id effects
  have continued := perform_continued s thread id functions c effects
  refine ⟨continued.created, continued.loopOf, connections, objects, phase,
    fun other => queued _ rfl 0, ?_⟩
  intro other
  rw [destructions, continued.loopOf]
  exact queued _ rfl _

/-- Functions of a connection that neither close nor destroy it move nothing. -/
theorem perform_unmoved {thread id : Nat} {functions : List Confined} {c : TcpConnection}
    {effects : List Effect} (quiet : Effect.closeCallback ∉ effects)
    (aside : Confined.handleClose ∉ functions ∧ Confined.connectDestoryed ∉ functions) :
    Unmoved s (s.perform thread id functions c effects) := by
  obtain ⟨created, loopOf, connections, _, _, removals, destructions⟩ :=
    perform_rest s thread id functions c effects
  obtain ⟨unclosed, undestroyed⟩ := shown_quiet quiet
  refine ⟨created, loopOf, connections, ?_, ?_, fun other => congrArg _ (removals other),
    destructions⟩
  · intro other
    rw [closed, made_perform, List.count_append, List.count_eq_zero.mpr aside.1, unclosed]
    simp [closed]
  · intro other
    rw [destroyed, made_perform, List.count_append, List.count_eq_zero.mpr aside.2, undestroyed]
    simp [destroyed]

end Unmoved

/-- A step that moves connections from or to the server's queue only. -/
theorem Carried.moved {after : List Nat} (carried : Carried name hand s)
    (moved : Moved hand after s t)
    (once : ∀ id, closed s id + (t.loops (s.loopOf id)).phase.upcoming id ≤ 1)
    (opened : ∀ id < s.created, destroyed s id = 0 → Open (t.objects id))
    (silent : ∀ id, closed s id ≠ 0 → (t.objects id).channel.isNoneEvent = true)
    (registered : ∀ loop id, t.registered loop id = true → destroyed s id = 0)
    (dispatched : ∀ loop, ∀ id ∈ (t.loops loop).phase.dispatched, destroyed s id = 0) :
    Carried name after t where
  wellNamed := by
    rw [moved.connections]
    exact carried.wellNamed
  account := by
    intro id
    rw [moved.closed, moved.removals, moved.destructions, moved.destroyed]
    exact carried.account id
  once := by
    intro id
    rw [moved.closed, moved.loopOf]
    exact once id
  held := by
    intro id
    rw [moved.connections, moved.created, moved.destructions, moved.destroyed]
    exact carried.held id
  opened := by
    intro id
    rw [moved.created, moved.destroyed]
    exact opened id
  silent := by
    intro id
    rw [moved.closed]
    exact silent id
  registered := by
    intro loop id
    rw [moved.destroyed]
    exact registered loop id
  dispatched := by
    intro loop id
    rw [moved.destroyed]
    exact dispatched loop id

section Replaced

variable {id : Nat} {c : TcpConnection}

/-- One connection changed and is still in a state that `handle_close` asserts. -/
theorem Carried.replaced_opened (carried : Carried name hand s)
    (opened : Open (s.objects id) → Open c) :
    ∀ other < s.created, destroyed s other = 0 → Open (Function.update s.objects id c other) := by
  intro other created undestroyed
  have before := carried.opened other created undestroyed
  by_cases here : other = id
  · subst here
    rw [Function.update_self]
    exact opened before
  · rw [Function.update_of_ne here]
    exact before

/-- One connection changed, and without interest if it is closed. -/
theorem Carried.replaced_silent (carried : Carried name hand s)
    (silent : closed s id ≠ 0 → c.channel.isNoneEvent = true) :
    ∀ other, closed s other ≠ 0 →
      (Function.update s.objects id c other).channel.isNoneEvent = true := by
  intro other wasClosed
  by_cases here : other = id
  · subst here
    rw [Function.update_self]
    exact silent wasClosed
  · rw [Function.update_of_ne here]
    exact carried.silent other wasClosed

end Replaced

section Quiet

/-- A loop that goes on to another phase, with the same functors on the way. -/
theorem loop_carried (carried : Carried name [] s) (loop : Nat) (replaced : Loop)
    (unmoved : Unmoved s { s with loops := Function.update s.loops loop replaced })
    (once : ∀ id, s.loopOf id = loop → closed s id + replaced.phase.upcoming id ≤ 1)
    (dispatched : ∀ id ∈ replaced.phase.dispatched, destroyed s id = 0) :
    Carried name [] { s with loops := Function.update s.loops loop replaced } := by
  refine carried.moved unmoved ?_ carried.opened carried.silent carried.registered ?_
  · intro id
    by_cases here : s.loopOf id = loop
    · simpa [here] using once id here
    · simpa [here] using carried.once id
  · intro other id
    by_cases here : other = loop
    · subst here
      simpa using dispatched id
    · simpa [here] using carried.dispatched other id

/-- A loop that polls or runs functors may do so at any time. -/
theorem calm_carried (carried : Carried name [] s) (loop : Nat) (replaced : Loop)
    (unmoved : Unmoved s { s with loops := Function.update s.loops loop replaced })
    (calm : replaced.phase.dispatched = []) (none : ∀ id, replaced.phase.upcoming id = 0) :
    Carried name [] { s with loops := Function.update s.loops loop replaced } := by
  refine loop_carried carried loop replaced unmoved ?_ (by simp [calm])
  intro id _
  rw [none]
  exact Nat.le_of_add_right_le (carried.once id)

/-- Accesses other than by the two functions that are counted keep the account. -/
theorem access_carried (carried : Carried name [] s) (thread : Nat) {places : List Place}
    (aside : ∀ id, Place.connection id .handleClose ∉ places ∧
      Place.connection id .connectDestoryed ∉ places) :
    Carried name [] (s.access thread places) :=
  carried.moved (access_unmoved thread aside) carried.once carried.opened carried.silent
    carried.registered carried.dispatched

/-- A functor that is neither a removal nor a destruction is queued. -/
theorem queueInLoop_carried (carried : Carried name [] s) (loop : Nat) {functor : Functor}
    (aside : functor.aside = true) : Carried name [] (s.queueInLoop loop functor) := by
  refine carried.moved (queueInLoop_unmoved loop aside) ?_ carried.opened carried.silent
    carried.registered ?_
  · intro id
    rw [queueInLoop_phase]
    exact carried.once id
  · intro other id
    rw [queueInLoop_phase]
    exact carried.dispatched other id

/-- Functions of a connection that neither close nor destroy it. -/
theorem perform_carried (carried : Carried name [] s) {thread id : Nat} {functions : List Confined}
    {c : TcpConnection} {effects : List Effect} (quiet : Effect.closeCallback ∉ effects)
    (aside : Confined.handleClose ∉ functions ∧ Confined.connectDestoryed ∉ functions)
    (alive : destroyed s id = 0) (opened : Open (s.objects id) → Open c)
    (silent : closed s id ≠ 0 → c.channel.isNoneEvent = true) :
    Carried name [] (s.perform thread id functions c effects) := by
  obtain ⟨_, _, _, objects, phase, _⟩ := perform_rest s thread id functions c effects
  refine carried.moved (perform_unmoved quiet aside) ?_ ?_ ?_ ?_ ?_
  · intro other
    rw [phase]
    exact carried.once other
  · rw [objects]
    exact carried.replaced_opened opened
  · rw [objects]
    exact carried.replaced_silent silent
  · intro loop other registered
    rcases effects_registered _ id effects loop other registered with before | here
    · exact carried.registered loop other before
    · exact here ▸ alive
  · intro loop other
    rw [phase]
    exact carried.dispatched loop other

/-- The compare-and-exchange of `shutdown` leaves the channel alone. -/
theorem exchange_channel (c : TcpConnection) : (exchangeState c).channel = c.channel := by
  unfold exchangeState
  split <;> rfl

/-- The compare-and-exchange of `shutdown`. -/
theorem exchanged_carried (carried : Carried name [] s) (id : Nat) : Carried name []
    { s with objects := Function.update s.objects id (exchangeState (s.objects id)) } := by
  refine carried.moved (objects_unmoved _) carried.once
    (carried.replaced_opened (exchangeState_open _).mpr) (carried.replaced_silent ?_)
    carried.registered carried.dispatched
  intro wasClosed
  rw [exchange_channel]
  exact carried.silent id wasClosed

end Quiet

end ReactorNetwork.ThreadConfinement
