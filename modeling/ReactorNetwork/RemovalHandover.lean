import ReactorNetwork.RemovalAccount

/-!
# Removing connections across threads

Between the close of a connection by the thread of its loop, its removal by the server's
thread and its destruction by the thread of its loop all loops go on, and the loop of the
connection may poll many times before the destruction reaches it. `handle_close` leaves
`state_` as it is, so nothing but its channel's empty interest keeps a closed connection from
being closed again.

Each closed connection is in exactly one place on this way: its removal is queued, or its
destruction is, or it is destroyed. The asserts at both ends rest on that. What can break it is
a `send_in_loop` in between: it may enable writing, and the loop then hears of the channel
again.
-/

namespace ReactorNetwork.ThreadConfinement

open TcpConnection ConnectionLife TcpServer

variable {name : List Char} {ioLoops : Nat} {s t : State}

section Moves

/-- One call of `handle_close` more, by whichever callback. -/
theorem closing_counts (s : State) (thread id : Nat) (callback : Callback) (c : TcpConnection)
    (other : Nat) :
    closed (s.perform thread id (called callback) c [.updateChannel, .closeCallback]) other =
        closed s other + [id].count other ∧
      destroyed (s.perform thread id (called callback) c [.updateChannel, .closeCallback]) other =
        destroyed s other := by
  have handleClose : (called callback ++
      [Effect.updateChannel, .closeCallback].filterMap shown).count .handleClose = 1 := by
    cases callback <;> rfl
  have connectDestoryed : (called callback ++
      [Effect.updateChannel, .closeCallback].filterMap shown).count .connectDestoryed = 0 := by
    cases callback <;> rfl
  constructor
  · rw [closed, made_perform, handleClose, List.count_singleton]
    simp only [beq_iff_eq, eq_comm (a := id)]
    rfl
  · rw [destroyed, made_perform, connectDestoryed, ite_self]
    rfl

/-- A thread closes a connection for the first and last time. -/
theorem closing_carried (carried : Carried name [] s) {thread id : Nat} {callback : Callback}
    {c : TcpConnection} (alive : destroyed s id = 0)
    (last : closed s id + (s.loops (s.loopOf id)).phase.upcoming id = 0)
    (opened : Open (s.objects id) → Open c) (silent : c.channel.isNoneEvent = true) :
    Carried name [id]
      (s.perform thread id (called callback) c [.updateChannel, .closeCallback]) := by
  obtain ⟨created, loopOf, connections, objects, phase, removals, destructions⟩ :=
    perform_rest s thread id (called callback) c [.updateChannel, .closeCallback]
  have counts := closing_counts s thread id callback c
  constructor
  case wellNamed =>
    rw [connections]
    exact carried.wellNamed
  case account =>
    intro other
    rw [(counts other).1, (counts other).2, removals, destructions]
    have account := carried.account other
    rw [List.count_nil] at account
    omega
  case once =>
    intro other
    rw [(counts other).1, loopOf, phase, List.count_singleton]
    have once := carried.once other
    by_cases here : other = id
    · subst here
      rw [if_pos (beq_self_eq_true other)]
      omega
    · rw [if_neg (by simpa using Ne.symm here)]
      exact once
  case held =>
    intro other
    rw [connections, created, destructions, (counts other).2]
    exact carried.held other
  case opened =>
    intro other
    rw [created, (counts other).2, objects]
    exact carried.replaced_opened opened other
  case silent =>
    intro other wasClosed
    rw [objects]
    by_cases here : other = id
    · subst here
      rw [Function.update_self]
      exact silent
    · rw [Function.update_of_ne here]
      rw [(counts other).1, List.count_singleton, if_neg (by simpa using Ne.symm here)] at wasClosed
      exact carried.silent other wasClosed
  case registered =>
    intro loop other registered
    rw [(counts other).2]
    rcases effects_registered _ id _ loop other registered with before | here
    · exact carried.registered loop other before
    · exact here ▸ alive
  case dispatched =>
    intro loop other
    rw [phase, (counts other).2]
    exact carried.dispatched loop other

/-- The server's thread takes a removal from its queue. -/
theorem taken_carried (carried : Carried name [] s) {id : Nat} {rest : List Functor}
    (running : (s.loops 0).phase = .running (.removeConnectionInLoop id :: rest)) :
    Carried name [id] (s.setPhase 0 (.running rest)) := by
  have taken : Moved [] [id] s (s.setPhase 0 (.running rest)) := by
    refine ⟨rfl, rfl, rfl, fun _ => rfl, fun _ => rfl, fun other => ?_, fun other => ?_⟩
    · rw [popped_removals running, List.count_singleton, List.count_nil]
      simp [Functor.removes, Nat.add_comm]
    · rw [popped_destructions running]
      simp [Functor.destroys]
  refine carried.moved taken (fun other => ?_) carried.opened carried.silent carried.registered
    (fun loop other => ?_)
  · rw [(popped_phase running _).2]
    exact carried.once other
  · rw [(popped_phase running loop).1]
    exact carried.dispatched loop other

/-- A connection in a thread's hand is still in the map. -/
theorem in_hand {id : Nat} (carried : Carried name [id] s) (created : id < s.created) :
    s.connections.lookup (connName name id) = some id := by
  have account := carried.account id
  have once := carried.once id
  rw [List.count_singleton_self] at account
  exact (carried.held id).mpr ⟨created, by omega⟩

/-- The thread of the connection queues the removal to the server's loop. -/
theorem passed_carried {id : Nat} (carried : Carried name [id] s) :
    Carried name [] (s.queueInLoop 0 (.removeConnectionInLoop id)) := by
  have passed : Moved [id] [] s (s.queueInLoop 0 (.removeConnectionInLoop id)) := by
    refine ⟨rfl, rfl, rfl, fun _ => rfl, fun _ => rfl, fun other => ?_, fun other => ?_⟩
    · rw [removals_queueInLoop, List.count_singleton, List.count_nil]
      simp [Functor.removes, Nat.add_comm]
    · rw [destructions_queueInLoop]
      simp [Functor.destroys]
  refine carried.moved passed (fun other => ?_) carried.opened carried.silent carried.registered
    (fun loop other => ?_)
  · rw [queueInLoop_phase]
    exact carried.once other
  · rw [queueInLoop_phase]
    exact carried.dispatched loop other

/-- The map loses the connection, and its loop's queue gains the destruction. -/
theorem removeConnectionInLoop_changes {thread id : Nat}
    (taken : removeConnectionInLoop name s thread id = .ok t) :
    t.connections = s.connections.erase (connName name id) ∧ t.created = s.created ∧
      t.loopOf = s.loopOf ∧ t.objects = s.objects ∧ t.registered = s.registered ∧
      (∀ loop, (t.loops loop).phase = (s.loops loop).phase) ∧
      ∀ other, closed t other = closed s other ∧ destroyed t other = destroyed s other ∧
        removals t other = removals s other ∧
        destructions t other = [id].count other + destructions s other := by
  obtain ⟨connections, erased, same⟩ := (bind_ok _ _ _).mp taken
  obtain ⟨_, rfl⟩ := (removeConnectionInLoop_ok _ _ _ _).mp erased
  obtain rfl := (pure_ok _ _).mp same
  have unread : ∀ rest : State, Unmoved rest (rest.access thread [.connections]) :=
    fun _ => access_unmoved thread (by simp)
  refine ⟨rfl, rfl, rfl, rfl, rfl, queueInLoop_phase _ _ _, ?_⟩
  intro other
  refine ⟨(unread _).closed other, (unread _).destroyed other, ?_, ?_⟩
  · rw [removals_queueInLoop]
    simp only [Functor.removes, Bool.false_eq_true, and_false, if_false, Nat.add_zero]
    rfl
  · rw [destructions_queueInLoop, (unread _).destructions, List.count_singleton, Nat.add_comm]
    by_cases here : id = other
    · subst here
      simp [Functor.destroys, State.access, destructions]
    · simp [Functor.destroys, here, destructions]

/-- The server's thread erases the connection and queues its destruction. -/
theorem removed_carried {thread id : Nat} (carried : Carried name [id] s)
    (taken : removeConnectionInLoop name s thread id = .ok t) : Carried name [] t := by
  obtain ⟨connections, created, loopOf, objects, registered, phase, counts⟩ :=
    removeConnectionInLoop_changes taken
  constructor
  case wellNamed =>
    rw [connections]
    exact erase_wellNamed carried.wellNamed id
  case account =>
    intro other
    obtain ⟨wasClosed, wasDestroyed, queued, more⟩ := counts other
    have account := carried.account other
    rw [List.count_nil]
    omega
  case once =>
    intro other
    rw [(counts other).1, loopOf, phase]
    exact carried.once other
  case held =>
    intro other
    obtain ⟨_, wasDestroyed, _, more⟩ := counts other
    rw [connections, created, wasDestroyed, more, lookup_erased, carried.held other,
      List.count_singleton]
    by_cases here : id = other
    · subst here
      simp
    · simp [here, Ne.symm here]
  case opened =>
    intro other
    rw [created, (counts other).2.1, objects]
    exact carried.opened other
  case silent =>
    intro other
    rw [(counts other).1, objects]
    exact carried.silent other
  case registered =>
    intro loop other
    rw [registered, (counts other).2.1]
    exact carried.registered loop other
  case dispatched =>
    intro loop other
    rw [phase, (counts other).2.1]
    exact carried.dispatched loop other

/-- One destruction less in the queue, and one call of `connect_destoryed` more. -/
theorem destroyed_counts {thread id : Nat} {rest : List Functor} (c : TcpConnection)
    (running : (s.loops thread).phase = .running (.connectDestoryed id :: rest))
    (home : s.loopOf id = thread) (other : Nat) :
    let after := (s.setPhase thread (.running rest)).perform thread id [.connectDestoryed] c
      [.updateChannel, .connectCallback, .removeChannel]
    closed after other = closed s other ∧ removals after other = removals s other ∧
      destroyed after other = destroyed s other + [id].count other ∧
      destructions s other = destructions after other + [id].count other := by
  obtain ⟨_, _, _, _, _, queued, fewer⟩ :=
    perform_rest (s.setPhase thread (.running rest)) thread id [.connectDestoryed] c
      [.updateChannel, .connectCallback, .removeChannel]
  have unclosed : ([Confined.connectDestoryed] ++ [Effect.updateChannel, .connectCallback,
      .removeChannel].filterMap shown).count .handleClose = 0 := rfl
  have once : ([Confined.connectDestoryed] ++ [Effect.updateChannel, .connectCallback,
      .removeChannel].filterMap shown).count .connectDestoryed = 1 := rfl
  refine ⟨?_, ?_, ?_, ?_⟩
  · rw [closed, made_perform, unclosed, ite_self]
    rfl
  · rw [queued, popped_removals running]
    simp [Functor.removes]
  · rw [destroyed, made_perform, once, List.count_singleton]
    simp only [beq_iff_eq, eq_comm (a := id)]
    rfl
  · rw [fewer, popped_destructions running, List.count_singleton]
    by_cases here : id = other
    · subst here
      simp [Functor.destroys, home]
    · simp [Functor.destroys, here]

/-- The thread of the connection's loop runs its destruction.

Proof: the destruction was queued, so the connection is closed and was not destroyed; and
its loop, which runs functors, dispatches nothing. -/
theorem destroyed_carried (homed : Homed ioLoops s) (carried : Carried name [] s)
    {thread id : Nat} {rest : List Functor} {c : TcpConnection} {effects : List Effect}
    (running : (s.loops thread).phase = .running (.connectDestoryed id :: rest))
    (returned : (s.objects id).connectDestoryed = .ok (c, effects)) :
    Carried name []
      ((s.setPhase thread (.running rest)).perform thread id [.connectDestoryed] c effects) := by
  obtain ⟨_, same⟩ := (connectDestoryed_ok _ _).mp returned
  obtain ⟨changed, rfl⟩ := Prod.mk.inj same
  have silent : c.channel.isNoneEvent = true := changed ▸ rfl
  have home : s.loopOf id = thread := by
    have functors := homed.functors thread (.connectDestoryed id)
    rw [running] at functors
    exact (functors (List.mem_append_left _ List.mem_cons_self)).2
  obtain ⟨created, loopOf, connections, objects, phase, _⟩ :=
    perform_rest (s.setPhase thread (.running rest)) thread id [.connectDestoryed] c
      [.updateChannel, .connectCallback, .removeChannel]
  have counts := destroyed_counts c running home
  generalize left : (s.setPhase thread (.running rest)).perform thread id [.connectDestoryed] c
    [.updateChannel, .connectCallback, .removeChannel] = t at *
  constructor
  case wellNamed =>
    rw [connections]
    exact carried.wellNamed
  case account =>
    intro other
    obtain ⟨wasClosed, removal, gone, queue⟩ := counts other
    have account := carried.account other
    omega
  case once =>
    intro other
    rw [(counts other).1, loopOf, phase, (popped_phase running _).2]
    exact carried.once other
  case held =>
    intro other
    obtain ⟨_, _, gone, queue⟩ := counts other
    have sum : destructions t other + destroyed t other =
        destructions s other + destroyed s other := by omega
    rw [connections, created, sum]
    exact carried.held other
  case opened =>
    intro other inside undestroyed
    obtain ⟨_, _, gone, _⟩ := counts other
    rw [List.count_singleton] at gone
    by_cases here : id = other
    · rw [if_pos (by simpa using here)] at gone
      omega
    · rw [objects, Function.update_of_ne (Ne.symm here)]
      rw [created] at inside
      exact carried.opened other inside (by omega)
  case silent =>
    intro other wasClosed
    rw [objects]
    exact carried.replaced_silent (fun _ => silent) other ((counts other).1 ▸ wasClosed)
  case registered =>
    intro loop other registered
    obtain ⟨_, _, gone, _⟩ := counts other
    have before := effects_registered _ id _ loop other (left ▸ registered)
    by_cases here : id = other
    · subst here
      rw [← left] at registered
      obtain ⟨elsewhere, known⟩ := destroyed_registered _ _ _ _ _ _ registered
      exact absurd (homed.registered loop id known).2.symm elsewhere
    · rw [List.count_singleton, if_neg (by simpa using here)] at gone
      rw [gone]
      exact carried.registered loop other (before.resolve_right (Ne.symm here))
  case dispatched =>
    intro loop other member
    obtain ⟨_, _, gone, _⟩ := counts other
    rw [phase, (popped_phase running loop).1] at member
    have alive := carried.dispatched loop other member
    by_cases here : id = other
    · -- its loop runs functors
      subst here
      have inLoop := (homed.dispatched loop id member).2
      rw [← inLoop, home, running] at member
      cases member
    · rw [List.count_singleton, if_neg (by simpa using here)] at gone
      rw [gone]
      exact alive

/-- A connection that was not created has left no trace. -/
theorem uncreated_counts (homed : Homed ioLoops s) {id : Nat} (uncreated : s.created ≤ id) :
    closed s id = 0 ∧ destroyed s id = 0 ∧
      (∀ loop, (s.loops loop).queued.countP (Functor.destroys id) = 0) ∧
      ∀ loop, (s.loops loop).phase.upcoming id = 0 := by
  have unmade : ∀ function, made s (.connection id function) = 0 := by
    intro function
    refine List.countP_eq_zero.mpr ?_
    intro access member same
    have known := (homed.accesses access member).1
    rw [of_decide_eq_true same] at known
    exact absurd known (Nat.not_lt.mpr uncreated)
  refine ⟨unmade _, unmade _, ?_, ?_⟩
  · refine fun loop => List.countP_eq_zero.mpr fun functor member counted => ?_
    have created := (homed.functors loop functor member).1
    cases functor <;> simp [Functor.destroys] at counted
    exact absurd (counted ▸ created) (Nat.not_lt.mpr uncreated)
  · intro loop
    have absent : id ∉ (s.loops loop).phase.dispatched := fun member =>
      absurd (homed.dispatched loop id member).1 (Nat.not_lt.mpr uncreated)
    cases phase : (s.loops loop).phase with
    | polling | running => rfl
    | dispatching active =>
      rw [phase] at absent
      exact List.count_eq_zero.mpr absent
    | handling current callbacks active =>
      rw [phase, Phase.dispatched, List.mem_cons, not_or] at absent
      simp only [Phase.upcoming, if_neg (Ne.symm absent.1), Nat.zero_add]
      exact List.count_eq_zero.mpr absent.2

/-- A connection that is entered begins its way, once it is in an established state. -/
theorem entered_carried (homed : Homed ioLoops s) (carried : Carried name [] s)
    {c : TcpConnection} (isOpen : Open c) : Carried name [] { enter name ioLoops s with
      objects := Function.update s.objects s.created c } := by
  obtain ⟨newClosed, newDestroyed, newDestructions, newUpcoming⟩ :=
    uncreated_counts homed (Nat.le_refl s.created)
  have unread : ∀ rest : State, Unmoved rest (rest.access 0 [.connections]) :=
    fun _ => access_unmoved 0 (by simp)
  have wasClosed : ∀ id, closed (enter name ioLoops s) id = closed s id :=
    fun id => (unread _).closed id
  have wasDestroyed : ∀ id, destroyed (enter name ioLoops s) id = destroyed s id :=
    fun id => (unread _).destroyed id
  have queued : ∀ id, destructions (enter name ioLoops s) id = destructions s id := by
    intro id
    by_cases here : id = s.created
    · subst here
      exact (newDestructions _).trans (newDestructions _).symm
    · simp [destructions, enter, State.access, here]
  constructor
  case wellNamed => exact insert_wellNamed carried.wellNamed s.created
  case account =>
    intro id
    have account := carried.account id
    rw [← wasClosed, ← wasDestroyed, ← queued] at account
    exact account
  case once =>
    intro id
    change closed (enter name ioLoops s) id +
      (s.loops ((enter name ioLoops s).loopOf id)).phase.upcoming id ≤ 1
    rw [wasClosed]
    by_cases here : id = s.created
    · subst here
      rw [newClosed, newUpcoming]
      exact Nat.zero_le 1
    · have same : (enter name ioLoops s).loopOf id = s.loopOf id := Function.update_of_ne here ..
      rw [same]
      exact carried.once id
  case held =>
    intro id
    have before := carried.held id
    rw [← wasDestroyed, ← queued] at before
    refine (lookup_entered name s.connections s.created id).trans ?_
    rw [before]
    by_cases here : id = s.created
    · subst here
      have none : destructions (enter name ioLoops s) s.created +
          destroyed (enter name ioLoops s) s.created = 0 := by
        rw [wasDestroyed, newDestroyed]
        exact newDestructions _
      exact iff_of_true (Or.inl rfl) ⟨Nat.lt_succ_self _, none⟩
    · have inside : id < (enter name ioLoops s).created ↔ id < s.created := by
        simp only [enter, State.access]
        omega
      exact (or_iff_right here).trans (and_congr_left fun _ => inside.symm)
  case opened =>
    intro id created undestroyed
    by_cases here : id = s.created
    · subst here
      simpa using isOpen
    · simpa [here] using carried.opened id (by simp [enter, State.access] at created; omega)
        ((wasDestroyed id).symm.trans undestroyed)
  case silent =>
    intro id unclosed
    have before : closed s id ≠ 0 := fun none => unclosed ((wasClosed id).trans none)
    by_cases here : id = s.created
    · exact absurd (here ▸ newClosed) before
    · simpa [here] using carried.silent id before
  case registered =>
    exact fun loop id known => (wasDestroyed id).trans (carried.registered loop id known)
  case dispatched =>
    exact fun loop id member => (wasDestroyed id).trans (carried.dispatched loop id member)

/-- An accepted connection enters the map at the beginning of its way. -/
theorem accept_carried (homed : Homed ioLoops s) (carried : Carried name [] s) {sockFd : Int}
    {writeCompleteCallback : Bool} {c : TcpConnection} {effects : List Effect}
    (established : (create sockFd writeCompleteCallback).connectEstablished = .ok (c, effects)) :
    Carried name []
      ((enter name ioLoops s).perform 0 s.created [.connectEstablished] c effects) := by
  obtain ⟨_, same⟩ := (connectEstablished_ok _ _).mp established
  obtain ⟨changed, rfl⟩ := Prod.mk.inj same
  have isOpen : Open c := changed ▸ Or.inl rfl
  obtain ⟨newClosed, newDestroyed, _⟩ := uncreated_counts homed (Nat.le_refl s.created)
  have unread : ∀ rest : State, Unmoved rest (rest.access 0 [.connections]) :=
    fun _ => access_unmoved 0 (by simp)
  have performed : Carried name [] (State.perform { enter name ioLoops s with
      objects := Function.update s.objects s.created c } 0 s.created [.connectEstablished] c
        [.updateChannel, .connectCallback]) :=
    perform_carried (entered_carried homed carried isOpen) (by decide) (by decide)
      (((unread _).destroyed _).trans newDestroyed) (fun _ => isOpen)
      (fun wasClosed => absurd (((unread _).closed _).trans newClosed) wasClosed)
  simpa [State.perform, enter, State.access] using performed

end Moves

section Steps

/-- A callback less leaves no more closes to come. -/
theorem upcoming_tail (id : Nat) (callback : Callback) (callbacks : List Callback)
    (active : List Nat) (other : Nat) :
    (Phase.handling id callbacks active).upcoming other ≤
      (Phase.handling id (callback :: callbacks) active).upcoming other := by
  have fewer : closers callbacks ≤ closers (callback :: callbacks) :=
    (List.sublist_cons_self callback callbacks).countP_le
  simp only [Phase.upcoming]
  split
  · omega
  · exact Nat.le_refl _

/-- What a loop still has to dispatch, of a phase it goes on from. -/
theorem phase_carried (carried : Carried name [] s) {thread : Nat} {phase : Phase}
    (functors : phase.batch = (s.loops thread).phase.batch)
    (upcoming : ∀ id, s.loopOf id = thread →
      phase.upcoming id ≤ (s.loops thread).phase.upcoming id ∨
        closed s id + phase.upcoming id ≤ 1)
    (dispatched : ∀ id ∈ phase.dispatched, destroyed s id = 0) :
    Carried name [] (s.setPhase thread phase) := by
  refine loop_carried carried thread _ (setPhase_unmoved thread _ functors) ?_ dispatched
  intro id there
  rcases upcoming id there with fewer | once
  · have before := carried.once id
    rw [there] at before
    exact Nat.le_trans (Nat.add_le_add_left fewer _) before
  · exact once

/-- A functor runs on the thread of its loop. -/
theorem runFunctor_carried (homed : Homed ioLoops s) (carried : Carried name [] s)
    {thread : Nat} {functor : Functor} {rest : List Functor} {result : WriteResult}
    (running : (s.loops thread).phase = .running (functor :: rest))
    (inTime : ∀ id ∈ (s.loops thread).phase.nextSend, closed s id = 0)
    (taken : runFunctor name (s.setPhase thread (.running rest)) thread result functor = .ok t) :
    Carried name [] t := by
  have home : functor.home s.loopOf = thread := by
    have functors := homed.functors thread functor
    rw [running] at functors
    exact (functors (List.mem_append_left _ List.mem_cons_self)).2
  have popped : functor.aside = true → Carried name [] (s.setPhase thread (.running rest)) :=
    fun aside => calm_carried carried thread _ (popped_unmoved running aside) rfl fun _ => rfl
  cases functor with
  | removeConnectionInLoop id =>
    obtain rfl : 0 = thread := home
    exact removed_carried (taken_carried carried running) taken
  | connectDestoryed id =>
    obtain ⟨⟨c, effects⟩, returned, same⟩ := (bind_ok _ _ _).mp taken
    obtain rfl := (pure_ok _ _).mp same
    exact destroyed_carried homed carried running ((asserted_ok _ _ _).mp returned)
  | sendInLoop id message =>
    obtain ⟨⟨c, effects⟩, returned, same⟩ := (bind_ok _ _ _).mp taken
    obtain rfl := (pure_ok _ _).mp same
    obtain ⟨state, sending⟩ := sendInLoop_state ((lift_ok _ _).mp returned)
    have unclosed : closed s id = 0 := inTime id (by rw [running]; rfl)
    have account := carried.account id
    refine perform_carried (popped rfl) (fun member => by cases sending _ member) (by decide) ?_
      ?_ (fun wasClosed => absurd unclosed wasClosed)
    · change destroyed s id = 0
      omega
    · intro isOpen
      unfold Open
      rw [state]
      exact isOpen
  | shutdownInLoop id =>
    obtain rfl := (pure_ok _ _).mp taken
    exact access_carried (popped rfl) thread (by simp)
  | writeComplete id =>
    obtain rfl := (pure_ok _ _).mp taken
    exact popped rfl

/-- A callback that closes, and passes the connection on or removes it at once. -/
theorem closed_carried (homed : Homed ioLoops s) (carried : Carried name [] s) {thread id : Nat}
    {callback : Callback} {callbacks : List Callback} {active : List Nat} {read : ReadvResult}
    {write : WriteResult} {c : TcpConnection} {effects : List Effect}
    (handling : (s.loops thread).phase = .handling id (callback :: callbacks) active)
    (handled : handle (s.objects id) callback read write = .ok (c, effects))
    (invoked : Effect.closeCallback ∈ effects)
    (taken : removeConnection name ((s.perform thread id (called callback) c effects).setPhase
      thread (.handling id callbacks active)) thread id = .ok t) : Carried name [] t := by
  obtain ⟨closer, isOpen, silent, rfl⟩ := handle_closing handled invoked
  obtain ⟨state, _⟩ := handle_state handled
  have inLoop := homed.dispatched thread
  have alive := carried.dispatched thread
  rw [handling] at inLoop alive
  have home := (inLoop id List.mem_cons_self).2
  -- The callback is taken off first; its close fills the place it leaves.
  have off : closers (callback :: callbacks) = closers callbacks + 1 := by
    simp only [closers, List.countP_cons, closer, if_true]
  have next : Carried name [] (s.setPhase thread (.handling id callbacks active)) := by
    refine phase_carried carried (by rw [handling]; rfl) (fun other _ => Or.inl ?_) alive
    rw [handling]
    exact upcoming_tail id callback callbacks active other
  have carriedOn : Carried name [id] ((s.setPhase thread (.handling id callbacks active)).perform
      thread id (called callback) c [.updateChannel, .closeCallback]) := by
    refine closing_carried next (alive id List.mem_cons_self) ?_ (fun _ => ?_) silent
    · have before := carried.once id
      rw [home, handling] at before
      simp only [Phase.upcoming, if_true, off] at before
      change closed s id + _ = 0
      simp only [State.setPhase, home, Function.update_self, Phase.upcoming, if_true]
      omega
    · unfold Open
      rw [state]
      exact isOpen
  change removeConnection name ((s.setPhase thread (.handling id callbacks active)).perform
    thread id (called callback) c [.updateChannel, .closeCallback]) thread id = .ok t at taken
  unfold removeConnection at taken
  split at taken
  · exact removed_carried carriedOn taken
  · obtain rfl := (pure_ok _ _).mp taken
    exact passed_carried carriedOn

/-- A callback that does not close. -/
theorem handled_carried (carried : Carried name [] s) {thread id : Nat}
    {callback : Callback} {callbacks : List Callback} {active : List Nat} {read : ReadvResult}
    {write : WriteResult} {c : TcpConnection} {effects : List Effect}
    (handling : (s.loops thread).phase = .handling id (callback :: callbacks) active)
    (handled : handle (s.objects id) callback read write = .ok (c, effects))
    (uninvoked : Effect.closeCallback ∉ effects) :
    Carried name [] ((s.perform thread id (called callback) c effects).setPhase thread
      (.handling id callbacks active)) := by
  obtain ⟨state, _⟩ := handle_state handled
  obtain ⟨_, loopOf, _, _, phase, _⟩ := perform_rest s thread id (called callback) c effects
  have alive := carried.dispatched thread
  rw [handling] at alive
  have aside : Confined.handleClose ∉ called callback ∧
      Confined.connectDestoryed ∉ called callback := by
    cases callback <;> decide
  have performed : Carried name [] (s.perform thread id (called callback) c effects) := by
    refine perform_carried carried uninvoked aside (alive id List.mem_cons_self) (fun isOpen => ?_)
      (fun wasClosed => handle_silent handled (carried.silent id wasClosed))
    unfold Open
    rw [state]
    exact isOpen
  refine loop_carried performed thread _ (setPhase_unmoved thread _ ?_) ?_ ?_
  · rw [phase, handling]
    rfl
  · intro other there
    have before := performed.once other
    rw [there, phase, handling] at before
    exact Nat.le_trans
      (Nat.add_le_add_left (upcoming_tail id callback callbacks active other) _) before
  · intro other member
    refine performed.dispatched thread other ?_
    rw [phase, handling]
    exact member

/-- Every step that is not disturbed carries each closed connection on. -/
theorem step_carried (label : Label) (homed : Homed ioLoops s) (carried : Carried name [] s)
    (allowed : undisturbed s label) (taken : step name ioLoops s label = .ok t) :
    Carried name [] t := by
  cases stepped taken with
  | accept _ _ _ _ _ _ _ established => exact accept_carried homed carried established
  | poll thread active polling distinct reported =>
    refine phase_carried carried (by rw [polling]; rfl) (fun id _ => Or.inr ?_)
      (fun id member => carried.registered thread id (reported id member))
    by_cases member : id ∈ active
    · have unclosed : closed s id = 0 := by
        by_contra wasClosed
        exact absurd (carried.silent id wasClosed) (by simp [allowed id member])
      rw [unclosed, Nat.zero_add]
      exact List.nodup_iff_count_le_one.mp distinct id
    · simp only [Phase.upcoming, List.count_eq_zero.mpr member, Nat.add_zero]
      exact Nat.le_of_add_right_le (carried.once id)
  | dispatch thread revents id active dispatching =>
    have alive := carried.dispatched thread
    rw [dispatching] at alive
    refine phase_carried carried (by rw [dispatching]; rfl) (fun other _ => Or.inl ?_) alive
    rw [dispatching]
    simp only [Phase.upcoming, List.count_cons, beq_iff_eq]
    have plain := closers_handleEvent allowed
    split <;> omega
  | closing _ _ _ _ _ _ _ _ _ _ handling handled invoked removed =>
    exact closed_carried homed carried handling handled invoked removed
  | callback _ _ _ _ _ _ _ _ _ handling handled uninvoked =>
    exact handled_carried carried handling handled uninvoked
  | finishEvent thread id active handling =>
    have alive := carried.dispatched thread
    rw [handling] at alive
    refine phase_carried carried (by rw [handling]; rfl) (fun other _ => Or.inl ?_)
      (fun other member => alive other (List.mem_cons_of_mem _ member))
    rw [handling]
    exact Nat.le_add_left _ _
  | swap thread dispatching =>
    exact calm_carried carried thread _ (swap_unmoved dispatching) rfl fun _ => rfl
  | runFunctor _ _ _ _ _ running ran => exact runFunctor_carried homed carried running allowed ran
  | finishFunctors thread running =>
    exact phase_carried carried (by rw [running]; rfl) (fun _ _ => Or.inl (Nat.zero_le _))
      (by simp [Phase.dispatched])
  | sent thread id message result c effects created inLoop connected written =>
    obtain ⟨state, sending⟩ := sendInLoop_state written
    have unclosed : closed s id = 0 := allowed inLoop
    have account := carried.account id
    refine perform_carried carried (fun member => by cases sending _ member) (by decide)
      (by omega) ?_ (fun wasClosed => absurd unclosed wasClosed)
    unfold Open
    rw [state]
    exact fun isOpen => isOpen
  | unsent | unshut => exact carried
  | sendQueued => exact queueInLoop_carried carried _ rfl
  | shutdown thread id => exact access_carried (exchanged_carried carried id) thread (by simp)
  | shutdownQueued _ id => exact queueInLoop_carried (exchanged_carried carried id) _ rfl

end Steps

section Asserts

/-- The asserts of `remove_connection_in_loop`, of `connect_destoryed` and of the close
callback's `handle_close`. -/
def Asserted (failure : Failure) : Prop :=
  failure = .removal ∨ failure = .destroyedState ∨ failure = .closeState

/-- No failure of a lifted computation is one of them. -/
theorem lift_unasserted {α : Type} (outcome : Outcome α) {failure : Failure}
    (asserted : Asserted failure) : lift outcome ≠ .error failure := by
  rcases asserted with rfl | rfl | rfl <;> cases outcome <;> simp [lift]

/-- Only a callback and a functor make one of the asserts. -/
theorem failed_from (label : Label) {failure : Failure} (asserted : Asserted failure)
    (failed : step name ioLoops s label = .error failure) :
    (∃ thread id callback callbacks active read write,
      (s.loops thread).phase = .handling id (callback :: callbacks) active ∧
        (handle (s.objects id) callback read write = .error failure ∨
          ∃ c effects, handle (s.objects id) callback read write = .ok (c, effects) ∧
            Effect.closeCallback ∈ effects ∧ removeConnection name
              ((s.perform thread id (called callback) c effects).setPhase thread
                (.handling id callbacks active)) thread id = .error failure)) ∨
      ∃ thread functor rest result, (s.loops thread).phase = .running (functor :: rest) ∧
        runFunctor name (s.setPhase thread (.running rest)) thread result functor =
          .error failure := by
  have enabled : failure ≠ .notEnabled := by
    rcases asserted with rfl | rfl | rfl <;> simp
  have room : failure ≠ .connIdOverflow := by
    rcases asserted with rfl | rfl | rfl <;> simp
  cases label
  -- These steps are refused or return.
  case poll | dispatch | finishEvent | swap | finishFunctors | shutdown =>
    simp only [step] at failed
    repeat' split at failed
    all_goals cases failed
    all_goals exact absurd rfl enabled
  case accept sockFd writeCompleteCallback =>
    simp only [step] at failed
    split at failed
    case h_2 => exact absurd (Except.error.inj failed).symm enabled
    case h_1 =>
      split at failed
      · rcases (bind_failed _ _ _).mp failed with inside | ⟨result, _, after⟩
        · exact absurd inside (lift_unasserted _ asserted)
        · cases after
      · exact absurd (Except.error.inj failed).symm room
  case send thread id message result =>
    simp only [step] at failed
    split at failed
    case isFalse => exact absurd (Except.error.inj failed).symm enabled
    case isTrue =>
      split at failed
      · split at failed
        · rcases (bind_failed _ _ _).mp failed with inside | ⟨result, _, after⟩
          · exact absurd inside (lift_unasserted _ asserted)
          · cases after
        · cases failed
      · cases failed
  case callback thread read write =>
    simp only [step] at failed
    split at failed
    case h_2 => exact absurd (Except.error.inj failed).symm enabled
    case h_1 id callback callbacks active handling =>
      left
      refine ⟨thread, id, callback, callbacks, active, read, write, handling, ?_⟩
      rcases (bind_failed _ _ _).mp failed with inside | ⟨⟨c, effects⟩, handled, after⟩
      · exact Or.inl inside
      · simp only at after
        split at after
        · rename_i invoked
          exact Or.inr ⟨c, effects, handled, invoked, after⟩
        · cases after
  case runFunctor thread result =>
    simp only [step] at failed
    split at failed
    case h_2 => exact absurd (Except.error.inj failed).symm enabled
    case h_1 functor rest running => exact Or.inr ⟨thread, functor, rest, result, running, failed⟩

/-- The removal of a connection in the map does not fail. -/
theorem removeConnectionInLoop_failed {thread id : Nat} {failure : Failure}
    (held : s.connections.lookup (connName name id) = some id) :
    removeConnectionInLoop name s thread id ≠ .error failure := by
  intro failed
  rcases (bind_failed _ _ _).mp failed with inside | ⟨connections, _, after⟩
  · rw [removeConnectionInLoop_held name s.connections id held] at inside
    cases inside
  · cases after

/-- On their way the connections pass every assert. -/
theorem asserts_pass (homed : Homed ioLoops s) (carried : Carried name [] s) (label : Label)
    {failure : Failure} (asserted : Asserted failure) :
    step name ioLoops s label ≠ .error failure := by
  intro failed
  rcases failed_from label asserted failed with
    ⟨thread, id, callback, callbacks, active, read, write, handling, failed⟩ |
      ⟨thread, functor, rest, result, running, failed⟩
  · have inLoop := homed.dispatched thread
    have alive := carried.dispatched thread
    rw [handling] at inLoop alive
    obtain ⟨created, home⟩ := inLoop id List.mem_cons_self
    have isOpen := carried.opened id created (alive id List.mem_cons_self)
    rcases failed with inside | ⟨c, effects, handled, invoked, removing⟩
    · cases callback with
      | close =>
        rw [handle, (handleClose_ok _ _).mpr ⟨isOpen, rfl⟩] at inside
        cases inside
      | error => cases inside
      | read | write => exact lift_unasserted _ asserted inside
    · obtain ⟨closer, _, _, rfl⟩ := handle_closing handled invoked
      unfold removeConnection at removing
      split at removing
      · refine removeConnectionInLoop_failed ?_ removing
        have account := carried.account id
        have once := carried.once id
        rw [home, handling] at once
        simp only [Phase.upcoming, if_true, closers, List.countP_cons, closer] at once
        exact (carried.held id).mpr ⟨created, by omega⟩
      · cases removing
  · have functors := homed.functors thread functor
    rw [running] at functors
    obtain ⟨created, home⟩ := functors (List.mem_append_left _ List.mem_cons_self)
    cases functor with
    | removeConnectionInLoop id =>
      obtain rfl : 0 = thread := home
      exact removeConnectionInLoop_failed
        (in_hand (taken_carried carried running) created) failed
    | connectDestoryed id =>
      rcases (bind_failed _ _ _).mp failed with inside | ⟨result, _, after⟩
      · have queued := popped_destructions running id
        have homeId : s.loopOf id = thread := home
        rw [if_pos ⟨homeId, by simp [Functor.destroys]⟩] at queued
        have account := carried.account id
        have once := carried.once id
        have isOpen := carried.opened id created (by omega)
        change ConnectionLife.asserted .destroyedState (s.objects id).connectDestoryed = _ at inside
        rw [(connectDestoryed_ok _ _).mpr ⟨isOpen, rfl⟩] at inside
        cases inside
      · cases after
    | sendInLoop id message =>
      rcases (bind_failed _ _ _).mp failed with inside | ⟨result, _, after⟩
      · exact lift_unasserted _ asserted inside
      · cases after
    | shutdownInLoop | writeComplete => cases failed

end Asserts

/-- What holds of a server's connections in every state of an undisturbed run. -/
structure HandedOver (name : List Char) (ioLoops : Nat) (s : State) : Prop where
  once : ∀ id, closed s id ≤ 1
  account : ∀ id, closed s id = removals s id + destructions s id + destroyed s id
  contents : ∀ key id, s.connections.lookup key = some id ↔
    key = connName name id ∧ id < s.created ∧ closed s id = removals s id
  kept : ∀ loop id, s.registered loop id = true ∨ id ∈ (s.loops loop).phase.dispatched →
    loop = s.loopOf id ∧ Open (s.objects id) ∧
      (s.connections.lookup (connName name id) = some id ∨ destructions s id = 1)
  passes : ∀ label failure, Asserted failure → step name ioLoops s label ≠ .error failure

/-- In a state that carries every connection the handover is in order. -/
theorem handedOver_of_carried (homed : Homed ioLoops s) (carried : Carried name [] s) :
    HandedOver name ioLoops s where
  once := fun id => Nat.le_of_add_right_le (carried.once id)
  account := by
    intro id
    have account := carried.account id
    rw [List.count_nil, Nat.zero_add] at account
    exact account
  contents := by
    intro key id
    have account := carried.account id
    rw [List.count_nil, Nat.zero_add] at account
    constructor
    · intro found
      obtain rfl := carried.wellNamed key id found
      obtain ⟨created, unremoved⟩ := (carried.held id).mp found
      exact ⟨rfl, created, by omega⟩
    · rintro ⟨rfl, created, waiting⟩
      exact (carried.held id).mpr ⟨created, by omega⟩
  kept := by
    intro loop id known
    have place : id < s.created ∧ s.loopOf id = loop :=
      known.elim (homed.registered loop id) (homed.dispatched loop id)
    have alive : destroyed s id = 0 :=
      known.elim (carried.registered loop id) (carried.dispatched loop id)
    refine ⟨place.2.symm, carried.opened id place.1 alive, ?_⟩
    have account := carried.account id
    have once := carried.once id
    by_cases waiting : destructions s id = 0
    · exact Or.inl ((carried.held id).mpr ⟨place.1, by omega⟩)
    · exact Or.inr (by omega)
  passes := fun label _ asserted => asserts_pass homed carried label asserted

/-- In every run of a server with any number of IO loops, whatever the order of the steps of
its threads: each connection is closed at most once, and from then on it has one removal
queued to the server's loop, or one destruction queued to its own, or it is destroyed.
`connections_` holds the connections whose removal has not run, each under its name. A
connection that a poller knows or a loop is dispatching is in a state that `handle_close`
asserts, and is owned by the map or by its queued destruction. No assert on the way fails. -/
theorem closed_connections_handed_over (name : List Char) (ioLoops : Nat) (labels : List Label)
    (s : State) (allowed : Runs.Along (step name ioLoops) undisturbed initial labels)
    (reached : Runs.run (step name ioLoops) initial labels = .ok s) :
    HandedOver name ioLoops s := by
  obtain ⟨homed, carried⟩ := Runs.guarded_invariant (step name ioLoops) undisturbed
    (fun state => Homed ioLoops state ∧ Carried name [] state)
    (fun _ label _ before guard taken =>
      ⟨step_homed label before.1 taken, step_carried label before.1 before.2 guard taken⟩)
    labels initial s ⟨initial_homed ioLoops, initial_carried name⟩ allowed reached
  exact handedOver_of_carried homed carried

/-- Two connections on two IO loops. The peer of the first closes it; the loop of the
connection polls again before the server's thread comes to the removal. -/
def closedOnIoLoop : List Label :=
  [.poll 0 [], .accept 5 false, .accept 6 true, .poll 1 [0], .dispatch 1 POLLIN,
    .callback 1 (.received []) (.failed 0), .finishEvent 1, .swap 1, .finishFunctors 1, .poll 1 [],
    .send 2 1 ⟨[61, 62], by decide⟩ (.accepted 1), .swap 0, .runFunctor 0 (.failed 0)]

/-- The removal has queued the destruction of the closed connection to its loop. -/
theorem handed_over_closedOnIoLoop :
    ∃ s, Runs.run (step [] 2) initial closedOnIoLoop = .ok s ∧ closed s 0 = 1 ∧
      removals s 0 = 0 ∧ destructions s 0 = 1 ∧ HandedOver [] 2 s := by
  have computed : (Runs.run (step [] 2) initial closedOnIoLoop).map
      (fun s => (closed s 0, removals s 0, destructions s 0)) = .ok (1, 0, 1) := by decide +kernel
  obtain ⟨s, reached, computed⟩ := (Runs.map_returned _ _ _).mp computed
  simp only [Prod.mk.injEq] at computed
  obtain ⟨once, none, queued⟩ := computed
  have handedOver :=
    closed_connections_handed_over [] 2 closedOnIoLoop s (by decide +kernel) reached
  exact ⟨s, reached, once, none, queued, handedOver⟩

/-- A user of the loop's thread sends once more before the removal. The kernel takes one byte of
two, the channel is watched again and hangs up, and the second removal finds no entry. -/
example : (Runs.run (step [] 1) initial [.poll 0 [], .accept 5 false, .poll 1 [0],
    .dispatch 1 POLLIN, .callback 1 (.received []) (.failed 0), .finishEvent 1, .swap 1,
    .finishFunctors 1, .send 1 0 ⟨[63, 64], by decide⟩ (.accepted 1), .poll 1 [0],
    .dispatch 1 POLLHUP, .callback 1 (.failed 0) (.failed 0), .swap 0, .runFunctor 0 (.failed 0),
    .runFunctor 0 (.failed 0)]).map (fun _ => ()) = .error .removal := by decide +kernel

end ReactorNetwork.ThreadConfinement
