import ReactorNetwork.TcpServer

/-!
# Threads of a server with IO loops

A server whose pool holds any number of started IO loops, each on its own thread;
the server's loop is loop zero. The acceptor hands out connections to the IO
loops in turn. Each loop polls its own channels, dispatches them and runs its own
queue, and all loops and user threads take their steps in any order. `run_in_loop`
calls at once on the loop's thread and queues from any other.

Recorded are the accesses that belong to one thread: the functions of a connection
that its loop must run, the updates of its channel, and the uses of
`connections_`. A failed `assert_in_loop_thread` appends to the fatal log and
returns, so the access is made nevertheless.

What crosses threads is a functor, and each is queued to the loop it belongs to.
The one exception is `new_connection`, which calls `connect_established` itself,
on the server's thread. The data of the accesses is not protected by this model:
a step of one thread is taken as a whole.
-/

namespace ReactorNetwork.ThreadConfinement

open TcpConnection ConnectionLife TcpServer

/-- The functions and updates a connection's loop must make. -/
inductive Confined where
  | connectEstablished
  | handleRead
  | handleWrite
  | handleClose
  | sendInLoop
  | shutdownInLoop
  | connectDestoryed
  | updateChannel
  | removeChannel
deriving DecidableEq, Repr

/-- What is accessed: a connection by one of its functions, or `connections_`. -/
inductive Place where
  | connection (id : Nat) (confined : Confined)
  | connections
deriving DecidableEq, Repr

/-- An access of a thread to a place. -/
structure Access where
  thread : Nat
  place : Place
deriving DecidableEq, Repr

/-- A functor in the queue of a loop. -/
inductive Functor where
  | removeConnectionInLoop (id : Nat)
  | connectDestoryed (id : Nat)
  | sendInLoop (id : Nat) (message : StringView)
  | shutdownInLoop (id : Nat)
  | writeComplete (id : Nat)

/-- The connection a functor is about. -/
def Functor.id : Functor → Nat
  | .removeConnectionInLoop id | .connectDestoryed id | .sendInLoop id _ | .shutdownInLoop id
  | .writeComplete id => id

/-- Where a loop is in its iteration. -/
inductive Phase where
  | polling
  | dispatching (active : List Nat)
  | handling (id : Nat) (callbacks : List Callback) (active : List Nat)
  | running (batch : List Functor)

/-- One loop: where it is, and what is queued to it. -/
structure Loop where
  phase : Phase
  pending : List Functor

/-- The server and its pool. `registered` gives each loop's poller its channels,
and `loopOf` each connection's `get_loop()`. -/
structure State where
  connections : ConnectionMap
  next : Nat
  created : Nat
  objects : Nat → TcpConnection
  loopOf : Nat → Nat
  loops : Nat → Loop
  registered : Nat → Nat → Bool
  accesses : List Access

/-- Each label but `accept` names the thread that takes the step. -/
inductive Label where
  | accept (sockFd : Int) (writeCompleteCallback : Bool)
  | poll (thread : Nat) (active : List Nat)
  | dispatch (thread : Nat) (revents : EventMask)
  | callback (thread : Nat) (read : ReadvResult) (write : WriteResult)
  | finishEvent (thread : Nat)
  | swap (thread : Nat)
  | runFunctor (thread : Nat) (result : WriteResult)
  | finishFunctors (thread : Nat)
  | send (thread id : Nat) (message : StringView) (result : WriteResult)
  | shutdown (thread id : Nat)

/-- A server before its first connection. -/
def initial : State where
  connections := ∅
  next := 0
  created := 0
  objects := fun _ => create 0 false
  loopOf := fun _ => 0
  loops := fun _ => { phase := .polling, pending := [] }
  registered := fun _ _ => false
  accesses := []

/-- `get_next_loop`, with the new `next_`; loop `k + 1` is `loops_[k]`. -/
def getNextLoop (ioLoops next : Nat) : Nat × Nat :=
  if ioLoops = 0 then (0, next)
  else (next + 1, if ioLoops ≤ next + 1 then 0 else next + 1)

/-- The functions that effects show. `handle_close` ends in its close callback. -/
def shown : Effect → Option Confined
  | .updateChannel => some .updateChannel
  | .removeChannel => some .removeChannel
  | .closeCallback => some .handleClose
  | .shutdownWrite => some .shutdownInLoop
  | _ => none

/-- The function a channel callback calls, where the effects do not show it. -/
def called : Callback → List Confined
  | .read => [.handleRead]
  | .write => [.handleWrite]
  | .close | .error => []

/-- The state with one loop elsewhere in its iteration. -/
def State.setPhase (s : State) (loop : Nat) (phase : Phase) : State :=
  { s with loops := Function.update s.loops loop { s.loops loop with phase := phase } }

/-- `queue_in_loop`. -/
def State.queueInLoop (s : State) (loop : Nat) (functor : Functor) : State :=
  { s with
    loops := Function.update s.loops loop
      { s.loops loop with pending := (s.loops loop).pending ++ [functor] } }

/-- The state with a thread's accesses recorded. -/
def State.access (s : State) (thread : Nat) (places : List Place) : State :=
  { s with accesses := s.accesses ++ places.map fun place => { thread := thread, place := place } }

/-- What an effect does outside the connection: the poller of the connection's
loop, and that loop's queue. -/
def State.effect (s : State) (id : Nat) : Effect → State
  | .updateChannel => { s with
      registered := Function.update s.registered (s.loopOf id)
        (Function.update (s.registered (s.loopOf id)) id true) }
  | .removeChannel => { s with
      registered := Function.update s.registered (s.loopOf id)
        (Function.update (s.registered (s.loopOf id)) id false) }
  | .queueWriteComplete => s.queueInLoop (s.loopOf id) (.writeComplete id)
  | _ => s

/-- A thread ran functions of a connection. -/
def State.perform (s : State) (thread id : Nat) (functions : List Confined) (c : TcpConnection)
    (effects : List Effect) : State :=
  let accessed := { s with objects := Function.update s.objects id c }.access thread
    ((functions ++ effects.filterMap shown).map (.connection id))
  effects.foldl (fun state effect => state.effect id effect) accessed

variable (name : List Char) (ioLoops : Nat)

/-- `new_connection` up to `connect_established`, on the server's thread. -/
def enter (s : State) : State :=
  let (loop, next) := getNextLoop ioLoops s.next
  { s with
    next := next
    created := s.created + 1
    loopOf := Function.update s.loopOf s.created loop
    connections := s.connections.insert (connName name s.created) s.created }.access 0
      [.connections]

/-- `remove_connection_in_loop`, on a thread. -/
def removeConnectionInLoop (s : State) (thread id : Nat) : Except Failure State := do
  let connections ← TcpServer.removeConnectionInLoop name s.connections id
  pure (({ s with connections := connections }.access thread [.connections]).queueInLoop
    (s.loopOf id) (.connectDestoryed id))

/-- `remove_connection`: `run_in_loop` of the server's loop. -/
def removeConnection (s : State) (thread id : Nat) : Except Failure State :=
  if thread = 0 then removeConnectionInLoop name s thread id
  else pure (s.queueInLoop 0 (.removeConnectionInLoop id))

/-- One functor, on the thread of the loop that runs it. -/
def runFunctor (s : State) (thread : Nat) (result : WriteResult) :
    Functor → Except Failure State
  | .removeConnectionInLoop id => removeConnectionInLoop name s thread id
  | .connectDestoryed id => do
      let (c, effects) ← asserted .destroyedState (s.objects id).connectDestoryed
      pure (s.perform thread id [.connectDestoryed] c effects)
  | .sendInLoop id message => do
      let (c, effects) ← lift ((s.objects id).sendInLoop message result)
      pure (s.perform thread id [.sendInLoop] c effects)
  | .shutdownInLoop id => pure (s.access thread [.connection id .shutdownInLoop])
  | .writeComplete _ => pure s

/-- A `send` of another thread has tested `state_` at some time before it queues
its functor; the test is left out. -/
def step (s : State) : Label → Except Failure State
  | .accept sockFd writeCompleteCallback =>
      match (s.loops 0).phase with
      | .dispatching _ =>
          if s.created < maxConnections then do
            let (c, effects) ← lift (create sockFd writeCompleteCallback).connectEstablished
            pure ((enter name ioLoops s).perform 0 s.created [.connectEstablished] c effects)
          else .error .connIdOverflow
      | _ => .error .notEnabled
  | .poll thread active =>
      match (s.loops thread).phase with
      | .polling =>
          if active.Nodup ∧ ∀ id ∈ active, s.registered thread id = true then
            pure (s.setPhase thread (.dispatching active))
          else .error .notEnabled
      | _ => .error .notEnabled
  | .dispatch thread revents =>
      match (s.loops thread).phase with
      | .dispatching (id :: active) =>
          pure (s.setPhase thread
            (.handling id (Channel.handleEvent connectionCallbacks revents) active))
      | _ => .error .notEnabled
  | .callback thread read write =>
      match (s.loops thread).phase with
      | .handling id (callback :: callbacks) active => do
          let (c, effects) ← handle (s.objects id) callback read write
          let handled := (s.perform thread id (called callback) c effects).setPhase thread
            (.handling id callbacks active)
          if Effect.closeCallback ∈ effects then removeConnection name handled thread id
          else pure handled
      | _ => .error .notEnabled
  | .finishEvent thread =>
      match (s.loops thread).phase with
      | .handling _ [] active => pure (s.setPhase thread (.dispatching active))
      | _ => .error .notEnabled
  | .swap thread =>
      match (s.loops thread).phase with
      | .dispatching [] =>
          pure { s with
            loops := Function.update s.loops thread
              { phase := .running (s.loops thread).pending, pending := [] } }
      | _ => .error .notEnabled
  | .runFunctor thread result =>
      match (s.loops thread).phase with
      | .running (functor :: rest) =>
          runFunctor name (s.setPhase thread (.running rest)) thread result functor
      | _ => .error .notEnabled
  | .finishFunctors thread =>
      match (s.loops thread).phase with
      | .running [] => pure (s.setPhase thread .polling)
      | _ => .error .notEnabled
  | .send thread id message result =>
      if id < s.created then
        if thread = s.loopOf id then
          if (s.objects id).state = .connected then do
            let (c, effects) ← lift ((s.objects id).sendInLoop message result)
            pure (s.perform thread id [.sendInLoop] c effects)
          else pure s
        else pure (s.queueInLoop (s.loopOf id) (.sendInLoop id message))
      else .error .notEnabled
  | .shutdown thread id =>
      if id < s.created then
        if (s.objects id).state = .connected then
          let exchanged := { s with
            objects := Function.update s.objects id (exchangeState (s.objects id)) }
          if thread = s.loopOf id then
            pure (exchanged.access thread [.connection id .shutdownInLoop])
          else pure (exchanged.queueInLoop (s.loopOf id) (.shutdownInLoop id))
        else pure s
      else .error .notEnabled

/-- The thread an access belongs to. -/
def Place.home (loopOf : Nat → Nat) : Place → Nat
  | .connection id _ => loopOf id
  | .connections => 0

/-- Every access is made on the thread it belongs to. -/
def ThreadConfined (s : State) : Prop :=
  ∀ access ∈ s.accesses, access.thread = access.place.home s.loopOf

/-- The loop a functor is queued to. -/
def Functor.home (loopOf : Nat → Nat) : Functor → Nat
  | .removeConnectionInLoop _ => 0
  | functor => loopOf functor.id

/-- The connections whose events this iteration still has to handle. -/
def Phase.dispatched : Phase → List Nat
  | .dispatching active => active
  | .handling id _ active => id :: active
  | _ => []

/-- The functors this iteration still has to run. -/
def Phase.batch : Phase → List Functor
  | .running batch => batch
  | _ => []

/-- The connection of a place was created. -/
def Place.Known (created : Nat) : Place → Prop
  | .connection id _ => id < created
  | .connections => True

/-- Channels and functors are where they belong, and an access that is not was
made by the server's thread. Without IO loops every connection is on loop zero. -/
structure Homed (ioLoops : Nat) (s : State) : Prop where
  registered : ∀ loop id, s.registered loop id = true → id < s.created ∧ s.loopOf id = loop
  dispatched : ∀ loop, ∀ id ∈ (s.loops loop).phase.dispatched, id < s.created ∧ s.loopOf id = loop
  functors : ∀ loop, ∀ functor ∈ (s.loops loop).phase.batch ++ (s.loops loop).pending,
    functor.id < s.created ∧ functor.home s.loopOf = loop
  accesses : ∀ access ∈ s.accesses, access.place.Known s.created ∧
    (access.thread = access.place.home s.loopOf ∨ access.thread = 0)
  based : ioLoops = 0 → ∀ id, s.loopOf id = 0

variable {name ioLoops} {s t : State}

/-- Before the first connection nothing is registered, queued or recorded. -/
theorem initial_homed (ioLoops : Nat) : Homed ioLoops initial where
  registered := by
    intro loop id present
    cases present
  dispatched := by
    intro loop id member
    cases member
  functors := by
    intro loop functor member
    cases member
  accesses := by
    intro access member
    cases member
  based := fun _ _ => rfl

section Parts

/-- A phase whose channels and functors belong to the loop. -/
theorem setPhase_homed (homed : Homed ioLoops s) (loop : Nat) (phase : Phase)
    (dispatched : ∀ id ∈ phase.dispatched, id < s.created ∧ s.loopOf id = loop)
    (batch : ∀ functor ∈ phase.batch, functor.id < s.created ∧ functor.home s.loopOf = loop) :
    Homed ioLoops (s.setPhase loop phase) := by
  refine { homed with dispatched := ?_, functors := ?_ }
  · intro other id member
    by_cases here : other = loop
    · subst here
      simp only [State.setPhase, Function.update_self] at member
      exact dispatched id member
    · simp only [State.setPhase, Function.update_of_ne here] at member
      exact homed.dispatched other id member
  · intro other functor member
    by_cases here : other = loop
    · subst here
      simp only [State.setPhase, Function.update_self] at member
      rcases List.mem_append.mp member with inBatch | pending
      · exact batch functor inBatch
      · exact homed.functors other functor (List.mem_append.mpr (Or.inr pending))
    · simp only [State.setPhase, Function.update_of_ne here] at member
      exact homed.functors other functor member

/-- A functor queued to the loop it belongs to is where it belongs. -/
theorem queueInLoop_homed (homed : Homed ioLoops s) (loop : Nat) (functor : Functor)
    (belongs : functor.id < s.created ∧ functor.home s.loopOf = loop) :
    Homed ioLoops (s.queueInLoop loop functor) := by
  refine { homed with dispatched := ?_, functors := ?_ }
  · intro other id member
    by_cases here : other = loop
    · subst here
      simp only [State.queueInLoop, Function.update_self] at member
      exact homed.dispatched other id member
    · simp only [State.queueInLoop, Function.update_of_ne here] at member
      exact homed.dispatched other id member
  · intro other queued member
    by_cases here : other = loop
    · subst here
      simp only [State.queueInLoop, Function.update_self, ← List.append_assoc] at member
      rcases List.mem_append.mp member with before | now
      · exact homed.functors other queued before
      · rw [List.mem_singleton.mp now]
        exact belongs
    · simp only [State.queueInLoop, Function.update_of_ne here] at member
      exact homed.functors other queued member

/-- An access on the thread it belongs to, or on the server's, may be recorded. -/
theorem access_homed (homed : Homed ioLoops s) (thread : Nat) (places : List Place)
    (belongs : ∀ place ∈ places, place.Known s.created ∧
      (thread = place.home s.loopOf ∨ thread = 0)) : Homed ioLoops (s.access thread places) := by
  refine { homed with accesses := ?_ }
  intro access member
  rcases List.mem_append.mp member with before | now
  · exact homed.accesses access before
  · obtain ⟨place, inside, rfl⟩ := List.mem_map.mp now
    exact belongs place inside

/-- The poller of a connection's loop adds its channel, or removes it. -/
theorem registered_homed (homed : Homed ioLoops s) {id : Nat} (created : id < s.created)
    (watched : Bool) :
    Homed ioLoops { s with
      registered := Function.update s.registered (s.loopOf id)
        (Function.update (s.registered (s.loopOf id)) id watched) } := by
  refine { homed with registered := ?_ }
  intro loop other present
  simp only at present
  by_cases here : loop = s.loopOf id
  · subst here
    rw [Function.update_self] at present
    by_cases same : other = id
    · rw [same]
      exact ⟨created, rfl⟩
    · rw [Function.update_of_ne same] at present
      exact homed.registered _ other present
  · rw [Function.update_of_ne here] at present
    exact homed.registered loop other present

/-- An effect registers a channel with its own loop's poller, and queues functors to
that loop. -/
theorem effect_homed (homed : Homed ioLoops s) {id : Nat} (created : id < s.created)
    (effect : Effect) : Homed ioLoops (s.effect id effect) := by
  cases effect
  case queueWriteComplete => exact queueInLoop_homed homed _ _ ⟨created, rfl⟩
  case updateChannel => exact registered_homed homed created true
  case removeChannel => exact registered_homed homed created false
  all_goals exact homed

/-- An effect makes no access and moves no connection. -/
theorem effect_kept (s : State) (id : Nat) (effect : Effect) :
    (s.effect id effect).created = s.created ∧ (s.effect id effect).loopOf = s.loopOf ∧
      (s.effect id effect).accesses = s.accesses := by
  cases effect <;> exact ⟨rfl, rfl, rfl⟩

/-- Effects create no connection, move none and record no access. -/
theorem effects_kept (s : State) (id : Nat) (effects : List Effect) :
    (effects.foldl (fun state effect => state.effect id effect) s).created = s.created ∧
      (effects.foldl (fun state effect => state.effect id effect) s).loopOf = s.loopOf ∧
      (effects.foldl (fun state effect => state.effect id effect) s).accesses = s.accesses := by
  induction effects generalizing s with
  | nil => exact ⟨rfl, rfl, rfl⟩
  | cons effect rest inductionHypothesis =>
    obtain ⟨created, loopOf, accesses⟩ := effect_kept s id effect
    have later := inductionHypothesis (s.effect id effect)
    rw [created, loopOf, accesses] at later
    exact later

/-- All the effects of one function leave everything where it belongs. -/
theorem effects_homed (homed : Homed ioLoops s) {id : Nat} (created : id < s.created)
    (effects : List Effect) :
    Homed ioLoops (effects.foldl (fun state effect => state.effect id effect) s) := by
  induction effects generalizing s with
  | nil => exact homed
  | cons effect rest inductionHypothesis =>
    refine inductionHypothesis (effect_homed homed created effect) ?_
    rw [(effect_kept s id effect).1]
    exact created

/-- Functions of a connection run by the thread of its loop, or by the server's. -/
theorem perform_homed (homed : Homed ioLoops s) {thread id : Nat} (created : id < s.created)
    (belongs : thread = s.loopOf id ∨ thread = 0) (functions : List Confined) (c : TcpConnection)
    (effects : List Effect) : Homed ioLoops (s.perform thread id functions c effects) := by
  have replaced : Homed ioLoops { s with objects := Function.update s.objects id c } :=
    { homed with }
  refine effects_homed (access_homed replaced thread _ ?_) created effects
  intro place member
  obtain ⟨confined, _, rfl⟩ := List.mem_map.mp member
  exact ⟨created, belongs⟩

end Parts

/-- The removal on the server's thread queues the destruction to the connection's
loop. -/
theorem removeConnectionInLoop_homed (homed : Homed ioLoops s) {thread id : Nat}
    (created : id < s.created) (onServer : thread = 0)
    (taken : removeConnectionInLoop name s thread id = .ok t) : Homed ioLoops t := by
  obtain ⟨connections, _, same⟩ := (bind_ok _ _ _).mp taken
  obtain rfl := (pure_ok _ _).mp same
  have erased : Homed ioLoops { s with connections := connections } := { homed with }
  refine queueInLoop_homed (access_homed erased thread _ ?_) _ _ ⟨created, rfl⟩
  intro place member
  rw [List.mem_singleton.mp member]
  exact ⟨trivial, Or.inl onServer⟩

/-- A removal runs at once on the server's thread, and is queued to it from any
other. -/
theorem removeConnection_homed (homed : Homed ioLoops s) {thread id : Nat}
    (created : id < s.created) (taken : removeConnection name s thread id = .ok t) :
    Homed ioLoops t := by
  unfold removeConnection at taken
  split at taken
  · rename_i onServer
    exact removeConnectionInLoop_homed homed created onServer taken
  · obtain rfl := (pure_ok _ _).mp taken
    exact queueInLoop_homed homed _ _ ⟨created, rfl⟩

/-- A functor that runs on the loop it belongs to keeps everything where it belongs. -/
theorem runFunctor_homed (homed : Homed ioLoops s) {thread : Nat} {result : WriteResult}
    (functor : Functor) (belongs : functor.id < s.created ∧ functor.home s.loopOf = thread)
    (taken : runFunctor name s thread result functor = .ok t) : Homed ioLoops t := by
  obtain ⟨created, home⟩ := belongs
  cases functor with
  | removeConnectionInLoop id => exact removeConnectionInLoop_homed homed created home.symm taken
  | connectDestoryed id =>
    obtain ⟨⟨c, effects⟩, _, same⟩ := (bind_ok _ _ _).mp taken
    obtain rfl := (pure_ok _ _).mp same
    exact perform_homed homed created (Or.inl home.symm) _ c effects
  | sendInLoop id message =>
    obtain ⟨⟨c, effects⟩, _, same⟩ := (bind_ok _ _ _).mp taken
    obtain rfl := (pure_ok _ _).mp same
    exact perform_homed homed created (Or.inl home.symm) _ c effects
  | shutdownInLoop id =>
    obtain rfl := (pure_ok _ _).mp taken
    refine access_homed homed thread _ ?_
    intro place member
    rw [List.mem_singleton.mp member]
    exact ⟨created, Or.inl home.symm⟩
  | writeComplete id =>
    obtain rfl := (pure_ok _ _).mp taken
    exact homed

/-- `get_next_loop` returns the base loop if and only if there are no IO loops. -/
theorem getNextLoop_base (ioLoops next : Nat) : (getNextLoop ioLoops next).1 = 0 ↔ ioLoops = 0 := by
  unfold getNextLoop
  split
  · simp_all
  · simp_all

/-- A new connection leaves the others where they are. -/
theorem enter_homed (name : List Char) (homed : Homed ioLoops s) :
    Homed ioLoops (enter name ioLoops s) := by
  have kept : ∀ id < s.created,
      Function.update s.loopOf s.created (getNextLoop ioLoops s.next).1 id = s.loopOf id :=
    fun id below => Function.update_of_ne (Nat.ne_of_lt below) _ _
  have entered : Homed ioLoops { s with
      next := (getNextLoop ioLoops s.next).2
      created := s.created + 1
      loopOf := Function.update s.loopOf s.created (getNextLoop ioLoops s.next).1
      connections := s.connections.insert (connName name s.created) s.created } := by
    refine ⟨?_, ?_, ?_, ?_, ?_⟩
    · intro other id present
      obtain ⟨created, home⟩ := homed.registered other id present
      exact ⟨Nat.lt_succ_of_lt created, (kept id created).trans home⟩
    · intro other id member
      obtain ⟨created, home⟩ := homed.dispatched other id member
      exact ⟨Nat.lt_succ_of_lt created, (kept id created).trans home⟩
    · intro other functor member
      obtain ⟨created, home⟩ := homed.functors other functor member
      refine ⟨Nat.lt_succ_of_lt created, ?_⟩
      cases functor with
      | removeConnectionInLoop id => exact home
      | connectDestoryed id => exact (kept id created).trans home
      | sendInLoop id message => exact (kept id created).trans home
      | shutdownInLoop id => exact (kept id created).trans home
      | writeComplete id => exact (kept id created).trans home
    · rintro ⟨thread, place⟩ member
      obtain ⟨known, home⟩ := homed.accesses _ member
      cases place with
      | connections => exact ⟨trivial, home⟩
      | connection id confined =>
        refine ⟨Nat.lt_succ_of_lt known, ?_⟩
        simp only [Place.home, kept id known]
        exact home
    · intro none id
      by_cases here : id = s.created
      · simp [here, (getNextLoop_base ioLoops s.next).mpr none]
      · simp only [Function.update_of_ne here]
        exact homed.based none id
  refine access_homed entered 0 _ ?_
  intro place member
  rw [List.mem_singleton.mp member]
  exact ⟨trivial, Or.inl rfl⟩

/-- The connections stay where they are, and the record only grows. -/
structure Continued (s t : State) : Prop where
  created : t.created = s.created
  loopOf : t.loopOf = s.loopOf
  accesses : s.accesses <+: t.accesses

/-- Nothing changed. -/
theorem Continued.refl (s : State) : Continued s s := ⟨rfl, rfl, List.prefix_refl _⟩

/-- One continuation behind another. -/
theorem Continued.trans {u : State} (first : Continued s t) (second : Continued t u) :
    Continued s u :=
  ⟨second.created.trans first.created, second.loopOf.trans first.loopOf,
    first.accesses.trans second.accesses⟩

/-- Recording an access only lengthens the record. -/
theorem access_continued (s : State) (thread : Nat) (places : List Place) :
    Continued s (s.access thread places) := ⟨rfl, rfl, List.prefix_append _ _⟩

/-- So does a function of a connection with its effects. -/
theorem perform_continued (s : State) (thread id : Nat) (functions : List Confined)
    (c : TcpConnection) (effects : List Effect) :
    Continued s (s.perform thread id functions c effects) := by
  have kept := effects_kept (({ s with objects := Function.update s.objects id c }).access thread
    ((functions ++ effects.filterMap shown).map (.connection id))) id effects
  refine ⟨kept.1, kept.2.1, ?_⟩
  rw [State.perform, kept.2.2]
  exact List.prefix_append _ _

/-- So does the removal on the server's thread. -/
theorem removeConnectionInLoop_continued {thread id : Nat}
    (taken : removeConnectionInLoop name s thread id = .ok t) : Continued s t := by
  obtain ⟨connections, _, same⟩ := (bind_ok _ _ _).mp taken
  obtain rfl := (pure_ok _ _).mp same
  exact ⟨rfl, rfl, List.prefix_append _ _⟩

/-- So does a removal from any thread. -/
theorem removeConnection_continued {thread id : Nat}
    (taken : removeConnection name s thread id = .ok t) : Continued s t := by
  unfold removeConnection at taken
  split at taken
  · exact removeConnectionInLoop_continued taken
  · obtain rfl := (pure_ok _ _).mp taken
    exact ⟨rfl, rfl, List.prefix_refl _⟩

/-- So does every functor. -/
theorem runFunctor_continued {thread : Nat} {result : WriteResult} {functor : Functor}
    (taken : runFunctor name s thread result functor = .ok t) : Continued s t := by
  cases functor with
  | removeConnectionInLoop id => exact removeConnectionInLoop_continued taken
  | connectDestoryed id =>
    obtain ⟨⟨c, effects⟩, _, same⟩ := (bind_ok _ _ _).mp taken
    obtain rfl := (pure_ok _ _).mp same
    exact perform_continued s thread id _ c effects
  | sendInLoop id message =>
    obtain ⟨⟨c, effects⟩, _, same⟩ := (bind_ok _ _ _).mp taken
    obtain rfl := (pure_ok _ _).mp same
    exact perform_continued s thread id _ c effects
  | shutdownInLoop id =>
    obtain rfl := (pure_ok _ _).mp taken
    exact access_continued s thread _
  | writeComplete id =>
    obtain rfl := (pure_ok _ _).mp taken
    exact .refl s

/-- What one step does, and the guards it passed. -/
inductive Stepped (name : List Char) (ioLoops : Nat) (s : State) : Label → State → Prop where
  | accept (sockFd : Int) (writeCompleteCallback : Bool) (active : List Nat) (c : TcpConnection)
      (effects : List Effect) (dispatching : (s.loops 0).phase = .dispatching active)
      (room : s.created < maxConnections)
      (established :
        (create sockFd writeCompleteCallback).connectEstablished = .ok (c, effects)) :
      Stepped name ioLoops s (.accept sockFd writeCompleteCallback)
        ((enter name ioLoops s).perform 0 s.created [.connectEstablished] c effects)
  | poll (thread : Nat) (active : List Nat) (polling : (s.loops thread).phase = .polling)
      (distinct : active.Nodup) (reported : ∀ id ∈ active, s.registered thread id = true) :
      Stepped name ioLoops s (.poll thread active) (s.setPhase thread (.dispatching active))
  | dispatch (thread : Nat) (revents : EventMask) (id : Nat) (active : List Nat)
      (dispatching : (s.loops thread).phase = .dispatching (id :: active)) :
      Stepped name ioLoops s (.dispatch thread revents) (s.setPhase thread
        (.handling id (Channel.handleEvent connectionCallbacks revents) active))
  | closing (thread : Nat) (read : ReadvResult) (write : WriteResult) (id : Nat)
      (callback : Callback) (callbacks : List Callback) (active : List Nat) (c : TcpConnection)
      (effects : List Effect) (t : State)
      (handling : (s.loops thread).phase = .handling id (callback :: callbacks) active)
      (handled : handle (s.objects id) callback read write = .ok (c, effects))
      (invoked : Effect.closeCallback ∈ effects)
      (removed : removeConnection name ((s.perform thread id (called callback) c effects).setPhase
        thread (.handling id callbacks active)) thread id = .ok t) :
      Stepped name ioLoops s (.callback thread read write) t
  | callback (thread : Nat) (read : ReadvResult) (write : WriteResult) (id : Nat)
      (callback : Callback) (callbacks : List Callback) (active : List Nat) (c : TcpConnection)
      (effects : List Effect)
      (handling : (s.loops thread).phase = .handling id (callback :: callbacks) active)
      (handled : handle (s.objects id) callback read write = .ok (c, effects))
      (uninvoked : Effect.closeCallback ∉ effects) :
      Stepped name ioLoops s (.callback thread read write)
        ((s.perform thread id (called callback) c effects).setPhase thread
          (.handling id callbacks active))
  | finishEvent (thread id : Nat) (active : List Nat)
      (handling : (s.loops thread).phase = .handling id [] active) :
      Stepped name ioLoops s (.finishEvent thread) (s.setPhase thread (.dispatching active))
  | swap (thread : Nat) (dispatching : (s.loops thread).phase = .dispatching []) :
      Stepped name ioLoops s (.swap thread) { s with
        loops := Function.update s.loops thread
          { phase := .running (s.loops thread).pending, pending := [] } }
  | runFunctor (thread : Nat) (result : WriteResult) (functor : Functor) (rest : List Functor)
      (t : State) (running : (s.loops thread).phase = .running (functor :: rest))
      (called : runFunctor name (s.setPhase thread (.running rest)) thread result functor = .ok t) :
      Stepped name ioLoops s (.runFunctor thread result) t
  | finishFunctors (thread : Nat) (running : (s.loops thread).phase = .running []) :
      Stepped name ioLoops s (.finishFunctors thread) (s.setPhase thread .polling)
  | sent (thread id : Nat) (message : StringView) (result : WriteResult) (c : TcpConnection)
      (effects : List Effect) (created : id < s.created) (inLoop : thread = s.loopOf id)
      (connected : (s.objects id).state = .connected)
      (written : (s.objects id).sendInLoop message result = .ok (c, effects)) :
      Stepped name ioLoops s (.send thread id message result)
        (s.perform thread id [.sendInLoop] c effects)
  | unsent (thread id : Nat) (message : StringView) (result : WriteResult)
      (created : id < s.created) (inLoop : thread = s.loopOf id)
      (unconnected : (s.objects id).state ≠ .connected) :
      Stepped name ioLoops s (.send thread id message result) s
  | sendQueued (thread id : Nat) (message : StringView) (result : WriteResult)
      (created : id < s.created) (elsewhere : thread ≠ s.loopOf id) :
      Stepped name ioLoops s (.send thread id message result)
        (s.queueInLoop (s.loopOf id) (.sendInLoop id message))
  | shutdown (thread id : Nat) (created : id < s.created) (inLoop : thread = s.loopOf id)
      (connected : (s.objects id).state = .connected) :
      Stepped name ioLoops s (.shutdown thread id)
        ({ s with objects := Function.update s.objects id (exchangeState (s.objects id)) }.access
          thread [.connection id .shutdownInLoop])
  | shutdownQueued (thread id : Nat) (created : id < s.created) (elsewhere : thread ≠ s.loopOf id)
      (connected : (s.objects id).state = .connected) :
      Stepped name ioLoops s (.shutdown thread id)
        ({ s with
          objects := Function.update s.objects id (exchangeState (s.objects id)) }.queueInLoop
            (s.loopOf id) (.shutdownInLoop id))
  | unshut (thread id : Nat) (created : id < s.created)
      (unconnected : (s.objects id).state ≠ .connected) :
      Stepped name ioLoops s (.shutdown thread id) s

/-- A step that returns is one of the cases above. -/
theorem stepped {label : Label} (taken : step name ioLoops s label = .ok t) :
    Stepped name ioLoops s label t := by
  cases label
  case accept sockFd writeCompleteCallback =>
    simp only [step] at taken
    split at taken
    case h_2 => cases taken
    case h_1 active dispatching =>
      split at taken
      case isFalse => cases taken
      case isTrue room =>
        obtain ⟨⟨c, effects⟩, established, same⟩ := (bind_ok _ _ _).mp taken
        obtain rfl := (pure_ok _ _).mp same
        exact .accept sockFd writeCompleteCallback active c effects dispatching room
          ((lift_ok _ _).mp established)
  case poll thread active =>
    simp only [step] at taken
    split at taken
    case h_2 => cases taken
    case h_1 polling =>
      split at taken
      case isFalse => cases taken
      case isTrue possible =>
        obtain rfl := (pure_ok _ _).mp taken
        exact .poll thread active polling possible.1 possible.2
  case dispatch thread revents =>
    simp only [step] at taken
    split at taken
    case h_2 => cases taken
    case h_1 id active dispatching =>
      obtain rfl := (pure_ok _ _).mp taken
      exact .dispatch thread revents id active dispatching
  case callback thread read write =>
    simp only [step] at taken
    split at taken
    case h_2 => cases taken
    case h_1 id callback callbacks active handling =>
      obtain ⟨⟨c, effects⟩, handled, continued⟩ := (bind_ok _ _ _).mp taken
      split at continued
      · rename_i invoked
        exact .closing thread read write id callback callbacks active c effects t handling handled
          invoked continued
      · rename_i uninvoked
        obtain rfl := (pure_ok _ _).mp continued
        exact .callback thread read write id callback callbacks active c effects handling handled
          uninvoked
  case finishEvent thread =>
    simp only [step] at taken
    split at taken
    case h_2 => cases taken
    case h_1 id active handling =>
      obtain rfl := (pure_ok _ _).mp taken
      exact .finishEvent thread id active handling
  case swap thread =>
    simp only [step] at taken
    split at taken
    case h_2 => cases taken
    case h_1 dispatching =>
      obtain rfl := (pure_ok _ _).mp taken
      exact .swap thread dispatching
  case runFunctor thread result =>
    simp only [step] at taken
    split at taken
    case h_2 => cases taken
    case h_1 functor rest running => exact .runFunctor thread result functor rest t running taken
  case finishFunctors thread =>
    simp only [step] at taken
    split at taken
    case h_2 => cases taken
    case h_1 running =>
      obtain rfl := (pure_ok _ _).mp taken
      exact .finishFunctors thread running
  case send thread id message result =>
    simp only [step] at taken
    split at taken
    case isFalse => cases taken
    case isTrue created =>
      split at taken
      case isFalse elsewhere =>
        obtain rfl := (pure_ok _ _).mp taken
        exact .sendQueued thread id message result created elsewhere
      case isTrue inLoop =>
        split at taken
        case isFalse unconnected =>
          obtain rfl := (pure_ok _ _).mp taken
          exact .unsent thread id message result created inLoop unconnected
        case isTrue connected =>
          obtain ⟨⟨c, effects⟩, written, same⟩ := (bind_ok _ _ _).mp taken
          obtain rfl := (pure_ok _ _).mp same
          exact .sent thread id message result c effects created inLoop connected
            ((lift_ok _ _).mp written)
  case shutdown thread id =>
    simp only [step] at taken
    split at taken
    case isFalse => cases taken
    case isTrue created =>
      split at taken
      case isFalse unconnected =>
        obtain rfl := (pure_ok _ _).mp taken
        exact .unshut thread id created unconnected
      case isTrue connected =>
        split at taken
        case isFalse elsewhere =>
          obtain rfl := (pure_ok _ _).mp taken
          exact .shutdownQueued thread id created elsewhere connected
        case isTrue inLoop =>
          obtain rfl := (pure_ok _ _).mp taken
          exact .shutdown thread id created inLoop connected

/-- A callback leaves the rest of its channel's callbacks to the same loop. -/
theorem handled_homed (homed : Homed ioLoops s) {thread id : Nat} {callback : Callback}
    {callbacks : List Callback} {active : List Nat}
    (handling : (s.loops thread).phase = .handling id (callback :: callbacks) active)
    (c : TcpConnection) (effects : List Effect) :
    Homed ioLoops ((s.perform thread id (called callback) c effects).setPhase thread
      (.handling id callbacks active)) := by
  have dispatched := homed.dispatched thread
  rw [handling] at dispatched
  obtain ⟨created, home⟩ := dispatched id List.mem_cons_self
  have performed := perform_homed homed created (Or.inl home.symm) (called callback) c effects
  have kept := perform_continued s thread id (called callback) c effects
  refine setPhase_homed performed thread _ ?_ (by simp [Phase.batch])
  intro other member
  rw [kept.created, kept.loopOf]
  exact dispatched other member

/-- A swap hands a loop's queue to its batch. -/
theorem swap_homed (homed : Homed ioLoops s) (thread : Nat) :
    Homed ioLoops { s with
      loops := Function.update s.loops thread
        { phase := .running (s.loops thread).pending, pending := [] } } := by
  refine { homed with dispatched := ?_, functors := ?_ }
  · intro other id member
    by_cases here : other = thread
    · subst here
      simp only [Function.update_self] at member
      cases member
    · simp only [Function.update_of_ne here] at member
      exact homed.dispatched other id member
  · intro other functor member
    by_cases here : other = thread
    · subst here
      simp only [Function.update_self, Phase.batch, List.append_nil] at member
      exact homed.functors other functor (List.mem_append.mpr (Or.inr member))
    · simp only [Function.update_of_ne here] at member
      exact homed.functors other functor member

/-- Every step keeps channels and functors where they belong; what it does elsewhere it
does on the server's thread. -/
theorem step_homed (label : Label) (homed : Homed ioLoops s)
    (taken : step name ioLoops s label = .ok t) : Homed ioLoops t := by
  have exchanged : ∀ id, Homed ioLoops { s with
      objects := Function.update s.objects id (exchangeState (s.objects id)) } :=
    fun _ => { homed with }
  cases stepped taken with
  | accept _ _ _ c effects =>
    exact perform_homed (enter_homed name homed) (Nat.lt_succ_self _) (Or.inr rfl) _ c effects
  | poll thread active _ _ reported =>
    exact setPhase_homed homed thread _
      (fun id member => homed.registered thread id (reported id member)) (by simp [Phase.batch])
  | dispatch thread revents id active dispatching =>
    have dispatched := homed.dispatched thread
    rw [dispatching] at dispatched
    exact setPhase_homed homed thread _ dispatched (by simp [Phase.batch])
  | closing thread _ _ id callback callbacks active c effects _ handling _ _ removed =>
    have dispatched := homed.dispatched thread
    rw [handling] at dispatched
    refine removeConnection_homed (handled_homed homed handling c effects) ?_ removed
    exact Nat.lt_of_lt_of_eq (dispatched id List.mem_cons_self).1
      (perform_continued s thread id (called callback) c effects).created.symm
  | callback _ _ _ _ _ _ _ c effects handling => exact handled_homed homed handling c effects
  | finishEvent thread id active handling =>
    have dispatched := homed.dispatched thread
    rw [handling] at dispatched
    exact setPhase_homed homed thread _
      (fun other member => dispatched other (List.mem_cons_of_mem _ member)) (by simp [Phase.batch])
  | swap thread => exact swap_homed homed thread
  | runFunctor thread _ functor rest _ running ran =>
    have functors := homed.functors thread
    rw [running] at functors
    have popped : Homed ioLoops (s.setPhase thread (.running rest)) :=
      setPhase_homed homed thread _ (by simp [Phase.dispatched])
        (fun other member => functors other (List.mem_append.mpr
          (Or.inl (List.mem_cons_of_mem _ member))))
    exact runFunctor_homed popped functor
      (functors functor (List.mem_append.mpr (Or.inl List.mem_cons_self))) ran
  | finishFunctors thread =>
    exact setPhase_homed homed thread _ (by simp [Phase.dispatched]) (by simp [Phase.batch])
  | sent _ _ _ _ c effects created inLoop =>
    exact perform_homed homed created (Or.inl inLoop) _ c effects
  | sendQueued _ _ _ _ created => exact queueInLoop_homed homed _ _ ⟨created, rfl⟩
  | shutdown thread id created inLoop =>
    refine access_homed (exchanged id) thread _ ?_
    intro place member
    rw [List.mem_singleton.mp member]
    exact ⟨created, Or.inl inLoop⟩
  | shutdownQueued _ id created => exact queueInLoop_homed (exchanged id) _ _ ⟨created, rfl⟩
  | unsent => exact homed
  | unshut => exact homed

/-- The label accepts a connection. -/
def Label.accepts : Label → Bool
  | .accept _ _ => true
  | _ => false

/-- Only an accept creates a connection. -/
theorem step_continued (label : Label) (other : label.accepts = false)
    (taken : step name ioLoops s label = .ok t) : Continued s t := by
  cases stepped taken with
  | accept => cases other
  | closing thread _ _ id callback _ _ c effects _ _ _ _ removed =>
    have performed := perform_continued s thread id (called callback) c effects
    have continued := removeConnection_continued removed
    exact performed.trans ⟨continued.created, continued.loopOf, continued.accesses⟩
  | callback thread _ _ id callback _ _ c effects =>
    have performed := perform_continued s thread id (called callback) c effects
    exact ⟨performed.created, performed.loopOf, performed.accesses⟩
  | runFunctor _ _ _ _ _ _ ran =>
    have continued := runFunctor_continued ran
    exact ⟨continued.created, continued.loopOf, continued.accesses⟩
  | sent thread id _ _ c effects => exact perform_continued s thread id _ c effects
  | shutdown => exact ⟨rfl, rfl, List.prefix_append _ _⟩
  | _ => exact ⟨rfl, rfl, List.prefix_refl _⟩

/-- Some access to a connection was made on another thread than its loop's. -/
def Strayed (s : State) : Prop :=
  ∃ thread id confined, ⟨thread, .connection id confined⟩ ∈ s.accesses ∧ id < s.created ∧
    thread ≠ s.loopOf id

/-- With IO loops, an accept establishes its connection on the wrong thread. -/
theorem accept_strayed {sockFd : Int} {writeCompleteCallback : Bool} (pooled : ioLoops ≠ 0)
    (taken : step name ioLoops s (.accept sockFd writeCompleteCallback) = .ok t) : Strayed t := by
  have elsewhere : 0 ≠ (getNextLoop ioLoops s.next).1 :=
    fun same => pooled ((getNextLoop_base ioLoops s.next).mp same.symm)
  cases stepped taken with
  | accept _ _ _ c effects =>
    have continued := perform_continued (enter name ioLoops s) 0 s.created [.connectEstablished] c
      effects
    refine ⟨0, s.created, .connectEstablished, ?_, ?_, ?_⟩
    · unfold State.perform
      rw [(effects_kept _ _ _).2.2]
      refine List.mem_append.mpr (Or.inr ?_)
      simp
    · rw [continued.created]
      exact Nat.lt_succ_self _
    · rw [continued.loopOf]
      simpa [enter, State.access] using elsewhere

/-- What strayed stays on record. -/
theorem step_strayed (label : Label) (strayed : Strayed s)
    (taken : step name ioLoops s label = .ok t) : Strayed t := by
  obtain ⟨thread, id, confined, member, created, wrong⟩ := strayed
  by_cases accepts : label.accepts = true
  · cases stepped taken with
    | accept _ _ _ c effects =>
      have continued := perform_continued (enter name ioLoops s) 0 s.created [.connectEstablished] c
        effects
      refine ⟨thread, id, confined, continued.accesses.subset (List.mem_append_left _ member), ?_, ?_⟩
      · rw [continued.created]
        exact Nat.lt_succ_of_lt created
      · rw [continued.loopOf]
        simpa [enter, State.access, Function.update_of_ne (Nat.ne_of_lt created)] using wrong
    | _ => cases accepts
  · have continued := step_continued label (by simpa using accepts) taken
    refine ⟨thread, id, confined, continued.accesses.subset member, ?_, ?_⟩
    · rw [continued.created]
      exact created
    · rw [continued.loopOf]
      exact wrong

/-- In every run of a server with any number of IO loops: every confined step of a
connection runs on the thread of its loop and every use of `connections_` on the
server's, exactly when there are no IO loops or nothing is accepted.

Proof: functors go to the loop they belong to and pollers hold their own channels,
so only the server's thread can stray, by `connect_established`; without IO loops
it is the right thread. With IO loops the first accept strays. -/
theorem confined_iff_no_io_loops_or_no_accept (name : List Char) (ioLoops : Nat)
    (labels : List Label) (s : State)
    (reached : Runs.run (step name ioLoops) initial labels = .ok s) :
    ThreadConfined s ↔ ioLoops = 0 ∨ ∀ label ∈ labels, label.accepts = false := by
  have homed := Runs.invariant (step name ioLoops) (Homed ioLoops)
    (fun _ label _ before taken => step_homed label before taken) labels initial s
    (initial_homed ioLoops) reached
  constructor
  · intro confined
    by_contra neither
    obtain ⟨pooled, accepted⟩ := not_or.mp neither
    simp only [not_forall, Bool.not_eq_false] at accepted
    obtain ⟨label, member, accepts⟩ := accepted
    obtain ⟨before, after, rfl⟩ := List.append_of_mem member
    obtain ⟨middle, _, continued⟩ := (Runs.run_append _ _ _ before (label :: after)).mp reached
    obtain ⟨next, taken, rest⟩ := (Runs.run_cons _ _ _ label after).mp continued
    have start : Strayed next := by
      cases label
      case accept => exact accept_strayed pooled taken
      all_goals cases accepts
    obtain ⟨thread, id, access, inside, _, wrong⟩ := Runs.invariant (step name ioLoops) Strayed
      (fun _ label _ strayed taken => step_strayed label strayed taken) after next s start rest
    exact wrong (confined _ inside)
  · rintro (none | quiet)
    · rintro ⟨thread, place⟩ member
      obtain ⟨_, home | onServer⟩ := homed.accesses _ member
      · exact home
      · rw [onServer]
        cases place with
        | connections => rfl
        | connection id confined => exact (homed.based none id).symm
    · have empty : s.created = 0 :=
        Runs.guarded_invariant (step name ioLoops) (fun _ label => label.accepts = false)
          (fun state => state.created = 0)
          (fun _ label _ before other taken => (step_continued label other taken).created.trans before)
          labels initial s rfl
          (Runs.along_labels _ (fun label => label.accepts = false) initial labels quiet) reached
      rintro ⟨thread, place⟩ member
      obtain ⟨known, home | onServer⟩ := homed.accesses _ member
      · exact home
      · cases place with
        | connections => exact onServer
        | connection id confined =>
          rw [empty] at known
          exact absurd known (Nat.not_lt_zero _)

/-- A connection is accepted and closed by its peer. -/
def acceptedAndClosed : List Label :=
  [.poll 0 [], .accept 5 false, .swap 0, .finishFunctors 0, .send 3 0 ⟨[25, 26], by decide⟩ (.failed 0),
    .poll 0 [0], .dispatch 0 POLLIN, .callback 0 (.received []) (.failed 0), .finishEvent 0, .swap 0,
    .runFunctor 0 (.accepted 2), .runFunctor 0 (.failed 0)]

/-- Without IO loops a connection is accepted, written to, read and closed on the
server's thread alone. -/
theorem confined_accepted_and_closed :
    ∃ s, Runs.run (step [] 0) initial acceptedAndClosed = .ok s ∧ s.accesses.length = 11 ∧
      ThreadConfined s := by
  have computed : (Runs.run (step [] 0) initial acceptedAndClosed).map
      (fun s => s.accesses.length) = .ok 11 := by decide +kernel
  obtain ⟨s, reached, computed⟩ := (Runs.map_returned _ _ _).mp computed
  have confined := (confined_iff_no_io_loops_or_no_accept [] 0 _ s reached).mpr (Or.inl rfl)
  exact ⟨s, reached, computed, confined⟩

/-- With one IO loop the first connection belongs to loop one and is established on
the server's thread. -/
theorem accept_with_io_loop_strays :
    ¬ ∀ (name : List Char) (ioLoops : Nat) (labels : List Label) (s : State),
      Runs.run (step name ioLoops) initial labels = .ok s → ThreadConfined s := by
  intro claimed
  have computed : (Runs.run (step [] 1) initial [.poll 0 [], .accept 5 false]).map
      (fun s => (s.accesses, s.loopOf 0)) =
      .ok ([⟨0, .connections⟩, ⟨0, .connection 0 .connectEstablished⟩,
        ⟨0, .connection 0 .updateChannel⟩], 1) := by decide +kernel
  obtain ⟨s, reached, computed⟩ := (Runs.map_returned _ _ _).mp computed
  simp only [Prod.mk.injEq] at computed
  have confined := claimed [] 1 _ s reached ⟨0, .connection 0 .connectEstablished⟩
    (by simp [computed.1])
  rw [Place.home, computed.2] at confined
  cases confined

end ReactorNetwork.ThreadConfinement
