import ReactorNetwork.Connector
import ReactorNetwork.Epoller
import ReactorNetwork.TcpServer
import ReactorNetwork.TimerQueue

/-!
# What follows the guards

The functions that begin with `assert_in_loop_thread`, each as what it does to the
components of one loop behind that guard: its poller, its timer queue, its queue of
functors, a connector and a server without IO threads with its connections. A connection
and the poller share one channel object; the poller's copy is set from the connection's
where the source updates it. The rest of `loop` is its entry. User callbacks are left out,
and of the kernel only the poller's registrations and the bytes written are kept.

Nearly every body changes something whenever it returns. The exceptions are an update of a
channel that the poller already shows as it is, a send of an empty message that nobody is
told of, and a restart of a connector that is already reset and whose attempt is given up.
-/

namespace ReactorNetwork.GuardedBodies

open TcpServer

/-- The channels the loop's poller knows. -/
inductive ChannelId where
  | connection (id : Nat)
  | connector
  | other (number : Nat)
deriving DecidableEq, Repr

/-- The poller `newDefaultPoller` returns: `Poller` if the environment asks for
it, and `Epoller` otherwise. -/
inductive PollerInterface where
  | poller (s : Poller.State ChannelId)
  | epoller (s : Epoller.State ChannelId)

namespace PollerInterface

/-- The channel of an identity, in either poller. -/
def channel : PollerInterface → ChannelId → Channel
  | .poller s, id => s.objects id
  | .epoller s, id => s.objects id

/-- The object as its owner left it. -/
def setChannel (p : PollerInterface) (id : ChannelId) (c : Channel) : PollerInterface :=
  let object := { p.channel id with fd := c.fd, events := c.events }
  match p with
  | .poller s => .poller { s with objects := Poller.setChannel s.objects id object }
  | .epoller s => .epoller { s with objects := Poller.setChannel s.objects id object }

/-- `update_channel` of the loop's poller. -/
def updateChannel (p : PollerInterface) (id : ChannelId) : Outcome PollerInterface :=
  match p with
  | .poller s => do
      let t ← Poller.updateChannel s id
      pure (.poller t)
  | .epoller s => do
      let t ← Epoller.updateChannel s id
      pure (.epoller t)

/-- `remove_channel` of the loop's poller. -/
def removeChannel (p : PollerInterface) (id : ChannelId) : Outcome PollerInterface :=
  match p with
  | .poller s => do
      let t ← Poller.removeChannel s id
      pure (.poller t)
  | .epoller s => do
      let t ← Epoller.removeChannel s id
      pure (.epoller t)

end PollerInterface

/-- What is queued to the loop. -/
inductive Functor where
  | connectDestoryed (id : Nat)
  | removeConnectionInLoop (id : Nat)
  | writeComplete (id : Nat)
  | addTimerInLoop (timer : Nat)
  | resetChannel
deriving DecidableEq, Repr

/-- What the guards protect. `entered` counts the threads that went into the `while` of
`loop`, and `sent` keeps what the kernel has taken of each connection. -/
structure Components where
  looping : Bool
  quit : Bool
  entered : Nat
  pendingFunctors : List Functor
  poller : PollerInterface
  timerQueue : TimerQueue
  connector : Connector
  objects : Nat → TcpConnection
  sent : Nat → List Byte
  created : Nat
  connections : ConnectionMap

/-- The guarded operations, with their arguments and what the environment answers. -/
inductive Operation where
  | loop
  | updateChannel (channel : ChannelId)
  | removeChannel (channel : ChannelId)
  | addTimerInLoop (timer : Nat)
  | sendInLoop (id : Nat) (message : StringView) (result : WriteResult)
  | connectEstablished (id : Nat)
  | connectDestoryed (id : Nat)
  | handleClose (id : Nat)
  | restart (result : ConnectResult) (retryAt : TimeStamp)
  | newConnection (sockFd : Int) (writeCompleteCallback : Bool)
  | removeConnectionInLoop (id : Nat)

namespace Components

/-- A loop without channels, timers or connections. -/
def fresh : Components where
  looping := false
  quit := false
  entered := 0
  pendingFunctors := []
  poller := .epoller (Epoller.initial fun _ => 0)
  timerQueue := TimerQueue.fresh
  connector := Connector.create
  objects := fun _ => TcpConnection.create 0 false
  sent := fun _ => []
  created := 0
  connections := ∅

/-- `queue_in_loop` for the loop's own thread. -/
def queueInLoop (s : Components) (functor : Functor) : Components :=
  { s with pendingFunctors := s.pendingFunctors ++ [functor] }

variable (name : List Char)

/-- After the guard of `remove_connection_in_loop`. -/
def removeConnectionInLoop (s : Components) (id : Nat) : Outcome Components := do
  let (rest, n) := TcpServer.erase s.connections (connName name id)
  require (n = 1)
  pure ({ s with connections := rest }.queueInLoop (.connectDestoryed id))

/-- What an effect of a connection does to its loop. The close callback is
`remove_connection`, which runs at once on the loop's thread only. -/
def effect (home : Bool) (id : Nat) (s : Components) : Effect → Outcome Components
  | .updateChannel => do
      let poller ← (s.poller.setChannel (.connection id) (s.objects id).channel).updateChannel
        (.connection id)
      pure { s with poller := poller }
  | .removeChannel => do
      let poller ← s.poller.removeChannel (.connection id)
      pure { s with poller := poller }
  | .queueWriteComplete => pure (s.queueInLoop (.writeComplete id))
  | .closeCallback =>
      if home then s.removeConnectionInLoop name id
      else pure (s.queueInLoop (.removeConnectionInLoop id))
  | .wrote data => pure { s with sent := Function.update s.sent id (s.sent id ++ data) }
  | .shutdownWrite | .connectCallback | .messageCallback => pure s

/-- A function of a connection returned. -/
def perform (home : Bool) (s : Components) (id : Nat)
    (outcome : Outcome (TcpConnection × List Effect)) : Outcome Components := do
  let (connection, effects) ← outcome
  effects.foldlM (effect name home id)
    { s with objects := Function.update s.objects id connection }

/-- `run_after` makes a timer and hands it to the loop. -/
def runAfter (home : Bool) (s : Components) (retryAt : TimeStamp) : Components :=
  let timer := s.timerQueue.created
  let made := { s with timerQueue := s.timerQueue.makeTimer retryAt ⟨false, 0⟩ }
  if home then { made with timerQueue := made.timerQueue.addTimerInLoop timer }
  else made.queueInLoop (.addTimerInLoop timer)

/-- What an effect of the connector does to its loop. -/
def connectorEffect (home : Bool) (retryAt : TimeStamp) (s : Components) :
    ConnectorEffect → Outcome Components
  | .updateChannel => do
      let channel ← accessed s.connector.channel
      let poller ← (s.poller.setChannel .connector channel).updateChannel .connector
      pure { s with poller := poller }
  | .removeChannel => do
      let poller ← s.poller.removeChannel .connector
      pure { s with poller := poller }
  | .queueResetChannel => pure (s.queueInLoop .resetChannel)
  | .runAfter _ => pure (s.runAfter home retryAt)
  | .opened _ | .closed _ | .cancelTimer | .newConnection _ => pure s

/-- What follows the guard of an operation; `home` says that the caller is the
loop's own thread. -/
def body (home : Bool) (s : Components) : Operation → Outcome Components
  | .loop => pure { s with looping := true, quit := false, entered := s.entered + 1 }
  | .updateChannel channel => do
      let poller ← s.poller.updateChannel channel
      pure { s with poller := poller }
  | .removeChannel channel => do
      let poller ← s.poller.removeChannel channel
      pure { s with poller := poller }
  | .addTimerInLoop timer => pure { s with timerQueue := s.timerQueue.addTimerInLoop timer }
  | .sendInLoop id message result => s.perform name home id ((s.objects id).sendInLoop message result)
  | .connectEstablished id => s.perform name home id (s.objects id).connectEstablished
  | .connectDestoryed id => s.perform name home id (s.objects id).connectDestoryed
  | .handleClose id => s.perform name home id (s.objects id).handleClose
  | .restart result retryAt => do
      let (connector, effects) ← s.connector.restart result
      effects.foldlM (connectorEffect home retryAt) { s with connector := connector }
  | .newConnection sockFd writeCompleteCallback =>
      let connection := TcpConnection.create sockFd writeCompleteCallback
      let entered := { s with
        objects := Function.update s.objects s.created connection
        created := s.created + 1
        connections := s.connections.insert (connName name s.created) s.created }
      entered.perform name home s.created connection.connectEstablished
  | .removeConnectionInLoop id => s.removeConnectionInLoop name id

/-- What effects leave alone, and what they only add to. -/
structure Grown (s t : Components) : Prop where
  objects : t.objects = s.objects
  created : t.created = s.created
  connector : t.connector = s.connector
  queued : s.pendingFunctors.length ≤ t.pendingFunctors.length
  sent : ∀ id, (s.sent id).length ≤ (t.sent id).length

section Effects

variable {name} {home : Bool} {id : Nat} {s t u : Components}

/-- Nothing happened. -/
theorem Grown.refl (s : Components) : Grown s s :=
  ⟨rfl, rfl, rfl, Nat.le_refl _, fun _ => Nat.le_refl _⟩

/-- Two effects in a row leave alone what both do. -/
theorem Grown.trans (first : Grown s t) (second : Grown t u) : Grown s u where
  objects := second.objects.trans first.objects
  created := second.created.trans first.created
  connector := second.connector.trans first.connector
  queued := Nat.le_trans first.queued second.queued
  sent := fun id => Nat.le_trans (first.sent id) (second.sent id)

/-- Queueing a functor adds one, and does nothing else. -/
theorem queueInLoop_grown (s : Components) (functor : Functor) :
    Grown s (s.queueInLoop functor) ∧
      (s.queueInLoop functor).pendingFunctors.length = s.pendingFunctors.length + 1 :=
  ⟨⟨rfl, rfl, rfl, by simp [queueInLoop], fun _ => Nat.le_refl _⟩, by simp [queueInLoop]⟩

/-- Removing a connection queues one functor, and adds to nothing else. -/
theorem removeConnectionInLoop_grown (removed : s.removeConnectionInLoop name id = .ok t) :
    Grown s t ∧ t.pendingFunctors.length = s.pendingFunctors.length + 1 := by
  obtain ⟨_, same⟩ := (require_bind_ok _ _ _).mp removed
  obtain rfl := (pure_ok _ _).mp same
  exact ⟨⟨rfl, rfl, rfl, by simp [queueInLoop], fun _ => Nat.le_refl _⟩, by simp [queueInLoop]⟩

/-- An effect of a connection changes neither the connections nor the connector. -/
theorem effect_grown {e : Effect} (done : effect name home id s e = .ok t) : Grown s t := by
  cases e with
  | updateChannel | removeChannel =>
    obtain ⟨poller, _, same⟩ := (bind_ok _ _ _).mp done
    obtain rfl := (pure_ok _ _).mp same
    exact ⟨rfl, rfl, rfl, Nat.le_refl _, fun _ => Nat.le_refl _⟩
  | queueWriteComplete =>
    obtain rfl := (pure_ok _ _).mp done
    exact (queueInLoop_grown s _).1
  | closeCallback =>
    simp only [effect] at done
    split at done
    · exact (removeConnectionInLoop_grown done).1
    · obtain rfl := (pure_ok _ _).mp done
      exact (queueInLoop_grown s _).1
  | wrote data =>
    obtain rfl := (pure_ok _ _).mp done
    refine ⟨rfl, rfl, rfl, Nat.le_refl _, ?_⟩
    intro other
    by_cases here : other = id
    · simp [here]
    · simp [Function.update_of_ne here]
  | shutdownWrite | connectCallback | messageCallback =>
    obtain rfl := (pure_ok _ _).mp done
    exact Grown.refl s

/-- Nor do the effects of one function. -/
theorem effects_grown {effects : List Effect}
    (done : effects.foldlM (effect name home id) s = .ok t) : Grown s t :=
  Runs.invariant (effect name home id) (Grown s)
    (fun _ _ _ grown taken => grown.trans (effect_grown taken)) effects s t (Grown.refl s) done

/-- A function of a connection leaves the connection as the function returned it. -/
theorem performed {outcome : Outcome (TcpConnection × List Effect)}
    (done : s.perform name home id outcome = .ok t) :
    ∃ connection effects, outcome = .ok (connection, effects) ∧
      effects.foldlM (effect name home id)
        { s with objects := Function.update s.objects id connection } = .ok t ∧
      t.objects id = connection := by
  obtain ⟨⟨connection, effects⟩, returned, done⟩ := (bind_ok _ _ _).mp done
  refine ⟨connection, effects, returned, done, ?_⟩
  rw [(effects_grown done).objects]
  exact Function.update_self id connection s.objects

/-- Appending some bytes moves an index, also where a size wraps around. -/
theorem appendBytes_changes {b after : Buffer} {data : List Byte} {len : Nat}
    (returned : b.appendBytes data len = .ok after) (some_ : 0 < len) (sized : len < sizeLimit) :
    after ≠ b := by
  obtain ⟨spacious, source, written, made, loaded, _, rfl⟩ := Buffer.appendBytes_done returned
  rw [CellStore.load_length loaded]
  intro same
  have writer : sizeAdd spacious.writerIndex len = b.writerIndex :=
    congrArg (fun buffer => buffer.writerIndex) same
  have reader : spacious.readerIndex = b.readerIndex :=
    congrArg (fun buffer => buffer.readerIndex) same
  cases (Buffer.ensured made).1 with
  | enough | grown =>
    simp only [sizeAdd] at writer
    unfold sizeLimit at writer sized
    omega
  | moved _ _ reclaimable => exact absurd reader (Nat.ne_of_lt reclaimable)

/-- A message that was not written whole is stored behind the output. -/
theorem sendInLoop_changes {c after : TcpConnection} {message : StringView} {result : WriteResult}
    {effects : List Effect} (returned : c.sendInLoop message result = .ok (after, effects))
    (partly : (c.writeDirectly message.bytes result).1 < message.bytes.length) : after ≠ c := by
  have addressable := message.addressable
  have exact : sizeSub message.bytes.length (c.writeDirectly message.bytes result).1 =
      message.bytes.length - (c.writeDirectly message.bytes result).1 :=
    sizeSub_exact _ _ (Nat.le_of_lt partly)
      (by unfold vectorMaxSize at addressable; unfold sizeLimit; omega)
  unfold TcpConnection.sendInLoop at returned
  simp only [if_pos partly] at returned
  obtain ⟨buffered, appended, returned⟩ := (bind_ok _ _ _).mp returned
  have other : buffered ≠ c.outputBuffer := appendBytes_changes appended (by rw [exact]; omega) (by
    rw [exact]
    unfold vectorMaxSize at addressable
    unfold sizeLimit
    omega)
  intro same
  have output := congrArg TcpConnection.outputBuffer same
  split at returned
  · obtain ⟨rfl, _⟩ := Prod.mk.inj ((pure_ok _ _).mp returned)
    exact other output
  · obtain ⟨rfl, _⟩ := Prod.mk.inj ((pure_ok _ _).mp returned)
    exact other output

end Effects

end Components

end ReactorNetwork.GuardedBodies
