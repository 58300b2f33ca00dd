import ReactorNetwork.ClientStop
import ReactorNetwork.ConnectionTrace
import ReactorNetwork.ConnectorCalls

/-!
# A reconnecting client on its loop

A client, its connector, its connections and the loop that serves them, in one
machine. The connector with its retry timers and queued resets, and the client
with its connections and queued destructions, are the machines of their own
modules; a label here says which step each of the two takes. They poll together,
swap and finish their functors together, and while one of them is inside a
handler no channel of the other is dispatched. The active channels may be
dispatched in any order, and so may the functors of a batch.

`connect` is called once. `stop`, `disconnect`, `send` and `shutdown` may be
called between any two steps, which includes every point at which a user callback
runs. The errors of `connect`, the socket errors, the event masks and the results
of reading and writing are arbitrary.

The timer descriptor serves every timer of the loop, so a poll may report it at
any time, and cancelling another timer may erase a retry timer of the same
expiration. The functors for write-complete callbacks are user code, and the
destructor is left out.
-/

namespace ReactorNetwork.ClientLoop

open ConnectionLife TcpClient
open ConnectorLoop (Source)

/-- The connector's loop and the client with its connections, on one loop. -/
structure State where
  loop : ConnectorLoop.State
  life : Traced client

/-- `dispatchConnector`, `connectorCallback`, `expire`, `fire` and `finishSource` are
the dispatch of the connector's and of the timer queue's channel, `dispatch`,
`callback`, `remove` and `finishEvent` that of a connection. `forget` is the
cancellation of another timer that erases a retry timer. -/
inductive Label where
  | enableRetry
  | connect (result : ConnectResult)
  | disconnect
  | stop
  | shutdown (id : Nat)
  | send (id : Nat) (message : StringView) (result : WriteResult)
  | poll (sources : List Source) (connections : List Nat)
  | dispatchConnector (revents : EventMask)
  | connectorCallback (socketError : Nat) (selfConnect pollFailed writeCompleteCallback : Bool)
  | expire (expired : List Nat)
  | fire (result : ConnectResult)
  | forget (timer : Nat)
  | finishSource
  | dispatch (revents : EventMask)
  | callback (read : ReadvResult) (write : WriteResult)
  | remove (result : ConnectResult)
  | finishEvent
  | swap
  | resetChannel
  | connectDestoryed
  | finishFunctors

/-- A client before its first call. -/
def initial : State where
  loop := ConnectorLoop.initial
  life := Traced.initial client

/-- The client and the number of resets it has queued. -/
def queued (life : Traced client) : Queued := life.system.owner

/-- What the connector does in a step. A removal restarts it if the client wants
the connection back. -/
def loopLabel (s : State) : Label → Option ConnectorLoop.Label
  | .connect result => some (.start result)
  | .stop => some .stop
  | .poll sources _ => some (.poll sources)
  | .dispatchConnector revents => some (.dispatch revents)
  | .connectorCallback socketError selfConnect _ _ => some (.callback socketError selfConnect)
  | .expire expired => some (.expire expired)
  | .fire result => some (.fire result)
  | .forget timer => some (.forget timer)
  | .finishSource => some .finishEvent
  | .remove result =>
      if (queued s.life).client.retry && (queued s.life).client.connectFlag then
        some (.restart result)
      else none
  | .swap => some .swap
  | .resetChannel => some .runFunctor
  | .finishFunctors => some .finishFunctors
  | _ => none

/-- What the client and its connections do in a step. -/
def lifeLabels (s : State) : Label → List (ConnectionLife.Label client)
  | .enableRetry => [.owner .enableRetry]
  | .connect result => [.owner .connect, .owner (.startInLoop result)]
  | .disconnect =>
      .owner .disconnect ::
        ((queued s.life).client.connection.map ConnectionLife.Label.shutdown).toList
  | .stop => [.owner .stop]
  | .shutdown id => [.shutdown id]
  | .send id message result => [.send id message result]
  | .poll _ connections => [.poll connections]
  | .connectorCallback socketError selfConnect pollFailed writeCompleteCallback =>
      match s.loop.phase with
      | .handling (.error :: _) _ => [.owner .handleError]
      | .handling (.write :: _) _ =>
          [.owner (.handleWrite socketError selfConnect pollFailed writeCompleteCallback)]
      | _ => []
  | .fire result => [.owner (.startInLoop result)]
  | .dispatch revents => [.dispatch revents]
  | .callback read write => [.callback read write]
  | .remove result => [.remove result]
  | .finishEvent => [.finishEvent]
  | .swap => [.swap]
  | .resetChannel => [.owner .resetChannel]
  | .connectDestoryed => [.runFunctor]
  | .finishFunctors => [.finishFunctors]
  | .dispatchConnector _ | .expire _ | .forget _ | .finishSource => []

/-- The loop is between two channels, as far as the connector knows. -/
def connectorRests (s : State) : Bool :=
  match s.loop.phase with
  | .dispatching _ => true
  | _ => false

/-- The loop is between two channels, as far as the connections know. -/
def connectionsRest (s : State) : Bool :=
  match s.life.system.phase with
  | .dispatching _ => true
  | _ => false

/-- `connect` is called once, a channel is dispatched when no other handler runs, and
a connection is removed by its close callback. -/
def permitted (s : State) : Label → Bool
  | .connect _ => !s.loop.started
  | .dispatchConnector _ | .expire _ => connectionsRest s
  | .dispatch _ => connectorRests s
  | .remove _ => !s.life.system.phase.removed.isEmpty
  | _ => true

/-- Why a step did not return: it was not permitted, the connector failed, a call of
the client failed, or a function of a connection did. -/
inductive Failure where
  | refused
  | connector (fault : Fault)
  | client (failure : ConnectionLife.Failure)
  | connection (failure : ConnectionLife.Failure)
deriving DecidableEq, Repr

/-- Whether a failure is the client's or a connection's. -/
def origin : ConnectionLife.Label client → ConnectionLife.Failure → Failure
  | .owner _, failure | .remove _, failure => .client failure
  | _, failure => .connection failure

/-- The connector's part of a step, which may be none. -/
def connectorStep (loop : ConnectorLoop.State) :
    Option ConnectorLoop.Label → Except Failure ConnectorLoop.State
  | none => pure loop
  | some label => (ConnectorLoop.step loop label).mapError .connector

/-- One call of the client's or a connection's part of a step. -/
def clientStep (life : Traced client) (label : ConnectionLife.Label client) :
    Except Failure (Traced client) :=
  (life.step label).mapError (origin label)

/-- One step of the loop: the connector's part, then the client's and the
connections'. -/
def step (s : State) (label : Label) : Except Failure State :=
  if permitted s label then do
    let loop ← connectorStep s.loop (loopLabel s label)
    let life ← Runs.run clientStep s.life (lifeLabels s label)
    pure { loop := loop, life := life }
  else .error .refused

/-- The kernel does not report a hang-up without readable data together with
urgent data or a peer shutdown. -/
def plainHangup (_ : State) : Label → Prop
  | .dispatch revents => hangup revents = true → anySet revents (POLLPRI ||| POLLRDHUP) = false
  | _ => True

instance (s : State) (label : Label) : Decidable (plainHangup s label) :=
  match label with
  | .dispatch _ => inferInstanceAs (Decidable (_ → _))
  | .enableRetry | .connect _ | .disconnect | .stop | .shutdown _ | .send _ _ _ | .poll _ _
  | .dispatchConnector _ | .connectorCallback _ _ _ _ | .expire _ | .fire _ | .forget _
  | .finishSource | .callback _ _ | .remove _ | .finishEvent | .swap | .resetChannel
  | .connectDestoryed | .finishFunctors => isTrue trivial

/-- A retry timer that runs finds the channel of its failed attempt reset, or does not
need one. -/
def resetFirst (s : State) : Label → Prop
  | .fire result => ConnectorLoop.resetFirst s.loop (.fire result)
  | _ => True

instance (s : State) (label : Label) : Decidable (resetFirst s label) :=
  match label with
  | .fire result => inferInstanceAs (Decidable (ConnectorLoop.resetFirst s.loop (.fire result)))
  | .enableRetry | .connect _ | .disconnect | .stop | .shutdown _ | .send _ _ _ | .poll _ _
  | .dispatchConnector _ | .connectorCallback _ _ _ _ | .expire _ | .forget _ | .finishSource
  | .dispatch _ | .callback _ _ | .remove _ | .finishEvent | .swap | .resetChannel
  | .connectDestoryed | .finishFunctors => isTrue trivial

section Parts

/-- Renaming the failures of a computation keeps what it returns. -/
theorem mapError_ok {ε ε' α : Type} (name : ε → ε') (outcome : Except ε α) (value : α) :
    outcome.mapError name = .ok value ↔ outcome = .ok value := by
  cases outcome <;> simp [Except.mapError]

/-- A failure under the new names is one under the old. -/
theorem mapError_failed {ε ε' α : Type} (name : ε → ε') (outcome : Except ε α) (reason : ε') :
    outcome.mapError name = .error reason ↔ ∃ inner, outcome = .error inner ∧ name inner = reason := by
  cases outcome <;> simp [Except.mapError]

/-- Naming the origin of a failure changes no run that returns. -/
theorem run_clientStep (life after : Traced client) (labels : List (ConnectionLife.Label client)) :
    Runs.run clientStep life labels = .ok after ↔ Runs.run Traced.step life labels = .ok after := by
  induction labels generalizing life with
  | nil => simp
  | cons label rest inductionHypothesis =>
    simp only [Runs.run_cons, clientStep, mapError_ok, inductionHypothesis]

/-- A step that returns is permitted, and both parts return. -/
theorem step_parts {s t : State} {label : Label} (taken : step s label = .ok t) :
    permitted s label = true ∧ connectorStep s.loop (loopLabel s label) = .ok t.loop ∧
      Runs.run Traced.step s.life (lifeLabels s label) = .ok t.life := by
  unfold step at taken
  split at taken
  case isFalse => cases taken
  case isTrue allowed =>
    obtain ⟨loop, connectorTaken, continued⟩ := (bind_ok _ _ _).mp taken
    obtain ⟨life, clientTaken, finished⟩ := (bind_ok _ _ _).mp continued
    obtain rfl := (pure_ok _ _).mp finished
    exact ⟨allowed, connectorTaken, (run_clientStep _ _ _).mp clientTaken⟩

end Parts

end ReactorNetwork.ClientLoop
