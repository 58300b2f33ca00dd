import ReactorNetwork.ConnectionLife
import ReactorNetwork.Connector

/-!
# TCP client on its loop

A client holds at most one connection, which its connector hands over. The
connector's callbacks, its start, whether asked for by `connect` or by a retry
timer, and the queued resets of its channel are steps of their own; each may
come at any time, which includes every order the loop can produce. A start that
finds the connector in the wrong state ends the run at its assertion.

The law is that a client with a connection has a connector that is `connected`,
so no second connection can be handed over before the first is removed. The
destructor is left out, and so are the connection names, which are not keys.
-/

namespace ReactorNetwork

open ConnectionLife

/-- `connectFlag` is the member `connect_`; a connection is given by its number. -/
structure TcpClient where
  connector : Connector
  retry : Bool
  connectFlag : Bool
  connection : Option Nat
deriving DecidableEq, Repr

namespace TcpClient

/-- The constructor. -/
def create : TcpClient where
  connector := Connector.create
  retry := false
  connectFlag := true
  connection := none

/-- `connect`, without the `start_in_loop` it queues. -/
def connect (c : TcpClient) : TcpClient :=
  { c with connectFlag := true, connector := c.connector.start }

/-- The shutdown of the connection is a step of the connection. -/
def disconnect (c : TcpClient) : TcpClient := { c with connectFlag := false }

/-- `stop`. -/
def stop (c : TcpClient) : TcpClient :=
  { c with connectFlag := false, connector := c.connector.stop.1 }

/-- `enable_retry`. -/
def enableRetry (c : TcpClient) : TcpClient := { c with retry := true }

/-- The socket `new_connection` makes a connection of, unless its `poll` fails. -/
def newConnection (pollFailed writeCompleteCallback : Bool) (effects : List ConnectorEffect) :
    Option (Int × Bool) :=
  effects.findSome? fun
    | .newConnection sockFd => if pollFailed then none else some (sockFd, writeCompleteCallback)
    | _ => none

/-- `remove_connection`; the queueing of `connect_destoryed`, which comes before
the restart, is left to the loop. -/
def removeConnection (c : TcpClient) (id : Nat) (result : ConnectResult) :
    Except Failure (TcpClient × List ConnectorEffect) :=
  if c.connection = some id then
    let reset := { c with connection := none }
    if c.retry && c.connectFlag then do
      let (connector, effects) ← lift (c.connector.restart result)
      pure ({ reset with connector := connector }, effects)
    else pure (reset, [])
  else .error .removal

/-- The client and the number of `reset_channel` functors queued for it. -/
structure Queued where
  client : TcpClient
  resets : Nat

/-- What the client is called with: by the user, and by its connector in the loop. -/
inductive Action where
  | connect
  | disconnect
  | stop
  | enableRetry
  | startInLoop (result : ConnectResult)
  | handleWrite (socketError : Nat) (selfConnect pollFailed writeCompleteCallback : Bool)
  | handleError
  | resetChannel

/-- The effect on the queue of functors. -/
def queued (q : Queued) (client : TcpClient) (effects : List ConnectorEffect) : Queued where
  client := client
  resets := q.resets + effects.count .queueResetChannel

/-- A callback of the connector, and what it hands over. -/
def connectorStep (q : Queued) (outcome : Outcome (Connector × List ConnectorEffect))
    (pollFailed writeCompleteCallback : Bool) : Except Failure (Queued × Option (Int × Bool)) := do
  let (connector, effects) ← lift outcome
  pure (queued q { q.client with connector := connector } effects,
    newConnection pollFailed writeCompleteCallback effects)

/-- What a call makes of the client, with the socket handed over by it. -/
def act (q : Queued) : Action → Except Failure (Queued × Option (Int × Bool))
  | .connect => pure ({ q with client := q.client.connect }, none)
  | .disconnect => pure ({ q with client := q.client.disconnect }, none)
  | .stop => pure ({ q with client := q.client.stop }, none)
  | .enableRetry => pure ({ q with client := q.client.enableRetry }, none)
  | .startInLoop result => connectorStep q (q.client.connector.startInLoop result) false false
  | .handleWrite socketError selfConnect pollFailed writeCompleteCallback =>
      connectorStep q (q.client.connector.handleWrite socketError selfConnect) pollFailed
        writeCompleteCallback
  | .handleError => connectorStep q q.client.connector.handleError false false
  | .resetChannel =>
      if 0 < q.resets then
        pure ({ client := { q.client with connector := q.client.connector.resetChannel }
                resets := q.resets - 1 }, none)
      else .error .notEnabled

/-- A client as the owner of its connection. -/
def client : Owner where
  State := Queued
  Label := Action
  Choice := ConnectResult
  initial := { client := create, resets := 0 }
  act := act
  enroll := fun q id => { q with client := { q.client with connection := some id } }
  remove := fun q id result => do
    let (after, effects) ← q.client.removeConnection id result
    pure (queued q after effects)
  holds := fun q id => q.client.connection = some id

/-- A client with a connection has a connector in state `connected`. -/
def Settled (q : Queued) : Prop :=
  q.client.connection ≠ none → q.client.connector.state = .connected

/-- Only a handed-over socket becomes a connection. -/
theorem newConnection_handed {pollFailed writeCompleteCallback : Bool}
    {effects : List ConnectorEffect} {socket : Int × Bool}
    (made : newConnection pollFailed writeCompleteCallback effects = some socket) :
    ∃ sockFd, .newConnection sockFd ∈ effects := by
  obtain ⟨effect, member, found⟩ := List.exists_of_findSome?_eq_some made
  cases effect <;> simp at found
  exact ⟨_, member⟩

/-- What a step of a settled client's own can do: it leaves the connection and
the connector's state alone, or it is a callback of a connector that is not
`connected`. Then the client has no connection, and a socket handed over leaves
the connector `connected`. -/
def Acted (q after : Queued) (socket : Option (Int × Bool)) : Prop :=
  (after.client.connection = q.client.connection ∧
      after.client.connector.state = q.client.connector.state ∧ socket = none) ∨
    (q.client.connection = none ∧ after.client.connection = none ∧
      (socket.isSome → after.client.connector.state = .connected))

/-- A function of the connector that returns is called for a client without a
connection. -/
theorem connectorStep_acted {q after : Queued}
    {outcome : Outcome (Connector × List ConnectorEffect)}
    {pollFailed writeCompleteCallback : Bool} {socket : Option (Int × Bool)} (settled : Settled q)
    (callback : ∀ connector effects, outcome = .ok (connector, effects) →
      q.client.connector.state ≠ .connected ∧
        ∀ sockFd, .newConnection sockFd ∈ effects → connector.state = .connected)
    (taken : connectorStep q outcome pollFailed writeCompleteCallback = .ok (after, socket)) :
    Acted q after socket := by
  obtain ⟨⟨connector, effects⟩, returned, same⟩ := (bind_ok _ _ _).mp taken
  obtain ⟨rfl, rfl⟩ := Prod.mk.inj ((pure_ok _ _).mp same)
  obtain ⟨unsettled, handed⟩ := callback connector effects ((lift_ok _ _).mp returned)
  have none : q.client.connection = none := by
    by_contra some
    exact unsettled (settled some)
  refine Or.inr ⟨none, none, ?_⟩
  intro made
  obtain ⟨socket, found⟩ := Option.isSome_iff_exists.mp made
  obtain ⟨sockFd, member⟩ := newConnection_handed found
  exact handed sockFd member

/-- Every step of a settled client's own is one of these. -/
theorem act_acted {q after : Queued} {action : Action} {socket : Option (Int × Bool)}
    (settled : Settled q) (taken : act q action = .ok (after, socket)) :
    Acted q after socket := by
  cases action
  case connect | disconnect | stop | enableRetry =>
    obtain ⟨rfl, rfl⟩ := Prod.mk.inj ((pure_ok _ _).mp taken)
    exact Or.inl ⟨rfl, rfl, rfl⟩
  case startInLoop result =>
    refine connectorStep_acted settled ?_ taken
    intro connector effects returned
    obtain ⟨disconnected, quiet⟩ := Connector.startInLoop_state returned
    exact ⟨by simp [disconnected], fun sockFd member => absurd member (quiet sockFd)⟩
  case handleWrite socketError selfConnect pollFailed writeCompleteCallback =>
    refine connectorStep_acted settled ?_ taken
    exact fun connector effects returned => Connector.handleWrite_state returned
  case handleError =>
    refine connectorStep_acted settled ?_ taken
    intro connector effects returned
    obtain ⟨connecting, quiet⟩ := Connector.handleError_state returned
    exact ⟨by simp [connecting], fun sockFd member => absurd member (quiet sockFd)⟩
  case resetChannel =>
    simp only [act] at taken
    split at taken
    · obtain ⟨rfl, rfl⟩ := Prod.mk.inj ((pure_ok _ _).mp taken)
      exact Or.inl ⟨rfl, rfl, rfl⟩
    · cases taken

/-- A client's own steps fail by an assertion of the connector, or are refused. -/
theorem act_unnamed (q : Queued) (action : Action) {failure : Failure} (named : Named failure) :
    act q action ≠ .error failure := by
  have callback : ∀ outcome pollFailed writeCompleteCallback,
      connectorStep q outcome pollFailed writeCompleteCallback ≠ .error failure := by
    intro outcome pollFailed writeCompleteCallback failed
    rcases (bind_failed _ _ _).mp failed with inside | ⟨result, _, after⟩
    · exact lift_unnamed _ named inside
    · cases after
  cases action
  case connect | disconnect | stop | enableRetry =>
    intro failed
    cases failed
  case startInLoop | handleWrite | handleError => exact callback _ _ _
  case resetChannel =>
    simp only [act]
    split
    · intro failed
      cases failed
    · intro failed
      rcases named with rfl | rfl <;> cases failed

/-- A removal finds the connection and leaves none, or fails at its assertion. -/
theorem removeConnection_ok {c after : TcpClient} {id : Nat} {result : ConnectResult}
    {effects : List ConnectorEffect}
    (removed : c.removeConnection id result = .ok (after, effects)) :
    c.connection = some id ∧ after.connection = none := by
  unfold removeConnection at removed
  split at removed
  · rename_i found
    constructor
    · exact found
    · simp only at removed
      split at removed
      · obtain ⟨⟨connector, further⟩, _, same⟩ := (bind_ok _ _ _).mp removed
        obtain ⟨rfl, _⟩ := Prod.mk.inj ((pure_ok _ _).mp same)
        rfl
      · obtain ⟨rfl, _⟩ := Prod.mk.inj ((pure_ok _ _).mp removed)
        rfl
  · cases removed

/-- A removal fails a named assertion only if the client holds another
connection or none. -/
theorem removeConnection_failed {c : TcpClient} {id : Nat} {result : ConnectResult}
    {failure : Failure} (named : Named failure)
    (failed : c.removeConnection id result = .error failure) :
    c.connection ≠ some id ∧ failure = .removal := by
  unfold removeConnection at failed
  split at failed
  · simp only at failed
    split at failed
    · rcases (bind_failed _ _ _).mp failed with inside | ⟨restarted, _, after⟩
      · exact absurd inside (lift_unnamed _ named)
      · cases after
    · cases failed
  · rename_i other
    exact ⟨other, (Except.error.inj failed).symm⟩

/-- A client owns at most one connection, the last it established, until that is
removed. -/
theorem client_lawful : Lawful client Settled where
  initial_valid := fun some => absurd rfl some
  initial_empty := by
    intro id held
    cases held
  act_kept := by
    intro q action after socket settled acted
    rcases act_acted settled acted with ⟨connection, state, _⟩ | ⟨before, none, _⟩
    · constructor
      · intro some
        rw [state]
        exact settled (connection ▸ some)
      · intro id
        simp only [client, connection]
    · constructor
      · exact fun some => absurd none some
      · intro id
        simp only [client, before, none]
  enroll_kept := by
    intro q action after socket id settled acted _
    rcases act_acted settled acted with ⟨_, _, nothing⟩ | ⟨before, _, connected⟩
    · cases nothing
    · constructor
      · exact fun _ => connected rfl
      · intro other
        simp [client, before, eq_comm]
  remove_kept := by
    intro q id result after settled removed
    obtain ⟨⟨client, effects⟩, inside, same⟩ := (bind_ok _ _ _).mp removed
    obtain rfl := (pure_ok _ _).mp same
    obtain ⟨found, none⟩ := removeConnection_ok inside
    constructor
    · exact fun some => absurd none some
    · intro other
      simp [TcpClient.client, queued, found, none, eq_comm]
  remove_held := by
    intro q id result _ held failed
    rcases (bind_failed _ _ _).mp failed with inside | ⟨removed, _, after⟩
    · exact (removeConnection_failed (Or.inl rfl) inside).1 held
    · cases after
  act_quiet := fun q action => ⟨act_unnamed q action (Or.inl rfl), act_unnamed q action (Or.inr rfl)⟩
  remove_quiet := by
    intro q id result failed
    rcases (bind_failed _ _ _).mp failed with inside | ⟨removed, _, after⟩
    · cases (removeConnection_failed (Or.inr rfl) inside).2
    · cases after

end TcpClient

end ReactorNetwork
