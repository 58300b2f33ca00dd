import ReactorNetwork.TcpClient

/-!
# Stopping a client

`stop` clears two flags, the client's and its connector's, and everything that
could create a socket or hand one over reads one of them: a start of the
connector, whether by a retry timer or by a queued call, a writable event of an
attempt in progress, and the restart inside the close path. Only `connect` sets
them again.

The runs are those of a client on its loop, in which the connector's callbacks
and starts may come at any time. They include every order in which timers of one
expired batch, queued functors and user callbacks can follow a `stop`.
-/

namespace ReactorNetwork

open ConnectionLife

namespace Connector

/-- What `start_in_loop` does outside, up to its end or the assertion that ended
it. The socket exists before `connecting` asserts. -/
def startEffects (c : Connector) (result : ConnectResult) : List ConnectorEffect :=
  match c.startInLoop result with
  | .ok (_, effects) => effects
  | .error _ => if c.state = .disconnected ∧ c.connectFlag then [.opened result.sockFd] else []

/-- What a callback did outside if it returned. Its assertions come first. -/
def callbackEffects : Outcome (Connector × List ConnectorEffect) → List ConnectorEffect
  | .ok (_, effects) => effects
  | .error _ => []

end Connector

namespace TcpClient

/-- What the removal's restart does outside. A restart leaves its first assertion
behind. -/
def restartEffects (c : TcpClient) (id : Nat) (result : ConnectResult) : List ConnectorEffect :=
  match c.removeConnection id result with
  | .ok (_, effects) => effects
  | .error _ =>
      if c.connection = some id ∧ c.retry = true ∧ c.connectFlag = true then [.opened result.sockFd]
      else []

/-- The client of a run. -/
def current (s : System client) : TcpClient := Queued.client s.owner

/-- What a step of the run makes the connector do outside. -/
def connectorEffects (s : System client) : ConnectionLife.Label client → List ConnectorEffect
  | .owner (.startInLoop result) => (current s).connector.startEffects result
  | .owner (.handleWrite socketError selfConnect _ _) =>
      Connector.callbackEffects ((current s).connector.handleWrite socketError selfConnect)
  | .owner .handleError => Connector.callbackEffects (current s).connector.handleError
  | .remove result =>
      match s.phase with
      | .removing id _ _ _ => (current s).restartEffects id result
      | _ => []
  | _ => []

/-- An attempt begins with a new socket, and a connection with a socket handed
over. -/
def Begins : ConnectorEffect → Prop
  | .opened _ | .newConnection _ => True
  | _ => False

/-- Both flags are cleared. -/
def Stopped (c : TcpClient) : Prop := c.connectFlag = false ∧ c.connector.connectFlag = false

/-- A stopped connector that is started neither creates a socket nor gets its flag
back. -/
theorem start_stopped {c : Connector} {result : ConnectResult} (stopped : c.connectFlag = false) :
    (∀ effect ∈ c.startEffects result, ¬ Begins effect) ∧
      ∀ after effects, c.startInLoop result = .ok (after, effects) →
        after.connectFlag = false := by
  have declined : ∀ after effects, c.startInLoop result = .ok (after, effects) →
      after = c ∧ effects = [] := by
    intro after effects returned
    cases (Connector.startInLoop_attempted returned).2 with
    | declined => exact ⟨rfl, rfl⟩
    | begun wanted | refused wanted | abandoned wanted =>
      rw [stopped] at wanted
      cases wanted
  constructor
  · unfold Connector.startEffects
    split
    case h_1 returned => simp [(declined _ _ returned).2]
    case h_2 => simp [stopped]
  · intro after effects returned
    rw [(declined _ _ returned).1]
    exact stopped

/-- An event of a stopped connector ends an attempt in progress without handing
its socket over. -/
theorem ended_stopped {c after : Connector} {channel : Channel} {effects : List ConnectorEffect}
    (stopped : c.connectFlag = false) (ended : c.Ended channel after effects) :
    (∀ effect ∈ effects, ¬ Begins effect) ∧ after.connectFlag = false := by
  cases ended with
  | failed | dropped => exact ⟨by simp [Begins], stopped⟩
  | retried wanted | handedOver wanted =>
    rw [stopped] at wanted
    cases wanted

/-- A writable event of a stopped connector begins nothing. -/
theorem handleWrite_stopped {c after : Connector} {socketError : Nat} {selfConnect : Bool}
    {effects : List ConnectorEffect} (stopped : c.connectFlag = false)
    (returned : c.handleWrite socketError selfConnect = .ok (after, effects)) :
    (∀ effect ∈ effects, ¬ Begins effect) ∧ after.connectFlag = false := by
  rcases Connector.handleWrite_ended returned with
    ⟨_, channel, _, ended⟩ | ⟨_, rfl, rfl⟩
  · exact ended_stopped stopped ended
  · exact ⟨by simp, stopped⟩

/-- Nor does an error event. -/
theorem handleError_stopped {c after : Connector} {effects : List ConnectorEffect}
    (stopped : c.connectFlag = false) (returned : c.handleError = .ok (after, effects)) :
    (∀ effect ∈ effects, ¬ Begins effect) ∧ after.connectFlag = false := by
  obtain ⟨_, _, channel, _, ended⟩ := Connector.handleError_ended returned
  exact ended_stopped stopped ended

/-- A removal by a stopped client does not restart. -/
theorem removeConnection_stopped {c : TcpClient} {id : Nat} {result : ConnectResult}
    (stopped : Stopped c) :
    (∀ effect ∈ c.restartEffects id result, ¬ Begins effect) ∧
      ∀ after effects, c.removeConnection id result = .ok (after, effects) → Stopped after := by
  have unwanted : (c.retry && c.connectFlag) = false := by simp [stopped.1]
  constructor
  · unfold restartEffects removeConnection
    by_cases found : c.connection = some id
    · simp [found, unwanted, pure, Except.pure]
    · simp [found]
  · intro after effects removed
    unfold removeConnection at removed
    split at removed
    · simp only [unwanted, Bool.false_eq_true, if_false] at removed
      obtain ⟨rfl, _⟩ := Prod.mk.inj ((pure_ok _ _).mp removed)
      exact stopped
    · cases removed

/-- In a state with both flags cleared no step begins anything. -/
theorem stopped_begins_nothing {s : System client} (stopped : Stopped (current s))
    (label : ConnectionLife.Label client) :
    ∀ effect ∈ connectorEffects s label, ¬ Begins effect := by
  have callback : ∀ outcome : Outcome (Connector × List ConnectorEffect),
      (∀ after effects, outcome = .ok (after, effects) → ∀ effect ∈ effects, ¬ Begins effect) →
      ∀ effect ∈ Connector.callbackEffects outcome, ¬ Begins effect := by
    intro outcome quiet
    cases outcome with
    | error => simp [Connector.callbackEffects]
    | ok result => exact quiet result.1 result.2 rfl
  cases label
  case owner action =>
    cases action
    case startInLoop result => exact (start_stopped stopped.2).1
    case handleWrite socketError selfConnect _ _ =>
      exact callback _ fun _ _ returned => (handleWrite_stopped stopped.2 returned).1
    case handleError => exact callback _ fun _ _ returned => (handleError_stopped stopped.2 returned).1
    all_goals simp [connectorEffects]
  case remove result =>
    simp only [connectorEffects]
    split
    · exact (removeConnection_stopped stopped).1
    · simp
  all_goals simp [connectorEffects]

/-- A removal leaves a stopped client stopped. -/
theorem remove_stopped {s t : System client} (stopped : Stopped (current s))
    (result : ConnectResult) (taken : step s (.remove result) = .ok t) : Stopped (current t) := by
  simp only [step] at taken
  split at taken
  case h_2 => cases taken
  case h_1 id revents callbacks active removing =>
    obtain ⟨owner, removed, continued⟩ := (bind_ok _ _ _).mp taken
    obtain rfl := (pure_ok _ _).mp continued
    obtain ⟨⟨after, effects⟩, inside, same⟩ := (bind_ok _ _ _).mp removed
    obtain rfl := (pure_ok _ _).mp same
    exact (removeConnection_stopped stopped).2 after effects inside

/-- A client's own step, `connect` apart, keeps the flags cleared. -/
theorem act_stopped {q after : Queued} {action : Action} {socket : Option (Int × Bool)}
    (stopped : Stopped q.client) (other : action ≠ .connect)
    (taken : act q action = .ok (after, socket)) : Stopped after.client := by
  have callback : ∀ outcome pollFailed writeCompleteCallback,
      connectorStep q outcome pollFailed writeCompleteCallback = .ok (after, socket) →
      (∀ connector effects, outcome = .ok (connector, effects) → connector.connectFlag = false) →
      Stopped after.client := by
    intro outcome pollFailed writeCompleteCallback returned kept
    obtain ⟨⟨connector, effects⟩, inside, same⟩ := (bind_ok _ _ _).mp returned
    obtain ⟨rfl, _⟩ := Prod.mk.inj ((pure_ok _ _).mp same)
    exact ⟨stopped.1, kept connector effects ((lift_ok _ _).mp inside)⟩
  cases action
  case connect => exact absurd rfl other
  case startInLoop result =>
    exact callback _ _ _ taken fun _ _ returned => (start_stopped stopped.2).2 _ _ returned
  case handleWrite =>
    exact callback _ _ _ taken fun _ _ returned => (handleWrite_stopped stopped.2 returned).2
  case handleError =>
    exact callback _ _ _ taken fun _ _ returned => (handleError_stopped stopped.2 returned).2
  case disconnect | stop | enableRetry =>
    obtain ⟨rfl, _⟩ := Prod.mk.inj ((pure_ok _ _).mp taken)
    simp_all [Stopped, disconnect, TcpClient.stop, Connector.stop, enableRetry]
  case resetChannel =>
    simp only [act] at taken
    split at taken
    · obtain ⟨rfl, _⟩ := Prod.mk.inj ((pure_ok _ _).mp taken)
      exact stopped
    · cases taken

/-- Every step but `connect` keeps the flags cleared. -/
theorem step_stopped {s t : System client} (stopped : Stopped (current s))
    (label : ConnectionLife.Label client) (other : label ≠ .owner .connect)
    (taken : step s label = .ok t) : Stopped (current t) := by
  by_cases foreign : ∀ action, label ≠ .owner action
  · by_cases kept : ∀ choice, label ≠ .remove choice
    · have same := step_owner taken foreign kept
      rw [current, same]
      exact stopped
    · obtain ⟨result, rfl⟩ := not_forall_not.mp kept
      exact remove_stopped stopped result taken
  · obtain ⟨action, rfl⟩ := not_forall_not.mp foreign
    obtain ⟨⟨q, socket⟩, acted, continued⟩ := (bind_ok _ _ _).mp taken
    have after := act_stopped stopped (fun same => other (by rw [same])) acted
    cases socket with
    | none =>
      obtain rfl := (pure_ok _ _).mp continued
      exact after
    | some socket =>
      simp only at continued
      split at continued
      · obtain ⟨_, _, finished⟩ := (bind_ok _ _ _).mp continued
        obtain rfl := (pure_ok _ _).mp finished
        exact after
      · cases continued

/-- After a `stop` and until the next `connect`, no step creates a socket or
invokes `new_connection`, whatever was in progress when the client was stopped.

The labels before the `stop` are arbitrary, and so are those after it except for
`connect`; the last label is any next step, which need not even return. -/
theorem stop_is_final (before after : List (ConnectionLife.Label client)) (s : System client)
    (unconnected : ∀ label ∈ after, label ≠ .owner .connect)
    (reached : Runs.run step (initial client) (before ++ .owner .stop :: after) = .ok s)
    (label : ConnectionLife.Label client) :
    ∀ effect ∈ connectorEffects s label, ¬ Begins effect := by
  obtain ⟨middle, _, continued⟩ := (Runs.run_append _ _ _ _ _).mp reached
  obtain ⟨stopping, taken, continued⟩ := (Runs.run_cons _ _ _ _ _).mp continued
  have cleared : Stopped (current stopping) := by
    obtain rfl := (pure_ok _ _).mp taken
    exact ⟨rfl, rfl⟩
  have stopped : Stopped (current s) :=
    Runs.guarded_invariant (step (O := client)) (fun _ label => label ≠ .owner .connect)
      (fun state => Stopped (current state))
      (fun _ label _ stopped other taken => step_stopped stopped label other taken)
      after stopping s cleared (Runs.along_labels _ _ _ _ unconnected) continued
  exact stopped_begins_nothing stopped label

/-- A client with retry enabled loses its connection after a `stop`, while its
connector's queued reset and an old start are still to run. -/
def stoppedThenClosed : List (ConnectionLife.Label client) :=
  [.owner .enableRetry, .owner .connect, .owner (.startInLoop ⟨5, EINPROGRESS⟩),
    .owner (.handleWrite 0 false false false), .owner .resetChannel, .poll [0], .dispatch POLLIN,
    .callback (.received []) (.failed 0)]

/-- The client of this run does not restart when its connection is removed. -/
theorem stop_is_final_while_closing :
    ∃ s, Runs.run step (initial client) (stoppedThenClosed ++ .owner .stop :: []) = .ok s ∧
      ∀ effect ∈ connectorEffects s (.remove ⟨6, EINPROGRESS⟩), ¬ Begins effect := by
  have completed : (Runs.run step (initial client)
      (stoppedThenClosed ++ .owner .stop :: [])).isOk = true := by decide +kernel
  cases reached : Runs.run step (initial client) (stoppedThenClosed ++ .owner .stop :: []) with
  | error failure => simp [reached, Except.isOk, Except.toBool] at completed
  | ok s => exact ⟨s, rfl, stop_is_final stoppedThenClosed [] s (by simp) reached _⟩

end TcpClient

end ReactorNetwork
