import ReactorNetwork.ClientLives

/-!
# The phases of a reconnecting client

The two sides of a client on its loop, the connector's and the connections', and
what each may assume of the other. They keep the same connector, with as many
resets queued. A connection is dispatched only after the reset of the channel it
was handed over from, and a socket is handed over only when every connection is
destroyed: both follow from the iteration of the loop in which each step falls.
-/

namespace ReactorNetwork.ClientLoop

open ConnectionLife TcpClient

section Agreement

variable {s t : ConnectorLoop.State} {q : Queued}

/-- The client's connector is the connector of the loop, with as many resets
queued. -/
structure Agree (q : Queued) (s : ConnectorLoop.State) : Prop where
  connector : q.client.connector = s.connector
  resets : q.resets = s.resets.length

/-- Effects queue a reset for each request, and leave the phase alone. -/
theorem foldl_affect_pending (effects : List ConnectorEffect) :
    (effects.foldl ConnectorLoop.affect s).phase = s.phase ∧
      (effects.foldl ConnectorLoop.affect s).pending.length =
        s.pending.length + effects.count .queueResetChannel := by
  induction effects generalizing s with
  | nil => exact ⟨rfl, rfl⟩
  | cons effect rest inductionHypothesis =>
    obtain ⟨phase, pending⟩ := inductionHypothesis (s := ConnectorLoop.affect s effect)
    rw [List.foldl_cons, phase, pending]
    cases effect <;> simp [ConnectorLoop.affect]
    omega

/-- The resets of the loop after a call of the connector. -/
theorem perform_resets (connector : Connector) (effects : List ConnectorEffect) :
    (ConnectorLoop.perform s connector effects).resets.length =
      s.resets.length + effects.count .queueResetChannel := by
  obtain ⟨phase, pending⟩ := foldl_affect_pending (s := s) effects
  simp only [ConnectorLoop.State.resets, ConnectorLoop.perform, List.length_append, phase, pending]
  omega

/-- A call of the connector does the same on both sides. -/
theorem call_agree {before : ConnectorLoop.State} {outcome : Outcome (Connector × List ConnectorEffect)}
    {pollFailed writeCompleteCallback : Bool} {after : Queued} {socket : Option (Int × Bool)}
    (acted : TcpClient.connectorStep q outcome pollFailed writeCompleteCallback = .ok (after, socket))
    (resets : q.resets = before.resets.length) (called : ConnectorLoop.call before outcome = .ok t) :
    Agree after t := by
  obtain ⟨⟨connector, effects⟩, returned, same⟩ := (bind_ok _ _ _).mp called
  obtain rfl := (pure_ok _ _).mp same
  obtain ⟨⟨_, _⟩, inside, finished⟩ := (bind_ok _ _ _).mp acted
  obtain ⟨rfl, rfl⟩ := Prod.mk.inj (Except.ok.inj (((lift_ok _ _).mp inside).symm.trans returned))
  obtain ⟨rfl, _⟩ := Prod.mk.inj ((pure_ok _ _).mp finished)
  refine ⟨rfl, ?_⟩
  rw [perform_resets, ← resets]
  rfl

/-- The steps of the loop that call no function of the connector. -/
def waits : ConnectorLoop.Label → Bool
  | .poll _ | .dispatch _ | .expire _ | .forget _ | .finishEvent | .swap | .finishFunctors => true
  | _ => false

/-- Such a step leaves the connector and its resets alone. -/
theorem waiting_agree {label : ConnectorLoop.Label} (waiting : waits label = true)
    (agree : Agree q s) (taken : ConnectorLoop.step s label = .ok t) : Agree q t := by
  suffices same : t.connector = s.connector ∧ t.resets = s.resets from
    ⟨agree.connector.trans same.1.symm, by rw [same.2]; exact agree.resets⟩
  cases ConnectorLoop.stepped taken with
  | poll _ here | dispatch _ _ here | expire _ _ here | finishHandling _ here
    | finishExpiring _ here | swap here | finishFunctors here =>
    simp [ConnectorLoop.State.resets, here, ConnectorLoop.Phase.batch]
  | forget => exact ⟨rfl, rfl⟩
  | start | stop | restart | ended | ignored | fire | runFunctor => cases waiting

end Agreement

section Awaiting

variable {s t : ConnectorLoop.State}

/-- A callback of the connector's channel is still to come in this iteration. -/
def awaiting (phase : ConnectorLoop.Phase) : Prop :=
  .connector ∈ phase.active ∨ phase.callbacks ≠ []

/-- A callback that is awaited finds an attempt in progress, or the reset of the
attempt that just failed queued. -/
theorem awaiting_busy (orderly : ConnectorLoop.Orderly s) (awaits : awaiting s.phase) :
    s.connector.state = .connecting ∨
      s.connector.state = .disconnected ∧ s.resets ≠ [] := by
  rcases awaits with active | left
  · exact Or.inl (orderly.inTurn.active active)
  · rcases orderly.inTurn.handled left with connecting | ⟨_, disconnected, queued⟩
    · exact Or.inl connecting
    · exact Or.inr ⟨disconnected, queued⟩

/-- The loop moved on without starting anything of the connector: its state is the
same, no reset was queued, and no callback is awaited that was not. -/
structure Moved (s t : ConnectorLoop.State) : Prop where
  state : t.connector.state = s.connector.state
  awaiting : awaiting t.phase → awaiting s.phase
  resets : s.resets = [] → t.resets = []

/-- The steps of the loop that only move on. -/
def moves : ConnectorLoop.Label → Bool
  | .stop | .dispatch _ | .expire _ | .forget _ | .finishEvent | .swap | .runFunctor
  | .finishFunctors => true
  | .start _ | .restart _ | .poll _ | .callback _ _ | .fire _ => false

/-- A step that moves the loop on keeps what is awaited and queued, or takes from it. -/
theorem step_moved {label : ConnectorLoop.Label} (moving : moves label = true)
    (taken : ConnectorLoop.step s label = .ok t) : Moved s t := by
  cases ConnectorLoop.stepped taken with
  | start | restart | poll | ended | ignored | fire => cases moving
  | stop => exact ⟨rfl, id, id⟩
  | forget => exact ⟨rfl, id, id⟩
  | dispatch revents active dispatching =>
    refine ⟨rfl, fun _ => ?_, ?_⟩
    · rw [dispatching]
      exact Or.inl List.mem_cons_self
    · rw [ConnectorLoop.State.resets, ConnectorLoop.State.resets, dispatching]
      exact id
  | expire expired active dispatching =>
    refine ⟨rfl, ?_, ?_⟩
    · rw [dispatching]
      exact Or.imp (List.mem_cons_of_mem _) fun left => absurd rfl left
    · rw [ConnectorLoop.State.resets, ConnectorLoop.State.resets, dispatching]
      exact id
  | finishHandling active here | finishExpiring active here =>
    refine ⟨rfl, ?_, ?_⟩
    · rw [here]
      exact id
    · rw [ConnectorLoop.State.resets, ConnectorLoop.State.resets, here]
      exact id
  | swap | finishFunctors =>
    refine ⟨rfl, ?_, ?_⟩
    · rintro (member | left)
      · cases member
      · exact absurd rfl left
    · intro none
      simpa [ConnectorLoop.State.resets, ConnectorLoop.Phase.batch] using
        (List.append_eq_nil_iff.mp none).2
  | runFunctor attempt batch running =>
    refine ⟨rfl, ?_, ?_⟩
    · rintro (member | left)
      · cases member
      · exact absurd rfl left
    · intro none
      simp [ConnectorLoop.State.resets, running, ConnectorLoop.Phase.batch] at none

/-- A call of `start_in_loop` leaves the phase and the queued resets as they are. -/
theorem attempted_phase {c connector : Connector} {sockFd : Int} {effects : List ConnectorEffect}
    (attempted : c.Attempted sockFd connector effects) :
    (ConnectorLoop.perform s connector effects).phase = s.phase ∧
      (ConnectorLoop.perform s connector effects).resets = s.resets := by
  cases attempted <;> exact ⟨rfl, rfl⟩

end Awaiting

section Phases

variable {s t : ConnectorLoop.State} {life after : Traced client}

/-- The connection is dispatched only after the reset of the channel it was handed
over from, and a callback that may hand a socket over runs only when every
connection is destroyed. -/
structure Rested (s : ConnectorLoop.State) (life : Traced client) : Prop where
  reset : ∀ id, (queued life).client.connection = some id →
    id ∈ life.system.phase.dispatched → s.resets = []
  destroyed : awaiting s.phase → s.connector.state = .connecting →
    ∀ id < life.system.created, id ∈ life.system.destroyed

/-- What establishes nothing, queues no reset and begins no wait keeps this. -/
theorem moved_rested (rested : Rested s life) (still : Still life after)
    (resets : s.resets = [] → t.resets = [])
    (awaited : awaiting t.phase → t.connector.state = .connecting →
      awaiting s.phase ∧ s.connector.state = .connecting) : Rested t after where
  reset := fun id held member =>
    resets (rested.reset id (still.connection id held) (still.dispatched member))
  destroyed := by
    intro awaits connecting id created
    obtain ⟨before, was⟩ := awaited awaits connecting
    rw [still.created] at created
    exact still.destroyed (rested.destroyed before was id created)

/-- A client whose connector is not `connected` has no connection. -/
theorem unconnected (lived : Lived life) (agree : Agree (queued life) s)
    (state : s.connector.state ≠ .connected) : (queued life).client.connection = none := by
  by_contra some
  have connected : (queued life).client.connector.state = .connected :=
    lived.traces.sound.ownerValid some
  rw [agree.connector] at connected
  exact state connected

/-- When the loop polls, a client without a connection has none that is not
destroyed. -/
theorem polling_destroyed (lived : Lived life) (polling : life.system.phase = .polling)
    (none : (queued life).client.connection = none) :
    ∀ id < life.system.created, id ∈ life.system.destroyed := by
  intro id created
  by_contra alive
  have inTurn := lived.traces.sound.inTurn
  simp only [InTurn, polling] at inTurn
  rcases undestroyed_owned lived.traces.sound created alive with held | queued | batched
  · have held : (queued life).client.connection = some id := held
    rw [none] at held
    cases held
  · rw [inTurn] at queued
    cases queued
  · rw [polling] at batched
    cases batched

/-- After a poll no reset is queued, and while an attempt is in progress every
connection is destroyed. -/
theorem poll_rested (lived : Lived life) (agree : Agree (queued life) s)
    (orderly : ConnectorLoop.Orderly s) {sources : List ConnectorLoop.Source}
    {connections : List Nat} (looped : ConnectorLoop.step s (.poll sources) = .ok t)
    (taken : life.step (.poll connections) = .ok after) : Rested t after := by
  have queueing := orderly.inTurn.queueing
  have polled : s.phase = .polling ∧ t.connector = s.connector ∧ t.resets = s.pending := by
    cases ConnectorLoop.stepped looped with
    | poll _ polling => exact ⟨polling, rfl, rfl⟩
  obtain ⟨polling, connector, resets⟩ := polled
  rw [polling] at queueing
  have life : life.system.phase = .polling ∧ after.system.created = life.system.created ∧
      after.system.destroyed = life.system.destroyed := by
    simp only [Traced.step] at taken
    split at taken
    case isFalse => cases taken
    case isTrue =>
      obtain ⟨system, stepping, rfl⟩ := perform_ok taken
      cases stepped stepping
      case poll polling _ _ => exact ⟨polling, rfl, rfl⟩
  obtain ⟨lifePolling, created, destroyed⟩ := life
  constructor
  · intro _ _ _
    rw [resets]
    by_contra queued
    cases queueing queued
  · intro _ connecting
    rw [connector] at connecting
    rw [created, destroyed]
    exact polling_destroyed lived lifePolling
      (unconnected lived agree (by simp [connecting]))

/-- What the connector's callback finds and leaves. -/
theorem callback_phase (orderly : ConnectorLoop.Orderly s) {socketError : Nat} {selfConnect : Bool}
    (looped : ConnectorLoop.step s (.callback socketError selfConnect) = .ok t) :
    awaiting s.phase ∧ s.connector.state ≠ .connected ∧ t.connector.state ≠ .connecting := by
  have awaits : awaiting s.phase ∧ t.connector.state ≠ .connecting := by
    cases ConnectorLoop.stepped looped with
    | ended _ _ callback callbacks active channel after effects handling connecting present ended =>
      refine ⟨Or.inr (by simp [handling, ConnectorLoop.Phase.callbacks]), ?_⟩
      cases ended <;> simp [ConnectorLoop.perform]
    | ignored _ _ callbacks active handling disconnected =>
      refine ⟨Or.inr (by simp [handling, ConnectorLoop.Phase.callbacks]), ?_⟩
      simp [ConnectorLoop.perform, disconnected]
  refine ⟨awaits.1, ?_, awaits.2⟩
  rcases awaiting_busy orderly awaits.1 with connecting | ⟨disconnected, _⟩
  · simp [connecting]
  · simp [disconnected]

/-- A callback of the connector keeps the phases apart: the connection it may hand
over is not dispatched before the next poll. -/
theorem callback_rested (lived : Lived life) (agree : Agree (queued life) s)
    (orderly : ConnectorLoop.Orderly s) {socketError : Nat} {selfConnect : Bool} {action : Action}
    (looped : ConnectorLoop.step s (.callback socketError selfConnect) = .ok t)
    (taken : life.step (.owner action) = .ok after) : Rested t after := by
  obtain ⟨_, state, ended⟩ := callback_phase orderly looped
  have none := unconnected lived agree state
  obtain ⟨q, socket, acted, phase, _, result⟩ := owner_acted taken
  refine ⟨?_, fun _ connecting => absurd connecting ended⟩
  intro id held member
  rw [phase] at member
  have created := lived.traces.apart.known id (Or.inl member)
  rcases result with ⟨_, _, same⟩ | ⟨_, _, same⟩
  · have before := ((client_lawful.act_kept _ _ _ _ lived.traces.sound.ownerValid acted).2 id).mp
      (show q.client.connection = some id by rw [← same]; exact held)
    have before : (queued life).client.connection = some id := before
    rw [none] at before
    cases before
  · rw [same] at held
    obtain rfl := Option.some.inj held
    exact absurd created (Nat.lt_irrefl _)

/-- A writable event that hands a socket over finds every connection destroyed. -/
theorem callback_cleared (rested : Rested s life) (agree : Agree (queued life) s)
    (awaits : awaiting s.phase) (socketError : Nat)
    (selfConnect pollFailed writeCompleteCallback : Bool) :
    Cleared life (.owner (.handleWrite socketError selfConnect pollFailed writeCompleteCallback)) := by
  intro action q socket same acted
  obtain rfl := ConnectionLife.Label.owner.inj same
  obtain ⟨⟨connector, effects⟩, returned, finished⟩ := (bind_ok _ _ _).mp acted
  obtain ⟨_, made⟩ := Prod.mk.inj ((pure_ok _ _).mp finished)
  obtain ⟨sockFd, member⟩ := newConnection_handed made
  have handled := (lift_ok _ _).mp returned
  rw [agree.connector] at handled
  rcases Connector.handleWrite_ended handled with ⟨connecting, _⟩ | ⟨_, _, rfl⟩
  · exact rested.destroyed awaits connecting
  · cases member

/-- A step of the loop, poll and callback apart, queues no reset, and a callback that
is awaited after it was awaited before in the same attempt. -/
theorem loop_rested {label : ConnectorLoop.Label} (orderly : ConnectorLoop.Orderly s)
    (fitting : ConnectorLoop.fits s label)
    (idle : ∀ result, label = .start result → ¬ awaiting s.phase)
    (unpolled : ∀ sources, label ≠ .poll sources)
    (uncalled : ∀ socketError selfConnect, label ≠ .callback socketError selfConnect)
    (looped : ConnectorLoop.step s label = .ok t) :
    (s.resets = [] → t.resets = []) ∧ (awaiting t.phase → t.connector.state = .connecting →
      awaiting s.phase ∧ s.connector.state = .connecting) := by
  by_cases moving : moves label = true
  · have moved := step_moved moving looped
    exact ⟨moved.resets, fun awaits connecting =>
      ⟨moved.awaiting awaits, moved.state.symm.trans connecting⟩⟩
  · cases ConnectorLoop.stepped looped with
    | poll sources => exact absurd rfl (unpolled sources)
    | ended socketError selfConnect => exact absurd rfl (uncalled socketError selfConnect)
    | ignored socketError selfConnect => exact absurd rfl (uncalled socketError selfConnect)
    | start result after effects attempted =>
      obtain ⟨phase, resets⟩ := attempted_phase (s := { s with started := true }) attempted
      refine ⟨fun none => resets.trans none, fun awaits => ?_⟩
      rw [phase] at awaits
      exact absurd awaits (idle result rfl)
    | restart result after effects attempted =>
      have connected : s.connector.state = .connected := fitting
      obtain ⟨phase, resets⟩ := attempted_phase (s := { s with handedOver := false }) attempted
      refine ⟨fun none => resets.trans none, fun awaits => ?_⟩
      rw [phase] at awaits
      rcases awaiting_busy orderly awaits with connecting | ⟨disconnected, _⟩
      · rw [connected] at connecting
        cases connecting
      · rw [connected] at disconnected
        cases disconnected
    | fire result timer expired active after effects expiring disconnected attempted =>
      have connecting := orderly.inTurn.active
      obtain ⟨phase, resets⟩ :=
        attempted_phase (s := { s with phase := .expiring expired active }) attempted
      rw [expiring, disconnected] at connecting
      constructor
      · intro none
        rw [ConnectorLoop.State.resets, expiring] at none
        exact resets.trans none
      · intro awaits
        rw [phase] at awaits
        rcases awaits with member | left
        · cases connecting member
        · exact absurd rfl left
    | stop | dispatch | expire | forget | finishHandling | finishExpiring | swap | runFunctor
      | finishFunctors => exact absurd rfl moving

end Phases

end ReactorNetwork.ClientLoop
