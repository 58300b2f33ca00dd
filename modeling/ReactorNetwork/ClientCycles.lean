import ReactorNetwork.ClientPhases
import ReactorNetwork.CloseOnce

/-!
# A reconnecting client goes up and down in turn

The connections of a client that restarts its connector whenever it loses one,
over any number of cycles. A restart runs inside the close path, before the
destruction of the lost connection, which is only queued. Still the next
connection is established after that destruction: its socket is handed over in a
dispatch of the connector's channel, and the poll that reported the channel came
after the batch that ran the destruction. In the same way the reset of the
connector's channel has run before the connection that was handed over can be
lost, and so before the next attempt needs a channel.

A retry has no such order: its timer may be among those that the iteration of its
failure still runs, for another timer or an earlier setting can have made the
timer descriptor readable. The retry that needs a channel then finds that of the
failed attempt, whose reset is queued, and fails the assertion of `connecting`.
-/

namespace ReactorNetwork.ClientLoop

open ConnectionLife TcpClient

section Cycles

/-- Both sides agree, the connector is in order and left alone before `connect`, the
connections live and die in turn, and each step falls in its phase. -/
structure Cycles (s : State) : Prop where
  agree : Agree (queued s.life) s.loop
  orderly : ConnectorLoop.Orderly s.loop
  lived : Lived s.life
  fresh : ConnectorLoop.Fresh s.loop
  rested : Rested s.loop s.life

/-- Before the first call both sides are as they were constructed. -/
theorem initial_cycles : Cycles initial where
  agree := ⟨rfl, rfl⟩
  orderly := ConnectorLoop.initial_orderly
  lived := initial_lived
  fresh := ConnectorLoop.initial_fresh
  rested := by
    constructor
    · intro id held
      cases held
    · intro _ connecting
      cases connecting

variable {s t : State}

/-- Enrolling a connection leaves the connector and its resets alone. -/
theorem owner_agree {life after : Traced client} {action : Action} {loop : ConnectorLoop.State}
    (taken : life.step (.owner action) = .ok after)
    (agreed : ∀ q socket, act (queued life) action = .ok (q, socket) → Agree q loop) :
    Agree (queued after) loop := by
  obtain ⟨q, socket, acted, _, _, result⟩ := owner_acted taken
  have agree := agreed q socket acted
  rcases result with ⟨_, _, same⟩ | ⟨_, _, same⟩
  · rw [same]
    exact agree
  · rw [same]
    exact ⟨agree.connector, agree.resets⟩

/-- A callback of the connector hands a socket over on both sides, or on neither. -/
theorem callback_agree (cycles : Cycles s) (socketError : Nat)
    (selfConnect pollFailed writeCompleteCallback : Bool)
    (looped : ConnectorLoop.step s.loop (.callback socketError selfConnect) = .ok t.loop)
    (reached : Runs.run Traced.step s.life (lifeLabels s
      (.connectorCallback socketError selfConnect pollFailed writeCompleteCallback)) = .ok t.life) :
    Agree (queued t.life) t.loop := by
  have resets : ∀ callbacks active, s.loop.phase.batch = [] → (queued s.life).resets =
      (ConnectorLoop.State.resets
        { s.loop with phase := .handling callbacks active }).length := by
    intro callbacks active none
    rw [cycles.agree.resets, ConnectorLoop.State.resets, none]
    rfl
  simp only [ConnectorLoop.step, ← cycles.agree.connector] at looped
  split at looped
  case h_3 => cases looped
  case h_1 callbacks active phase =>
    simp only [lifeLabels, phase, Runs.run_single] at reached
    refine owner_agree reached fun q socket acted => call_agree acted ?_ looped
    exact resets callbacks active (by rw [phase]; rfl)
  case h_2 callbacks active phase =>
    simp only [lifeLabels, phase, Runs.run_single] at reached
    refine owner_agree reached fun q socket acted => call_agree acted ?_ looped
    exact resets callbacks active (by rw [phase]; rfl)

/-- A retry timer begins an attempt on both sides. -/
theorem fire_agree (cycles : Cycles s) (result : ConnectResult)
    (looped : ConnectorLoop.step s.loop (.fire result) = .ok t.loop)
    (taken : s.life.step (.owner (.startInLoop result)) = .ok t.life) :
    Agree (queued t.life) t.loop := by
  simp only [ConnectorLoop.step, ← cycles.agree.connector] at looped
  split at looped
  case h_2 => cases looped
  case h_1 timer expired active expiring =>
    refine owner_agree taken fun q socket acted => call_agree acted ?_ looped
    rw [cycles.agree.resets, ConnectorLoop.State.resets, expiring]
    rfl

/-- After `connect` the client starts the connector as the loop does. -/
theorem connect_called (cycles : Cycles s) {middle : Traced client} {result : ConnectResult}
    (first : s.life.step (.owner .connect) = .ok middle)
    (looped : ConnectorLoop.step s.loop (.start result) = .ok t.loop) :
    (queued middle).resets = (queued s.life).resets ∧
      ConnectorLoop.call { s.loop with started := true }
        ((queued middle).client.connector.startInLoop result) = .ok t.loop := by
  have connected : queued middle = { queued s.life with client := (queued s.life).client.connect } := by
    obtain ⟨q, socket, acted, _, _, result⟩ := owner_acted first
    obtain ⟨rfl, rfl⟩ := Prod.mk.inj ((pure_ok _ _).mp acted)
    rcases result with ⟨_, _, same⟩ | ⟨some, _⟩
    · exact same
    · exact absurd rfl some
  rw [connected]
  refine ⟨rfl, ?_⟩
  simp only [TcpClient.connect, cycles.agree.connector]
  exact looped

/-- `connect` begins an attempt on both sides. -/
theorem connect_agree (cycles : Cycles s) (result : ConnectResult)
    (looped : ConnectorLoop.step s.loop (.start result) = .ok t.loop)
    (reached : Runs.run Traced.step s.life (lifeLabels s (.connect result)) = .ok t.life) :
    Agree (queued t.life) t.loop := by
  obtain ⟨middle, first, rest⟩ := (Runs.run_cons _ _ _ _ _).mp reached
  rw [Runs.run_single] at rest
  obtain ⟨resets, called⟩ := connect_called cycles first looped
  refine owner_agree rest fun q socket acted => call_agree acted ?_ called
  rw [resets]
  exact cycles.agree.resets

/-- A removal restarts the connector on both sides, or on neither. -/
theorem remove_agree (cycles : Cycles s) (result : ConnectResult)
    (looped : connectorStep s.loop (loopLabel s (.remove result)) = .ok t.loop)
    (taken : s.life.step (.remove result) = .ok t.life) : Agree (queued t.life) t.loop := by
  obtain ⟨_, _, _, _, c, effects, _, removed, same⟩ := remove_queued taken
  rw [same]
  obtain ⟨wanted, restarted⟩ | ⟨unwanted, connector, rfl⟩ := removeConnection_cases removed
  · simp only [loopLabel, if_pos wanted, connectorStep, mapError_ok] at looped
    rw [cycles.agree.connector] at restarted
    obtain ⟨⟨_, _⟩, returned, finished⟩ := (bind_ok _ _ _).mp looped
    obtain ⟨rfl, rfl⟩ := Prod.mk.inj (Except.ok.inj (restarted.symm.trans returned))
    rw [← (pure_ok _ _).mp finished]
    refine ⟨rfl, ?_⟩
    rw [perform_resets]
    exact congrArg (· + _) cycles.agree.resets
  · simp only [loopLabel, unwanted, connectorStep] at looped
    rw [← (pure_ok _ _).mp looped]
    exact ⟨connector.trans cycles.agree.connector, cycles.agree.resets⟩

/-- A call of the client that leaves the connector and its resets alone. -/
theorem own_agree {life after : Traced client} {action : Action} {c : TcpClient}
    {loop : ConnectorLoop.State} (agree : Agree (queued life) loop)
    (acts : act (queued life) action = .ok ({ queued life with client := c }, none))
    (connector : c.connector = (queued life).client.connector)
    (taken : life.step (.owner action) = .ok after) : Agree (queued after) loop := by
  refine owner_agree taken fun q socket acted => ?_
  obtain ⟨rfl, _⟩ := Prod.mk.inj (Except.ok.inj (acts.symm.trans acted))
  exact ⟨connector.trans agree.connector, agree.resets⟩

/-- `stop` stops the connector on both sides. -/
theorem stop_agree (cycles : Cycles s) (looped : ConnectorLoop.step s.loop .stop = .ok t.loop)
    (taken : s.life.step (.owner .stop) = .ok t.life) : Agree (queued t.life) t.loop := by
  rw [← (pure_ok _ _).mp looped]
  refine owner_agree taken fun q socket acted => ?_
  obtain ⟨rfl, _⟩ := Prod.mk.inj ((pure_ok _ _).mp acted)
  refine ⟨?_, cycles.agree.resets⟩
  simp only [TcpClient.stop, cycles.agree.connector, ConnectorLoop.perform]

/-- A queued reset runs on both sides. -/
theorem resetChannel_agree (cycles : Cycles s)
    (looped : ConnectorLoop.step s.loop .runFunctor = .ok t.loop)
    (taken : s.life.step (.owner .resetChannel) = .ok t.life) : Agree (queued t.life) t.loop := by
  have resets := cycles.agree.resets
  generalize t.loop = after at looped ⊢
  cases ConnectorLoop.stepped looped with
  | runFunctor attempt batch running =>
    refine owner_agree taken fun q socket acted => ?_
    simp only [act] at acted
    split at acted
    case isFalse => cases acted
    case isTrue =>
      obtain ⟨rfl, _⟩ := Prod.mk.inj ((pure_ok _ _).mp acted)
      constructor
      · simp only [cycles.agree.connector]
      · rw [ConnectorLoop.State.resets, running] at resets
        simp only [resets, ConnectorLoop.State.resets, ConnectorLoop.Phase.batch, List.cons_append,
          List.length_cons, Nat.add_sub_cancel]

/-- Every step keeps the two sides in agreement. -/
theorem step_agree {label : Label} (cycles : Cycles s)
    (looped : connectorStep s.loop (loopLabel s label) = .ok t.loop)
    (reached : Runs.run Traced.step s.life (lifeLabels s label) = .ok t.life) :
    Agree (queued t.life) t.loop := by
  have agree := cycles.agree
  cases label
  case remove result =>
    exact remove_agree cycles result looped ((Runs.run_single _ _ _).symm.trans reached)
  all_goals simp only [loopLabel, connectorStep, mapError_ok, pure_ok] at looped
  case enableRetry =>
    rw [← looped]
    exact own_agree (c := (queued s.life).client.enableRetry) agree rfl rfl
      ((Runs.run_single _ _ _).symm.trans reached)
  case connect result => exact connect_agree cycles result looped reached
  case disconnect =>
    rw [← looped]
    obtain ⟨middle, first, rest⟩ := (Runs.run_cons _ _ _ _ _).mp reached
    have halfway : Agree (queued middle) s.loop :=
      own_agree (c := (queued s.life).client.disconnect) agree rfl rfl first
    cases connection : (queued s.life).client.connection with
    | none =>
      rw [connection] at rest
      obtain rfl := Except.ok.inj rest
      exact halfway
    | some id =>
      rw [connection] at rest
      have taken := (Runs.run_single _ _ _).symm.trans rest
      rw [step_queued (by simp) (by simp) taken]
      exact halfway
  case stop => exact stop_agree cycles looped ((Runs.run_single _ _ _).symm.trans reached)
  case poll | swap | finishFunctors =>
    have taken := (Runs.run_single _ _ _).symm.trans reached
    rw [step_queued (by simp) (by simp) taken]
    exact waiting_agree rfl agree looped
  case dispatchConnector | expire | forget | finishSource =>
    rw [← Except.ok.inj reached]
    exact waiting_agree rfl agree looped
  case connectorCallback socketError selfConnect pollFailed writeCompleteCallback =>
    exact callback_agree cycles _ _ _ _ looped reached
  case fire result =>
    exact fire_agree cycles result looped ((Runs.run_single _ _ _).symm.trans reached)
  case resetChannel =>
    exact resetChannel_agree cycles looped ((Runs.run_single _ _ _).symm.trans reached)
  case shutdown | send | dispatch | callback | finishEvent | connectDestoryed =>
    have taken := (Runs.run_single _ _ _).symm.trans reached
    rw [step_queued (by simp) (by simp) taken, ← looped]
    exact agree

/-- A removal finds the connector `connected`. -/
theorem removing_connected (cycles : Cycles s) (result : ConnectResult)
    (allowed : permitted s (.remove result) = true) : s.loop.connector.state = .connected := by
  rw [← cycles.agree.connector]
  cases removing : s.life.system.phase with
  | removing id revents callbacks active =>
    have held := removing_held cycles.lived.traces.sound removing
    exact cycles.lived.traces.sound.ownerValid fun none => by cases none.symm.trans held
  | polling | dispatching | handling | running =>
    simp [permitted, removing, ConnectionLife.Phase.removed] at allowed

/-- The connector's step fits: a start finds it fresh, a restart `connected`. -/
theorem loopLabel_fits {label : Label} (cycles : Cycles s) (allowed : permitted s label = true)
    {inner : ConnectorLoop.Label} (same : loopLabel s label = some inner) :
    ConnectorLoop.fits s.loop inner ∧
      ∀ result, inner = .start result → s.loop.started = false ∧ ¬ awaiting s.loop.phase := by
  cases label
  case connect result =>
    obtain rfl := Option.some.inj same
    have unstarted : s.loop.started = false := by simpa [permitted] using allowed
    obtain ⟨disconnected, noResets, noDue⟩ := cycles.fresh unstarted
    refine ⟨⟨disconnected, noDue⟩, fun _ _ => ⟨unstarted, fun awaits => ?_⟩⟩
    rcases awaiting_busy cycles.orderly awaits with connecting | ⟨_, queued⟩
    · rw [disconnected] at connecting
      cases connecting
    · exact queued noResets
  case remove result =>
    simp only [loopLabel] at same
    split at same
    · obtain rfl := Option.some.inj same
      exact ⟨removing_connected cycles result allowed, by simp⟩
    · cases same
  all_goals
    cases same <;> exact ⟨trivial, by simp⟩

/-- The connector's step keeps the connector in order, and alone before `connect`. -/
theorem step_inOrder {label : Label} (cycles : Cycles s) (allowed : permitted s label = true)
    (looped : connectorStep s.loop (loopLabel s label) = .ok t.loop) :
    ConnectorLoop.Orderly t.loop ∧ ConnectorLoop.Fresh t.loop := by
  cases same : loopLabel s label with
  | none =>
    rw [same] at looped
    rw [← (pure_ok _ _).mp looped]
    exact ⟨cycles.orderly, cycles.fresh⟩
  | some inner =>
    rw [same] at looped
    have fitting := (loopLabel_fits cycles allowed same).1
    have taken := (mapError_ok _ _ _).mp looped
    exact ⟨ConnectorLoop.step_orderly _ inner _ cycles.orderly fitting taken,
      ConnectorLoop.step_fresh _ inner _ cycles.orderly cycles.fresh fitting taken⟩

/-- The steps that poll or may establish a connection. -/
def opens : Label → Bool
  | .poll _ _ | .connectorCallback _ _ _ _ => true
  | _ => false

/-- The other steps do only what settles connections. -/
theorem labels_settle {label : Label} (closed : opens label = false) :
    ∀ inner ∈ lifeLabels s label, settles inner = true := by
  cases label
  case poll | connectorCallback => cases closed
  case disconnect =>
    intro inner member
    simp only [lifeLabels, List.mem_cons, Option.mem_toList, Option.map_eq_some_iff] at member
    rcases member with rfl | ⟨id, _, rfl⟩ <;> rfl
  all_goals simp [lifeLabels, settles]

/-- A mask that meets the assumption meets it in each part of the step. -/
theorem labels_plain {label : Label} (plain : plainHangup s label) :
    ∀ inner ∈ lifeLabels s label, ∀ other, ConnectionLife.plainHangup other inner := by
  cases label
  case dispatch revents =>
    intro inner member other
    rw [List.mem_singleton.mp member]
    exact plain
  case disconnect =>
    intro inner member other
    simp only [lifeLabels, List.mem_cons, Option.mem_toList, Option.map_eq_some_iff] at member
    rcases member with rfl | ⟨id, _, rfl⟩ <;> trivial
  case connectorCallback =>
    simp only [lifeLabels]
    split <;> simp [ConnectionLife.plainHangup]
  all_goals simp [lifeLabels, ConnectionLife.plainHangup]

/-- A step that neither polls nor establishes keeps the phases apart. -/
theorem closed_cycles {label : Label} (cycles : Cycles s) (closed : opens label = false)
    (plain : plainHangup s label) (allowed : permitted s label = true)
    (looped : connectorStep s.loop (loopLabel s label) = .ok t.loop)
    (reached : Runs.run Traced.step s.life (lifeLabels s label) = .ok t.life) :
    Lived t.life ∧ Rested t.loop t.life := by
  obtain ⟨lived, still⟩ := run_settled _ cycles.lived (labels_settle closed) (labels_plain plain)
    reached
  refine ⟨lived, ?_⟩
  cases same : loopLabel s label with
  | none =>
    rw [same] at looped
    rw [← (pure_ok _ _).mp looped]
    exact moved_rested cycles.rested still id fun awaits connecting => ⟨awaits, connecting⟩
  | some inner =>
    rw [same] at looped
    obtain ⟨fitting, fresh⟩ := loopLabel_fits cycles allowed same
    obtain ⟨resets, awaited⟩ := loop_rested cycles.orderly fitting
      (fun result start => (fresh result start).2)
      (fun sources poll => by
        subst poll
        cases label <;> simp_all [loopLabel, opens])
      (fun socketError selfConnect callback => by
        subst callback
        cases label <;> simp_all [loopLabel, opens])
      ((mapError_ok _ _ _).mp looped)
    exact moved_rested cycles.rested still resets awaited

/-- A callback of the connector establishes a connection only when every earlier one
is destroyed. -/
theorem callback_lived (cycles : Cycles s) {socketError : Nat}
    {selfConnect pollFailed writeCompleteCallback : Bool}
    (looped : ConnectorLoop.step s.loop (.callback socketError selfConnect) = .ok t.loop)
    (reached : Runs.run Traced.step s.life (lifeLabels s
      (.connectorCallback socketError selfConnect pollFailed writeCompleteCallback)) = .ok t.life) :
    Lived t.life ∧ Rested t.loop t.life := by
  obtain ⟨awaits, _⟩ := callback_phase cycles.orderly looped
  have acted : ∃ action, s.life.step (.owner action) = .ok t.life ∧
      Cleared s.life (.owner action) := by
    have handled := looped
    simp only [ConnectorLoop.step] at handled
    split at handled
    case h_3 => cases handled
    case h_1 callbacks active phase =>
      simp only [lifeLabels, phase, Runs.run_single] at reached
      refine ⟨_, reached, ?_⟩
      intro action q socket same acted
      obtain rfl := ConnectionLife.Label.owner.inj same
      cases act_settles rfl acted
    case h_2 callbacks active phase =>
      simp only [lifeLabels, phase, Runs.run_single] at reached
      exact ⟨_, reached, callback_cleared cycles.rested cycles.agree awaits _ _ _ _⟩
  obtain ⟨action, taken, cleared⟩ := acted
  have plain : ConnectionLife.plainHangup s.life (.owner action) := trivial
  exact ⟨step_lived cycles.lived plain cleared taken,
    callback_rested cycles.lived cycles.agree cycles.orderly looped taken⟩

/-- Every step keeps the cycle. -/
theorem step_cycles {label : Label} (cycles : Cycles s) (plain : plainHangup s label)
    (taken : step s label = .ok t) : Cycles t := by
  obtain ⟨allowed, looped, reached⟩ := step_parts taken
  have alive : Lived t.life ∧ Rested t.loop t.life := by
    by_cases closed : opens label = false
    · exact closed_cycles cycles closed plain allowed looped reached
    · cases label
      case poll sources connections =>
        have polled := (Runs.run_single _ _ _).symm.trans reached
        have plain : ConnectionLife.plainHangup s.life (.poll connections) := trivial
        refine ⟨step_lived cycles.lived plain ?_ polled, poll_rested cycles.lived cycles.agree
          cycles.orderly ((mapError_ok _ _ _).mp looped) polled⟩
        intro action q socket same
        cases same
      case connectorCallback =>
        exact callback_lived cycles ((mapError_ok _ _ _).mp looped) reached
      all_goals exact absurd rfl closed
  obtain ⟨orderly, fresh⟩ := step_inOrder cycles allowed looped
  exact ⟨step_agree cycles looped reached, orderly, alive.1, fresh, alive.2⟩

end Cycles

section Failures

/-- An assertion of the connector or of the client failed, or a missing channel was
used. -/
def Failure.asserts : Failure → Prop
  | .connector fault => fault ≠ .notEnabled
  | .client failure => failure = .removal ∨ ∃ fault, failure = .fault fault
  | _ => False

variable {s t : State}

/-- A restart finds the connector `connected` and without a channel: the lost
connection was dispatched, so the reset of its attempt has run. -/
theorem restart_returns (cycles : Cycles s) (result : ConnectResult) (fault : Fault)
    (allowed : permitted s (.remove result) = true) :
    ConnectorLoop.step s.loop (.restart result) ≠ .error fault := by
  have connected := removing_connected cycles result allowed
  have noResets : s.loop.resets = [] := by
    cases removing : s.life.system.phase with
    | removing id revents callbacks active =>
      have held := removing_held cycles.lived.traces.sound removing
      refine cycles.rested.reset id held ?_
      rw [removing]
      exact List.mem_cons_self
    | polling | dispatching | handling | running =>
      simp [permitted, removing, ConnectionLife.Phase.removed] at allowed
  have channel := ConnectorLoop.channel_none cycles.orderly (by simp [connected]) noResets
  let reset : Connector := { s.loop.connector with
    state := .disconnected
    retryDelayMs := Connector.kInitRetryDelayMs
    connectFlag := true }
  exact ConnectorLoop.call_passes
    (Connector.startInLoop_returns (c := reset) result rfl fun _ => Or.inl channel) fault

/-- The connector's step passes its assertions, unless it is a retry that does not find
the channel of its failed attempt reset. -/
theorem connector_failed {label : Label} (cycles : Cycles s) (allowed : permitted s label = true)
    {inner : ConnectorLoop.Label} (same : loopLabel s label = some inner) (fault : Fault)
    (failed : ConnectorLoop.step s.loop inner = .error fault) :
    fault ≠ .notEnabled ↔ ¬ resetFirst s label := by
  have passes : ConnectorLoop.calm s.loop inner → (∀ result, inner ≠ .restart result) →
      resetFirst s label → (fault ≠ .notEnabled ↔ ¬ resetFirst s label) := fun calmly others first =>
    iff_of_false
      (fun other => other (ConnectorLoop.step_passes cycles.orderly inner calmly others fault failed))
      (not_not.mpr first)
  cases label
  case remove result =>
    simp only [loopLabel] at same
    split at same
    · obtain rfl := Option.some.inj same
      exact absurd failed (restart_returns cycles result fault allowed)
    · cases same
  case fire result =>
    obtain rfl := Option.some.inj same
    exact ConnectorLoop.fire_failed cycles.orderly result fault failed
  case connect result =>
    obtain rfl := Option.some.inj same
    have unstarted : s.loop.started = false := by simpa [permitted] using allowed
    obtain ⟨disconnected, noResets, noDue⟩ := cycles.fresh unstarted
    refine passes ⟨disconnected, (List.append_eq_nil_iff.mp noDue).2, Or.inl ?_⟩ (by simp) trivial
    exact ConnectorLoop.channel_none cycles.orderly (by simp [disconnected]) noResets
  all_goals
    cases same <;> exact passes trivial (by simp) trivial

/-- A call of the client fails where its own step fails, or runs out of connection
numbers: a new connection is always established. -/
theorem owner_failed {life : Traced client} {action : Action} {failure : ConnectionLife.Failure}
    (failed : life.step (.owner action) = .error failure) :
    act (queued life) action = .error failure ∨ failure = .connIdOverflow := by
  rcases (bind_failed _ _ _).mp failed with stepped | ⟨system, _, after⟩
  · rcases (bind_failed _ _ _).mp stepped with acted | ⟨⟨owner, socket⟩, _, continued⟩
    · exact Or.inl acted
    · cases socket with
      | none => cases continued
      | some socket =>
        simp only at continued
        split at continued
        case isFalse => exact Or.inr (Except.error.inj continued).symm
        case isTrue =>
          have established : (TcpConnection.create socket.1 socket.2).connectEstablished =
              .ok _ := (TcpConnection.connectEstablished_ok _ _).mpr ⟨rfl, rfl⟩
          rw [established] at continued
          cases continued
  · cases after

/-- A callback of the connector that returned in the loop returns in the client. -/
theorem connectorStep_passes {q : Queued} {outcome : Outcome (Connector × List ConnectorEffect)}
    {before after : ConnectorLoop.State} {pollFailed writeCompleteCallback : Bool}
    (called : ConnectorLoop.call before outcome = .ok after) (failure : ConnectionLife.Failure) :
    TcpClient.connectorStep q outcome pollFailed writeCompleteCallback ≠ .error failure := by
  obtain ⟨returned, rfl, _⟩ := (bind_ok _ _ _).mp called
  intro failed
  cases failed

/-- A call of the client whose own step returns, or is refused, fails no
assertion. -/
theorem owner_passes {life : Traced client} {action : Action} {failure : Failure}
    (failed : clientStep life (.owner action) = .error failure)
    (returns : ∀ inner, act (queued life) action = .error inner → inner = .notEnabled) :
    ¬ failure.asserts := by
  obtain ⟨inner, stepped, rfl⟩ := (mapError_failed _ _ _).mp failed
  rcases owner_failed stepped with acted | rfl
  · rw [returns inner acted]
    rintro (removal | ⟨fault, other⟩)
    · cases removal
    · cases other
  · rintro (removal | ⟨fault, other⟩)
    · cases removal
    · cases other

/-- A failure of a connection is none of the client. -/
theorem connection_passes {life : Traced client} {label : ConnectionLife.Label client}
    {failure : Failure} (foreign : ∀ action, label ≠ .owner action)
    (kept : ∀ choice, label ≠ .remove choice)
    (failed : clientStep life label = .error failure) : ¬ failure.asserts := by
  obtain ⟨inner, -, rfl⟩ := (mapError_failed _ _ _).mp failed
  cases label
  case owner action => exact absurd rfl (foreign action)
  case remove choice => exact absurd rfl (kept choice)
  all_goals exact id

/-- A removal finds its connection, and the restart returned in the loop. -/
theorem remove_passes (cycles : Cycles s) (result : ConnectResult) {failure : Failure}
    (looped : connectorStep s.loop (loopLabel s (.remove result)) = .ok t.loop)
    (failed : clientStep s.life (.remove result) = .error failure) : ¬ failure.asserts := by
  obtain ⟨inner, stepped, rfl⟩ := (mapError_failed _ _ _).mp failed
  rcases (bind_failed _ _ _).mp stepped with taken | ⟨system, _, after⟩
  case inr => cases after
  simp only [ConnectionLife.step] at taken
  split at taken
  case h_2 =>
    obtain rfl := Except.error.inj taken
    rintro (removal | ⟨fault, other⟩)
    · cases removal
    · cases other
  case h_1 id revents callbacks active removing =>
    have held : (queued s.life).client.connection = some id :=
      removing_held cycles.lived.traces.sound removing
    rcases (bind_failed _ _ _).mp taken with removed | ⟨owner, _, continued⟩
    case inr => cases continued
    rcases (bind_failed _ _ _).mp removed with inside | ⟨_, _, finished⟩
    case inr => cases finished
    exfalso
    have inside : (queued s.life).client.removeConnection id result = .error inner := inside
    simp only [TcpClient.removeConnection, held, if_true] at inside
    split at inside
    case isFalse => cases inside
    case isTrue wanted =>
      simp only [loopLabel, if_pos wanted, connectorStep, mapError_ok] at looped
      obtain ⟨returned, restarted, _⟩ := (bind_ok _ _ _).mp looped
      rw [cycles.agree.connector, restarted] at inside
      cases inside

/-- The client's own calls other than the connector's callbacks return. -/
theorem act_returns {q : Queued} {action : Action} {failure : ConnectionLife.Failure}
    (plain : action = .enableRetry ∨ action = .connect ∨ action = .disconnect ∨ action = .stop ∨
      action = .resetChannel)
    (failed : act q action = .error failure) : failure = .notEnabled := by
  rcases plain with rfl | rfl | rfl | rfl | rfl
  case inr.inr.inr.inr =>
    simp only [act] at failed
    split at failed
    · cases failed
    · exact (Except.error.inj failed).symm
  all_goals cases failed

/-- Where the connector's step returned, the client's passes its assertions.

Proof: both call the same functions of the same connector; the client's own
assertion is that of the removal. -/
theorem client_passes {label : Label} (cycles : Cycles s) {failure : Failure}
    (looped : connectorStep s.loop (loopLabel s label) = .ok t.loop)
    (failed : Runs.run clientStep s.life (lifeLabels s label) = .error failure) :
    ¬ failure.asserts := by
  cases label
  case remove result =>
    exact remove_passes cycles result looped ((Runs.run_single _ _ _).symm.trans failed)
  all_goals simp only [loopLabel, connectorStep, mapError_ok, pure_ok] at looped
  case enableRetry | stop | resetChannel =>
    exact owner_passes ((Runs.run_single _ _ _).symm.trans failed)
      fun _ acted => act_returns (by simp) acted
  case connect result =>
    rcases (Runs.run_cons_failed _ _ _ _ _).mp failed with first | ⟨middle, first, rest⟩
    · exact owner_passes first fun _ acted => act_returns (by simp) acted
    · have first := (mapError_ok _ _ _).mp first
      have called := (connect_called cycles first looped).2
      exact owner_passes ((Runs.run_single _ _ _).symm.trans rest)
        fun inner acted => absurd acted (connectorStep_passes called inner)
  case disconnect =>
    rcases (Runs.run_cons_failed _ _ _ _ _).mp failed with first | ⟨middle, _, rest⟩
    · exact owner_passes first fun _ acted => act_returns (by simp) acted
    · cases connection : (queued s.life).client.connection with
      | none =>
        rw [connection] at rest
        cases rest
      | some id =>
        rw [connection] at rest
        exact connection_passes (by simp) (by simp) ((Runs.run_single _ _ _).symm.trans rest)
  case connectorCallback socketError selfConnect pollFailed writeCompleteCallback =>
    simp only [ConnectorLoop.step, ← cycles.agree.connector] at looped
    split at looped
    case h_3 => cases looped
    case h_1 callbacks active phase =>
      simp only [lifeLabels, phase, Runs.run_single] at failed
      exact owner_passes failed fun inner acted => absurd acted (connectorStep_passes looped inner)
    case h_2 callbacks active phase =>
      simp only [lifeLabels, phase, Runs.run_single] at failed
      exact owner_passes failed fun inner acted => absurd acted (connectorStep_passes looped inner)
  case fire result =>
    simp only [ConnectorLoop.step, ← cycles.agree.connector] at looped
    split at looped
    case h_2 => cases looped
    case h_1 timer expired active expiring =>
      exact owner_passes ((Runs.run_single _ _ _).symm.trans failed)
        fun inner acted => absurd acted (connectorStep_passes looped inner)
  case dispatchConnector | expire | forget | finishSource => cases failed
  case poll | shutdown | send | dispatch | callback | finishEvent | swap | connectDestoryed
      | finishFunctors =>
    exact connection_passes (by simp) (by simp) ((Runs.run_single _ _ _).symm.trans failed)

/-- A step whose connector returned met the condition on retries. -/
theorem connector_returned {label : Label}
    (looped : connectorStep s.loop (loopLabel s label) = .ok t.loop) : resetFirst s label := by
  cases label
  case fire result =>
    exact ConnectorLoop.fire_returned result _ ((mapError_ok _ _ _).mp looped)
  all_goals trivial

/-- A step that fails an assertion is a retry that does not find the channel of its
failed attempt reset. -/
theorem step_asserts {label : Label} (cycles : Cycles s) {failure : Failure}
    (failed : step s label = .error failure) : failure.asserts ↔ ¬ resetFirst s label := by
  unfold step at failed
  split at failed
  case isFalse refused =>
    obtain rfl := Except.error.inj failed
    refine iff_of_false id (not_not.mpr ?_)
    cases label
    case fire result => exact absurd rfl refused
    all_goals trivial
  case isTrue allowed =>
    cases looped : connectorStep s.loop (loopLabel s label) with
    | error reason =>
      rw [looped] at failed
      obtain rfl := Except.error.inj failed
      cases same : loopLabel s label with
      | none =>
        rw [same] at looped
        cases looped
      | some inner =>
        rw [same] at looped
        obtain ⟨fault, stepped, rfl⟩ := (mapError_failed _ _ _).mp looped
        exact connector_failed cycles allowed same fault stepped
    | ok loop =>
      have first : resetFirst s label := connector_returned (t := { s with loop := loop }) looped
      rw [looped] at failed
      cases lived : Runs.run clientStep s.life (lifeLabels s label) with
      | error reason =>
        simp only [lived, bind, Except.bind] at failed
        obtain rfl := Except.error.inj failed
        exact iff_of_false (client_passes (t := { s with loop := loop }) cycles looped lived)
          (not_not.mpr first)
      | ok life =>
        simp only [lived, bind, Except.bind] at failed
        cases failed

end Failures

/-- The whole life of a client's connections, as seen in one state of a run.

The connector the client owns is the one on the loop; at most one connection is
established and not yet destroyed; the connection callback was invoked in turn;
the client holds a connection from its establishment to the end of its close
callback. -/
structure Reconnects (s : State) : Prop where
  agrees : Agree (queued s.life) s.loop
  single : ∀ first second, first < s.life.system.created → first ∉ s.life.system.destroyed →
    second < s.life.system.created → second ∉ s.life.system.destroyed → first = second
  alternates : Alternates (statesTold s.life.heard)
  held : ∀ id, (current s.life.system).connection = some id ↔ id < s.life.system.created ∧
    ¬ (id ∈ s.life.system.closed ∧ id ∉ s.life.system.phase.removed)

/-- A client that keeps the order of its cycles reconnects in turn. -/
theorem reconnects_of_cycles {s : State} (cycles : Cycles s) : Reconnects s where
  agrees := cycles.agree
  single := by
    intro first second created alive others stays
    cases cycles.lived.paired with
    | down destroyed => exact absurd (destroyed first created) alive
    | up last more _ destroyed =>
      have isLast : ∀ id, id < s.life.system.created → id ∉ s.life.system.destroyed → id = last := by
        intro id below undestroyed
        by_contra different
        exact undestroyed (destroyed id (by omega))
      rw [isLast first created alive, isLast second others stays]
  alternates := cycles.lived.alternates
  held := holds_open cycles.lived.traces.sound

/-- A client that is connected once reconnects in turn, in every run whose masks
meet the assumption on the kernel: every state it reaches has at most one
connection that is not destroyed, announced in turn. None of its assertions fails
exactly when each retry timer that runs finds the channel of its failed attempt
reset, or does not need one.

Proof: the order of the cycle is kept by every step that returns. A step that
fails an assertion is a retry that fails the one of `connecting`. -/
theorem client_alternates_iff (labels : List Label)
    (allowed : Runs.Along step plainHangup initial labels) :
    (Runs.Throughout step Reconnects initial labels ∧
      ∀ failure, Runs.run step initial labels = .error failure → ¬ failure.asserts) ↔
      Runs.Along step resetFirst initial labels := by
  have kept : ∀ s label t, Cycles s → plainHangup s label → step s label = .ok t → Cycles t :=
    fun s label t cycles plain taken => step_cycles cycles plain taken
  have reconnects : Runs.Throughout step Reconnects initial labels := by
    rintro before after s rfl reached
    have front := ((Runs.along_append step plainHangup initial before after).mp allowed).1
    exact reconnects_of_cycles
      (Runs.guarded_invariant step plainHangup Cycles kept before initial s initial_cycles front
        reached)
  rw [← Runs.guarded_unfailing_iff step plainHangup resetFirst Failure.asserts Cycles kept
    (fun s label failure cycles _ failed => step_asserts cycles failed)
    (fun s label t _ _ taken => connector_returned (step_parts taken).2.1) labels initial
    initial_cycles allowed]
  exact and_iff_right reconnects

/-- The first connection is closed by its peer and the first attempt after it is
refused; the retry succeeds, and the second connection hangs up after it was used,
shut down and its client stopped. -/
def lostTwice : List Label :=
  [.enableRetry, .connect ⟨5, EINPROGRESS⟩, .poll [.connector] [], .dispatchConnector POLLOUT,
    .connectorCallback 0 false false false, .finishSource, .swap, .resetChannel, .finishFunctors,
    .poll [] [0], .dispatch POLLIN, .callback (.received []) (.failed 0),
    .remove ⟨6, ECONNREFUSED⟩, .finishEvent, .swap, .connectDestoryed, .finishFunctors,
    .poll [.timers] [], .expire [0], .fire ⟨7, EINPROGRESS⟩, .finishSource, .swap, .finishFunctors,
    .poll [.connector] [], .dispatchConnector POLLOUT, .connectorCallback 0 false false true,
    .send 1 ⟨[21, 22], by decide⟩ (.accepted 2), .finishSource, .swap, .resetChannel,
    .finishFunctors, .disconnect, .poll [] [1], .dispatch POLLHUP,
    .callback (.failed 0) (.failed 0), .stop, .remove ⟨8, EINPROGRESS⟩, .finishEvent, .swap,
    .connectDestoryed]

/-- In this run the client goes up and down twice, with a refused attempt and a retry
between. -/
theorem client_alternates_iff_lost_twice :
    ∃ s, Runs.run step initial lostTwice = .ok s ∧
      statesTold s.life.heard = [.connected, .disconnected, .connected, .disconnected] ∧
      s.life.system.destroyed = [0, 1] ∧ Reconnects s := by
  have computed : (Runs.run step initial lostTwice).map
      (fun s => (statesTold s.life.heard, s.life.system.destroyed)) =
        .ok ([.connected, .disconnected, .connected, .disconnected], [0, 1]) := by decide +kernel
  obtain ⟨s, reached, computed⟩ := (Runs.map_returned _ _ _).mp computed
  simp only [Prod.mk.injEq] at computed
  obtain ⟨told, destroyed⟩ := computed
  have reconnects := ((client_alternates_iff lostTwice (by decide +kernel)).mpr
    (by decide +kernel)).1 lostTwice [] s (by simp) reached
  exact ⟨s, reached, told, destroyed, reconnects⟩

/-- The first attempt fails, and the timer descriptor is active in the same iteration
with the retry timer among the expired ones. -/
def expiredWhileResetting : List Label :=
  [.enableRetry, .connect ⟨5, EINPROGRESS⟩, .poll [.connector, .timers] [],
    .dispatchConnector POLLERR, .connectorCallback 111 false false false, .finishSource,
    .expire [0], .fire ⟨6, EINPROGRESS⟩]

/-- The retry that runs while the reset of its failed attempt is queued fails an
assertion, in a run that meets the assumption on the kernel. -/
theorem expired_retry_fails :
    Runs.Along step plainHangup initial expiredWhileResetting ∧
      ∃ failure, Runs.run step initial expiredWhileResetting = .error failure ∧ failure.asserts := by
  refine ⟨by decide +kernel, .connector .assertion, ?_, by simp [Failure.asserts]⟩
  refine (Runs.map_failed (fun _ => ()) _ _).mp ?_
  decide +kernel

end ReactorNetwork.ClientLoop
