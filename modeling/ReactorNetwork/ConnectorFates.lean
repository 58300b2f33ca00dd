import ReactorNetwork.ConnectorCalls

/-!
# What becomes of a connector's sockets

A connector is started once, stopped at any time, and restarted only after it
handed a socket over, once for each and in a later iteration. Then its record of
sockets and retries is a sequence of finished attempts, with an attempt in progress at
the end exactly while its state is `connecting`. A finished attempt closed its socket
once, scheduling at most one retry, or handed it over and never closed it.

That holds in every state. But a retry timer may run in the iteration in which its
attempt failed, when another timer made the timer descriptor readable. Its own attempt then
finds the channel of the failed one in place: the assertion of `connecting` fails with a
socket that is neither closed nor handed over nor held.

Descriptors may be used again by the kernel, so an attempt is known by its place
in the record and not by the number of its socket.
-/

namespace ReactorNetwork.ConnectorLoop

/-- How an attempt ended. -/
inductive Fate where
  | closed
  | retried (delayMs : Nat)
  | handedOver
deriving DecidableEq, Repr

/-- What a finished attempt left on record. -/
def Fate.record (sockFd : Int) : Fate → List ConnectorEffect
  | .closed => [.opened sockFd, .closed sockFd]
  | .retried delayMs => [.opened sockFd, .closed sockFd, .runAfter delayMs]
  | .handedOver => [.opened sockFd, .newConnection sockFd]

/-- The effects that concern sockets and retries. -/
def ofSockets : ConnectorEffect → Bool
  | .opened _ | .closed _ | .runAfter _ | .newConnection _ => true
  | .updateChannel | .removeChannel | .queueResetChannel | .cancelTimer => false

/-- The socket of the attempt in progress. -/
def State.held (s : State) : List Int :=
  match s.connector.state, s.connector.channel with
  | .connecting, some channel => [channel.fd]
  | _, _ => []

/-- The record consists of the finished attempts and of the one in progress. -/
def Accounts (s : State) (fates : List (Int × Fate)) : Prop :=
  s.effects.filter ofSockets =
    fates.flatMap (fun attempt => attempt.2.record attempt.1) ++ s.held.map .opened

/-- The connector is called as its client calls it: started once, and restarted only after
a hand-over and in a later iteration, which has run the reset that the hand-over queued. -/
def documented (s : State) : Label → Prop
  | .start _ => s.started = false
  | .restart _ => s.handedOver = true ∧ s.resets = []
  | _ => True

instance (s : State) (label : Label) : Decidable (documented s label) :=
  match label with
  | .start _ => inferInstanceAs (Decidable (_ = _))
  | .restart _ => inferInstanceAs (Decidable (_ ∧ _))
  | .stop | .poll _ | .dispatch _ | .callback _ _ | .expire _ | .fire _ | .forget _ | .finishEvent
  | .swap | .runFunctor | .finishFunctors => isTrue trivial

/-- Nothing happens before the start, and a socket handed over is the last thing
that happened. -/
structure Licensed (s : State) : Prop where
  fresh : Fresh s
  unhanded : s.started = false → s.handedOver = false
  handed : s.handedOver = true → s.connector.state = .connected

/-- Every socket has one fate: the record consists of finished attempts and of the one in
progress, whose socket the channel holds exactly in state `connecting`. A run that failed
only tried a step that was not possible; one that fails an assertion leaves the socket of
that step's attempt without a fate. -/
def OneFate : Outcome State → Prop
  | .ok s => (∃ fates, Accounts s fates) ∧
      (s.connector.state = .connecting ↔ ∃ sockFd, s.held = [sockFd])
  | .error fault => fault = .notEnabled

variable {s : State}

/-- What a step can do to the record: nothing to the sockets, an attempt from a
state with none in progress, or the end of the attempt in progress. -/
inductive Recorded (s t : State) : Prop where
  | nothing (held : t.held = s.held)
      (effects : t.effects.filter ofSockets = s.effects.filter ofSockets)
  | attempted (c : Connector) (sockFd : Int) (effects : List ConnectorEffect)
      (idle : s.connector.state ≠ .connecting) (before : c.state = .disconnected)
      (made : c.Attempted sockFd t.connector effects) (record : t.effects = s.effects ++ effects)
  | ended (channel : Channel) (effects : List ConnectorEffect)
      (connecting : s.connector.state = .connecting) (present : s.connector.channel = some channel)
      (made : s.connector.Ended channel t.connector effects)
      (record : t.effects = s.effects ++ effects)

/-- Outside an attempt the connector holds no socket. -/
theorem held_idle (idle : s.connector.state ≠ .connecting) : s.held = [] := by
  unfold State.held
  split
  case h_1 connecting _ => exact absurd connecting idle
  case h_2 => rfl

/-- Every step whose call fits does one of these to the record. -/
theorem step_recorded (orderly : Orderly s) (label : Label) (t : State) (fitting : fits s label)
    (taken : step s label = .ok t) : Recorded s t := by
  cases stepped taken with
  | start result after effects attempted =>
    exact .attempted s.connector.start _ effects (by simp [fitting.1]) fitting.1 attempted rfl
  | restart result after effects attempted =>
    have connected : s.connector.state = .connected := fitting
    exact .attempted _ _ effects (by simp [connected]) rfl attempted rfl
  | fire result timer expired active after effects expiring disconnected attempted =>
    exact .attempted _ _ effects (by simp [disconnected]) disconnected attempted rfl
  | ended _ _ callback callbacks active channel after effects handling connecting present ended =>
    exact .ended channel effects connecting present ended rfl
  | ignored _ _ callbacks active => exact .nothing rfl (by simp [perform])
  | stop => exact .nothing rfl (by simp [perform, Connector.stop, ofSockets])
  | runFunctor attempt batch running =>
    have idle := (running_own orderly running).2.1
    refine .nothing ?_ rfl
    rw [held_idle idle, held_idle]
    exact idle
  | forget | poll | dispatch | expire | finishHandling | finishExpiring | swap | finishFunctors =>
    exact .nothing rfl rfl

/-- The account of the sockets is kept: an attempt is added to it, finished or in
progress, and the end of the one in progress finishes it. -/
theorem recorded_accounts {t : State} (recorded : Recorded s t) {fates : List (Int × Fate)}
    (accounts : Accounts s fates) : ∃ after, Accounts t after := by
  cases recorded with
  | nothing held effects =>
    refine ⟨fates, ?_⟩
    rw [Accounts, effects, held]
    exact accounts
  | attempted c sockFd effects idle before made record =>
    have none := held_idle idle
    rw [Accounts, none, List.map_nil, List.append_nil] at accounts
    have notConnecting : c.state ≠ .connecting := by simp [before]
    generalize connector : t.connector = after at made
    cases made with
    | declined stopped =>
      refine ⟨fates, ?_⟩
      rw [Accounts, held_idle (by rw [connector]; exact notConnecting), record]
      simpa using accounts
    | begun wanted free =>
      refine ⟨fates, ?_⟩
      have held : t.held = [sockFd] := by
        simp [State.held, connector, Channel.create, Channel.enableWriting]
      rw [Accounts, held, record, List.filter_append, accounts]
      rfl
    | refused wanted =>
      refine ⟨fates ++ [(sockFd, .retried c.retryDelayMs)], ?_⟩
      rw [Accounts, held_idle (by rw [connector]; simp), record, List.filter_append, accounts]
      simp [ofSockets, Fate.record]
    | abandoned wanted =>
      refine ⟨fates ++ [(sockFd, .closed)], ?_⟩
      rw [Accounts, held_idle (by rw [connector]; exact notConnecting), record, List.filter_append,
        accounts]
      simp [ofSockets, Fate.record]
  | ended channel effects connecting present made record =>
    have held : s.held = [channel.fd] := by simp [State.held, connecting, present]
    rw [Accounts, held] at accounts
    have idle : t.connector.state ≠ .connecting := by
      generalize t.connector = after at made
      cases made <;> simp
    have finished : ∀ fate : Fate, effects.filter ofSockets = (fate.record channel.fd).tail →
        ∃ after, Accounts t after := by
      intro fate rest
      refine ⟨fates ++ [(channel.fd, fate)], ?_⟩
      have whole : fate.record channel.fd = .opened channel.fd :: (fate.record channel.fd).tail := by
        cases fate <;> rfl
      rw [Accounts, held_idle idle, record, List.filter_append, accounts, rest]
      simp [← whole]
    generalize t.connector = after at made
    cases made with
    | retried wanted => exact finished (.retried s.connector.retryDelayMs) rfl
    | failed stopped => exact finished .closed rfl
    | handedOver wanted => exact finished .handedOver rfl
    | dropped stopped => exact finished .closed rfl

/-- A start or restart that the documentation allows finds the connector in the state it
needs. -/
theorem licensed_fits (licensed : Licensed s) (label : Label) (allowed : documented s label) :
    fits s label := by
  cases label
  case start result =>
    obtain ⟨disconnected, _, none⟩ := licensed.fresh allowed
    exact ⟨disconnected, none⟩
  case restart result => exact licensed.handed allowed.1
  all_goals trivial

/-- Before the start nothing was handed over. -/
theorem initial_licensed : Licensed initial where
  fresh := initial_fresh
  unhanded := fun _ => rfl
  handed := fun impossible => by cases impossible

/-- An attempt hands nothing over. -/
theorem attempted_handedOver {c after : Connector} {sockFd : Int} {effects : List ConnectorEffect}
    (attempted : c.Attempted sockFd after effects) :
    (perform s after effects).handedOver = s.handedOver := by
  cases attempted <;> rfl

/-- The end of an attempt hands its socket over, and is `connected` then, or nothing. -/
theorem ended_handedOver {c after : Connector} {channel : Channel} {effects : List ConnectorEffect}
    (ended : c.Ended channel after effects) :
    (perform s after effects).handedOver = s.handedOver ∨ after.state = .connected := by
  cases ended with
  | handedOver => exact Or.inr rfl
  | retried | failed | dropped => exact Or.inl rfl

/-- Every documented step keeps the licence. -/
theorem step_licensed (orderly : Orderly s) (licensed : Licensed s) (label : Label) (t : State)
    (allowed : documented s label) (taken : step s label = .ok t) : Licensed t := by
  have fresh := step_fresh s label t orderly licensed.fresh (licensed_fits licensed label allowed)
    taken
  have kept : t.started = s.started → t.handedOver = s.handedOver →
      (s.handedOver = true → t.connector.state = s.connector.state) → Licensed t := by
    intro started handedOver state
    refine ⟨fresh, fun unstarted => ?_, fun handed => ?_⟩
    · exact handedOver.trans (licensed.unhanded (started.symm.trans unstarted))
    · have before := handedOver.symm.trans handed
      exact (state before).trans (licensed.handed before)
  -- a call in another state than `connected` comes behind no hand-over
  have idle : s.connector.state ≠ .connected → s.handedOver ≠ true :=
    fun other handed => other (licensed.handed handed)
  cases stepped taken with
  | start result after effects attempted =>
    have handedOver := (attempted_handedOver (s := { s with started := true }) attempted).trans
      (licensed.unhanded allowed)
    exact ⟨fresh, fun _ => handedOver, fun handed => by cases handedOver.symm.trans handed⟩
  | restart result after effects attempted =>
    have handedOver := attempted_handedOver (s := { s with handedOver := false }) attempted
    exact ⟨fresh, fun _ => handedOver, fun handed => by cases handedOver.symm.trans handed⟩
  | fire result timer expired active after effects expiring disconnected attempted =>
    refine kept (attempted_started attempted) (attempted_handedOver attempted) fun handed => ?_
    exact absurd handed (idle (by simp [disconnected]))
  | ended _ _ callback callbacks active channel after effects handling connecting present ended =>
    rcases ended_handedOver (s := { s with phase := .handling callbacks active }) ended with
      same | connected
    · refine kept (ended_started ended) same fun handed => ?_
      exact absurd handed (idle (by simp [connecting]))
    · refine ⟨fresh, fun unstarted => ?_, fun _ => connected⟩
      rw [ended_started ended] at unstarted
      have started := handling_started orderly licensed.fresh
        (by simp [handling, Phase.callbacks])
      cases started.symm.trans unstarted
  | ignored | stop | forget | poll | dispatch | expire | finishHandling | finishExpiring | swap
    | runFunctor | finishFunctors => exact kept rfl rfl fun _ => rfl

/-- A documented step that fails was not possible, or it is a retry timer that did not find
its reset done. -/
theorem step_failed (orderly : Orderly s) (licensed : Licensed s) (label : Label) (fault : Fault)
    (allowed : documented s label) (failed : step s label = .error fault) :
    fault ≠ .notEnabled ↔ ¬ resetFirst s label := by
  have calmly : calm s label → (∀ result, label ≠ .restart result) → resetFirst s label →
      (fault ≠ .notEnabled ↔ ¬ resetFirst s label) := fun met others first =>
    iff_of_false (fun other => other (step_passes orderly label met others fault failed))
      (not_not.mpr first)
  cases label
  case fire result => exact fire_failed orderly result fault failed
  case start result =>
    obtain ⟨disconnected, noResets, noDue⟩ := licensed.fresh allowed
    have free := channel_none orderly (by simp [disconnected]) noResets
    exact calmly ⟨disconnected, (List.append_eq_nil_iff.mp noDue).2, Or.inl free⟩ (by simp) trivial
  case restart result =>
    have connected := licensed.handed allowed.1
    have free := channel_none orderly (by simp [connected]) allowed.2
    let reset : Connector := { s.connector with
      state := .disconnected
      retryDelayMs := Connector.kInitRetryDelayMs
      connectFlag := true }
    exact absurd failed (call_passes
      (Connector.startInLoop_returns (c := reset) result rfl fun _ => Or.inl free) fault)
  all_goals exact calmly trivial (by simp) trivial

/-- A step that returns met the condition. -/
theorem step_returned (label : Label) (t : State) (taken : step s label = .ok t) :
    resetFirst s label := by
  cases label
  case fire result => exact fire_returned result t taken
  all_goals trivial

/-- In an orderly state an attempt is in progress exactly while its socket is held. -/
theorem held_iff (orderly : Orderly s) :
    s.connector.state = .connecting ↔ ∃ sockFd, s.held = [sockFd] := by
  constructor
  · intro connecting
    have present := orderly.channelled.exists_iff.mpr (Or.inl connecting)
    obtain ⟨channel, here⟩ := Option.ne_none_iff_exists'.mp present
    exact ⟨channel.fd, by simp [State.held, connecting, here]⟩
  · rintro ⟨sockFd, held⟩
    by_contra idle
    rw [held_idle idle] at held
    cases held

/-- What every documented step keeps. -/
structure Recorded.Kept (s : State) : Prop where
  orderly : Orderly s
  licensed : Licensed s
  accounts : ∃ fates, Accounts s fates

/-- Every documented step that returns keeps the order, the licence and the account of
the sockets. -/
theorem step_kept (s : State) (label : Label) (t : State) (kept : Recorded.Kept s)
    (allowed : documented s label) (taken : step s label = .ok t) : Recorded.Kept t := by
  obtain ⟨orderly, licensed, fates, accounts⟩ := kept
  have fitting := licensed_fits licensed label allowed
  exact ⟨step_orderly s label t orderly fitting taken,
    step_licensed orderly licensed label t allowed taken,
    recorded_accounts (step_recorded orderly label t fitting taken) accounts⟩

/-- Before the start there are no sockets to account for. -/
theorem initial_kept : Recorded.Kept initial := ⟨initial_orderly, initial_licensed, [], rfl⟩

/-- In every run in which the connector is started once and restarted only after a hand-over:
every socket has exactly one fate exactly when each retry timer that runs with `connect_` set
finds the channel of its failed attempt reset, or its `connect` does not begin.

Proof: the account is kept by every step that returns. A step that fails was not possible, or
is a retry timer that fails the assertion of `connecting`. -/
theorem sockets_have_one_fate_iff (labels : List Label)
    (called : Runs.Along step documented initial labels) :
    OneFate (Runs.run step initial labels) ↔ Runs.Along step resetFirst initial labels := by
  rw [← Runs.guarded_unfailing_iff step documented resetFirst (· ≠ .notEnabled) Recorded.Kept
    step_kept (fun _ label fault kept allowed failed =>
      step_failed kept.orderly kept.licensed label fault allowed failed)
    (fun _ label t _ _ taken => step_returned label t taken) labels initial initial_kept called]
  cases reached : Runs.run step initial labels with
  | error fault => simp [OneFate]
  | ok s =>
    have kept : Recorded.Kept s := Runs.guarded_invariant step documented Recorded.Kept step_kept
      labels initial s initial_kept called reached
    simpa [OneFate] using ⟨kept.accounts, held_iff kept.orderly⟩

/-- The first attempt fails with an error and a writable event in one dispatch, the
retry is handed over, and the restart is refused and stopped. -/
def failedRetriedRestarted : List Label :=
  [.start ⟨5, EINPROGRESS⟩, .poll [.connector], .dispatch (POLLERR ||| POLLOUT), .callback 111 false,
    .callback 111 false, .finishEvent, .swap, .runFunctor, .finishFunctors, .poll [.timers],
    .expire [0], .fire ⟨6, EINPROGRESS⟩, .finishEvent, .swap, .finishFunctors, .poll [.connector],
    .dispatch POLLOUT, .callback 0 false, .finishEvent, .swap, .runFunctor, .finishFunctors,
    .restart ⟨7, ECONNREFUSED⟩, .stop]

/-- Of three sockets two are closed and one is handed over. -/
theorem sockets_have_one_fate_failed_retried_restarted :
    OneFate (Runs.run step initial failedRetriedRestarted) ∧
      (Runs.run step initial failedRetriedRestarted).map (fun s => s.effects.filter ofSockets) =
        .ok [.opened 5, .closed 5, .runAfter 500, .opened 6, .newConnection 6, .opened 7, .closed 7,
          .runAfter 500] :=
  ⟨(sockets_have_one_fate_iff failedRetriedRestarted (by decide +kernel)).mpr (by decide +kernel),
    by decide +kernel⟩

/-- The retry timer runs in the iteration in which its attempt failed: the assertion fails
with the second socket created, of which the connector keeps no record. -/
theorem expired_socket_without_fate :
    Runs.Along step documented initial expiredWhileResetting ∧
      ¬ OneFate (Runs.run step initial expiredWhileResetting) ∧
      (Runs.run step initial expiredWhileResetting.dropLast).map (fun s =>
        (s.effects.filter ofSockets, s.held,
          (s.connector.startInLoop ⟨6, EINPROGRESS⟩).map fun _ => ())) =
        .ok ([.opened 5, .closed 5, .runAfter 500], [], .error .assertion) := by
  refine ⟨by decide +kernel, ?_, by decide +kernel⟩
  have failed : (Runs.run step initial expiredWhileResetting).map (fun _ => ()) =
      .error .assertion := by
    decide +kernel
  rw [(Runs.map_failed _ _ _).mp failed]
  intro impossible
  cases impossible

end ReactorNetwork.ConnectorLoop
