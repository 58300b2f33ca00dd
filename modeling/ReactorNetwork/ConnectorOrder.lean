import ReactorNetwork.ConnectorLoop
import Mathlib.Data.List.Perm.Subperm

/-!
# The order of a connector's work

What holds of a connector between any two steps of its loop, as long as a `start`
finds it `disconnected` with no retry timer due and a `restart` finds it
`connected`. Its channel exists while an attempt is in progress or the reset of
that attempt is queued, and never both; at most one retry timer is due, and only
in state `disconnected`; its channel is dispatched only while the attempt is in
progress.

The conditions on `start` and `restart` are taken here as given. Their callers
show them: the runs of a connector on its own and those of a client.
-/

namespace ReactorNetwork.ConnectorLoop

/-- The channel exists while an attempt is in progress or its reset is queued,
never both, and a queued reset is for the channel that is there. -/
structure Channelled (s : State) : Prop where
  exists_iff : s.connector.channel ≠ none ↔ s.connector.state = .connecting ∨ s.resets ≠ []
  alone : s.connector.state = .connecting → s.resets = []
  single : s.resets.length ≤ 1
  own : ∀ attempt ∈ s.resets, attempt = s.channelAttempt
  registered : s.registered = true ↔ s.connector.state = .connecting

/-- At most one retry timer is due, only in state `disconnected`; one in the queue
is the one `stop` cancels. -/
structure Timed (s : State) : Prop where
  single : s.due.length ≤ 1
  idle : s.due ≠ [] → s.connector.state = .disconnected
  cancellable : ∀ timer ∈ s.timers, s.timerId = some timer
  stopped : s.connector.connectFlag = false → s.timers = []

/-- The connector's channel is dispatched only while its attempt is in progress;
what is left of a dispatch after an error is the write callback. -/
structure InTurn (s : State) : Prop where
  queueing : s.pending ≠ [] → s.phase.dispatches = true
  active : .connector ∈ s.phase.active → s.connector.state = .connecting
  activeOnce : s.phase.active.Nodup
  handling : ∀ callbacks active, s.phase = .handling callbacks active →
    Source.connector ∉ active ∧ callbacks.Sublist [.error, .write]
  handled : s.phase.callbacks ≠ [] → s.connector.state = .connecting ∨
    (s.phase.callbacks = [.write] ∧ s.connector.state = .disconnected ∧ s.resets ≠ [])

/-- The connector, its timers and what is left of the dispatch are in order. -/
structure Orderly (s : State) : Prop where
  channelled : Channelled s
  timed : Timed s
  inTurn : InTurn s

/-- Before the start there is no channel, no timer and nothing to dispatch. -/
theorem initial_orderly : Orderly initial where
  channelled := by constructor <;> simp [initial, State.resets, Phase.batch, Connector.create]
  timed := by constructor <;> simp [initial, State.due, Phase.expired, Connector.create]
  inTurn := by
    constructor <;> simp [initial, Phase.active, Phase.callbacks]

variable {s : State}

/-- A move of the loop that leaves the connector, the queued resets and the due
timers as they are keeps the order. -/
theorem moved_orderly (orderly : Orderly s) {t : State} (connector : t.connector = s.connector)
    (registered : t.registered = s.registered) (timerId : t.timerId = s.timerId)
    (timers : t.timers = s.timers) (channelAttempt : t.channelAttempt = s.channelAttempt)
    (resets : t.resets = s.resets) (due : t.due = s.due) (inTurn : InTurn t) : Orderly t := by
  obtain ⟨channelled, timed, _⟩ := orderly
  refine ⟨⟨?_, ?_, ?_, ?_, ?_⟩, ⟨?_, ?_, ?_, ?_⟩, inTurn⟩
  · rw [connector, resets]
    exact channelled.exists_iff
  · rw [connector, resets]
    exact channelled.alone
  · rw [resets]
    exact channelled.single
  · rw [resets, channelAttempt]
    exact channelled.own
  · rw [registered, connector]
    exact channelled.registered
  · rw [due]
    exact timed.single
  · rw [due, connector]
    exact timed.idle
  · rw [timers, timerId]
    exact timed.cancellable
  · rw [connector, timers]
    exact timed.stopped

/-- The order reads neither the counters nor the record. -/
theorem orderly_same (orderly : Orderly s) {t : State} (connector : t.connector = s.connector)
    (registered : t.registered = s.registered) (timerId : t.timerId = s.timerId)
    (timers : t.timers = s.timers) (channelAttempt : t.channelAttempt = s.channelAttempt)
    (pending : t.pending = s.pending) (phase : t.phase = s.phase) : Orderly t := by
  have resets : t.resets = s.resets := by rw [State.resets, State.resets, phase, pending]
  have due : t.due = s.due := by rw [State.due, State.due, timers, phase]
  have inTurn := orderly.inTurn
  refine moved_orderly orderly connector registered timerId timers channelAttempt resets due
    ⟨?_, ?_, ?_, ?_, ?_⟩
  · rw [pending, phase]
    exact inTurn.queueing
  · rw [phase, connector]
    exact inTurn.active
  · rw [phase]
    exact inTurn.activeOnce
  · rw [phase]
    exact inTurn.handling
  · rw [phase, connector, resets]
    exact inTurn.handled

/-- An attempt from `disconnected`, when no timer is due, keeps the order.

Proof: by the outcomes of an attempt. One that begins needs the channel to be
free, so no reset is queued and the rest of no dispatch is left. -/
theorem attempted_orderly {after : Connector} {effects : List ConnectorEffect} {sockFd : Int}
    (orderly : Orderly s) (disconnected : s.connector.state = .disconnected) (none : s.due = [])
    (attempted : s.connector.Attempted sockFd after effects) :
    Orderly (perform s after effects) := by
  have kept := orderly
  obtain ⟨channelled, timed, inTurn⟩ := orderly
  have noTimers : s.timers = [] := (List.append_eq_nil_iff.mp none).1
  have noExpired : s.phase.expired = [] := (List.append_eq_nil_iff.mp none).2
  have notActive : .connector ∉ s.phase.active := fun member => by
    have connecting := inTurn.active member
    rw [disconnected] at connecting
    cases connecting
  cases attempted with
  | declined stopped =>
    exact orderly_same kept rfl rfl rfl rfl (by simp [perform, disconnected]) rfl rfl
  | abandoned wanted =>
    exact orderly_same kept rfl rfl rfl rfl (by simp [perform, disconnected]) rfl rfl
  | begun wanted free =>
    have noResets : s.resets = [] := by
      by_contra queued
      exact channelled.exists_iff.mpr (Or.inr queued) free
    have noCallbacks : s.phase.callbacks = [] := by
      by_contra left
      rcases inTurn.handled left with connecting | ⟨_, _, queued⟩
      · rw [disconnected] at connecting
        cases connecting
      · exact queued noResets
    refine ⟨⟨?_, fun _ => noResets, ?_, ?_, ?_⟩, ⟨?_, ?_, timed.cancellable, fun _ => noTimers⟩,
      ⟨inTurn.queueing, fun _ => rfl, inTurn.activeOnce, inTurn.handling, fun _ => Or.inl rfl⟩⟩
    · exact ⟨fun _ => Or.inl rfl, fun _ => by simp [perform]⟩
    · exact channelled.single
    · intro attempt queued
      have there : attempt ∈ s.resets := queued
      simp [noResets] at there
    · exact ⟨fun _ => rfl, fun _ => rfl⟩
    · exact timed.single
    · exact fun left => absurd none left
  | refused wanted =>
    refine ⟨⟨?_, ?_, channelled.single, ?_, ?_⟩, ⟨?_, fun _ => rfl, ?_, ?_⟩,
      ⟨inTurn.queueing, fun member => absurd member notActive, inTurn.activeOnce,
        inTurn.handling, ?_⟩⟩
    · have before := channelled.exists_iff
      rw [disconnected] at before
      exact before
    · intro connecting
      simp [perform] at connecting
    · intro attempt queued
      have same := channelled.own attempt queued
      simpa [perform] using same
    · have before := channelled.registered
      rw [disconnected] at before
      simpa [perform, affect] using before
    · simp [State.due, perform, affect, noTimers, noExpired]
    · simp [perform, affect, noTimers]
    · intro stopped
      simp [perform, wanted] at stopped
    · intro left
      rcases inTurn.handled left with connecting | ⟨write, _, queued⟩
      · rw [disconnected] at connecting
        cases connecting
      · exact Or.inr ⟨write, rfl, queued⟩

/-- Before an attempt the state may be set to `disconnected` and the flag to true:
no timer is due that would read the flag, and no attempt is in progress. -/
theorem reset_orderly (orderly : Orderly s) (c : Connector) (none : s.due = [])
    (channel : c.channel = s.connector.channel) (before : s.connector.state ≠ .connecting)
    (disconnected : c.state = .disconnected) : Orderly { s with connector := c } := by
  obtain ⟨channelled, timed, inTurn⟩ := orderly
  have noTimers : s.timers = [] := (List.append_eq_nil_iff.mp none).1
  refine ⟨⟨?_, ?_, channelled.single, channelled.own, ?_⟩,
    ⟨timed.single, fun left => absurd none left, timed.cancellable, fun _ => noTimers⟩,
    ⟨inTurn.queueing, ?_, inTurn.activeOnce, inTurn.handling, ?_⟩⟩
  · have iff := channelled.exists_iff
    simp only [before, false_or] at iff
    simp only [channel, disconnected, reduceCtorEq, false_or]
    exact iff
  · intro connecting
    rw [disconnected] at connecting
    cases connecting
  · have iff := channelled.registered
    simp only [before, iff_false] at iff
    simp [disconnected, iff]
  · exact fun member => absurd (inTurn.active member) before
  · intro left
    rcases inTurn.handled left with connecting | ⟨write, _, queued⟩
    · exact absurd connecting before
    · exact Or.inr ⟨write, disconnected, queued⟩

/-- What the effects do to the loop does not depend on the connector. -/
theorem foldl_affect_connector (c : Connector) (effects : List ConnectorEffect) :
    effects.foldl affect { s with connector := c } =
      { effects.foldl affect s with connector := c } := by
  induction effects generalizing s with
  | nil => rfl
  | cons effect rest inductionHypothesis =>
    have first : affect { s with connector := c } effect =
        { affect s effect with connector := c } := by
      cases effect <;> rfl
    rw [List.foldl_cons, first, inductionHypothesis]
    rfl

/-- `perform` reads of the old connector only whether an attempt was in progress. -/
theorem perform_connector (c after : Connector) (effects : List ConnectorEffect)
    (same : c.state = .connecting ↔ s.connector.state = .connecting) :
    perform { s with connector := c } after effects = perform s after effects := by
  simp only [perform, foldl_affect_connector, same, ne_eq]

/-- An event ended the attempt in progress: its reset is queued and its channel
unregistered, and a retry may be scheduled. -/
structure Released (s t : State) (after : Connector) (callbacks : List Callback)
    (active : List Source) : Prop where
  phase : t.phase = .handling callbacks active
  connector : t.connector = after
  pending : t.pending = [s.channelAttempt]
  registered : t.registered = false
  channelAttempt : t.channelAttempt = s.channelAttempt
  state : after.state ≠ .connecting
  channel : after.channel ≠ none
  timers : t.timers = [] ∨ ∃ timer, t.timers = [timer] ∧ t.timerId = some timer ∧
    after.state = .disconnected ∧ after.connectFlag = true

/-- An attempt that ends while nothing is queued releases its channel. -/
theorem ended_released {after : Connector} {channel : Channel} {effects : List ConnectorEffect}
    (noPending : s.pending = []) (noTimers : s.timers = [])
    (ended : s.connector.Ended channel after effects) (callbacks : List Callback)
    (active : List Source) :
    Released s (perform { s with phase := .handling callbacks active } after effects) after
      callbacks active := by
  cases ended with
  | retried wanted =>
    refine ⟨rfl, rfl, ?_, rfl, ?_, by simp, by simp, Or.inr ⟨s.scheduled, ?_, rfl, rfl, wanted⟩⟩
    · simp [perform, affect, noPending]
    · simp [perform]
    · simp [perform, affect, noTimers]
  | failed stopped | handedOver stopped | dropped stopped =>
    refine ⟨rfl, rfl, ?_, rfl, ?_, by simp, by simp, Or.inl ?_⟩
    · simp [perform, affect, noPending]
    · simp [perform]
    · simp [perform, affect, noTimers]

/-- The end of an attempt keeps the order, if what is left of the dispatch is
nothing or the write callback after an error. -/
theorem released_orderly {t : State} {after : Connector} {callbacks : List Callback}
    {active : List Source} (released : Released s t after callbacks active)
    (notActive : Source.connector ∉ active) (activeOnce : active.Nodup)
    (remaining : callbacks.Sublist [.error, .write])
    (rest : callbacks = [] ∨ callbacks = [.write] ∧ after.state = .disconnected) : Orderly t := by
  obtain ⟨phase, connector, pending, registered, channelAttempt, state, channel, timers⟩ := released
  have resets : t.resets = [s.channelAttempt] := by
    rw [State.resets, phase, pending]
    rfl
  have due : t.due = t.timers := by simp [State.due, phase, Phase.expired]
  refine ⟨⟨?_, ?_, ?_, ?_, ?_⟩, ⟨?_, ?_, ?_, ?_⟩, ⟨?_, ?_, ?_, ?_, ?_⟩⟩
  · simp [connector, resets, channel]
  · intro again
    rw [connector] at again
    exact absurd again state
  · simp [resets]
  · simp [resets, channelAttempt]
  · simp [registered, connector, state]
  · rw [due]
    rcases timers with none | ⟨timer, one, _⟩
    · simp [none]
    · simp [one]
  · intro left
    rw [due] at left
    rcases timers with none | ⟨timer, _, _, disconnected, _⟩
    · exact absurd none left
    · rw [connector]
      exact disconnected
  · intro timer member
    rcases timers with none | ⟨only, one, timerId, _, _⟩
    · simp [none] at member
    · rw [one, List.mem_singleton] at member
      rw [timerId, member]
  · intro stopped
    rcases timers with none | ⟨_, _, _, _, wanted⟩
    · exact none
    · rw [connector, wanted] at stopped
      cases stopped
  · intro _
    rw [phase]
    rfl
  · intro member
    rw [phase] at member
    exact absurd member notActive
  · rw [phase]
    exact activeOnce
  · intro others actives same
    rw [phase] at same
    obtain ⟨rfl, rfl⟩ := Phase.handling.inj same
    exact ⟨notActive, remaining⟩
  · intro left
    rw [phase] at left ⊢
    rcases rest with nothing | ⟨write, disconnected⟩
    · exact absurd nothing left
    · refine Or.inr ⟨write, by rw [connector]; exact disconnected, ?_⟩
      simp [resets]

/-- What holds while an attempt is in progress. -/
theorem connecting_alone (orderly : Orderly s) (connecting : s.connector.state = .connecting) :
    s.pending = [] ∧ s.timers = [] := by
  obtain ⟨channelled, timed, _⟩ := orderly
  have noDue : s.due = [] := by
    by_contra left
    have disconnected := timed.idle left
    rw [connecting] at disconnected
    cases disconnected
  exact ⟨(List.append_eq_nil_iff.mp (channelled.alone connecting)).2,
    (List.append_eq_nil_iff.mp noDue).1⟩

/-- A change of the phase that neither runs a functor nor a timer keeps the order. -/
theorem phase_orderly (orderly : Orderly s) (phase : Phase) (batch : phase.batch = s.phase.batch)
    (expired : phase.expired = s.phase.expired) (inTurn : InTurn { s with phase := phase }) :
    Orderly { s with phase := phase } :=
  moved_orderly orderly rfl rfl rfl rfl rfl (by simp only [State.resets, batch])
    (by simp only [State.due, expired]) inTurn

/-- After the first callback only the write callback can be left. -/
theorem after_first {callback : Callback} {callbacks : List Callback}
    (sublist : (callback :: callbacks).Sublist [.error, .write]) :
    callbacks = [] ∨ callbacks = [.write] := by
  rcases List.cons_sublist_cons'.mp sublist with later | ⟨_, rest⟩
  · rcases List.cons_sublist_cons'.mp later with impossible | ⟨_, rest⟩
    · cases List.sublist_nil.mp impossible
    · exact Or.inl (List.sublist_nil.mp rest)
  · exact List.sublist_singleton.mp rest

/-- After the write callback nothing is left. -/
theorem after_write {callbacks : List Callback}
    (sublist : (Callback.write :: callbacks).Sublist [.error, .write]) : callbacks = [] := by
  rcases List.cons_sublist_cons'.mp sublist with later | ⟨impossible, _⟩
  · exact List.sublist_nil.mp (List.cons_sublist_cons.mp later)
  · cases impossible

/-- The error callback ends the attempt and the write callback behind it finds nothing
to do; either keeps the order. -/
theorem callback_orderly (orderly : Orderly s) (socketError : Nat) (selfConnect : Bool) (t : State)
    (taken : step s (.callback socketError selfConnect) = .ok t) : Orderly t := by
  have inTurn := orderly.inTurn
  have activeOnce := inTurn.activeOnce
  cases stepped taken with
  | ended _ _ callback callbacks active channel after effects handling connecting present ended last =>
    rw [handling] at activeOnce
    obtain ⟨noPending, noTimers⟩ := connecting_alone orderly connecting
    obtain ⟨notActive, sublist⟩ := inTurn.handling _ _ handling
    refine released_orderly (ended_released noPending noTimers ended callbacks active)
      notActive activeOnce ((List.sublist_cons_self _ _).trans sublist) ?_
    rcases last with rfl | disconnected
    · exact Or.inl (after_write sublist)
    · exact (after_first sublist).imp_right fun write => ⟨write, disconnected⟩
  | ignored _ _ callbacks active handling disconnected =>
    rw [handling] at activeOnce
    obtain ⟨notActive, sublist⟩ := inTurn.handling _ _ handling
    obtain rfl := after_write sublist
    have popped : Orderly { s with phase := .handling [] active } := by
      refine phase_orderly orderly _ (by rw [handling]; rfl) (by rw [handling]; rfl) ?_
      refine ⟨fun _ => rfl, fun member => absurd member notActive, activeOnce, ?_, ?_⟩
      · intro others actives same
        obtain ⟨rfl, rfl⟩ := Phase.handling.inj same
        exact ⟨notActive, List.nil_sublist _⟩
      · exact fun left => absurd rfl left
    exact orderly_same popped rfl rfl rfl rfl (by simp [perform, disconnected]) rfl rfl

/-- Of its callbacks the connector provides two, called in this order. -/
theorem handleEvent_sublist (revents : EventMask) :
    (Channel.handleEvent connectorCallbacks revents).Sublist [.error, .write] := by
  have provided : [Callback.close, .error, .read, .write].filter connectorCallbacks =
      [.error, .write] := by decide
  exact provided ▸ Channel.handleEvent_in_order connectorCallbacks revents

/-- A poll reports the connector's channel only if it is registered. -/
theorem poll_orderly (orderly : Orderly s) (active : List Source) (t : State)
    (taken : step s (.poll active) = .ok t) : Orderly t := by
  cases stepped taken with
  | poll _ polling distinct registered =>
    refine phase_orderly orderly _ (by rw [polling]; rfl) (by rw [polling]; rfl) ?_
    refine ⟨fun _ => rfl, ?_, distinct, ?_, fun left => absurd rfl left⟩
    · exact fun member => orderly.channelled.registered.mp (registered member)
    · intro callbacks actives same
      cases same

/-- The channel that is dispatched is not reported twice. -/
theorem dispatch_orderly (orderly : Orderly s) (revents : EventMask) (t : State)
    (taken : step s (.dispatch revents) = .ok t) : Orderly t := by
  cases stepped taken with
  | dispatch _ active dispatching =>
    have once := orderly.inTurn.activeOnce
    have connecting := orderly.inTurn.active
    rw [dispatching] at once connecting
    obtain ⟨notActive, rest⟩ := List.nodup_cons.mp once
    refine phase_orderly orderly _ (by rw [dispatching]; rfl) (by rw [dispatching]; rfl) ?_
    refine ⟨fun _ => rfl, fun member => absurd member notActive, rest, ?_, ?_⟩
    · intro callbacks actives same
      obtain ⟨rfl, rfl⟩ := Phase.handling.inj same
      exact ⟨notActive, handleEvent_sublist revents⟩
    · exact fun _ => Or.inl (connecting List.mem_cons_self)

/-- After the last callback the loop goes on to the next channel. -/
theorem finishEvent_orderly (orderly : Orderly s) (t : State)
    (taken : step s .finishEvent = .ok t) : Orderly t := by
  have finished : ∀ active, s.phase.active = active → s.phase.batch = [] → s.phase.expired = [] →
      Orderly { s with phase := .dispatching active } := by
    intro active here batch expired
    refine phase_orderly orderly _ batch.symm expired.symm ?_
    refine ⟨fun _ => rfl, ?_, ?_, ?_, fun left => absurd rfl left⟩
    · exact fun member => orderly.inTurn.active (here ▸ member)
    · exact here ▸ orderly.inTurn.activeOnce
    · intro callbacks actives same
      cases same
  cases stepped taken with
  | finishHandling active handling =>
    exact finished active (by rw [handling]; rfl) (by rw [handling]; rfl) (by rw [handling]; rfl)
  | finishExpiring active expiring =>
    exact finished active (by rw [expiring]; rfl) (by rw [expiring]; rfl) (by rw [expiring]; rfl)

/-- At the swap nothing is dispatched any more, so what is queued is for the channel
that is there. -/
theorem swap_orderly (orderly : Orderly s) (t : State) (taken : step s .swap = .ok t) :
    Orderly t := by
  cases stepped taken with
  | swap dispatching =>
    refine moved_orderly orderly rfl rfl rfl rfl rfl ?_ ?_ ?_
    · simp [State.resets, dispatching, Phase.batch]
    · simp [State.due, dispatching, Phase.expired]
    · refine ⟨fun left => absurd rfl left, ?_, List.nodup_nil, ?_, fun left => absurd rfl left⟩
      · intro member
        cases member
      · intro callbacks actives same
        cases same

/-- A queued reset finds the channel it was queued for, and no attempt in
progress. -/
theorem running_own (orderly : Orderly s) {attempt : Nat} {batch : List Nat}
    (running : s.phase = .running (attempt :: batch)) :
    attempt = s.channelAttempt ∧ s.connector.state ≠ .connecting ∧ batch ++ s.pending = [] := by
  obtain ⟨channelled, _, _⟩ := orderly
  have resets : s.resets = attempt :: (batch ++ s.pending) := by
    simp [State.resets, running, Phase.batch]
  refine ⟨channelled.own attempt (by simp [resets]), ?_, ?_⟩
  · intro connecting
    have none := channelled.alone connecting
    simp [resets] at none
  · have single := channelled.single
    rw [resets, List.length_cons] at single
    exact List.eq_nil_of_length_eq_zero (by omega)

/-- The reset clears the channel, and no other reset is queued. -/
theorem runFunctor_orderly (orderly : Orderly s) (t : State)
    (taken : step s .runFunctor = .ok t) : Orderly t := by
  cases stepped taken with
  | runFunctor attempt batch running =>
    obtain ⟨_, notConnecting, noMore⟩ := running_own orderly running
    obtain ⟨channelled, timed, inTurn⟩ := orderly
    have due : s.due = s.timers := by simp [State.due, running, Phase.expired]
    have unregistered := channelled.registered
    have idle := timed.idle
    have single := timed.single
    have queueing := inTurn.queueing
    rw [running] at queueing
    rw [due] at idle single
    refine ⟨⟨?_, ?_, ?_, ?_, unregistered⟩, ⟨?_, ?_, timed.cancellable, timed.stopped⟩,
      ⟨queueing, ?_, List.nodup_nil, ?_, fun left => absurd rfl left⟩⟩
    · simp [State.resets, Phase.batch, Connector.resetChannel, noMore, notConnecting]
    · exact fun connecting => absurd connecting notConnecting
    · simp [State.resets, Phase.batch, noMore]
    · simp [State.resets, Phase.batch, noMore]
    · simpa [State.due, Phase.expired] using single
    · simpa [State.due, Phase.expired, Connector.resetChannel] using idle
    · intro member
      cases member
    · intro callbacks actives same
      cases same

/-- After the batch the loop polls again. -/
theorem finishFunctors_orderly (orderly : Orderly s) (t : State)
    (taken : step s .finishFunctors = .ok t) : Orderly t := by
  cases stepped taken with
  | finishFunctors running =>
    have queueing := orderly.inTurn.queueing
    rw [running] at queueing
    refine moved_orderly orderly rfl rfl rfl rfl rfl ?_ ?_ ?_
    · simp [State.resets, running, Phase.batch]
    · simp [State.due, running, Phase.expired]
    · refine ⟨queueing, ?_, List.nodup_nil, ?_, fun left => absurd rfl left⟩
      · intro member
        cases member
      · intro callbacks actives same
        cases same

/-- Timers may vanish from the queue, or move from there to the expired ones. -/
theorem timers_orderly (orderly : Orderly s) (timers : List Nat) (phase : Phase)
    (batch : phase.batch = s.phase.batch) (subset : ∀ timer ∈ timers, timer ∈ s.timers)
    (fewer : (timers ++ phase.expired).length ≤ s.due.length)
    (inTurn : InTurn { s with timers := timers, phase := phase }) :
    Orderly { s with timers := timers, phase := phase } := by
  obtain ⟨channelled, timed, _⟩ := orderly
  have resets : State.resets { s with timers := timers, phase := phase } = s.resets := by
    simp only [State.resets, batch]
  refine ⟨⟨?_, ?_, ?_, ?_, channelled.registered⟩, ⟨?_, ?_, ?_, ?_⟩, inTurn⟩
  · rw [resets]
    exact channelled.exists_iff
  · rw [resets]
    exact channelled.alone
  · rw [resets]
    exact channelled.single
  · rw [resets]
    exact channelled.own
  · exact Nat.le_trans fewer timed.single
  · intro left
    apply timed.idle
    intro none
    rw [none, List.length_nil] at fewer
    exact left (List.eq_nil_of_length_eq_zero (Nat.le_zero.mp fewer))
  · exact fun timer member => timed.cancellable timer (subset timer member)
  · intro stopped
    have none := timed.stopped stopped
    apply List.eq_nil_iff_forall_not_mem.mpr
    intro timer member
    have there := subset timer member
    simp [none] at there

/-- A timer may leave the queue unrun. -/
theorem forget_orderly (orderly : Orderly s) (timer : Nat) (t : State)
    (taken : step s (.forget timer) = .ok t) : Orderly t := by
  obtain rfl := (pure_ok _ _).mp taken
  have inTurn := orderly.inTurn
  refine timers_orderly orderly _ s.phase rfl (fun other member => List.mem_of_mem_erase member) ?_
    ⟨inTurn.queueing, inTurn.active, inTurn.activeOnce, inTurn.handling, inTurn.handled⟩
  have shorter := (List.erase_sublist (a := timer) (l := s.timers)).length_le
  simp only [State.due, List.length_append]
  omega

/-- Expired timers are still due. -/
theorem expire_orderly (orderly : Orderly s) (expired : List Nat) (t : State)
    (taken : step s (.expire expired) = .ok t) : Orderly t := by
  cases stepped taken with
  | expire _ active dispatching distinct queued =>
    have once := orderly.inTurn.activeOnce
    have connecting := orderly.inTurn.active
    rw [dispatching] at once connecting
    refine timers_orderly orderly _ _ (by rw [dispatching]; rfl)
      (fun timer member => (List.mem_filter.mp member).1) ?_ ?_
    · have drawn : expired.length ≤ (s.timers.filter fun timer => timer ∈ expired).length := by
        refine (List.Nodup.subperm distinct ?_).length_le
        intro timer member
        exact List.mem_filter.mpr ⟨queued timer member, by simpa using member⟩
      have parts := s.timers.length_eq_length_filter_add fun timer => timer ∈ expired
      simp only [State.due, Phase.expired, dispatching, List.length_append, List.length_nil]
      simp only [decide_not] at *
      omega
    · refine ⟨fun _ => rfl, ?_, (List.nodup_cons.mp once).2, ?_, fun left => absurd rfl left⟩
      · exact fun member => connecting (List.mem_cons_of_mem _ member)
      · intro callbacks actives same
        cases same

/-- With no timer in the queue the flag may change. -/
theorem flag_orderly (orderly : Orderly s) (c : Connector) (none : s.timers = [])
    (channel : c.channel = s.connector.channel) (state : c.state = s.connector.state) :
    Orderly { s with connector := c } := by
  obtain ⟨channelled, timed, inTurn⟩ := orderly
  refine ⟨⟨?_, ?_, channelled.single, channelled.own, ?_⟩,
    ⟨timed.single, ?_, timed.cancellable, fun _ => none⟩,
    ⟨inTurn.queueing, ?_, inTurn.activeOnce, inTurn.handling, ?_⟩⟩
  · simp only [channel, state]
    exact channelled.exists_iff
  · simp only [state]
    exact channelled.alone
  · simp only [state]
    exact channelled.registered
  · simp only [state]
    exact timed.idle
  · simp only [state]
    exact inTurn.active
  · simp only [state]
    exact inTurn.handled

/-- `stop` clears the flag and cancels the retry timer that is in the queue. -/
theorem stop_orderly (orderly : Orderly s) (t : State) (taken : step s .stop = .ok t) :
    Orderly t := by
  obtain rfl := (pure_ok _ _).mp taken
  have inTurn := orderly.inTurn
  have cancelled : (s.timers.filter fun timer => some timer ≠ s.timerId) = [] := by
    apply List.filter_eq_nil_iff.mpr
    intro timer member
    simp [orderly.timed.cancellable timer member]
  have emptied : Orderly { s with timers := [], phase := s.phase } := by
    refine timers_orderly orderly [] s.phase rfl (by simp) (by simp [State.due]) ?_
    exact ⟨inTurn.queueing, inTurn.active, inTurn.activeOnce, inTurn.handling, inTurn.handled⟩
  have cleared := flag_orderly emptied s.connector.stop.1 rfl rfl rfl
  refine orderly_same cleared rfl rfl rfl cancelled ?_ rfl rfl
  simp [perform, Connector.stop]

/-- The call finds the connector in the state it needs: a start finds it
`disconnected` with no timer due, a restart `connected`. -/
def fits (s : State) : Label → Prop
  | .start _ => s.connector.state = .disconnected ∧ s.due = []
  | .restart _ => s.connector.state = .connected
  | _ => True

/-- A start finds the connector idle, with no timer due, and begins an attempt. -/
theorem start_orderly (orderly : Orderly s) (result : ConnectResult) (t : State)
    (fitting : fits s (.start result)) (taken : step s (.start result) = .ok t) : Orderly t := by
  obtain ⟨disconnected, none⟩ := fitting
  have noTimers : s.timers = [] := (List.append_eq_nil_iff.mp none).1
  cases stepped taken with
  | start _ after effects attempted =>
    have ready : Orderly { s with started := true, connector := s.connector.start } :=
      orderly_same (flag_orderly orderly s.connector.start noTimers rfl rfl) rfl rfl rfl rfl rfl rfl
        rfl
    have next := attempted_orderly ready disconnected none attempted
    rw [← perform_connector (s := { s with started := true }) s.connector.start after effects
      Iff.rfl]
    exact next

/-- A restart finds it connected, and begins an attempt. -/
theorem restart_orderly (orderly : Orderly s) (result : ConnectResult) (t : State)
    (fitting : fits s (.restart result)) (taken : step s (.restart result) = .ok t) : Orderly t := by
  have connected : s.connector.state = .connected := fitting
  have notConnecting : s.connector.state ≠ .connecting := by simp [connected]
  have none : s.due = [] := by
    by_contra left
    have idle := orderly.timed.idle left
    rw [connected] at idle
    cases idle
  cases stepped taken with
  | restart _ after effects attempted =>
    let reset : Connector := { s.connector with
      state := .disconnected
      retryDelayMs := Connector.kInitRetryDelayMs
      connectFlag := true }
    have ready : Orderly { s with handedOver := false, connector := reset } :=
      orderly_same (reset_orderly orderly reset none rfl notConnecting rfl) rfl rfl rfl rfl rfl rfl
        rfl
    have next := attempted_orderly ready rfl none attempted
    rw [← perform_connector (s := { s with handedOver := false }) reset after effects
      (by simp [reset, connected])]
    exact next

/-- An expired timer runs while no other timer is due and the connector is
`disconnected`. -/
theorem expiring_alone (orderly : Orderly s) {timer : Nat} {expired : List Nat}
    {active : List Source} (expiring : s.phase = .expiring (timer :: expired) active) :
    s.timers = [] ∧ expired = [] ∧ s.connector.state = .disconnected := by
  have due : s.due = s.timers ++ timer :: expired := by simp [State.due, expiring, Phase.expired]
  have single := orderly.timed.single
  simp only [due, List.length_append, List.length_cons] at single
  refine ⟨List.eq_nil_of_length_eq_zero (by omega), List.eq_nil_of_length_eq_zero (by omega),
    orderly.timed.idle ?_⟩
  simp [due]

/-- The retry timer is the one that is due, and begins an attempt. -/
theorem fire_orderly (orderly : Orderly s) (result : ConnectResult) (t : State)
    (taken : step s (.fire result) = .ok t) : Orderly t := by
  cases stepped taken with
  | fire _ timer expired active after effects expiring disconnected attempted =>
    obtain ⟨noTimers, rfl, _⟩ := expiring_alone orderly expiring
    have inTurn := orderly.inTurn
    have once := inTurn.activeOnce
    have connecting := inTurn.active
    rw [expiring] at once connecting
    have popped : Orderly { s with timers := s.timers, phase := .expiring [] active } := by
      refine timers_orderly orderly s.timers _ (by rw [expiring]; rfl) (fun _ member => member) ?_ ?_
      · simp [State.due, expiring, Phase.expired]
      · refine ⟨fun _ => rfl, connecting, once, ?_, fun left => absurd rfl left⟩
        intro callbacks actives same
        cases same
    refine attempted_orderly popped disconnected ?_ attempted
    simp [State.due, noTimers, Phase.expired]

/-- Every step whose call fits keeps the order. -/
theorem step_orderly (s : State) (label : Label) (t : State) (orderly : Orderly s)
    (fitting : fits s label) (taken : step s label = .ok t) : Orderly t := by
  cases label with
  | start result => exact start_orderly orderly result t fitting taken
  | stop => exact stop_orderly orderly t taken
  | restart result => exact restart_orderly orderly result t fitting taken
  | poll active => exact poll_orderly orderly active t taken
  | dispatch revents => exact dispatch_orderly orderly revents t taken
  | callback socketError selfConnect =>
    exact callback_orderly orderly socketError selfConnect t taken
  | expire expired => exact expire_orderly orderly expired t taken
  | fire result => exact fire_orderly orderly result t taken
  | forget timer => exact forget_orderly orderly timer t taken
  | finishEvent => exact finishEvent_orderly orderly t taken
  | swap => exact swap_orderly orderly t taken
  | runFunctor => exact runFunctor_orderly orderly t taken
  | finishFunctors => exact finishFunctors_orderly orderly t taken

/-- Without an attempt in progress and a queued reset there is no channel. -/
theorem channel_none (orderly : Orderly s) (idle : s.connector.state ≠ .connecting)
    (noResets : s.resets = []) : s.connector.channel = none := by
  by_contra some
  rcases orderly.channelled.exists_iff.mp some with connecting | queued
  · exact idle connecting
  · exact queued noResets

/-- Before the start no attempt was made, and nothing is queued or due. -/
def Fresh (s : State) : Prop :=
  s.started = false → s.connector.state = .disconnected ∧ s.resets = [] ∧ s.due = []

/-- Before the start the connector is as it was constructed. -/
theorem initial_fresh : Fresh initial := fun _ => ⟨rfl, rfl, rfl⟩

/-- An attempt comes behind a start, and takes back none. -/
theorem attempted_started {c after : Connector} {sockFd : Int} {effects : List ConnectorEffect}
    (attempted : c.Attempted sockFd after effects) :
    (perform s after effects).started = s.started := by
  cases attempted <;> rfl

/-- Nor does the end of an attempt take back a start. -/
theorem ended_started {c after : Connector} {channel : Channel} {effects : List ConnectorEffect}
    (ended : c.Ended channel after effects) :
    (perform s after effects).started = s.started := by
  cases ended <;> rfl

/-- A callback that is left finds an attempt in progress, or the reset of the attempt
that just failed queued; so it comes after the start. -/
theorem handling_started (orderly : Orderly s) (fresh : Fresh s)
    (left : s.phase.callbacks ≠ []) : s.started = true := by
  by_contra unstarted
  obtain ⟨disconnected, noResets, _⟩ := fresh (by simpa using unstarted)
  rcases orderly.inTurn.handled left with connecting | ⟨_, _, queued⟩
  · rw [disconnected] at connecting
    cases connecting
  · exact queued noResets

/-- Every step whose call fits leaves a connector that is not started alone. -/
theorem step_fresh (s : State) (label : Label) (t : State) (orderly : Orderly s)
    (fresh : Fresh s) (fitting : fits s label) (taken : step s label = .ok t) : Fresh t := by
  have kept : t.started = s.started → (s.started = false →
      t.connector.state = s.connector.state ∧ (s.resets = [] → t.resets = []) ∧
        (s.due = [] → t.due = [])) → Fresh t := by
    intro same moved unstarted
    have unstarted := same.symm.trans unstarted
    obtain ⟨disconnected, noResets, noDue⟩ := fresh unstarted
    obtain ⟨state, resets, due⟩ := moved unstarted
    exact ⟨state.trans disconnected, resets noResets, due noDue⟩
  cases stepped taken with
  | start result after effects attempted =>
    intro unstarted
    rw [attempted_started attempted] at unstarted
    cases unstarted
  | restart result after effects attempted =>
    intro unstarted
    rw [attempted_started attempted] at unstarted
    have connected : s.connector.state = .connected := fitting
    rw [(fresh unstarted).1] at connected
    cases connected
  | fire result timer expired active after effects expiring disconnected attempted =>
    intro unstarted
    rw [attempted_started attempted] at unstarted
    have noDue := (fresh unstarted).2.2
    simp [State.due, expiring, Phase.expired] at noDue
  | ended _ _ callback callbacks active channel after effects handling connecting present ended =>
    intro unstarted
    rw [ended_started ended] at unstarted
    have started := handling_started orderly fresh (by simp [handling, Phase.callbacks])
    exact absurd (started.symm.trans unstarted) (by simp)
  | ignored _ _ callbacks active handling =>
    intro unstarted
    have started := handling_started orderly fresh (by simp [handling, Phase.callbacks])
    exact absurd (started.symm.trans unstarted) (by simp)
  | stop =>
    refine kept rfl fun _ => ⟨rfl, id, ?_⟩
    intro none
    obtain ⟨noTimers, noExpired⟩ := List.append_eq_nil_iff.mp none
    simp [State.due, perform, affect, Connector.stop, noTimers, noExpired]
  | forget timer =>
    refine kept rfl fun _ => ⟨rfl, id, ?_⟩
    intro none
    obtain ⟨noTimers, noExpired⟩ := List.append_eq_nil_iff.mp none
    simp [State.due, noTimers, noExpired]
  | expire expired active dispatching distinct queued =>
    refine kept rfl fun _ => ⟨rfl, ?_, ?_⟩
    · simp [State.resets, dispatching, Phase.batch]
    · intro none
      have noTimers := (List.append_eq_nil_iff.mp none).1
      have noExpired : expired = [] := List.eq_nil_iff_forall_not_mem.mpr fun timer member => by
        have there := queued timer member
        simp [noTimers] at there
      simp [State.due, noTimers, noExpired, Phase.expired]
  | poll _ here | dispatch _ _ here | finishHandling _ here | finishExpiring _ here | swap here
    | finishFunctors here =>
    refine kept rfl fun _ => ⟨rfl, ?_, ?_⟩
    · simp [State.resets, here, Phase.batch]
    · simp [State.due, here, Phase.expired]
  | runFunctor attempt batch running =>
    refine kept rfl fun _ => ⟨rfl, ?_, ?_⟩
    · simp [State.resets, running, Phase.batch]
    · simp [State.due, running, Phase.expired]

end ReactorNetwork.ConnectorLoop
