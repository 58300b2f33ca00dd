import ReactorNetwork.Connector

/-!
# A connector on its loop

A connector together with the parts of its loop that carry its work from one
step to the next: the retry timers in the timer queue and in the vector of
expired timers, the queued calls of `reset_channel`, and the turn of the loop.
An iteration polls, dispatches the active channels in order and runs the queued
functors. A dispatch of the connector's channel invokes its two callbacks by the
reported mask; a dispatch of the timer descriptor takes expired timers out of the
queue and runs them one by one. On the loop thread `start`, `stop` and `restart`
run at once, and they may be called between any two steps, from other timers,
functors or channels of the loop.

The timer descriptor serves other timers too, so it may be active at any time,
and a timer may expire at any time after it was scheduled. Cancelling another
timer erases every timer of the same expiration, which may be a retry timer.
Other channels and functors change nothing here. The effects are recorded in
order.
-/

namespace ReactorNetwork.ConnectorLoop

/-- The two active channels that concern a connector. -/
inductive Source where
  | connector
  | timers
deriving DecidableEq, Repr

/-- Where the loop is. A timer is given by its number, a queued `reset_channel` by
the attempt whose channel it was queued for. -/
inductive Phase where
  | polling
  | dispatching (active : List Source)
  | handling (callbacks : List Callback) (active : List Source)
  | expiring (expired : List Nat) (active : List Source)
  | running (batch : List Nat)
deriving DecidableEq, Repr

/-- `timerId` is the member `timer_id_` and `timers` are the retry timers in the
queue. `attempts` counts the sockets created, `channelAttempt` is the attempt that
made the last channel, and `handedOver` says that a socket was handed over and no
restart has come since. -/
structure State where
  connector : Connector
  registered : Bool
  timerId : Option Nat
  timers : List Nat
  scheduled : Nat
  attempts : Nat
  channelAttempt : Nat
  pending : List Nat
  phase : Phase
  started : Bool
  handedOver : Bool
  effects : List ConnectorEffect

/-- A call of the user, or a step of the loop. -/
inductive Label where
  | start (result : ConnectResult)
  | stop
  | restart (result : ConnectResult)
  | poll (active : List Source)
  | dispatch (revents : EventMask)
  | callback (socketError : Nat) (selfConnect : Bool)
  | expire (expired : List Nat)
  | fire (result : ConnectResult)
  | forget (timer : Nat)
  | finishEvent
  | swap
  | runFunctor
  | finishFunctors

/-- The connector before its first call. -/
def initial : State where
  connector := Connector.create
  registered := false
  timerId := none
  timers := []
  scheduled := 0
  attempts := 0
  channelAttempt := 0
  pending := []
  phase := .polling
  started := false
  handedOver := false
  effects := []

/-- What one effect does to the loop. `cancel` looks for the timer in the queue
only. -/
def affect (s : State) : ConnectorEffect → State
  | .opened _ => { s with attempts := s.attempts + 1 }
  | .closed _ => s
  | .updateChannel => { s with registered := true }
  | .removeChannel => { s with registered := false }
  | .queueResetChannel => { s with pending := s.pending ++ [s.channelAttempt] }
  | .runAfter _ => { s with
      timerId := some s.scheduled
      timers := s.timers ++ [s.scheduled]
      scheduled := s.scheduled + 1 }
  | .cancelTimer => { s with timers := s.timers.filter fun timer => some timer ≠ s.timerId }
  | .newConnection _ => { s with handedOver := true }

/-- A call of the connector returned. A channel is made exactly where the state
becomes `connecting`. -/
def perform (s : State) (connector : Connector) (effects : List ConnectorEffect) : State :=
  let affected := effects.foldl affect s
  { affected with
    connector := connector
    channelAttempt :=
      if connector.state = .connecting ∧ s.connector.state ≠ .connecting then affected.attempts
      else s.channelAttempt
    effects := s.effects ++ effects }

/-- A function of the connector, with its effects on the loop. -/
def call (s : State) (outcome : Outcome (Connector × List ConnectorEffect)) : Outcome State := do
  let (connector, effects) ← outcome
  pure (perform s connector effects)

/-- `connecting` sets the write and the error callback of the channel. -/
def connectorCallbacks : Callback → Bool
  | .error | .write => true
  | .close | .read => false

/-- One step of the loop or call of the connector. -/
def step (s : State) : Label → Outcome State
  | .start result =>
      call { s with started := true } (s.connector.start.startInLoop result)
  | .stop => pure (perform s s.connector.stop.1 s.connector.stop.2)
  | .restart result => call { s with handedOver := false } (s.connector.restart result)
  | .poll active =>
      match s.phase with
      | .polling =>
          if active.Nodup ∧ (.connector ∈ active → s.registered = true) then
            pure { s with phase := .dispatching active }
          else .error .notEnabled
      | _ => .error .notEnabled
  | .dispatch revents =>
      match s.phase with
      | .dispatching (.connector :: active) =>
          pure { s with
            phase := .handling (Channel.handleEvent connectorCallbacks revents) active }
      | _ => .error .notEnabled
  | .callback socketError selfConnect =>
      match s.phase with
      | .handling (.error :: callbacks) active =>
          call { s with phase := .handling callbacks active } s.connector.handleError
      | .handling (.write :: callbacks) active =>
          call { s with phase := .handling callbacks active }
            (s.connector.handleWrite socketError selfConnect)
      | _ => .error .notEnabled
  | .expire expired =>
      match s.phase with
      | .dispatching (.timers :: active) =>
          if expired.Nodup ∧ ∀ timer ∈ expired, timer ∈ s.timers then
            pure { s with
              timers := s.timers.filter fun timer => timer ∉ expired
              phase := .expiring expired active }
          else .error .notEnabled
      | _ => .error .notEnabled
  | .fire result =>
      match s.phase with
      | .expiring (_ :: expired) active =>
          call { s with phase := .expiring expired active } (s.connector.startInLoop result)
      | _ => .error .notEnabled
  | .forget timer => pure { s with timers := s.timers.erase timer }
  | .finishEvent =>
      match s.phase with
      | .handling [] active => pure { s with phase := .dispatching active }
      | .expiring [] active => pure { s with phase := .dispatching active }
      | _ => .error .notEnabled
  | .swap =>
      match s.phase with
      | .dispatching [] => pure { s with phase := .running s.pending, pending := [] }
      | _ => .error .notEnabled
  | .runFunctor =>
      match s.phase with
      | .running (_ :: batch) =>
          pure { s with connector := s.connector.resetChannel, phase := .running batch }
      | _ => .error .notEnabled
  | .finishFunctors =>
      match s.phase with
      | .running [] => pure { s with phase := .polling }
      | _ => .error .notEnabled

/-- The expired timers that are still to run. -/
def Phase.expired : Phase → List Nat
  | .expiring expired _ => expired
  | _ => []

/-- The functors of the batch that are still to run. -/
def Phase.batch : Phase → List Nat
  | .running batch => batch
  | _ => []

/-- The active channels that are still to be dispatched. -/
def Phase.active : Phase → List Source
  | .dispatching active | .handling _ active | .expiring _ active => active
  | _ => []

/-- The callbacks of the dispatch in progress that are still to run. -/
def Phase.callbacks : Phase → List Callback
  | .handling callbacks _ => callbacks
  | _ => []

/-- Only a dispatch queues functors, and the batch of the iteration runs them. -/
def Phase.dispatches : Phase → Bool
  | .dispatching _ | .handling _ _ | .expiring _ _ => true
  | _ => false

/-- The queued calls of `reset_channel`. -/
def State.resets (s : State) : List Nat := s.phase.batch ++ s.pending

/-- The retry timers that will still run. -/
def State.due (s : State) : List Nat := s.timers ++ s.phase.expired

/-- What each step finds and leaves. A call of `start_in_loop` leads to an attempt; a
callback ends the attempt in progress, or it is the write callback after an error
and does nothing. -/
inductive Stepped (s : State) : Label → State → Prop where
  | start (result : ConnectResult) (after : Connector) (effects : List ConnectorEffect)
      (attempted : s.connector.start.Attempted result.sockFd after effects) :
      Stepped s (.start result) (perform { s with started := true } after effects)
  | stop : Stepped s .stop (perform s s.connector.stop.1 s.connector.stop.2)
  | restart (result : ConnectResult) (after : Connector) (effects : List ConnectorEffect)
      (attempted : Connector.Attempted { s.connector with
        state := .disconnected
        retryDelayMs := Connector.kInitRetryDelayMs
        connectFlag := true } result.sockFd after effects) :
      Stepped s (.restart result) (perform { s with handedOver := false } after effects)
  | poll (active : List Source) (polling : s.phase = .polling) (distinct : active.Nodup)
      (registered : .connector ∈ active → s.registered = true) :
      Stepped s (.poll active) { s with phase := .dispatching active }
  | dispatch (revents : EventMask) (active : List Source)
      (dispatching : s.phase = .dispatching (.connector :: active)) :
      Stepped s (.dispatch revents) { s with
        phase := .handling (Channel.handleEvent connectorCallbacks revents) active }
  | ended (socketError : Nat) (selfConnect : Bool) (callback : Callback)
      (callbacks : List Callback) (active : List Source) (channel : Channel) (after : Connector)
      (effects : List ConnectorEffect) (handling : s.phase = .handling (callback :: callbacks) active)
      (connecting : s.connector.state = .connecting) (present : s.connector.channel = some channel)
      (ended : s.connector.Ended channel after effects)
      (last : callback = .write ∨ after.state = .disconnected) :
      Stepped s (.callback socketError selfConnect)
        (perform { s with phase := .handling callbacks active } after effects)
  | ignored (socketError : Nat) (selfConnect : Bool) (callbacks : List Callback)
      (active : List Source) (handling : s.phase = .handling (.write :: callbacks) active)
      (disconnected : s.connector.state = .disconnected) :
      Stepped s (.callback socketError selfConnect)
        (perform { s with phase := .handling callbacks active } s.connector [])
  | expire (expired : List Nat) (active : List Source)
      (dispatching : s.phase = .dispatching (.timers :: active)) (distinct : expired.Nodup)
      (queued : ∀ timer ∈ expired, timer ∈ s.timers) :
      Stepped s (.expire expired) { s with
        timers := s.timers.filter fun timer => timer ∉ expired
        phase := .expiring expired active }
  | fire (result : ConnectResult) (timer : Nat) (expired : List Nat) (active : List Source)
      (after : Connector) (effects : List ConnectorEffect)
      (expiring : s.phase = .expiring (timer :: expired) active)
      (disconnected : s.connector.state = .disconnected)
      (attempted : s.connector.Attempted result.sockFd after effects) :
      Stepped s (.fire result) (perform { s with phase := .expiring expired active } after effects)
  | forget (timer : Nat) : Stepped s (.forget timer) { s with timers := s.timers.erase timer }
  | finishHandling (active : List Source) (handling : s.phase = .handling [] active) :
      Stepped s .finishEvent { s with phase := .dispatching active }
  | finishExpiring (active : List Source) (expiring : s.phase = .expiring [] active) :
      Stepped s .finishEvent { s with phase := .dispatching active }
  | swap (dispatching : s.phase = .dispatching []) :
      Stepped s .swap { s with phase := .running s.pending, pending := [] }
  | runFunctor (attempt : Nat) (batch : List Nat) (running : s.phase = .running (attempt :: batch)) :
      Stepped s .runFunctor
        { s with connector := s.connector.resetChannel, phase := .running batch }
  | finishFunctors (running : s.phase = .running []) :
      Stepped s .finishFunctors { s with phase := .polling }

/-- A step that returns is one of the cases above. -/
theorem stepped {s t : State} {label : Label} (taken : step s label = .ok t) :
    Stepped s label t := by
  cases label
  case start result | restart result =>
    obtain ⟨⟨after, effects⟩, returned, same⟩ := (bind_ok _ _ _).mp taken
    obtain rfl := (pure_ok _ _).mp same
    constructor
    exact (Connector.startInLoop_attempted returned).2
  case stop =>
    obtain rfl := (pure_ok _ _).mp taken
    exact .stop
  case forget timer =>
    obtain rfl := (pure_ok _ _).mp taken
    exact .forget timer
  case callback socketError selfConnect =>
    simp only [step] at taken
    split at taken
    case h_3 => cases taken
    case h_1 callbacks active handling =>
      obtain ⟨⟨after, effects⟩, handled, same⟩ := (bind_ok _ _ _).mp taken
      obtain rfl := (pure_ok _ _).mp same
      obtain ⟨connecting, disconnected, channel, present, ended⟩ :=
        Connector.handleError_ended handled
      exact .ended _ _ .error callbacks active channel after effects handling connecting present ended
        (Or.inr disconnected)
    case h_2 callbacks active handling =>
      obtain ⟨⟨after, effects⟩, handled, same⟩ := (bind_ok _ _ _).mp taken
      obtain rfl := (pure_ok _ _).mp same
      rcases Connector.handleWrite_ended handled with
        ⟨connecting, channel, present, ended⟩ | ⟨disconnected, rfl, rfl⟩
      · exact .ended _ _ .write callbacks active channel after effects handling connecting present
          ended (Or.inl rfl)
      · exact .ignored _ _ callbacks active handling disconnected
  case poll active =>
    simp only [step] at taken
    split at taken
    case h_2 => cases taken
    case h_1 polling =>
      split at taken
      case isFalse => cases taken
      case isTrue possible =>
        obtain rfl := (pure_ok _ _).mp taken
        exact .poll active polling possible.1 possible.2
  case expire expired =>
    simp only [step] at taken
    split at taken
    case h_2 => cases taken
    case h_1 active dispatching =>
      split at taken
      case isFalse => cases taken
      case isTrue possible =>
        obtain rfl := (pure_ok _ _).mp taken
        exact .expire expired active dispatching possible.1 possible.2
  case fire result =>
    simp only [step] at taken
    split at taken
    case h_2 => cases taken
    case h_1 timer expired active expiring =>
      obtain ⟨⟨after, effects⟩, returned, same⟩ := (bind_ok _ _ _).mp taken
      obtain rfl := (pure_ok _ _).mp same
      obtain ⟨disconnected, attempted⟩ := Connector.startInLoop_attempted returned
      exact .fire result timer expired active after effects expiring disconnected attempted
  case dispatch revents =>
    simp only [step] at taken
    split at taken
    case h_2 => cases taken
    case h_1 active dispatching =>
      obtain rfl := (pure_ok _ _).mp taken
      exact .dispatch revents active dispatching
  case finishEvent =>
    simp only [step] at taken
    split at taken
    case h_3 => cases taken
    case h_1 active handling =>
      obtain rfl := (pure_ok _ _).mp taken
      exact .finishHandling active handling
    case h_2 active expiring =>
      obtain rfl := (pure_ok _ _).mp taken
      exact .finishExpiring active expiring
  case swap =>
    simp only [step] at taken
    split at taken
    case h_2 => cases taken
    case h_1 dispatching =>
      obtain rfl := (pure_ok _ _).mp taken
      exact .swap dispatching
  case runFunctor =>
    simp only [step] at taken
    split at taken
    case h_2 => cases taken
    case h_1 attempt batch running =>
      obtain rfl := (pure_ok _ _).mp taken
      exact .runFunctor attempt batch running
  case finishFunctors =>
    simp only [step] at taken
    split at taken
    case h_2 => cases taken
    case h_1 running =>
      obtain rfl := (pure_ok _ _).mp taken
      exact .finishFunctors running

end ReactorNetwork.ConnectorLoop
