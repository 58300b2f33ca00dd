import ReactorNetwork.ConnectorLoop

/-!
# Destroying a client

A client and its connector on their loop, from construction to destruction on the
loop thread between any two steps, and what the loop runs afterwards. The
connector with its channel, its retry timers and its queued resets is the machine
of its own module; the client adds `connection_`, whether anybody else owns that
connection, and the calls of `start_in_loop` that `connect` has queued from other
threads. The loop thread may call `connect` and `stop` at any time, and so may other
threads; a `cancel` that `stop` has queued there is a cancellation of its own.

The client and the connector are alive or destroyed. Retry timers, queued
functors, the connector's channel and the close callback of a connection refer to
them by `this`. A callback that names a member through the `this` of a destroyed
object is a refused access, also where the member is only bound to a reference.
A connection lives on after the destruction of its client if somebody else owns
it; otherwise it is destroyed with the client. An event that still reaches the
channel of a destroyed connection is an access to that channel first, which never
gets as far as the client and is not followed here.

`cancel` erases every timer that has the expiration of the one it looks for. The
expirations of the retry timers are a parameter.
-/

namespace ReactorNetwork.ClientDestruction

open Runs
open ConnectorLoop (Phase Source)

/-- A client on its loop, until its destruction and after it. -/
structure State where
  loop : ConnectorLoop.State
  alive : Bool
  retry : Bool
  connectFlag : Bool
  connection : Option Nat
  /-- Somebody else owns the connection. -/
  shared : Bool
  nextConnId : Nat
  /-- The queued calls of `start_in_loop`. -/
  starts : Nat
  /-- The timer of the destructor is in the queue. -/
  removal : Bool

/-- `hold` and `drop` are what other owners of the connection do, `loop` is a turn of
the loop, `closeConnection` an event that closes the connection, and
`removeConnector` the timer the destructor leaves. -/
inductive Label where
  | connect (result : ConnectResult)
  | connectElsewhere
  | runStart (result : ConnectResult)
  | stop
  | stopElsewhere
  | disconnect
  | enableRetry
  | hold
  | drop
  | loop (label : ConnectorLoop.Label)
  | connectorCallback (socketError : Nat) (selfConnect pollFailed : Bool)
  | closeConnection (result : ConnectResult)
  | removeConnector
  | destroy

/-- A client before its first call. -/
def initial : State where
  loop := ConnectorLoop.initial
  alive := true
  retry := false
  connectFlag := true
  connection := none
  shared := false
  nextConnId := 1
  starts := 0
  removal := false

/-- A callback uses the `this` it captured. -/
def touched (s : State) : Outcome Unit := accessed (if s.alive then some () else none)

/-- The labels of the connector's loop that are turns of the loop. -/
def turns : ConnectorLoop.Label → Bool
  | .start _ | .stop | .restart _ | .callback _ _ => false
  | _ => true

/-- The step calls a function of the connector. -/
def calls : ConnectorLoop.Label → Phase → Bool
  | .callback _ _, .handling (_ :: _) _ => true
  | .fire _, .expiring (_ :: _) _ => true
  | .runFunctor, .running (_ :: _) => true
  | _, _ => false

/-- A step of the connector's loop, with the access to the connector it makes. -/
def loopStep (s : State) (label : ConnectorLoop.Label) : Outcome ConnectorLoop.State := do
  if calls label s.loop.phase then touched s
  ConnectorLoop.step s.loop label

/-- A socket was handed over between two states of the loop. -/
def handedOver (before after : ConnectorLoop.State) : Bool :=
  (after.effects.drop before.effects.length).any fun
    | .newConnection _ => true
    | _ => false

/-- `TimerQueue::cancel` on the loop thread. -/
def cancelled (expiration : Nat → Int) (timerId : Option Nat) (timers : List Nat) : List Nat :=
  match timerId with
  | none => timers
  | some id =>
      if id ∈ timers then timers.filter fun timer => decide (expiration timer ≠ expiration id)
      else timers

/-- `Connector::stop` on the loop thread. -/
def stopConnector (expiration : Nat → Int) (s : ConnectorLoop.State) : ConnectorLoop.State :=
  { s with
    connector := s.connector.stop.1
    timers := cancelled expiration s.timerId s.timers
    effects := s.effects ++ s.connector.stop.2 }

/-- The destructor of the client, without those of its members. A connection gets a
close callback that captures `this`; without one the connector is stopped and a
timer left behind. -/
def destroyClient (expiration : Nat → Int) (s : State) : State :=
  if s.connection.isSome then s
  else { s with loop := stopConnector expiration s.loop, removal := true }

/-- The destructor of the connector, which the client alone owns. -/
def destroyConnector (expiration : Nat → Int) (s : State) : Outcome State := do
  let timers := cancelled expiration s.loop.timerId s.loop.timers
  require (s.loop.connector.channel = none)
  pure { s with loop := { s.loop with timers := timers } }

/-- `remove_connection`, the close callback of a connection of a living client. -/
def removeConnection (s : State) (result : ConnectResult) : Outcome State := do
  let reset := { s with connection := none, shared := false }
  if s.retry && s.connectFlag then do
    let loop ← ConnectorLoop.step s.loop (.restart result)
    pure { reset with loop := loop }
  else pure reset

/-- One step of the loop or call of the client. The destructors run in one step. -/
def step (expiration : Nat → Int) (s : State) : Label → Outcome State
  | .connect result => do
      enabled (s.alive = true)
      let loop ← ConnectorLoop.step s.loop (.start result)
      pure { s with loop := loop, connectFlag := true }
  | .connectElsewhere => do
      enabled (s.alive = true)
      pure { s with
        loop := { s.loop with connector := s.loop.connector.start }
        connectFlag := true
        starts := s.starts + 1 }
  | .runStart result =>
      match s.loop.phase, s.starts with
      | .running _, starts + 1 => do
          touched s
          let loop ← ConnectorLoop.call s.loop (s.loop.connector.startInLoop result)
          pure { s with loop := loop, starts := starts }
      | _, _ => .error .notEnabled
  | .stop => do
      enabled (s.alive = true)
      pure { s with loop := stopConnector expiration s.loop, connectFlag := false }
  | .stopElsewhere => do
      enabled (s.alive = true)
      pure { s with
        loop := { s.loop with connector := s.loop.connector.stop.1 }
        connectFlag := false }
  | .disconnect => do
      enabled (s.alive = true)
      pure { s with connectFlag := false }
  | .enableRetry => do
      enabled (s.alive = true)
      pure { s with retry := true }
  | .hold => do
      enabled (s.alive = true ∧ s.connection ≠ none)
      pure { s with shared := true }
  | .drop => pure { s with shared := false }
  | .loop label => do
      enabled (turns label = true)
      let loop ← loopStep s label
      pure { s with loop := loop }
  | .connectorCallback socketError selfConnect pollFailed => do
      let loop ← loopStep s (.callback socketError selfConnect)
      if handedOver s.loop loop && !pollFailed then
        pure { s with
          loop := loop
          connection := some s.nextConnId
          shared := false
          nextConnId := s.nextConnId + 1 }
      else pure { s with loop := loop }
  | .closeConnection result =>
      match s.loop.phase with
      | .dispatching _ => do
          enabled (s.connection ≠ none ∨ s.shared = true)
          touched s
          removeConnection s result
      | _ => .error .notEnabled
  | .removeConnector =>
      match s.loop.phase with
      | .expiring _ _ => do
          enabled (s.removal = true)
          touched s
          pure { s with removal := false }
      | _ => .error .notEnabled
  | .destroy => do
      enabled (s.alive = true)
      let gone ← destroyConnector expiration (destroyClient expiration s)
      pure { gone with alive := false, connection := none }

section Connecting

variable {s t : ConnectorLoop.State}

/-- What keeps `channel_` in place. The registration of the channel in the poller, a
queued `reset_channel` and an event of the channel each need it. -/
structure Anchored (s : ConnectorLoop.State) : Prop where
  connecting : s.connector.state = .connecting → s.registered = true
  registered : s.registered = true → s.connector.channel ≠ none ∧ s.resets = []
  reset : s.resets ≠ [] → s.connector.channel ≠ none
  once : s.resets.length ≤ 1
  awaited : Source.connector ∈ s.phase.active ∨ s.phase.callbacks ≠ [] →
    s.connector.channel ≠ none

/-- A step that keeps the channel, its registration and its resets. -/
theorem Anchored.moved (anchored : Anchored s) (channel : t.connector.channel = s.connector.channel)
    (registered : t.registered = s.registered) (resets : t.resets = s.resets)
    (state : t.connector.state = .connecting → s.connector.state = .connecting)
    (awaited : Source.connector ∈ t.phase.active ∨ t.phase.callbacks ≠ [] →
      s.connector.channel ≠ none) : Anchored t where
  connecting := fun connecting => registered.trans (anchored.connecting (state connecting))
  registered := by
    rw [registered, channel, resets]
    exact anchored.registered
  reset := by
    rw [resets, channel]
    exact anchored.reset
  once := by
    rw [resets]
    exact anchored.once
  awaited := by
    rw [channel]
    exact awaited

/-- Without a channel nothing of the connector is registered or queued. -/
theorem Anchored.free (anchored : Anchored s) (free : s.connector.channel = none) :
    s.registered = false ∧ s.resets = [] ∧ Source.connector ∉ s.phase.active ∧
      s.phase.callbacks = [] := by
  refine ⟨?_, ?_, ?_, ?_⟩
  · rw [← Bool.not_eq_true]
    exact fun registered => (anchored.registered registered).1 free
  · by_contra queued
    exact anchored.reset queued free
  · exact fun active => anchored.awaited (Or.inl active) free
  · by_contra waiting
    exact anchored.awaited (Or.inr waiting) free

/-- An attempt makes a channel only where there is none. -/
theorem Anchored.attempted {c after : Connector} {sockFd : Int} {effects : List ConnectorEffect}
    (anchored : Anchored s) (attempted : c.Attempted sockFd after effects)
    (channel : c.channel = s.connector.channel)
    (state : c.state = .connecting → s.connector.state = .connecting)
    (phase : Phase) (batch : phase.batch = s.phase.batch)
    (active : phase.active ⊆ s.phase.active) (callbacks : phase.callbacks = s.phase.callbacks)
    (started handedOver : Bool) :
    Anchored (ConnectorLoop.perform
      { s with phase := phase, started := started, handedOver := handedOver } after effects) := by
  have awaited : Source.connector ∈ phase.active ∨ phase.callbacks ≠ [] →
      s.connector.channel ≠ none := by
    rw [callbacks]
    exact fun waiting => anchored.awaited (waiting.imp_left fun member => active member)
  cases attempted with
  | begun _ free =>
    obtain ⟨_, resets, _, _⟩ := anchored.free (channel ▸ free)
    have kept : phase.batch ++ s.pending = [] := by
      rw [batch]
      exact resets
    constructor <;> simp [ConnectorLoop.perform, ConnectorLoop.affect, ConnectorLoop.State.resets, kept]
  | declined | abandoned =>
    refine anchored.moved channel rfl ?_ state awaited
    simp [ConnectorLoop.perform, ConnectorLoop.affect, ConnectorLoop.State.resets, batch]
  | refused =>
    refine anchored.moved channel rfl ?_ (fun same => by cases same) awaited
    simp [ConnectorLoop.perform, ConnectorLoop.affect, ConnectorLoop.State.resets, batch]

/-- The event that ends an attempt takes the channel from the poller and queues the
one reset. -/
theorem Anchored.ended {after : Connector} {channel : Channel} {effects : List ConnectorEffect}
    {callback : Callback} {callbacks : List Callback} {active : List Source} (anchored : Anchored s)
    (ended : s.connector.Ended channel after effects)
    (handling : s.phase = .handling (callback :: callbacks) active)
    (connecting : s.connector.state = .connecting) :
    Anchored (ConnectorLoop.perform { s with phase := .handling callbacks active } after effects) := by
  have resets := (anchored.registered (anchored.connecting connecting)).2
  have pending : s.pending = [] := by
    simpa [ConnectorLoop.State.resets, handling, Phase.batch] using resets
  cases ended <;> constructor <;>
    simp [ConnectorLoop.perform, ConnectorLoop.affect, ConnectorLoop.State.resets, pending,
      Phase.batch]

/-- The one queued reset leaves nothing that needs the channel. -/
theorem Anchored.resetChannel {attempt : Nat} {batch : List Nat} (anchored : Anchored s)
    (running : s.phase = .running (attempt :: batch)) :
    Anchored { s with connector := s.connector.resetChannel, phase := .running batch } := by
  have once := anchored.once
  have queued : s.resets = attempt :: (batch ++ s.pending) := by
    simp [ConnectorLoop.State.resets, running, Phase.batch]
  have unregistered : s.registered = false := by
    rw [← Bool.not_eq_true]
    intro registered
    have empty := (anchored.registered registered).2
    rw [queued] at empty
    cases empty
  have last : batch ++ s.pending = [] := by
    rw [queued, List.length_cons] at once
    exact List.eq_nil_of_length_eq_zero (by omega)
  constructor
  · exact fun connecting => anchored.connecting connecting
  · intro registered
    cases unregistered.symm.trans registered
  · exact fun waiting => absurd last waiting
  · exact Nat.le_of_lt (by simp [ConnectorLoop.State.resets, Phase.batch, last])
  · intro waiting
    simp [Phase.active, Phase.callbacks] at waiting

/-- Every step of the loop keeps the connector's channel anchored. -/
theorem step_anchored {label : ConnectorLoop.Label} (anchored : Anchored s)
    (taken : ConnectorLoop.step s label = .ok t) : Anchored t := by
  have awaited := anchored.awaited
  cases ConnectorLoop.stepped taken with
  | start result after effects attempted =>
    exact anchored.attempted attempted rfl (fun same => same) s.phase rfl (List.Subset.refl _) rfl
      true s.handedOver
  | restart result after effects attempted =>
    exact anchored.attempted attempted rfl (fun same => by cases same) s.phase rfl
      (List.Subset.refl _) rfl s.started false
  | fire result timer expired active after effects expiring disconnected attempted =>
    refine anchored.attempted attempted rfl (fun same => same) (.expiring expired active) ?_ ?_ ?_
      s.started s.handedOver
    all_goals simp [expiring, Phase.batch, Phase.active, Phase.callbacks]
  | ended socketError selfConnect callback callbacks active channel after effects handling
      connecting present ended =>
    exact anchored.ended ended handling connecting
  | stop => exact anchored.moved rfl rfl rfl (fun same => same) awaited
  | forget timer => exact anchored.moved rfl rfl rfl (fun same => same) awaited
  | poll active polling distinct registered =>
    refine anchored.moved rfl rfl ?_ (fun same => same) ?_
    · simp [ConnectorLoop.State.resets, polling, Phase.batch]
    · rintro (member | waiting)
      · exact (anchored.registered (registered member)).1
      · exact absurd rfl waiting
  | dispatch revents active dispatching =>
    refine anchored.moved rfl rfl ?_ (fun same => same) ?_
    · simp [ConnectorLoop.State.resets, dispatching, Phase.batch]
    · intro _
      exact awaited (by simp [dispatching, Phase.active])
  | ignored socketError selfConnect callbacks active handling disconnected =>
    refine anchored.moved rfl rfl ?_ (fun same => same) ?_
    · simp [ConnectorLoop.perform, ConnectorLoop.State.resets, handling, Phase.batch]
    · intro _
      exact awaited (by simp [handling, Phase.callbacks])
  | expire expired active here | finishHandling active here | finishExpiring active here =>
    refine anchored.moved rfl rfl ?_ (fun same => same) ?_
    · simp [ConnectorLoop.State.resets, here, Phase.batch]
    · intro waiting
      exact awaited (by simpa [here, Phase.active, Phase.callbacks] using waiting)
  | swap here | finishFunctors here =>
    refine anchored.moved rfl rfl ?_ (fun same => same) ?_
    · simp [ConnectorLoop.State.resets, here, Phase.batch]
    · intro waiting
      simp [Phase.active, Phase.callbacks] at waiting
  | runFunctor attempt batch running => exact anchored.resetChannel running

end Connecting

section Living

variable {s t : State} {expiration : Nat → Int}

/-- What a living client keeps. -/
def Sound (s : State) : Prop := s.alive = true → Anchored s.loop ∧ s.removal = false

/-- What leaves life and removal alone and keeps the anchoring keeps a living client
sound. -/
theorem Sound.moved (sound : Sound s) (alive : t.alive = s.alive) (removal : t.removal = s.removal)
    (anchored : Anchored s.loop → Anchored t.loop) : Sound t := by
  intro living
  obtain ⟨before, without⟩ := sound (alive ▸ living)
  exact ⟨anchored before, removal.trans without⟩

/-- A step of the loop that had access to the connector is the loop's own step. -/
theorem loopStep_ok {label : ConnectorLoop.Label} {loop : ConnectorLoop.State}
    (taken : loopStep s label = .ok loop) : ConnectorLoop.step s.loop label = .ok loop := by
  unfold loopStep at taken
  split at taken
  · obtain ⟨_, _, stepped⟩ := (bind_ok _ _ _).mp taken
    exact stepped
  · exact taken

/-- A removal restarts the connector or leaves it alone. -/
theorem removeConnection_sound {result : ConnectResult} (sound : Sound s)
    (removed : removeConnection s result = .ok t) : Sound t := by
  unfold removeConnection at removed
  simp only at removed
  split at removed
  · obtain ⟨loop, restarted, same⟩ := (bind_ok _ _ _).mp removed
    obtain rfl := (pure_ok _ _).mp same
    exact sound.moved rfl rfl fun anchored => step_anchored anchored restarted
  · obtain rfl := (pure_ok _ _).mp removed
    exact sound.moved rfl rfl fun anchored => anchored

/-- Every step keeps a living client sound. -/
theorem step_sound {label : Label} (sound : Sound s) (taken : step expiration s label = .ok t) :
    Sound t := by
  cases label with
  | connect result =>
    obtain ⟨_, _, called⟩ := (bind_ok _ _ _).mp taken
    obtain ⟨loop, started, same⟩ := (bind_ok _ _ _).mp called
    obtain rfl := (pure_ok _ _).mp same
    exact sound.moved rfl rfl fun anchored => step_anchored anchored started
  | connectElsewhere | stop | stopElsewhere =>
    obtain ⟨_, _, same⟩ := (bind_ok _ _ _).mp taken
    obtain rfl := (pure_ok _ _).mp same
    exact sound.moved rfl rfl fun anchored =>
      anchored.moved rfl rfl rfl (fun same => same) anchored.awaited
  | disconnect | enableRetry | hold =>
    obtain ⟨_, _, same⟩ := (bind_ok _ _ _).mp taken
    obtain rfl := (pure_ok _ _).mp same
    exact sound.moved rfl rfl fun anchored => anchored
  | drop =>
    obtain rfl := (pure_ok _ _).mp taken
    exact sound.moved rfl rfl fun anchored => anchored
  | runStart result =>
    simp only [step] at taken
    split at taken
    case h_2 => cases taken
    case h_1 =>
      obtain ⟨_, _, continued⟩ := (bind_ok _ _ _).mp taken
      obtain ⟨loop, called, same⟩ := (bind_ok _ _ _).mp continued
      obtain rfl := (pure_ok _ _).mp same
      obtain ⟨⟨after, effects⟩, returned, performed⟩ := (bind_ok _ _ _).mp called
      obtain rfl := (pure_ok _ _).mp performed
      have attempted := (Connector.startInLoop_attempted returned).2
      exact sound.moved rfl rfl fun anchored =>
        anchored.attempted attempted rfl (fun same => same) s.loop.phase rfl (List.Subset.refl _) rfl
          s.loop.started s.loop.handedOver
  | loop label =>
    obtain ⟨_, _, continued⟩ := (bind_ok _ _ _).mp taken
    obtain ⟨loop, stepped, same⟩ := (bind_ok _ _ _).mp continued
    obtain rfl := (pure_ok _ _).mp same
    exact sound.moved rfl rfl fun anchored => step_anchored anchored (loopStep_ok stepped)
  | connectorCallback socketError selfConnect pollFailed =>
    obtain ⟨loop, stepped, continued⟩ := (bind_ok _ _ _).mp taken
    have kept : Anchored s.loop → Anchored loop := fun anchored =>
      step_anchored anchored (loopStep_ok stepped)
    split at continued
    · obtain rfl := (pure_ok _ _).mp continued
      exact sound.moved rfl rfl kept
    · obtain rfl := (pure_ok _ _).mp continued
      exact sound.moved rfl rfl kept
  | closeConnection result =>
    simp only [step] at taken
    split at taken
    case h_2 => cases taken
    case h_1 =>
      obtain ⟨_, _, continued⟩ := (bind_ok _ _ _).mp taken
      obtain ⟨_, _, removed⟩ := (bind_ok _ _ _).mp continued
      exact removeConnection_sound sound removed
  | removeConnector =>
    simp only [step] at taken
    split at taken
    case h_2 => cases taken
    case h_1 =>
      obtain ⟨_, due, continued⟩ := (bind_ok _ _ _).mp taken
      obtain ⟨_, _, same⟩ := (bind_ok _ _ _).mp continued
      obtain rfl := (pure_ok _ _).mp same
      exact fun living => ⟨(sound living).1, rfl⟩
  | destroy =>
    obtain ⟨_, _, continued⟩ := (bind_ok _ _ _).mp taken
    obtain ⟨gone, _, same⟩ := (bind_ok _ _ _).mp continued
    obtain rfl := (pure_ok _ _).mp same
    intro living
    cases living

/-- A client is sound in every state it reaches alive. -/
theorem reached_sound {labels : List Label} (reached : run (step expiration) initial labels = .ok s) :
    Sound s := by
  refine invariant (step expiration) Sound (fun _ _ _ sound taken => step_sound sound taken)
    labels initial s ?_ reached
  intro _
  exact ⟨by constructor <;> simp [initial, ConnectorLoop.initial, Connector.create,
    ConnectorLoop.State.resets, Phase.batch, Phase.active, Phase.callbacks], rfl⟩

end Living

section Quiet

variable {s t : ConnectorLoop.State} {label : ConnectorLoop.Label}

/-- Nothing on the loop refers to the connector. -/
structure Quiet (s : ConnectorLoop.State) : Prop where
  timers : s.timers = []
  expired : s.phase.expired = []
  resets : s.resets = []
  registered : s.registered = false
  inactive : Source.connector ∉ s.phase.active
  callbacks : s.phase.callbacks = []

/-- No step of a quiet loop calls a function of the connector. -/
theorem Quiet.calls (quiet : Quiet s) : calls label s.phase = false := by
  have expired := quiet.expired
  have resets := quiet.resets
  have callbacks := quiet.callbacks
  unfold ClientDestruction.calls
  split
  case h_1 phase => simp [phase, Phase.callbacks] at callbacks
  case h_2 phase => simp [phase, Phase.expired] at expired
  case h_3 phase => simp [phase, ConnectorLoop.State.resets, Phase.batch] at resets
  case h_4 => rfl

/-- A quiet loop has no callback of the connector to run. -/
theorem Quiet.callback (quiet : Quiet s) (socketError : Nat) (selfConnect : Bool) :
    ConnectorLoop.step s (.callback socketError selfConnect) = .error .notEnabled := by
  have callbacks := quiet.callbacks
  simp only [ConnectorLoop.step]
  split
  case h_1 phase => simp [phase, Phase.callbacks] at callbacks
  case h_2 phase => simp [phase, Phase.callbacks] at callbacks
  case h_3 => rfl

/-- A turn that calls no function of the connector is taken or is not enabled. -/
theorem turn_accesses (turn : turns label = true) (silent : calls label s.phase = false) :
    ConnectorLoop.step s label ≠ .error .outOfBounds := by
  cases label with
  | start | stop | restart | callback => cases turn
  | fire result =>
    simp only [ConnectorLoop.step]
    split
    case h_1 phase => simp [phase, calls] at silent
    case h_2 => simp
  | forget timer => simp [ConnectorLoop.step, pure, Except.pure]
  | poll active | expire expired =>
    simp only [ConnectorLoop.step]
    split
    · split <;> simp [pure, Except.pure]
    · simp
  | dispatch | swap | runFunctor | finishFunctors | finishEvent =>
    simp only [ConnectorLoop.step]
    split <;> simp [pure, Except.pure]

/-- A turn of a quiet loop finds nothing to take up. -/
theorem Quiet.turn (quiet : Quiet s) (turn : turns label = true)
    (taken : ConnectorLoop.step s label = .ok t) : Quiet t := by
  have expired := quiet.expired
  have resets := quiet.resets
  have inactive := quiet.inactive
  cases ConnectorLoop.stepped taken with
  | start | stop | restart | ended | ignored => cases turn
  | fire result timer rest active after effects here => simp [here, Phase.expired] at expired
  | runFunctor attempt batch here =>
    simp [here, ConnectorLoop.State.resets, Phase.batch] at resets
  | dispatch revents active here => simp [here, Phase.active] at inactive
  | forget timer => exact { quiet with timers := by simp [quiet.timers] }
  | poll active here distinct registered =>
    have unpolled : Source.connector ∉ active := by
      intro member
      cases quiet.registered.symm.trans (registered member)
    refine ⟨quiet.timers, rfl, ?_, quiet.registered, unpolled, rfl⟩
    simpa [here, ConnectorLoop.State.resets, Phase.batch] using resets
  | expire moved active here distinct queued =>
    have nothing : moved = [] := by
      rw [List.eq_nil_iff_forall_not_mem]
      intro timer member
      have known := queued timer member
      simp [quiet.timers] at known
    refine ⟨by simp [quiet.timers], nothing, ?_, quiet.registered, ?_, rfl⟩
    · simpa [here, ConnectorLoop.State.resets, Phase.batch] using resets
    · simpa [here, Phase.active] using inactive
  | finishHandling active here | finishExpiring active here =>
    refine ⟨quiet.timers, rfl, ?_, quiet.registered, ?_, rfl⟩
    · simpa [here, ConnectorLoop.State.resets, Phase.batch] using resets
    · simpa [here, Phase.active] using inactive
  | swap here | finishFunctors here =>
    refine ⟨quiet.timers, rfl, ?_, quiet.registered, by simp [Phase.active], rfl⟩
    simpa [here, ConnectorLoop.State.resets, Phase.batch] using resets

end Quiet

section Released

variable {s : State}

/-- The client is destroyed and nothing that refers to it is left. -/
structure Released (s : State) : Prop where
  dead : s.alive = false
  connection : s.connection = none
  unshared : s.shared = false
  starts : s.starts = 0
  removal : s.removal = false
  quiet : Quiet s.loop

/-- What a released state does with a label: a turn of the loop is taken, another
owner lets go, and everything else is not enabled. -/
theorem Released.steps (released : Released s) (expiration : Nat → Int) (label : Label) :
    step expiration s label = .error .notEnabled ∨
      step expiration s label = .ok { s with shared := false } ∨
      ∃ turn, turns turn = true ∧ step expiration s label =
        (ConnectorLoop.step s.loop turn).map fun loop => { s with loop := loop } := by
  have dead := released.dead
  cases label with
  | connect | connectElsewhere | stop | stopElsewhere | disconnect | enableRetry | hold | destroy =>
    left
    simp [step, enabled, dead, bind, Except.bind]
  | drop =>
    right
    left
    rfl
  | runStart result =>
    left
    simp only [step]
    split
    case h_1 queued => cases released.starts.symm.trans queued
    case h_2 => rfl
  | removeConnector =>
    left
    simp only [step]
    split
    · simp [enabled, released.removal, bind, Except.bind]
    · rfl
  | closeConnection result =>
    left
    simp only [step]
    split
    · simp [enabled, released.connection, released.unshared, bind, Except.bind]
    · rfl
  | connectorCallback socketError selfConnect pollFailed =>
    left
    simp [step, loopStep, released.quiet.calls, released.quiet.callback, bind, Except.bind]
  | loop turn =>
    by_cases turning : turns turn = true
    · right
      right
      refine ⟨turn, turning, ?_⟩
      simp only [step, enabled, turning, loopStep, released.quiet.calls, if_true]
      cases ConnectorLoop.step s.loop turn <;> rfl
    · left
      simp [step, enabled, turning, bind, Except.bind]

/-- Whatever the loop does, a released client stays released. -/
theorem Released.safely (released : Released s) (expiration : Nat → Int) (label : Label) :
    Safely (step expiration s label) Released := by
  rcases released.steps expiration label with refused | dropped | ⟨turn, turning, same⟩
  · rw [refused]
    exact safely_error (by simp)
  · rw [dropped]
    exact safely_pure { released with unshared := rfl }
  · have accesses := turn_accesses turning released.quiet.calls
    rw [same]
    cases stepped : ConnectorLoop.step s.loop turn with
    | ok loop => exact safely_pure { released with quiet := released.quiet.turn turning stepped }
    | error fault =>
      rw [stepped] at accesses
      exact safely_error (by simpa using accesses)

/-- No later run of the loop uses the client. -/
theorem Released.later (released : Released s) (expiration : Nat → Int) (labels : List Label) :
    run (step expiration) s labels ≠ .error .outOfBounds :=
  (run_safely (step expiration) (fun _ _ => True) Released
    (fun _ label released _ => released.safely expiration label) labels s released
    (along_true _ s labels)).accesses

end Released

section Outstanding

variable {s : State} {expiration : Nat → Int}

/-- The same state with the loop elsewhere. -/
def placed (s : State) (phase : Phase) : State := { s with loop := { s.loop with phase := phase } }

/-- A turn that calls no function of the connector is a step of the client. -/
theorem step_turn {turn : ConnectorLoop.Label} {loop : ConnectorLoop.State}
    (turning : turns turn = true) (silent : calls turn s.loop.phase = false)
    (taken : ConnectorLoop.step s.loop turn = .ok loop) :
    step expiration s (.loop turn) = .ok { s with loop := loop } := by
  simp [step, loopStep, enabled, turning, silent, taken, bind, Except.bind, pure, Except.pure]

/-- The rest of an iteration in which only the timer descriptor is active and no
timer has expired. -/
theorem dispatching_polls (expiration : Nat → Int) (pending : s.loop.pending = [])
    (active : List Source) (inactive : Source.connector ∉ active) :
    ∃ labels, run (step expiration) (placed s (.dispatching active)) labels =
      .ok (placed s .polling) := by
  induction active with
  | nil =>
    refine ⟨[.loop .swap, .loop .finishFunctors], ?_⟩
    have swapped : step expiration (placed s (.dispatching [])) (.loop .swap) =
        .ok (placed s (.running [])) := by
      rw [step_turn rfl rfl rfl]
      simp [placed, pending]
    rw [run_returned _ swapped, run_single]
    exact step_turn rfl rfl rfl
  | cons source rest inductionHypothesis =>
    have absent := List.not_mem_of_not_mem_cons inactive
    obtain ⟨labels, polls⟩ := inductionHypothesis absent
    cases source with
    | connector => exact absurd List.mem_cons_self inactive
    | timers =>
      refine ⟨.loop (.expire []) :: .loop .finishEvent :: labels, ?_⟩
      have expired : step expiration (placed s (.dispatching (.timers :: rest)))
          (.loop (.expire [])) = .ok (placed s (.expiring [] rest)) := by
        simp [step, loopStep, calls, ConnectorLoop.step, enabled, turns, placed, bind, Except.bind,
          pure, Except.pure]
      have finished : step expiration (placed s (.expiring [] rest)) (.loop .finishEvent) =
          .ok (placed s (.dispatching rest)) := step_turn rfl rfl rfl
      rw [run_returned _ expired, run_returned _ finished]
      exact polls

/-- A loop that has nothing to do for the connector in this iteration comes to poll
again. -/
theorem reaches_polling (expiration : Nat → Int) (expired : s.loop.phase.expired = [])
    (resets : s.loop.resets = []) (inactive : Source.connector ∉ s.loop.phase.active)
    (callbacks : s.loop.phase.callbacks = []) :
    ∃ labels, run (step expiration) s labels = .ok (placed s .polling) := by
  obtain ⟨batch, pending⟩ := List.append_eq_nil_iff.mp resets
  have here : placed s s.loop.phase = s := rfl
  cases phase : s.loop.phase with
  | polling =>
    refine ⟨[], ?_⟩
    rw [phase] at here
    rw [here]
    rfl
  | dispatching active =>
    rw [phase] at here inactive
    rw [← here]
    exact dispatching_polls expiration pending active inactive
  | handling waiting active | expiring waiting active =>
    rw [phase] at here inactive callbacks expired
    obtain rfl : waiting = [] := by
      simpa [Phase.expired, Phase.callbacks] using And.intro expired callbacks
    obtain ⟨labels, polls⟩ := dispatching_polls expiration pending active inactive
    have finished : step expiration s (.loop .finishEvent) =
        .ok (placed s (.dispatching active)) := by
      rw [← here]
      exact step_turn rfl rfl rfl
    exact ⟨.loop .finishEvent :: labels, (run_returned _ finished labels).trans polls⟩
  | running waiting =>
    rw [phase] at here batch
    obtain rfl : waiting = [] := batch
    refine ⟨[.loop .finishFunctors], ?_⟩
    rw [run_single, ← here]
    exact step_turn rfl rfl rfl

/-- A dead client is used by whatever is outstanding: a retry timer, the timer of the
destructor, a queued `start_in_loop` or the close of a connection.

Proof: the loop comes to poll again, and the next iteration does just that. -/
theorem outstanding_used (expiration : Nat → Int) (dead : s.alive = false)
    (expired : s.loop.phase.expired = []) (resets : s.loop.resets = [])
    (inactive : Source.connector ∉ s.loop.phase.active) (callbacks : s.loop.phase.callbacks = [])
    (outstanding : s.loop.timers ≠ [] ∨ s.removal = true ∨ s.starts ≠ 0 ∨ s.shared = true) :
    ∃ labels, run (step expiration) s labels = .error .outOfBounds := by
  obtain ⟨labels, polls⟩ := reaches_polling expiration expired resets inactive callbacks
  suffices used : ∃ later, run (step expiration) (placed s .polling) later = .error .outOfBounds by
    obtain ⟨later, failed⟩ := used
    exact ⟨labels ++ later, (run_reached _ polls later).trans failed⟩
  have polled : ∀ active : List Source, active.Nodup → Source.connector ∉ active →
      step expiration (placed s .polling) (.loop (.poll active)) =
        .ok (placed s (.dispatching active)) := by
    intro active distinct absent
    simp [step, loopStep, calls, ConnectorLoop.step, enabled, turns, placed, distinct, absent, bind,
      Except.bind, pure, Except.pure]
  have timersPolled := polled [.timers] (by decide) (by decide)
  rcases outstanding with waiting | removal | starts | shared
  · obtain ⟨timer, member⟩ := List.exists_mem_of_ne_nil _ waiting
    refine ⟨[.loop (.poll [.timers]), .loop (.expire [timer]), .loop (.fire ⟨0, 0⟩)], ?_⟩
    rw [run_returned _ timersPolled]
    simp [run, step, loopStep, calls, ConnectorLoop.step, enabled, turns, placed, touched, accessed,
      member, dead, bind, Except.bind, pure, Except.pure]
  · refine ⟨[.loop (.poll [.timers]), .loop (.expire []), .removeConnector], ?_⟩
    rw [run_returned _ timersPolled]
    simp [run, step, loopStep, calls, ConnectorLoop.step, enabled, turns, placed, touched, accessed,
      removal, dead, bind, Except.bind, pure, Except.pure]
  · obtain ⟨count, counted⟩ := Nat.exists_eq_succ_of_ne_zero starts
    refine ⟨[.loop (.poll []), .loop .swap, .runStart ⟨0, 0⟩], ?_⟩
    rw [run_returned _ (polled [] List.nodup_nil (by simp))]
    simp [run, step, loopStep, calls, ConnectorLoop.step, enabled, turns, placed, touched, accessed,
      counted, dead, bind, Except.bind, pure, Except.pure]
  · refine ⟨[.loop (.poll [.timers]), .closeConnection ⟨0, 0⟩], ?_⟩
    rw [run_returned _ timersPolled]
    simp [run, step, placed, touched, accessed, enabled, shared, dead, bind, Except.bind]

/-- An expired retry timer of the running `handle_read` runs next. -/
theorem expired_used (expiration : Nat → Int) (dead : s.alive = false)
    (expired : s.loop.phase.expired ≠ []) :
    ∃ labels, run (step expiration) s labels = .error .outOfBounds := by
  refine ⟨[.loop (.fire ⟨0, 0⟩)], ?_⟩
  rw [run_single]
  cases phase : s.loop.phase with
  | expiring waiting active =>
    cases waiting with
    | nil => simp [phase, Phase.expired] at expired
    | cons timer rest =>
      simp [step, loopStep, calls, enabled, turns, touched, accessed, phase, dead, bind, Except.bind]
  | polling | dispatching | handling | running => simp [phase, Phase.expired] at expired

end Outstanding

section Destruction

variable {s : State} {expiration : Nat → Int}

/-- The destructors' assert holds, and no later run of the loop uses the client or its
connector. -/
def SafelyDestroyed (expiration : Nat → Int) (s : State) : Prop :=
  step expiration s .destroy ≠ .error .assertion ∧
    ∀ t, step expiration s .destroy = .ok t →
      ∀ later, run (step expiration) t later ≠ .error .outOfBounds

/-- The client has a connection that nobody else owns, `channel_` has been reset, no
`start_in_loop` is queued, and every retry timer that is still to run is in the queue
with the expiration of `timer_id_`, which is there too. -/
structure Clear (expiration : Nat → Int) (s : State) : Prop where
  connected : s.connection ≠ none
  unshared : s.shared = false
  channel : s.loop.connector.channel = none
  starts : s.starts = 0
  expired : s.loop.phase.expired = []
  timers : ∀ timer ∈ s.loop.timers, ∃ id ∈ s.loop.timers,
    s.loop.timerId = some id ∧ expiration timer = expiration id

/-- Cancelling `timer_id_` empties the queue exactly when it is queued and every timer
has its expiration. -/
theorem cancelled_nil_iff (timerId : Option Nat) (timers : List Nat) :
    cancelled expiration timerId timers = [] ↔
      ∀ timer ∈ timers, ∃ id ∈ timers, timerId = some id ∧ expiration timer = expiration id := by
  cases timerId with
  | none => simp [cancelled, List.eq_nil_iff_forall_not_mem]
  | some id =>
    by_cases queued : id ∈ timers
    · simp [cancelled, queued, List.filter_eq_nil_iff]
    · have nothing : timers = [] ↔ ∀ timer ∈ timers, ∃ other ∈ timers,
          some id = some other ∧ expiration timer = expiration other := by
        constructor
        · rintro rfl
          simp
        · intro all
          rw [List.eq_nil_iff_forall_not_mem]
          intro timer member
          obtain ⟨other, present, same, _⟩ := all timer member
          exact queued (Option.some.inj same ▸ present)
      simpa [cancelled, queued] using nothing

/-- What the destructors leave of the loop and of the client. -/
def destroyed (expiration : Nat → Int) (s : State) : State :=
  let client := destroyClient expiration s
  { client with
    loop := { client.loop with
      timers := cancelled expiration client.loop.timerId client.loop.timers }
    alive := false
    connection := none }

/-- The client's destructor leaves the connector's channel alone. -/
theorem destroyClient_channel :
    (destroyClient expiration s).loop.connector.channel = s.loop.connector.channel := by
  unfold destroyClient
  split <;> rfl

/-- The connector's destructor asserts that there is no channel. -/
theorem destroy_asserts (alive : s.alive = true) (present : s.loop.connector.channel ≠ none) :
    step expiration s .destroy = .error .assertion := by
  simp [step, enabled, destroyConnector, require, destroyClient_channel, alive, present, bind,
    Except.bind]

/-- Without a channel both destructors return. -/
theorem destroy_returns (expiration : Nat → Int) (alive : s.alive = true)
    (free : s.loop.connector.channel = none) :
    step expiration s .destroy = .ok (destroyed expiration s) := by
  simp [step, enabled, destroyConnector, require, destroyClient_channel, destroyed, alive, free,
    bind, Except.bind, pure, Except.pure]

/-- They leave the phase, the resets and the registration of the loop alone, and the
queued starts. -/
theorem destroyed_loop (expiration : Nat → Int) (s : State) :
    (destroyed expiration s).loop.phase = s.loop.phase ∧
    (destroyed expiration s).loop.resets = s.loop.resets ∧
    (destroyed expiration s).loop.registered = s.loop.registered ∧
    (destroyed expiration s).starts = s.starts := by
  unfold destroyed destroyClient
  split <;> exact ⟨rfl, rfl, rfl, rfl⟩

/-- A destroyed client without a connection leaves its timer behind. -/
theorem destroyed_unconnected (connection : s.connection = none) :
    (destroyed expiration s).removal = true := by
  simp [destroyed, destroyClient, connection]

/-- With a connection the destructors only cancel. -/
theorem destroyed_connected (connected : s.connection ≠ none) :
    destroyed expiration s = { s with
      loop := { s.loop with timers := cancelled expiration s.loop.timerId s.loop.timers }
      alive := false
      connection := none } := by
  simp [destroyed, destroyClient, Option.isSome_iff_ne_none.mpr connected]

/-- A client destroyed on the loop thread, in any state it can reach, leaves no
reference behind exactly when it is clear.

Proof: with the channel in place the assert fails. Without it nothing of the connector
is registered, queued or active, so what the destructors leave is the retry timers
they do not cancel, the queued `start_in_loop`, the timer of a client without a
connection and the close callback of a connection that lives on. If one of these is
there the loop gets to it; if none is, the loop stays quiet. -/
theorem safely_destroyed_iff (expiration : Nat → Int) (labels : List Label) (s : State)
    (reached : run (step expiration) initial labels = .ok s) (alive : s.alive = true) :
    SafelyDestroyed expiration s ↔ Clear expiration s := by
  obtain ⟨anchored, withoutRemoval⟩ := reached_sound reached alive
  constructor
  · rintro ⟨passed, unused⟩
    have free : s.loop.connector.channel = none := by
      by_contra present
      exact passed (destroy_asserts alive present)
    obtain ⟨_, resets, inactive, callbacks⟩ := anchored.free free
    obtain ⟨samePhase, sameResets, _, sameStarts⟩ := destroyed_loop expiration s
    have later := unused _ (destroy_returns expiration alive free)
    have expired : s.loop.phase.expired = [] := by
      by_contra waiting
      obtain ⟨labels, failed⟩ := expired_used expiration (s := destroyed expiration s) rfl
        (by rw [samePhase]; exact waiting)
      exact later labels failed
    have nothing : ¬ ((destroyed expiration s).loop.timers ≠ [] ∨
        (destroyed expiration s).removal = true ∨ (destroyed expiration s).starts ≠ 0 ∨
        (destroyed expiration s).shared = true) := by
      intro outstanding
      obtain ⟨labels, failed⟩ := outstanding_used expiration (s := destroyed expiration s) rfl
        (by rw [samePhase]; exact expired) (by rw [sameResets]; exact resets)
        (by rw [samePhase]; exact inactive) (by rw [samePhase]; exact callbacks) outstanding
      exact later labels failed
    simp only [not_or, not_not, Bool.not_eq_true] at nothing
    obtain ⟨timers, removal, starts, shared⟩ := nothing
    have connected : s.connection ≠ none := by
      intro connection
      cases removal.symm.trans (destroyed_unconnected connection)
    rw [destroyed_connected connected] at timers shared
    exact ⟨connected, shared, free, sameStarts ▸ starts, expired,
      (cancelled_nil_iff _ _).mp timers⟩
  · intro clear
    obtain ⟨registered, resets, inactive, callbacks⟩ := anchored.free clear.channel
    have returns := destroy_returns expiration alive clear.channel
    refine ⟨by simp [returns], ?_⟩
    intro t taken
    obtain rfl := Except.ok.inj (returns.symm.trans taken)
    rw [destroyed_connected clear.connected]
    apply Released.later
    exact ⟨rfl, rfl, clear.unshared, clear.starts, withoutRemoval,
      ⟨(cancelled_nil_iff _ _).mpr clear.timers, clear.expired, resets, registered, inactive,
        callbacks⟩⟩

/-- A client that has connected, at the next poll. -/
def connectedClient : List Label :=
  [.connect ⟨5, EINPROGRESS⟩, .loop (.poll [.connector]), .loop (.dispatch POLLOUT),
    .connectorCallback 0 false false, .loop .finishEvent, .loop .swap, .loop .runFunctor,
    .loop .finishFunctors]

/-- A client that has connected is destroyed safely at the next poll. -/
theorem safely_destroyed_connected :
    ∃ s, run (step fun _ => 0) initial connectedClient = .ok s ∧ s.alive = true ∧
      s.connection = some 1 ∧ SafelyDestroyed (fun _ => 0) s := by
  have computed : (run (step fun _ => 0) initial connectedClient).map (fun s =>
      ((s.alive, s.connection, s.shared, s.starts),
        (s.loop.connector.channel, s.loop.phase, s.loop.timers))) =
      .ok ((true, some 1, false, 0), (none, .polling, [])) := by decide +kernel
  obtain ⟨s, reached, computed⟩ := (map_returned _ _ _).mp computed
  simp only [Prod.mk.injEq] at computed
  obtain ⟨⟨alive, connection, shared, starts⟩, channel, phase, timers⟩ := computed
  refine ⟨s, reached, alive, connection, ?_⟩
  refine (safely_destroyed_iff (fun _ => 0) connectedClient s reached alive).mpr ?_
  exact ⟨by simp [connection], shared, channel, starts, by simp [phase, Phase.expired],
    by simp [timers]⟩

/-- Destroyed while it connects, the client fails the assert. A connected client whose
connection the user holds passes it, and the peer's close then uses the client. -/
theorem destroyed_while_connecting :
    (∃ s, run (step fun _ => 0) initial [.connect ⟨5, EINPROGRESS⟩] = .ok s ∧ s.alive = true ∧
      step (fun _ => 0) s .destroy = .error .assertion ∧ ¬ SafelyDestroyed (fun _ => 0) s) ∧
    (∃ s, run (step fun _ => 0) initial (connectedClient ++ [.hold]) = .ok s ∧ s.alive = true ∧
      run (step fun _ => 0) s
        [.destroy, .loop (.poll [.timers]), .closeConnection ⟨6, 0⟩] = .error .outOfBounds ∧
      ¬ SafelyDestroyed (fun _ => 0) s) := by
  constructor
  · refine ⟨_, rfl, rfl, rfl, ?_⟩
    exact fun safe => safe.1 rfl
  · have computed : (run (step fun _ => 0) initial (connectedClient ++ [.hold])).map (fun s =>
        (s.alive, s.loop.connector.channel)) = .ok (true, none) := by decide +kernel
    have failed : (run (step fun _ => 0) initial ((connectedClient ++ [.hold]) ++
        [.destroy, .loop (.poll [.timers]), .closeConnection ⟨6, 0⟩])).map (fun _ => ()) =
        .error .outOfBounds := by decide +kernel
    obtain ⟨s, reached, computed⟩ := (map_returned _ _ _).mp computed
    simp only [Prod.mk.injEq] at computed
    obtain ⟨alive, channel⟩ := computed
    rw [run_reached _ reached, map_failed] at failed
    have returns := destroy_returns (fun _ => 0) alive channel
    refine ⟨s, reached, alive, failed, ?_⟩
    rw [run_returned _ returns] at failed
    exact fun safe => safe.2 _ returns _ failed

end Destruction

end ReactorNetwork.ClientDestruction
