import ReactorNetwork.Channel
import ReactorNetwork.Machine

/-!
# Connector

The functions of a connector on its loop thread, each as a transformation of the
connector together with its effects outside, in program order. The environment
supplies the socket a `connect` call creates, the `errno` of that call, the
pending socket error and whether the socket is connected to itself.

The delay is kept in milliseconds, as the source stores it; the division by
`1000.0` in front of `run_after` and the timer itself belong to the loop. The
destructor is left out.
-/

namespace ReactorNetwork

/-- `Connector::State`. -/
inductive ConnectorState where
  | disconnected
  | connecting
  | connected
deriving DecidableEq, Repr

/-- What a connector does outside itself, in the order it happens. -/
inductive ConnectorEffect where
  | opened (sockFd : Int)
  | closed (sockFd : Int)
  | updateChannel
  | removeChannel
  | queueResetChannel
  | runAfter (delayMs : Nat)
  | cancelTimer
  | newConnection (sockFd : Int)
deriving DecidableEq, Repr

/-- One call of `sockets::connect` on a new socket, with `saved_errno`. -/
structure ConnectResult where
  sockFd : Int
  savedErrno : Nat
deriving DecidableEq, Repr

/-- The error numbers that `connect` of the connector tells apart. -/
def EINTR : Nat := 4
def EAGAIN : Nat := 11
def EADDRINUSE : Nat := 98
def EADDRNOTAVAIL : Nat := 99
def ENETUNREACH : Nat := 101
def EISCONN : Nat := 106
def ECONNREFUSED : Nat := 111
def EINPROGRESS : Nat := 115

/-- `connectFlag` is the member `connect_`. -/
structure Connector where
  connectFlag : Bool
  state : ConnectorState
  channel : Option Channel
  retryDelayMs : Nat
deriving DecidableEq, Repr

namespace Connector

/-- The bound and the start of the retry delay, in milliseconds. -/
def kMaxRetryDelayMs : Nat := 30 * 1000
def kInitRetryDelayMs : Nat := 500

/-- The constructor. -/
def create : Connector where
  connectFlag := false
  state := .disconnected
  channel := none
  retryDelayMs := kInitRetryDelayMs

/-- `connecting`: the attempt is in progress, and its channel waits for a writable
event. -/
def connecting (c : Connector) (sockFd : Int) : Outcome (Connector × List ConnectorEffect) := do
  require (c.channel = none)
  pure ({ c with state := .connecting, channel := some (Channel.create sockFd).enableWriting },
    [.updateChannel])

/-- `retry`: the socket is closed, and the next attempt is left to a timer if the
connector is to connect. The delay the timer waits is not doubled. -/
def retry (c : Connector) (sockFd : Int) : Connector × List ConnectorEffect :=
  if c.connectFlag then
    ({ c with state := .disconnected, retryDelayMs := min c.retryDelayMs kMaxRetryDelayMs },
      [.closed sockFd, .runAfter c.retryDelayMs])
  else ({ c with state := .disconnected }, [.closed sockFd])

/-- The last two groups of the source's `switch` differ in what they log only. -/
def connect (c : Connector) (result : ConnectResult) :
    Outcome (Connector × List ConnectorEffect) :=
  if result.savedErrno ∈ [0, EINPROGRESS, EINTR, EISCONN] then do
    let (after, effects) ← c.connecting result.sockFd
    pure (after, .opened result.sockFd :: effects)
  else if result.savedErrno ∈
      [EAGAIN, EADDRINUSE, EADDRNOTAVAIL, ECONNREFUSED, ENETUNREACH] then
    let (after, effects) := c.retry result.sockFd
    pure (after, .opened result.sockFd :: effects)
  else pure (c, [.opened result.sockFd, .closed result.sockFd])

/-- `start_in_loop`. -/
def startInLoop (c : Connector) (result : ConnectResult) :
    Outcome (Connector × List ConnectorEffect) := do
  require (c.state = .disconnected)
  if c.connectFlag then c.connect result else pure (c, [])

/-- The part of `start` before `start_in_loop` is handed to the loop. -/
def start (c : Connector) : Connector := { c with connectFlag := true }

/-- `restart`, in the loop's thread. -/
def restart (c : Connector) (result : ConnectResult) :
    Outcome (Connector × List ConnectorEffect) :=
  startInLoop { c with
    state := .disconnected
    retryDelayMs := kInitRetryDelayMs
    connectFlag := true } result

/-- `stop`: the flag is cleared and the retry timer cancelled. -/
def stop (c : Connector) : Connector × List ConnectorEffect :=
  ({ c with connectFlag := false }, [.cancelTimer])

/-- The channel is dereferenced, and stays in place until `reset_channel` runs. -/
def removeAndResetChannel (c : Connector) : Outcome (Connector × List ConnectorEffect × Int) := do
  let channel ← accessed c.channel
  pure ({ c with channel := some channel.disableAll },
    [.updateChannel, .removeChannel, .queueResetChannel], channel.fd)

/-- `reset_channel`, a queued functor. -/
def resetChannel (c : Connector) : Connector := { c with channel := none }

/-- `handle_write`: the attempt in progress has ended. Its channel is removed, and the
socket retried, handed over or closed. -/
def handleWrite (c : Connector) (socketError : Nat) (selfConnect : Bool) :
    Outcome (Connector × List ConnectorEffect) :=
  if c.state = .connecting then do
    let (removed, effects, sockFd) ← c.removeAndResetChannel
    if socketError ≠ 0 ∨ selfConnect = true then
      let (after, further) := removed.retry sockFd
      pure (after, effects ++ further)
    else if c.connectFlag then
      pure ({ removed with state := .connected }, effects ++ [.newConnection sockFd])
    else
      pure ({ removed with state := .connected }, effects ++ [.closed sockFd])
  else do
    require (c.state = .disconnected)
    pure (c, [])

/-- `SO_ERROR` is only logged. -/
def handleError (c : Connector) : Outcome (Connector × List ConnectorEffect) := do
  require (c.state = .connecting)
  let (removed, effects, sockFd) ← c.removeAndResetChannel
  let (after, further) := removed.retry sockFd
  pure (after, effects ++ further)

section Outcomes

/-- What an attempt from `start_in_loop` leads to, by the flag and the `errno` of
`connect`. -/
inductive Attempted (c : Connector) (sockFd : Int) : Connector → List ConnectorEffect → Prop where
  | declined (stopped : c.connectFlag = false) : Attempted c sockFd c []
  | begun (wanted : c.connectFlag = true) (free : c.channel = none) :
      Attempted c sockFd
        { c with state := .connecting, channel := some (Channel.create sockFd).enableWriting }
        [.opened sockFd, .updateChannel]
  | refused (wanted : c.connectFlag = true) :
      Attempted c sockFd
        { c with state := .disconnected, retryDelayMs := min c.retryDelayMs kMaxRetryDelayMs }
        [.opened sockFd, .closed sockFd, .runAfter c.retryDelayMs]
  | abandoned (wanted : c.connectFlag = true) :
      Attempted c sockFd c [.opened sockFd, .closed sockFd]

/-- What an event of an attempt in progress leads to. -/
inductive Ended (c : Connector) (channel : Channel) :
    Connector → List ConnectorEffect → Prop where
  | retried (wanted : c.connectFlag = true) :
      Ended c channel
        { c with
          state := .disconnected
          channel := some channel.disableAll
          retryDelayMs := min c.retryDelayMs kMaxRetryDelayMs }
        [.updateChannel, .removeChannel, .queueResetChannel, .closed channel.fd,
          .runAfter c.retryDelayMs]
  | failed (stopped : c.connectFlag = false) :
      Ended c channel { c with state := .disconnected, channel := some channel.disableAll }
        [.updateChannel, .removeChannel, .queueResetChannel, .closed channel.fd]
  | handedOver (wanted : c.connectFlag = true) :
      Ended c channel { c with state := .connected, channel := some channel.disableAll }
        [.updateChannel, .removeChannel, .queueResetChannel, .newConnection channel.fd]
  | dropped (stopped : c.connectFlag = false) :
      Ended c channel { c with state := .connected, channel := some channel.disableAll }
        [.updateChannel, .removeChannel, .queueResetChannel, .closed channel.fd]

/-- A call of `start_in_loop` that returns found the connector `disconnected`, and made
an attempt. -/
theorem startInLoop_attempted {c after : Connector} {result : ConnectResult}
    {effects : List ConnectorEffect} (returned : c.startInLoop result = .ok (after, effects)) :
    c.state = .disconnected ∧ Attempted c result.sockFd after effects := by
  obtain ⟨disconnected, continued⟩ := (require_bind_ok _ _ _).mp returned
  refine ⟨disconnected, ?_⟩
  split at continued
  case isFalse stopped =>
    obtain ⟨rfl, rfl⟩ := Prod.mk.inj ((pure_ok _ _).mp continued)
    exact .declined (by simpa using stopped)
  case isTrue wanted =>
    unfold connect at continued
    split at continued
    · obtain ⟨⟨begun, further⟩, waiting, same⟩ := (bind_ok _ _ _).mp continued
      obtain ⟨rfl, rfl⟩ := Prod.mk.inj ((pure_ok _ _).mp same)
      obtain ⟨free, started⟩ := (require_bind_ok _ _ _).mp waiting
      obtain ⟨rfl, rfl⟩ := Prod.mk.inj ((pure_ok _ _).mp started)
      exact .begun wanted free
    · split at continued
      · rw [retry, if_pos wanted] at continued
        obtain ⟨rfl, rfl⟩ := Prod.mk.inj ((pure_ok _ _).mp continued)
        exact .refused wanted
      · obtain ⟨rfl, rfl⟩ := Prod.mk.inj ((pure_ok _ _).mp continued)
        exact .abandoned wanted

/-- Giving up an attempt in progress. -/
theorem retry_ended {c removed : Connector} {effects : List ConnectorEffect} {sockFd : Int}
    (reset : c.removeAndResetChannel = .ok (removed, effects, sockFd)) :
    (removed.retry sockFd).1.state = .disconnected ∧ ∃ channel, c.channel = some channel ∧
      Ended c channel (removed.retry sockFd).1 (effects ++ (removed.retry sockFd).2) := by
  obtain ⟨channel, present, same⟩ := (bind_ok _ _ _).mp reset
  obtain ⟨rfl, rest⟩ := Prod.mk.inj ((pure_ok _ _).mp same)
  obtain ⟨rfl, rfl⟩ := Prod.mk.inj rest
  by_cases flag : c.connectFlag = true
  · rw [retry, if_pos flag]
    exact ⟨rfl, channel, (accessed_ok _ _).mp present, .retried flag⟩
  · rw [retry, if_neg flag]
    exact ⟨rfl, channel, (accessed_ok _ _).mp present, .failed (by simpa using flag)⟩

/-- An error that is handled ends the attempt in progress and leaves the connector
`disconnected`. -/
theorem handleError_ended {c after : Connector} {effects : List ConnectorEffect}
    (returned : c.handleError = .ok (after, effects)) :
    c.state = .connecting ∧ after.state = .disconnected ∧
      ∃ channel, c.channel = some channel ∧ Ended c channel after effects := by
  obtain ⟨connecting, continued⟩ := (require_bind_ok _ _ _).mp returned
  obtain ⟨⟨removed, earlier, fd⟩, reset, finished⟩ := (bind_ok _ _ _).mp continued
  obtain ⟨rfl, rfl⟩ := Prod.mk.inj ((pure_ok _ _).mp finished)
  exact ⟨connecting, retry_ended reset⟩

/-- A writable event ends an attempt in progress and does nothing otherwise. -/
theorem handleWrite_ended {c after : Connector} {socketError : Nat} {selfConnect : Bool}
    {effects : List ConnectorEffect}
    (returned : c.handleWrite socketError selfConnect = .ok (after, effects)) :
    (c.state = .connecting ∧ ∃ channel, c.channel = some channel ∧ Ended c channel after effects) ∨
      (c.state = .disconnected ∧ after = c ∧ effects = []) := by
  unfold handleWrite at returned
  split at returned
  case isFalse =>
    obtain ⟨disconnected, same⟩ := (require_bind_ok _ _ _).mp returned
    obtain ⟨rfl, rfl⟩ := Prod.mk.inj ((pure_ok _ _).mp same)
    exact Or.inr ⟨disconnected, rfl, rfl⟩
  case isTrue connecting =>
    refine Or.inl ⟨connecting, ?_⟩
    obtain ⟨⟨removed, earlier, fd⟩, reset, continued⟩ := (bind_ok _ _ _).mp returned
    simp only at continued
    split at continued
    · obtain ⟨rfl, rfl⟩ := Prod.mk.inj ((pure_ok _ _).mp continued)
      exact (retry_ended reset).2
    · obtain ⟨channel, present, same⟩ := (bind_ok _ _ _).mp reset
      obtain ⟨rfl, rest⟩ := Prod.mk.inj ((pure_ok _ _).mp same)
      obtain ⟨rfl, rfl⟩ := Prod.mk.inj rest
      refine ⟨channel, (accessed_ok _ _).mp present, ?_⟩
      split at continued
      case isTrue wanted =>
        obtain ⟨rfl, rfl⟩ := Prod.mk.inj ((pure_ok _ _).mp continued)
        exact .handedOver wanted
      case isFalse stopped =>
        obtain ⟨rfl, rfl⟩ := Prod.mk.inj ((pure_ok _ _).mp continued)
        exact .dropped (by simpa using stopped)

/-- An attempt starts only from `disconnected`, and hands nothing over. -/
theorem startInLoop_state {c after : Connector} {result : ConnectResult}
    {effects : List ConnectorEffect} (returned : c.startInLoop result = .ok (after, effects)) :
    c.state = .disconnected ∧ ∀ sockFd, ConnectorEffect.newConnection sockFd ∉ effects := by
  obtain ⟨disconnected, attempted⟩ := startInLoop_attempted returned
  refine ⟨disconnected, ?_⟩
  cases attempted <;> simp

/-- An error is handled in state `connecting` only, and hands no socket over. -/
theorem handleError_state {c after : Connector} {effects : List ConnectorEffect}
    (returned : c.handleError = .ok (after, effects)) :
    c.state = .connecting ∧ ∀ sockFd, ConnectorEffect.newConnection sockFd ∉ effects := by
  obtain ⟨connecting, disconnected, channel, _, ended⟩ := handleError_ended returned
  refine ⟨connecting, ?_⟩
  cases ended with
  | handedOver => cases disconnected
  | retried | failed | dropped => simp

/-- A writable event returns outside `connected` only, and a socket is handed
over only by an attempt in progress, which it ends. -/
theorem handleWrite_state {c after : Connector} {socketError : Nat} {selfConnect : Bool}
    {effects : List ConnectorEffect}
    (returned : c.handleWrite socketError selfConnect = .ok (after, effects)) :
    c.state ≠ .connected ∧ ∀ sockFd, .newConnection sockFd ∈ effects → after.state = .connected := by
  rcases handleWrite_ended returned with
    ⟨connecting, channel, _, ended⟩ | ⟨disconnected, _, rfl⟩
  · refine ⟨by simp [connecting], ?_⟩
    cases ended <;> simp
  · simp [disconnected]

end Outcomes

end Connector

end ReactorNetwork
