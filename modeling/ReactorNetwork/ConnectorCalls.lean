import ReactorNetwork.ConnectorOrder

/-!
# Stopping and starting a connector again

`start` and `stop` are called in turn, at any points of a run. `stop` clears a
flag and cancels a timer; the attempt in progress, its channel and an expired
timer that is about to run are left to later steps. A `start` that finds one of
them fails an assertion of the connector, or makes a later step fail one.

No assertion fails when every `start` finds the connector idle: `disconnected`,
with no retry timer left in the vector that is being run, and without a channel
that its new attempt would need; and when no retry timer runs while the reset of
its own failed attempt is still queued.
-/

namespace ReactorNetwork

/-- The `errno` of `connect` lets the attempt go on. -/
def ConnectResult.begins (result : ConnectResult) : Bool :=
  result.savedErrno ∈ [0, EINPROGRESS, EINTR, EISCONN]

namespace Connector

variable {c : Connector}

/-- An attempt returns from `disconnected`, unless it needs the channel another
attempt still has. -/
theorem startInLoop_returns (result : ConnectResult) (disconnected : c.state = .disconnected)
    (free : c.connectFlag = true → c.channel = none ∨ result.begins = false) :
    ∃ returned, c.startInLoop result = .ok returned := by
  unfold startInLoop
  rw [require_passed disconnected]
  split
  case isFalse => exact ⟨_, rfl⟩
  case isTrue wanted =>
    unfold connect
    split
    case isTrue begins =>
      have channel : c.channel = none := by
        rcases free wanted with none | ends
        · exact none
        · rw [ConnectResult.begins, decide_eq_false_iff_not] at ends
          exact absurd begins ends
      refine ⟨_, (bind_ok _ _ _).mpr ⟨_, require_passed channel _, rfl⟩⟩
    case isFalse =>
      split
      · exact ⟨_, rfl⟩
      · exact ⟨_, rfl⟩

/-- An attempt that needs the channel another attempt still has fails the assertion of
`connecting`, when its socket is created and its `connect` has begun. -/
theorem startInLoop_fails (result : ConnectResult) (disconnected : c.state = .disconnected)
    (wanted : c.connectFlag = true) (present : c.channel ≠ none) (begins : result.begins = true) :
    c.startInLoop result = .error .assertion := by
  unfold startInLoop connect
  rw [require_passed disconnected, if_pos wanted, if_pos (of_decide_eq_true begins), connecting,
    require, if_neg present]
  rfl

/-- `remove_and_reset_channel` returns if there is a channel. -/
theorem removeAndResetChannel_returns {channel : Channel} (present : c.channel = some channel) :
    ∃ returned, c.removeAndResetChannel = .ok returned := by
  unfold removeAndResetChannel
  rw [accessed_found present]
  exact ⟨_, rfl⟩

/-- `handle_error` returns for a connecting connector with a channel. -/
theorem handleError_returns {channel : Channel} (connecting : c.state = .connecting)
    (present : c.channel = some channel) : ∃ returned, c.handleError = .ok returned := by
  obtain ⟨removed, returned⟩ := removeAndResetChannel_returns present
  unfold handleError
  rw [require_passed connecting, returned]
  exact ⟨_, rfl⟩

/-- `handle_write` returns for a connecting connector with a channel, and for a
disconnected one. -/
theorem handleWrite_returns (socketError : Nat) (selfConnect : Bool)
    (expected : (c.state = .connecting ∧ ∃ channel, c.channel = some channel) ∨
      c.state = .disconnected) :
    ∃ returned, c.handleWrite socketError selfConnect = .ok returned := by
  unfold handleWrite
  rcases expected with ⟨connecting, channel, present⟩ | disconnected
  · obtain ⟨removed, returned⟩ := removeAndResetChannel_returns present
    rw [if_pos connecting, returned]
    simp only [bind, Except.bind]
    split
    · exact ⟨_, rfl⟩
    · split
      · exact ⟨_, rfl⟩
      · exact ⟨_, rfl⟩
  · rw [if_neg (by simp [disconnected]), require_passed disconnected]
    exact ⟨_, rfl⟩

end Connector

namespace ConnectorLoop

/-- `start` and `stop` are called in turn, and nothing else; `starts` says that the
next call is a `start`. -/
def alternate : Bool → List Label → Bool
  | _, [] => true
  | starts, .start _ :: labels => starts && alternate false labels
  | starts, .stop :: labels => !starts && alternate true labels
  | _, .restart _ :: _ => false
  | starts, _ :: labels => alternate starts labels

/-- An attempt with this result does not need a channel that is still there. -/
def free (s : State) (result : ConnectResult) : Prop :=
  s.connector.channel = none ∨ result.begins = false

instance (s : State) (result : ConnectResult) : Decidable (free s result) :=
  inferInstanceAs (Decidable (_ ∨ _))

/-- A start finds the connector idle, and a retry timer that runs finds the channel
of its failed attempt reset. -/
def calm (s : State) : Label → Prop
  | .start result => s.connector.state = .disconnected ∧ s.phase.expired = [] ∧ free s result
  | .fire result => s.connector.connectFlag = true → free s result
  | _ => True

instance (s : State) (label : Label) : Decidable (calm s label) :=
  match label with
  | .start _ => inferInstanceAs (Decidable (_ ∧ _ ∧ _))
  | .fire _ => inferInstanceAs (Decidable (_ → _))
  | .stop | .restart _ | .poll _ | .dispatch _ | .callback _ _ | .expire _ | .forget _
  | .finishEvent | .swap | .runFunctor | .finishFunctors => isTrue trivial

/-- A retry timer that runs finds the channel of its failed attempt reset, or does not need
one: `connect_` is cleared, or its `connect` does not begin. -/
def resetFirst (s : State) : Label → Prop
  | .fire result => s.phase.expired ≠ [] → s.connector.connectFlag = true → free s result
  | _ => True

instance (s : State) (label : Label) : Decidable (resetFirst s label) :=
  match label with
  | .fire _ => inferInstanceAs (Decidable (_ → _ → _))
  | .start _ | .stop | .restart _ | .poll _ | .dispatch _ | .callback _ _ | .expire _ | .forget _
  | .finishEvent | .swap | .runFunctor | .finishFunctors => isTrue trivial

/-- No assertion of the connector failed and no missing channel was used, and the
next queued `reset_channel` is for the channel that is there. -/
def Passes : Outcome State → Prop
  | .ok s => ∀ attempt batch, s.phase = .running (attempt :: batch) →
      s.connector.channel = none ∨ attempt = s.channelAttempt
  | .error fault => fault = .notEnabled

variable {s : State}

/-- The flag of the connector says which call was the last. -/
def flagAfter (flag : Bool) : Label → Bool
  | .start _ | .restart _ => true
  | .stop => false
  | _ => flag

/-- An attempt leaves the flag of the connector alone. -/
theorem attempted_flag {c after : Connector} {sockFd : Int} {effects : List ConnectorEffect}
    (attempted : c.Attempted sockFd after effects) : after.connectFlag = c.connectFlag := by
  cases attempted <;> rfl

/-- So does its end. -/
theorem ended_flag {c after : Connector} {channel : Channel} {effects : List ConnectorEffect}
    (ended : c.Ended channel after effects) : after.connectFlag = c.connectFlag := by
  cases ended <;> rfl

/-- Only the three calls of the user change the flag. -/
theorem step_flag (label : Label) (t : State) (taken : step s label = .ok t) :
    t.connector.connectFlag = flagAfter s.connector.connectFlag label := by
  cases stepped taken with
  | start _ _ _ attempted | restart _ _ _ attempted => exact attempted_flag attempted
  | fire _ _ _ _ _ _ _ _ attempted => exact attempted_flag attempted
  | ended _ _ _ _ _ _ _ _ _ _ _ ended => exact ended_flag ended
  | stop | poll | dispatch | ignored | expire | forget | finishHandling | finishExpiring | swap
    | runFunctor | finishFunctors => rfl

/-- A call of the connector that returns is a step that returns. -/
theorem call_passes {outcome : Outcome (Connector × List ConnectorEffect)}
    (returns : ∃ returned, outcome = .ok returned) (fault : Fault) :
    call s outcome ≠ .error fault := by
  obtain ⟨⟨after, effects⟩, rfl⟩ := returns
  intro failed
  cases failed

/-- No callback of an orderly connector meets a failing assertion or a missing
channel. -/
theorem callback_passes (orderly : Orderly s) (socketError : Nat) (selfConnect : Bool)
    (fault : Fault) (failed : step s (.callback socketError selfConnect) = .error fault) :
    fault = .notEnabled := by
  have handled := orderly.inTurn.handled
  have present : s.connector.state = .connecting → ∃ channel, s.connector.channel = some channel :=
    fun connecting => Option.ne_none_iff_exists'.mp
      (orderly.channelled.exists_iff.mpr (Or.inl connecting))
  simp only [step] at failed
  split at failed
  case h_3 => exact (Except.error.inj failed).symm
  case h_1 callbacks active phase =>
    rw [phase] at handled
    have connecting : s.connector.state = .connecting := by
      rcases handled (by simp [Phase.callbacks]) with connecting | ⟨write, _, _⟩
      · exact connecting
      · simp [Phase.callbacks] at write
    obtain ⟨channel, here⟩ := present connecting
    exact absurd failed (call_passes (Connector.handleError_returns connecting here) fault)
  case h_2 callbacks active phase =>
    rw [phase] at handled
    have expected : (s.connector.state = .connecting ∧ ∃ channel, s.connector.channel = some channel) ∨
        s.connector.state = .disconnected := by
      rcases handled (by simp [Phase.callbacks]) with connecting | ⟨_, disconnected, _⟩
      · exact Or.inl ⟨connecting, present connecting⟩
      · exact Or.inr disconnected
    exact absurd failed (call_passes
      (Connector.handleWrite_returns socketError selfConnect expected) fault)

/-- A retry timer that runs first finds its reset done exactly if it passes the assertion of
`connecting`, and it fails no other. -/
theorem fire_failed (orderly : Orderly s) (result : ConnectResult) (fault : Fault)
    (failed : step s (.fire result) = .error fault) :
    fault ≠ .notEnabled ↔ ¬ resetFirst s (.fire result) := by
  simp only [step] at failed
  split at failed
  case h_2 other =>
    obtain rfl := Except.error.inj failed
    refine iff_of_false (fun different => different rfl) (not_not.mpr fun some => ?_)
    cases phase : s.phase with
    | expiring expired active =>
      cases expired with
      | nil => simp [phase, Phase.expired] at some
      | cons timer rest => exact absurd phase (other timer rest active)
    | polling | dispatching | handling | running => simp [phase, Phase.expired] at some
  case h_1 timer expired active expiring =>
    obtain ⟨_, _, disconnected⟩ := expiring_alone orderly expiring
    have unmet : ¬ (s.connector.connectFlag = true → free s result) := fun met =>
      call_passes (Connector.startInLoop_returns result disconnected met) fault failed
    refine iff_of_true ?_ fun first => unmet (first (by simp [expiring, Phase.expired]))
    rintro rfl
    simp only [free, Classical.not_imp, not_or, Bool.not_eq_false] at unmet
    rw [Connector.startInLoop_fails result disconnected unmet.1 unmet.2.1 unmet.2.2] at failed
    cases failed

/-- A retry timer that ran to its end met the condition. -/
theorem fire_returned (result : ConnectResult) (t : State)
    (taken : step s (.fire result) = .ok t) : resetFirst s (.fire result) := by
  intro _ wanted
  cases stepped taken with
  | fire _ timer expired active after effects expiring disconnected attempted =>
    by_contra needed
    simp only [free, not_or, Bool.not_eq_false] at needed
    simp only [step, expiring, Connector.startInLoop_fails result disconnected wanted needed.1
      needed.2] at taken
    cases taken

/-- In an orderly state a calm step passes every assertion. -/
theorem step_passes (orderly : Orderly s) (label : Label) (calmly : calm s label)
    (others : ∀ result, label ≠ .restart result) (fault : Fault)
    (failed : step s label = .error fault) : fault = .notEnabled := by
  cases label
  case restart result => exact absurd rfl (others result)
  case start result =>
    obtain ⟨disconnected, _, isFree⟩ := calmly
    exact absurd failed (call_passes
      (Connector.startInLoop_returns (c := s.connector.start) result disconnected fun _ => isFree)
      fault)
  case fire result =>
    simp only [step] at failed
    split at failed
    case h_2 => exact (Except.error.inj failed).symm
    case h_1 timer expired active expiring =>
      obtain ⟨_, _, disconnected⟩ := expiring_alone orderly expiring
      exact absurd failed (call_passes
        (Connector.startInLoop_returns result disconnected calmly) fault)
  case callback socketError selfConnect =>
    exact callback_passes orderly socketError selfConnect fault failed
  case stop | forget => cases failed
  all_goals
    simp only [step] at failed
    repeat' split at failed
    all_goals cases failed
    all_goals rfl

/-- A calm start that follows a `stop`, or is the first, fits: the flag is cleared,
so no retry timer is in the queue. -/
theorem calm_fits (orderly : Orderly s) (label : Label) (calmly : calm s label)
    (others : ∀ result, label ≠ .restart result)
    (stopped : ∀ result, label = .start result → s.connector.connectFlag = false) :
    fits s label := by
  cases label
  case restart result => exact absurd rfl (others result)
  case start result =>
    obtain ⟨disconnected, expired, _⟩ := calmly
    have timers := orderly.timed.stopped (stopped result rfl)
    exact ⟨disconnected, by rw [State.due, timers, expired]; rfl⟩
  all_goals trivial

/-- What alternation says of the first label. -/
theorem alternate_head {starts : Bool} {label : Label} {labels : List Label}
    (alternating : alternate starts (label :: labels) = true) :
    (∀ result, label ≠ .restart result) ∧ (∀ result, label = .start result → starts = true) ∧
      alternate (!flagAfter (!starts) label) labels = true := by
  cases label <;> simp_all [alternate, flagAfter]

/-- A calm run from an orderly state passes every assertion and stays orderly.

Proof: induction over the labels. The flag of the connector is the opposite of
whose turn it is, so a start finds it cleared. -/
theorem run_passes (labels : List Label) (s : State) (starts : Bool) (orderly : Orderly s)
    (flag : s.connector.connectFlag = !starts) (alternating : alternate starts labels = true)
    (calmly : Runs.Along step calm s labels) :
    (∀ fault, Runs.run step s labels = .error fault → fault = .notEnabled) ∧
      ∀ t, Runs.run step s labels = .ok t → Orderly t := by
  induction labels generalizing s starts with
  | nil =>
    constructor
    · intro fault failed
      cases failed
    · intro t reached
      obtain rfl := Except.ok.inj reached
      exact orderly
  | cons label rest inductionHypothesis =>
    obtain ⟨others, turn, later⟩ := alternate_head alternating
    cases taken : step s label with
    | error fault =>
      rw [Runs.run_failed step taken]
      refine ⟨?_, fun t reached => by cases reached⟩
      intro other same
      obtain rfl := Except.error.inj same
      exact step_passes orderly label calmly.1 others fault taken
    | ok next =>
      rw [Runs.run_returned step taken]
      have stopped : ∀ result, label = .start result → s.connector.connectFlag = false := by
        intro result same
        rw [flag, turn result same]
        rfl
      have fitting := calm_fits orderly label calmly.1 others stopped
      have flagNext := step_flag label next taken
      rw [flag] at flagNext
      exact inductionHypothesis next _ (step_orderly s label next orderly fitting taken)
        (by rw [flagNext, Bool.not_not]) later (calmly.2 next taken)

/-- `start` and `stop` are called in turn, beginning with `start`, each at any
point of the run. If every start finds the connector idle and no retry timer runs
while the reset of its failed attempt is queued, then no assertion of the
connector fails in the whole run, and every queued reset finds the channel it was
queued for. -/
theorem alternating_calls_pass (labels : List Label) (alternating : alternate true labels = true)
    (calmly : Runs.Along step calm initial labels) : Passes (Runs.run step initial labels) := by
  obtain ⟨passes, ends⟩ :=
    run_passes labels initial true initial_orderly rfl alternating calmly
  cases reached : Runs.run step initial labels with
  | error fault => exact passes fault reached
  | ok s =>
    intro attempt batch running
    exact Or.inr (running_own (ends s reached) running).1

/-- An attempt fails, its retry timer is cancelled, and a later start succeeds. -/
def stoppedWhileWaiting : List Label :=
  [.start ⟨5, EINPROGRESS⟩, .poll [.connector], .dispatch POLLERR, .callback 0 false, .finishEvent,
    .swap, .runFunctor, .finishFunctors, .stop, .start ⟨6, EINPROGRESS⟩, .poll [.connector],
    .dispatch POLLOUT, .callback 0 false, .finishEvent, .swap]

/-- Stopping while a retry timer is pending, and starting again, passes. -/
theorem alternating_calls_pass_stopped_while_waiting :
    Passes (Runs.run step initial stoppedWhileWaiting) ∧
      (Runs.run step initial stoppedWhileWaiting).isOk = true :=
  ⟨alternating_calls_pass stoppedWhileWaiting (by decide) (by decide +kernel), by decide +kernel⟩

/-- A stop and a start come while the attempt is in progress. -/
def startedWhileConnecting : List Label :=
  [.start ⟨5, EINPROGRESS⟩, .stop, .start ⟨6, EINPROGRESS⟩]

/-- They come in the iteration in which the attempt failed. -/
def startedWhileResetting : List Label :=
  [.start ⟨5, EINPROGRESS⟩, .poll [.connector], .dispatch POLLERR, .callback 0 false, .stop,
    .start ⟨6, EINPROGRESS⟩]

/-- They come, from another timer, while the expired retry timer is about to run. -/
def startedWhileExpiring : List Label :=
  [.start ⟨5, EINPROGRESS⟩, .poll [.connector], .dispatch POLLERR, .callback 0 false, .finishEvent,
    .swap, .runFunctor, .finishFunctors, .poll [.timers], .expire [0], .stop,
    .start ⟨6, EINPROGRESS⟩, .fire ⟨7, EINPROGRESS⟩]

/-- The retry timer expires in the iteration in which the attempt failed. -/
def expiredWhileResetting : List Label :=
  [.start ⟨5, EINPROGRESS⟩, .poll [.connector, .timers], .dispatch POLLERR, .callback 0 false,
    .finishEvent, .expire [0], .fire ⟨6, EINPROGRESS⟩]

/-- A run that ends at an assertion does not pass. -/
theorem not_passes {labels : List Label}
    (failed : (Runs.run step initial labels).map (fun _ => ()) = .error .assertion) :
    ¬ Passes (Runs.run step initial labels) := by
  rw [(Runs.map_failed _ _ _).mp failed]
  intro passes
  cases passes

/-- Calls in turn do not always pass: each of these runs ends at an assertion of
`start_in_loop` or of `connecting`. -/
theorem starting_again_fails :
    (alternate true startedWhileConnecting = true ∧
      ¬ Passes (Runs.run step initial startedWhileConnecting)) ∧
    (alternate true startedWhileResetting = true ∧
      ¬ Passes (Runs.run step initial startedWhileResetting)) ∧
    (alternate true startedWhileExpiring = true ∧
      ¬ Passes (Runs.run step initial startedWhileExpiring)) ∧
    alternate true expiredWhileResetting = true ∧
      ¬ Passes (Runs.run step initial expiredWhileResetting) := by
  refine ⟨⟨by decide, not_passes ?_⟩, ⟨by decide, not_passes ?_⟩, ⟨by decide, not_passes ?_⟩,
    by decide, not_passes ?_⟩
  · decide +kernel
  · decide +kernel
  · decide +kernel
  · decide +kernel

end ConnectorLoop

end ReactorNetwork
