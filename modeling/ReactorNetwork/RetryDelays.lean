import ReactorNetwork.ConnectorLoop
import ReactorNetwork.Runs

/-!
# The delays of a connector's retries

Each `start` and `restart` begins a series of attempts. An attempt fails through
the `errno` of `connect`, a pending socket error, a connection to itself or an
error event, and a failed attempt schedules a retry after `retry_delay_ms_`. The
series records the delays used and, from the inputs alone, how many attempts
failed.

A back-off would lengthen the delay up to the maximum. `retry` takes the minimum
of the delay and the maximum without doubling it first, so the delay stays at its
initial value and every series of two or more failed attempts repeats it.

`start` may be called on the loop thread or elsewhere; elsewhere it sets the flag
and queues `start_in_loop`.
-/

namespace ReactorNetwork.RetryDelays

open Runs Connector ConnectorLoop

/-- The attempts after one `start` or `restart`: how many failed while a
connection was wanted, and the delays of the retries. -/
structure Series where
  restarted : Bool
  failures : Nat
  delays : List Nat
deriving DecidableEq, Repr

/-- The law of a back-off over one series. -/
structure Series.BackOff (series : Series) : Prop where
  ascending : series.delays.Pairwise (· ≤ ·)
  growing : series.delays.IsChain fun earlier later =>
    earlier < kMaxRetryDelayMs → earlier < later
  bounded : ∀ delay ∈ series.delays, delay ≤ kMaxRetryDelayMs
  begins : series.restarted = true → ∀ delay ∈ series.delays.head?, delay = kInitRetryDelayMs

/-- `starts` counts the queued calls of `start_in_loop`. -/
structure State where
  loop : ConnectorLoop.State
  starts : Nat
  past : List Series
  current : Series

/-- A start or stop from another thread, a queued start that runs, or a step of the
loop. -/
inductive Label where
  | startElsewhere
  | runStart (result : ConnectResult)
  | stopElsewhere
  | loop (label : ConnectorLoop.Label)

/-- No series was begun yet. -/
def initial : State where
  loop := ConnectorLoop.initial
  starts := 0
  past := []
  current := ⟨false, 0, []⟩

/-- The second group of errors in `connect`. -/
def refused (result : ConnectResult) : Bool :=
  result.savedErrno ∈ [EAGAIN, EADDRINUSE, EADDRNOTAVAIL, ECONNREFUSED, ENETUNREACH]

/-- The step makes an attempt fail while a connection is wanted. It reads the
state before the step and what the environment supplies. -/
def fails (s : ConnectorLoop.State) : Label → Bool
  | .runStart result => s.connector.connectFlag && refused result
  | .loop (.start result) => refused result
  | .loop (.restart result) => refused result
  | .loop (.fire result) => s.connector.connectFlag && refused result
  | .loop (.callback socketError selfConnect) =>
      match s.phase with
      | .handling (.error :: _) _ => s.connector.connectFlag
      | .handling (.write :: _) _ =>
          s.connector.state = .connecting && s.connector.connectFlag &&
            (socketError ≠ 0 || selfConnect)
      | _ => false
  | _ => false

/-- The series a step begins, with no attempt in it yet. -/
def begun : Label → Option Series
  | .startElsewhere | .loop (.start _) => some ⟨false, 0, []⟩
  | .loop (.restart _) => some ⟨true, 0, []⟩
  | _ => none

/-- The delays among a list of effects. -/
def delays (effects : List ConnectorEffect) : List Nat :=
  effects.filterMap fun
    | .runAfter delayMs => some delayMs
    | _ => none

/-- The loop and the queued starts after a step. -/
def act (s : State) : Label → Outcome (ConnectorLoop.State × Nat)
  | .startElsewhere =>
      pure ({ s.loop with connector := s.loop.connector.start }, s.starts + 1)
  | .runStart result =>
      match s.loop.phase, s.starts with
      | .running _, starts + 1 => do
          let loop ← call s.loop (s.loop.connector.startInLoop result)
          pure (loop, starts)
      | _, _ => .error .notEnabled
  | .stopElsewhere =>
      pure ({ s.loop with connector := s.loop.connector.stop.1 }, s.starts)
  | .loop label => do
      let loop ← ConnectorLoop.step s.loop label
      pure (loop, s.starts)

/-- Add what a step did to the series it belongs to. -/
def Series.extend (series : Series) (failed : Bool) (used : List Nat) : Series :=
  { series with
    failures := if failed then series.failures + 1 else series.failures
    delays := series.delays ++ used }

/-- One step, with the delays that its timers were given. -/
def step (s : State) (label : Label) : Outcome State := do
  let (loop, starts) ← act s label
  let used := delays (loop.effects.drop s.loop.effects.length)
  match begun label with
  | some series => pure ⟨loop, starts, s.past ++ [s.current],
      series.extend (fails s.loop label) used⟩
  | none => pure ⟨loop, starts, s.past, s.current.extend (fails s.loop label) used⟩

section Calls

variable {c after : Connector} {effects : List ConnectorEffect}

/-- A call that keeps the initial delay, and uses it once if an attempt failed. -/
structure Retried (after : Connector) (effects : List ConnectorEffect) (failed : Bool) : Prop where
  delay : after.retryDelayMs = kInitRetryDelayMs
  used : delays effects = if failed then [kInitRetryDelayMs] else []

/-- `retry` keeps the delay, and schedules one timer with it exactly if `connect_` is
set. -/
theorem retry_retried (initial : c.retryDelayMs = kInitRetryDelayMs) (sockFd : Int)
    (earlier : List ConnectorEffect) (quiet : delays earlier = []) :
    Retried (c.retry sockFd).1 (earlier ++ (c.retry sockFd).2) c.connectFlag := by
  have short : min c.retryDelayMs kMaxRetryDelayMs = kInitRetryDelayMs := by
    rw [initial]
    decide
  unfold delays at quiet
  unfold retry
  split
  case isTrue wanted => exact ⟨short, by simp [delays, quiet, initial, wanted]⟩
  case isFalse stopped => exact ⟨initial, by simp [delays, quiet, stopped]⟩

/-- An attempt schedules a retry exactly if it is wanted and refused. -/
theorem startInLoop_retried (initial : c.retryDelayMs = kInitRetryDelayMs)
    (result : ConnectResult) (returned : c.startInLoop result = .ok (after, effects)) :
    Retried after effects (c.connectFlag && refused result) := by
  obtain ⟨_, continued⟩ := (require_bind_ok _ _ _).mp returned
  split at continued
  case isFalse stopped =>
    obtain ⟨rfl, rfl⟩ := Prod.mk.inj ((pure_ok _ _).mp continued)
    exact ⟨initial, by simp [delays, stopped]⟩
  case isTrue wanted =>
    rw [wanted, Bool.true_and]
    unfold connect at continued
    split at continued
    case isTrue begins =>
      obtain ⟨⟨waiting, further⟩, connecting, same⟩ := (bind_ok _ _ _).mp continued
      obtain ⟨rfl, rfl⟩ := Prod.mk.inj ((pure_ok _ _).mp same)
      obtain ⟨_, started⟩ := (require_bind_ok _ _ _).mp connecting
      obtain ⟨rfl, rfl⟩ := Prod.mk.inj ((pure_ok _ _).mp started)
      -- The two groups of errors have no error in common.
      have apart : ∀ errno ∈ [0, EINPROGRESS, EINTR, EISCONN],
          errno ∉ [EAGAIN, EADDRINUSE, EADDRNOTAVAIL, ECONNREFUSED, ENETUNREACH] := by
        decide
      have goes : refused result = false := decide_eq_false (apart result.savedErrno begins)
      exact ⟨initial, by simp [delays, goes]⟩
    case isFalse =>
      split at continued
      case isTrue again =>
        obtain ⟨rfl, rfl⟩ := Prod.mk.inj ((pure_ok _ _).mp continued)
        have failed : refused result = true := by simpa [refused] using again
        have retried := retry_retried initial result.sockFd [.opened result.sockFd] rfl
        rw [wanted] at retried
        rw [failed]
        exact retried
      case isFalse gone =>
        obtain ⟨rfl, rfl⟩ := Prod.mk.inj ((pure_ok _ _).mp continued)
        have dropped : refused result = false := by simpa [refused] using gone
        exact ⟨initial, by simp [delays, dropped]⟩

/-- Removing the channel uses no delay. -/
theorem removeAndResetChannel_quiet {removed : Connector} {sockFd : Int}
    (reset : c.removeAndResetChannel = .ok (removed, effects, sockFd)) :
    removed.retryDelayMs = c.retryDelayMs ∧ removed.connectFlag = c.connectFlag ∧
      delays effects = [] := by
  obtain ⟨channel, _, same⟩ := (bind_ok _ _ _).mp reset
  obtain ⟨rfl, rest⟩ := Prod.mk.inj ((pure_ok _ _).mp same)
  obtain ⟨rfl, _⟩ := Prod.mk.inj rest
  exact ⟨rfl, rfl, rfl⟩

/-- An error schedules a retry exactly if a connection is wanted. -/
theorem handleError_retried (initial : c.retryDelayMs = kInitRetryDelayMs)
    (returned : c.handleError = .ok (after, effects)) : Retried after effects c.connectFlag := by
  obtain ⟨_, continued⟩ := (require_bind_ok _ _ _).mp returned
  obtain ⟨⟨removed, earlier, fd⟩, reset, finished⟩ := (bind_ok _ _ _).mp continued
  obtain ⟨rfl, rfl⟩ := Prod.mk.inj ((pure_ok _ _).mp finished)
  obtain ⟨delay, flag, quiet⟩ := removeAndResetChannel_quiet reset
  rw [← flag]
  exact retry_retried (delay.trans initial) fd earlier quiet

/-- A writable event schedules a retry exactly if it ends the attempt in progress with
an error or a self-connect and a connection is wanted. -/
theorem handleWrite_retried (initial : c.retryDelayMs = kInitRetryDelayMs) (socketError : Nat)
    (selfConnect : Bool)
    (returned : c.handleWrite socketError selfConnect = .ok (after, effects)) :
    Retried after effects
      (c.state = .connecting && c.connectFlag && (socketError ≠ 0 || selfConnect)) := by
  unfold handleWrite at returned
  split at returned
  case isFalse other =>
    obtain ⟨_, same⟩ := (require_bind_ok _ _ _).mp returned
    obtain ⟨rfl, rfl⟩ := Prod.mk.inj ((pure_ok _ _).mp same)
    exact ⟨initial, by simp [delays, other]⟩
  case isTrue connecting =>
    obtain ⟨⟨removed, earlier, fd⟩, reset, continued⟩ := (bind_ok _ _ _).mp returned
    obtain ⟨delay, flag, quiet⟩ := removeAndResetChannel_quiet reset
    simp only at continued
    split at continued
    case isTrue failed =>
      obtain ⟨rfl, rfl⟩ := Prod.mk.inj ((pure_ok _ _).mp continued)
      have ends : (socketError ≠ 0 || selfConnect : Bool) = true := by simpa using failed
      rw [ends, Bool.and_true, decide_eq_true connecting, Bool.true_and, ← flag]
      exact retry_retried (delay.trans initial) fd earlier quiet
    case isFalse passed =>
      have goes : (socketError ≠ 0 || selfConnect : Bool) = false := by simpa using passed
      rw [goes, Bool.and_false]
      unfold delays at quiet
      split at continued
      · obtain ⟨rfl, rfl⟩ := Prod.mk.inj ((pure_ok _ _).mp continued)
        exact ⟨delay.trans initial, by simp [delays, quiet]⟩
      · obtain ⟨rfl, rfl⟩ := Prod.mk.inj ((pure_ok _ _).mp continued)
        exact ⟨delay.trans initial, by simp [delays, quiet]⟩

end Calls

/-- A step keeps the initial delay, and uses it once if it makes an attempt fail. -/
structure Advances (before after : ConnectorLoop.State) (failed : Bool) : Prop where
  delay : after.connector.retryDelayMs = kInitRetryDelayMs
  used : delays (after.effects.drop before.effects.length) =
    if failed then [kInitRetryDelayMs] else []

/-- A step that records no effect. -/
theorem silent_advances {before after : ConnectorLoop.State}
    (delay : after.connector.retryDelayMs = kInitRetryDelayMs)
    (effects : after.effects = before.effects) : Advances before after false := by
  refine ⟨delay, ?_⟩
  rw [effects, List.drop_length]
  rfl

/-- A call's effects are the last of the loop's record, so that what it schedules is
what the step does. -/
theorem perform_advances {before entered : ConnectorLoop.State} {connector : Connector}
    {effects : List ConnectorEffect} {failed : Bool} (same : entered.effects = before.effects)
    (retried : Retried connector effects failed) :
    Advances before (perform entered connector effects) failed := by
  refine ⟨retried.delay, ?_⟩
  have added : (perform entered connector effects).effects = before.effects ++ effects := by
    rw [← same]
    rfl
  rw [added, List.drop_left]
  exact retried.used

/-- The same of a call that may fail. -/
theorem call_advances {before entered after : ConnectorLoop.State}
    {outcome : Outcome (Connector × List ConnectorEffect)} {failed : Bool}
    (taken : call entered outcome = .ok after) (same : entered.effects = before.effects)
    (retried : ∀ connector effects, outcome = .ok (connector, effects) →
      Retried connector effects failed) : Advances before after failed := by
  obtain ⟨⟨connector, effects⟩, returned, performed⟩ := (bind_ok _ _ _).mp taken
  obtain rfl := (pure_ok _ _).mp performed
  exact perform_advances same (retried connector effects returned)

/-- Every step of the loop keeps the initial delay, and uses it once if it makes an
attempt fail. -/
theorem loop_advances {before after : ConnectorLoop.State} (label : ConnectorLoop.Label)
    (initial : before.connector.retryDelayMs = kInitRetryDelayMs)
    (taken : ConnectorLoop.step before label = .ok after) :
    Advances before after (fails before (.loop label)) := by
  cases label
  case start result =>
    refine call_advances taken rfl (fun connector effects returned => ?_)
    exact startInLoop_retried (c := before.connector.start) initial result returned
  case restart result =>
    refine call_advances taken rfl (fun connector effects returned => ?_)
    exact startInLoop_retried (c := { before.connector with
      state := .disconnected
      retryDelayMs := kInitRetryDelayMs
      connectFlag := true }) rfl result returned
  case callback socketError selfConnect =>
    simp only [ConnectorLoop.step] at taken
    split at taken
    case h_1 handling =>
      simp only [fails, handling]
      exact call_advances taken rfl (fun _ _ => handleError_retried initial)
    case h_2 handling =>
      simp only [fails, handling]
      exact call_advances taken rfl
        (fun _ _ => handleWrite_retried initial socketError selfConnect)
    case h_3 => cases taken
  case fire result =>
    simp only [ConnectorLoop.step] at taken
    split at taken
    case h_1 => exact call_advances taken rfl (fun _ _ => startInLoop_retried initial result)
    case h_2 => cases taken
  case stop =>
    obtain rfl := (pure_ok _ _).mp taken
    exact perform_advances rfl ⟨initial, rfl⟩
  -- The turns of the loop do not call the connector.
  all_goals
    cases stepped taken <;> exact silent_advances initial rfl

/-- Every step, of the loop or of another thread. -/
theorem act_advances {before : State} {loop : ConnectorLoop.State} {starts : Nat} (label : Label)
    (initial : before.loop.connector.retryDelayMs = kInitRetryDelayMs)
    (taken : act before label = .ok (loop, starts)) :
    Advances before.loop loop (fails before.loop label) := by
  cases label with
  | startElsewhere =>
    obtain ⟨rfl, _⟩ := Prod.mk.inj ((pure_ok _ _).mp taken)
    exact silent_advances initial rfl
  | stopElsewhere =>
    obtain ⟨rfl, _⟩ := Prod.mk.inj ((pure_ok _ _).mp taken)
    exact silent_advances initial rfl
  | runStart result =>
    simp only [act] at taken
    split at taken
    case h_1 =>
      obtain ⟨after, called, same⟩ := (bind_ok _ _ _).mp taken
      obtain ⟨rfl, _⟩ := Prod.mk.inj ((pure_ok _ _).mp same)
      exact call_advances called rfl (fun _ _ => startInLoop_retried initial result)
    case h_2 => cases taken
  | loop label =>
    obtain ⟨after, stepped, same⟩ := (bind_ok _ _ _).mp taken
    obtain ⟨rfl, _⟩ := Prod.mk.inj ((pure_ok _ _).mp same)
    exact loop_advances label initial stepped

/-- Every retry of the series used the initial delay. -/
def Series.Constant (series : Series) : Prop :=
  series.delays = List.replicate series.failures kInitRetryDelayMs

/-- A series of initial delays stays one by such a step, with one failure for each
delay. -/
theorem extend_constant {series : Series} (constant : series.Constant)
    {before after : ConnectorLoop.State} {failed : Bool} (advances : Advances before after failed) :
    (series.extend failed (delays (after.effects.drop before.effects.length))).Constant := by
  unfold Series.Constant at constant ⊢
  simp only [Series.extend, constant, advances.used]
  cases failed with
  | false => simp
  | true => exact List.replicate_succ'.symm

/-- Proof: the first delay reappears in a second retry, below the maximum. A
series of at most one retry meets every part of the law. -/
theorem constant_backOff {series : Series} (constant : series.Constant) :
    series.BackOff ↔ series.failures ≤ 1 := by
  unfold Series.Constant at constant
  constructor
  · intro backOff
    by_contra more
    obtain ⟨count, exact_⟩ : ∃ count, series.failures = count + 2 :=
      ⟨series.failures - 2, by omega⟩
    have growing := backOff.growing
    rw [constant, exact_, List.replicate_succ, List.replicate_succ, List.isChain_cons_cons] at growing
    exact absurd (growing.1 (by decide)) (Nat.lt_irrefl _)
  · intro few
    have shape : series.delays = [] ∨ series.delays = [kInitRetryDelayMs] := by
      rcases Nat.le_one_iff_eq_zero_or_eq_one.mp few with none | one
      · exact Or.inl (by rw [constant, none]; rfl)
      · exact Or.inr (by rw [constant, one]; rfl)
    rcases shape with empty | single
    · exact ⟨by simp [empty], by simp [empty], by simp [empty], by simp [empty]⟩
    · exact ⟨by simp [single], by simp [single],
        by simp [single, kInitRetryDelayMs, kMaxRetryDelayMs], by simp [single]⟩

/-- The delay never leaves its initial value, and neither did any retry. -/
structure Repeats (s : State) : Prop where
  delay : s.loop.connector.retryDelayMs = kInitRetryDelayMs
  constant : ∀ series ∈ s.past ++ [s.current], series.Constant

/-- Before the first step there is an empty series and the initial delay. -/
theorem initial_repeats : Repeats initial := by
  refine ⟨rfl, ?_⟩
  intro series member
  obtain rfl : series = ⟨false, 0, []⟩ := by simpa [initial] using member
  rfl

/-- A series that begins has no delay yet. -/
theorem begun_constant {label : Label} {series : Series} (begins : begun label = some series) :
    series.Constant := by
  unfold begun at begins
  split at begins
  · obtain rfl := Option.some.inj begins
    rfl
  · obtain rfl := Option.some.inj begins
    rfl
  · obtain rfl := Option.some.inj begins
    rfl
  · cases begins

/-- Every step keeps all series, past and current, at the initial delay. -/
theorem step_repeats (before : State) (label : Label) (after : State) (repeats : Repeats before)
    (taken : step before label = .ok after) : Repeats after := by
  obtain ⟨⟨loop, starts⟩, acted, recorded⟩ := (bind_ok _ _ _).mp taken
  have advances := act_advances label repeats.delay acted
  have earlier : ∀ series ∈ before.past, series.Constant := fun series member =>
    repeats.constant series (by simp [member])
  have current : before.current.Constant := repeats.constant _ (by simp)
  simp only at recorded
  split at recorded
  case h_1 series begins =>
    obtain rfl := (pure_ok _ _).mp recorded
    refine ⟨advances.delay, ?_⟩
    intro other member
    simp only [List.mem_append, List.mem_singleton] at member
    rcases member with (old | rfl) | rfl
    · exact earlier other old
    · exact current
    · exact extend_constant (begun_constant begins) advances
  case h_2 =>
    obtain rfl := (pure_ok _ _).mp recorded
    refine ⟨advances.delay, ?_⟩
    intro other member
    simp only [List.mem_append, List.mem_singleton] at member
    rcases member with old | rfl
    · exact earlier other old
    · exact extend_constant current advances

/-- In every run, a series of attempts backs off exactly when at most one of them
failed. -/
theorem series_backs_off_iff (labels : List Label) (s : State)
    (reached : run step initial labels = .ok s) (series : Series)
    (member : series ∈ s.past ++ [s.current]) : series.BackOff ↔ series.failures ≤ 1 := by
  have repeats : Repeats s :=
    Runs.invariant step Repeats step_repeats labels initial s initial_repeats reached
  exact constant_backOff (repeats.constant series member)

/-- A refused attempt, its retry timer, and `connect` refused again. -/
def refusedTwice : List Label :=
  [.loop (.start ⟨7, ECONNREFUSED⟩), .loop (.poll [.timers]), .loop (.expire [0]),
    .loop (.fire ⟨7, ECONNREFUSED⟩)]

/-- A series with one failure backs off, for there is no second delay to compare. -/
theorem series_backs_off_refused_once :
    ∃ s, run step initial (refusedTwice.take 3) = .ok s ∧ s.current.failures = 1 ∧
      s.current.BackOff := by
  have computed : (run step initial (refusedTwice.take 3)).map (fun s => s.current.failures) =
      .ok 1 := by
    decide +kernel
  obtain ⟨s, reached, one⟩ := (map_returned _ _ _).mp computed
  refine ⟨s, reached, one, ?_⟩
  exact (series_backs_off_iff _ s reached s.current (by simp)).mpr (Nat.le_of_eq one)

/-- Two retries with the same delay, far below the maximum. -/
theorem delay_repeated :
    ∃ s, run step initial refusedTwice = .ok s ∧ s.current = ⟨false, 2, [500, 500]⟩ ∧
      ¬ s.current.BackOff := by
  have computed : (run step initial refusedTwice).map (fun s => s.current) =
      .ok ⟨false, 2, [500, 500]⟩ := by
    decide +kernel
  obtain ⟨s, reached, recorded⟩ := (map_returned _ _ _).mp computed
  refine ⟨s, reached, recorded, ?_⟩
  intro backOff
  have growing := backOff.growing
  rw [recorded, List.isChain_cons_cons] at growing
  exact absurd (growing.1 (by decide)) (Nat.lt_irrefl _)

end ReactorNetwork.RetryDelays
