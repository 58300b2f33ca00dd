import ReactorNetwork.Machine

/-!
# One logger and its two writers

Messages are collected in a container under a mutex. The background thread swaps
the container for an empty one and appends what it got to the file, all under the
mutex; the destructor stops the background loop, and then swaps and appends
without it. Any thread may log while the mutex is free, until the destructor
begins. A message is an arbitrary value; a line of the file is a message.

The file is at all times a prefix of what was logged. The two writers never hold
messages at once: while the background thread holds some, the mutex keeps the
container empty. But the destructor does not wait for the append of the other
writer, and the process may end at its return. What the background thread has
taken out by then is missing.

After its destruction the logger cannot be used; a background step that would is
the fault of a refused access. Other loggers of the same writer are left out, and
so are failures to open or write the file.
-/

namespace ReactorNetwork.Logger

open Runs

variable {Message : Type}

/-- Where the background thread is in `run`. `trash` is the local vector of
`write`; the mutex is held while there is one, and right before. -/
inductive Writer (Message : Type) where
  | absent
  | atTest
  | sleeping
  | locked
  | writing (trash : List Message)
  | finished
deriving DecidableEq, Repr

/-- Where `~Logger` is; `content` is the file at its return. -/
inductive Destructor (Message : Type) where
  | unstarted
  | stopped
  | writing (trash : List Message)
  | returned (content : List Message)
deriving DecidableEq, Repr

/-- `logged` records every message in logging order. -/
structure State (Message : Type) where
  container : List Message
  file : List Message
  logged : List Message
  running : Bool
  writer : Writer Message
  destructor : Destructor Message
  aborted : Bool
deriving DecidableEq, Repr

/-- A step of a thread that logs, of the background thread, or of the destructor. -/
inductive Label (Message : Type) where
  | log (message : Message)
  | initLog
  | testRunning
  | lock
  | swap
  | append
  | stopRun
  | destroySwap
  | destroyAppend
deriving DecidableEq, Repr

/-- The constructor truncates the file. -/
def initial : State Message where
  container := []
  file := []
  logged := []
  running := true
  writer := .absent
  destructor := .unstarted
  aborted := false

/-- What the background thread has taken out and not yet written. -/
def Writer.trash : Writer Message → List Message
  | .writing trash => trash
  | _ => []

/-- The background thread holds `collect_mutex_`. -/
def Writer.holds : Writer Message → Bool
  | .locked | .writing _ => true
  | _ => false

/-- What the destructor has swapped out and not yet written. -/
def Destructor.trash : Destructor Message → List Message
  | .writing trash => trash
  | _ => []

/-- The destructor has taken the container. -/
def Destructor.swapped : Destructor Message → Bool
  | .writing _ | .returned _ => true
  | _ => false

/-- The background thread uses the logger. -/
def touched (s : State Message) : Outcome Unit :=
  match s.destructor with
  | .returned _ => .error .outOfBounds
  | _ => pure ()

/-- One step of a logging thread, of the background thread or of the destructor. A
logger of level 6 or more aborts the process after a write. -/
def step (level : Nat) (s : State Message) (label : Label Message) : Outcome (State Message) := do
  enabled (s.aborted = false)
  match label, s.writer, s.destructor with
  | .log message, writer, .unstarted => do
      enabled (writer.holds = false)
      pure { s with container := s.container ++ [message], logged := s.logged ++ [message] }
  | .initLog, .absent, _ => pure { s with writer := .atTest }
  | .testRunning, .atTest, _ =>
      pure { s with writer := if s.running then .sleeping else .finished }
  | .lock, .sleeping, _ => do
      touched s
      pure { s with writer := if s.container.isEmpty then .atTest else .locked }
  | .swap, .locked, _ => do
      touched s
      pure { s with writer := .writing s.container, container := [] }
  | .append, .writing trash, _ => do
      touched s
      pure { s with
        file := s.file ++ trash
        writer := .atTest
        aborted := decide (6 ≤ level) }
  | .stopRun, _, .unstarted => pure { s with running := false, destructor := .stopped }
  | .destroySwap, _, .stopped =>
      pure { s with destructor := .writing s.container, container := [] }
  | .destroyAppend, _, .writing trash =>
      pure { s with file := s.file ++ trash, destructor := .returned (s.file ++ trash) }
  | _, _, _ => .error .notEnabled

/-- No message is lost, duplicated or reordered. -/
def LogKept (s : State Message) : Prop :=
  s.file <+: s.logged ∧ ∀ content, s.destructor = .returned content → content = s.logged

/-- At the last append of the destructor the background thread is not between its
swap of a nonempty container and its own append. -/
def Collected (s : State Message) : Label Message → Prop
  | .destroyAppend => s.writer.trash = []
  | _ => True

instance [DecidableEq Message] (s : State Message) (label : Label Message) :
    Decidable (Collected s label) :=
  match label with
  | .destroyAppend => inferInstanceAs (Decidable (_ = _))
  | .log _ | .initLog | .testRunning | .lock | .swap | .append | .stopRun | .destroySwap =>
      isTrue trivial

/-- What each step finds and leaves. -/
inductive Stepped (s : State Message) : Label Message → State Message → Prop where
  | log (message : Message) (unstarted : s.destructor = .unstarted)
      (free : s.writer.holds = false) :
      Stepped s (.log message)
        { s with container := s.container ++ [message], logged := s.logged ++ [message] }
  | initLog (absent : s.writer = .absent) : Stepped s .initLog { s with writer := .atTest }
  | testRunning (writer : Writer Message) (testing : s.writer = .atTest)
      (empty : writer.trash = []) (free : writer.holds = false) :
      Stepped s .testRunning { s with writer := writer }
  | lock (writer : Writer Message) (sleeping : s.writer = .sleeping) (empty : writer.trash = []) :
      Stepped s .lock { s with writer := writer }
  | swap (locked : s.writer = .locked) (alive : ∀ content, s.destructor ≠ .returned content) :
      Stepped s .swap { s with writer := .writing s.container, container := [] }
  | append (trash : List Message) (aborted : Bool) (writing : s.writer = .writing trash)
      (alive : ∀ content, s.destructor ≠ .returned content) :
      Stepped s .append { s with file := s.file ++ trash, writer := .atTest, aborted := aborted }
  | stopRun (unstarted : s.destructor = .unstarted) :
      Stepped s .stopRun { s with running := false, destructor := .stopped }
  | destroySwap (stopped : s.destructor = .stopped) :
      Stepped s .destroySwap { s with destructor := .writing s.container, container := [] }
  | destroyAppend (trash : List Message) (writing : s.destructor = .writing trash) :
      Stepped s .destroyAppend
        { s with file := s.file ++ trash, destructor := .returned (s.file ++ trash) }

section Laws

variable {level : Nat} {s t : State Message}

/-- The background thread may use the logger as long as its destructor has not
returned. -/
theorem touched_ok (result : Unit) :
    touched s = .ok result ↔ ∀ content, s.destructor ≠ .returned content := by
  unfold touched
  split
  case h_1 content returned => simp [returned]
  case h_2 other =>
    simp only [pure_ok, ne_eq]
    exact ⟨fun _ => other, fun _ => trivial⟩

/-- A step that returns is one of the cases above. -/
theorem stepped {label : Label Message} (taken : step level s label = .ok t) :
    Stepped s label t := by
  obtain ⟨_, _, continued⟩ := (bind_ok _ _ _).mp taken
  clear taken
  split at continued
  case h_1 unstarted =>
    obtain ⟨_, free, same⟩ := (bind_ok _ _ _).mp continued
    obtain rfl := (pure_ok _ _).mp same
    exact .log _ unstarted ((enabled_ok _ _).mp free)
  case h_2 absent =>
    obtain rfl := (pure_ok _ _).mp continued
    exact .initLog absent
  case h_3 testing =>
    obtain rfl := (pure_ok _ _).mp continued
    refine .testRunning _ testing ?_ ?_
    · split <;> rfl
    · split <;> rfl
  case h_4 sleeping =>
    obtain ⟨_, _, same⟩ := (bind_ok _ _ _).mp continued
    obtain rfl := (pure_ok _ _).mp same
    refine .lock _ sleeping ?_
    split <;> rfl
  case h_5 locked =>
    obtain ⟨_, alive, same⟩ := (bind_ok _ _ _).mp continued
    obtain rfl := (pure_ok _ _).mp same
    exact .swap locked ((touched_ok _).mp alive)
  case h_6 trash writing =>
    obtain ⟨_, alive, same⟩ := (bind_ok _ _ _).mp continued
    obtain rfl := (pure_ok _ _).mp same
    exact .append trash _ writing ((touched_ok _).mp alive)
  case h_7 unstarted =>
    obtain rfl := (pure_ok _ _).mp continued
    exact .stopRun unstarted
  case h_8 stopped =>
    obtain rfl := (pure_ok _ _).mp continued
    exact .destroySwap stopped
  case h_9 trash writing =>
    obtain rfl := (pure_ok _ _).mp continued
    exact .destroyAppend trash writing
  case h_10 => cases continued

/-- Every message is in the file, with one of the writers or in the container, in
this order. While the background thread has messages there are none behind them,
and once the destructor has swapped the container stays empty. -/
structure Accounted (s : State Message) : Prop where
  conserved : s.file ++ s.writer.trash ++ s.destructor.trash ++ s.container = s.logged
  alone : s.writer.trash ≠ [] → s.destructor.trash = [] ∧ s.container = []
  emptied : s.destructor.swapped = true → s.container = []
  closed : ∀ content, s.destructor = .returned content → content = s.file

/-- Before the first message everything is empty. -/
theorem initial_accounted : Accounted (initial : State Message) where
  conserved := rfl
  alone := fun taken => absurd rfl taken
  emptied := fun _ => rfl
  closed := by
    intro content returned
    cases returned

/-- Every step keeps the account: a message moves from the container to one of the
writers and on into the file, in logging order. -/
theorem step_accounted (s : State Message) (label : Label Message) (t : State Message)
    (accounted : Accounted s) (taken : step level s label = .ok t) : Accounted t := by
  obtain ⟨conserved, alone, emptied, closed⟩ := accounted
  cases stepped taken with
  | log message unstarted free =>
    have nothing : s.writer.trash = [] := by
      cases writer : s.writer with
      | writing trash => simp [writer, Writer.holds] at free
      | absent | atTest | sleeping | locked | finished => rfl
    refine ⟨?_, ?_, ?_, ?_⟩
    · simp only [← List.append_assoc, conserved]
    · exact fun some_ => absurd nothing some_
    · simp [unstarted, Destructor.swapped]
    · simp [unstarted]
  | initLog absent =>
    simp only [absent, Writer.trash] at conserved
    exact ⟨by simpa [Writer.trash] using conserved, fun some_ => absurd rfl some_, emptied, closed⟩
  | testRunning writer testing empty free =>
    simp only [testing, Writer.trash] at conserved
    exact ⟨by simpa [empty] using conserved, fun some_ => absurd empty some_, emptied, closed⟩
  | lock writer sleeping empty =>
    simp only [sleeping, Writer.trash] at conserved
    exact ⟨by simpa [empty] using conserved, fun some_ => absurd empty some_, emptied, closed⟩
  | swap locked alive =>
    simp only [locked, Writer.trash] at conserved
    -- If the destructor has already swapped there is nothing left to take.
    have behind : s.container ≠ [] → s.destructor.trash = [] := by
      intro some_
      cases destructor : s.destructor with
      | writing trash => exact absurd (emptied (by rw [destructor]; rfl)) some_
      | unstarted | stopped | returned => rfl
    refine ⟨?_, fun some_ => ⟨behind some_, rfl⟩, fun _ => rfl, closed⟩
    by_cases some_ : s.container = []
    · simpa [Writer.trash, some_] using conserved
    · simpa [Writer.trash, behind some_] using conserved
  | append trash aborted writing alive =>
    simp only [writing, Writer.trash] at conserved
    refine ⟨?_, fun some_ => absurd rfl some_, emptied, ?_⟩
    · simpa [Writer.trash, List.append_assoc] using conserved
    · exact fun content returned => absurd returned (alive content)
  | stopRun unstarted =>
    simp only [unstarted, Destructor.trash] at conserved
    refine ⟨by simpa [Destructor.trash] using conserved, fun some_ => ⟨rfl, (alone some_).2⟩,
      ?_, ?_⟩
    · simp [Destructor.swapped]
    · simp
  | destroySwap stopped =>
    simp only [stopped, Destructor.trash] at conserved
    refine ⟨?_, ?_, fun _ => rfl, by simp⟩
    · simpa [Destructor.trash] using conserved
    · exact fun some_ => ⟨(alone some_).2, rfl⟩
  | destroyAppend trash writing =>
    have empty := emptied (by rw [writing]; rfl)
    simp only [writing, Destructor.trash] at conserved alone
    refine ⟨?_, fun _ => ⟨rfl, empty⟩, fun _ => empty, ?_⟩
    · -- The messages the destructor writes are behind none of the other writer.
      by_cases nothing : s.writer.trash = []
      · simpa [Destructor.trash, nothing, empty] using conserved
      · have none := (alone nothing).1
        simpa [Destructor.trash, none, empty] using conserved
    · intro content returned
      exact (Destructor.returned.inj returned).symm

/-- A destroyed logger is complete exactly when the background thread holds
nothing. -/
theorem accounted_logKept (accounted : Accounted s) :
    LogKept s ↔ ∀ content, s.destructor = .returned content → s.writer.trash = [] := by
  obtain ⟨conserved, _, emptied, closed⟩ := accounted
  have front : s.file <+: s.logged := by
    rw [← conserved, List.append_assoc, List.append_assoc]
    exact List.prefix_append _ _
  constructor
  · intro kept content returned
    have whole := (closed content returned).symm.trans (kept.2 content returned)
    rw [returned] at conserved
    rw [emptied (by rw [returned]; rfl)] at conserved
    simp only [Destructor.trash, List.append_nil] at conserved
    rw [whole] at conserved
    exact List.append_right_eq_self.mp conserved
  · intro nothing
    refine ⟨front, ?_⟩
    intro content returned
    rw [closed content returned, ← conserved, nothing content returned,
      emptied (by rw [returned]; rfl), returned]
    simp [Destructor.trash]

/-- A collected step leaves nothing with the background thread at the destructor's
return. -/
theorem step_collected (s : State Message) (label : Label Message) (t : State Message)
    (before : ∀ content, s.destructor = .returned content → s.writer.trash = [])
    (collected : Collected s label) (taken : step level s label = .ok t) (content : List Message)
    (returned : t.destructor = .returned content) : t.writer.trash = [] := by
  cases stepped taken with
  | log => exact before content returned
  | initLog => rfl
  | testRunning _ _ empty => exact empty
  | lock _ _ empty => exact empty
  | swap locked alive => exact absurd returned (alive content)
  | append => rfl
  | stopRun => cases returned
  | destroySwap => cases returned
  | destroyAppend => exact collected

/-- What the background thread holds at the destructor's return it holds ever
after. -/
theorem step_uncollected (s : State Message) (label : Label Message) (t : State Message)
    (before : (∃ content, s.destructor = .returned content) ∧ s.writer.trash ≠ [])
    (taken : step level s label = .ok t) :
    (∃ content, t.destructor = .returned content) ∧ t.writer.trash ≠ [] := by
  obtain ⟨⟨content, returned⟩, held⟩ := before
  cases stepped taken with
  | log => exact ⟨⟨content, returned⟩, held⟩
  | initLog absent => simp [absent, Writer.trash] at held
  | testRunning _ testing => simp [testing, Writer.trash] at held
  | lock _ sleeping => simp [sleeping, Writer.trash] at held
  | swap _ alive => exact absurd returned (alive content)
  | append _ _ _ alive => exact absurd returned (alive content)
  | stopRun unstarted => cases returned.symm.trans unstarted
  | destroySwap stopped => cases returned.symm.trans stopped
  | destroyAppend _ writing => cases returned.symm.trans writing

/-- In every run no message is lost, duplicated or reordered, and the file is
complete when `~Logger` returns, exactly when the background thread is not between
its swap of a nonempty container and its append at the last append of the
destructor.

Proof: the account makes completeness a matter of what the background thread
holds at the return. It can neither take nor write anything after that. -/
theorem log_kept_iff (level : Nat) (labels : List (Label Message)) (s : State Message)
    (reached : run (step level) initial labels = .ok s) :
    LogKept s ↔ Along (step level) Collected initial labels := by
  have accounted : Accounted s :=
    Runs.invariant (step level) Accounted step_accounted labels initial s initial_accounted reached
  rw [accounted_logKept accounted]
  constructor
  · intro nothing
    by_contra violated
    obtain ⟨before, label, after, middle, next, _, _, unmet, taken, continued⟩ :=
      not_along (step level) Collected labels initial s reached violated
    have lost : (∃ content, next.destructor = .returned content) ∧ next.writer.trash ≠ [] := by
      cases stepped taken with
      | destroyAppend trash writing => exact ⟨⟨_, rfl⟩, unmet⟩
      | log | initLog | testRunning | lock | swap | append | stopRun | destroySwap =>
        exact absurd trivial unmet
    obtain ⟨⟨content, returned⟩, held⟩ :=
      Runs.invariant (step level) _ step_uncollected after next s lost continued
    exact held (nothing content returned)
  · intro along
    exact guarded_invariant (step level) Collected _ step_collected labels initial s
      (fun content returned => by cases returned) along reached

end Laws

/-- One message, written by the destructor while the background thread sleeps. -/
def destroyedAsleep : List (Label Nat) :=
  [.initLog, .testRunning, .log 5, .stopRun, .destroySwap, .destroyAppend]

/-- The destructor writes what the sleeping background thread has left. -/
theorem log_kept_asleep :
    ∃ s, run (step 3) initial destroyedAsleep = .ok s ∧ s.destructor = .returned [5] ∧
      LogKept s := by
  have computed : (run (step 3) initial destroyedAsleep).map State.destructor =
      .ok (.returned [5]) := by
    decide +kernel
  obtain ⟨s, reached, returned⟩ := (map_returned _ _ _).mp computed
  refine ⟨s, reached, returned, ?_⟩
  exact (log_kept_iff 3 destroyedAsleep s reached).mpr (by decide +kernel)

/-- The destructor comes between the swap and the append of the background thread,
and returns with an empty file. -/
def destroyedBetween : List (Label Nat) :=
  [.initLog, .testRunning, .log 5, .lock, .swap, .stopRun, .destroySwap, .destroyAppend]

/-- What the background thread has swapped out and not yet written is missing in the
file when the destructor returns. -/
theorem message_lost :
    ∃ s, run (step 3) initial destroyedBetween = .ok s ∧ s.logged = [5] ∧
      s.destructor = .returned [] ∧ ¬ LogKept s := by
  have computed : (run (step 3) initial destroyedBetween).map
      (fun s => (s.logged, s.destructor)) = .ok ([5], .returned []) := by
    decide +kernel
  obtain ⟨s, reached, computed⟩ := (map_returned _ _ _).mp computed
  obtain ⟨logged, returned⟩ := Prod.mk.inj computed
  refine ⟨s, reached, logged, returned, ?_⟩
  intro kept
  have whole := kept.2 [] returned
  rw [logged] at whole
  cases whole

end ReactorNetwork.Logger
