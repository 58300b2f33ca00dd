import ReactorNetwork.Logger

/-!
# One writer and its loggers

The background thread of `LogWritter::run` goes through the registered loggers in
the order of their registration, round after round with a pause between. It holds
one logger's mutex while it visits that logger: it tests the container, appends what
it holds to the logger's file, and aborts the process if the logger is fatal. Other
threads log to any logger whose mutex is free, also to those already visited in this
round.

Beside each logger stand the number of lines logged to it when the current round
began and when the one before it began. The runs end before the first logger is
destroyed; until then `running_` is true. Registration is over when the thread
starts.
-/

namespace ReactorNetwork.LogWritter

open Runs

variable {Message : Type}

/-- One registered logger. `logged` records every line in logging order, `known` and
`settled` count those of them from before the current and the last round. -/
structure Member (Message : Type) where
  level : Nat
  container : List Message
  file : List Message
  logged : List Message
  known : Nat
  settled : Nat

/-- Where the background thread is. A logger's mutex is held while it is being
written. -/
inductive Phase where
  | absent
  | atTest
  | sleeping
  | visiting (index : Nat)
  | writing (index : Nat)
  | aborted (index : Nat)
deriving DecidableEq, Repr

/-- The process has not been aborted. -/
def Phase.alive : Phase → Bool
  | .aborted _ => false
  | _ => true

/-- All loggers and the background thread. -/
structure State (Message : Type) where
  loggers : Nat → Member Message
  count : Nat
  phase : Phase

/-- A step of a thread that logs, or of the background thread. -/
inductive Label (Message : Type) where
  | log (index : Nat) (message : Message)
  | initLog
  | testRunning
  | wake
  | visit
  | write

/-- The levels of the eight global loggers in the order of their registration. -/
def registered : List Nat := [1, 2, 3, 4, 5, 6, 5, 6]

/-- The loggers as they are registered, with nothing logged. -/
def initial (levels : List Nat) : State Message where
  loggers := fun index => ⟨levels.getD index 0, [], [], [], 0, 0⟩
  count := levels.length
  phase := .absent

/-- The loggers with one of them changed. -/
def setLogger (s : State Message) (index : Nat) (m : Member Message) : State Message :=
  { s with loggers := fun other => if other = index then m else s.loggers other }

/-- The logger that is set is the one found at its index. -/
@[simp] theorem setLogger_same (s : State Message) (index : Nat) (m : Member Message) :
    (setLogger s index m).loggers index = m := by
  simp [setLogger]

/-- The others stay. -/
theorem setLogger_other (s : State Message) {index other : Nat} (m : Member Message)
    (different : other ≠ index) : (setLogger s index m).loggers other = s.loggers other := by
  simp [setLogger, different]

/-- `operator<<`. -/
def Member.collect (m : Member Message) (message : Message) : Member Message :=
  { m with container := m.container ++ [message], logged := m.logged ++ [message] }

/-- `write`: the container is swapped for an empty one and appended to the file. -/
def Member.write (m : Member Message) : Member Message :=
  { m with container := [], file := m.file ++ m.container }

/-- The beginning of a round, for one logger. -/
def Member.begin (m : Member Message) : Member Message :=
  { m with settled := m.known, known := m.logged.length }

/-- A logger of this level aborts the process after a write. -/
def Member.fatal (m : Member Message) : Bool := decide (6 ≤ m.level)

/-- One step. A thread that logs waits for the mutex while the logger is being
written. -/
def step (s : State Message) (label : Label Message) : Outcome (State Message) :=
  match label, s.phase with
  | .log index message, phase => do
      enabled (index < s.count ∧ phase ≠ .writing index ∧ phase.alive = true)
      pure (setLogger s index ((s.loggers index).collect message))
  | .initLog, .absent => pure { s with phase := .atTest }
  | .testRunning, .atTest => pure { s with phase := .sleeping }
  | .wake, .sleeping =>
      pure { s with phase := .visiting 0, loggers := fun index => (s.loggers index).begin }
  | .visit, .visiting index =>
      if index < s.count then
        if (s.loggers index).container.isEmpty then
          pure { s with phase := .visiting (index + 1) }
        else pure { s with phase := .writing index }
      else pure { s with phase := .atTest }
  | .write, .writing index =>
      pure { setLogger s index (s.loggers index).write with
        phase := if (s.loggers index).fatal then .aborted index else .visiting (index + 1) }
  | _, _ => .error .notEnabled

/-- What each step finds and leaves. -/
inductive Stepped (s : State Message) : Label Message → State Message → Prop where
  | log (index : Nat) (message : Message) (member : index < s.count)
      (free : s.phase ≠ .writing index) (alive : s.phase.alive = true) :
      Stepped s (.log index message) (setLogger s index ((s.loggers index).collect message))
  | initLog (absent : s.phase = .absent) : Stepped s .initLog { s with phase := .atTest }
  | testRunning (testing : s.phase = .atTest) :
      Stepped s .testRunning { s with phase := .sleeping }
  | wake (sleeping : s.phase = .sleeping) :
      Stepped s .wake
        { s with phase := .visiting 0, loggers := fun index => (s.loggers index).begin }
  | skip (index : Nat) (visiting : s.phase = .visiting index) (member : index < s.count)
      (empty : (s.loggers index).container = []) :
      Stepped s .visit { s with phase := .visiting (index + 1) }
  | found (index : Nat) (visiting : s.phase = .visiting index) (member : index < s.count)
      (some_ : (s.loggers index).container ≠ []) :
      Stepped s .visit { s with phase := .writing index }
  | finish (index : Nat) (visiting : s.phase = .visiting index) (behind : s.count ≤ index) :
      Stepped s .visit { s with phase := .atTest }
  | write (index : Nat) (writing : s.phase = .writing index) :
      Stepped s .write { setLogger s index (s.loggers index).write with
        phase := if (s.loggers index).fatal then .aborted index else .visiting (index + 1) }

section Laws

variable {s t : State Message}

/-- A step that returns is one of these. -/
theorem stepped {label : Label Message} (taken : step s label = .ok t) : Stepped s label t := by
  unfold step at taken
  split at taken
  case h_1 _ index message =>
    obtain ⟨_, free, same⟩ := (bind_ok _ _ _).mp taken
    obtain rfl := (pure_ok _ _).mp same
    obtain ⟨member, unlocked, alive⟩ := (enabled_ok _ _).mp free
    exact .log index message member unlocked alive
  case h_2 absent =>
    obtain rfl := (pure_ok _ _).mp taken
    exact .initLog absent
  case h_3 testing =>
    obtain rfl := (pure_ok _ _).mp taken
    exact .testRunning testing
  case h_4 sleeping =>
    obtain rfl := (pure_ok _ _).mp taken
    exact .wake sleeping
  case h_5 index visiting =>
    split at taken
    case isTrue member =>
      split at taken
      case isTrue empty =>
        obtain rfl := (pure_ok _ _).mp taken
        exact .skip index visiting member (List.isEmpty_iff.mp empty)
      case isFalse some_ =>
        obtain rfl := (pure_ok _ _).mp taken
        exact .found index visiting member (fun empty => some_ (List.isEmpty_iff.mpr empty))
    case isFalse behind =>
      obtain rfl := (pure_ok _ _).mp taken
      exact .finish index visiting (Nat.le_of_not_lt behind)
  case h_6 index writing =>
    obtain rfl := (pure_ok _ _).mp taken
    exact .write index writing
  case h_7 => cases taken

/-- The background thread has been at this logger in the current round, or the round
is over. -/
def Phase.passed (phase : Phase) (index : Nat) : Prop :=
  match phase with
  | .visiting current => index < current
  | .writing current => index < current
  | .aborted last => index ≤ last
  | _ => True

/-- What holds of each logger. Its lines are in the file or in the container. Those
from before the last round are in the file, and once it has been visited those from
before this round too. A fatal logger has written only if it has aborted the process,
and is being written only with something to write. -/
structure Kept (phase : Phase) (index : Nat) (m : Member Message) : Prop where
  conserved : m.file ++ m.container = m.logged
  older : m.settled ≤ m.known ∧ m.known ≤ m.logged.length
  settled : m.settled ≤ m.file.length
  visited : phase.passed index → m.known ≤ m.file.length
  unwritten : m.fatal = true → phase ≠ .aborted index → m.file = []
  nonempty : phase = .writing index → m.container ≠ []
  aborted : phase = .aborted index → m.fatal = true ∧ m.container = [] ∧ m.logged ≠ []

/-- Every registered logger is kept, and only registered loggers are written. -/
structure Sound (s : State Message) : Prop where
  kept : ∀ index < s.count, Kept s.phase index (s.loggers index)
  inside : ∀ index, s.phase = .writing index ∨ s.phase = .aborted index → index < s.count

/-- Before the first message every logger is empty. -/
theorem initial_sound (levels : List Nat) : Sound (initial levels : State Message) where
  kept := by
    intro index _
    refine ⟨rfl, ⟨Nat.le_refl _, Nat.le_refl _⟩, Nat.le_refl _, fun _ => Nat.le_refl _,
      fun _ _ => rfl, ?_, ?_⟩
    · simp [initial]
    · simp [initial]
  inside := by simp [initial]

/-- A step of the background thread that does not touch the logger. -/
theorem kept_phase {phase next : Phase} {index : Nat} {m : Member Message}
    (kept : Kept phase index m) (before : phase.alive = true)
    (passed : next.passed index → m.known ≤ m.file.length)
    (writing : next = .writing index → m.container ≠ []) (alive : next ≠ .aborted index) :
    Kept next index m where
  conserved := kept.conserved
  older := kept.older
  settled := kept.settled
  visited := passed
  unwritten := by
    intro fatal _
    apply kept.unwritten fatal
    rintro rfl
    cases before
  nonempty := writing
  aborted := fun same => absurd same alive

/-- Logging adds a line behind all others, and only while the mutex is free. -/
theorem kept_collect {phase : Phase} {index : Nat} {m : Member Message} (message : Message)
    (kept : Kept phase index m) (free : phase ≠ .writing index) (alive : phase.alive = true) :
    Kept phase index (m.collect message) where
  conserved := by
    rw [Member.collect, ← kept.conserved]
    simp
  older := ⟨kept.older.1, Nat.le_trans kept.older.2 (by simp [Member.collect])⟩
  settled := kept.settled
  visited := kept.visited
  unwritten := kept.unwritten
  nonempty := fun writing => absurd writing free
  aborted := by
    rintro rfl
    cases alive

/-- A round begins when every logger has been visited. -/
theorem kept_begin {index : Nat} {m : Member Message} (kept : Kept .sleeping index m) :
    Kept (.visiting 0) index m.begin where
  conserved := kept.conserved
  older := ⟨kept.older.2, Nat.le_refl _⟩
  settled := kept.visited trivial
  visited := by simp [Phase.passed]
  unwritten := fun fatal _ => kept.unwritten fatal (by simp)
  nonempty := by simp
  aborted := by simp

/-- A write empties the container behind everything logged so far. -/
theorem kept_write {index : Nat} {m : Member Message} (kept : Kept (.writing index) index m) :
    Kept (if m.fatal then .aborted index else .visiting (index + 1)) index m.write where
  conserved := by
    rw [Member.write, List.append_nil]
    exact kept.conserved
  older := kept.older
  settled := by
    have settled := kept.settled
    simp only [Member.write, List.length_append]
    omega
  visited := by
    intro _
    simp only [Member.write]
    rw [kept.conserved]
    exact kept.older.2
  unwritten := by
    intro fatal alive
    have fatal : m.fatal = true := fatal
    rw [if_pos fatal] at alive
    exact absurd rfl alive
  nonempty := by
    split <;> simp
  aborted := by
    split
    case isTrue fatal =>
      intro _
      refine ⟨fatal, rfl, ?_⟩
      intro nothing
      have empty : m.file ++ m.container = [] := kept.conserved.trans nothing
      exact kept.nonempty rfl (List.append_eq_nil_iff.mp empty).2
    case isFalse => simp

/-- Every step keeps what holds of each registered logger. -/
theorem step_kept {label : Label Message} (sound : Sound s) (taken : step s label = .ok t)
    (index : Nat) (member : index < t.count) : Kept t.phase index (t.loggers index) := by
  cases stepped taken with
  | log target message _ free alive =>
    have kept := sound.kept index member
    by_cases here : index = target
    · subst here
      rw [setLogger_same]
      exact kept_collect message kept free alive
    · rw [setLogger_other _ _ here]
      exact kept
  | initLog absent =>
    have kept := sound.kept index member
    rw [absent] at kept
    exact kept_phase kept rfl (fun _ => kept.visited trivial) (by simp) (by simp)
  | testRunning testing =>
    have kept := sound.kept index member
    rw [testing] at kept
    exact kept_phase kept rfl (fun _ => kept.visited trivial) (by simp) (by simp)
  | wake sleeping =>
    have kept := sound.kept index member
    rw [sleeping] at kept
    exact kept_begin kept
  | skip current visiting _ empty =>
    have kept := sound.kept index member
    rw [visiting] at kept
    refine kept_phase kept rfl ?_ (by simp) (by simp)
    intro passed
    by_cases here : index = current
    · subst here
      have whole := kept.conserved
      rw [empty, List.append_nil] at whole
      rw [whole]
      exact kept.older.2
    · exact kept.visited (Nat.lt_of_le_of_ne (Nat.le_of_lt_succ passed) here)
  | found current visiting _ some_ =>
    have kept := sound.kept index member
    rw [visiting] at kept
    refine kept_phase kept rfl kept.visited ?_ (by simp)
    intro same
    obtain rfl := Phase.writing.inj same
    exact some_
  | finish current visiting behind =>
    have kept := sound.kept index member
    rw [visiting] at kept
    exact kept_phase kept rfl (fun _ => kept.visited (Nat.lt_of_lt_of_le member behind)) (by simp)
      (by simp)
  | write current writing =>
    have kept := sound.kept index member
    rw [writing] at kept
    by_cases here : index = current
    · subst here
      simp only [setLogger_same]
      exact kept_write kept
    · simp only [setLogger_other _ _ here]
      refine kept_phase kept rfl ?_ ?_ ?_
      · intro passed
        apply kept.visited
        have near : index ≤ current := by
          split at passed
          · exact passed
          · exact Nat.le_of_lt_succ passed
        exact Nat.lt_of_le_of_ne near here
      · split <;> simp
      · split
        · exact fun same => here (Phase.aborted.inj same).symm
        · simp

/-- Every step of the loggers and of the writer keeps the invariant. -/
theorem step_sound (s : State Message) (label : Label Message) (t : State Message)
    (sound : Sound s) (taken : step s label = .ok t) : Sound t := by
  refine ⟨step_kept sound taken, ?_⟩
  intro index at_
  cases stepped taken with
  | log => exact sound.inside index at_
  | initLog | testRunning | wake | skip | finish => simp at at_
  | found current _ member =>
    obtain rfl : current = index := by simpa using at_
    exact member
  | write current writing =>
    obtain rfl : current = index := by
      rcases at_ with written | stopped
      · simp only at written
        split at written <;> simp at written
      · simp only at stopped
        split at stopped
        · exact Phase.aborted.inj stopped
        · cases stopped
    exact sound.inside current (.inl writing)

/-- So does every run from the registration of the loggers on. -/
theorem run_sound (levels : List Nat) (labels : List (Label Message)) (s : State Message)
    (reached : run step (initial levels) labels = .ok s) : Sound s :=
  Runs.invariant step Sound step_sound labels (initial levels) s (initial_sound levels) reached

/-- A number of lines the file has is a prefix of what was logged. -/
theorem written_prefix {phase : Phase} {index count : Nat} {m : Member Message}
    (kept : Kept phase index m) (written : count ≤ m.file.length) :
    m.logged.take count <+: m.file := by
  rw [← kept.conserved, List.take_append_of_le_length written]
  exact List.take_prefix _ _

/-- In every run, and for every logger of the writer: the lines of its file followed by
those collected are the lines logged to it, in order; every line from before the last
round is in the file, and once the logger has been visited every line from before this
round is.

Proof: a visit holds the mutex from the test to the append, so what it writes is
everything logged to that logger so far. A round ends behind the last logger. -/
theorem lines_written_within_two_rounds (levels : List Nat) (labels : List (Label Message))
    (s : State Message) (reached : run step (initial levels) labels = .ok s) (index : Nat)
    (member : index < s.count) :
    (s.loggers index).file ++ (s.loggers index).container = (s.loggers index).logged ∧
      (s.loggers index).logged.take (s.loggers index).settled <+: (s.loggers index).file ∧
      (s.phase.passed index →
        (s.loggers index).logged.take (s.loggers index).known <+: (s.loggers index).file) := by
  have kept := (run_sound levels labels s reached).kept index member
  exact ⟨kept.conserved, written_prefix kept kept.settled,
    fun passed => written_prefix kept (kept.visited passed)⟩

/-- While the process runs, no fatal logger has written anything and no line of one is
older than the last round, or than this round once the logger has been visited. If the
process has aborted, it has written everything logged to that logger, for the loggers
before it everything from before the round, and for no other fatal logger anything.

Proof: a fatal logger that is found nonempty aborts the process in the same visit. -/
theorem aborts_at_first_fatal_line (levels : List Nat) (labels : List (Label Message))
    (s : State Message) (reached : run step (initial levels) labels = .ok s) :
    (s.phase.alive = true → ∀ index < s.count, (s.loggers index).fatal = true →
      (s.loggers index).file = [] ∧ (s.loggers index).settled = 0 ∧
        (s.phase.passed index → (s.loggers index).known = 0)) ∧
    ∀ index, s.phase = .aborted index →
      (s.loggers index).fatal = true ∧ (s.loggers index).file = (s.loggers index).logged ∧
      (s.loggers index).logged ≠ [] ∧
      (∀ earlier < index, (s.loggers earlier).logged.take (s.loggers earlier).known <+:
        (s.loggers earlier).file) ∧
      ∀ other < s.count, other ≠ index → (s.loggers other).fatal = true →
        (s.loggers other).file = [] := by
  have sound := run_sound levels labels s reached
  constructor
  · intro alive index member fatal
    have kept := sound.kept index member
    have running : s.phase ≠ .aborted index := by
      intro stopped
      rw [stopped] at alive
      cases alive
    have empty := kept.unwritten fatal running
    have settled := kept.settled
    rw [empty] at settled
    refine ⟨empty, Nat.le_zero.mp settled, ?_⟩
    intro passed
    have known := kept.visited passed
    rw [empty] at known
    exact Nat.le_zero.mp known
  · intro index stopped
    have member := sound.inside index (.inr stopped)
    have kept := sound.kept index member
    obtain ⟨fatal, emptied, some_⟩ := kept.aborted stopped
    refine ⟨fatal, ?_, some_, ?_, ?_⟩
    · have whole := kept.conserved
      rw [emptied, List.append_nil] at whole
      exact whole
    · intro earlier before
      have passed := sound.kept earlier (Nat.lt_trans before member)
      refine written_prefix passed (passed.visited ?_)
      rw [stopped]
      exact Nat.le_of_lt before
    · intro other inside different dangerous
      refine (sound.kept other inside).unwritten dangerous ?_
      rw [stopped]
      exact fun same => different (Phase.aborted.inj same).symm

/-- Where the background thread is for one logger alone. -/
def Phase.writer (phase : Phase) (index : Nat) : Logger.Writer Message :=
  match phase with
  | .absent => .absent
  | .atTest => .atTest
  | .sleeping => .sleeping
  | .visiting current => if index < current then .atTest else .sleeping
  | .writing current =>
      if index < current then .atTest else if index = current then .locked else .sleeping
  | .aborted last => if index ≤ last then .atTest else .sleeping

/-- One logger of the writer as a logger of its own. -/
def project (index : Nat) (s : State Message) : Logger.State Message where
  container := (s.loggers index).container
  file := (s.loggers index).file
  logged := (s.loggers index).logged
  running := true
  writer := s.phase.writer index
  destructor := .unstarted
  aborted := decide (s.phase = .aborted index)

/-- A logger of its own is determined by its lines and by where the background thread
is. -/
theorem project_ext {index : Nat} (container : (t.loggers index).container =
      (s.loggers index).container) (file : (t.loggers index).file = (s.loggers index).file)
    (logged : (t.loggers index).logged = (s.loggers index).logged)
    (writer : (t.phase.writer index : Logger.Writer Message) = s.phase.writer index)
    (aborted : t.phase = .aborted index ↔ s.phase = .aborted index) :
    project index t = project index s := by
  simp only [project, container, file, logged, writer, aborted]

/-- A step that is none of this logger's is no step of it. -/
theorem stays (level : Nat) {index : Nat} (same : project index t = project index s) :
    ∃ labels, run (Logger.step level) (project index s) labels = .ok (project index t) :=
  ⟨[], by rw [same]; rfl⟩

/-- The mutex is held only during a write. -/
theorem writer_free {phase : Phase} {index : Nat} (free : phase ≠ .writing index) :
    (phase.writer index : Logger.Writer Message).holds = false := by
  unfold Phase.writer
  split
  case h_5 current =>
    have other : index ≠ current := fun same => free (same ▸ rfl)
    rw [if_neg other]
    split <;> rfl
  case h_1 | h_2 | h_3 => rfl
  case h_4 | h_6 => split <;> rfl

/-- Logging to a logger of the writer is logging to the logger of its own. -/
theorem log_projected {index : Nat} (message : Message) (level : Nat)
    (free : s.phase ≠ .writing index) (alive : s.phase ≠ .aborted index) :
    Logger.step level (project index s) (.log message) =
      .ok (project index (setLogger s index ((s.loggers index).collect message))) := by
  have unlocked : (s.phase.writer index : Logger.Writer Message).holds = false := writer_free free
  simp [Logger.step, project, enabled, alive, unlocked, setLogger, Member.collect]

/-- A write is a swap and an append of the logger of its own. -/
theorem write_projected {index : Nat} (writing : s.phase = .writing index) :
    run (Logger.step (s.loggers index).level) (project index s) [.swap, .append] =
      .ok (project index { setLogger s index (s.loggers index).write with
        phase := if (s.loggers index).fatal then .aborted index else .visiting (index + 1) }) := by
  by_cases fatal : 6 ≤ (s.loggers index).level
  · simp [run, project, Logger.step, Logger.touched, writing, Phase.writer, enabled, setLogger,
      Member.write, Member.fatal, fatal]
  · simp [run, project, Logger.step, Logger.touched, writing, Phase.writer, enabled, setLogger,
      Member.write, Member.fatal, fatal]

/-- Each step of the writer is, for each of its loggers, one or two steps of that logger
alone, or none. -/
theorem step_projected {label : Label Message} (index : Nat) (member : index < s.count)
    (taken : step s label = .ok t) :
    ∃ labels, run (Logger.step (s.loggers index).level) (project index s) labels =
      .ok (project index t) := by
  cases stepped taken with
  | log target message _ free alive =>
    have running : s.phase ≠ .aborted index := by
      intro stopped
      rw [stopped] at alive
      cases alive
    by_cases here : index = target
    · subst here
      exact ⟨[.log message], by rw [run_single]; exact log_projected message _ free running⟩
    · apply stays
      apply project_ext <;> simp [setLogger, here]
  | initLog absent =>
    refine ⟨[.initLog], ?_⟩
    simp [run_single, project, Logger.step, absent, Phase.writer, enabled]
  | testRunning testing =>
    refine ⟨[.testRunning], ?_⟩
    simp [run_single, project, Logger.step, testing, Phase.writer, enabled]
  | wake sleeping =>
    apply stays
    apply project_ext <;> simp [Member.begin, sleeping, Phase.writer]
  | skip current visiting _ empty =>
    by_cases here : index = current
    · subst here
      refine ⟨[.lock], ?_⟩
      simp [run_single, project, Logger.step, Logger.touched, visiting, Phase.writer, enabled, empty]
    · apply stays
      have same : index < current + 1 ↔ index < current := by omega
      apply project_ext <;> simp [visiting, Phase.writer, same]
  | found current visiting _ some_ =>
    by_cases here : index = current
    · subst here
      refine ⟨[.lock], ?_⟩
      simp [run_single, project, Logger.step, Logger.touched, visiting, Phase.writer, enabled, some_]
    · apply stays
      apply project_ext <;> simp [visiting, Phase.writer, here]
  | finish current visiting behind =>
    have before : index < current := Nat.lt_of_lt_of_le member behind
    apply stays
    apply project_ext <;> simp [visiting, Phase.writer, before]
  | write current writing =>
    by_cases here : index = current
    · subst here
      exact ⟨[.swap, .append], write_projected writing⟩
    · apply stays
      have same : index < current + 1 ↔ index < current := by omega
      have near : index ≤ current ↔ index < current := by omega
      have other : current ≠ index := fun same => here same.symm
      by_cases fatal : (s.loggers current).fatal = true
      · apply project_ext <;>
          simp [setLogger, writing, Phase.writer, here, near, fatal, other]
      · apply project_ext <;> simp [setLogger, writing, Phase.writer, here, same, fatal]

/-- No step changes a level or registers a logger. -/
theorem step_registered {label : Label Message} (taken : step s label = .ok t) (index : Nat) :
    (t.loggers index).level = (s.loggers index).level ∧ t.count = s.count := by
  cases stepped taken with
  | log target | write target =>
    refine ⟨?_, rfl⟩
    by_cases here : index = target
    · subst here
      simp [Member.collect, Member.write]
    · simp [setLogger, here]
  | initLog | testRunning | wake | skip | found | finish => exact ⟨rfl, rfl⟩

/-- Before the first message each logger is a fresh logger of its own. -/
theorem project_initial (levels : List Nat) (index : Nat) :
    project index (initial levels : State Message) = Logger.initial := by
  simp [project, initial, Logger.initial, Phase.writer]

/-- In every run of the writer each registered logger goes through a run of a single
logger of its level that ends with the same file, the same container and the same lines
logged: loggers that share a writer do not disturb each other.

Proof: what one logger sees of the writer is a state of the single logger, and each step
of the writer is matched by its own test, its swap and append, or nothing. -/
theorem each_logger_alone (levels : List Nat) (labels : List (Label Message)) (s : State Message)
    (reached : run step (initial levels) labels = .ok s) (index : Nat)
    (member : index < levels.length) :
    ∃ own alone, run (Logger.step (levels.getD index 0)) Logger.initial own = .ok alone ∧
      alone.file = (s.loggers index).file ∧ alone.container = (s.loggers index).container ∧
      alone.logged = (s.loggers index).logged ∧
      (alone.aborted = true ↔ s.phase = .aborted index) := by
  obtain ⟨own, alone, simulated, ⟨rfl, _⟩⟩ := simulated step (Logger.step (levels.getD index 0))
    (fun s alone => alone = project index s ∧ (s.loggers index).level = levels.getD index 0 ∧
      index < s.count) (by
      rintro s label t _ ⟨rfl, level, inside⟩ taken
      obtain ⟨steps, matched⟩ := step_projected index inside taken
      obtain ⟨kept, registered⟩ := step_registered taken index
      exact ⟨steps, _, level ▸ matched, rfl, kept.trans level, registered ▸ inside⟩)
    labels (initial levels) s Logger.initial ⟨(project_initial levels index).symm, rfl, member⟩
    reached
  exact ⟨own, _, simulated, rfl, rfl, rfl, by simp [project]⟩

end Laws

/-- A debug line is written, an error behind the background thread is not, and the fatal
line ends the process. -/
def fatalLine : List (Label Nat) :=
  [.initLog, .testRunning, .log 1 7, .wake, .visit, .visit, .write, .visit, .visit, .visit,
    .log 4 8, .log 5 9, .visit, .write]

/-- The debug line of this run is in its file, having been logged before the round
began. -/
theorem lines_written_fatalLine :
    ∃ s : State Nat, run step (initial registered) fatalLine = .ok s ∧
      [7].take 1 <+: (s.loggers 1).file := by
  have computed : (run step (initial registered) fatalLine).map (fun s =>
      ((s.loggers 1).logged, (s.loggers 1).known, s.count, s.phase)) =
      .ok ([7], 1, 8, .aborted 5) := by
    decide +kernel
  obtain ⟨s, reached, observed⟩ := (map_returned _ _ _).mp computed
  obtain ⟨logged, known, count, phase⟩ : (s.loggers 1).logged = [7] ∧ (s.loggers 1).known = 1 ∧
      s.count = 8 ∧ s.phase = .aborted 5 := by simpa using observed
  have kept := (lines_written_within_two_rounds registered fatalLine s reached 1
    (by rw [count]; decide)).2.2
  rw [phase, logged, known] at kept
  exact ⟨s, reached, kept (by simp [Phase.passed])⟩

/-- The fatal line is in its file at the abort, the error line behind it is in none. -/
theorem aborts_at_fatalLine :
    ∃ s : State Nat, run step (initial registered) fatalLine = .ok s ∧ s.phase = .aborted 5 ∧
      (s.loggers 5).file = (s.loggers 5).logged ∧ (s.loggers 4).file = [] ∧
      (s.loggers 4).logged = [8] := by
  have computed : (run step (initial registered) fatalLine).map (fun s =>
      (s.phase, (s.loggers 4).file, (s.loggers 4).logged)) = .ok (.aborted 5, [], [8]) := by
    decide +kernel
  obtain ⟨s, reached, observed⟩ := (map_returned _ _ _).mp computed
  obtain ⟨phase, file, logged⟩ : s.phase = .aborted 5 ∧ (s.loggers 4).file = [] ∧
      (s.loggers 4).logged = [8] := by simpa using observed
  have written := ((aborts_at_first_fatal_line registered fatalLine s reached).2 5 phase).2.1
  exact ⟨s, reached, phase, written, file, logged⟩

/-- The fatal logger of this run aborts as a logger of its own would. -/
theorem each_logger_alone_fatalLine :
    ∃ own alone, run (Logger.step 6) Logger.initial own = .ok alone ∧ alone.file = [9] ∧
      alone.aborted = true := by
  have computed : (run step (initial registered) fatalLine).map (fun s =>
      ((s.loggers 5).file, s.phase)) = .ok ([9], .aborted 5) := by
    decide +kernel
  obtain ⟨s, reached, observed⟩ := (map_returned _ _ _).mp computed
  obtain ⟨file, phase⟩ := Prod.mk.inj observed
  obtain ⟨own, alone, simulated, same, _, _, aborted⟩ :=
    each_logger_alone registered fatalLine s reached 5 (by decide)
  exact ⟨own, alone, simulated, same.trans file, aborted.mpr phase⟩

end ReactorNetwork.LogWritter
