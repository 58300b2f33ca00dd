import ReactorNetwork.QuitRequests

/-!
# A loop on a thread of its own

An `EventLoopThread` starts a thread whose function constructs an `EventLoop` on
its stack, publishes its address in `loop_`, runs it and destroys it on return.
The owner starts the thread at most once, gets the address when it is published,
and destroys the object at any time outside `start_loop`.

Nobody but the two threads knows the address before `start_loop` returns it.
After that any thread may call into the loop while it exists, the loop thread
from its callbacks and functors. The loop itself is the machine of the event
loop. What a call that was made in time does after the loop is gone is not
followed.

Calling into a loop through a null pointer or after its destruction has no
defined behaviour; the run ends there with the fault of a refused access.
-/

namespace ReactorNetwork.EventLoopThread

open Runs

/-- Whether the `EventLoop` of `thread_func` exists. -/
inductive Lifetime where
  | unborn
  | alive
  | destroyed
deriving DecidableEq, Repr

/-- What `thread_func` does next. -/
inductive Phase where
  | unstarted
  | constructing
  | publishing
  | entering
  | looping
  | leaving
  | finished
deriving DecidableEq, Repr

/-- Where the owner is. -/
inductive Owner where
  | idle
  | waiting
  | started
  | joining
  | gone
deriving DecidableEq, Repr

/-- `published` says that `loop_` is not null; `returned` is the lifetime of the
loop at the return of `start_loop`. -/
structure State (Thread Functor : Type) where
  owner : Owner
  phase : Phase
  exiting : Bool
  published : Bool
  lifetime : Lifetime
  loop : EventLoop.State Thread Functor
  returned : Option Lifetime

/-- A step of the owner, of the loop's thread, or of the loop while it runs. -/
inductive Label (Thread Functor : Type) where
  | startLoop
  | construct
  | publish
  | startReturn
  | loop (label : EventLoop.Label Thread Functor)
  | finish
  | destruct
  | join

variable {Thread Functor : Type}

/-- The constructor. There is no loop yet. -/
def initial : State Thread Functor where
  owner := .idle
  phase := .unstarted
  exiting := false
  published := false
  lifetime := .unborn
  loop := EventLoop.initial
  returned := none

/-- The address of the loop has been handed out and the loop exists. -/
def State.reachable (s : State Thread Functor) : Prop :=
  (s.owner = .started ∨ s.owner = .joining) ∧ s.lifetime = .alive

instance (s : State Thread Functor) : Decidable s.reachable :=
  inferInstanceAs (Decidable (_ ∧ _))

variable [DecidableEq Thread]

/-- The thread that calls into the loop with this step. -/
def caller : EventLoop.Label Thread Functor → Option Thread
  | .push thread _ | .test thread | .wakeup thread | .quit thread => some thread
  | _ => none

/-- The loop thread runs `loop` once; it calls into the loop only from there. -/
def mayStep (loopThread : Thread) (s : State Thread Functor)
    (label : EventLoop.Label Thread Functor) : Bool :=
  match caller label, label with
  | some thread, _ => decide s.reachable && (decide (thread ≠ loopThread) || s.phase == .looping)
  | none, .enterLoop => s.phase == .entering
  | none, _ => s.phase == .looping

/-- Entering and leaving `loop` move `thread_func` on. -/
def phaseAfter (phase : Phase) : EventLoop.Label Thread Functor → Phase
  | .enterLoop => .looping
  | .leaveLoop => .leaving
  | _ => phase

/-- A step of the owner, of `thread_func` or inside the loop. -/
def step (owner loopThread : Thread) (s : State Thread Functor) :
    Label Thread Functor → Outcome (State Thread Functor)
  | .startLoop => do
      enabled (s.owner = .idle)
      pure { s with owner := .waiting, phase := .constructing }
  | .construct => do
      enabled (s.phase = .constructing)
      pure { s with phase := .publishing, lifetime := .alive, loop := EventLoop.initial }
  | .publish => do
      enabled (s.phase = .publishing)
      pure { s with phase := .entering, published := true }
  | .startReturn => do
      enabled (s.owner = .waiting ∧ s.published = true)
      pure { s with owner := .started, returned := some s.lifetime }
  | .loop label => do
      enabled (mayStep loopThread s label = true)
      let next ← EventLoop.step loopThread s.loop label
      pure { s with loop := next, phase := phaseAfter s.phase label }
  | .finish => do
      enabled (s.phase = .leaving)
      require (s.loop.looping = false)
      pure { s with phase := .finished, lifetime := .destroyed }
  | .destruct => do
      enabled (s.owner = .idle ∨ s.owner = .started)
      -- `loop_->quit()`, with no test of `loop_` before it
      accessed (if s.published = true ∧ s.lifetime = .alive then some () else none)
      let next ← EventLoop.step loopThread s.loop (.quit owner)
      pure { s with owner := .joining, exiting := true, loop := next }
  | .join => do
      enabled (s.owner = .joining ∧ (s.phase = .unstarted ∨ s.phase = .finished))
      pure { s with owner := .gone }

/-- The loop exists from its construction to the return of `thread_func`. -/
def lifetimeOf : Phase → Lifetime
  | .unstarted | .constructing => .unborn
  | .finished => .destroyed
  | _ => .alive

/-- `loop_` is set once and never cleared. -/
def publishedIn : Phase → Bool
  | .unstarted | .constructing | .publishing => false
  | _ => true

/-- How far the two threads can be apart. While the owner waits in `start_loop`
nobody can ask the loop to quit. -/
structure Sound (s : State Thread Functor) : Prop where
  lifetime : s.lifetime = lifetimeOf s.phase
  published : s.published = publishedIn s.phase
  idle : s.owner = .idle ↔ s.phase = .unstarted
  waiting : s.owner = .waiting → s.phase ≠ .leaving ∧ s.phase ≠ .finished
  unasked : s.owner = .idle ∨ s.owner = .waiting → s.loop.quit = false
  started : s.owner = .started → s.published = true
  returned : s.returned = none ∨ s.returned = some .alive

omit [DecidableEq Thread] in
/-- Before the start neither thread has done anything. -/
theorem initial_sound : Sound (initial : State Thread Functor) where
  lifetime := rfl
  published := rfl
  idle := by simp [initial]
  waiting := by simp [initial]
  unasked := fun _ => rfl
  started := by simp [initial]
  returned := Or.inl rfl

variable {owner loopThread : Thread} {s t : State Thread Functor}

/-- `loop` returns only when it was asked to. -/
theorem leaveLoop_set {inner next : EventLoop.State Thread Functor}
    (taken : EventLoop.step loopThread inner .leaveLoop = .ok next) : inner.quit = true := by
  simp only [EventLoop.step, bind_ok, enabled_ok] at taken
  obtain ⟨_, _, moved⟩ := taken
  cases at_ : inner.position with
  | atTest =>
    simp only [EventLoop.loopStep, at_, bind_ok, enabled_ok] at moved
    obtain ⟨_, asked, _⟩ := moved
    exact asked
  | _ => simp [EventLoop.loopStep, at_] at moved

/-- A step inside the loop: what it needs of `thread_func` and the owner. -/
inductive Inner (s : State Thread Functor) : EventLoop.Label Thread Functor → Prop where
  | called (label : EventLoop.Label Thread Functor) (stays : phaseAfter s.phase label = s.phase)
      (reachable : s.reachable) : Inner s label
  | entered (entering : s.phase = .entering) : Inner s .enterLoop
  | left (looping : s.phase = .looping) : Inner s .leaveLoop
  | moved (label : EventLoop.Label Thread Functor) (stays : phaseAfter s.phase label = s.phase)
      (keeps : QuitRequests.stored s.loop.quit label = s.loop.quit)
      (looping : s.phase = .looping) : Inner s label

/-- A step that is possible needs one of these. -/
theorem inner_of_mayStep {label : EventLoop.Label Thread Functor}
    (may : mayStep loopThread s label = true) : Inner s label := by
  cases label with
  | push thread functor | test thread | wakeup thread | quit thread =>
    simp only [mayStep, caller, Bool.and_eq_true, decide_eq_true_eq] at may
    exact .called _ rfl may.1
  | enterLoop =>
    simp only [mayStep, caller, beq_iff_eq] at may
    exact .entered may
  | leaveLoop =>
    simp only [mayStep, caller, beq_iff_eq] at may
    exact .left may
  | _ =>
    simp only [mayStep, caller, beq_iff_eq] at may
    exact .moved _ rfl rfl may

/-- A step inside the loop keeps the two threads together. -/
theorem inner_sound (sound : Sound s) {label : EventLoop.Label Thread Functor}
    {next : EventLoop.State Thread Functor} (may : mayStep loopThread s label = true)
    (taken : EventLoop.step loopThread s.loop label = .ok next) :
    Sound { s with loop := next, phase := phaseAfter s.phase label } := by
  have quit := QuitRequests.step_quit taken
  cases inner_of_mayStep may with
  | called label stays reachable =>
    rw [stays]
    have handedOut : ¬ (s.owner = .idle ∨ s.owner = .waiting) := by
      rcases reachable.1 with started | joining
      · simp [started]
      · simp [joining]
    exact ⟨sound.lifetime, sound.published, sound.idle, sound.waiting,
      fun early => absurd early handedOut, sound.started, sound.returned⟩
  | entered entering =>
    have lifetime := sound.lifetime
    have published := sound.published
    have idle := sound.idle
    rw [entering] at lifetime published idle
    exact ⟨lifetime, published, by simpa [phaseAfter] using idle,
      fun _ => ⟨by simp [phaseAfter], by simp [phaseAfter]⟩, fun _ => quit, sound.started,
      sound.returned⟩
  | left looping =>
    have lifetime := sound.lifetime
    have published := sound.published
    have idle := sound.idle
    rw [looping] at lifetime published idle
    have asked : ¬ (s.owner = .idle ∨ s.owner = .waiting) := fun early =>
      absurd ((leaveLoop_set taken).symm.trans (sound.unasked early)) (by decide)
    exact ⟨lifetime, published, by simpa [phaseAfter] using idle,
      fun waiting => absurd (Or.inr waiting) asked, fun early => absurd early asked,
      sound.started, sound.returned⟩
  | moved label stays keeps looping =>
    rw [stays]
    exact ⟨sound.lifetime, sound.published, sound.idle, sound.waiting,
      fun early => quit.trans (keeps.trans (sound.unasked early)), sound.started, sound.returned⟩

/-- Every step of the two threads keeps them together. -/
theorem step_sound (label : Label Thread Functor) (sound : Sound s)
    (taken : step owner loopThread s label = .ok t) : Sound t := by
  obtain ⟨lifetime, published, idle, waiting, unasked, started, returned⟩ := sound
  cases label with
  | startLoop =>
    simp only [step, bind_ok, enabled_ok, pure_ok] at taken
    obtain ⟨_, free, rfl⟩ := taken
    rw [idle.mp free] at lifetime published
    exact ⟨lifetime, published, by simp, by simp, fun _ => unasked (Or.inl free), by simp, returned⟩
  | construct =>
    simp only [step, bind_ok, enabled_ok, pure_ok] at taken
    obtain ⟨_, constructing, rfl⟩ := taken
    rw [constructing] at published idle
    exact ⟨rfl, published, by simpa using idle, by simp, fun _ => rfl, started, returned⟩
  | publish =>
    simp only [step, bind_ok, enabled_ok, pure_ok] at taken
    obtain ⟨_, publishing, rfl⟩ := taken
    rw [publishing] at lifetime idle
    exact ⟨lifetime, rfl, by simpa using idle, by simp, unasked, fun _ => rfl, returned⟩
  | startReturn =>
    simp only [step, bind_ok, enabled_ok, pure_ok] at taken
    obtain ⟨_, ⟨waits, set_⟩, rfl⟩ := taken
    have busy : s.phase ≠ .unstarted := fun unstarted => by
      cases waits.symm.trans (idle.mpr unstarted)
    have alive : s.lifetime = .alive := by
      rw [lifetime]
      rw [published] at set_
      cases phase : s.phase with
      | finished => exact absurd phase (waiting waits).2
      | unstarted | constructing | publishing => simp [phase, publishedIn] at set_
      | _ => rfl
    exact ⟨lifetime, published, by simp [busy], by simp, by simp, fun _ => set_,
      Or.inr (congrArg some alive)⟩
  | loop label =>
    simp only [step, bind_ok, enabled_ok, pure_ok] at taken
    obtain ⟨_, may, next, moved, rfl⟩ := taken
    exact inner_sound ⟨lifetime, published, idle, waiting, unasked, started, returned⟩ may moved
  | finish =>
    simp only [step, bind_ok, enabled_ok, require_ok, pure_ok] at taken
    obtain ⟨_, leaving, _, _, rfl⟩ := taken
    have notWaiting : s.owner ≠ .waiting := fun waits => absurd leaving (waiting waits).1
    rw [leaving] at published idle
    exact ⟨rfl, published, by simpa using idle, fun waits => absurd waits notWaiting, unasked,
      started, returned⟩
  | destruct =>
    simp only [step, bind_ok, enabled_ok, accessed_ok, pure_ok] at taken
    obtain ⟨_, _, _, found, next, _, rfl⟩ := taken
    have set_ : s.published = true := by
      by_contra unset
      simp [unset] at found
    have busy : s.phase ≠ .unstarted := fun unstarted => by
      simp [published, unstarted, publishedIn] at set_
    exact ⟨lifetime, published, by simp [busy], by simp, by simp, by simp, returned⟩
  | join =>
    simp only [step, bind_ok, enabled_ok, pure_ok] at taken
    obtain ⟨_, ⟨joining, _⟩, rfl⟩ := taken
    have busy : s.phase ≠ .unstarted := fun unstarted => by
      cases joining.symm.trans (idle.mpr unstarted)
    exact ⟨lifetime, published, by simp [busy], by simp, by simp, by simp, returned⟩

/-- Nothing inside the loop is a refused access. -/
theorem loop_accesses (inner : EventLoop.State Thread Functor)
    (label : EventLoop.Label Thread Functor) :
    EventLoop.step loopThread inner label ≠ .error .outOfBounds := by
  intro failed
  unfold EventLoop.step at failed
  split at failed
  case h_5 =>
    rcases (bind_error _ _ _).mp failed with refused | ⟨_, _, moved⟩
    · cases ((enabled_error _ _).mp refused).2
    · unfold EventLoop.loopStep at moved
      split at moved
      case h_10 =>
        split at moved
        · cases moved
        · cases moved
      all_goals simp [bind_error, enabled_error, require_error, pure, Except.pure] at moved
  all_goals simp [EventLoop.callStep, bind_error, enabled_error, pure, Except.pure] at failed

/-- The object is destroyed after `start_loop` was called and before `thread_func`
has returned. -/
def destroyedInTime (s : State Thread Functor) : Label Thread Functor → Prop
  | .destruct => s.owner ≠ .idle ∧ (s.owner = .started → s.phase ≠ .finished)
  | _ => True

omit [DecidableEq Thread] in
/-- A started loop exists until `thread_func` returns. -/
theorem alive_iff (sound : Sound s) (started : s.owner = .started) :
    s.lifetime = .alive ↔ s.phase ≠ .finished := by
  have set_ := sound.published.symm.trans (sound.started started)
  rw [sound.lifetime]
  cases phase : s.phase with
  | unstarted | constructing | publishing => simp [phase, publishedIn] at set_
  | _ => simp [lifetimeOf]

/-- The destructor calls into no loop exactly when it runs too early or too late,
and nothing else does. -/
theorem step_refused (sound : Sound s) (label : Label Thread Functor) :
    step owner loopThread s label = .error .outOfBounds ↔ ¬ destroyedInTime s label := by
  have inside : ∀ label, EventLoop.step loopThread s.loop label ≠ .error .outOfBounds :=
    loop_accesses s.loop
  cases label with
  | loop label =>
    simp [step, destroyedInTime, bind_error, enabled_error, inside, pure, Except.pure]
  | destruct =>
    cases at_ : s.owner with
    | idle =>
      have unset : s.published = false := by
        rw [sound.published, sound.idle.mp at_]
        rfl
      simp [step, destroyedInTime, at_, unset, bind_error, enabled, accessed]
    | started =>
      have alive := alive_iff sound at_
      have set_ := sound.started at_
      by_cases finished : s.phase = .finished
      · have dead : s.lifetime ≠ .alive := fun lives => alive.mp lives finished
        simp [step, destroyedInTime, at_, finished, dead, bind_error, enabled, accessed]
      · have lives := alive.mpr finished
        simp [step, destroyedInTime, at_, finished, lives, set_, bind_error, enabled, accessed,
          inside, pure, Except.pure]
    | _ => simp [step, destroyedInTime, at_, bind_error, enabled]
  | _ =>
    simp [step, destroyedInTime, bind_error, enabled_error, require_error, pure, Except.pure]

/-- No call goes into a loop that does not exist, and whatever `start_loop`
returned was an existing loop. -/
def TouchesLive (owner loopThread : Thread) (labels : List (Label Thread Functor)) : Prop :=
  run (step owner loopThread) initial labels ≠ .error .outOfBounds ∧
    ∀ before after s, labels = before ++ after →
      run (step owner loopThread) initial before = .ok s →
      ∀ lifetime, s.returned = some lifetime → lifetime = .alive

/-- An `EventLoopThread` touches live loops only, exactly in the runs in which it
is destroyed after it was started and before its thread function returns. This is about
the call of `quit` itself: its second half, a `wakeup` that may come when the loop has
returned in the meantime and is gone, is left out, and `join` does not wait for it.

Proof: while the owner waits in `start_loop` nobody can ask the loop to quit, so
the loop exists when its address is returned. From then on it exists until
`thread_func` returns, and the destructor is the only step that calls into it
without knowing. -/
theorem touches_live_iff (owner loopThread : Thread) (labels : List (Label Thread Functor)) :
    TouchesLive owner loopThread labels ↔
      Along (step owner loopThread) destroyedInTime initial labels := by
  have unfailing := unfailing_iff (step owner loopThread) destroyedInTime .outOfBounds Sound
    (fun _ label _ sound taken => step_sound label sound taken)
    (fun _ label sound => step_refused sound label) labels initial initial_sound
  constructor
  · intro live
    exact unfailing.mp live.1
  · intro inTime
    refine ⟨unfailing.mpr inTime, ?_⟩
    intro before after s _ reached lifetime returned
    have sound := invariant (step owner loopThread) Sound
      (fun _ label _ sound taken => step_sound label sound taken) before initial s initial_sound
      reached
    rcases sound.returned with none | alive
    · cases returned.symm.trans none
    · exact Option.some.inj (returned.symm.trans alive)

/-- The thread is started and its loop told to quit by a functor. -/
def quitByFunctor : List (Label Nat Nat) :=
  [.startLoop, .construct, .publish, .startReturn, .loop (.push 1 7), .loop (.test 1),
    .loop (.wakeup 1), .loop .enterLoop, .loop .enterPoll, .loop (.pollReturn []),
    .loop .raiseFlag, .loop .swap, .loop .beginFunctor, .loop (.quit 0), .loop .finishFunctor,
    .loop .lowerFlag, .loop .leaveLoop]

/-- The destructor of a thread that was never started calls through a null
pointer; the one of a thread whose loop was quit by a functor calls into a
destroyed loop. The owner is thread 1, the loop thread is thread 0. -/
theorem destroyed_too_early_or_too_late :
    ¬ TouchesLive 1 0 ([.destruct] : List (Label Nat Nat)) ∧
      ¬ TouchesLive 1 0 (quitByFunctor ++ [.finish, .destruct]) := by
  have early : (run (step 1 0) (initial : State Nat Nat) [.destruct]).map (fun _ => ()) =
      .error .outOfBounds := by decide +kernel
  have late : (run (step 1 0) initial (quitByFunctor ++ [.finish, .destruct])).map (fun _ => ()) =
      .error .outOfBounds := by decide +kernel
  constructor
  · intro live
    exact live.1 ((map_failed _ _ _).mp early)
  · intro live
    exact live.1 ((map_failed _ _ _).mp late)

end ReactorNetwork.EventLoopThread
