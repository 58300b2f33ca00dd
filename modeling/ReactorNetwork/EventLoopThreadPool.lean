import Mathlib.Data.List.Range
import ReactorNetwork.Machine

/-!
# Starting a pool of loop threads

`start` makes one thread object in each iteration, moves its owning pointer into
`threads_` and then starts the thread through the local pointer, to store the
loop it returns in `loops_`. A moved-from `std::unique_ptr` is null, so the first
iteration dereferences a null pointer: a pool starts completely only if it has no
threads.

Objects are kept in the order of their construction and a pointer is the index
of its object. The address of a thread's loop, on the stack of that thread, is
supplied by the environment; how `start_loop` waits for it belongs to the model
of a single thread.
-/

namespace ReactorNetwork.EventLoopThreadPool

/-- A `std::unique_ptr` to an object of the heap. -/
abbrev UniquePtr := Option Nat

/-- `std::move` takes what a pointer owns and leaves it null. -/
def move (pointer : UniquePtr) : UniquePtr × UniquePtr := (pointer, none)

/-- An `EventLoopThread`: how often it was started, and `loop_`. -/
structure EventLoopThread (Loop : Type) where
  starts : Nat
  loop : Option Loop
deriving DecidableEq, Repr

/-- The pool and the thread objects made so far. -/
structure State (Loop : Type) where
  objects : List (EventLoopThread Loop)
  started : Bool
  numThreads : Int
  threads : List UniquePtr
  loops : List Loop
deriving DecidableEq, Repr

variable {Loop : Type}

/-- The constructor. -/
def create : State Loop where
  objects := []
  started := false
  numThreads := 0
  threads := []
  loops := []

/-- `set_thread_num`. -/
def setThreadNum (s : State Loop) (numThreads : Int) : State Loop :=
  { s with numThreads := numThreads }

/-- `std::make_unique<EventLoopThread>`. -/
def makeUnique (s : State Loop) : State Loop × UniquePtr :=
  ({ s with objects := s.objects ++ [⟨0, none⟩] }, some s.objects.length)

/-- Through a pointer: give the object a thread, wait until that has published its
loop, and return it. Giving a thread to an object that has one ends the process. -/
def startLoop (s : State Loop) (pointer : UniquePtr) (published : Loop) :
    Outcome (State Loop × Loop) := do
  let id ← accessed pointer
  let object ← accessed s.objects[id]?
  require (object.starts = 0)
  pure ({ s with objects := s.objects.set id ⟨object.starts + 1, some published⟩ }, published)

/-- The body of the loop in `start`. -/
def startOne (published : Nat → Loop) (s : State Loop) (i : Nat) : Outcome (State Loop) := do
  let (made, t) := makeUnique s
  let (moved, t) := move t
  let stored := { made with threads := made.threads ++ [moved] }
  let (running, loop) ← startLoop stored t (published i)
  pure { running with loops := running.loops ++ [loop] }

/-- `assert_in_loop_thread` only logs. -/
def start (published : Nat → Loop) (s : State Loop) : Outcome (State Loop) := do
  require (s.started = false)
  (List.range s.numThreads.toNat).foldlM (startOne published) { s with started := true }

/-- The thread object at one place of `threads_` was started once, and the loop it
returned is at the same place of `loops_`. -/
def StartedOnce (s : State Loop) (i : Nat) : Prop :=
  ∃ id object loop, s.threads[i]? = some (some id) ∧ s.objects[id]? = some object ∧
    object.starts = 1 ∧ object.loop = some loop ∧ s.loops[i]? = some loop

/-- The call returned, with both vectors filled and every thread started once. -/
def Complete (numThreads : Nat) (outcome : Outcome (State Loop)) : Prop :=
  ∃ s, outcome = .ok s ∧ s.threads.length = numThreads ∧ s.loops.length = numThreads ∧
    ∀ i < numThreads, StartedOnce s i

/-- No iteration returns: the pointer that is dereferenced has been moved from. -/
theorem startOne_refused (published : Nat → Loop) (s : State Loop) (i : Nat) :
    startOne published s i = .error .outOfBounds := rfl

-- Through the pointer that owns the object the same call returns.
example : startLoop (⟨[⟨0, none⟩], true, 1, [some 0], []⟩ : State Nat) (some 0) 7 =
    .ok (⟨[⟨1, some 7⟩], true, 1, [some 0], []⟩, 7) := by decide

/-- A pool of at least one thread uses the moved pointer in its first iteration. -/
theorem start_refused (published : Nat → Loop) (numThreads : Nat) :
    start published (setThreadNum create (numThreads + 1 : Nat)) = .error .outOfBounds := by
  have fresh : (setThreadNum (create : State Loop) (numThreads + 1 : Nat)).started = false := rfl
  rw [start, require_passed fresh]
  simp only [setThreadNum, Int.toNat_natCast, List.range_succ_eq_map, List.foldlM_cons,
    startOne_refused]
  rfl

/-- A pool starts completely exactly when it has no threads. -/
theorem start_complete_iff (published : Nat → Loop) (numThreads : Nat) :
    Complete numThreads (start published (setThreadNum create numThreads)) ↔ numThreads = 0 := by
  constructor
  · rintro ⟨s, returned, _⟩
    cases numThreads with
    | zero => rfl
    | succ fewer =>
      rw [start_refused] at returned
      cases returned
  · rintro rfl
    refine ⟨{ create with started := true }, rfl, rfl, rfl, ?_⟩
    intro i inside
    exact absurd inside (Nat.not_lt_zero i)

/-- A pool of one thread does not start. -/
theorem single_thread_refused :
    start (fun i => i) (setThreadNum create 1) = .error .outOfBounds ∧
      ¬ Complete 1 (start (fun i => i) (setThreadNum create 1)) := by
  have refused : start (fun i => i) (setThreadNum create 1) = .error .outOfBounds := by
    decide +kernel
  refine ⟨refused, ?_⟩
  rintro ⟨s, returned, _⟩
  rw [refused] at returned
  cases returned

end ReactorNetwork.EventLoopThreadPool
