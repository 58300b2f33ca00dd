import ReactorNetwork.Machine

/-!
# The event loop of the current thread

Each thread has a pointer to its event loop. The constructor sets it if it is null and
otherwise only logs that another loop exists in the thread; the new loop is there all the
same, until the log's writer gets to the line and aborts. The destructor sets the pointer of
the thread it runs in to null, whichever loop the pointer names.

So `get_event_loop_of_current_thread` names the thread's live loop in every state exactly
when no thread has two loops at once and each loop is destroyed by the thread that made it.
For the pointer not to dangle the last is enough, and only for the loops it names.
-/

namespace ReactorNetwork.LoopRegistry

open Runs

variable {Thread Loop : Type} [DecidableEq Thread] [DecidableEq Loop]

/-- `owner` gives the thread of a live loop; `another` records the loops that were
constructed beside another. -/
structure State (Thread Loop : Type) where
  current : Thread → Option Loop
  owner : Loop → Option Thread
  another : List Loop

/-- A thread constructs a loop, or destroys one. -/
inductive Label (Thread Loop : Type) where
  | construct (thread : Thread) (loop : Loop)
  | destroy (thread : Thread) (loop : Loop)

/-- No loop was constructed yet. -/
def initial : State Thread Loop where
  current := fun _ => none
  owner := fun _ => none
  another := []

/-- `get_event_loop_of_current_thread`. -/
def getEventLoopOfCurrentThread (s : State Thread Loop) (thread : Thread) : Option Loop :=
  s.current thread

/-- The constructor and the destructor of `EventLoop`, as far as `t_loopInThisThread`
goes. -/
def step (s : State Thread Loop) : Label Thread Loop → Outcome (State Thread Loop)
  | .construct thread loop => do
      enabled (s.owner loop = none)
      let constructed := { s with owner := Function.update s.owner loop (some thread) }
      match s.current thread with
      | some _ => pure { constructed with another := s.another ++ [loop] }
      | none =>
          pure { constructed with current := Function.update s.current thread (some loop) }
  | .destroy thread loop => do
      enabled (s.owner loop ≠ none)
      pure { s with
        owner := Function.update s.owner loop none
        current := Function.update s.current thread none }

/-- The pointer of a thread names its live loop. -/
def Exact (s : State Thread Loop) : Prop :=
  ∀ thread loop, getEventLoopOfCurrentThread s thread = some loop ↔ s.owner loop = some thread

/-- The pointer of a thread names a live loop of the thread, or nothing. -/
def Sound (s : State Thread Loop) : Prop :=
  ∀ thread loop, getEventLoopOfCurrentThread s thread = some loop → s.owner loop = some thread

/-- A loop is constructed in a thread that has none, and destroyed by its own thread. -/
def Proper (s : State Thread Loop) : Label Thread Loop → Prop
  | .construct thread _ => ∀ other, s.owner other ≠ some thread
  | .destroy thread loop => s.owner loop = some thread

/-- A loop that its thread's pointer names is destroyed by that thread. -/
def AtHome (s : State Thread Loop) : Label Thread Loop → Prop
  | .construct _ _ => True
  | .destroy thread loop => ∀ home, getEventLoopOfCurrentThread s home = some loop → home = thread

/-- What each step finds and leaves. -/
inductive Stepped (s : State Thread Loop) : Label Thread Loop → State Thread Loop → Prop where
  | first (thread : Thread) (loop : Loop) (fresh : s.owner loop = none)
      (unset : s.current thread = none) :
      Stepped s (.construct thread loop) { s with
        owner := Function.update s.owner loop (some thread)
        current := Function.update s.current thread (some loop) }
  | second (thread : Thread) (loop other : Loop) (fresh : s.owner loop = none)
      (set : s.current thread = some other) :
      Stepped s (.construct thread loop) { s with
        owner := Function.update s.owner loop (some thread)
        another := s.another ++ [loop] }
  | destroy (thread : Thread) (loop : Loop) (live : s.owner loop ≠ none) :
      Stepped s (.destroy thread loop) { s with
        owner := Function.update s.owner loop none
        current := Function.update s.current thread none }

section Laws

variable {s t : State Thread Loop}

/-- A step that returns is one of the cases above. -/
theorem stepped {label : Label Thread Loop} (taken : step s label = .ok t) :
    Stepped s label t := by
  cases label with
  | construct thread loop =>
    obtain ⟨_, fresh, continued⟩ := (bind_ok _ _ _).mp taken
    have fresh := (enabled_ok _ _).mp fresh
    split at continued
    case h_1 other set =>
      obtain rfl := (pure_ok _ _).mp continued
      exact .second thread loop other fresh set
    case h_2 unset =>
      obtain rfl := (pure_ok _ _).mp continued
      exact .first thread loop fresh unset
  | destroy thread loop =>
    obtain ⟨_, live, same⟩ := (bind_ok _ _ _).mp taken
    obtain rfl := (pure_ok _ _).mp same
    exact .destroy thread loop ((enabled_ok _ _).mp live)

omit [DecidableEq Thread] in
/-- A loop that is not live is none of those that are. -/
theorem owner_kept {fresh live : Loop} {place : Thread} (owned : Option Thread)
    (absent : s.owner fresh = none) (present : s.owner live = some place) :
    Function.update s.owner fresh owned live = some place := by
  have different : live ≠ fresh := by
    rintro rfl
    rw [absent] at present
    cases present
  rw [Function.update_of_ne different, present]

/-- A construction keeps the pointers sound, and so does a destruction of a loop that no
other thread's pointer names. -/
theorem sound_kept (s : State Thread Loop) (label : Label Thread Loop) (t : State Thread Loop)
    (sound : Sound s) (home : AtHome s label) (taken : step s label = .ok t) : Sound t := by
  intro place named found
  simp only [getEventLoopOfCurrentThread] at found
  cases stepped taken with
  | first thread loop fresh unset =>
    dsimp only at found ⊢
    rw [Function.update_apply] at found
    split at found
    case isTrue here =>
      obtain rfl := Option.some.inj found
      rw [here, Function.update_self]
    case isFalse => exact owner_kept _ fresh (sound place named found)
  | second thread loop other fresh set => exact owner_kept _ fresh (sound place named found)
  | destroy thread loop live =>
    dsimp only at found ⊢
    rw [Function.update_apply] at found
    split at found
    case isTrue => cases found
    case isFalse elsewhere =>
      have different : named ≠ loop := by
        rintro rfl
        exact elsewhere (home place found)
      rw [Function.update_of_ne different]
      exact sound place named found

-- The pointer of the thread that made the loop still names it.
/-- Otherwise the pointer of the thread that made the loop still names it. -/
theorem sound_broken (s : State Thread Loop) (label : Label Thread Loop) (t : State Thread Loop)
    (_ : Sound s) (away : ¬ AtHome s label) (taken : step s label = .ok t) : ¬ Sound t := by
  cases stepped taken with
  | first thread loop => exact absurd trivial away
  | second thread loop => exact absurd trivial away
  | destroy thread loop live =>
    intro sound
    simp only [AtHome, not_forall] at away
    obtain ⟨home, named, elsewhere⟩ := away
    have dangling := sound home loop (by
      simp only [getEventLoopOfCurrentThread] at named ⊢
      rw [Function.update_of_ne elsewhere, named])
    simp only [Function.update_self] at dangling
    cases dangling

/-- A construction in a thread without a loop and a destruction by the loop's own thread
keep every pointer exact. -/
theorem exact_kept (s : State Thread Loop) (label : Label Thread Loop) (t : State Thread Loop)
    (matching : Exact s) (proper : Proper s label) (taken : step s label = .ok t) : Exact t := by
  intro place named
  have before := matching place named
  simp only [getEventLoopOfCurrentThread] at before ⊢
  cases stepped taken with
  | first thread loop fresh unset =>
    dsimp only
    by_cases here : place = thread
    · subst here
      rw [Function.update_self]
      by_cases same : named = loop
      · rw [same, Function.update_self]
        simp
      · rw [Function.update_of_ne same]
        exact ⟨fun found => absurd (Option.some.inj found).symm same,
          fun owned => absurd owned (proper named)⟩
    · rw [Function.update_of_ne here, before]
      by_cases same : named = loop
      · rw [same, Function.update_self, fresh]
        simp [Ne.symm here]
      · rw [Function.update_of_ne same]
  | second thread loop other fresh set =>
    exact absurd ((matching thread other).mp set) (proper other)
  | destroy thread loop live =>
    have pointed := (matching thread loop).mpr proper
    simp only [getEventLoopOfCurrentThread] at pointed ⊢
    by_cases here : place = thread
    · subst here
      rw [Function.update_self]
      by_cases same : named = loop
      · rw [same, Function.update_self]
        simp
      · rw [Function.update_of_ne same, ← before, pointed]
        simp [Ne.symm same]
    · rw [Function.update_of_ne here, before]
      by_cases same : named = loop
      · rw [same, Function.update_self, proper]
        simp [Ne.symm here]
      · rw [Function.update_of_ne same]

/-- Any other step leaves a live loop that its thread's pointer does not name, or a
pointer to a loop that is gone. -/
theorem exact_broken (s : State Thread Loop) (label : Label Thread Loop) (t : State Thread Loop)
    (matching : Exact s) (improper : ¬ Proper s label) (taken : step s label = .ok t) :
    ¬ Exact t := by
  intro still
  cases stepped taken with
  | first thread loop fresh unset =>
    simp only [Proper, not_forall, not_not] at improper
    obtain ⟨other, owned⟩ := improper
    have set := (matching thread other).mpr owned
    rw [getEventLoopOfCurrentThread, unset] at set
    cases set
  | second thread loop other fresh set =>
    have renamed := (still thread loop).mpr (Function.update_self ..)
    have same := Option.some.inj (set.symm.trans renamed)
    have owned := (matching thread other).mp set
    rw [same, fresh] at owned
    cases owned
  | destroy thread loop live =>
    obtain ⟨home, owned⟩ := Option.ne_none_iff_exists'.mp live
    have elsewhere : home ≠ thread := fun same => improper (same ▸ owned)
    have dangling := (still home loop).mp (by
      simp only [getEventLoopOfCurrentThread]
      rw [Function.update_of_ne elsewhere]
      exact (matching home loop).mpr owned)
    simp only [Function.update_self] at dangling
    cases dangling

end Laws

/-- Throughout a run, each thread's pointer names its live loop exactly when the run is
proper, and dangles nowhere exactly when no named loop is destroyed by another thread. -/
theorem current_loop_exact_iff {labels : List (Label Thread Loop)} {s : State Thread Loop}
    (reached : run step initial labels = .ok s) :
    (Throughout step Exact initial labels ↔ Along step Proper initial labels) ∧
      (Throughout step Sound initial labels ↔ Along step AtHome initial labels) := by
  have exactness : Exact (initial : State Thread Loop) := by
    intro thread loop
    simp [getEventLoopOfCurrentThread, initial]
  have soundly : Sound (initial : State Thread Loop) := fun thread loop =>
    (exactness thread loop).mp
  exact ⟨throughout_iff step Proper Exact exact_kept exact_broken labels initial s exactness reached,
    throughout_iff step AtHome Sound sound_kept sound_broken labels initial s soundly reached⟩

instance decidableProper {n m : Nat} (s : State (Fin n) (Fin m)) :
    ∀ label, Decidable (Proper s label)
  | .construct thread _ => inferInstanceAs (Decidable (∀ other, s.owner other ≠ some thread))
  | .destroy thread loop => inferInstanceAs (Decidable (s.owner loop = some thread))

instance decidableAtHome {n m : Nat} (s : State (Fin n) (Fin m)) :
    ∀ label, Decidable (AtHome s label)
  | .construct _ _ => inferInstanceAs (Decidable True)
  | .destroy thread loop =>
      inferInstanceAs (Decidable (∀ home, s.current home = some loop → home = thread))

/-- A second loop in one thread, and its destructor there: the pointer forgets the first. -/
def beside : List (Label (Fin 2) (Fin 3)) :=
  [.construct 1 0, .construct 1 2, .destroy 1 2]

/-- The destructor of a second loop in one thread unsets the pointer that names the
first: it dangles nowhere, and is no longer exact. -/
theorem current_loop_beside :
    ∃ s, run step initial beside = .ok s ∧ s.owner 0 = some 1 ∧
      getEventLoopOfCurrentThread s 1 = none ∧
      ¬ Throughout step Exact initial beside ∧ Throughout step Sound initial beside := by
  have computed : (run step initial beside).map
      (fun s => (s.owner 0, getEventLoopOfCurrentThread s 1)) = .ok (some 1, none) := by
    decide +kernel
  obtain ⟨s, reached, found⟩ := (map_returned _ _ _).mp computed
  obtain ⟨exactness, soundly⟩ := current_loop_exact_iff reached
  refine ⟨s, reached, congrArg Prod.fst found, congrArg Prod.snd found, ?_, ?_⟩
  · have improper : ¬ Along step Proper initial beside := by decide +kernel
    exact fun throughout => improper (exactness.mp throughout)
  · have home : Along step AtHome initial beside := by decide +kernel
    exact soundly.mpr home

end ReactorNetwork.LoopRegistry
